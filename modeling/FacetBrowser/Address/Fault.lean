namespace FacetBrowser

inductive AddressFault where
  | noScheme
  | emptyHost
  | domain
  | hostCharacter
  | ipv4
  | ipv6
  | port
  deriving DecidableEq, Repr

def AddressFault.message : AddressFault → String
  | .noScheme => "relative URL without a base"
  | .emptyHost => "empty host"
  | .domain => "invalid international domain name"
  | .hostCharacter => "invalid domain character"
  | .ipv4 => "invalid IPv4 address"
  | .ipv6 => "invalid IPv6 address"
  | .port => "invalid port number"

end FacetBrowser
