import FacetBrowser.Address.Host

namespace FacetBrowser

open Address (Host)

structure Authority where
  user : String
  password : Option String
  host : Option Host
  port : Option Nat
  deriving DecidableEq, Repr

structure Address where
  scheme : String
  authority : Option Authority
  path : String
  query : Option String
  fragment : Option String
  deriving DecidableEq, Repr

namespace Authority

def ofHost (host : Option Host) : Authority :=
  ⟨"", none, host, none⟩

def isAnonymous (a : Authority) : Bool :=
  a.user.isEmpty && a.password.isNone

def credentials (a : Authority) : String :=
  if a.isAnonymous then ""
  else a.user ++ (a.password.map (":" ++ ·)).getD "" ++ "@"

def text (a : Authority) : String :=
  a.credentials ++ (a.host.map (·.text)).getD "" ++ (a.port.map (":" ++ toString ·)).getD ""

def withoutCredentials (a : Authority) : Authority :=
  let read (s : String) : Option String :=
    String.fromUTF8? (Text.Percent.decode s.toList).toByteArray
  match read a.user with
  | none => a
  | some user =>
    if user.isEmpty && (a.password.bind read).isNone then a
    else { a with user := "", password := none }

end Authority

namespace Address

def host? (a : Address) : Option Host :=
  a.authority.bind (·.host)

def target (a : Address) : String :=
  a.path ++ (a.query.map ("?" ++ ·)).getD ""

def origin (a : Address) : String :=
  a.scheme ++ ":" ++ match a.authority with
    | some authority => "//" ++ authority.text
    | none => if ['/', '/'].isPrefixOf a.path.toList then "/." else ""

def text (a : Address) : String :=
  a.origin ++ a.target ++ (a.fragment.map ("#" ++ ·)).getD ""

def withoutCredentials (a : Address) : Address :=
  { a with authority := a.authority.map (·.withoutCredentials) }

def isUnreserved (c : Char) : Bool :=
  c.isAlphanum || c = '*' || c = '-' || c = '.' || c = '_'

def argument (s : String) : String :=
  let isKept (c : Char) : Bool := isUnreserved c || c = ' '
  String.ofList ((Text.Percent.encode isKept s.toList).map fun c => if c = ' ' then '+' else c)

def withArguments (a : Address) (arguments : List (String × String)) : Address :=
  let given := (a.query.filter (· ≠ "")).toList
  let more := arguments.map fun (name, value) => argument name ++ "=" ++ argument value
  let query := given ++ more
  { a with query := if query.isEmpty then none else some ("&".intercalate query) }

end Address
end FacetBrowser
