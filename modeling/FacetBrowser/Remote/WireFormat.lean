import FacetBrowser.Text.Blank
import FacetBrowser.Text.Lowercase

namespace FacetBrowser

inductive WireFormat where
  | plainText
  | json
  deriving DecidableEq, Repr

structure UnknownWireFormat where
  text : String
  deriving DecidableEq, Repr

def UnknownWireFormat.message (e : UnknownWireFormat) : String :=
  "unknown wire format: " ++ e.text

namespace WireFormat

def name : WireFormat → String
  | .plainText => "plain_text"
  | .json => "json"

def ofText (text : String) : Except UnknownWireFormat WireFormat :=
  let plain := Text.lower (Text.trim text)
  if plain = "plain_text" ∨ plain = "plain-text" ∨ plain = "text" then .ok .plainText
  else if plain = "json" then .ok .json
  else .error ⟨plain⟩

def named? (text : String) : Option WireFormat :=
  if text = "plain_text" then some .plainText
  else if text = "json" then some .json
  else none

end WireFormat
end FacetBrowser
