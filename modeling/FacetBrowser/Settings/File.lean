import FacetBrowser.Settings.Basic
import FacetBrowser.Yaml.Node

namespace FacetBrowser

namespace Settings

open Yaml (Document)

def scalarText? (d : Document) (node : Yaml.Node) : Option String :=
  match d.resolve node with
  | .scalar _ _ text => some text
  | _ => none

def sequence? (d : Document) (node : Yaml.Node) : Option (List Yaml.Node) :=
  match d.resolve node with
  | .sequence items => some items
  | .scalar .plain _ "" => some []
  | _ => none

def mapping? (d : Document) (node : Yaml.Node) : Option (List (Yaml.Node × Yaml.Node)) :=
  match d.resolve node with
  | .mapping fields => some fields
  | .scalar .plain _ "" => some []
  | _ => none

def isPadded : List Char → Bool
  | '0' :: c :: cs => (c :: cs).all Char.isDigit
  | _ => false

def based? : List Char → Option Nat
  | '0' :: 'x' :: cs => Text.numberIn? 16 cs
  | '0' :: 'o' :: cs => Text.numberIn? 8 cs
  | '0' :: 'b' :: cs => Text.numberIn? 2 cs
  | _ => none

def unsigned? (cs : List Char) : Option Nat :=
  (based? cs).or (if isPadded cs then none else Text.numberIn? 10 cs)

def number? (text : String) : Option UInt64 := do
  let n ← match text.toList with
    | '+' :: cs => unsigned? cs
    | cs => unsigned? cs
  if n < UInt64.size then some (UInt64.ofNat n) else none

def integerTag : Yaml.Tag :=
  "tag:yaml.org,2002:int".toUTF8.toList

def numberOf? (d : Document) (node : Yaml.Node) : Option UInt64 :=
  match d.resolve node with
  | .scalar .plain _ text => number? text
  | .scalar .literal tag text => if tag = some integerTag then number? text else none
  | _ => none

def isNothing (text : String) : Bool :=
  ["", "~", "null", "Null", "NULL"].contains text

def localName? : Yaml.Tag → Option String
  | 0x21 :: name => String.fromUTF8? name.toByteArray
  | _ => none

def wireFormatOf? (d : Document) (node : Yaml.Node) : Option WireFormat :=
  match d.resolve node with
  | .scalar style tag text =>
    match tag.bind localName? with
    | some name => if style = .plain && isNothing text then WireFormat.named? name else none
    | none => WireFormat.named? text
  | _ => none

def readFields {α : Type} (d : Document) (put : String → Yaml.Node → α → Option α) :
    List String → List (Yaml.Node × Yaml.Node) → α → Option α
  | _, [], a => some a
  | seen, (key, value) :: fields, a => do
    let name ← scalarText? d key
    if name ∈ seen then none
    else readFields d put (name :: seen) fields (← put name value a)

def putService (d : Document) (name : String) (value : Yaml.Node) (s : Service) : Option Service :=
  if name = "base_url" then (scalarText? d value).map ({ s with baseUrl := · })
  else if name = "wire_format" then (wireFormatOf? d value).map ({ s with wireFormat := · })
  else if name = "sample_size" then (numberOf? d value).map ({ s with sampleSize := · })
  else if name = "group_page_size" then (numberOf? d value).map ({ s with groupPageSize := · })
  else if name = "timeout_secs" then (numberOf? d value).map ({ s with timeoutSecs := · })
  else none

def put (d : Document) (name : String) (value : Yaml.Node) (s : Settings) : Option Settings := do
  if name = "gateway" then
    let service ← readFields d (putService d) [] (← mapping? d value) Service.standard
    some { s with service := service }
  else if name = "attributes" then
    let attributes ← (← sequence? d value).mapM (scalarText? d)
    some { s with attributes := attributes }
  else if name = "item_link_template" then
    let itemLink ← scalarText? d value
    some { s with itemLink := itemLink }
  else none

inductive FileFault where
  | malformed
  | unusable (fault : SettingsFault)
  deriving DecidableEq, Repr

def FileFault.message : FileFault → String
  | .malformed => "malformed settings"
  | .unusable fault => fault.message

def ofDocument? (d : Document) : Option Settings := do
  readFields d (put d) [] (← mapping? d d.root) Settings.standard

def ofText (text : String) : Except FileFault Settings :=
  let settings := match Yaml.document? text with
    | none => none
    | some none => some Settings.standard
    | some (some document) => ofDocument? document
  match settings with
  | none => .error .malformed
  | some s =>
    match s.fault? with
    | some fault => .error (.unusable fault)
    | none => .ok s

end Settings
end FacetBrowser
