import FacetBrowser.Json.Number
import FacetBrowser.Text.Quoted

namespace FacetBrowser.Json

inductive Value where
  | null
  | bool (value : Bool)
  | number (value : Number)
  | string (value : String)
  | array (items : List Value)
  | object (fields : List (String × Value))

def Value.ofNat (n : Nat) : Value :=
  .number (.integer n)

def escaped (c : Char) : List Char :=
  if c = '"' || c = '\\' then ['\\', c]
  else if c = '\x08' then ['\\', 'b']
  else if c = '\x0c' then ['\\', 'f']
  else if c = '\n' then ['\\', 'n']
  else if c = '\r' then ['\\', 'r']
  else if c = '\t' then ['\\', 't']
  else if c.toNat < 16 then ['\\', 'u', '0', '0', '0'] ++ Text.hex c.toNat
  else if c.toNat < 32 then ['\\', 'u', '0', '0'] ++ Text.hex c.toNat
  else [c]

def stringText (s : String) : List Char :=
  '"' :: s.toList.flatMap escaped ++ ['"']

mutual

def Value.compact : Value → List Char
  | .null => ['n', 'u', 'l', 'l']
  | .bool true => ['t', 'r', 'u', 'e']
  | .bool false => ['f', 'a', 'l', 's', 'e']
  | .number value => value.text
  | .string value => stringText value
  | .array items => '[' :: compactItems items ++ [']']
  | .object fields => '\x7b' :: compactFields fields ++ ['\x7d']

def compactItems : List Value → List Char
  | [] => []
  | [item] => item.compact
  | item :: items => item.compact ++ ',' :: compactItems items

def compactFields : List (String × Value) → List Char
  | [] => []
  | [(name, value)] => stringText name ++ ':' :: value.compact
  | (name, value) :: fields =>
      stringText name ++ ':' :: value.compact ++ ',' :: compactFields fields

end

def indent (level : Nat) : List Char :=
  '\n' :: List.replicate (2 * level) ' '

mutual

def Value.pretty (level : Nat) : Value → List Char
  | .array (item :: items) =>
    '[' :: prettyItems (level + 1) (item :: items) ++ indent level ++ [']']
  | .object (field :: fields) =>
    '\x7b' :: prettyFields (level + 1) (field :: fields) ++ indent level ++ ['\x7d']
  | .array [] => ['[', ']']
  | .object [] => ['\x7b', '\x7d']
  | .null => ['n', 'u', 'l', 'l']
  | .bool true => ['t', 'r', 'u', 'e']
  | .bool false => ['f', 'a', 'l', 's', 'e']
  | .number value => value.text
  | .string value => stringText value

def prettyItems (level : Nat) : List Value → List Char
  | [] => []
  | [item] => indent level ++ item.pretty level
  | item :: items => indent level ++ item.pretty level ++ ',' :: prettyItems level items

def prettyFields (level : Nat) : List (String × Value) → List Char
  | [] => []
  | [(name, value)] => indent level ++ stringText name ++ ':' :: ' ' :: value.pretty level
  | (name, value) :: fields =>
    indent level ++ stringText name ++ ':' :: ' ' :: value.pretty level
      ++ ',' :: prettyFields level fields

end

def insertField {α : Type} (name : String) (value : α) : List (String × α) → List (String × α)
  | [] => [(name, value)]
  | (other, kept) :: fields =>
    if name < other then (name, value) :: (other, kept) :: fields
    else if name = other then (name, value) :: fields
    else (other, kept) :: insertField name value fields

end FacetBrowser.Json
