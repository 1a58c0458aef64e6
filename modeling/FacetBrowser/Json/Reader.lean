import FacetBrowser.Json.Skip
import FacetBrowser.Json.Value

namespace FacetBrowser.Json

abbrev Reader (α : Type) := Nat → List Char → Except Fault (α × List Char)

def depthLimit : Nat := 127

def Reader.run {α : Type} (reader : Reader α) (text : String) : Except Fault α := do
  let (value, rest) ← reader depthLimit text.toList
  if (skipBlanks rest).isEmpty then .ok value else .error .trailingCharacters

def reject {α : Type} (wanted : String) : List Char → Except Fault α
  | 'n' :: cs => do
    let _ ← scanWord ['u', 'l', 'l'] cs
    .error (.wrongKind .null wanted)
  | 't' :: cs => do
    let _ ← scanWord ['r', 'u', 'e'] cs
    .error (.wrongKind (.bool true) wanted)
  | 'f' :: cs => do
    let _ ← scanWord ['a', 'l', 's', 'e'] cs
    .error (.wrongKind (.bool false) wanted)
  | '"' :: cs => do
    let (value, _) ← scanString cs
    .error (.wrongKind (.string value) wanted)
  | '-' :: cs => do
    let (value, _) ← scanNumber true cs
    .error (.wrongKind (.number value) wanted)
  | '[' :: _ => .error (.wrongKind .sequence wanted)
  | '\x7b' :: _ => .error (.wrongKind .map wanted)
  | c :: cs =>
    if c.isDigit then do
      let (value, _) ← scanNumber false (c :: cs)
      .error (.wrongKind (.number value) wanted)
    else .error .valueExpected
  | [] => .error .endInValue

def string : Reader String := fun _ cs =>
  match skipBlanks cs with
  | '"' :: cs => scanString cs
  | cs => reject "a string" cs

def countOf (wanted : String) (rest : List Char) : Number → Except Fault (UInt64 × List Char)
  | .integer value =>
    if value < 0 then .error (.wrongValue value wanted) else .ok (UInt64.ofNat value.toNat, rest)
  | value => .error (.wrongKind (.number value) wanted)

def count : Reader UInt64 := fun _ cs =>
  match skipBlanks cs with
  | '-' :: cs => do
    let (value, rest) ← scanNumber true cs
    countOf "u64" rest value
  | c :: cs =>
    if c.isDigit then do
      let (value, rest) ← scanNumber false (c :: cs)
      countOf "u64" rest value
    else reject "u64" (c :: cs)
  | [] => .error .endInValue

def nextItem (first : Bool) (cs : List Char) : Except Fault (Bool × List Char) :=
  match skipBlanks cs with
  | [] => .error .endInList
  | ']' :: cs => .ok (false, ']' :: cs)
  | c :: cs =>
    if first then .ok (true, c :: cs)
    else if c = ',' then
      match skipBlanks cs with
      | [] => .error .endInValue
      | ']' :: _ => .error .trailingComma
      | cs => .ok (true, cs)
    else .error .listCommaExpected

def closeList (cs : List Char) : Except Fault (List Char) :=
  match skipBlanks cs with
  | [] => .error .endInList
  | ']' :: cs => .ok cs
  | ',' :: cs =>
    match skipBlanks cs with
    | ']' :: _ => .error .trailingComma
    | _ => .error .trailingCharacters
  | _ => .error .trailingCharacters

def items {α : Type} (item : List Char → Except Fault (α × List Char)) :
    Bool → List Char → List Char → Except Fault (List α × List Char)
  | _, [], _ => .error .endInList
  | first, _ :: fuel, cs => do
    let (more, cs) ← nextItem first cs
    if more then
      let (value, cs) ← item cs
      let (values, cs) ← items item false fuel cs
      .ok (value :: values, cs)
    else .ok ([], ← closeList cs)

def list {α : Type} (item : Reader α) : Reader (List α) := fun depth cs =>
  match skipBlanks cs, depth with
  | '[' :: _, 0 => .error .tooDeep
  | '[' :: cs, depth + 1 => items (item depth) true cs cs
  | cs, _ => reject "a sequence" cs

def nextKey (first : Bool) (cs : List Char) : Except Fault (Option String × List Char) :=
  match skipBlanks cs with
  | [] => .error .endInObject
  | '\x7d' :: cs => .ok (none, cs)
  | c :: cs =>
    if first then
      if c = '"' then do
        let (key, cs) ← scanString cs
        .ok (some key, cs)
      else .error .keyNotString
    else if c = ',' then
      match skipBlanks cs with
      | [] => .error .endInValue
      | '"' :: cs => do
        let (key, cs) ← scanString cs
        .ok (some key, cs)
      | '\x7d' :: _ => .error .trailingComma
      | _ => .error .keyNotString
    else .error .objectCommaExpected

def colon (cs : List Char) : Except Fault (List Char) :=
  match skipBlanks cs with
  | [] => .error .endInObject
  | ':' :: cs => .ok cs
  | _ => .error .colonExpected

def entries {α : Type} (item : List Char → Except Fault (α × List Char)) :
    Bool → List Char → List (String × α) → List Char →
      Except Fault (List (String × α) × List Char)
  | _, [], _, _ => .error .endInObject
  | first, _ :: fuel, known, cs => do
    match ← nextKey first cs with
    | (none, cs) => .ok (known, cs)
    | (some key, cs) =>
      let (value, cs) ← item (← colon cs)
      entries item false fuel (insertField key value known) cs

def map {α : Type} (item : Reader α) : Reader (List (String × α)) := fun depth cs =>
  match skipBlanks cs, depth with
  | '\x7b' :: _, 0 => .error .tooDeep
  | '\x7b' :: cs, depth + 1 => entries (item depth) true cs [] cs
  | cs, _ => reject "a map" cs

def value : Reader Value := fun depth cs =>
  match skipBlanks cs with
  | [] => .error .endInValue
  | 'n' :: cs => do .ok (.null, ← scanWord ['u', 'l', 'l'] cs)
  | 't' :: cs => do .ok (.bool true, ← scanWord ['r', 'u', 'e'] cs)
  | 'f' :: cs => do .ok (.bool false, ← scanWord ['a', 'l', 's', 'e'] cs)
  | '"' :: cs => do
    let (text, cs) ← scanString cs
    .ok (.string text, cs)
  | '-' :: cs => do
    let (number, cs) ← scanNumber true cs
    .ok (.number number, cs)
  | '[' :: cs =>
    match depth with
    | 0 => .error .tooDeep
    | depth + 1 => do
      let (values, cs) ← items (value depth) true cs cs
      .ok (.array values, cs)
  | '\x7b' :: cs =>
    match depth with
    | 0 => .error .tooDeep
    | depth + 1 => do
      let (fields, cs) ← entries (value depth) true cs [] cs
      .ok (.object fields, cs)
  | c :: cs =>
    if c.isDigit then do
      let (number, cs) ← scanNumber false (c :: cs)
      .ok (.number number, cs)
    else .error .valueExpected

structure Field (δ : Type) where
  name : String
  given : δ → Bool
  read : δ → Reader δ
  optional : Bool

def Field.slot {δ α : Type} (name : String) (reader : Reader α) (get : δ → Option α)
    (set : δ → α → δ) (optional : Bool) : Field δ where
  name := name
  given := fun draft => (get draft).isSome
  read := fun draft depth cs => do
    let (value, cs) ← reader depth cs
    .ok (set draft value, cs)
  optional := optional

structure Shape (δ α : Type) where
  name : String
  blank : δ
  fields : List (Field δ)
  finish : δ → Except Fault α

namespace Shape

variable {δ α : Type}

def wanted (shape : Shape δ α) : String :=
  "struct " ++ shape.name

def objectFields (shape : Shape δ α) (depth : Nat) :
    Bool → List Char → δ → List Char → Except Fault (δ × List Char)
  | _, [], _, _ => .error .endInObject
  | first, _ :: fuel, draft, cs => do
    match ← nextKey first cs with
    | (none, cs) => .ok (draft, cs)
    | (some key, cs) =>
      match shape.fields.find? (·.name = key) with
      | none => shape.objectFields depth false fuel draft (← skipValue (← colon cs))
      | some field =>
        if field.given draft then .error (.duplicateField key)
        else
          let (draft, cs) ← field.read draft depth (← colon cs)
          shape.objectFields depth false fuel draft cs

def listFields (shape : Shape δ α) (depth : Nat) :
    List (Field δ) → Nat → δ → List Char → Except Fault (δ × List Char)
  | [], _, draft, cs => do .ok (draft, ← closeList cs)
  | field :: fields, position, draft, cs => do
    let (more, cs) ← nextItem (position = 0) cs
    if more then
      let (draft, cs) ← field.read draft depth cs
      shape.listFields depth fields (position + 1) draft cs
    else if field.optional then shape.listFields depth fields (position + 1) draft cs
    else
      .error (.tooShort position
        (shape.wanted ++ " with " ++ toString shape.fields.length ++ " elements"))

def reader (shape : Shape δ α) : Reader α := fun depth cs =>
  match skipBlanks cs, depth with
  | '[' :: _, 0 => .error .tooDeep
  | '\x7b' :: _, 0 => .error .tooDeep
  | '[' :: cs, depth + 1 => do
    let (draft, cs) ← shape.listFields depth shape.fields 0 shape.blank cs
    .ok (← shape.finish draft, cs)
  | '\x7b' :: cs, depth + 1 => do
    let (draft, cs) ← shape.objectFields depth true cs shape.blank cs
    .ok (← shape.finish draft, cs)
  | cs, _ => reject shape.wanted cs

end Shape

def required {α : Type} (name : String) : Option α → Except Fault α
  | some value => .ok value
  | none => .error (.missingField name)

end FacetBrowser.Json
