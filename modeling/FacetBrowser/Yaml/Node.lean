import FacetBrowser.Yaml.Scanner

namespace FacetBrowser.Yaml

inductive Node where
  | scalar (style : Style) (tag : Option Tag) (text : String)
  | sequence (items : List Node)
  | mapping (fields : List (Node × Node))
  | anchored (number : Nat) (node : Node)
  | alias (number : Nat)

def Node.empty : Node :=
  .scalar .plain none ""

structure Remaining where
  tokens : List Token
  anchors : List (String × Nat)
  handles : List (String × Tag)

namespace Remaining

def drop (r : Remaining) (n : Nat) : Remaining :=
  { r with tokens := r.tokens.drop n }

def next (r : Remaining) : Option Token :=
  r.tokens.head?

def mark (r : Remaining) (name : String) : Nat × Remaining :=
  let number := r.anchors.length
  let others := r.anchors.filter (·.1 ≠ name)
  (number, { r with anchors := (name, number) :: others })

end Remaining

def standardHandles : List (String × Tag) :=
  [("!", "!".toUTF8.toList), ("!!", "tag:yaml.org,2002:".toUTF8.toList)]

def fullTag? (r : Remaining) (handle : String) (suffix : Tag) : Option Tag :=
  if handle = "" then some suffix
  else ((r.handles ++ standardHandles).lookup handle).map (· ++ suffix)

structure Properties where
  anchor : Option String
  tag : Option Tag

def readTag (r : Remaining) : Option (Option Tag × Remaining) :=
  match r.tokens with
  | .tag handle suffix :: _ => do some (some (← fullTag? r handle suffix), r.drop 1)
  | _ => some (none, r)

def readAnchor (r : Remaining) : Option String × Remaining :=
  match r.tokens with
  | .anchor name :: _ => (some name, r.drop 1)
  | _ => (none, r)

def readProperties (r : Remaining) : Option (Properties × Remaining) := do
  let (anchor, r) := readAnchor r
  let (tag, r) ← readTag r
  match anchor with
  | some _ => some (⟨anchor, tag⟩, r)
  | none =>
    let (anchor, r) := if tag.isSome then readAnchor r else (none, r)
    some (⟨anchor, tag⟩, r)

def isMissing (ends : List Token) (r : Remaining) : Bool :=
  match r.next with
  | some token => ends.contains token
  | none => false

mutual

def readNode : Nat → Bool → Bool → Remaining → Option (Node × Remaining)
  | 0, _, _, _ => none
  | fuel + 1, block, indentless, r =>
    match r.tokens with
    | .alias name :: _ => (r.anchors.lookup name).map (.alias ·, r.drop 1)
    | _ => do
      let (properties, r) ← readProperties r
      match properties.anchor with
      | some name =>
        let (number, r) := r.mark name
        let (node, r) ← readContent fuel block indentless properties r
        some (.anchored number node, r)
      | none => readContent fuel block indentless properties r

def readContent : Nat → Bool → Bool → Properties → Remaining → Option (Node × Remaining)
  | 0, _, _, _, _ => none
  | fuel + 1, block, indentless, properties, r =>
    match r.tokens with
    | .scalar style text :: _ => some (.scalar style properties.tag text, r.drop 1)
    | .flowSequenceStart :: _ => do
      let (items, r) ← readFlowItems fuel true (r.drop 1)
      some (.sequence items, r)
    | .flowMappingStart :: _ => do
      let (fields, r) ← readFlowFields fuel true (r.drop 1)
      some (.mapping fields, r)
    | token :: _ =>
      if indentless && token = .blockEntry then do
        let (items, r) ← readEntries fuel true r
        some (.sequence items, r)
      else if block && token = .blockSequenceStart then do
        let (items, r) ← readEntries fuel false (r.drop 1)
        some (.sequence items, r)
      else if block && token = .blockMappingStart then do
        let (fields, r) ← readFields fuel (r.drop 1)
        some (.mapping fields, r)
      else if properties.anchor.isSome || properties.tag.isSome then
        some (.scalar .plain properties.tag "", r)
      else none
    | [] =>
      if properties.anchor.isSome || properties.tag.isSome then
        some (.scalar .plain properties.tag "", r)
      else none

def readEntries : Nat → Bool → Remaining → Option (List Node × Remaining)
  | 0, _, _ => none
  | fuel + 1, indentless, r =>
    match r.tokens with
    | .blockEntry :: _ => do
      let r := r.drop 1
      let ends : List Token :=
        if indentless then [.blockEntry, .key, .value, .blockEnd] else [.blockEntry, .blockEnd]
      let (item, r) ← if isMissing ends r then some (.empty, r) else readNode fuel true false r
      let (items, r) ← readEntries fuel indentless r
      some (item :: items, r)
    | token :: _ =>
      if indentless then some ([], r)
      else if token = .blockEnd then some ([], r.drop 1)
      else none
    | [] => if indentless then some ([], r) else none

def readFields : Nat → Remaining → Option (List (Node × Node) × Remaining)
  | 0, _ => none
  | fuel + 1, r =>
    let ends : List Token := [.key, .value, .blockEnd]
    match r.tokens with
    | .blockEnd :: _ => some ([], r.drop 1)
    | .key :: _ => do
      let r := r.drop 1
      let (key, r) ← if isMissing ends r then some (.empty, r) else readNode fuel true true r
      let (value, r) ← readBlockValue fuel r
      let (fields, r) ← readFields fuel r
      some ((key, value) :: fields, r)
    | _ => none

def readBlockValue : Nat → Remaining → Option (Node × Remaining)
  | 0, _ => none
  | fuel + 1, r =>
    match r.tokens with
    | .value :: _ =>
      let r := r.drop 1
      if isMissing [.key, .value, .blockEnd] r then some (.empty, r)
      else readNode fuel true true r
    | _ => some (.empty, r)

def readFlowItems : Nat → Bool → Remaining → Option (List Node × Remaining)
  | 0, _, _ => none
  | fuel + 1, first, r =>
    match r.tokens with
    | .flowSequenceEnd :: _ => some ([], r.drop 1)
    | _ => do
      let r ←
        if first then some r
        else if r.next = some .flowEntry then some (r.drop 1)
        else none
      match r.tokens with
      | .flowSequenceEnd :: _ => some ([], r.drop 1)
      | .key :: _ =>
        let (key, r) ← readFlowPart fuel [.value, .flowEntry, .flowSequenceEnd] (r.drop 1)
        let (value, r) ← readFlowValue fuel [.flowEntry, .flowSequenceEnd] r
        let (items, r) ← readFlowItems fuel false r
        some (.mapping [(key, value)] :: items, r)
      | _ =>
        let (item, r) ← readNode fuel false false r
        let (items, r) ← readFlowItems fuel false r
        some (item :: items, r)

def readFlowFields : Nat → Bool → Remaining → Option (List (Node × Node) × Remaining)
  | 0, _, _ => none
  | fuel + 1, first, r =>
    match r.tokens with
    | .flowMappingEnd :: _ => some ([], r.drop 1)
    | _ => do
      let r ←
        if first then some r
        else if r.next = some .flowEntry then some (r.drop 1)
        else none
      match r.tokens with
      | .flowMappingEnd :: _ => some ([], r.drop 1)
      | .key :: _ =>
        let (key, r) ← readFlowPart fuel [.value, .flowEntry, .flowMappingEnd] (r.drop 1)
        let (value, r) ← readFlowValue fuel [.flowEntry, .flowMappingEnd] r
        let (fields, r) ← readFlowFields fuel false r
        some ((key, value) :: fields, r)
      | _ =>
        let (key, r) ← readNode fuel false false r
        let (fields, r) ← readFlowFields fuel false r
        some ((key, .empty) :: fields, r)

def readFlowPart : Nat → List Token → Remaining → Option (Node × Remaining)
  | 0, _, _ => none
  | fuel + 1, ends, r => if isMissing ends r then some (.empty, r) else readNode fuel false false r

def readFlowValue : Nat → List Token → Remaining → Option (Node × Remaining)
  | 0, _, _ => none
  | fuel + 1, ends, r =>
    match r.tokens with
    | .value :: _ => readFlowPart fuel ends (r.drop 1)
    | _ => some (.empty, r)

end

def readDirectives : Nat → Bool → Remaining → Option Remaining
  | 0, _, _ => none
  | fuel + 1, versioned, r =>
    match r.tokens with
    | .versionDirective major minor :: _ =>
      if versioned || major ≠ 1 || (minor ≠ 1 && minor ≠ 2) then none
      else readDirectives fuel true (r.drop 1)
    | .tagDirective handle start :: _ =>
      if (r.handles.lookup handle).isSome then none
      else readDirectives fuel versioned { r.drop 1 with handles := (handle, start) :: r.handles }
    | _ => some r

def isDirective : Token → Bool
  | .versionDirective _ _ => true
  | .tagDirective _ _ => true
  | _ => false

def readDocument (fuel : Nat) (r : Remaining) : Option (Node × Remaining) := do
  match r.next with
  | some token =>
    if isDirective token || token = .documentStart then
      let r ← readDirectives fuel false r
      if r.next = some .documentStart then
        let r := r.drop 1
        match r.next with
        | none => some (.empty, r)
        | some token =>
          if isDirective token || token = .documentStart || token = .documentEnd then
            some (.empty, r)
          else readNode fuel true false r
      else none
    else readNode fuel true false r
  | none => none

def dropDocumentEnds (tokens : List Token) : List Token :=
  tokens.dropWhile (· = .documentEnd)

mutual

def Node.anchors : Node → List (Nat × Node)
  | .scalar _ _ _ => []
  | .sequence items => itemAnchors items
  | .mapping fields => fieldAnchors fields
  | .anchored number node => (number, node) :: node.anchors
  | .alias _ => []

def itemAnchors : List Node → List (Nat × Node)
  | [] => []
  | item :: items => item.anchors ++ itemAnchors items

def fieldAnchors : List (Node × Node) → List (Nat × Node)
  | [] => []
  | (key, value) :: fields => key.anchors ++ value.anchors ++ fieldAnchors fields

end

structure Document where
  root : Node
  holders : List (Nat × Node)

namespace Document

def ofRoot (root : Node) : Document :=
  ⟨root, root.anchors.reverse⟩

def resolve (d : Document) : Node → Node
  | .anchored _ node => node
  | .alias number => (d.holders.lookup number).getD .empty
  | node => node

end Document

def document? (text : String) : Option (Option Document) := do
  let tokens ← tokens? text.toList
  if tokens.isEmpty then some none
  else
    let (root, r) ← readDocument (8 * tokens.length + 8) ⟨tokens, [], []⟩
    if (dropDocumentEnds r.tokens).isEmpty then some (some (.ofRoot root)) else none

end FacetBrowser.Yaml
