import FacetBrowser.Json.Reader
import FacetBrowser.Sample

namespace FacetBrowser

open Json (Value Reader Shape Field Fault)

def idOfNumber (wanted : String) (rest : List Char) :
    Json.Number → Except Fault (String × List Char)
  | .integer value => .ok (String.ofList (Json.integerText value), rest)
  | number => .error (.wrongKind (.number number) wanted)

def itemId : Reader String := fun depth cs =>
  let wanted := "a string or integer item id"
  match Json.skipBlanks cs, depth with
  | '"' :: cs, _ => Json.scanString cs
  | '-' :: cs, _ => do
    let (number, rest) ← Json.scanNumber true cs
    idOfNumber wanted rest number
  | '[' :: _, 0 => .error .tooDeep
  | '\x7b' :: _, 0 => .error .tooDeep
  | c :: cs, _ =>
    if c.isDigit then do
      let (number, rest) ← Json.scanNumber false (c :: cs)
      idOfNumber wanted rest number
    else Json.reject wanted (c :: cs)
  | [], _ => .error .endInValue

namespace Item

def toJson (item : Item) : Value :=
  .object [("id", .string item.id), ("display_path", .string item.path)]

structure Draft where
  id : Option String
  path : Option String

def shape : Shape Draft Item where
  name := "ItemRef"
  blank := ⟨none, none⟩
  fields := [
    .slot "id" itemId (·.id) (fun d x => { d with id := some x }) false,
    .slot "display_path" Json.string (·.path) (fun d x => { d with path := some x }) false]
  finish := fun draft => do
    let id ← Json.required "id" draft.id
    let path ← Json.required "display_path" draft.path
    .ok ⟨id, path⟩

end Item

namespace Sample

def toJson (s : Sample) : Value :=
  .object [("count", .ofNat s.count.toNat), ("items", .array (s.items.map Item.toJson))]

structure Draft where
  count : Option UInt64
  items : Option (List Item)

def shape : Shape Draft Sample where
  name := "SampleResult"
  blank := ⟨none, none⟩
  fields := [
    .slot "count" Json.count (·.count) (fun d x => { d with count := some x }) false,
    .slot "items" (Json.list Item.shape.reader) (·.items)
      (fun d x => { d with items := some x }) false]
  finish := fun draft => do
    let count ← Json.required "count" draft.count
    let items ← Json.required "items" draft.items
    .ok ⟨count, items⟩

end Sample

namespace Group

def toJson (g : Group) : Value :=
  .object [("value", .string g.value), ("count", .ofNat g.count.toNat)]

structure Draft where
  value : Option String
  count : Option UInt64

def shape : Shape Draft Group where
  name := "FacetGroup"
  blank := ⟨none, none⟩
  fields := [
    .slot "value" Json.string (·.value) (fun d x => { d with value := some x }) false,
    .slot "count" Json.count (·.count) (fun d x => { d with count := some x }) false]
  finish := fun draft => do
    let value ← Json.required "value" draft.value
    let count ← Json.required "count" draft.count
    .ok ⟨value, count⟩

end Group

namespace Grouping

def toJson (g : Grouping) : Value :=
  .object [("count", .ofNat g.count.toNat), ("groups", .array (g.groups.map Group.toJson)),
    ("leaf_sample", g.ungrouped.toJson)]

structure Draft where
  count : Option UInt64
  groups : Option (List Group)
  ungrouped : Option Sample

def shape : Shape Draft Grouping where
  name := "GroupResult"
  blank := ⟨none, none, none⟩
  fields := [
    .slot "count" Json.count (·.count) (fun d x => { d with count := some x }) false,
    .slot "groups" (Json.list Group.shape.reader) (·.groups)
      (fun d x => { d with groups := some x }) false,
    .slot "leaf_sample" Sample.shape.reader (·.ungrouped)
      (fun d x => { d with ungrouped := some x }) false]
  finish := fun draft => do
    let count ← Json.required "count" draft.count
    let groups ← Json.required "groups" draft.groups
    let ungrouped ← Json.required "leaf_sample" draft.ungrouped
    .ok ⟨count, groups, ungrouped⟩

end Grouping
end FacetBrowser
