import FacetBrowser.Filter.Parser
import FacetBrowser.Interchange
import FacetBrowser.Source

namespace FacetBrowser

structure Record where
  id : String
  path : String
  attributes : Attributes
  deriving DecidableEq, Repr

def Record.item (r : Record) : Item :=
  ⟨r.id, r.path⟩

structure Tally where
  key : String
  label : String
  count : Nat
  deriving DecidableEq, Repr

namespace Tally

def add (key label : String) : List Tally → List Tally
  | [] => [⟨key, label, 1⟩]
  | t :: ts =>
    if key < t.key then ⟨key, label, 1⟩ :: t :: ts
    else if key = t.key then { t with count := t.count + 1 } :: ts
    else t :: add key label ts

def ofValues (values : List String) : List Tally :=
  values.foldl (fun ts value => add (Text.lower value) value ts) []

def insertRanked (t : Tally) : List Tally → List Tally
  | [] => [t]
  | u :: us => if u.count ≤ t.count then t :: u :: us else u :: insertRanked t us

def ranked (ts : List Tally) : List Tally :=
  ts.foldr insertRanked []

def group (t : Tally) : Group :=
  ⟨t.label, UInt64.ofNat t.count⟩

end Tally

structure Collection where
  records : List Record
  sampleSize : UInt64
  groupPageSize : UInt64

namespace Collection

def defaultPageSize : UInt64 := 25

def ofRecords (records : List Record) : Collection :=
  ⟨records, defaultPageSize, defaultPageSize⟩

def select (c : Collection) (q : Query) : Except SourceError (List Record) :=
  match Filter.parse q.text with
  | .ok filter => .ok (c.records.filter fun r => filter.holds r.attributes)
  | .error fault =>
    let reason := Text.trimEnd (fault.message q.text.toList).toList
    .error (.transport ("query rejected: " ++ String.ofList reason))

def sampleOf (c : Collection) (found : List Record) : Sample :=
  ⟨UInt64.ofNat found.length, (found.take c.sampleSize.toNat).map Record.item⟩

def groupsOf (c : Collection) (found : List Record) (facet : String) : List Group :=
  let values := found.filterMap fun r => r.attributes.lookup facet
  ((Tally.ranked (Tally.ofValues values)).take c.groupPageSize.toNat).map Tally.group

def sample (c : Collection) (q : Query) : Except SourceError Sample := do
  .ok (c.sampleOf (← c.select q))

def group (c : Collection) (q : Query) (facet : String) : Except SourceError Grouping := do
  let found ← c.select q
  let ungrouped ← c.select (q.and (.absent facet))
  .ok ⟨UInt64.ofNat found.length, c.groupsOf found facet, c.sampleOf ungrouped⟩

def source (c : Collection) : Source :=
  ⟨c.sample, c.group⟩

end Collection

namespace Record

open Json (Value Reader Shape)

def valueText? : Value → Option String
  | .null => none
  | .string text => some text
  | value => some (String.ofList value.compact)

def readAttributes : Reader Attributes := fun depth cs => do
  let (fields, cs) ← Json.map Json.value depth cs
  .ok (fields.filterMap fun (name, value) => (valueText? value).map (name, ·), cs)

structure Draft where
  id : Option String
  path : Option String
  attributes : Option Attributes

def shape : Shape Draft Record where
  name := "DatasetRecord"
  blank := ⟨none, none, none⟩
  fields := [
    .slot "id" itemId (·.id) (fun d x => { d with id := some x }) false,
    .slot "path" Json.string (·.path) (fun d x => { d with path := some x }) false,
    .slot "attributes" readAttributes (·.attributes)
      (fun d x => { d with attributes := some x }) true]
  finish := fun draft => do
    let id ← Json.required "id" draft.id
    let path ← Json.required "path" draft.path
    .ok ⟨id, path, draft.attributes.getD []⟩

end Record

def Collection.ofJson (text : String) : Except SourceError Collection :=
  match (Json.list Record.shape.reader).run text with
  | .ok records => .ok (ofRecords records)
  | .error fault => .error (.decode fault.message)

end FacetBrowser
