import FacetBrowser.Interchange

namespace FacetBrowser

open Json (Value Reader Shape)

structure Page (α : Type) where
  count : UInt64
  rows : List α

namespace Page

structure Draft (α : Type) where
  count : Option UInt64
  rows : Option (List α)

def shape {α : Type} (row : Reader α) : Shape (Draft α) (Page α) where
  name := "Page"
  blank := ⟨none, none⟩
  fields := [
    .slot "count" Json.count (·.count) (fun d x => { d with count := some x }) false,
    .slot "results" (Json.list row) (·.rows) (fun d x => { d with rows := some x }) true]
  finish := fun draft => do
    let count ← Json.required "count" draft.count
    .ok ⟨count, draft.rows.getD []⟩

end Page

def itemRow : Shape Item.Draft Item where
  name := "DatasetRow"
  blank := ⟨none, none⟩
  fields := [
    .slot "id" itemId (·.id) (fun d x => { d with id := some x }) false,
    .slot "path" Json.string (·.path) (fun d x => { d with path := some x }) false]
  finish := fun draft => do
    let id ← Json.required "id" draft.id
    let path ← Json.required "path" draft.path
    .ok ⟨id, path⟩

structure FacetRow where
  value : Value
  count : UInt64

namespace FacetRow

structure Draft where
  value : Option Value
  count : Option UInt64

def shape : Shape Draft FacetRow where
  name := "FacetRow"
  blank := ⟨none, none⟩
  fields := [
    .slot "facet" Json.value (·.value) (fun d x => { d with value := some x }) false,
    .slot "count" Json.count (·.count) (fun d x => { d with count := some x }) false]
  finish := fun draft => do
    let count ← Json.required "count" draft.count
    .ok ⟨draft.value.getD .null, count⟩

def group? (row : FacetRow) : Option Group :=
  match row.value with
  | .null => none
  | .string text => if row.count = 0 then none else some ⟨text, row.count⟩
  | value => if row.count = 0 then none else some ⟨String.ofList value.compact, row.count⟩

end FacetRow
end FacetBrowser
