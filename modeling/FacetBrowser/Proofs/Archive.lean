import FacetBrowser.Collection
import FacetBrowser.Proofs.RoundTrip
import FacetBrowser.Remote.Source

namespace FacetBrowser.Archive

open Json

def idValue (id : String) : Value :=
  match Text.readNumeral id with
  | .ok n => if toString n = id then .ofNat n.toNat else .string id
  | .error _ => .string id

def itemValue (item : Item) : Value :=
  .object [("id", idValue item.id), ("path", .string item.path), ("size", .ofNat 1024)]

def facetRow (group : Group) : FacetRow :=
  ⟨.string group.value, group.count⟩

def facetValue (row : FacetRow) : Value :=
  .object [("count", .ofNat row.count.toNat), ("facet", row.value)]

def pageValue (count : UInt64) (rows : List Value) : Value :=
  .object [("count", .ofNat count.toNat), ("next", .null), ("previous", .null),
    ("results", .array rows)]

def pageSize (request : Request) : UInt64 :=
  match (request.arguments.lookup "page_size").map Text.readNumeral with
  | some (.ok size) => size
  | _ => Collection.defaultPageSize

def respond {α : Type} (result : Except SourceError α) (page : α → Value) : Response :=
  match result with
  | .ok a => ⟨200, String.ofList (page a).compact⟩
  | .error e => ⟨400, e.message⟩

def samplePage (records : List Record) (text : String) (size : UInt64) : Response :=
  respond ((Collection.mk records size Collection.defaultPageSize).sample (.ofText text))
    fun sample => pageValue sample.count (sample.items.map itemValue)

def facetPage (records : List Record) (text facet : String) (size : UInt64) : Response :=
  respond ((Collection.mk records Collection.defaultPageSize size).group (.ofText text) facet)
    fun g => pageValue (UInt64.ofNat g.groups.length) ((g.groups.map facetRow).map facetValue)

def textField (name : String) : Value → String
  | .object fields =>
    match fields.lookup name with
    | some (.string text) => text
    | _ => ""
  | _ => ""

def isJson (request : Request) : Bool :=
  match request.contentType with
  | some kind => "application/json".toList.isPrefixOf kind.toList
  | none => false

def facetAndQuery (request : Request) : Except String (String × String) :=
  if isJson request then
    match Json.value.run request.body with
    | .ok body => .ok (textField "facet" body, textField "query" body)
    | .error fault => .error fault.message
  else
    match request.arguments.lookup "column" with
    | some facet => .ok (facet, request.body)
    | none => .error "column query argument is required"

def exchange (records : List Record) : Exchange := fun request =>
  match request.method with
  | .get =>
    if request.path = Remote.itemsPath then .ok (samplePage records "" (pageSize request))
    else .ok ⟨404, ""⟩
  | .post =>
    if request.path = Remote.filterPath then
      .ok (samplePage records request.body (pageSize request))
    else if request.path = Remote.facetPath then
      match facetAndQuery request with
      | .ok (facet, text) => .ok (facetPage records text facet (pageSize request))
      | .error message => .ok ⟨400, message⟩
    else .ok ⟨404, ""⟩

section Rows

variable {depth : Nat}

theorem idValue_cases (id : String) :
    (∃ n : UInt64, idValue id = .ofNat n.toNat ∧ toString n = id) ∨ idValue id = .string id := by
  rw [idValue]
  split
  · rename_i n _
    split
    · rename_i h
      exact Or.inl ⟨n, rfl, h⟩
    · exact Or.inr rfl
  · exact Or.inr rfl

theorem reads_itemId (id : String) : itemId.Reads depth (idValue id).compact id := by
  rcases idValue_cases id with ⟨n, hid, rfl⟩ | hid
  · have htext : toString n = String.ofList (Nat.toDigits 10 n.toNat) :=
      Nat.repr_eq_ofList_toDigits
    rw [hid, compact_ofNat, htext]
    exact reads_id_natural n.toNat_lt depth
  · rw [hid]
    exact reads_id_string id depth

theorem reads_item (item : Item) :
    itemRow.reader.Reads (depth + 1) (itemValue item).compact item := by
  have h : itemRow.Gathers depth itemRow.blank
      [("id", idValue item.id), ("path", .string item.path), ("size", .ofNat 1024)]
      ⟨some item.id, some item.path⟩ := by
    refine .known rfl rfl (reads_slot (reads_itemId item.id) _ _ _ _ _) ?_
    refine .known rfl rfl (reads_slot (reads_string item.path depth) _ _ _ _ _) ?_
    exact .unknown rfl (skips_ofNat 1024) (.done _)
  exact h.reads rfl

theorem reads_facetRow (group : Group) :
    FacetRow.shape.reader.Reads (depth + 1) (facetValue (facetRow group)).compact
      (facetRow group) := by
  have h : FacetRow.shape.Gathers depth FacetRow.shape.blank
      [("count", .ofNat group.count.toNat), ("facet", .string group.value)]
      ⟨some (.string group.value), some group.count⟩ := by
    refine .known rfl rfl (reads_slot (reads_count group.count depth) _ _ _ _ _) ?_
    refine .known rfl rfl (reads_slot (reads_value_string group.value depth) _ _ _ _ _) ?_
    exact .done _
  exact h.reads rfl

theorem reads_page {α : Type} {row : Reader α} {rows : List α} {write : α → Value}
    (count : UInt64) (hopens : ∀ a ∈ rows, Opens (write a).compact)
    (hread : ∀ a ∈ rows, row.Reads depth (write a).compact a) :
    (Page.shape row).reader.Reads (depth + 2) (pageValue count (rows.map write)).compact
      ⟨count, rows⟩ := by
  have h : (Page.shape row).Gathers (depth + 1) (Page.shape row).blank
      [("count", .ofNat count.toNat), ("next", .null), ("previous", .null),
        ("results", .array (rows.map write))] ⟨some count, some rows⟩ := by
    refine .known rfl rfl (reads_slot (reads_count count _) _ _ _ _ _) ?_
    refine .unknown rfl skips_null (.unknown rfl skips_null ?_)
    exact .known rfl rfl (reads_slot (reads_list hopens hread) _ _ _ _ _) (.done _)
  exact h.reads rfl

end Rows

theorem text_of_object (status : Nat) (fields : List (String × Value)) :
    (Response.mk status (String.ofList (Value.object fields).compact)).text =
      String.ofList (Value.object fields).compact := by
  have hbody : (String.ofList (Value.object fields).compact).toList =
      '\x7b' :: (compactFields fields ++ ['\x7d']) := by
    rw [String.toList_ofList, Value.compact]
    rfl
  rw [Response.text, hbody]
  rfl

section Asking

open Remote

variable {α : Type} {exchange : Exchange} {request : Request} {row : Reader α}

theorem ask_respond {β : Type} {result : Except SourceError β} {count : β → UInt64}
    {rows : β → List α} {write : α → Value}
    (hexchange : exchange request =
      .ok (respond result fun b => pageValue (count b) ((rows b).map write)))
    (hopens : ∀ b, ∀ a ∈ rows b, Opens (write a).compact)
    (hread : ∀ b, ∀ a ∈ rows b, row.Reads 125 (write a).compact a) :
    (ask exchange request (Page.shape row).reader).toOption =
      result.toOption.map fun b => ⟨count b, rows b⟩ := by
  rw [ask, hexchange]
  cases result with
  | error e => rfl
  | ok b =>
    have hpage : (Page.shape row).reader.Reads depthLimit _ _ :=
      reads_page (count b) (hopens b) (hread b)
    simp only [respond, pageValue, text_of_object]
    rw [pageValue] at hpage
    rw [hpage.run]
    rfl

theorem pageSize_eq {size : UInt64}
    (h : request.arguments.lookup "page_size" = some (toString size)) :
    pageSize request = size := by
  rw [pageSize, h, Option.map_some, Text.readNumeral_toString]

variable (service : Service) (records : List Record) (q : Query) (facet : String)

theorem exchange_sampleRequest (size : UInt64) :
    Archive.exchange records (sampleRequest service q size) =
      .ok (samplePage records q.text size) := by
  rw [sampleRequest]
  split
  · rename_i hall
    have htext : q.text = "" := of_decide_eq_true hall
    rw [Archive.exchange, if_pos rfl, pageSize_eq rfl, htext]
  · rw [Archive.exchange, if_pos rfl, pageSize_eq rfl]

theorem run_facetBody : ∃ body,
    Json.value.run (String.ofList (facetBody q facet).compact) = .ok body ∧
      textField "facet" body = facet ∧ textField "query" body = q.text := by
  have hfields : ∀ f ∈ ("facet", Value.string facet) ::
      if q.isAll then [] else [("query", Value.string q.text)],
      Json.value.Reads 126 f.2.compact f.2 := by
    intro f hf
    rcases List.mem_cons.mp hf with rfl | hf
    · exact reads_value_string facet 126
    · split at hf
      · cases hf
      · rw [List.mem_singleton.mp hf]
        exact reads_value_string q.text 126
  have hread : Json.value.Reads depthLimit (facetBody q facet).compact _ :=
    reads_value_object hfields
  refine ⟨_, hread.run, ?_⟩
  split
  · rename_i hall
    have htext : q.text = "" := of_decide_eq_true hall
    exact ⟨rfl, htext.symm⟩
  · simp only [List.foldl_cons, List.foldl_nil, insertField]
    rw [if_neg (by decide), if_neg (by decide)]
    exact ⟨rfl, rfl⟩

theorem facetAndQuery_facetRequest :
    facetAndQuery (facetRequest service q facet) = .ok (facet, q.text) := by
  obtain ⟨body, hrun, hfacet, hquery⟩ := run_facetBody q facet
  cases hformat : service.wireFormat with
  | plainText =>
    simp only [facetRequest, hformat]
    rfl
  | json =>
    have hjson : isJson (facetRequest service q facet) = true := by
      simp only [facetRequest, hformat]
      rfl
    have hbody : (facetRequest service q facet).body =
        String.ofList (facetBody q facet).compact := by
      simp only [facetRequest, hformat]
    rw [facetAndQuery, if_pos hjson, hbody, hrun]
    exact congrArg Except.ok (Prod.ext hfacet hquery)

theorem pageSize_facetRequest :
    pageSize (facetRequest service q facet) = service.groupPageSize := by
  rw [facetRequest]
  cases service.wireFormat <;> exact pageSize_eq rfl

theorem exchange_facetRequest :
    Archive.exchange records (facetRequest service q facet) =
      .ok (facetPage records q.text facet service.groupPageSize) := by
  have hmethod : (facetRequest service q facet).method = .post := by
    rw [facetRequest]
    cases service.wireFormat <;> rfl
  have hpath : (facetRequest service q facet).path = facetPath := by
    rw [facetRequest]
    cases service.wireFormat <;> rfl
  rw [Archive.exchange, hmethod, hpath]
  simp only [facetAndQuery_facetRequest, pageSize_facetRequest, if_true]
  exact if_neg (by decide)

end Asking

end FacetBrowser.Archive
