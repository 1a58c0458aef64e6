import FacetBrowser.Proofs.Descent
import FacetBrowser.Proofs.Partition
import FacetBrowser.Proofs.Recognition
import FacetBrowser.Proofs.Totals

namespace FacetBrowser

def Row.item? : Row → Option Item
  | .item shown => some shown
  | _ => none

theorem Listing.items_eq (listing : Listing) :
    listing.items = listing.rows.filterMap Row.item? := by
  refine List.filterMap_congr fun row _ => ?_
  cases row <;> rfl

theorem Listing.mem_items {listing : Listing} {item : Item} :
    item ∈ listing.items ↔ .item item ∈ listing.rows := by
  rw [items_eq, List.mem_filterMap]
  constructor
  · rintro ⟨row, hrow, hitem⟩
    cases row with
    | item shown =>
      obtain rfl := Option.some.inj hitem
      exact hrow
    | _ => cases hitem
  · exact fun h => ⟨_, h, rfl⟩

namespace Record

variable {r : Record} {f : Facets} {path : List Node} {n : Node} {facet label : String}

def Carries (r : Record) (f : Facets) (path : List Node) : Prop :=
  ∀ j m, path[j]? = some m → ∃ facet label value, f.at? j = some facet ∧
    m.label = some label ∧ r.attributes.lookup facet = some value ∧
    Text.lower value = Text.lower label

theorem Carries.concat (h : r.Carries f path) (hat : f.at? path.length = some facet)
    (hlabel : n.label = some label)
    (hholds : (Clause.equals facet label).holds r.attributes = true) :
    r.Carries f (path ++ [n]) := by
  intro j m hm
  rcases Nat.lt_or_ge j path.length with hj | hj
  · rw [List.getElem?_append_left hj] at hm
    exact h j m hm
  · rw [List.getElem?_append_right hj, List.getElem?_singleton] at hm
    split at hm
    · obtain rfl := Option.some.inj hm
      obtain rfl : j = path.length := by omega
      obtain ⟨value, hvalue, hlower⟩ := Clause.holds_equals.mp hholds
      exact ⟨facet, label, value, hat, hlabel, hvalue, hlower⟩
    · cases hm

end Record

namespace Tree

variable {t : Tree} {n : Node} {listing : Listing}

def listed (t : Tree) (n : Node) : List Item :=
  (t.below n).filterMap (·.2.item?)

theorem listed_perm (h : t.WellFormed) (hn : t.node? n.id = some n) :
    (t.listed n).Perm
      (n.stage.rows.filterMap Row.item? ++ (t.children n.id).flatMap t.listed) := by
  have hrows : (n.stage.rows.map (n.depth, ·)).filterMap (·.2.item?) =
      n.stage.rows.filterMap Row.item? := by
    rw [List.filterMap_map]
    rfl
  have hchildren : ((t.children n.id).flatMap t.below).filterMap (·.2.item?) =
      (t.children n.id).flatMap t.listed :=
    List.filterMap_flatMap
  rw [← hrows, ← hchildren, ← List.filterMap_append]
  exact (below_perm h hn).filterMap _

theorem listed_perm_listing (h : t.WellFormed) (hn : t.node? n.id = some n)
    (hs : n.stage.listing? = some listing) :
    (t.listed n).Perm
      (listing.items ++ (listing.children.filterMap t.node?).flatMap t.listed) := by
  have hlisting : t.listing? n.id = some listing := by rw [listing?, hn, Option.bind_some, hs]
  have hperm := listed_perm h hn
  rwa [Stage.rows, hs, ← Listing.items_eq, children_of_listing hlisting] at hperm

theorem listed_unopened (h : t.WellFormed) (hn : t.node? n.id = some n)
    (hs : n.stage.listing? = none) : t.listed n = [] := by
  have hlisting : t.listing? n.id = none := by rw [listing?, hn, Option.bind_some, hs]
  have hperm := listed_perm h hn
  simpa [Stage.rows, children, rows, hs, hlisting] using hperm

theorem Holds.flatMap_subperm {α : Type} {f : Node → List α} {part : Group → List α}
    {facet : String} {groups : List Group} {ids : List Nat} (h : t.WellFormed)
    (hholds : t.Holds n facet groups ids)
    (hf : ∀ m group, t.node? m.id = some m → group ∈ groups → n.IsGroup facet group m →
      (f m).Subperm (part group)) :
    ((ids.filterMap t.node?).flatMap f).Subperm (groups.flatMap part) := by
  induction hholds with
  | nil => exact List.Subperm.refl _
  | cons hid _ ih =>
    obtain ⟨m, hm, hgroup⟩ := hid
    have hself : t.node? m.id = some m := (h.id_eq hm).symm ▸ hm
    rw [List.filterMap_cons_some hm, List.flatMap_cons, List.flatMap_cons]
    exact (hf m _ hself List.mem_cons_self hgroup).append
      (ih fun m group hm hmem => hf m group hm (List.mem_cons_of_mem _ hmem))

end Tree

namespace Collection

variable {coll : Collection} {t : Tree} {n : Node} {filter : Filter} {facet : String}
  {listing : Listing} {ids : List Nat}

theorem items_sampleOf (coll : Collection) (found : List Record) :
    (coll.sampleOf found).items.Sublist (found.map Record.item) :=
  (List.take_sublist _ _).map Record.item

theorem exists_of_mem_sampleOf {found : List Record} {item : Item}
    (h : item ∈ (coll.sampleOf found).items) : ∃ r ∈ found, r.item = item :=
  List.mem_map.mp ((coll.items_sampleOf found).subset h)

theorem listed_sample (h : t.WellFormed) (hn : t.node? n.id = some n)
    (hs : n.stage = .leaf listing)
    (hlisting : listing.OfSample (coll.sampleOf (coll.matching filter))) :
    (t.listed n).Subperm ((coll.matching filter).map Record.item) := by
  have hopen : n.stage.listing? = some listing := by
    rw [hs]
    rfl
  obtain ⟨_, -, -, harranged⟩ := hlisting.arranged
  have hperm := Tree.listed_perm_listing h hn hopen
  rw [harranged.items, harranged.children, List.filterMap_nil, List.flatMap_nil,
    List.append_nil] at hperm
  exact hperm.subperm.trans (coll.items_sampleOf _).subperm

theorem listed_grouping (h : t.WellFormed) (hn : t.node? n.id = some n)
    (hs : n.stage = .branch listing)
    (hlisting : listing.OfGrouping (coll.groupingOf filter facet) ids)
    (hholds : t.Holds n facet (coll.groupsOf (coll.matching filter) facet) ids)
    (hgroups : ∀ m group, t.node? m.id = some m →
      group ∈ coll.groupsOf (coll.matching filter) facet → n.IsGroup facet group m →
      (t.listed m).Subperm
        ((coll.matching (filter ++ [.equals facet group.value])).map Record.item)) :
    (t.listed n).Subperm ((coll.matching filter).map Record.item) := by
  have hopen : n.stage.listing? = some listing := by
    rw [hs]
    rfl
  obtain ⟨_, _, -, -, -, harranged⟩ := hlisting.arranged
  have hperm := Tree.listed_perm_listing h hn hopen
  rw [harranged.items, harranged.children] at hperm
  have hbelow := (coll.items_sampleOf (coll.matching (filter ++ [.absent facet]))).subperm.append
    (hholds.flatMap_subperm h hgroups)
  have hparts := subperm_map Record.item (coll.parts_subperm filter facet)
  simp only [parts, List.flatMap_cons, List.flatMap_map, List.map_append,
    List.map_flatMap] at hparts
  exact hperm.subperm.trans (hbelow.trans hparts)

end Collection

namespace Course

variable {coll : Collection} {c : Course} {n : Node} {filter : Filter} {listing : Listing}

theorem Accounted.branch_grouping
    (hfacets : ∀ facet ∈ c.browser.facets.chosen, Filter.IsName facet)
    (h : c.Accounted coll.source.oracle.Gives) (hn : c.browser.node? n.id = some n)
    (hmeans : n.query.Means filter) (hs : n.stage = .branch listing) :
    ∃ facet ids, c.browser.facets.at? n.depth = some facet ∧ Filter.IsName facet ∧
      listing.OfGrouping (coll.groupingOf filter facet) ids ∧
      c.browser.tree.Holds n facet (coll.groupsOf (coll.matching filter) facet) ids := by
  obtain ⟨facet, g, ids, hat, ha, hlisting, hholds⟩ :=
    (h.shows hn (by simp [hs]) (by simp [hs])).branch Oracle.admits_of_gives hs
  have hname := hfacets facet (List.mem_of_getElem? hat)
  obtain rfl := Except.ok.inj
    ((Collection.group_eq hmeans hname).symm.trans (Source.group_of_gives ha))
  exact ⟨facet, ids, hat, hname, hlisting, hholds⟩

theorem Accounted.leaf_sample (hc : c.Sound) (h : c.Accounted coll.source.oracle.Gives)
    (hn : c.browser.node? n.id = some n) (hmeans : n.query.Means filter)
    (hs : n.stage = .leaf listing) :
    listing.OfSample (coll.sampleOf (coll.matching filter)) := by
  obtain ⟨q, s, hq, ha, hlisting⟩ := (h.shows hn (by simp [hs]) (by simp [hs])).leaf hs
  obtain rfl := Except.ok.inj ((Collection.sample_eq hmeans).symm.trans
    (Source.sample_of_suits hq (hc.query_root hn) ha.symm))
  exact hlisting

theorem Accounted.listed_subperm (hvalues : coll.Unquoted)
    (hfacets : ∀ facet ∈ c.browser.facets.chosen, Filter.IsName facet) (hc : c.Sound)
    (h : c.Accounted coll.source.oracle.Gives) (hn : c.browser.node? n.id = some n)
    (hmeans : n.query.Means filter) :
    (c.browser.tree.listed n).Subperm ((coll.matching filter).map Record.item) := by
  induction hk : c.browser.tree.nodes.length - n.id using Nat.strongRecOn
    generalizing n filter with
  | ind k ih =>
    cases hs : n.stage with
    | branch listing =>
      obtain ⟨facet, ids, -, hname, hlisting, hholds⟩ := h.branch_grouping hfacets hn hmeans hs
      refine Collection.listed_grouping hc.tree hn hs hlisting hholds ?_
      intro m group hm hgroup hchild
      have hlt := (Tree.exists_of_parent hc.tree hm hchild.parent).1
      have hlen := Tree.lt_of_node? hm
      have hvalue := Collection.not_mem_group_value hvalues hgroup
      have hquery := hchild.query ▸ hmeans.and (Filter.spells_equals hname hvalue)
      exact ih _ (by omega) hm hquery rfl
    | leaf listing =>
      exact Collection.listed_sample hc.tree hn hs (h.leaf_sample hc hn hmeans hs)
    | _ =>
      rw [Tree.listed_unopened hc.tree hn (by rw [hs]; rfl)]
      exact List.nil_subperm

theorem Accounted.exists_line_filter (hvalues : coll.Unquoted)
    (hfacets : ∀ facet ∈ c.browser.facets.chosen, Filter.IsName facet) (hc : c.Sound)
    (h : c.Accounted coll.source.oracle.Gives) {i : Nat} (hn : c.browser.node? i = some n) :
    ∃ filter line, n.query.Means filter ∧ c.browser.tree.Line line n ∧
      ∀ r : Record, filter.holds r.attributes = true → r.Carries c.browser.facets line := by
  let P (n : Node) (filter : Filter) : Prop := ∃ line, c.browser.tree.Line line n ∧
    ∀ r : Record, filter.holds r.attributes = true → r.Carries c.browser.facets line
  have hP : ∃ filter, n.query.Means filter ∧ P n filter := by
    refine h.exists_filter hvalues hfacets hc ?_ ?_ hn
    · intro n hn h0
      rw [h0] at hn
      exact ⟨[], .root hn, by simp [Record.Carries]⟩
    · rintro m n filter facet group ⟨line, hline, hcarries⟩ hat - hchild hn -
      have hlength : line.length = m.depth := by
        simpa using congrArg List.length (hline.depths hc.tree)
      refine ⟨line ++ [n], .child hline hchild.parent hn, fun r hholds => ?_⟩
      obtain ⟨hfilter, hclause⟩ : filter.holds r.attributes = true ∧
          (Clause.equals facet group.value).holds r.attributes = true := by
        simpa [Filter.holds] using hholds
      exact (hcarries r hfilter).concat (hlength ▸ hat) hchild.label hclause
  obtain ⟨filter, hmeans, line, hline, hcarries⟩ := hP
  exact ⟨filter, line, hmeans, hline, hcarries⟩

theorem Accounted.exists_record
    (hfacets : ∀ facet ∈ c.browser.facets.chosen, Filter.IsName facet) (hc : c.Sound)
    (h : c.Accounted coll.source.oracle.Gives) (hn : c.browser.node? n.id = some n)
    (hmeans : n.query.Means filter) {item : Item}
    (hitem : .item item ∈ c.browser.tree.rows n.id) :
    ∃ r ∈ coll.matching filter, r.item = item ∧ ∀ listing, n.stage = .branch listing →
      ∃ facet, c.browser.facets.chosen[n.depth]? = some facet ∧
        r.attributes.lookup facet = none := by
  rw [Tree.rows_of_node? hn] at hitem
  cases hs : n.stage with
  | branch listing =>
    obtain ⟨facet, ids, hat, -, hlisting, -⟩ := h.branch_grouping hfacets hn hmeans hs
    obtain ⟨_, _, -, -, -, harranged⟩ := hlisting.arranged
    rw [hs] at hitem
    have hmem := Listing.mem_items.mpr hitem
    rw [harranged.items] at hmem
    obtain ⟨r, hr, rfl⟩ := Collection.exists_of_mem_sampleOf hmem
    rw [Collection.matching_concat] at hr
    obtain ⟨hr, habsent⟩ := List.mem_filter.mp hr
    exact ⟨r, hr, rfl, fun _ _ => ⟨facet, hat, Clause.holds_absent.mp habsent⟩⟩
  | leaf listing =>
    obtain ⟨_, -, -, harranged⟩ := (h.leaf_sample hc hn hmeans hs).arranged
    rw [hs] at hitem
    have hmem := Listing.mem_items.mpr hitem
    rw [harranged.items] at hmem
    obtain ⟨r, hr, rfl⟩ := Collection.exists_of_mem_sampleOf hmem
    exact ⟨r, hr, rfl, nofun⟩
  | _ =>
    rw [hs] at hitem
    cases hitem

theorem items_listed_once_in_place (coll : Collection) {facets : Facets} {ms : List Move}
    (hids : (coll.records.map (·.id)).Nodup) (hvalues : coll.Unquoted)
    (hfacets : ∀ facet ∈ facets.all, Filter.IsName facet)
    (h : (new facets).Permits coll.source.oracle.Gives ms) :
    let b := ((new facets).run ms).browser
    (((b.tree.walk 0).filterMap (·.2.item?)).map (·.id)).Nodup ∧
    ∀ n ∈ b.tree.nodes, ∀ item, .item item ∈ b.tree.rows n.id →
      ∃ r ∈ coll.records, r.item = item ∧
        (∃ line, b.tree.Line line n ∧ line.map (·.depth) = List.range' 1 n.depth ∧
          r.Carries b.facets line) ∧
        ∀ listing, n.stage = .branch listing →
          ∃ facet, b.facets.chosen[n.depth]? = some facet ∧
            r.attributes.lookup facet = none := by
  intro b
  obtain ⟨hc, ha⟩ := accounted_run h Oracle.admits_of_gives
  have hchosen := isName_chosen hfacets h
  refine ⟨?_, fun n hmem item hitem => ?_⟩
  · obtain ⟨stage, hroot⟩ := hc.tree.root
    have hlisted := ha.listed_subperm (n := { Node.root with stage := stage })
      hvalues hchosen hc hroot .everything
    rw [Collection.matching_nil] at hlisted
    obtain ⟨items, hperm, hsub⟩ := subperm_map Item.id hlisted
    rw [List.map_map] at hsub
    exact hperm.nodup_iff.mp (hids.sublist hsub)
  · have hn := hc.tree.node?_id hmem
    obtain ⟨filter, line, hmeans, hline, hcarries⟩ :=
      ha.exists_line_filter hvalues hchosen hc hn
    obtain ⟨r, hr, hitem, habsent⟩ := ha.exists_record hchosen hc hn hmeans hitem
    obtain ⟨hmem, hholds⟩ := List.mem_filter.mp hr
    exact ⟨r, hmem, hitem, ⟨line, hline, hline.depths hc.tree, hcarries r hholds⟩, habsent⟩

theorem item_in_place_under_other_spelling :
    let coll : Collection := ⟨[⟨"1", "/a", [("lab", "Öst"), ("type", "csv")]⟩,
      ⟨"2", "/b", [("lab", "ÖST")]⟩, ⟨"3", "/c", [("type", "nwb")]⟩,
      ⟨"4", "/d", [("lab", "west"), ("type", "CSV")]⟩], 1, 1⟩
    let facets : Facets := ⟨[], ["lab", "type"], 0⟩
    let land (i : Nat) (q : Question) := Move.complete ⟨i, q⟩ (coll.source.oracle.answer q)
    let ms := [.seed, .choose "lab", land 0 .root, land 0 (.group .all "lab"), .activate 1,
      .choose "type", land 1 (.sample (.equals "lab" "Öst")),
      land 1 (.group (.equals "lab" "Öst") "type")]
    (new facets).Permits coll.source.oracle.Gives ms ∧
      (((((new facets).run ms).browser.tree.walk 0).filterMap (·.2.item?)).map (·.id)).Nodup ∧
      ∃ n ∈ ((new facets).run ms).browser.tree.nodes,
        .item ⟨"2", "/b"⟩ ∈ ((new facets).run ms).browser.tree.rows n.id ∧
        ∃ r ∈ coll.records, r.item = ⟨"2", "/b"⟩ ∧
          (∃ line, ((new facets).run ms).browser.tree.Line line n ∧
            line.map (·.depth) = List.range' 1 n.depth ∧
            r.Carries ((new facets).run ms).browser.facets line) ∧
          ∀ listing, n.stage = .branch listing →
            ∃ facet, ((new facets).run ms).browser.facets.chosen[n.depth]? = some facet ∧
              r.attributes.lookup facet = none := by
  intro coll facets land ms
  have h : (new facets).Permits coll.source.oracle.Gives ms := by
    refine ⟨trivial, trivial, ⟨?_, rfl⟩, ⟨?_, rfl⟩, trivial, trivial, ⟨?_, rfl⟩, ⟨?_, rfl⟩,
      trivial⟩ <;> decide +kernel
  have hvalues : ∀ r ∈ coll.records, ∀ p ∈ r.attributes, '\'' ∉ p.2.toList := by decide +kernel
  obtain ⟨hnodup, hplaced⟩ :=
    items_listed_once_in_place coll (by decide +kernel) hvalues (by decide +kernel) h
  have hn : Node.mk 1 (some 0) (some "Öst") (.equals "lab" "Öst") 1 (some 2)
      (.branch ⟨2, [.child 2, .item ⟨"2", "/b"⟩]⟩) ∈ ((new facets).run ms).browser.tree.nodes := by
    decide +kernel
  have hitem : .item ⟨"2", "/b"⟩ ∈ ((new facets).run ms).browser.tree.rows 1 := by decide +kernel
  exact ⟨h, hnodup, _, hn, hitem, hplaced _ hn _ hitem⟩

end Course
end FacetBrowser
