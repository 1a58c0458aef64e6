import FacetBrowser.Proofs.Conjunction
import FacetBrowser.Proofs.Placement

namespace FacetBrowser

namespace Filter

variable {filter filter' : Filter} {text tail : List Char}

theorem Derives.isPrefix (h : Derives filter text)
    (hread : read (text ++ ' ' :: tail) = .ok filter') : filter <+: filter' := by
  by_cases hne : filter = []
  · rw [hne]
    exact List.nil_prefix
  · obtain ⟨_, _, more, _, -, -, -, rfl⟩ := h.exists_readMore hne hread
    exact ⟨more, rfl⟩

theorem isPrefix_of_parse_and {p q : Query} (hp : parse p.text = .ok filter)
    (hq : parse (p.and q).text = .ok filter') : filter <+: filter' := by
  have hderives := parse_eq_ok_iff.mp hp
  rw [Query.and] at hq
  split at hq
  · rename_i hall
    have htext : p.text = "" := of_decide_eq_true hall
    rw [htext] at hderives
    obtain rfl := hderives.eq_nil
    exact List.nil_prefix
  · split at hq
    · obtain rfl := Except.ok.inj (hp.symm.trans hq)
      exact List.prefix_rfl
    · have hread : read (p.text.toList ++ ' ' :: (['a', 'n', 'd', ' '] ++ q.text.toList)) =
          .ok filter' := by
        simpa [parse, String.toList_append] using hq
      exact hderives.isPrefix hread

theorem holds_of_isPrefix (h : filter <+: filter') {attributes : Attributes}
    (hholds : filter'.holds attributes = true) : filter.holds attributes = true := by
  obtain ⟨more, rfl⟩ := h
  rw [Filter.holds, List.all_append, Bool.and_eq_true] at hholds
  exact hholds.1

end Filter

namespace Collection

variable {coll : Collection} {p q : Query} {filter filter' : Filter} {found : List Record}
  {facet : String}

theorem matching_sublist (coll : Collection) (h : filter <+: filter') :
    (coll.matching filter').Sublist (coll.matching filter) :=
  List.monotone_filter_right _ fun _ => Filter.holds_of_isPrefix h

theorem select_and_sublist {all : List Record} (hp : coll.select p = .ok all)
    (hq : coll.select (p.and q) = .ok found) : found.Sublist all := by
  obtain ⟨filter, hfilter, rfl⟩ := select_eq_ok_iff.mp hp
  obtain ⟨filter', hfilter', rfl⟩ := select_eq_ok_iff.mp hq
  exact coll.matching_sublist (Filter.isPrefix_of_parse_and hfilter hfilter')

end Collection

namespace Course

variable {coll : Collection} {c : Course} {n : Node}

theorem Accounted.items_selected (hc : c.Sound) (h : c.Accounted coll.source.oracle.Gives)
    (hn : c.browser.node? n.id = some n) {item : Item}
    (hitem : .item item ∈ c.browser.tree.rows n.id) :
    ∃ found, coll.select n.query = .ok found ∧ item ∈ found.map Record.item := by
  rw [Tree.rows_of_node? hn] at hitem
  cases hs : n.stage with
  | branch listing =>
    obtain ⟨facet, g, ids, -, ha, hlisting, -⟩ :=
      (h.shows hn (by simp [hs]) (by simp [hs])).branch Oracle.admits_of_gives hs
    obtain ⟨found, ungrouped, hfound, hungrouped, hg⟩ :=
      Collection.select_of_group (Source.group_of_gives ha)
    obtain ⟨_, _, -, -, -, harranged⟩ := hlisting.arranged
    rw [hs] at hitem
    have hmem := Listing.mem_items.mpr hitem
    rw [harranged.items, hg] at hmem
    have hsub := (Collection.select_and_sublist hfound hungrouped).map Record.item
    exact ⟨found, hfound, hsub.subset ((coll.items_sampleOf ungrouped).subset hmem)⟩
  | leaf listing =>
    obtain ⟨q, s, hq, ha, hlisting⟩ := (h.shows hn (by simp [hs]) (by simp [hs])).leaf hs
    obtain ⟨found, hfound, rfl⟩ := Collection.select_of_sample
      (Source.sample_of_suits hq (hc.query_root hn) ha.symm)
    obtain ⟨_, -, -, harranged⟩ := hlisting.arranged
    rw [hs] at hitem
    have hmem := Listing.mem_items.mpr hitem
    rw [harranged.items] at hmem
    exact ⟨found, hfound, (coll.items_sampleOf found).subset hmem⟩
  | _ =>
    rw [hs] at hitem
    cases hitem

theorem Accounted.select_parent (hc : c.Sound) (h : c.Accounted coll.source.oracle.Gives)
    (hn : c.browser.node? n.id = some n) {p : Nat} (hp : n.parent = some p) :
    ∃ m all clause, c.browser.node? p = some m ∧ coll.select m.query = .ok all ∧
      n.query = m.query.and clause := by
  have h0 : n.id ≠ 0 := by
    intro h0
    rw [h0] at hn
    rw [hc.tree.root_eq hn] at hp
    cases hp
  obtain ⟨m, facet, g, group, -, hm, -, -, ha, -, hgroup⟩ :=
    h.exists_parent hc Oracle.admits_of_gives hn h0
  obtain rfl := Option.some.inj (hp.symm.trans hgroup.parent)
  obtain ⟨all, _, hall, -, -⟩ := Collection.select_of_group (Source.group_of_gives ha)
  exact ⟨m, all, _, hm, hall, hgroup.query⟩

theorem appended_text_narrows (coll : Collection) :
    (∀ (p : Query) filter, Filter.parse p.text = .ok filter → ∀ q : Query,
      (∀ filter', Filter.parse (p.and q).text = .ok filter' → ∃ more, filter' = filter ++ more) ∧
      ∀ found, coll.select (p.and q) = .ok found →
        ∃ all, coll.select p = .ok all ∧ found.Sublist all) ∧
    ∀ facets ms, (new facets).Permits coll.source.oracle.Gives ms →
      let b := ((new facets).run ms).browser
      ∀ n ∈ b.tree.nodes, ∀ p, n.parent = some p → ∀ item, .item item ∈ b.tree.rows n.id →
        ∃ m all, b.node? p = some m ∧ coll.select m.query = .ok all ∧
          item ∈ all.map Record.item := by
  refine ⟨fun p filter hp q => ⟨?_, ?_⟩, ?_⟩
  · intro filter' hq
    obtain ⟨more, rfl⟩ := Filter.isPrefix_of_parse_and hp hq
    exact ⟨more, rfl⟩
  · intro found hq
    have hall : coll.select p = .ok (coll.matching filter) :=
      Collection.select_eq_ok_iff.mpr ⟨filter, hp, rfl⟩
    exact ⟨_, hall, Collection.select_and_sublist hall hq⟩
  · intro facets ms h b n hmem p hp item hitem
    obtain ⟨hc, ha⟩ := accounted_run h Oracle.admits_of_gives
    have hn := hc.tree.node?_id hmem
    obtain ⟨found, hfound, hshown⟩ := ha.items_selected hc hn hitem
    obtain ⟨m, all, clause, hm, hall, hquery⟩ := ha.select_parent hc hn hp
    rw [hquery] at hfound
    exact ⟨m, all, hm, hall,
      ((Collection.select_and_sublist hall hfound).map Record.item).subset hshown⟩

theorem quoted_value_stays_within_parent :
    let coll : Collection := ⟨[⟨"1", "/a", [("kind", "k"), ("lab", "x' and type = 'y")]⟩,
      ⟨"2", "/b", [("kind", "k"), ("lab", "x"), ("type", "y")]⟩,
      ⟨"3", "/c", [("kind", "m"), ("lab", "x"), ("type", "y")]⟩], 25, 25⟩
    let facets : Facets := ⟨[], ["kind", "lab"], 0⟩
    let land (i : Nat) (q : Question) := Move.complete ⟨i, q⟩ (coll.source.oracle.answer q)
    let kind := Query.equals "kind" "k"
    let lab := Query.equals "lab" "x' and type = 'y"
    let ms := [.seed, .choose "kind", .choose "lab", land 0 .root, land 0 (.group .all "kind"),
      .activate 1, land 1 (.group kind "lab"), .activate 4, land 4 (.sample (kind.and lab))]
    let filter : Filter := [.equals "kind" "k", .equals "lab" "x", .equals "type" "y"]
    Filter.parse kind.text = .ok [.equals "kind" "k"] ∧
    Filter.parse (kind.and lab).text = .ok filter ∧
    (∃ more, filter = [.equals "kind" "k"] ++ more) ∧
    (new facets).Permits coll.source.oracle.Gives ms ∧
    .item ⟨"2", "/b"⟩ ∈ ((new facets).run ms).browser.tree.rows 4 ∧
    ∃ m all, ((new facets).run ms).browser.node? 1 = some m ∧ coll.select m.query = .ok all ∧
      ⟨"2", "/b"⟩ ∈ all.map Record.item := by
  intro coll facets land kind lab ms filter
  have hkind : Filter.parse kind.text = .ok [.equals "kind" "k"] := by decide +kernel
  have hlab : Filter.parse (kind.and lab).text = .ok filter := by decide +kernel
  have h : (new facets).Permits coll.source.oracle.Gives ms := by
    refine ⟨trivial, trivial, trivial, ⟨?_, rfl⟩, ⟨?_, rfl⟩, trivial, ⟨?_, rfl⟩, trivial,
      ⟨?_, rfl⟩, trivial⟩ <;> decide +kernel
  have hn : Node.mk 4 (some 1) (some "x' and type = 'y") (kind.and lab) 2 (some 1)
      (.leaf ⟨1, [.item ⟨"2", "/b"⟩]⟩) ∈ ((new facets).run ms).browser.tree.nodes := by
    decide +kernel
  have hitem : .item ⟨"2", "/b"⟩ ∈ ((new facets).run ms).browser.tree.rows 4 := by
    decide +kernel
  obtain ⟨hreads, hshows⟩ := appended_text_narrows coll
  exact ⟨hkind, hlab, (hreads kind _ hkind lab).1 filter hlab, h, hitem,
    hshows facets ms h _ hn 1 rfl _ hitem⟩

end Course
end FacetBrowser
