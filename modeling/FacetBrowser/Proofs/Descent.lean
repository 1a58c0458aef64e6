import FacetBrowser.Proofs.Collected
import FacetBrowser.Proofs.Current

namespace FacetBrowser

def Facets.all (f : Facets) : List String :=
  f.chosen ++ f.offered

def Collection.Unquoted (c : Collection) : Prop :=
  ∀ r ∈ c.records, ∀ p ∈ r.attributes, '\'' ∉ p.2.toList

def Answer.Reconciles : Answer → Prop
  | .sample s => ∃ hidden, s.unlisted = .ok hidden
  | .group _ g => (∃ unlisted, g.unlisted = .ok unlisted) ∧
      ∃ hidden, g.ungrouped.unlisted = .ok hidden

namespace Collection

variable {c : Collection} {filter : Filter} {facet : String} {facets : Facets} {n : Node}
  {group : Group} {q : Question}

theorem not_mem_group_value (hvalues : c.Unquoted)
    (h : group ∈ c.groupsOf (c.matching filter) facet) : '\'' ∉ group.value.toList := by
  obtain ⟨r, hr, hlookup⟩ := List.mem_filterMap.mp (group_value_mem h)
  obtain ⟨before, after, hattributes, -⟩ := List.lookup_eq_some_iff.mp hlookup
  exact hvalues r (List.mem_of_mem_filter hr) (facet, group.value) (by simp [hattributes])

theorem answer_suits (hn : n.query.Means filter) (hroot : n.id = 0 → n.query = .all)
    (hfacets : ∀ facet ∈ facets.chosen, Filter.IsName facet) (hq : q.Suits facets n) :
    c.source.oracle.answer q = .ok (.sample (c.sampleOf (c.matching filter))) ∨
      ∃ facet, facets.at? n.depth = some facet ∧
        c.source.oracle.answer q = .ok (.group facet (c.groupingOf filter facet)) := by
  rcases Source.answer_suits hq hroot with ha | ⟨facet, hat, ha⟩
  · left
    rw [ha]
    simp only [source, sample_eq hn, Except.map]
  · have hname := hfacets facet (List.mem_of_getElem? hat)
    refine Or.inr ⟨facet, hat, ?_⟩
    rw [ha]
    simp only [source, group_eq hn hname, Except.map]

theorem reconciles_sampleOf (c : Collection) (filter : Filter)
    (hsize : c.records.length < UInt64.size) :
    (Answer.sample (c.sampleOf (c.matching filter))).Reconciles :=
  Sample.exists_unlisted_iff.mpr
    (c.fits_sampleOf (Nat.lt_of_le_of_lt (c.length_matching_le filter) hsize))

theorem reconciles_groupingOf (c : Collection) (filter : Filter) (facet : String)
    (hsize : c.records.length < UInt64.size) :
    (Answer.group facet (c.groupingOf filter facet)).Reconciles :=
  Grouping.fits_iff.mp (c.fits_groupingOf filter facet hsize)

end Collection

namespace Course

variable {answers : Question → Except SourceError Answer → Prop} {c c' : Course} {m : Move}

theorem Step.mem_facets (hs : Step answers c m c') {facet : String}
    (h : facet ∈ c'.browser.facets.all) : facet ∈ c.browser.facets.all := by
  cases hs with
  | @choose chosen hf =>
    simp only [Facets.all, Browser.regrouped, Facets.extended, List.mem_append,
      List.mem_singleton] at h ⊢
    rcases h with (h | rfl) | h
    · exact Or.inl h
    · exact Or.inr hf
    · exact Or.inr (List.mem_of_mem_erase h)
  | _ => exact h

theorem mem_facets_run {facets : Facets} {ms : List Move}
    (h : (new facets).Permits answers ms) :
    ∀ facet ∈ ((new facets).run ms).browser.facets.all, facet ∈ facets.all :=
  h.invariant (P := fun _ c => ∀ facet ∈ c.browser.facets.all, facet ∈ facets.all)
    (fun _ hf => hf) fun hc hm facet hf => hc facet (hm.step.mem_facets hf)

theorem isName_chosen {facets : Facets} {ms : List Move}
    (hfacets : ∀ facet ∈ facets.all, Filter.IsName facet)
    (h : (new facets).Permits answers ms) :
    ∀ facet ∈ ((new facets).run ms).browser.facets.chosen, Filter.IsName facet :=
  fun facet hf => hfacets facet (mem_facets_run h facet (List.mem_append_left _ hf))

section Collected

variable {coll : Collection} {i : Nat} {n : Node} {P : Node → Filter → Prop}

theorem Accounted.exists_filter (hvalues : coll.Unquoted)
    (hfacets : ∀ facet ∈ c.browser.facets.chosen, Filter.IsName facet) (hc : c.Sound)
    (h : c.Accounted coll.source.oracle.Gives)
    (root : ∀ {n : Node}, c.browser.node? n.id = some n → n.id = 0 → P n [])
    (child : ∀ {m n : Node} {filter : Filter} {facet : String} {group : Group}, P m filter →
      c.browser.facets.at? m.depth = some facet →
      group ∈ coll.groupsOf (coll.matching filter) facet → m.IsGroup facet group n →
      c.browser.node? n.id = some n → n.id ≠ 0 → P n (filter ++ [.equals facet group.value]))
    (hn : c.browser.node? i = some n) : ∃ filter, n.query.Means filter ∧ P n filter := by
  -- parents have smaller ids, and a child adds the clause of its group to its parent's
  induction i using Nat.strongRecOn generalizing n with
  | ind i ih =>
    obtain rfl := hc.tree.id_eq hn
    by_cases h0 : n.id = 0
    · refine ⟨[], ?_, root hn h0⟩
      rw [hc.query_root hn h0]
      exact .everything
    · obtain ⟨m, facet, g, group, hlt, hm, -, hat, ha, hgroup, hchild⟩ :=
        h.exists_parent hc Oracle.admits_of_gives hn h0
      obtain ⟨filter, hmeans, hP⟩ := ih m.id hlt hm
      have hname := hfacets facet (List.mem_of_getElem? hat)
      obtain rfl := Except.ok.inj
        ((Collection.group_eq hmeans hname).symm.trans (Source.group_of_gives ha))
      have hvalue := Collection.not_mem_group_value hvalues hgroup
      exact ⟨_, hchild.query ▸ hmeans.and (Filter.spells_equals hname hvalue),
        child hP hat hgroup hchild hn h0⟩

end Collected

end Course
end FacetBrowser
