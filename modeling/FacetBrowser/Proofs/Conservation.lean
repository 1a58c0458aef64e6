import FacetBrowser.Proofs.Descent
import FacetBrowser.Proofs.Recognition
import FacetBrowser.Proofs.Totals

namespace FacetBrowser

structure Node.Covers (n : Node) (c : Collection) (filter : Filter) : Prop where
  query : n.query.Means filter
  root : n.id = 0 → filter = []
  groupCount : n.id ≠ 0 → n.groupCount = some (UInt64.ofNat (c.matching filter).length)

structure Node.Tallied (n : Node) (c : Collection) (filter : Filter) : Prop
    extends n.Covers c filter where
  not_failed : ∀ failure, n.stage ≠ .failed failure
  total : ∀ {listing : Listing}, n.stage.listing? = some listing →
    listing.total = UInt64.ofNat (c.matching filter).length

namespace Node.Tallied

variable {n : Node} {c : Collection} {filter : Filter}

theorem count (h : n.Tallied c filter) (hopen : n.id = 0 → n.stage.listing?.isSome) :
    n.count = some (UInt64.ofNat (c.matching filter).length) := by
  cases hs : n.stage.listing? with
  | none =>
    have h0 : n.id ≠ 0 := by
      intro h0
      simpa [hs] using hopen h0
    have hcount : n.count = n.groupCount := by rw [Node.count, hs]
    rw [hcount, h.groupCount h0]
  | some listing => rw [Node.count, hs, ← h.total hs]

theorem count_eq_groupCount (h : n.Tallied c filter) (h0 : n.id ≠ 0) :
    n.count = n.groupCount := by
  rw [h.count fun h => absurd h h0, h.groupCount h0]

end Node.Tallied

namespace Collection

variable {c : Collection} {filter : Filter} {facets : Facets} {n : Node}

theorem total_of_suits {q : Question} {t : Tree} {start : Nat}
    (hsize : c.records.length < UInt64.size) (hn : n.Covers c filter)
    (hroot : n.id = 0 → n.query = .all)
    (hfacets : ∀ facet ∈ facets.chosen, Filter.IsName facet) (hq : q.Suits facets n)
    (hfill : t.Fills n start (c.source.oracle.answer q)) :
    ∃ listing, n.stage.listing? = some listing ∧
      listing.total = UInt64.ofNat (c.matching filter).length := by
  rw [hfill.stage]
  rcases answer_suits hn.query hroot hfacets hq with ha | ⟨facet, -, ha⟩
  · obtain ⟨hidden, hh⟩ := c.reconciles_sampleOf filter hsize
    rw [ha]
    simp only [Node.expanded, hh]
    exact ⟨_, rfl, rfl⟩
  · obtain ⟨⟨unlisted, hu⟩, hidden, hh⟩ := c.reconciles_groupingOf filter facet hsize
    rw [ha]
    simp only [Node.expanded, hu, hh]
    exact ⟨_, rfl, rfl⟩

end Collection

theorem Tree.conserved {c : Collection} {t : Tree} (h : t.WellFormed)
    (hsize : c.records.length < UInt64.size)
    (htallied : ∀ n ∈ t.nodes, ∃ filter, n.Tallied c filter)
    (hbalances : ∀ n ∈ t.nodes, ∀ listing, n.stage.listing? = some listing → t.Balances listing)
    (hsome : (t.listing? 0).isSome) : ∃ counts : List UInt64,
      (t.nodes.filter Node.isPending).map Node.count = counts.map some ∧
      c.records.length = (t.walk 0).countP (·.2.isItem) + ((t.walk 0).map (·.2.elided)).sum +
        (counts.map (·.toNat)).sum := by
  have hopen : ∀ n ∈ t.nodes, n.id = 0 → n.stage.listing?.isSome := by
    intro n hmem h0
    rwa [← h0, listing?, h.node?_id hmem] at hsome
  have hcounts : (t.nodes.filter Node.isPending).map Node.count =
      ((t.nodes.filter Node.isPending).map fun n => n.count.getD 0).map some := by
    rw [List.map_map]
    refine List.map_congr_left fun n hmem => ?_
    obtain ⟨filter, ht⟩ := htallied n (List.mem_of_mem_filter hmem)
    simp [ht.count (hopen n (List.mem_of_mem_filter hmem))]
  have hagree : ∀ n ∈ t.nodes, n.id ≠ 0 → n.count = n.groupCount := by
    intro n hmem h0
    obtain ⟨filter, ht⟩ := htallied n hmem
    exact ht.count_eq_groupCount h0
  obtain ⟨stage, hroot⟩ := h.root
  have hmem := mem_nodes_iff.mpr ⟨0, hroot⟩
  obtain ⟨filter, ht⟩ := htallied _ hmem
  obtain rfl := ht.root rfl
  refine ⟨_, hcounts, ?_⟩
  rw [← amount_root h hbalances hagree hroot hcounts, Node.amount, ht.count (hopen _ hmem),
    Collection.matching_nil]
  exact (UInt64.toNat_ofNat_of_lt' hsize).symm

namespace Course

variable {c : Course}

theorem Accounted.exists_covers {coll : Collection} (hvalues : coll.Unquoted)
    (hfacets : ∀ facet ∈ c.browser.facets.chosen, Filter.IsName facet) (hc : c.Sound)
    (h : c.Accounted coll.source.oracle.Gives) {i : Nat} {n : Node}
    (hn : c.browser.node? i = some n) : ∃ filter, n.Covers coll filter := by
  let P (n : Node) (filter : Filter) : Prop := (n.id = 0 → filter = []) ∧
    (n.id ≠ 0 → n.groupCount = some (UInt64.ofNat (coll.matching filter).length))
  have hP : ∃ filter, n.query.Means filter ∧ P n filter := by
    refine h.exists_filter hvalues hfacets hc ?_ ?_ hn
    · intro n _ h0
      exact ⟨fun _ => rfl, absurd h0⟩
    · intro m n filter facet group _ _ hgroup hchild _ h0
      refine ⟨fun h => absurd h h0, fun _ => ?_⟩
      rw [hchild.groupCount, Collection.group_count hgroup]
  obtain ⟨filter, hmeans, hroot, hcount⟩ := hP
  exact ⟨filter, hmeans, hroot, hcount⟩

theorem Accounted.exists_tallied {coll : Collection}
    (hsize : coll.records.length < UInt64.size) (hvalues : coll.Unquoted)
    (hfacets : ∀ facet ∈ c.browser.facets.chosen, Filter.IsName facet) (hc : c.Sound)
    (h : c.Accounted coll.source.oracle.Gives) {i : Nat} {n : Node}
    (hn : c.browser.node? i = some n) : ∃ filter, n.Tallied coll filter := by
  obtain ⟨filter, hcovers⟩ := h.exists_covers hvalues hfacets hc hn
  rcases h i n hn with hs | hs | ⟨q, a, start, hq, rfl, hfill⟩
  · exact ⟨filter, hcovers, by simp [hs], by simp [hs, Stage.listing?]⟩
  · exact ⟨filter, hcovers, by simp [hs], by simp [hs, Stage.listing?]⟩
  · obtain ⟨listing, hl, htotal⟩ :=
      Collection.total_of_suits hsize hcovers (hc.query_root hn) hfacets hq hfill
    refine ⟨filter, hcovers, fun failure hf => ?_, fun hs => ?_⟩
    · rw [hf] at hl
      cases hl
    · obtain rfl := Option.some.inj (hl.symm.trans hs)
      exact htotal

theorem records_conserved (coll : Collection) {facets : Facets} {ms : List Move}
    (hsize : coll.records.length < UInt64.size) (hvalues : coll.Unquoted)
    (hfacets : ∀ facet ∈ facets.all, Filter.IsName facet)
    (h : (new facets).Permits coll.source.oracle.Gives ms) :
    let b := ((new facets).run ms).browser
    (∀ n ∈ b.tree.nodes, ∀ failure, n.stage ≠ .failed failure) ∧
    ((b.tree.listing? 0).isSome → ∃ counts : List UInt64,
      (b.tree.nodes.filter Node.isPending).map Node.count = counts.map some ∧
      coll.records.length = (b.tree.walk 0).countP (·.2.isItem) +
        ((b.tree.walk 0).map (·.2.elided)).sum + (counts.map (·.toNat)).sum) := by
  intro b
  obtain ⟨hc, ha⟩ := accounted_run h Oracle.admits_of_gives
  have hchosen : ∀ facet ∈ b.facets.chosen, Filter.IsName facet := isName_chosen hfacets h
  have htallied : ∀ n ∈ b.tree.nodes, ∃ filter, n.Tallied coll filter := fun n hmem =>
    ha.exists_tallied hsize hvalues hchosen hc (hc.tree.node?_id hmem)
  have hbalances : ∀ n ∈ b.tree.nodes, ∀ listing, n.stage.listing? = some listing →
      b.tree.Balances listing := fun n hmem _ hs =>
    ha.balances Oracle.admits_of_gives (hc.tree.node?_id hmem) hs
  refine ⟨fun n hmem failure => ?_, Tree.conserved hc.tree hsize htallied hbalances⟩
  obtain ⟨filter, ht⟩ := htallied n hmem
  exact ht.not_failed failure

theorem conserved_beside_collapsed_group :
    let c : Collection := ⟨[⟨"1", "/a", [("lab", "smith"), ("type", "csv")]⟩,
      ⟨"2", "/b", [("type", "CSV")]⟩, ⟨"3", "/c", [("type", "nwb")]⟩,
      ⟨"4", "/d", [("type", "xml")]⟩, ⟨"5", "/e", []⟩, ⟨"6", "/f", [("lab", "jones")]⟩], 1, 2⟩
    let facets : Facets := ⟨[], ["type", "lab"], 0⟩
    let land (i : Nat) (q : Question) := Move.complete ⟨i, q⟩ (c.source.oracle.answer q)
    let ms := [.seed, .choose "type", land 0 .root, land 0 (.group .all "type"), .activate 1,
      land 1 (.sample (.equals "type" "csv"))]
    (new facets).Permits c.source.oracle.Gives ms ∧ ∃ counts : List UInt64,
      (((new facets).run ms).browser.tree.nodes.filter Node.isPending).map Node.count =
        counts.map some ∧
      c.records.length = (((new facets).run ms).browser.tree.walk 0).countP (·.2.isItem) +
        ((((new facets).run ms).browser.tree.walk 0).map (·.2.elided)).sum +
          (counts.map (·.toNat)).sum := by
  intro c facets land ms
  have h : (new facets).Permits c.source.oracle.Gives ms := by
    refine ⟨trivial, trivial, ⟨?_, rfl⟩, ⟨?_, rfl⟩, trivial, ⟨?_, rfl⟩, trivial⟩ <;>
      decide +kernel
  have hvalues : ∀ r ∈ c.records, ∀ p ∈ r.attributes, '\'' ∉ p.2.toList := by decide +kernel
  have hfacets : ∀ facet ∈ facets.all, Filter.IsName facet := by
    intro facet hf
    rcases List.mem_pair.mp hf with rfl | rfl <;> decide +kernel
  exact ⟨h, (records_conserved c (by decide +kernel) hvalues hfacets h).2 (by decide +kernel)⟩

end Course
end FacetBrowser
