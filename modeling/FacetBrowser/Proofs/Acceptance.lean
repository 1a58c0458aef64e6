import FacetBrowser.Proofs.Conservation
import FacetBrowser.Proofs.Recognition

namespace FacetBrowser

namespace Collection

variable {c : Collection} {filter : Filter} {facet : String}

theorem reconciles_answer {facets : Facets} {n : Node} {q : Question}
    (hsize : c.records.length < UInt64.size) (hn : n.query.Means filter)
    (hroot : n.id = 0 → n.query = .all)
    (hfacets : ∀ facet ∈ facets.chosen, Filter.IsName facet) (hq : q.Suits facets n) :
    ∃ a, c.source.oracle.answer q = .ok a ∧ a.Reconciles := by
  rcases answer_suits hn hroot hfacets hq with ha | ⟨facet, -, ha⟩
  · exact ⟨_, ha, c.reconciles_sampleOf filter hsize⟩
  · exact ⟨_, ha, c.reconciles_groupingOf filter facet hsize⟩

end Collection

namespace Course

theorem no_node_fails (coll : Collection) {facets : Facets} {ms : List Move}
    (hsize : coll.records.length < UInt64.size) (hvalues : coll.Unquoted)
    (hfacets : ∀ facet ∈ facets.all, Filter.IsName facet)
    (h : (new facets).Permits coll.source.oracle.Gives ms) :
    let c := (new facets).run ms
    (∀ n ∈ c.browser.tree.nodes, (∀ failure, n.stage ≠ .failed failure) ∧
      ∃ filter, Filter.parse n.query.text = .ok filter) ∧
    ∀ fetch ∈ c.outstanding,
      ∃ a, coll.source.oracle.answer fetch.question = .ok a ∧ a.Reconciles := by
  intro c
  obtain ⟨hc, ha⟩ := accounted_run h Oracle.admits_of_gives
  have hchosen := isName_chosen hfacets h
  have htallied {i : Nat} {n : Node} (hn : c.browser.node? i = some n) :
      ∃ filter, n.Tallied coll filter :=
    ha.exists_tallied hsize hvalues hchosen hc hn
  refine ⟨fun n hmem => ?_, fun fetch hf => ?_⟩
  · obtain ⟨filter, ht⟩ := htallied (hc.tree.node?_id hmem)
    exact ⟨ht.not_failed, filter, Filter.read_derived ht.query.derives⟩
  · obtain ⟨n, hn, -, hq⟩ := hc.suits hf
    obtain ⟨filter, ht⟩ := htallied hn
    exact Collection.reconciles_answer hsize ht.query (hc.query_root hn) hchosen hq

theorem no_node_fails_on_empty_pages :
    let coll : Collection := ⟨[⟨"1", "/a", [("lab", "say \"null\" and type = 1")]⟩,
      ⟨"2", "/b", [("lab", "SMITH"), ("and", "")]⟩, ⟨"3", "/c", [("lab", "smith")]⟩], 0, 2⟩
    let facets : Facets := ⟨[], ["lab", "and"], 0⟩
    let land (i : Nat) (q : Question) := Move.complete ⟨i, q⟩ (coll.source.oracle.answer q)
    let quoted := "say \"null\" and type = 1"
    let ms := [.seed, .choose "lab", land 0 .root, land 0 (.group .all "lab"), .activate 2,
      .choose "and", land 2 (.sample (.equals "lab" quoted))]
    (new facets).Permits coll.source.oracle.Gives ms ∧
      (∃ n ∈ ((new facets).run ms).browser.tree.nodes, n.query = .equals "lab" quoted ∧
        (∀ failure, n.stage ≠ .failed failure) ∧
        ∃ filter, Filter.parse n.query.text = .ok filter) ∧
      ⟨2, .group (.equals "lab" quoted) "and"⟩ ∈ ((new facets).run ms).outstanding ∧
      ∃ a, coll.source.oracle.answer (.group (.equals "lab" quoted) "and") = .ok a ∧
        a.Reconciles := by
  intro coll facets land quoted ms
  have h : (new facets).Permits coll.source.oracle.Gives ms := by
    refine ⟨trivial, trivial, ⟨?_, rfl⟩, ⟨?_, rfl⟩, trivial, trivial, ⟨?_, rfl⟩, trivial⟩ <;>
      decide +kernel
  have hvalues : ∀ r ∈ coll.records, ∀ p ∈ r.attributes, '\'' ∉ p.2.toList := by decide +kernel
  obtain ⟨hnodes, hfetches⟩ :=
    no_node_fails coll (by decide +kernel) hvalues (by decide +kernel) h
  have hn : Node.mk 2 (some 0) (some quoted) (.equals "lab" quoted) 1 (some 1) .loading ∈
      ((new facets).run ms).browser.tree.nodes := by
    decide +kernel
  have hf : (⟨2, .group (.equals "lab" quoted) "and"⟩ : Fetch) ∈
      ((new facets).run ms).outstanding := by
    decide +kernel
  exact ⟨h, ⟨_, hn, rfl, hnodes _ hn⟩, hf, hfetches _ hf⟩

end Course
end FacetBrowser
