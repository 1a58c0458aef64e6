import FacetBrowser.Proofs.Sound

namespace FacetBrowser.Course

variable {facets : Facets} {ms : List Move} {c : Course}

theorem seeded_iff_mem_seed (h : (new facets).Permits Question.Admits ms) :
    ((new facets).run ms).browser.seeded = true ↔ Move.seed ∈ ms := by
  refine h.invariant (P := fun ms c => c.browser.seeded = true ↔ Move.seed ∈ ms)
    (by simp [new, Browser.new]) ?_
  intro ms c m ih hm
  rw [List.mem_append, ← ih]
  have hstep := hm.step
  generalize c.after m = c' at hstep ⊢
  cases hstep with
  | seeded hs => simp [hs]
  | seed hs => simp
  | _ => simp [Browser.grown, Browser.regrouped]

theorem count_node_eq_one (h : c.Sound) {i : Nat} (hi : i ∈ c.outstanding.map (·.node)) :
    (c.outstanding.map (·.node)).count i = 1 :=
  List.count_eq_one_of_mem h.nodup hi

theorem outcome_of_outstanding (h : c.Sound) {fetch : Fetch} (hf : fetch ∈ c.outstanding)
    (a : Except SourceError Answer) :
    ((c.browser.receive ⟨fetch.node, a⟩).2.changed.isSome ^^
      (c.browser.receive ⟨fetch.node, a⟩).2.followUp.isSome) = true := by
  obtain ⟨n, hn, hl, -⟩ := h.suits hf
  cases hs : n.isStale c.browser.facets a with
  | true => rw [Browser.receive_stale (r := ⟨fetch.node, a⟩) hn hl hs]; rfl
  | false => rw [Browser.receive_fresh (r := ⟨fetch.node, a⟩) hn hl hs]; rfl

theorem loading_iff_one_outstanding (h : (new facets).Permits Question.Admits ms) :
    let c := (new facets).run ms
    (∀ i n, c.browser.node? i = some n →
      (n.stage = .loading ∧ (i = 0 → Move.seed ∈ ms) →
        (c.outstanding.map (·.node)).count i = 1) ∧
      (n.stage ≠ .loading ∨ i = 0 ∧ Move.seed ∉ ms →
        (c.outstanding.map (·.node)).count i = 0)) ∧
    (∀ fetch ∈ c.outstanding, ∃ n, c.browser.node? fetch.node = some n ∧ n.stage = .loading ∧
      ∀ query facet, fetch.question = .group query facet →
        c.browser.facets.chosen[n.depth]? = some facet) ∧
    ∀ fetch ∈ c.outstanding, ∀ a, fetch.question.Admits a →
      ((c.browser.receive ⟨fetch.node, a⟩).2.changed.isSome ^^
        (c.browser.receive ⟨fetch.node, a⟩).2.followUp.isSome) = true := by
  intro c
  have hc : c.Sound := sound_run h
  have hseed : c.browser.seeded = true ↔ Move.seed ∈ ms := seeded_iff_mem_seed h
  refine ⟨?_, ?_, ?_⟩
  · intro i n hn
    rw [← hseed]
    refine ⟨fun hw => count_node_eq_one hc ((hc.awaited hn).mp hw), fun hw => ?_⟩
    apply List.count_eq_zero_of_not_mem
    rw [← hc.awaited hn]
    rintro ⟨hl, hs⟩
    rcases hw with hw | ⟨hi, hw⟩
    · exact hw hl
    · exact hw (hs hi)
  · intro fetch hf
    obtain ⟨n, hn, hl, hq⟩ := hc.suits hf
    refine ⟨n, hn, hl, ?_⟩
    intro query facet hg
    rw [hg] at hq
    exact hq.2
  · intro fetch hf a _
    exact outcome_of_outstanding hc hf a

theorem root_outstanding_after_stale_sample :
    let ms := [Move.seed, .choose "type", .complete ⟨0, .root⟩ (.ok (.sample ⟨5, []⟩))]
    let c := new ⟨[], ["type"], 0⟩
    c.Permits Question.Admits ms ∧ ((c.run ms).outstanding.map (·.node)).count 0 = 1 := by
  intro ms c
  have h : c.Permits Question.Admits ms :=
    ⟨trivial, trivial, ⟨List.mem_singleton.mpr rfl, .root _⟩, trivial⟩
  exact ⟨h, ((loading_iff_one_outstanding h).1 0 _ rfl).1 ⟨rfl, fun _ => List.mem_cons_self⟩⟩

end FacetBrowser.Course
