import FacetBrowser.Proofs.Sound

namespace FacetBrowser.Course

variable {facets : Facets} {ms : List Move} {c : Course}

theorem leaf_depth_eq (h : c.Sound) {i : Nat} {n : Node} (hn : c.browser.node? i = some n)
    {listing : Listing} (hl : n.stage = .leaf listing) :
    n.depth = c.browser.facets.chosen.length :=
  Nat.le_antisymm (h.levelled hn).depth_le ((h.levelled hn).leaf_le hl)

theorem isOutdated_extended (h : c.Sound) {i : Nat} {n : Node}
    (hn : c.browser.node? i = some n) (facet : String) :
    Browser.isOutdated (c.browser.facets.extended facet) n = n.stage.isLeaf := by
  cases hl : n.stage with
  | leaf listing =>
    have hd := leaf_depth_eq h hn hl
    simp [Browser.isOutdated, hl, Stage.isLeaf, Facets.length_extended, hd]
  | _ => simp [Browser.isOutdated, hl, Stage.isLeaf]

theorem ofNode_leaf (h : c.Sound) {i : Nat} {n : Node} (hn : c.browser.node? i = some n)
    {listing : Listing} (hl : n.stage = .leaf listing) (facet : String) :
    Question.ofNode (c.browser.facets.extended facet) n = .group n.query facet := by
  apply Question.ofNode_eq_group
  simp [Facets.at?, Facets.extended, leaf_depth_eq h hn hl]

theorem regroupings_eq (h : c.Sound) (facet : String) :
    c.browser.regroupings facet = (c.browser.tree.nodes.filter (·.stage.isLeaf)).map fun n =>
      ⟨n.id, .group n.query facet⟩ := by
  have hf : c.browser.tree.nodes.filter (Browser.isOutdated (c.browser.facets.extended facet)) =
      c.browser.tree.nodes.filter (·.stage.isLeaf) := by
    apply List.filter_congr
    intro n hn
    obtain ⟨i, hi⟩ := Tree.mem_nodes_iff.mp hn
    exact isOutdated_extended h hi facet
  rw [Browser.regroupings, hf]
  apply List.map_congr_left
  intro n hn
  obtain ⟨hmem, hleaf⟩ := List.mem_filter.mp hn
  obtain ⟨i, hi⟩ := Tree.mem_nodes_iff.mp hmem
  cases hl : n.stage with
  | leaf listing => rw [ofNode_leaf h hi hl]
  | _ => simp [hl, Stage.isLeaf] at hleaf

theorem not_leaf_regrouped (h : c.Sound) (facet : String) {n : Node}
    (hn : n ∈ (c.browser.regrouped facet).tree.nodes) (listing : Listing) :
    n.stage ≠ .leaf listing := by
  intro hl
  obtain ⟨i, hi⟩ := Tree.mem_nodes_iff.mp hn
  rcases Tree.node?_regroup_cases hi with ⟨ho, hi⟩ | ⟨m, -, -, rfl⟩
  · rw [isOutdated_extended h hi] at ho
    simp [hl, Stage.isLeaf] at ho
  · cases hl

theorem levels_and_regroupings (h : (new facets).Permits Question.Admits ms) :
    let c := (new facets).run ms
    (∀ n ∈ c.browser.tree.nodes, n.depth ≤ c.browser.facets.chosen.length ∧
      (∀ listing, n.stage = .branch listing → n.depth < c.browser.facets.chosen.length) ∧
      ∀ listing, n.stage = .leaf listing → c.browser.facets.chosen.length ≤ n.depth) ∧
    ∀ facet b fetches, c.browser.choose facet = .ok (b, fetches) →
      fetches = ((c.browser.tree.nodes.filter (·.stage.isLeaf)).map fun n =>
        ⟨n.id, .group n.query facet⟩) ∧
      ∀ n ∈ b.tree.nodes, ∀ listing, n.stage ≠ .leaf listing := by
  intro c
  have hc : c.Sound := sound_run h
  refine ⟨?_, ?_⟩
  · intro n hn
    obtain ⟨i, hi⟩ := Tree.mem_nodes_iff.mp hn
    have hlevel := hc.levelled hi
    exact ⟨hlevel.depth_le, fun _ => hlevel.branch_lt, fun _ => hlevel.leaf_le⟩
  · intro facet b fetches hb
    by_cases hf : facet ∈ c.browser.facets.offered
    · rw [Browser.choose_offered hf] at hb
      cases hb
      exact ⟨regroupings_eq hc facet, fun n hn => not_leaf_regrouped hc facet hn⟩
    · rw [Browser.choose_refused hf] at hb
      cases hb

theorem leaf_regrouped_at_root :
    let ms := [Move.seed, .complete ⟨0, .root⟩ (.ok (.sample ⟨5, []⟩))]
    let c := new ⟨[], ["type"], 0⟩
    c.Permits Question.Admits ms ∧ ∃ b fetches,
      (c.run ms).browser.choose "type" = .ok (b, fetches) ∧
        fetches = [⟨0, .group .all "type"⟩] ∧
          ∀ n ∈ b.tree.nodes, ∀ listing, n.stage ≠ .leaf listing := by
  intro ms c
  have h : c.Permits Question.Admits ms :=
    ⟨trivial, ⟨List.mem_singleton.mpr rfl, .root _⟩, trivial⟩
  have hoffered : "type" ∈ (c.run ms).browser.facets.offered := List.mem_singleton.mpr rfl
  have hchoose := Browser.choose_offered hoffered
  obtain ⟨hfetches, hleaf⟩ := (levels_and_regroupings h).2 _ _ _ hchoose
  exact ⟨h, _, _, hchoose, hfetches, hleaf⟩

end FacetBrowser.Course
