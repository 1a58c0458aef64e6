import FacetBrowser.Proofs.Transition

namespace FacetBrowser

namespace Facets

theorem at?_extended {f : Facets} {depth : Nat} {facet : String} (h : f.at? depth = some facet)
    (added : String) : (f.extended added).at? depth = some facet := by
  have hlt : depth < f.chosen.length := (List.getElem?_eq_some_iff.mp h).1
  simp only [at?, extended, List.getElem?_append_left hlt]
  exact h

theorem length_extended (f : Facets) (facet : String) :
    (f.extended facet).chosen.length = f.chosen.length + 1 := by
  simp [extended]

theorem lt_of_at? {f : Facets} {depth : Nat} {facet : String} (h : f.at? depth = some facet) :
    depth < f.chosen.length :=
  (List.getElem?_eq_some_iff.mp h).1

end Facets

namespace Question

variable {facets : Facets} {n : Node} {q : Question}

def Suits (facets : Facets) (n : Node) : Question → Prop
  | .root => n.id = 0
  | .sample query => query = n.query ∧ n.id ≠ 0
  | .group query facet => query = n.query ∧ facets.at? n.depth = some facet

theorem ofNode_eq_group {facet : String} (h : facets.at? n.depth = some facet) :
    ofNode facets n = .group n.query facet := by
  simp only [ofNode, h]

theorem suits_ofNode (h : n.depth < facets.chosen.length ∨ n.id ≠ 0) :
    (ofNode facets n).Suits facets n := by
  cases hf : facets.at? n.depth with
  | some facet =>
    rw [ofNode_eq_group hf]
    exact ⟨rfl, hf⟩
  | none =>
    have hlen : facets.chosen.length ≤ n.depth := List.getElem?_eq_none_iff.mp hf
    simp only [ofNode, hf]
    exact ⟨rfl, h.resolve_left (Nat.not_lt.mpr hlen)⟩

theorem Suits.extended (h : q.Suits facets n) (facet : String) :
    q.Suits (facets.extended facet) n := by
  cases q with
  | root => exact h
  | sample query => exact h
  | group query grouped => exact ⟨h.1, Facets.at?_extended h.2 facet⟩

end Question

namespace Node

variable {facets : Facets} {n : Node}

theorem expanded_cases (n : Node) (start : Nat) (a : Except SourceError Answer) :
    (∃ listing facet g, (n.expanded start a).1 = .branch listing ∧ a = .ok (.group facet g)) ∨
    (∃ listing s, (n.expanded start a).1 = .leaf listing ∧ a = .ok (.sample s)) ∨
    ∃ failure, (n.expanded start a).1 = .failed failure := by
  match a with
  | .error e => exact Or.inr (Or.inr ⟨_, rfl⟩)
  | .ok (.sample s) =>
    simp only [expanded]
    cases s.unlisted with
    | error mismatch => exact Or.inr (Or.inr ⟨_, rfl⟩)
    | ok unlisted => exact Or.inr (Or.inl ⟨_, s, rfl, rfl⟩)
  | .ok (.group facet g) =>
    simp only [expanded]
    cases g.unlisted with
    | error mismatch => exact Or.inr (Or.inr ⟨_, rfl⟩)
    | ok unlisted =>
      cases g.ungrouped.unlisted with
      | error mismatch => exact Or.inr (Or.inr ⟨_, rfl⟩)
      | ok ungrouped => exact Or.inl ⟨_, facet, g, rfl, rfl⟩

theorem group_of_expanded_branch {start : Nat} {a : Except SourceError Answer}
    {listing : Listing} (h : (n.expanded start a).1 = .branch listing) :
    ∃ facet g, a = .ok (.group facet g) := by
  rcases n.expanded_cases start a with ⟨_, facet, g, -, ha⟩ | ⟨_, _, hs, -⟩ | ⟨_, hs⟩
  · exact ⟨facet, g, ha⟩
  · rw [hs] at h
    cases h
  · rw [hs] at h
    cases h

theorem sample_of_expanded_leaf {start : Nat} {a : Except SourceError Answer}
    {listing : Listing} (h : (n.expanded start a).1 = .leaf listing) :
    ∃ s, a = .ok (.sample s) := by
  rcases n.expanded_cases start a with ⟨_, _, _, hs, -⟩ | ⟨_, s, -, ha⟩ | ⟨_, hs⟩
  · rw [hs] at h
    cases h
  · exact ⟨s, ha⟩
  · rw [hs] at h
    cases h

theorem expanded_ne_loading (n : Node) (start : Nat) (a : Except SourceError Answer) :
    (n.expanded start a).1 ≠ .loading := by
  rcases n.expanded_cases start a with ⟨_, _, _, hs, -⟩ | ⟨_, _, hs, -⟩ | ⟨_, hs⟩ <;> simp [hs]

theorem expanded_ne_collapsed (n : Node) (start : Nat) (a : Except SourceError Answer) :
    (n.expanded start a).1 ≠ .collapsed := by
  rcases n.expanded_cases start a with ⟨_, _, _, hs, -⟩ | ⟨_, _, hs, -⟩ | ⟨_, hs⟩ <;> simp [hs]

structure Levelled (facets : Facets) (n : Node) : Prop where
  depth_le : n.depth ≤ facets.chosen.length
  branch_lt : ∀ {listing : Listing}, n.stage = .branch listing → n.depth < facets.chosen.length
  leaf_le : ∀ {listing : Listing}, n.stage = .leaf listing → facets.chosen.length ≤ n.depth

theorem Levelled.of_plain {s : Stage} (h : n.depth ≤ facets.chosen.length)
    (hb : ∀ listing, s ≠ .branch listing) (hl : ∀ listing, s ≠ .leaf listing) :
    Levelled facets { n with stage := s } :=
  ⟨h, fun hs => absurd hs (hb _), fun hs => absurd hs (hl _)⟩

theorem Levelled.extended (h : n.Levelled facets) {facet : String}
    (ho : Browser.isOutdated (facets.extended facet) n = false) :
    n.Levelled (facets.extended facet) where
  depth_le := by
    rw [Facets.length_extended]
    exact Nat.le_succ_of_le h.depth_le
  branch_lt := by
    intro listing hs
    rw [Facets.length_extended]
    exact Nat.lt_succ_of_lt (h.branch_lt hs)
  leaf_le := by
    intro listing hs
    simpa [Browser.isOutdated, hs, Stage.isLeaf] using ho

theorem levelled_expanded {q : Question} {a : Except SourceError Answer} (start : Nat)
    (h : n.depth ≤ facets.chosen.length) (ha : q.Admits a) (hq : q.Suits facets n)
    (hfresh : n.isStale facets a = false) :
    Levelled facets { n with stage := (n.expanded start a).1 } where
  depth_le := h
  branch_lt := by
    intro listing hs
    obtain ⟨facet, g, rfl⟩ := group_of_expanded_branch hs
    cases ha
    exact Facets.lt_of_at? hq.2
  leaf_le := by
    intro listing hs
    obtain ⟨s, rfl⟩ := sample_of_expanded_leaf hs
    exact Nat.le_of_not_lt (of_decide_eq_false hfresh)

end Node

end FacetBrowser
