import FacetBrowser.Proofs.Balance
import FacetBrowser.Proofs.Lifecycle

namespace FacetBrowser

namespace Failure

variable {a : Except SourceError Answer} {failure : Failure}

def of? : Except SourceError Answer → Option Failure
  | .error e => some (.source e)
  | .ok (.sample s) =>
    if s.items.length ≤ s.count.toNat then none else some (.inconsistent s.excess)
  | .ok (.group _ g) =>
    if g.count.toNat < g.claimed then some (.inconsistent g.excess)
    else if g.ungrouped.items.length ≤ g.ungrouped.count.toNat then none
    else some (.inconsistent g.ungrouped.excess)

theorem Of.of?_eq (h : failure.Of a) : of? a = some failure := by
  cases h with
  | source e => rfl
  | sample hs =>
    obtain ⟨hfits, rfl⟩ := Sample.unlisted_eq_error.mp hs
    exact if_neg hfits
  | groups hg =>
    obtain ⟨hlt, rfl⟩ := Grouping.unlisted_eq_error.mp hg
    exact if_pos hlt
  | ungrouped hg hs =>
    have hle := Grouping.exists_unlisted_iff.mp ⟨_, hg⟩
    obtain ⟨hfits, rfl⟩ := Sample.unlisted_eq_error.mp hs
    exact (if_neg (Nat.not_lt.mpr hle)).trans (if_neg hfits)

theorem of?_sample {s : Sample} {hidden : UInt64} (h : s.unlisted = .ok hidden) :
    of? (.ok (.sample s)) = none :=
  if_pos (Sample.exists_unlisted_iff.mp ⟨_, h⟩)

theorem of?_group {facet : String} {g : Grouping} {unlisted hidden : UInt64}
    (hg : g.unlisted = .ok unlisted) (hs : g.ungrouped.unlisted = .ok hidden) :
    of? (.ok (.group facet g)) = none := by
  have hle := Grouping.exists_unlisted_iff.mp ⟨_, hg⟩
  have hfits := Sample.exists_unlisted_iff.mp ⟨_, hs⟩
  exact (if_neg (Nat.not_lt.mpr hle)).trans (if_pos hfits)

end Failure

namespace Node

variable {n : Node} {start : Nat} {a : Except SourceError Answer}

theorem expanded_of_failure {failure : Failure} (h : Failure.of? a = some failure) :
    n.expanded start a = (.failed failure, []) := by
  have hx := n.expands start a
  generalize n.expanded start a = result at hx
  obtain ⟨stage, children⟩ := result
  cases hx with
  | failed hf => rw [Option.some.inj (hf.of?_eq.symm.trans h)]
  | leaf hlisting =>
    obtain ⟨_, hs, -⟩ := hlisting
    cases (Failure.of?_sample hs).symm.trans h
  | branch hlisting =>
    obtain ⟨_, _, hg, hs, -⟩ := hlisting
    cases (Failure.of?_group hg hs).symm.trans h

theorem expanded_of_sound (n : Node) (start : Nat) (h : Failure.of? a = none) :
    (∃ s listing, a = .ok (.sample s) ∧ n.expanded start a = (.leaf listing, [])) ∨
      ∃ facet g listing, a = .ok (.group facet g) ∧ (n.expanded start a).1 = .branch listing ∧
        listing.children = (n.expanded start a).2.map (·.id) := by
  have hx := n.expands start a
  generalize n.expanded start a = result at hx
  obtain ⟨stage, children⟩ := result
  cases hx with
  | failed hf => cases hf.of?_eq.symm.trans h
  | leaf hlisting => exact Or.inl ⟨_, _, rfl, rfl⟩
  | branch hlisting =>
    obtain ⟨_, _, -, -, -, harranged⟩ := hlisting.arranged
    exact Or.inr ⟨_, _, _, rfl, rfl, harranged.children⟩

end Node

theorem Growth.ids {n : Node} {start : Nat} {stage : Stage} {children : List Node}
    (h : Growth n start stage children) :
    children.map (·.id) = List.range' start children.length := by
  refine List.ext_getElem (by simp) fun k hk _ => ?_
  have hk' : k < children.length := by simpa using hk
  rw [List.getElem_map, List.getElem_range', (h.child (List.getElem?_eq_getElem hk')).1,
    Nat.one_mul]

theorem Tree.nodes_grow {t : Tree} {n : Node} (hn : n.id < t.nodes.length) (stage : Stage)
    (children : List Node) : (t.grow n stage children).nodes =
      t.nodes.set n.id { n with stage := stage } ++ children := by
  simp only [grow, set, List.set_append_left _ _ hn]

namespace Browser

variable {b : Browser} {r : Reply} {n : Node}

def Expects (b : Browser) (r : Reply) (n : Node) : Prop :=
  b.node? r.node = some n ∧ n.stage = .loading ∧ n.isStale b.facets r.answer = false

theorem receive_expected (h : b.Expects r n) : (b.receive r).1 =
    b.grown n (n.expanded b.tree.nodes.length r.answer).1
      (n.expanded b.tree.nodes.length r.answer).2 := by
  obtain ⟨hn, hl, hfresh⟩ := h
  rw [receive_fresh hn hl hfresh]

theorem receive_unexpected (h : ∀ n, ¬ b.Expects r n) : (b.receive r).1 = b := by
  cases hn : b.node? r.node with
  | none => rw [receive_unknown hn]
  | some n =>
    by_cases hl : n.stage = .loading
    · cases hs : n.isStale b.facets r.answer with
      | true => rw [receive_stale hn hl hs]
      | false => exact absurd ⟨hn, hl, hs⟩ (h n)
    · rw [receive_idle hn hl]

theorem receive_eq_or_expects (b : Browser) (r : Reply) :
    (b.receive r).1 = b ∨ ∃ n, b.Expects r n := by
  by_cases h : ∃ n, b.Expects r n
  · exact Or.inr h
  · exact Or.inl (receive_unexpected fun n hn => h ⟨n, hn⟩)

section Expected

variable (hb : b.tree.WellFormed) (h : b.Expects r n)
include hb h

theorem Expects.node?_id : b.tree.node? n.id = some n :=
  hb.id_eq h.1 ▸ h.1

theorem Expects.nodes_receive : (b.receive r).1.tree.nodes =
    b.tree.nodes.set r.node { n with stage := (n.expanded b.tree.nodes.length r.answer).1 } ++
      (n.expanded b.tree.nodes.length r.answer).2 := by
  have hlt := Tree.lt_of_node? (h.node?_id hb)
  rw [receive_expected h, ← hb.id_eq h.1]
  exact Tree.nodes_grow hlt _ _

theorem Expects.node?_receive_ne {i : Nat} {m : Node} (hm : b.node? i = some m)
    (hi : i ≠ r.node) : (b.receive r).1.node? i = some m := by
  rw [receive_expected h]
  exact Tree.node?_grow_old (hb.id_eq h.1 ▸ hi) hm

theorem Expects.branch_of_growth
    (hlen : (b.receive r).1.tree.nodes.length ≠ b.tree.nodes.length) :
    ∃ listing, (b.receive r).1.node? r.node = some { n with stage := .branch listing } := by
  have hg := n.growth_expanded b.tree.nodes.length r.answer
  have hne : (n.expanded b.tree.nodes.length r.answer).2 ≠ [] := by
    intro hnil
    rw [h.nodes_receive hb, hnil, List.append_nil, List.length_set] at hlen
    exact hlen rfl
  obtain ⟨listing, hs⟩ := hg.branch hne
  refine ⟨listing, ?_⟩
  rw [receive_expected h, ← hb.id_eq h.1, ← hs]
  exact Tree.node?_grow_self (Tree.lt_of_node? (h.node?_id hb))

end Expected

end Browser

namespace Course

theorem reply_confined (facets : Facets) (ms : List Move) (r : Reply) :
    let b := ((new facets).run ms).browser
    let b' := (b.receive r).1
    b'.facets = b.facets ∧
    (∀ i n, b.node? i = some n → i ≠ r.node → b'.node? i = some n) ∧
    (b'.tree.nodes.length ≠ b.tree.nodes.length → ∃ n listing, b.Expects r n ∧
      b'.node? r.node = some { n with stage := .branch listing }) ∧
    ((b.node? r.node = none ∨ ∃ n, b.node? r.node = some n ∧ (n.stage ≠ .loading ∨
      ∃ s, r.answer = .ok (.sample s) ∧ n.depth < b.facets.chosen.length)) → b'.tree = b.tree) ∧
    ∀ n, b.Expects r n → ∃ stage added,
      b'.tree.nodes = b.tree.nodes.set r.node { n with stage := stage } ++ added ∧
      (∀ failure, Failure.of? r.answer = some failure → stage = .failed failure ∧ added = []) ∧
      (Failure.of? r.answer = none →
        (∃ s listing, r.answer = .ok (.sample s) ∧ stage = .leaf listing ∧ added = []) ∨
        ∃ facet g listing, r.answer = .ok (.group facet g) ∧ stage = .branch listing ∧
          listing.children = added.map (·.id) ∧
          listing.children = List.range' b.tree.nodes.length added.length ∧
          ∀ m ∈ added, m.stage = .collapsed ∧ m.parent = some r.node) := by
  intro b b'
  have hb : b.tree.WellFormed := wellFormed_run Tree.seedling_wellFormed ms
  have hcases : b' = b ∨ ∃ n, b.Expects r n := b.receive_eq_or_expects r
  refine ⟨?_, ?_, ?_, ?_, ?_⟩
  · rcases hcases with h | ⟨n, h⟩
    · rw [h]
    · rw [show b' = _ from Browser.receive_expected h, Browser.grown]
  · intro i m hm hi
    rcases hcases with h | ⟨n, h⟩
    · rwa [h]
    · exact h.node?_receive_ne hb hm hi
  · intro hlen
    rcases hcases with h | ⟨n, h⟩
    · exact absurd (congrArg (·.tree.nodes.length) h) hlen
    · obtain ⟨listing, hs⟩ := h.branch_of_growth hb hlen
      exact ⟨n, listing, h, hs⟩
  · intro hignored
    refine congrArg Browser.tree (Browser.receive_unexpected ?_)
    rintro n ⟨hn, hl, hfresh⟩
    rcases hignored with hnone | ⟨m, hm, hignored⟩
    · cases hnone.symm.trans hn
    · obtain rfl := Option.some.inj (hm.symm.trans hn)
      rcases hignored with hidle | ⟨s, hs, hd⟩
      · exact hidle hl
      · rw [hs] at hfresh
        exact absurd hd (of_decide_eq_false hfresh)
  · intro n h
    have hg := n.growth_expanded b.tree.nodes.length r.answer
    refine ⟨_, _, h.nodes_receive hb, ?_, ?_⟩
    · intro failure hf
      exact Prod.mk.inj (Node.expanded_of_failure hf)
    · intro hsound
      rcases n.expanded_of_sound b.tree.nodes.length hsound with
        ⟨s, listing, ha, hs⟩ | ⟨facet, g, listing, ha, hs, hlisted⟩
      · exact Or.inl ⟨s, listing, ha, Prod.mk.inj hs⟩
      · refine Or.inr ⟨facet, g, listing, ha, hs, hlisted, hlisted.trans hg.ids, ?_⟩
        intro m hm
        obtain ⟨k, hk⟩ := List.mem_iff_getElem?.mp hm
        obtain ⟨-, hp, -, hc⟩ := hg.child hk
        exact ⟨hc, hb.id_eq h.1 ▸ hp⟩

theorem late_mismatch_leaves_no_children :
    let groups : Answer := .group "type" ⟨5, [⟨"csv", 3⟩, ⟨"json", 2⟩], ⟨0, []⟩⟩
    let items : List Item := [⟨"7", "/x.nwb"⟩, ⟨"8", "/y.nwb"⟩]
    let ms := [.seed, .choose "type", .complete ⟨0, .root⟩ (.ok (.sample ⟨5, []⟩)),
      .complete ⟨0, .group .all "type"⟩ (.ok groups), .choose "lab", .activate 1]
    let b := ((new ⟨[], ["type", "lab"], 0⟩).run ms).browser
    let r : Reply := ⟨1, .ok (.group "lab" ⟨3, [⟨"smith", 2⟩], ⟨1, items⟩⟩)⟩
    ∃ n, b.Expects r n ∧ (b.receive r).1.tree.nodes =
      b.tree.nodes.set 1 { n with stage := .failed (.inconsistent ⟨1, 2⟩) } := by
  intro groups items ms b r
  have hn : b.Expects r ⟨1, some 0, some "csv", .equals "type" "csv", 1, some 3, .loading⟩ := by
    refine ⟨?_, rfl, rfl⟩
    decide +kernel
  have hf : Failure.of? r.answer = some (.inconsistent ⟨1, 2⟩) := by decide +kernel
  obtain ⟨-, -, -, -, hexpected⟩ := reply_confined ⟨[], ["type", "lab"], 0⟩ ms r
  obtain ⟨stage, added, hnodes, hfailed, -⟩ := hexpected _ hn
  obtain ⟨rfl, rfl⟩ := hfailed _ hf
  rw [List.append_nil] at hnodes
  exact ⟨_, hn, hnodes⟩

end Course
end FacetBrowser
