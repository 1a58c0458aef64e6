import FacetBrowser.Proofs.Transition

namespace FacetBrowser

structure Growth (n : Node) (start : Nat) (stage : Stage) (children : List Node) : Prop where
  lists : ∀ {k i : Nat}, stage.rows[k]? = some (.child i) ↔ k < children.length ∧ i = start + k
  branch : children ≠ [] → ∃ listing, stage = .branch listing
  child : ∀ {k : Nat} {m : Node}, children[k]? = some m →
    m.id = start + k ∧ m.parent = some n.id ∧ m.depth = n.depth + 1 ∧ m.stage = .collapsed

namespace Growth

theorem of_childless (n : Node) (start : Nat) {stage : Stage}
    (h : ∀ i, Row.child i ∉ stage.rows) : Growth n start stage [] where
  lists := by
    intro k i
    constructor
    · intro hk
      exact absurd (List.mem_of_getElem? hk) (h i)
    · intro hk
      exact absurd hk.1 (Nat.not_lt_zero k)
  branch := fun hne => absurd rfl hne
  child := by simp

theorem loading (n : Node) (start : Nat) : Growth n start .loading [] :=
  of_childless n start fun _ => List.not_mem_nil

theorem row_ne_child {n m : Node} {start : Nat} {stage : Stage} {children : List Node}
    (h : Growth n start stage children) {j k i : Nat} (hm : children[j]? = some m) :
    m.stage.rows[k]? ≠ some (.child i) := by
  simp [(h.child hm).2.2.2, Stage.rows, Stage.listing?]

end Growth

namespace Node

theorem getElem?_childrenOf (n : Node) (facet : String) (start : Nat) (groups : List Group)
    (k : Nat) : (Browser.childrenOf n facet start groups)[k]? =
      groups[k]?.map fun group => n.child facet (start + k) group := by
  simp only [Browser.childrenOf, List.getElem?_mapIdx]

theorem child_not_mem_plain (items : List Item) (count : UInt64) (i : Nat) :
    Row.child i ∉ items.map Row.item ++ Browser.moreRows count := by
  simp only [Browser.moreRows]
  split <;> simp

theorem growth_branch (n : Node) (facet : String) (start : Nat) (g : Grouping)
    (unlisted ungrouped : UInt64) :
    Growth n start
      (.branch ⟨g.count, (Browser.childrenOf n facet start g.groups).map (.child ·.id)
        ++ Browser.moreRows unlisted ++ g.ungrouped.items.map .item
        ++ Browser.moreRows ungrouped⟩)
      (Browser.childrenOf n facet start g.groups) where
  lists := by
    intro k i
    have htail : ∀ j, Row.child j ∉ Browser.moreRows unlisted ++
        (g.ungrouped.items.map Row.item ++ Browser.moreRows ungrouped) := by
      intro j hj
      rcases List.mem_append.mp hj with hj | hj
      · exact child_not_mem_plain [] unlisted j hj
      · exact child_not_mem_plain _ _ j hj
    simp only [Stage.rows, Stage.listing?, List.append_assoc]
    by_cases hk : k < (Browser.childrenOf n facet start g.groups).length
    · rw [List.getElem?_append_left (by simpa using hk), List.getElem?_map,
        getElem?_childrenOf]
      have hg : k < g.groups.length := by simpa [Browser.childrenOf] using hk
      simp only [List.getElem?_eq_getElem hg, Option.map_some, Node.child, Option.some.injEq,
        Row.child.injEq, hk, true_and]
      exact eq_comm
    · constructor
      · intro h
        rw [List.getElem?_append_right (by simpa using hk)] at h
        exact absurd (List.mem_of_getElem? h) (htail i)
      · exact fun h => absurd h.1 hk
  branch := fun _ => ⟨_, rfl⟩
  child := by
    intro k m hm
    rw [getElem?_childrenOf] at hm
    obtain ⟨group, -, rfl⟩ := Option.map_eq_some_iff.mp hm
    exact ⟨rfl, rfl, rfl, rfl⟩

theorem growth_expanded (n : Node) (start : Nat) (a : Except SourceError Answer) :
    Growth n start (n.expanded start a).1 (n.expanded start a).2 := by
  have hfailed (failure : Failure) : Growth n start (.failed failure) [] :=
    .of_childless n start fun _ => List.not_mem_nil
  match a with
  | .error e => exact hfailed _
  | .ok (.sample s) =>
    simp only [expanded]
    cases s.unlisted with
    | error mismatch => exact hfailed _
    | ok unlisted => exact .of_childless n start (child_not_mem_plain s.items unlisted)
  | .ok (.group facet g) =>
    simp only [expanded]
    cases g.unlisted with
    | error mismatch => exact hfailed _
    | ok unlisted =>
      cases g.ungrouped.unlisted with
      | error mismatch => exact hfailed _
      | ok ungrouped => exact growth_branch n facet start g unlisted ungrouped

end Node

namespace Tree

variable {t : Tree} {n m : Node} {stage : Stage} {children : List Node}

structure WellFormed (t : Tree) : Prop where
  id_eq : ∀ {i : Nat} {n : Node}, t.node? i = some n → n.id = i
  root : ∃ stage, t.node? 0 = some { Node.root with stage := stage }
  parent : ∀ {i : Nat} {n : Node}, t.node? i = some n → i ≠ 0 →
    ∃ (p : Nat) (m : Node) (k : Nat), n.parent = some p ∧ p < i ∧ t.node? p = some m ∧
      n.depth = m.depth + 1 ∧ m.stage.rows[k]? = some (.child i)
  child : ∀ {p k i : Nat} {m : Node}, t.node? p = some m →
    m.stage.rows[k]? = some (.child i) →
    (∃ listing, m.stage = .branch listing) ∧ ∃ n, t.node? i = some n ∧ n.parent = some p
  once : ∀ {p j k i : Nat} {m : Node}, t.node? p = some m →
    m.stage.rows[j]? = some (.child i) → m.stage.rows[k]? = some (.child i) → j = k

theorem WellFormed.root_eq (h : t.WellFormed) (hn : t.node? 0 = some n) :
    n = { Node.root with stage := n.stage } := by
  obtain ⟨stage, hroot⟩ := h.root
  rw [hn] at hroot
  obtain rfl := Option.some.inj hroot
  rfl

theorem WellFormed.node?_id (h : t.WellFormed) (hmem : n ∈ t.nodes) : t.node? n.id = some n := by
  obtain ⟨i, hn⟩ := mem_nodes_iff.mp hmem
  obtain rfl := h.id_eq hn
  exact hn

theorem node?_seedling {i : Nat} (h : seedling.node? i = some n) : i = 0 ∧ n = .root := by
  cases i with
  | zero => exact ⟨rfl, (Option.some.inj h).symm⟩
  | succ i => simp [seedling, node?] at h

theorem seedling_wellFormed : seedling.WellFormed := by
  constructor
  · intro i n h
    obtain ⟨rfl, rfl⟩ := node?_seedling h
    rfl
  · exact ⟨_, rfl⟩
  · intro i n h hi
    exact absurd (node?_seedling h).1 hi
  · intro p k i m h hk
    obtain ⟨rfl, rfl⟩ := node?_seedling h
    simp [Node.root, Stage.rows, Stage.listing?] at hk
  · intro p j k i m h hj hk
    obtain ⟨rfl, rfl⟩ := node?_seedling h
    simp [Node.root, Stage.rows, Stage.listing?] at hk

theorem WellFormed.row_ne_child (h : t.WellFormed) {p : Nat} (hn : t.node? p = some n)
    (hs : ∀ listing, n.stage ≠ .branch listing) {k i : Nat} :
    n.stage.rows[k]? ≠ some (.child i) := by
  intro hk
  obtain ⟨⟨listing, hl⟩, -⟩ := h.child hn hk
  exact hs listing hl

theorem root_grow (h : t.WellFormed) (hn : t.node? n.id = some n) :
    ∃ s, (t.grow n stage children).node? 0 = some { Node.root with stage := s } := by
  obtain ⟨s, hs⟩ := h.root
  by_cases h0 : n.id = 0
  · rw [h0, hs] at hn
    obtain rfl := Option.some.inj hn
    exact ⟨stage, node?_grow_self (n := { Node.root with stage := s }) (lt_of_node? hs)⟩
  · exact ⟨s, node?_grow_old (Ne.symm h0) hs⟩

theorem parent_grow (h : t.WellFormed) (hn : t.node? n.id = some n)
    (hs : ∀ listing, n.stage ≠ .branch listing)
    (hg : Growth n t.nodes.length stage children) {i : Nat}
    (hm : (t.grow n stage children).node? i = some m) (hi : i ≠ 0) :
    ∃ (p : Nat) (q : Node) (k : Nat), m.parent = some p ∧ p < i ∧
      (t.grow n stage children).node? p = some q ∧ m.depth = q.depth + 1 ∧
        q.stage.rows[k]? = some (.child i) := by
  have hlt := lt_of_node? hn
  have hold {q : Node} (hq : t.node? i = some q) : ∃ (p : Nat) (r : Node) (k : Nat),
      q.parent = some p ∧ p < i ∧ (t.grow n stage children).node? p = some r ∧
        q.depth = r.depth + 1 ∧ r.stage.rows[k]? = some (.child i) := by
    obtain ⟨p, r, k, hp, hpi, hr, hd, hk⟩ := h.parent hq hi
    have hpn : p ≠ n.id := by
      rintro rfl
      obtain rfl := Option.some.inj (hn.symm.trans hr)
      exact h.row_ne_child hn hs hk
    exact ⟨p, r, k, hp, hpi, node?_grow_old hpn hr, hd, hk⟩
  rcases node?_grow_cases hlt hm with ⟨rfl, rfl⟩ | ⟨-, hm⟩ | ⟨k, rfl, hc⟩
  · exact hold (q := n) hn
  · exact hold hm
  · obtain ⟨-, hp, hd, -⟩ := hg.child hc
    have hk : k < children.length := (List.getElem?_eq_some_iff.mp hc).1
    exact ⟨n.id, _, k, hp, by omega, node?_grow_self hlt, hd, hg.lists.mpr ⟨hk, rfl⟩⟩

theorem child_grow (h : t.WellFormed) (hn : t.node? n.id = some n)
    (hg : Growth n t.nodes.length stage children) {p k i : Nat}
    (hm : (t.grow n stage children).node? p = some m)
    (hk : m.stage.rows[k]? = some (.child i)) :
    (∃ listing, m.stage = .branch listing) ∧
      ∃ q, (t.grow n stage children).node? i = some q ∧ q.parent = some p := by
  have hlt := lt_of_node? hn
  rcases node?_grow_cases hlt hm with ⟨rfl, rfl⟩ | ⟨-, hm⟩ | ⟨j, -, hc⟩
  · obtain ⟨hlen, rfl⟩ := hg.lists.mp hk
    have hc : children[k]? = some children[k] := List.getElem?_eq_getElem hlen
    refine ⟨hg.branch (List.ne_nil_of_length_pos (Nat.zero_lt_of_lt hlen)), _, ?_,
      (hg.child hc).2.1⟩
    rw [node?_grow_new hlt, hc]
  · obtain ⟨hb, q, hq, hp⟩ := h.child hm hk
    refine ⟨hb, ?_⟩
    by_cases hi : i = n.id
    · subst hi
      obtain rfl := Option.some.inj (hn.symm.trans hq)
      exact ⟨_, node?_grow_self hlt, hp⟩
    · exact ⟨q, node?_grow_old hi hq, hp⟩
  · exact absurd hk (hg.row_ne_child hc)

theorem wellFormed_grow (h : t.WellFormed) (hn : t.node? n.id = some n)
    (hs : ∀ listing, n.stage ≠ .branch listing)
    (hg : Growth n t.nodes.length stage children) :
    (t.grow n stage children).WellFormed where
  id_eq := by
    intro i m hm
    rcases node?_grow_cases (lt_of_node? hn) hm with ⟨rfl, rfl⟩ | ⟨-, hm⟩ | ⟨k, rfl, hc⟩
    · rfl
    · exact h.id_eq hm
    · exact (hg.child hc).1
  root := root_grow h hn
  parent := parent_grow h hn hs hg
  child := child_grow h hn hg
  once := by
    intro p j k i m hm hj hk
    rcases node?_grow_cases (lt_of_node? hn) hm with ⟨rfl, rfl⟩ | ⟨-, hm⟩ | ⟨l, -, hc⟩
    · have h1 := (hg.lists.mp hj).2
      have h2 := (hg.lists.mp hk).2
      omega
    · exact h.once hm hj hk
    · exact absurd hk (hg.row_ne_child hc)

theorem leaf_of_isOutdated {facets : Facets} (h : Browser.isOutdated facets n = true) :
    ∃ listing, n.stage = .leaf listing := by
  cases hs : n.stage with
  | leaf listing => exact ⟨listing, rfl⟩
  | _ => simp [Browser.isOutdated, Stage.isLeaf, hs] at h

theorem node?_regroup_cases {facets : Facets} {i : Nat}
    (h : (t.regroup facets).node? i = some m) :
    (Browser.isOutdated facets m = false ∧ t.node? i = some m) ∨
      ∃ n, Browser.isOutdated facets n = true ∧ t.node? i = some n ∧
        m = { n with stage := .loading } := by
  rw [node?_regroup] at h
  obtain ⟨n, hn, hm⟩ := Option.map_eq_some_iff.mp h
  cases ho : Browser.isOutdated facets n with
  | true =>
    simp only [ho, if_true] at hm
    exact Or.inr ⟨n, ho, hn, hm.symm⟩
  | false =>
    simp only [ho, Bool.false_eq_true, if_false] at hm
    subst hm
    exact Or.inl ⟨ho, hn⟩

theorem node?_regroup_outdated {facets : Facets} {i : Nat} (h : t.node? i = some n)
    (ho : Browser.isOutdated facets n = true) :
    (t.regroup facets).node? i = some { n with stage := .loading } := by
  simp only [node?_regroup, h, Option.map_some, ho, if_true]

theorem node?_regroup_kept {facets : Facets} {i : Nat} (h : t.node? i = some n)
    (ho : Browser.isOutdated facets n = false) : (t.regroup facets).node? i = some n := by
  simp only [node?_regroup, h, Option.map_some, ho, Bool.false_eq_true, if_false]

def Extends (t t' : Tree) : Prop :=
  ∀ {i : Nat} {n : Node}, t.node? i = some n →
    ∃ stage, t'.node? i = some { n with stage := stage }

theorem extends_grow (hn : t.node? n.id = some n) : t.Extends (t.grow n stage children) := by
  intro i m hm
  by_cases hi : i = n.id
  · subst hi
    rw [hn] at hm
    obtain rfl := Option.some.inj hm
    exact ⟨stage, node?_grow_self (lt_of_node? hn)⟩
  · exact ⟨_, node?_grow_old hi hm⟩

theorem extends_regroup (t : Tree) (facets : Facets) : t.Extends (t.regroup facets) := by
  intro i n hn
  cases ho : Browser.isOutdated facets n with
  | true => exact ⟨_, node?_regroup_outdated hn ho⟩
  | false => exact ⟨_, node?_regroup_kept hn ho⟩

theorem node?_regroup_listed (h : t.WellFormed) (facets : Facets) {p k i : Nat}
    (hm : t.node? p = some m) (hk : m.stage.rows[k]? = some (.child i)) :
    (t.regroup facets).node? p = some m := by
  obtain ⟨⟨listing, hb⟩, -⟩ := h.child hm hk
  refine node?_regroup_kept hm (Bool.eq_false_iff.mpr fun ho => ?_)
  obtain ⟨leaf, hl⟩ := leaf_of_isOutdated ho
  rw [hb] at hl
  cases hl

theorem wellFormed_regroup (h : t.WellFormed) (facets : Facets) :
    (t.regroup facets).WellFormed := by
  have hlists {p k i : Nat} {m : Node} (hm : (t.regroup facets).node? p = some m)
      (hk : m.stage.rows[k]? = some (.child i)) : t.node? p = some m := by
    rcases node?_regroup_cases hm with ⟨-, hm⟩ | ⟨q, -, -, rfl⟩
    · exact hm
    · simp [Stage.rows, Stage.listing?] at hk
  constructor
  · intro i m hm
    rcases node?_regroup_cases hm with ⟨-, hm⟩ | ⟨n, -, hn, rfl⟩
    · exact h.id_eq hm
    · show n.id = i
      exact h.id_eq hn
  · obtain ⟨stage, hroot⟩ := h.root
    obtain ⟨stage', hroot'⟩ := extends_regroup t facets hroot
    exact ⟨stage', hroot'⟩
  · intro i m hm hi
    have hold : ∃ n, t.node? i = some n ∧ n.parent = m.parent ∧ n.depth = m.depth := by
      rcases node?_regroup_cases hm with ⟨-, hm⟩ | ⟨n, -, hn, rfl⟩
      · exact ⟨m, hm, rfl, rfl⟩
      · exact ⟨n, hn, rfl, rfl⟩
    obtain ⟨n, hn, hp, hd⟩ := hold
    obtain ⟨p, q, k, hpar, hpi, hq, hdep, hk⟩ := h.parent hn hi
    exact ⟨p, q, k, hp ▸ hpar, hpi, node?_regroup_listed h facets hq hk, hd ▸ hdep, hk⟩
  · intro p k i m hm hk
    obtain ⟨hb, n, hn, hp⟩ := h.child (hlists hm hk) hk
    obtain ⟨stage, hn'⟩ := extends_regroup t facets hn
    exact ⟨hb, _, hn', hp⟩
  · intro p j k i m hm hj hk
    exact h.once (hlists hm hj) hj hk

end Tree
end FacetBrowser
