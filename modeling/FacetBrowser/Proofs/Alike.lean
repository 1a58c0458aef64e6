import FacetBrowser.Proofs.Path
import FacetBrowser.Proofs.Renumbering
import Mathlib.Data.List.Nodup
import Mathlib.Data.List.Perm.Subperm

namespace FacetBrowser

def Row.shape (row : Row) : Row :=
  row.renumber fun _ => 0

def Stage.shape (s : Stage) : Stage :=
  s.renumber fun _ => 0

def Node.shape (n : Node) : Node :=
  n.renumber fun _ => 0

theorem rows_eq_renumber {σ : Nat → Nat} {rows rows' : List Row}
    (hs : rows.map Row.shape = rows'.map Row.shape)
    (hσ : ∀ {k i j : Nat}, rows[k]? = some (.child i) → rows'[k]? = some (.child j) → σ i = j) :
    rows' = rows.map (·.renumber σ) := by
  induction rows generalizing rows' with
  | nil => simpa using hs.symm
  | cons row rows ih =>
    cases rows' with
    | nil => simp at hs
    | cons row' rows' =>
      simp only [List.map_cons, List.cons.injEq] at hs ⊢
      have htail {k i j : Nat} (hi : rows[k]? = some (.child i))
          (hj : rows'[k]? = some (.child j)) : σ i = j :=
        hσ (k := k + 1) (by simpa using hi) (by simpa using hj)
      refine ⟨?_, ih hs.2 htail⟩
      cases row with
      | child id =>
        cases row' with
        | child id' => exact congrArg Row.child (hσ (k := 0) rfl rfl).symm
        | _ => cases hs.1
      | _ =>
        cases row' with
        | child id' => cases hs.1
        | _ => exact hs.1.symm

theorem Stage.rows_shape {s s' : Stage} (h : s.shape = s'.shape) :
    s.rows.map Row.shape = s'.rows.map Row.shape := by
  have := congrArg Stage.rows h
  rw [Stage.shape, Stage.shape, Stage.rows_renumber, Stage.rows_renumber] at this
  exact this

theorem Stage.eq_renumber {σ : Nat → Nat} {s s' : Stage} (h : s.shape = s'.shape)
    (hσ : ∀ {k i j : Nat}, s.rows[k]? = some (.child i) → s'.rows[k]? = some (.child j) →
      σ i = j) : s' = s.renumber σ := by
  have hrows := rows_eq_renumber (Stage.rows_shape h) hσ
  cases s with
  | branch listing =>
    cases s' with
    | branch listing' =>
      have ht := (Listing.mk.inj (Stage.branch.inj h)).1
      exact congrArg₂ (fun total rows => Stage.branch ⟨total, rows⟩) ht.symm hrows
    | _ => cases h
  | leaf listing =>
    cases s' with
    | leaf listing' =>
      have ht := (Listing.mk.inj (Stage.leaf.inj h)).1
      exact congrArg₂ (fun total rows => Stage.leaf ⟨total, rows⟩) ht.symm hrows
    | _ => cases h
  | failed failure =>
    cases s' with
    | failed failure' => exact congrArg Stage.failed (Stage.failed.inj h).symm
    | _ => cases h
  | _ => cases s' <;> first | rfl | cases h

theorem Node.child_of_shape {n m : Node} (h : n.shape = m.shape) {k i : Nat}
    (hk : n.stage.rows[k]? = some (.child i)) : ∃ j, m.stage.rows[k]? = some (.child j) := by
  have hrows := Stage.rows_shape (congrArg Node.stage h)
  have hmap : (m.stage.rows.map Row.shape)[k]? = some (.child 0) := by
    rw [← hrows, List.getElem?_map, hk]
    rfl
  rw [List.getElem?_map] at hmap
  obtain ⟨row, hrow, hs⟩ := Option.map_eq_some_iff.mp hmap
  cases row with
  | child j => exact ⟨j, hrow⟩
  | _ => cases hs

namespace Tree

variable {t t' : Tree} {path : List Nat} {i : Nat}

def Alike (t t' : Tree) : Prop :=
  ∀ {path : List Nat} {i j : Nat} {n m : Node}, t.Leads path i → t'.Leads path j →
    t.node? i = some n → t'.node? j = some m → n.shape = m.shape

theorem Alike.symm (h : t.Alike t') : t'.Alike t :=
  fun hi hj hn hm => (h hj hi hm hn).symm

theorem leads_of_alike (h' : t'.WellFormed) (ha : t.Alike t') (hl : t.Leads path i) :
    ∃ j, t'.Leads path j := by
  induction hl with
  | root => exact ⟨0, .root⟩
  | child hp hm hk ih =>
    obtain ⟨p', hp'⟩ := ih
    obtain ⟨m', hm'⟩ := node?_of_leads h' hp'
    obtain ⟨j, hj⟩ := Node.child_of_shape (ha hp hp' hm hm') hk
    exact ⟨j, .child hp' hm' hj⟩

theorem exists_matching (h : t.WellFormed) (h' : t'.WellFormed) (ha : t.Alike t') :
    ∃ σ : Nat → Nat, (∀ {path : List Nat} {i : Nat}, t.Leads path i → t'.Leads path (σ i)) ∧
      ∀ i, t.nodes.length ≤ i → σ i = i := by
  -- numbers beyond the tree stay, so that two matchings of trees of one size are inverse
  have hex (i : Nat) : ∃ j, (∀ path, t.Leads path i → t'.Leads path j) ∧
      (t.nodes.length ≤ i → j = i) := by
    by_cases hi : i < t.nodes.length
    · obtain ⟨path, hl⟩ := exists_leads h (List.getElem?_eq_getElem hi)
      obtain ⟨j, hj⟩ := leads_of_alike h' ha hl
      exact ⟨j, fun _ hl' => leads_unique h hl hl' ▸ hj, fun hle => absurd hi (Nat.not_lt.mpr hle)⟩
    · refine ⟨i, fun path hl => ?_, fun _ => rfl⟩
      obtain ⟨n, hn⟩ := node?_of_leads h hl
      exact absurd (lt_of_node? hn) hi
  choose σ hσ using hex
  exact ⟨σ, fun hl => (hσ _).1 _ hl, fun i hi => (hσ i).2 hi⟩

theorem length_le_of_alike (h : t.WellFormed) (h' : t'.WellFormed) (ha : t.Alike t') :
    t.nodes.length ≤ t'.nodes.length := by
  obtain ⟨σ, hσ, -⟩ := exists_matching h h' ha
  have hleads {i : Nat} (hi : i < t.nodes.length) : ∃ path, t.Leads path i :=
    exists_leads h (List.getElem?_eq_getElem hi)
  have hnodup : ((List.range t.nodes.length).map σ).Nodup := by
    refine List.Nodup.map_on ?_ List.nodup_range
    intro i hi j hj hij
    obtain ⟨path, hp⟩ := hleads (List.mem_range.mp hi)
    obtain ⟨path', hp'⟩ := hleads (List.mem_range.mp hj)
    have hpath := leads_unique h' (hσ hp) (hij ▸ hσ hp')
    exact leads_functional hp (hpath ▸ hp')
  have hsub : (List.range t.nodes.length).map σ ⊆ List.range t'.nodes.length := by
    intro j hj
    obtain ⟨i, hi, rfl⟩ := List.mem_map.mp hj
    obtain ⟨path, hp⟩ := hleads (List.mem_range.mp hi)
    obtain ⟨n, hn⟩ := node?_of_leads h' (hσ hp)
    exact List.mem_range.mpr (lt_of_node? hn)
  simpa using (List.subperm_of_subset hnodup hsub).length_le

theorem length_eq_of_alike (h : t.WellFormed) (h' : t'.WellFormed) (ha : t.Alike t') :
    t'.nodes.length = t.nodes.length :=
  Nat.le_antisymm (length_le_of_alike h' h ha.symm) (length_le_of_alike h h' ha)

theorem renumber_of_leads {σ : Nat → Nat} (h : t.WellFormed) (h' : t'.WellFormed)
    (ha : t.Alike t')
    (hσ : ∀ {path : List Nat} {i : Nat}, t.Leads path i → t'.Leads path (σ i))
    (hl : t.Leads path i) {n m : Node} (hn : t.node? i = some n)
    (hm : t'.node? (σ i) = some m) : m = n.renumber σ := by
  have hshape := ha hl (hσ hl) hn hm
  have hrow {k c c' : Nat} (hc : n.stage.rows[k]? = some (.child c))
      (hc' : m.stage.rows[k]? = some (.child c')) : σ c = c' :=
    leads_functional (hσ (.child hl hn hc)) (.child (hσ hl) hm hc')
  have hstage : m.stage = n.stage.renumber σ :=
    Stage.eq_renumber (congrArg Node.stage hshape) hrow
  have hid : m.id = σ n.id := by rw [h'.id_eq hm, h.id_eq hn]
  have hparent : m.parent = n.parent.map σ := by
    generalize hj : σ i = j at hm
    have hl' : t'.Leads path j := hj ▸ hσ hl
    cases hl with
    | root =>
      cases hl'
      rw [h.root_eq hn, h'.root_eq hm]
      rfl
    | child hp hq hk =>
      cases hl' with
      | child hp' hq' hk' =>
        obtain ⟨-, _, hn', hpar⟩ := h.child hq hk
        obtain ⟨-, _, hm', hpar'⟩ := h'.child hq' hk'
        obtain rfl := Option.some.inj (hn.symm.trans hn')
        obtain rfl := Option.some.inj (hm.symm.trans hm')
        rw [hpar, hpar', Option.map_some, leads_functional (hσ hp) hp']
  obtain ⟨_, _, label, query, depth, groupCount, _⟩ := m
  obtain ⟨hlabel, hquery, hdepth, hcount⟩ : n.label = label ∧ n.query = query ∧
      n.depth = depth ∧ n.groupCount = groupCount :=
    ⟨congrArg Node.label hshape, congrArg Node.query hshape, congrArg Node.depth hshape,
      congrArg Node.groupCount hshape⟩
  subst hlabel hquery hdepth hcount
  simp only at hid hparent hstage
  rw [hid, hparent, hstage]
  rfl

theorem exists_renumbering (h : t.WellFormed) (h' : t'.WellFormed) (ha : t.Alike t') :
    ∃ σ : Nat → Nat, Function.Bijective σ ∧ t.Renumbers σ t' ∧
      ∀ {path : List Nat} {i : Nat}, t.Leads path i → t'.Leads path (σ i) := by
  obtain ⟨σ, hσ, hσ'⟩ := exists_matching h h' ha
  obtain ⟨τ, hτ, hτ'⟩ := exists_matching h' h ha.symm
  have hlen := length_eq_of_alike h h' ha
  have hleft (i : Nat) : τ (σ i) = i := by
    by_cases hi : i < t.nodes.length
    · obtain ⟨path, hp⟩ := exists_leads h (List.getElem?_eq_getElem hi)
      exact leads_functional (hτ (hσ hp)) hp
    · have hle := Nat.le_of_not_lt hi
      rw [hσ' i hle, hτ' i (hlen ▸ hle)]
  have hright (j : Nat) : σ (τ j) = j := by
    by_cases hj : j < t'.nodes.length
    · obtain ⟨path, hp⟩ := exists_leads h' (List.getElem?_eq_getElem hj)
      exact leads_functional (hσ (hτ hp)) hp
    · have hle := Nat.le_of_not_lt hj
      rw [hτ' j hle, hσ' j (hlen ▸ hle)]
  refine ⟨σ, Function.bijective_iff_has_inverse.mpr ⟨τ, hleft, hright⟩, ?_, hσ⟩
  intro i
  cases hn : t.node? i with
  | none =>
    have hle := List.getElem?_eq_none_iff.mp hn
    rw [hσ' i hle]
    exact List.getElem?_eq_none_iff.mpr (hlen ▸ hle)
  | some n =>
    obtain ⟨path, hl⟩ := exists_leads h hn
    obtain ⟨m, hm⟩ := node?_of_leads h' (hσ hl)
    rw [hm, renumber_of_leads h h' ha hσ hl hn hm]
    rfl

theorem lines_of_alike {b b' : Browser} (h : b.tree.WellFormed) (h' : b'.tree.WellFormed)
    (ha : b.tree.Alike b'.tree) (hf : b'.facets.chosen = b.facets.chosen) (template : String) :
    Outline.lines template b' = Outline.lines template b := by
  obtain ⟨σ, -, hσ, hleads⟩ := exists_renumbering h h' ha
  have h0 : σ 0 = 0 := leads_functional (hleads .root) .root
  exact Outline.lines_renumbers hσ h0 (length_eq_of_alike h h' ha) hf template

end Tree
end FacetBrowser
