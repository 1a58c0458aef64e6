import FacetBrowser.Proofs.Arena

namespace FacetBrowser.Tree

variable {t : Tree} {n m : Node} {stage : Stage} {children : List Node}

inductive Leads (t : Tree) : List Nat → Nat → Prop
  | root : Leads t [] 0
  | child {path : List Nat} {p k i : Nat} {m : Node} : Leads t path p → t.node? p = some m →
      m.stage.rows[k]? = some (.child i) → Leads t (k :: path) i

theorem node?_of_leads (h : t.WellFormed) {path : List Nat} {i : Nat} (hl : t.Leads path i) :
    ∃ n, t.node? i = some n := by
  cases hl with
  | root =>
    obtain ⟨stage, hroot⟩ := h.root
    exact ⟨_, hroot⟩
  | child _ hm hk =>
    obtain ⟨-, n, hn, -⟩ := h.child hm hk
    exact ⟨n, hn⟩

theorem leads_functional {path : List Nat} {i j : Nat} (hi : t.Leads path i)
    (hj : t.Leads path j) : i = j := by
  induction hi generalizing j with
  | root =>
    cases hj
    rfl
  | child _ hm hk ih =>
    cases hj with
    | child hp hm' hk' =>
      obtain rfl := ih hp
      rw [hm] at hm'
      obtain rfl := Option.some.inj hm'
      rw [hk] at hk'
      cases hk'
      rfl

theorem leads_ne_zero (h : t.WellFormed) {path : List Nat} {k i : Nat}
    (hl : t.Leads (k :: path) i) : i ≠ 0 := by
  rintro rfl
  cases hl with
  | child _ hm hk =>
    obtain ⟨-, n, hn, hp⟩ := h.child hm hk
    rw [h.root_eq hn] at hp
    cases hp

theorem leads_unique (h : t.WellFormed) {path path' : List Nat} {i : Nat}
    (hl : t.Leads path i) (hl' : t.Leads path' i) : path = path' := by
  induction hl generalizing path' with
  | root =>
    cases path' with
    | nil => rfl
    | cons k path' => exact absurd rfl (leads_ne_zero h hl')
  | @child path p k i m hp hm hk ih =>
    cases hl' with
    | root => exact absurd rfl (leads_ne_zero h (.child hp hm hk))
    | @child path' p' k' _ m' hp' hm' hk' =>
      obtain ⟨-, n, hn, hpar⟩ := h.child hm hk
      obtain ⟨-, n', hn', hpar'⟩ := h.child hm' hk'
      rw [hn] at hn'
      obtain rfl := Option.some.inj hn'
      rw [hpar] at hpar'
      obtain rfl := Option.some.inj hpar'
      rw [hm] at hm'
      obtain rfl := Option.some.inj hm'
      rw [ih hp', h.once hm hk hk']

theorem exists_leads (h : t.WellFormed) {i : Nat} (hn : t.node? i = some n) :
    ∃ path, t.Leads path i := by
  induction i using Nat.strongRecOn generalizing n with
  | ind i ih =>
    by_cases hi : i = 0
    · exact ⟨[], hi ▸ .root⟩
    · obtain ⟨p, m, k, -, hpi, hm, -, hk⟩ := h.parent hn hi
      obtain ⟨path, hp⟩ := ih p hpi hm
      exact ⟨k :: path, .child hp hm hk⟩

theorem leads_iff_zero (h : t.WellFormed) {path : List Nat} {i : Nat} (hl : t.Leads path i) :
    i = 0 ↔ path = [] := by
  constructor
  · rintro rfl
    exact leads_unique h hl .root
  · rintro rfl
    exact leads_functional hl .root

theorem leads_of_kept {t' : Tree}
    (ht : ∀ {p k i : Nat} {m : Node}, t.node? p = some m → m.stage.rows[k]? = some (.child i) →
      t'.node? p = some m) {path : List Nat} {i : Nat} (hl : t.Leads path i) :
    t'.Leads path i := by
  induction hl with
  | root => exact .root
  | child _ hm hk ih => exact .child ih (ht hm hk) hk

theorem leads_grow (h : t.WellFormed) (hn : t.node? n.id = some n)
    (hrows : ∀ listing, n.stage ≠ .branch listing) {path : List Nat} {i : Nat}
    (hl : t.Leads path i) : (t.grow n stage children).Leads path i := by
  refine leads_of_kept (fun {p k i m} hm hk => node?_grow_old ?_ hm) hl
  rintro rfl
  obtain rfl := Option.some.inj (hn.symm.trans hm)
  exact h.row_ne_child hn hrows hk

theorem leads_regroup (h : t.WellFormed) (facets : Facets) {path : List Nat} {i : Nat}
    (hl : t.Leads path i) : (t.regroup facets).Leads path i :=
  leads_of_kept (node?_regroup_listed h facets) hl

end FacetBrowser.Tree
