import FacetBrowser.Proofs.Told

namespace FacetBrowser

namespace Stage

-- all that can have been told of a node by the time it is at some stage; from a leaf on it has been
-- asked for its groups, which is why it cannot become a leaf for a second time
inductive Tells (grouped : Prop) : List Stage → Stage → Prop
  | silent : Tells grouped [] .collapsed
  | begun : Tells grouped [.loading] .loading
  | settled {s : Stage} : s ≠ .collapsed → s ≠ .loading → Tells grouped [.loading, s] s
  | begunAgain {listing : Listing} : grouped →
      Tells grouped [.loading, .leaf listing, .loading] .loading
  | branch {listing listing' : Listing} : grouped →
      Tells grouped [.loading, .leaf listing, .loading, .branch listing'] (.branch listing')
  | failed {listing : Listing} {failure : Failure} : grouped →
      Tells grouped [.loading, .leaf listing, .loading, .failed failure] (.failed failure)

def Follows : Stage → Stage → Prop
  | .loading, s => s ≠ .collapsed ∧ s ≠ .loading
  | .leaf _, s => s = .loading
  | _, _ => False

structure Orderly (stages : List Stage) : Prop where
  first : ∀ s ∈ stages.head?, s = .loading
  chain : stages.IsChain Follows
  twice : stages.count .loading ≤ 2

namespace Tells

variable {p q : Prop} {stages : List Stage} {s : Stage}

theorem mono (h : Tells p stages s) (hpq : p → q) : Tells q stages s := by
  cases h with
  | silent => exact .silent
  | begun => exact .begun
  | settled hc hl => exact .settled hc hl
  | begunAgain hp => exact .begunAgain (hpq hp)
  | branch hp => exact .branch (hpq hp)
  | failed hp => exact .failed (hpq hp)

theorem ne_nil (h : Tells p stages s) (hs : s ≠ .collapsed) : stages ≠ [] := by
  cases h with
  | silent => exact absurd rfl hs
  | _ => exact List.cons_ne_nil _ _

theorem begin (h : Tells p stages s)
    (hs : s = .collapsed ∨ (∃ listing, s = .leaf listing) ∧ p) :
    Tells p (stages ++ [.loading]) .loading := by
  rcases hs with rfl | ⟨⟨listing, rfl⟩, hp⟩
  · cases h with
    | silent => exact .begun
    | settled hc => exact absurd rfl hc
  · cases h with
    | settled => exact .begunAgain hp

theorem settle {s' : Stage} (h : Tells p stages .loading) (hc : s' ≠ .collapsed)
    (hl : s' ≠ .loading)
    (hp : p → (∃ listing, s' = .branch listing) ∨ ∃ failure, s' = .failed failure) :
    Tells p (stages ++ [s']) s' := by
  cases h with
  | begun => exact .settled hc hl
  | settled _ hne => exact absurd rfl hne
  | begunAgain hgrouped =>
    rcases hp hgrouped with ⟨listing, rfl⟩ | ⟨failure, rfl⟩
    · exact .branch hgrouped
    · exact .failed hgrouped

theorem orderly (h : Tells p stages s) : Orderly stages := by
  cases h with
  | silent | begun | begunAgain | branch | failed => exact ⟨by simp, by simp [Follows], by simp⟩
  | settled hc hl => exact ⟨by simp, by simp [Follows, hc, hl], by simp [hl]⟩

end Tells
end Stage

namespace Course

def heardOf (told : List Node) (i : Nat) : List Node :=
  told.filter (·.id = i)

def Introduces (p n : Node) : Prop :=
  n.parent = some p.id ∧ ∃ listing, p.stage = .branch listing ∧ .child n.id ∈ listing.rows

structure Heard (told : List Node) (c : Course) : Prop where
  stages : ∀ {i : Nat} {n : Node}, c.browser.node? i = some n →
    Stage.Tells (c.Grouped i) ((heardOf told i).map (·.stage)) n.stage
  latest : ∀ {i : Nat} {n : Node}, (heardOf told i).getLast? = some n →
    c.browser.node? i = some n
  introduced : ∀ {k : Nat} {n : Node}, told[k]? = some n → n.id ≠ 0 →
    ∃ j < k, ∃ p, told[j]? = some p ∧ Introduces p n

variable {c c' : Course} {m : Move} {told more : List Node} {i : Nat} {n : Node}

theorem heardOf_append (told more : List Node) (i : Nat) :
    heardOf (told ++ more) i = heardOf told i ++ heardOf more i :=
  List.filter_append _ _

namespace Heard

theorem silent (h : Heard told c) (hi : c.browser.node? i = none) : heardOf told i = [] := by
  rw [← List.getLast?_eq_none_iff]
  cases hl : (heardOf told i).getLast? with
  | none => rfl
  | some n => cases hi.symm.trans (h.latest hl)

theorem stages_turn (h : Heard told c) (hc : c.Sound) (hc' : c'.Sound)
    (hs : Step Question.Admits c m c') (ht : Turns c c' i more)
    (hn : c'.browser.node? i = some n) :
    Stage.Tells (c'.Grouped i) ((heardOf told i ++ more).map (·.stage)) n.stage := by
  have hgrouped : c.Grouped i → c'.Grouped i := hs.grouped hc
  rw [List.map_append]
  cases ht with
  | kept hkept =>
    rw [List.map_nil, List.append_nil]
    exact (h.stages (hkept ▸ hn)).mono hgrouped
  | born hnone hborn hcollapsed =>
    obtain rfl := Option.some.inj (hn.symm.trans hborn)
    rw [h.silent hnone, hcollapsed]
    exact .silent
  | begun hold hstage hnew =>
    obtain rfl := Option.some.inj (hn.symm.trans hnew)
    exact ((h.stages hold).mono hgrouped).begin hstage
  | settled hold hl hcollapsed hloading hnew =>
    obtain rfl := Option.some.inj (hn.symm.trans hnew)
    refine ((hl ▸ h.stages hold).mono hgrouped).settle hcollapsed hloading fun hg => ?_
    rcases hg.stage_cases hc' hnew with hb | hf | hl'
    · exact Or.inl hb
    · exact Or.inr hf
    · exact absurd hl' hloading

theorem latest_turn (h : Heard told c) (ht : Turns c c' i more)
    (hn : (heardOf told i ++ more).getLast? = some n) : c'.browser.node? i = some n := by
  cases ht with
  | kept hkept =>
    rw [List.append_nil] at hn
    exact hkept.trans (h.latest hn)
  | born hnone =>
    rw [h.silent hnone] at hn
    cases hn
  | begun _ _ hnew | settled _ _ _ _ hnew =>
    rw [List.getLast?_concat] at hn
    exact hn ▸ hnew

theorem exists_introducer (h : Heard told c) (hc : c.Sound) (hn : c.browser.node? i = some n)
    (hi : i ≠ 0) : ∃ p ∈ told, Introduces p n := by
  obtain ⟨j, p, k, hparent, -, hp, -, hk⟩ := hc.tree.parent hn hi
  obtain ⟨⟨listing, hb⟩, -⟩ := hc.tree.child hp hk
  obtain rfl := hc.tree.id_eq hp
  obtain rfl := hc.tree.id_eq hn
  have hheard : heardOf told p.id ≠ [] := by
    have hne := (h.stages hp).ne_nil (by simp [hb])
    exact fun hnil => hne (by rw [hnil, List.map_nil])
  obtain ⟨q, hq⟩ := Option.ne_none_iff_exists'.mp (mt List.getLast?_eq_none_iff.mp hheard)
  obtain rfl := Option.some.inj (hp.symm.trans (h.latest hq))
  refine ⟨p, List.mem_of_mem_filter (List.mem_of_getLast? hq), hparent, listing, hb, ?_⟩
  rw [hb] at hk
  exact List.mem_of_getElem? hk

theorem introduced_told (h : Heard told c) (hc : c.Sound) (hseeded : c.browser.seeded = true)
    (hm : c.Allows Question.Admits m) (hn : n ∈ c.told m) (hi : n.id ≠ 0) :
    ∃ p ∈ told, Introduces p n := by
  have hmem : n ∈ heardOf (c.told m) n.id := List.mem_filter.mpr ⟨hn, by simp⟩
  have ht : Turns c (c.after m) n.id (heardOf (c.told m) n.id) := hm.turns hc hseeded n.id
  generalize heardOf (c.told m) n.id = more at ht hmem
  cases ht with
  | kept | born => cases hmem
  | begun hold | settled hold =>
    obtain rfl := List.mem_singleton.mp hmem
    obtain ⟨p, hp, hpn⟩ := h.exists_introducer hc hold hi
    exact ⟨p, hp, hpn⟩

theorem step (h : Heard told c) (hc : c.Sound) (hseeded : c.browser.seeded = true)
    (hm : c.Allows Question.Admits m) : Heard (told ++ c.told m) (c.after m) where
  stages := by
    intro i n hn
    rw [heardOf_append]
    exact h.stages_turn hc (hc.step hm.step) hm.step (hm.turns hc hseeded i) hn
  latest := by
    intro i n hn
    rw [heardOf_append] at hn
    exact h.latest_turn (hm.turns hc hseeded i) hn
  introduced := by
    intro k n hn hi
    by_cases hk : k < told.length
    · rw [List.getElem?_append_left hk] at hn
      obtain ⟨j, hj, p, hp, hpn⟩ := h.introduced hn hi
      exact ⟨j, hj, p, (List.getElem?_append_left (Nat.lt_trans hj hk)).trans hp, hpn⟩
    · rw [List.getElem?_append_right (Nat.le_of_not_lt hk)] at hn
      obtain ⟨p, hp, hpn⟩ := h.introduced_told hc hseeded hm (List.mem_of_getElem? hn) hi
      obtain ⟨j, hj⟩ := List.mem_iff_getElem?.mp hp
      have hlt : j < told.length := (List.getElem?_eq_some_iff.mp hj).1
      exact ⟨j, by omega, p, (List.getElem?_append_left hlt).trans hj, hpn⟩

end Heard

theorem heard_start (facets : Facets) :
    Heard [.root] ((new facets).after .seed) where
  stages := by
    intro i n hn
    obtain ⟨rfl, rfl⟩ := Tree.node?_seedling hn
    exact .begun
  latest := by
    intro i n hn
    obtain ⟨hmem, hi⟩ := List.mem_filter.mp (List.mem_of_getLast? hn)
    obtain rfl := List.mem_singleton.mp hmem
    obtain rfl : 0 = i := of_decide_eq_true hi
    rfl
  introduced := by
    intro k n hn hi
    obtain rfl := List.mem_singleton.mp (List.mem_of_getElem? hn)
    exact absurd rfl hi

end Course
end FacetBrowser
