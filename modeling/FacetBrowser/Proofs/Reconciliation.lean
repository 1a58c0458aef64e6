import FacetBrowser.Sample
import Mathlib.Algebra.BigOperators.Group.List.Basic
import Mathlib.Algebra.GroupWithZero.Nat

namespace FacetBrowser

theorem toNat_ofNat_of_le {n : Nat} {bound : UInt64} (h : n ≤ bound.toNat) :
    (UInt64.ofNat n).toNat = n :=
  UInt64.toNat_ofNat_of_lt' (Nat.lt_of_le_of_lt h bound.toNat_lt)

namespace Sample

variable {s : Sample} {hidden : UInt64} {m : CountMismatch}

def Fits (s : Sample) : Prop :=
  s.items.length ≤ s.count.toNat

def excess (s : Sample) : CountMismatch :=
  ⟨s.count, UInt64.ofNat s.items.length⟩

theorem unlisted_eq_ok : s.unlisted = .ok hidden ↔
    s.items.length + hidden.toNat = s.count.toNat := by
  rw [unlisted]
  split
  · rename_i hle
    have hlen := toNat_ofNat_of_le hle
    have hsub : (s.count - UInt64.ofNat s.items.length).toNat =
        s.count.toNat - s.items.length := by
      rw [UInt64.toNat_sub_of_le _ _ (by rw [UInt64.le_iff_toNat_le, hlen]; exact hle), hlen]
    rw [Except.ok.injEq, ← UInt64.toNat_inj, hsub]
    omega
  · rename_i hle
    simp only [reduceCtorEq, false_iff]
    omega

theorem exists_unlisted_iff : (∃ hidden, s.unlisted = .ok hidden) ↔ s.Fits := by
  constructor
  · rintro ⟨hidden, h⟩
    have := unlisted_eq_ok.mp h
    exact Nat.le.intro this
  · intro h
    exact ⟨_, if_pos h⟩

theorem unlisted_eq_error : s.unlisted = .error m ↔ ¬ s.Fits ∧ m = s.excess := by
  rw [unlisted, Fits]
  split
  · rename_i hle
    simp [hle]
  · rename_i hle
    rw [Except.error.injEq, eq_comm, and_iff_right hle]
    rfl

end Sample

namespace Grouping

variable {g : Grouping} {sum unlisted : UInt64} {m : CountMismatch}

def claimed (g : Grouping) : Nat :=
  g.ungrouped.count.toNat + (g.groups.map (·.count.toNat)).sum

def excess (g : Grouping) : CountMismatch :=
  ⟨g.count, UInt64.ofNat (min g.claimed (UInt64.size - 1))⟩

structure Fits (g : Grouping) : Prop where
  claimed_le : g.claimed ≤ g.count.toNat
  ungrouped : g.ungrouped.Fits

theorem addWithin_eq_some {a b c : UInt64} :
    addWithin a b = some c ↔ a.toNat + b.toNat = c.toNat := by
  have hlt := c.toNat_lt
  rw [addWithin]
  split
  · rename_i hsum
    rw [Option.some.injEq, ← UInt64.toNat_inj, UInt64.toNat_add, Nat.mod_eq_of_lt hsum]
  · rename_i hsum
    simp only [reduceCtorEq, false_iff]
    intro h
    exact hsum (h ▸ hlt)

theorem foldlM_addWithin (groups : List Group) (start : UInt64) :
    groups.foldlM (fun sum group => addWithin sum group.count) start = some sum ↔
      start.toNat + (groups.map (·.count.toNat)).sum = sum.toNat := by
  induction groups generalizing start with
  | nil => simp [UInt64.toNat_inj]
  | cons group groups ih =>
    simp only [List.foldlM_cons, Option.bind_eq_bind, Option.bind_eq_some_iff, addWithin_eq_some,
      ih, List.map_cons, List.sum_cons]
    constructor
    · rintro ⟨next, hnext, hsum⟩
      omega
    · intro h
      have hle : start.toNat + group.count.toNat ≤ sum.toNat := by omega
      have hnext := toNat_ofNat_of_le hle
      exact ⟨_, hnext.symm, by omega⟩

theorem accounted_eq_some : g.accounted = some sum ↔ g.claimed = sum.toNat :=
  foldlM_addWithin g.groups g.ungrouped.count

theorem accounted_eq_none : g.accounted = none ↔ UInt64.size ≤ g.claimed := by
  constructor
  · intro h
    by_contra hlt
    have hsum := UInt64.toNat_ofNat_of_lt' (Nat.lt_of_not_le hlt)
    cases h.symm.trans (accounted_eq_some.mpr hsum.symm)
  · intro h
    rw [Option.eq_none_iff_forall_ne_some]
    intro sum hsum
    have hlt := sum.toNat_lt
    rw [← accounted_eq_some.mp hsum] at hlt
    exact absurd hlt (Nat.not_lt.mpr h)

theorem unlisted_eq_ok : g.unlisted = .ok unlisted ↔
    g.claimed + unlisted.toNat = g.count.toNat := by
  rw [Grouping.unlisted]
  cases ha : g.accounted with
  | none =>
    have hover : ∀ sum : UInt64, g.claimed ≠ sum.toNat := fun sum hsum => by
      rw [accounted_eq_some.mpr hsum] at ha
      cases ha
    simp only [reduceCtorEq, false_iff]
    intro h
    exact hover _ (toNat_ofNat_of_le (Nat.le.intro h)).symm
  | some sum =>
    have hsum := accounted_eq_some.mp ha
    by_cases hle : sum ≤ g.count
    · simp only [if_pos hle, Except.ok.injEq, ← UInt64.toNat_inj,
        UInt64.toNat_sub_of_le _ _ hle]
      rw [UInt64.le_iff_toNat_le] at hle
      omega
    · simp only [if_neg hle, reduceCtorEq, false_iff]
      rw [UInt64.le_iff_toNat_le] at hle
      omega

theorem exists_unlisted_iff : (∃ unlisted, g.unlisted = .ok unlisted) ↔
    g.claimed ≤ g.count.toNat := by
  simp only [unlisted_eq_ok]
  constructor
  · rintro ⟨unlisted, h⟩
    exact Nat.le.intro h
  · intro h
    refine ⟨UInt64.ofNat (g.count.toNat - g.claimed), ?_⟩
    rw [toNat_ofNat_of_le (Nat.sub_le _ _)]
    exact Nat.add_sub_cancel' h

theorem unlisted_eq_error :
    g.unlisted = .error m ↔ g.count.toNat < g.claimed ∧ m = g.excess := by
  have hcount := g.count.toNat_lt
  rw [Grouping.unlisted, Grouping.excess]
  cases ha : g.accounted with
  | none =>
    have hover := accounted_eq_none.mp ha
    have hmin : min g.claimed (UInt64.size - 1) = UInt64.size - 1 := by omega
    rw [hmin, Except.error.injEq, eq_comm, and_iff_right (Nat.lt_of_lt_of_le hcount hover)]
  | some sum =>
    have hsum := accounted_eq_some.mp ha
    have hlt := sum.toNat_lt
    have hmin : min g.claimed (UInt64.size - 1) = sum.toNat := by
      rw [hsum]
      exact Nat.min_eq_left (Nat.le_sub_one_of_lt hlt)
    rw [hmin, UInt64.ofNat_toNat, hsum, ← UInt64.lt_iff_toNat_lt, ← UInt64.not_le]
    by_cases hle : sum ≤ g.count
    · simp [hle]
    · simp [hle, eq_comm]

theorem map_accounted (g : Grouping) : g.accounted.map UInt64.toNat =
    if g.claimed < 2 ^ 64 then some g.claimed else none := by
  cases ha : g.accounted with
  | none =>
    have hover := accounted_eq_none.mp ha
    exact (if_neg (Nat.not_lt.mpr hover)).symm
  | some sum =>
    have hsum := accounted_eq_some.mp ha
    rw [hsum, if_pos sum.toNat_lt]
    rfl

theorem toNat_accounted_excess (g : Grouping) :
    g.excess.accounted.toNat = min g.claimed (2 ^ 64 - 1) := by
  refine UInt64.toNat_ofNat_of_lt' (Nat.lt_of_le_of_lt (Nat.min_le_right _ _) ?_)
  decide

theorem eq_excess_iff : m = g.excess ↔
    m.total = g.count ∧ m.accounted.toNat = min g.claimed (2 ^ 64 - 1) := by
  rw [← toNat_accounted_excess, UInt64.toNat_inj]
  constructor
  · rintro rfl
    exact ⟨rfl, rfl⟩
  · rintro ⟨htotal, haccounted⟩
    cases m
    exact congrArg₂ CountMismatch.mk htotal haccounted

theorem isCut_iff : g.isCut = true ↔ g.claimed < g.count.toNat := by
  rw [isCut]
  cases hu : g.unlisted with
  | ok unlisted =>
    have hsum := unlisted_eq_ok.mp hu
    rw [decide_eq_true_eq, UInt64.lt_iff_toNat_lt, UInt64.toNat_zero]
    omega
  | error m =>
    have hlt := (unlisted_eq_error.mp hu).1
    simp only [Bool.false_eq_true, false_iff]
    omega

section Reordered

variable {groups : List Group} (h : groups.Perm g.groups)
include h

theorem claimed_perm : claimed { g with groups := groups } = g.claimed :=
  congrArg (g.ungrouped.count.toNat + ·) (h.map _).sum_eq

theorem accounted_perm : accounted { g with groups := groups } = g.accounted := by
  ext sum
  rw [accounted_eq_some, accounted_eq_some, claimed_perm h]

theorem unlisted_perm : Grouping.unlisted { g with groups := groups } = g.unlisted := by
  rw [Grouping.unlisted, Grouping.unlisted, accounted_perm h]

theorem isCut_perm : isCut { g with groups := groups } = g.isCut := by
  rw [isCut, isCut, unlisted_perm h]

end Reordered

theorem fits_iff : g.Fits ↔ (∃ unlisted, g.unlisted = .ok unlisted) ∧
    ∃ hidden, g.ungrouped.unlisted = .ok hidden := by
  rw [exists_unlisted_iff, Sample.exists_unlisted_iff]
  exact ⟨fun h => ⟨h.claimed_le, h.ungrouped⟩, fun h => ⟨h.1, h.2⟩⟩

end Grouping

theorem exists_toNat_eq_iff {a b : Nat} {p : UInt64 → Prop} (hb : b < UInt64.size)
    (h : ∀ n, p n ↔ a + n.toNat = b) (r : Nat) : (∃ n, p n ∧ n.toNat = r) ↔ a + r = b := by
  constructor
  · rintro ⟨n, hn, rfl⟩
    exact (h n).mp hn
  · intro hr
    have hn := UInt64.toNat_ofNat_of_lt' (show r < UInt64.size by omega)
    exact ⟨UInt64.ofNat r, (h _).mpr (hn.symm ▸ hr), hn⟩

theorem reconciliation_exact :
    (∀ g : Grouping,
      let sum := g.ungrouped.count.toNat + (g.groups.map (·.count.toNat)).sum
      g.accounted.map UInt64.toNat = (if sum < 2 ^ 64 then some sum else none) ∧
      (∀ r, (∃ n, g.unlisted = .ok n ∧ n.toNat = r) ↔ sum + r = g.count.toNat) ∧
      (∀ m, g.unlisted = .error m ↔ (¬ ∃ r, sum + r = g.count.toNat) ∧
        m.total = g.count ∧ m.accounted.toNat = min sum (2 ^ 64 - 1)) ∧
      (g.isCut = true ↔ sum < g.count.toNat) ∧
      ∀ groups, groups.Perm g.groups →
        let reordered : Grouping := { g with groups := groups }
        reordered.accounted = g.accounted ∧ reordered.unlisted = g.unlisted ∧
          reordered.isCut = g.isCut) ∧
    ∀ (s : Sample) (r : Nat), (∃ n, s.unlisted = .ok n ∧ n.toNat = r) ↔
      s.items.length + r = s.count.toNat := by
  refine ⟨fun g => ⟨g.map_accounted, ?_, fun m => ?_, Grouping.isCut_iff, fun groups h => ?_⟩,
    fun s => ?_⟩
  · exact exists_toNat_eq_iff g.count.toNat_lt fun _ => Grouping.unlisted_eq_ok
  · rw [Grouping.unlisted_eq_error, Grouping.eq_excess_iff, ← Nat.not_le]
    have hfits : g.claimed ≤ g.count.toNat ↔ ∃ r, g.claimed + r = g.count.toNat :=
      ⟨Nat.le.dest, fun ⟨_, hr⟩ => Nat.le.intro hr⟩
    exact and_congr_left fun _ => not_congr hfits
  · exact ⟨Grouping.accounted_perm h, Grouping.unlisted_perm h, Grouping.isCut_perm h⟩
  · exact exists_toNat_eq_iff s.count.toNat_lt fun _ => Sample.unlisted_eq_ok

theorem overflow_in_any_order :
    let g : Grouping := ⟨5, [⟨"a", 18446744073709551615⟩, ⟨"b", 2⟩], ⟨0, []⟩⟩
    let reordered : Grouping := { g with groups := [⟨"b", 2⟩, ⟨"a", 18446744073709551615⟩] }
    reordered.groups.Perm g.groups ∧ reordered.accounted = none ∧ reordered.isCut = false ∧
      reordered.unlisted = .error ⟨5, 18446744073709551615⟩ := by
  intro g reordered
  have hperm : reordered.groups.Perm g.groups := .swap _ _ []
  obtain ⟨-, -, -, -, hreordered⟩ := reconciliation_exact.1 g
  obtain ⟨haccounted, hunlisted, hcut⟩ := hreordered reordered.groups hperm
  have hover : g.accounted = none ∧ g.isCut = false := by decide +kernel
  have hmismatch : g.unlisted = .error ⟨5, 18446744073709551615⟩ :=
    Grouping.unlisted_eq_error.mpr (by decide +kernel)
  exact ⟨hperm, haccounted.trans hover.1, hcut.trans hover.2, hunlisted.trans hmismatch⟩

end FacetBrowser
