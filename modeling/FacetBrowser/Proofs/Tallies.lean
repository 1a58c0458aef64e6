import FacetBrowser.Collection
import Mathlib.Algebra.BigOperators.Group.List.Basic
import Mathlib.Algebra.GroupWithZero.Nat
import Mathlib.Data.String.Basic

namespace FacetBrowser.Tally

variable {t : Tally} {ts : List Tally} {key label : String} {values : List String}

def Ascending (ts : List Tally) : Prop :=
  ts.Pairwise (·.key < ·.key)

theorem keys_add (key label : String) (ts : List Tally) (k : String) :
    k ∈ (add key label ts).map (·.key) ↔ k = key ∨ k ∈ ts.map (·.key) := by
  induction ts with
  | nil => simp [add]
  | cons u ts ih =>
    rw [add]
    split
    · simp
    · split
      · rename_i heq
        simp [heq]
      · rw [List.map_cons, List.mem_cons, ih, List.map_cons, List.mem_cons]
        exact or_left_comm

theorem ascending_add (h : Ascending ts) : Ascending (add key label ts) := by
  induction ts with
  | nil => exact List.pairwise_singleton _ _
  | cons u ts ih =>
    obtain ⟨hu, hts⟩ := List.pairwise_cons.mp h
    rw [add]
    split
    · rename_i hlt
      refine List.pairwise_cons.mpr ⟨?_, h⟩
      intro t ht
      rcases List.mem_cons.mp ht with rfl | ht
      · exact hlt
      · exact lt_trans hlt (hu t ht)
    · split
      · exact List.pairwise_cons.mpr ⟨hu, hts⟩
      · rename_i hle hne
        refine List.pairwise_cons.mpr ⟨?_, ih hts⟩
        intro t ht
        have hk := (keys_add key label ts t.key).mp (List.mem_map_of_mem ht)
        rcases hk with hk | hk
        · rw [hk]
          exact lt_of_le_of_ne (not_lt.mp hle) (Ne.symm hne)
        · obtain ⟨u', hu', heq⟩ := List.mem_map.mp hk
          exact heq ▸ hu u' hu'

theorem mem_add (h : Ascending ts) (ht : t ∈ add key label ts) :
    (t ∈ ts ∧ t.key ≠ key) ∨ (∃ u ∈ ts, u.key = key ∧ t = { u with count := u.count + 1 }) ∨
      (∀ u ∈ ts, u.key ≠ key) ∧ t = ⟨key, label, 1⟩ := by
  induction ts with
  | nil => exact Or.inr (Or.inr ⟨by simp, List.mem_singleton.mp ht⟩)
  | cons u ts ih =>
    obtain ⟨hu, hts⟩ := List.pairwise_cons.mp h
    rw [add] at ht
    split at ht
    · rename_i hlt
      have hne : ∀ u' ∈ u :: ts, u'.key ≠ key := by
        intro u' hu'
        rcases List.mem_cons.mp hu' with rfl | hu'
        · exact (ne_of_lt hlt).symm
        · exact (ne_of_lt (lt_trans hlt (hu u' hu'))).symm
      rcases List.mem_cons.mp ht with rfl | ht
      · exact Or.inr (Or.inr ⟨hne, rfl⟩)
      · exact Or.inl ⟨ht, hne t ht⟩
    · split at ht
      · rename_i heq
        rcases List.mem_cons.mp ht with rfl | ht
        · exact Or.inr (Or.inl ⟨u, List.mem_cons_self, heq.symm, rfl⟩)
        · exact Or.inl ⟨List.mem_cons_of_mem _ ht, heq ▸ (ne_of_lt (hu t ht)).symm⟩
      · rename_i hne
        rcases List.mem_cons.mp ht with rfl | ht
        · exact Or.inl ⟨List.mem_cons_self, Ne.symm hne⟩
        · rcases ih hts ht with ⟨hmem, hk⟩ | ⟨u', hu', hk⟩ | ⟨hnone, hk⟩
          · exact Or.inl ⟨List.mem_cons_of_mem _ hmem, hk⟩
          · exact Or.inr (Or.inl ⟨u', List.mem_cons_of_mem _ hu', hk⟩)
          · exact Or.inr (Or.inr ⟨List.forall_mem_cons.mpr ⟨Ne.symm hne, hnone⟩, hk⟩)

theorem sum_add (key label : String) (ts : List Tally) :
    ((add key label ts).map (·.count)).sum = (ts.map (·.count)).sum + 1 := by
  induction ts with
  | nil => rfl
  | cons u ts ih =>
    rw [add]
    split
    · simp only [List.map_cons, List.sum_cons]
      omega
    · split
      · simp only [List.map_cons, List.sum_cons]
        omega
      · simp only [List.map_cons, List.sum_cons, ih]
        omega

structure Counts (values : List String) (ts : List Tally) : Prop where
  ascending : Ascending ts
  covers : ∀ v ∈ values, Text.lower v ∈ ts.map (·.key)
  key : ∀ t ∈ ts, t.key = Text.lower t.label
  label : ∀ t ∈ ts, t.label ∈ values
  count : ∀ t ∈ ts, t.count = values.countP fun v => Text.lower v = t.key
  total : (ts.map (·.count)).sum = values.length

theorem Counts.add (h : Counts values ts) (v : String) :
    Counts (values ++ [v]) (add (Text.lower v) v ts) where
  ascending := ascending_add h.ascending
  covers := by
    intro w hw
    rw [keys_add]
    rcases List.mem_append.mp hw with hw | hw
    · exact Or.inr (h.covers w hw)
    · exact Or.inl (congrArg Text.lower (List.mem_singleton.mp hw))
  key := by
    intro t ht
    rcases mem_add h.ascending ht with ⟨ht, -⟩ | ⟨u, hu, -, rfl⟩ | ⟨-, rfl⟩
    · exact h.key t ht
    · exact h.key u hu
    · rfl
  label := by
    intro t ht
    rw [List.mem_append]
    rcases mem_add h.ascending ht with ⟨ht, -⟩ | ⟨u, hu, -, rfl⟩ | ⟨-, rfl⟩
    · exact Or.inl (h.label t ht)
    · exact Or.inl (h.label u hu)
    · exact Or.inr List.mem_cons_self
  count := by
    intro t ht
    rw [List.countP_append]
    rcases mem_add h.ascending ht with ⟨ht, hne⟩ | ⟨u, hu, hk, rfl⟩ | ⟨hnone, rfl⟩
    · rw [h.count t ht]
      simp [Ne.symm hne]
    · rw [h.count u hu]
      simp [hk]
    · have hzero : values.countP (fun w => Text.lower w = Text.lower v) = 0 := by
        refine List.countP_eq_zero.mpr fun w hw heq => ?_
        obtain ⟨u, hu, hk⟩ := List.mem_map.mp (h.covers w hw)
        exact hnone u hu (hk.trans (of_decide_eq_true heq))
      simp [hzero]
  total := by rw [sum_add, h.total, List.length_append, List.length_singleton]

theorem counts_ofValues (values : List String) : Counts values (ofValues values) := by
  have hfold : ∀ rest seen : List String, ∀ ts : List Tally, Counts seen ts →
      Counts (seen ++ rest)
        (rest.foldl (fun ts value => Tally.add (Text.lower value) value ts) ts) := by
    intro rest
    induction rest with
    | nil =>
      intro seen ts h
      simpa using h
    | cons v rest ih =>
      intro seen ts h
      simpa using ih (seen ++ [v]) _ (h.add v)
  exact hfold values [] [] ⟨List.Pairwise.nil, by simp, by simp, by simp, by simp, rfl⟩

theorem insertRanked_perm (t : Tally) (ts : List Tally) : (insertRanked t ts).Perm (t :: ts) := by
  induction ts with
  | nil => exact .refl _
  | cons u ts ih =>
    rw [insertRanked]
    split
    · exact .refl _
    · exact (ih.cons u).trans (.swap t u ts)

theorem ranked_perm (ts : List Tally) : (ranked ts).Perm ts := by
  induction ts with
  | nil => exact .refl _
  | cons t ts ih => exact (insertRanked_perm t _).trans (ih.cons t)

end FacetBrowser.Tally
