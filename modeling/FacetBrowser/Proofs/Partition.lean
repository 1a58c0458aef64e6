import FacetBrowser.Proofs.Collected
import Mathlib.Data.List.Perm.Subperm

namespace FacetBrowser

theorem flatMap_filter_subperm {α β : Type} {p : β → α → Bool} {l : List α} {bs : List β}
    (h : bs.Pairwise fun b b' => ∀ a, p b a = true → p b' a = false) :
    (bs.flatMap fun b => l.filter (p b)).Subperm l := by
  induction bs generalizing l with
  | nil => exact List.nil_subperm
  | cons b bs ih =>
    obtain ⟨hb, hbs⟩ := List.pairwise_cons.mp h
    have hrest : (bs.flatMap fun b' => l.filter (p b')) =
        bs.flatMap fun b' => (l.filter fun a => !p b a).filter (p b') := by
      refine List.flatMap_congr fun b' hb' => ?_
      rw [List.filter_filter]
      refine List.filter_congr fun a _ => ?_
      cases ha : p b a with
      | true => simp [hb b' hb' a ha]
      | false => simp
    rw [List.flatMap_cons, hrest]
    exact ((List.Subperm.refl _).append (ih hbs)).trans (List.filter_append_perm _ _).subperm

theorem subperm_map {α β : Type} (f : α → β) {l l' : List α} (h : l.Subperm l') :
    (l.map f).Subperm (l'.map f) := by
  obtain ⟨l'', hperm, hsub⟩ := h
  exact ⟨l''.map f, hperm.map f, hsub.map f⟩

namespace Clause

def Excludes (c c' : Clause) : Prop :=
  ∀ attributes, c.holds attributes = true → c'.holds attributes = false

theorem holds_equals {facet value : String} {attributes : Attributes} :
    (equals facet value).holds attributes = true ↔
      ∃ actual, attributes.lookup facet = some actual ∧ Text.lower actual = Text.lower value := by
  simp only [holds]
  cases attributes.lookup facet <;> simp

theorem holds_absent {facet : String} {attributes : Attributes} :
    (absent facet).holds attributes = true ↔ attributes.lookup facet = none := by
  simp [holds]

theorem absent_excludes (facet value : String) : (absent facet).Excludes (.equals facet value) := by
  intro attributes h
  refine Bool.eq_false_iff.mpr fun h' => ?_
  obtain ⟨actual, hactual, -⟩ := holds_equals.mp h'
  cases hactual.symm.trans (holds_absent.mp h)

theorem equals_excludes {facet value value' : String} (h : Text.lower value ≠ Text.lower value') :
    (equals facet value).Excludes (.equals facet value') := by
  intro attributes hholds
  refine Bool.eq_false_iff.mpr fun hholds' => ?_
  obtain ⟨actual, hactual, hlower⟩ := holds_equals.mp hholds
  obtain ⟨actual', hactual', hlower'⟩ := holds_equals.mp hholds'
  obtain rfl := Option.some.inj (hactual.symm.trans hactual')
  exact h (hlower.symm.trans hlower')

end Clause

theorem Tally.Counts.pairwise_label {values : List String} {ts : List Tally}
    (h : Counts values ts) :
    ts.Pairwise fun t u => Text.lower t.label ≠ Text.lower u.label := by
  refine h.ascending.imp_of_mem fun ht hu hlt => ?_
  rw [← h.key _ ht, ← h.key _ hu]
  exact ne_of_lt hlt

namespace Collection

variable {c : Collection} {filter : Filter} {facet : String}

theorem pairwise_groupsOf (c : Collection) (found : List Record) (facet : String) :
    (c.groupsOf found facet).Pairwise fun g g' => Text.lower g.value ≠ Text.lower g'.value := by
  have hcounts := Tally.counts_ofValues (values found facet)
  have hranked := ((Tally.ranked_perm _).pairwise_iff fun h => Ne.symm h).mpr
    hcounts.pairwise_label
  exact List.pairwise_map.mpr (hranked.sublist (List.take_sublist _ _))

def parts (c : Collection) (filter : Filter) (facet : String) : List Clause :=
  .absent facet :: (c.groupsOf (c.matching filter) facet).map fun group => .equals facet group.value

theorem pairwise_parts (c : Collection) (filter : Filter) (facet : String) :
    (c.parts filter facet).Pairwise Clause.Excludes := by
  refine List.pairwise_cons.mpr ⟨?_, ?_⟩
  · intro clause hclause
    obtain ⟨group, -, rfl⟩ := List.mem_map.mp hclause
    exact Clause.absent_excludes facet group.value
  · exact List.pairwise_map.mpr
      ((c.pairwise_groupsOf _ facet).imp fun h => Clause.equals_excludes h)

theorem parts_subperm (c : Collection) (filter : Filter) (facet : String) :
    ((c.parts filter facet).flatMap fun clause => c.matching (filter ++ [clause])).Subperm
      (c.matching filter) := by
  simp only [matching_concat]
  exact flatMap_filter_subperm ((c.pairwise_parts filter facet).imp
    fun h (r : Record) => h r.attributes)

end Collection
end FacetBrowser
