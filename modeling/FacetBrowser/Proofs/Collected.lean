import FacetBrowser.Proofs.Grammar
import FacetBrowser.Proofs.Reconciliation
import FacetBrowser.Proofs.Tallies
import Mathlib.Algebra.Order.BigOperators.Group.List

namespace FacetBrowser

structure Query.Means (q : Query) (filter : Filter) : Prop where
  derives : Filter.Derives filter q.text.toList
  all : filter = [] → q = .all

namespace Query.Means

variable {p q : Query} {filter : Filter} {clause : Clause}

theorem everything : Query.all.Means [] :=
  ⟨.all Filter.spaces_nil, fun _ => rfl⟩

theorem and (hp : p.Means filter) (hq : Filter.Spells clause q.text.toList) :
    (p.and q).Means (filter ++ [clause]) where
  derives := Filter.derives_and hp.derives hq.derives hp.all (List.cons_ne_nil _ _)
  all h := by simp at h

end Query.Means

namespace Collection

variable {c : Collection} {q : Query} {filter : Filter} {facet : String} {group : Group}

def matching (c : Collection) (filter : Filter) : List Record :=
  c.records.filter fun r => filter.holds r.attributes

def values (found : List Record) (facet : String) : List String :=
  found.filterMap fun r => r.attributes.lookup facet

def groupingOf (c : Collection) (filter : Filter) (facet : String) : Grouping :=
  ⟨UInt64.ofNat (c.matching filter).length, c.groupsOf (c.matching filter) facet,
    c.sampleOf (c.matching (filter ++ [.absent facet]))⟩

theorem matching_nil (c : Collection) : c.matching [] = c.records := by
  simp [matching, Filter.holds]

theorem matching_concat (c : Collection) (filter : Filter) (clause : Clause) :
    c.matching (filter ++ [clause]) =
      (c.matching filter).filter fun r => clause.holds r.attributes := by
  rw [matching, matching, List.filter_filter]
  refine List.filter_congr fun r _ => ?_
  simp [Filter.holds, Bool.and_comm]

theorem length_matching_le (c : Collection) (filter : Filter) :
    (c.matching filter).length ≤ c.records.length :=
  List.length_filter_le _ _

theorem select_eq (h : q.Means filter) : c.select q = .ok (c.matching filter) := by
  simp only [select, Filter.parse, Filter.read_derived h.derives, matching]

theorem select_eq_ok_iff : c.select q = .ok found ↔
    ∃ filter, Filter.parse q.text = .ok filter ∧ found = c.matching filter := by
  rw [select]
  cases Filter.parse q.text with
  | error fault => simp
  | ok filter => simp [matching, eq_comm]

theorem select_of_sample {s : Sample} (h : c.sample q = .ok s) :
    ∃ found, c.select q = .ok found ∧ s = c.sampleOf found := by
  rw [sample] at h
  cases hq : c.select q with
  | error e => simp [hq, bind, Except.bind] at h
  | ok found =>
    rw [hq] at h
    exact ⟨found, rfl, (Except.ok.inj h).symm⟩

theorem select_of_group {g : Grouping} (h : c.group q facet = .ok g) :
    ∃ found ungrouped, c.select q = .ok found ∧
      c.select (q.and (.absent facet)) = .ok ungrouped ∧
      g = ⟨UInt64.ofNat found.length, c.groupsOf found facet, c.sampleOf ungrouped⟩ := by
  rw [group] at h
  cases hq : c.select q with
  | error e => simp [hq, bind, Except.bind] at h
  | ok found =>
    cases ha : c.select (q.and (.absent facet)) with
    | error e => simp [hq, ha, bind, Except.bind] at h
    | ok ungrouped =>
      rw [hq, ha] at h
      exact ⟨found, ungrouped, rfl, rfl, (Except.ok.inj h).symm⟩

theorem sample_eq (h : q.Means filter) : c.sample q = .ok (c.sampleOf (c.matching filter)) := by
  rw [sample, select_eq h]
  rfl

theorem group_eq (h : q.Means filter) (hfacet : Filter.IsName facet) :
    c.group q facet = .ok (c.groupingOf filter facet) := by
  rw [group, select_eq h, select_eq (h.and (Filter.spells_absent hfacet))]
  rfl

theorem countP_values (found : List Record) (facet value : String) :
    (values found facet).countP (fun v => Text.lower v = Text.lower value) =
      (found.filter fun r => (Clause.equals facet value).holds r.attributes).length := by
  rw [values, List.countP_filterMap, List.countP_eq_length_filter]
  refine congrArg List.length (List.filter_congr fun r _ => ?_)
  simp only [Clause.holds]
  cases r.attributes.lookup facet <;> rfl

theorem length_values (found : List Record) (facet : String) :
    (values found facet).length +
      (found.filter fun r => (Clause.absent facet).holds r.attributes).length = found.length := by
  rw [values, List.length_filterMap_eq_countP, ← List.countP_eq_length_filter]
  rw [List.length_eq_countP_add_countP fun r : Record => (r.attributes.lookup facet).isSome]
  simp [Clause.holds]

theorem exists_tally {found : List Record} (h : group ∈ c.groupsOf found facet) :
    ∃ t ∈ Tally.ofValues (values found facet), t.group = group := by
  obtain ⟨t, ht, hgroup⟩ := List.mem_map.mp h
  exact ⟨t, (Tally.ranked_perm _).mem_iff.mp (List.mem_of_mem_take ht), hgroup⟩

theorem toNat_count {t : Tally} {found : List Record} (hsize : found.length < UInt64.size)
    (ht : t ∈ Tally.ofValues (values found facet)) : t.group.count.toNat = t.count := by
  have hle : t.count ≤ found.length := by
    rw [(Tally.counts_ofValues _).count t ht]
    exact Nat.le_trans List.countP_le_length (List.length_filterMap_le _ _)
  exact UInt64.toNat_ofNat_of_lt' (Nat.lt_of_le_of_lt hle hsize)

theorem group_value_mem {found : List Record} (h : group ∈ c.groupsOf found facet) :
    group.value ∈ values found facet := by
  obtain ⟨t, ht, rfl⟩ := exists_tally h
  exact (Tally.counts_ofValues _).label t ht

theorem group_count (h : group ∈ c.groupsOf (c.matching filter) facet) :
    group.count = UInt64.ofNat (c.matching (filter ++ [.equals facet group.value])).length := by
  obtain ⟨t, ht, rfl⟩ := exists_tally h
  have hcounts := Tally.counts_ofValues (values (c.matching filter) facet)
  rw [matching_concat, ← countP_values]
  simp only [Tally.group, hcounts.count t ht, hcounts.key t ht]

theorem sum_groupsOf_le (c : Collection) (found : List Record) (facet : String)
    (hsize : found.length < UInt64.size) :
    ((c.groupsOf found facet).map (·.count.toNat)).sum ≤ (values found facet).length := by
  have hcounts := Tally.counts_ofValues (values found facet)
  have hexact : (c.groupsOf found facet).map (·.count.toNat) =
      ((Tally.ranked (Tally.ofValues (values found facet))).map (·.count)).take
        c.groupPageSize.toNat := by
    rw [groupsOf, List.map_map, ← List.map_take]
    refine List.map_congr_left fun t ht => ?_
    exact toNat_count hsize ((Tally.ranked_perm _).mem_iff.mp (List.mem_of_mem_take ht))
  calc ((c.groupsOf found facet).map (·.count.toNat)).sum
      ≤ ((Tally.ranked (Tally.ofValues (values found facet))).map (·.count)).sum := by
        rw [hexact]
        exact (List.take_sublist _ _).sum_le_sum fun _ _ => Nat.zero_le _
    _ = ((Tally.ofValues (values found facet)).map (·.count)).sum :=
        ((Tally.ranked_perm _).map _).sum_eq
    _ = (values found facet).length := hcounts.total

theorem fits_sampleOf (c : Collection) {found : List Record} (hsize : found.length < UInt64.size) :
    (c.sampleOf found).Fits := by
  simp only [Sample.Fits, sampleOf, UInt64.toNat_ofNat_of_lt' hsize, List.length_map,
    List.length_take]
  exact Nat.min_le_right _ _

theorem fits_groupingOf (c : Collection) (filter : Filter) (facet : String)
    (hsize : c.records.length < UInt64.size) : (c.groupingOf filter facet).Fits where
  claimed_le := by
    have hfound := Nat.lt_of_le_of_lt (c.length_matching_le filter) hsize
    have habsent := Nat.lt_of_le_of_lt (c.length_matching_le (filter ++ [.absent facet])) hsize
    have hgroups := c.sum_groupsOf_le _ facet hfound
    have hvalues := length_values (c.matching filter) facet
    rw [← matching_concat] at hvalues
    simp only [Grouping.claimed, groupingOf, sampleOf, UInt64.toNat_ofNat_of_lt' hfound,
      UInt64.toNat_ofNat_of_lt' habsent]
    omega
  ungrouped := c.fits_sampleOf (Nat.lt_of_le_of_lt (c.length_matching_le _) hsize)

end Collection
end FacetBrowser
