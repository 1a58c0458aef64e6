import FacetBrowser.Proofs.Extension
import Mathlib.Data.List.Induction

namespace FacetBrowser

namespace Tally

variable {t u : Tally} {ts : List Tally} {values : List String}

def Outranks (t u : Tally) : Prop :=
  u.count < t.count ∨ u.count = t.count ∧ t.key < u.key

theorem pairwise_insertRanked (h : ts.Pairwise Outranks) (hkey : ∀ u ∈ ts, t.key < u.key) :
    (insertRanked t ts).Pairwise Outranks := by
  induction ts with
  | nil => exact List.pairwise_singleton _ _
  | cons u us ih =>
    obtain ⟨hu, hus⟩ := List.pairwise_cons.mp h
    obtain ⟨hkeyu, hkeyus⟩ := List.forall_mem_cons.mp hkey
    rw [insertRanked]
    split
    · rename_i hle
      refine List.pairwise_cons.mpr ⟨fun w hw => ?_, h⟩
      have hcount : w.count ≤ u.count := by
        rcases List.mem_cons.mp hw with rfl | hw
        · exact Nat.le_refl _
        · rcases hu w hw with hlt | ⟨heq, -⟩ <;> omega
      rcases Nat.lt_or_eq_of_le (Nat.le_trans hcount hle) with hlt | heq
      · exact Or.inl hlt
      · exact Or.inr ⟨heq, hkey w hw⟩
    · rename_i hlt
      refine List.pairwise_cons.mpr ⟨fun w hw => ?_, ih hus hkeyus⟩
      rcases List.mem_cons.mp ((insertRanked_perm t us).mem_iff.mp hw) with rfl | hw
      · exact Or.inl (Nat.lt_of_not_le hlt)
      · exact hu w hw

theorem pairwise_ranked (h : Ascending ts) : (ranked ts).Pairwise Outranks := by
  induction ts with
  | nil => exact .nil
  | cons t ts ih =>
    obtain ⟨ht, hts⟩ := List.pairwise_cons.mp h
    exact pairwise_insertRanked (ih hts) fun u hu => ht u ((ranked_perm ts).mem_iff.mp hu)

theorem ofValues_concat (values : List String) (v : String) :
    ofValues (values ++ [v]) = add (Text.lower v) v (ofValues values) := by
  simp only [ofValues, List.foldl_append, List.foldl_cons, List.foldl_nil]

theorem find?_ofValues (values : List String) : ∀ t ∈ ofValues values,
    values.find? (fun v => Text.lower v = t.key) = some t.label := by
  induction values using List.reverseRecOn with
  | nil => simp [ofValues]
  | append_singleton values v ih =>
    intro t ht
    rw [ofValues_concat] at ht
    have hcounts := counts_ofValues values
    rw [List.find?_append]
    rcases mem_add hcounts.ascending ht with ⟨ht, -⟩ | ⟨u, hu, -, rfl⟩ | ⟨hnone, rfl⟩
    · rw [ih t ht, Option.some_or]
    · rw [ih u hu, Option.some_or]
    · have hfirst : values.find? (fun w => Text.lower w = Text.lower v) = none := by
        refine List.find?_eq_none.mpr fun w hw heq => ?_
        obtain ⟨u, hu, hk⟩ := List.mem_map.mp (hcounts.covers w hw)
        exact hnone u hu (hk.trans (of_decide_eq_true heq))
      simp [hfirst]

def keysOf (values : List String) : List String :=
  (ranked (ofValues values)).map (·.key)

theorem mem_keysOf {key : String} : key ∈ keysOf values ↔ ∃ v ∈ values, Text.lower v = key := by
  have hcounts := counts_ofValues values
  rw [keysOf, ((ranked_perm _).map _).mem_iff]
  constructor
  · intro hk
    obtain ⟨t, ht, rfl⟩ := List.mem_map.mp hk
    exact ⟨t.label, hcounts.label t ht, (hcounts.key t ht).symm⟩
  · rintro ⟨v, hv, rfl⟩
    exact hcounts.covers v hv

theorem nodup_keysOf (values : List String) : (keysOf values).Nodup := by
  refine ((ranked_perm _).map _).nodup_iff.mpr (List.pairwise_map.mpr ?_)
  exact (counts_ofValues values).ascending.imp ne_of_lt

theorem count_of_mem_ranked (ht : t ∈ ranked (ofValues values)) :
    t.count = values.countP fun v => Text.lower v = t.key :=
  (counts_ofValues values).count t ((ranked_perm _).mem_iff.mp ht)

theorem pairwise_keysOf (values : List String) :
    (keysOf values).Pairwise fun k l =>
      values.countP (fun v => Text.lower v = l) < values.countP (fun v => Text.lower v = k) ∨
        values.countP (fun v => Text.lower v = l) = values.countP (fun v => Text.lower v = k) ∧
          k < l := by
  refine List.pairwise_map.mpr ?_
  refine (pairwise_ranked (counts_ofValues values).ascending).imp_of_mem fun ht hu htu => ?_
  rw [← count_of_mem_ranked ht, ← count_of_mem_ranked hu]
  exact htu

theorem sum_keysOf (values : List String) :
    ((keysOf values).map fun k => values.countP fun v => Text.lower v = k).sum =
      values.length := by
  have hcongr : (keysOf values).map (fun k => values.countP fun v => Text.lower v = k) =
      (ranked (ofValues values)).map (·.count) := by
    rw [keysOf, List.map_map]
    exact List.map_congr_left fun t ht => (count_of_mem_ranked ht).symm
  rw [hcongr, ((ranked_perm _).map _).sum_eq]
  exact (counts_ofValues values).total

end Tally

namespace Collection

variable {c : Collection} {filter : Filter} {facet : String} {found : List Record}

theorem groupsOf_eq (c : Collection) (facet : String) (hsize : found.length < UInt64.size) :
    (c.groupsOf found facet).map (fun g => (some g.value, g.count.toNat)) =
      ((Tally.keysOf (values found facet)).take c.groupPageSize.toNat).map fun k =>
        ((values found facet).find? (fun v => Text.lower v = k),
          (values found facet).countP fun v => Text.lower v = k) := by
  rw [groupsOf, Tally.keysOf, ← List.map_take, List.map_map, List.map_map]
  refine List.map_congr_left fun t ht => ?_
  have hmem := (Tally.ranked_perm _).mem_iff.mp (List.mem_of_mem_take ht)
  refine Prod.ext (Tally.find?_ofValues _ t hmem).symm ?_
  exact (toNat_count hsize hmem).trans ((Tally.counts_ofValues _).count t hmem)

theorem claimed_groupingOf (c : Collection) (filter : Filter) (facet : String)
    (hsize : c.records.length < UInt64.size) :
    (c.groupingOf filter facet).claimed =
      ((c.matching filter).filter fun r => (r.attributes.lookup facet).isNone).length +
        (((Tally.keysOf (values (c.matching filter) facet)).take c.groupPageSize.toNat).map
          fun k => (values (c.matching filter) facet).countP fun v => Text.lower v = k).sum := by
  have hfound := Nat.lt_of_le_of_lt (c.length_matching_le filter) hsize
  have habsent := Nat.lt_of_le_of_lt (c.length_matching_le (filter ++ [.absent facet])) hsize
  have hgroups := congrArg (List.map Prod.snd) (c.groupsOf_eq facet hfound)
  simp only [List.map_map, Function.comp_def] at hgroups
  rw [Grouping.claimed, groupingOf, sampleOf, hgroups, UInt64.toNat_ofNat_of_lt' habsent,
    matching_concat]
  rfl

theorem unlisted_groupingOf (c : Collection) (filter : Filter) (facet : String)
    (hsize : c.records.length < UInt64.size) :
    ∃ hidden, (c.groupingOf filter facet).unlisted = .ok hidden ∧ hidden.toNat =
      (((Tally.keysOf (values (c.matching filter) facet)).drop c.groupPageSize.toNat).map
        fun k => (values (c.matching filter) facet).countP fun v => Text.lower v = k).sum := by
  have hfound := Nat.lt_of_le_of_lt (c.length_matching_le filter) hsize
  have hcount : (c.groupingOf filter facet).count.toNat = (c.matching filter).length :=
    UInt64.toNat_ofNat_of_lt' hfound
  have hvalues := length_values (c.matching filter) facet
  have hclaimed := c.claimed_groupingOf filter facet hsize
  have htotal := Tally.sum_keysOf (values (c.matching filter) facet)
  rw [← List.sum_take_add_sum_drop _ c.groupPageSize.toNat, ← List.map_take, ← List.map_drop]
    at htotal
  simp only [Clause.holds] at hvalues
  refine ⟨.ofNat _, Grouping.unlisted_eq_ok.mpr ?_, UInt64.toNat_ofNat_of_lt' ?_⟩
  · rw [UInt64.toNat_ofNat_of_lt' (by omega)]
    omega
  · omega

theorem group_ranked (c : Collection) {q : Query} {filter : Filter} {facet : String}
    (hsize : c.records.length < UInt64.size) (hq : q.Built)
    (hread : Filter.parse q.text = .ok filter) (hfacet : Filter.IsName facet) :
    let found := c.records.filter fun r => filter.holds r.attributes
    let absent := found.filter fun r => (r.attributes.lookup facet).isNone
    let values := found.filterMap fun r => r.attributes.lookup facet
    let number (key : String) := values.countP fun v => Text.lower v = key
    ∃ (g : Grouping) (keys : List String) (hidden : UInt64),
      c.group q facet = .ok g ∧ g.count.toNat = found.length ∧
      keys.Nodup ∧ (∀ key, key ∈ keys ↔ ∃ v ∈ values, Text.lower v = key) ∧
      keys.Pairwise (fun k l => number l < number k ∨ number l = number k ∧ k < l) ∧
      g.groups.map (fun group => (some group.value, group.count.toNat)) =
        (keys.take c.groupPageSize.toNat).map (fun key =>
          (values.find? (fun v => Text.lower v = key), number key)) ∧
      g.ungrouped.count.toNat = absent.length ∧
      g.ungrouped.items = (absent.take c.sampleSize.toNat).map Record.item ∧
      g.unlisted = .ok hidden ∧
      hidden.toNat = ((keys.drop c.groupPageSize.toNat).map number).sum := by
  intro found absent values number
  have hfound : found.length < UInt64.size :=
    Nat.lt_of_le_of_lt (c.length_matching_le filter) hsize
  have habsent : absent.length < UInt64.size :=
    Nat.lt_of_le_of_lt (List.length_filter_le _ _) hfound
  have hungrouped : (c.groupingOf filter facet).ungrouped = c.sampleOf absent :=
    congrArg c.sampleOf (matching_concat c filter _)
  obtain ⟨hidden, hunlisted, hhidden⟩ := c.unlisted_groupingOf filter facet hsize
  refine ⟨_, Tally.keysOf values, hidden, group_eq (hq.means hread) hfacet,
    UInt64.toNat_ofNat_of_lt' hfound, Tally.nodup_keysOf values, fun _ => Tally.mem_keysOf,
    Tally.pairwise_keysOf values, c.groupsOf_eq facet hfound, ?_, hungrouped ▸ rfl, hunlisted,
    hhidden⟩
  rw [hungrouped]
  exact UInt64.toNat_ofNat_of_lt' habsent

theorem tied_groups_by_key_then_one_cut :
    let c : Collection := ⟨[⟨"1", "/a", [("lab", "x"), ("type", "NWB")]⟩,
      ⟨"2", "/b", [("lab", "X"), ("type", "csv")]⟩, ⟨"3", "/c", [("lab", "x")]⟩,
      ⟨"4", "/d", [("type", "xml")]⟩, ⟨"5", "/e", [("type", "xml"), ("lab", "x")]⟩,
      ⟨"6", "/f", [("lab", "x"), ("type", "CSV")]⟩, ⟨"7", "/g", [("lab", "x")]⟩,
      ⟨"8", "/h", [("lab", "x"), ("type", "nwb")]⟩], 1, 2⟩
    let q := Query.ofText " lab = \"x\" "
    let g : Grouping := ⟨7, [⟨"csv", 2⟩, ⟨"NWB", 2⟩], ⟨2, [⟨"3", "/c"⟩]⟩⟩
    let values := ["NWB", "csv", "xml", "CSV", "nwb"]
    let number (key : String) := values.countP fun v => Text.lower v = key
    c.records.length < UInt64.size ∧ q.Built ∧
    Filter.parse q.text = .ok [.equals "lab" "x"] ∧ Filter.IsName "type" ∧
    ∃ (keys : List String) (hidden : UInt64), c.group q "type" = .ok g ∧ keys.Nodup ∧
      (∀ key, key ∈ keys ↔ ∃ v ∈ values, Text.lower v = key) ∧
      keys.Pairwise (fun k l => number l < number k ∨ number l = number k ∧ k < l) ∧
      (keys.take 2).map (fun key => (values.find? (fun v => Text.lower v = key), number key)) =
        [(some "csv", 2), (some "NWB", 2)] ∧
      g.unlisted = .ok hidden ∧ hidden.toNat = ((keys.drop 2).map number).sum := by
  intro c q g values number
  have hread : Filter.parse q.text = .ok [.equals "lab" "x"] := by decide +kernel
  have hfacet : Filter.IsName "type" := by decide +kernel
  have hvalues : (c.records.filter fun r => Filter.holds [.equals "lab" "x"] r.attributes).filterMap
      (fun r => r.attributes.lookup "type") = values := by decide +kernel
  have hg : c.group q "type" = .ok g := by decide +kernel
  obtain ⟨g', keys, hidden, hg', -, hnodup, hmem, hrank, hgroups, -, -, hunlisted, hhidden⟩ :=
    group_ranked c (by decide +kernel) (.ofText _) hread hfacet
  obtain rfl := Except.ok.inj (hg.symm.trans hg')
  rw [hvalues] at hmem hrank hgroups hhidden
  exact ⟨by decide +kernel, .ofText _, hread, hfacet, keys, hidden, hg, hnodup, hmem, hrank,
    hgroups.symm, hunlisted, hhidden⟩

end Collection
end FacetBrowser
