import FacetBrowser.Proofs.Archive
import FacetBrowser.Proofs.Extension

namespace FacetBrowser

namespace Text

theorem trimStart_of_trim {s : String} (h : trim s = s) : trimStart s.toList = s.toList := by
  have htrim : trimEnd (trimStart s.toList) = s.toList := by
    simpa [trim] using congrArg String.toList h
  have hend : (trimEnd (trimStart s.toList)).length ≤ (trimStart s.toList).length := by
    have hle := (List.dropWhile_sublist isBlank (l := (trimStart s.toList).reverse)).length_le
    rw [List.length_reverse] at hle
    rwa [trimEnd, List.length_reverse]
  have hstart : (trimStart s.toList).Sublist s.toList := List.dropWhile_sublist isBlank
  refine hstart.eq_of_length_le ?_
  rwa [htrim] at hend

theorem trim_of_ends {s : String} {first : List Char} {c : Char} (hfront : first <+: s.toList)
    (hfirst : trimStart first = first) (hne : first ≠ []) (hback : [c] <:+ s.toList)
    (hc : isBlank c = false) : trim s = s := by
  obtain ⟨after, hafter⟩ := hfront
  obtain ⟨before, hbefore⟩ := hback
  have hstart : trimStart s.toList = s.toList := by
    rw [← hafter, trimStart, List.dropWhile_append, ← trimStart, hfirst,
      if_neg (by simpa using hne)]
  have hend : trimEnd s.toList = s.toList := by
    rw [← hbefore]
    simp [trimEnd, hc]
  rw [trim, hstart, hend, String.ofList_toList]

theorem isBlank_of_isNameStart {c : Char} (h : Filter.isNameStart c = true) :
    isBlank c = false := by
  have hrange : 65 ≤ c.toNat ∧ c.toNat ≤ 122 := by
    rcases Filter.isNameStart_iff.mp h with (⟨hlow, hhigh⟩ | ⟨hlow, hhigh⟩) | rfl
    · have hcode : 65 ≤ c.toNat ∧ c.toNat ≤ 90 := ⟨hlow, hhigh⟩
      omega
    · have hcode : 97 ≤ c.toNat ∧ c.toNat ≤ 122 := ⟨hlow, hhigh⟩
      omega
    · decide
  simp [isBlank]
  omega

theorem trimStart_isName {name : String} (h : Filter.IsName name) :
    trimStart name.toList = name.toList ∧ name.toList ≠ [] := by
  obtain ⟨c, cs, hname, hc, -⟩ := h.exists_cons
  rw [hname]
  exact ⟨List.dropWhile_cons_of_neg (by simp [isBlank_of_isNameStart hc]), List.cons_ne_nil _ _⟩

end Text

namespace Query

variable {q : Query} {facet : String}

theorem trim_absent (hq : Text.trim q.text = q.text) (hfacet : Filter.IsName facet) :
    Text.trim (q.and (.absent facet)).text = (q.and (.absent facet)).text := by
  have hnull : ['l'] <:+ (absent facet).text.toList :=
    ⟨facet.toList ++ " = nul".toList, by simp [absent, String.toList_append]⟩
  have hback := hnull.trans (suffix_and q (absent facet))
  by_cases hall : q.isAll
  · obtain ⟨hname, hne⟩ := Text.trimStart_isName hfacet
    refine Text.trim_of_ends ?_ hname hne hback rfl
    exact ⟨" = null".toList, by simp [and, hall, absent, String.toList_append]⟩
  · have hne : q.text.toList ≠ [] := fun h =>
      hall (decide_eq_true (String.toList_eq_nil_iff.mp h))
    refine Text.trim_of_ends ?_ (Text.trimStart_of_trim hq) hne hback rfl
    have habsent : (absent facet).isAll = false := by simp [isAll, absent]
    exact ⟨" and ".toList ++ (absent facet).text.toList,
      by simp [and, hall, habsent, String.toList_append]⟩

end Query

namespace Collection

variable {c : Collection} {found : List Record} {facet : String}

theorem count_ne_zero (hsize : found.length < UInt64.size) :
    ∀ g ∈ c.groupsOf found facet, g.count ≠ 0 := by
  intro g hg hzero
  obtain ⟨t, ht, rfl⟩ := exists_tally hg
  have hcounts := Tally.counts_ofValues (values found facet)
  have hpos : 0 < t.count := by
    rw [hcounts.count t ht]
    refine List.countP_pos_iff.mpr ⟨t.label, hcounts.label t ht, ?_⟩
    exact decide_eq_true (hcounts.key t ht).symm
  have hcount := toNat_count hsize ht
  rw [hzero] at hcount
  exact Nat.ne_of_lt hpos hcount

theorem filterMap_group? (c : Collection) (facet : String) (hsize : found.length < UInt64.size) :
    ((c.groupsOf found facet).map Archive.facetRow).filterMap FacetRow.group? =
      c.groupsOf found facet := by
  rw [List.filterMap_map]
  refine (List.filterMap_congr fun g hg => ?_).trans List.filterMap_some
  exact if_neg (count_ne_zero hsize g hg)

end Collection

section Results

variable {ε α β : Type}

theorem toOption_map (f : α → β) (x : Except ε α) : (x.map f).toOption = x.toOption.map f := by
  cases x <;> rfl

end Results

namespace Remote

variable (service : Service) (records : List Record) {q : Query} {filter : Filter} {facet : String}

theorem askSample_archive (hq : Text.trim q.text = q.text) (size : UInt64) :
    (askSample service (Archive.exchange records) q size).toOption =
      ((Collection.mk records size Collection.defaultPageSize).sample q).toOption := by
  have hof : Query.ofText q.text = q := congrArg Query.mk hq
  have hask := Archive.ask_respond (Archive.exchange_sampleRequest service records q size)
    (fun _ item _ => Json.opens_object _) (fun _ item _ => Archive.reads_item item)
  rw [askSample, toOption_map, hask, Option.map_map, hof]
  exact Option.map_id'

theorem askGroups_archive (hq : Text.trim q.text = q.text) (facet : String) :
    (askGroups service (Archive.exchange records) q facet).toOption =
      ((Collection.mk records Collection.defaultPageSize service.groupPageSize).group
        q facet).toOption.map fun g =>
          (g.groups.map Archive.facetRow).filterMap FacetRow.group? := by
  have hof : Query.ofText q.text = q := congrArg Query.mk hq
  have hask := Archive.ask_respond (Archive.exchange_facetRequest service records q facet)
    (fun _ row _ => Json.opens_object _) (fun g row hrow => by
      obtain ⟨group, -, rfl⟩ := List.mem_map.mp hrow
      exact Archive.reads_facetRow group)
  rw [askGroups, toOption_map, hask, Option.map_map, hof]
  rfl

theorem askSample_means (hq : Text.trim q.text = q.text) (h : q.Means filter) (size : UInt64) :
    askSample service (Archive.exchange records) q size =
      .ok ((Collection.mk records size Collection.defaultPageSize).sampleOf
        ((Collection.mk records size Collection.defaultPageSize).matching filter)) := by
  refine toOption_eq_some.mp ?_
  rw [askSample_archive service records hq, Collection.sample_eq h]
  rfl

theorem askGroups_means (hsize : records.length < UInt64.size) (hq : Text.trim q.text = q.text)
    (h : q.Means filter) (hfacet : Filter.IsName facet) :
    let c : Collection := ⟨records, service.sampleSize, service.groupPageSize⟩
    askGroups service (Archive.exchange records) q facet =
      .ok (c.groupsOf (c.matching filter) facet) := by
  intro c
  have hfound := Nat.lt_of_le_of_lt (c.length_matching_le filter) hsize
  refine toOption_eq_some.mp ?_
  rw [askGroups_archive service records hq, Collection.group_eq h hfacet]
  exact congrArg some (c.filterMap_group? facet hfound)

theorem group_means (hsize : records.length < UInt64.size) (hq : Text.trim q.text = q.text)
    (h : q.Means filter) (hfacet : Filter.IsName facet) :
    let c : Collection := ⟨records, service.sampleSize, service.groupPageSize⟩
    group service (Archive.exchange records) q facet = .ok (c.groupingOf filter facet) := by
  intro c
  have habsent := h.and (Filter.spells_absent hfacet)
  obtain ⟨hidden, hunlisted⟩ := (Grouping.fits_iff.mp (c.fits_groupingOf filter facet hsize)).1
  rw [group, askGroups_means service records hsize hq h hfacet,
    askSample_means service records hq h, askSample_means service records
      (Query.trim_absent hq hfacet) habsent]
  simp only [bind, Except.bind]
  split
  · rfl
  · rename_i mismatch hmismatch
    cases hunlisted.symm.trans hmismatch

theorem sample_archive (hq : Text.trim q.text = q.text) :
    let c : Collection := ⟨records, service.sampleSize, service.groupPageSize⟩
    (sample service (Archive.exchange records) q).toOption = (c.sample q).toOption := by
  intro c
  rw [sample, askSample_archive service records hq]
  rfl

theorem group_refused {fault : Filter.Fault} (hq : Text.trim q.text = q.text)
    (hread : Filter.parse q.text = .error fault) (facet : String) :
    (group service (Archive.exchange records) q facet).toOption = none := by
  have hgroups := askGroups_archive service records hq facet
  simp only [Collection.group, Collection.select, hread] at hgroups
  cases hask : askGroups service (Archive.exchange records) q facet with
  | error e =>
    rw [group, hask]
    rfl
  | ok groups =>
    rw [hask] at hgroups
    cases hgroups

theorem group_archive (hsize : records.length < UInt64.size) (hq : Text.trim q.text = q.text)
    (hfacet : Filter.IsName facet) :
    let c : Collection := ⟨records, service.sampleSize, service.groupPageSize⟩
    (group service (Archive.exchange records) q facet).toOption =
      (c.group q facet).toOption := by
  intro c
  cases hread : Filter.parse q.text with
  | error fault =>
    rw [group_refused service records hq hread facet]
    simp only [Collection.group, Collection.select, hread]
    rfl
  | ok filter =>
    have hof : q = .ofText q.text := congrArg Query.mk hq.symm
    have hbuilt : q.Built := by
      rw [hof]
      exact .ofText _
    have h := hbuilt.means hread
    rw [Collection.group_eq h hfacet, group_means service records hsize hq h hfacet]

theorem answers_as_collection (service : Service) {records : List Record}
    (hsize : records.length < UInt64.size) {q : Query} (hq : Text.trim q.text = q.text)
    {facet : String} (hfacet : Filter.IsName facet) :
    let c : Collection := ⟨records, service.sampleSize, service.groupPageSize⟩
    let remote := source service (Archive.exchange records)
    (remote.sample .all).toOption = (c.sample .all).toOption ∧
      (remote.sample q).toOption = (c.sample q).toOption ∧
      (remote.group q facet).toOption = (c.group q facet).toOption := by
  intro c remote
  have hsample (q : Query) (hq : Text.trim q.text = q.text) :
      (remote.sample q).toOption = (c.sample q).toOption :=
    sample_archive service records hq
  exact ⟨hsample .all rfl, hsample q hq, group_archive service records hsize hq hfacet⟩

theorem quoted_value_grouped_over_json :
    let records : List Record := [⟨"7", "/a/\"1\"", [("lab", "O'Brien"), ("type", "\"x\"\n")]⟩,
      ⟨"007", "/b\\", [("lab", "O'BRIEN")]⟩, ⟨"8", "/c", [("lab", "o'brien"), ("type", "")]⟩,
      ⟨"9", "/d", [("type", "\"X\"\n"), ("lab", "o'brien")]⟩, ⟨"10", "/e", []⟩]
    let service : Service := ⟨"http://localhost:8000/", .json, 2, 1, 30⟩
    let remote := source service (Archive.exchange records)
    let q := Query.ofText " lab = \"O'Brien\" "
    records.length < UInt64.size ∧ Text.trim q.text = q.text ∧ Filter.IsName "type" ∧
      remote.sample q = .ok ⟨4, [⟨"7", "/a/\"1\""⟩, ⟨"007", "/b\\"⟩]⟩ ∧
      remote.group q "type" = .ok ⟨4, [⟨"\"x\"\n", 2⟩], ⟨1, [⟨"007", "/b\\"⟩]⟩⟩ := by
  intro records service remote q
  let c : Collection := ⟨records, service.sampleSize, service.groupPageSize⟩
  have hsize : records.length < UInt64.size := by decide +kernel
  have hq : Text.trim q.text = q.text := by decide +kernel
  have hfacet : Filter.IsName "type" := by decide +kernel
  obtain ⟨-, hsample, hgroup⟩ := answers_as_collection service hsize hq hfacet
  have hs : c.sample q = .ok ⟨4, [⟨"7", "/a/\"1\""⟩, ⟨"007", "/b\\"⟩]⟩ := by decide +kernel
  have hg : c.group q "type" = .ok ⟨4, [⟨"\"x\"\n", 2⟩], ⟨1, [⟨"007", "/b\\"⟩]⟩⟩ := by
    decide +kernel
  exact ⟨hsize, hq, hfacet, toOption_eq_some.mp (hsample.trans (congrArg Except.toOption hs)),
    toOption_eq_some.mp (hgroup.trans (congrArg Except.toOption hg))⟩

end Remote

end FacetBrowser
