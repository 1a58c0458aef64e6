import FacetBrowser.Proofs.Opening

namespace FacetBrowser

namespace Filter

variable {filter : Filter} {facet name : String} {cs front after : List Char}

theorem Spaces.reverse (h : Spaces cs) : Spaces cs.reverse :=
  fun c hc => h c (List.mem_reverse.mp hc)

theorem exists_spaces_behind (cs : List Char) :
    ∃ core spaces, Stops isSpace core.reverse ∧ Spaces spaces ∧ cs = core ++ spaces := by
  obtain ⟨spaces, hspaces, hcs⟩ := exists_spaces cs.reverse
  refine ⟨(skipSpaces cs.reverse).reverse, spaces.reverse, ?_, hspaces.reverse, ?_⟩
  · rw [List.reverse_reverse]
    exact stops_skipSpaces _
  · rw [← List.reverse_append, ← hcs, List.reverse_reverse]

theorem eq_of_append_spaces {front' after' : List Char} (hfront : Stops isSpace front.reverse)
    (hfront' : Stops isSpace front'.reverse) (hafter : Spaces after) (hafter' : Spaces after')
    (h : front ++ after = front' ++ after') : front = front' := by
  have hdrop := congrArg (fun cs => skipSpaces cs.reverse) h
  simp only [List.reverse_append, skipSpaces_append hafter.reverse hfront,
    skipSpaces_append hafter'.reverse hfront'] at hdrop
  exact List.reverse_injective hdrop

theorem stops_reverse_concat {c : Char} (front : List Char) (hc : isSpace c = false) :
    Stops isSpace (front ++ [c]).reverse := by
  rw [List.reverse_append]
  exact stops_cons hc

theorem IsName.isSpace_eq_false (h : IsName name) : ∀ c ∈ name.toList, isSpace c = false := by
  obtain ⟨c, cs, hcons, hc, hcs⟩ := h.exists_cons
  rw [hcons]
  exact List.forall_mem_cons.mpr
    ⟨isSpace_of_isNameStart hc, fun d hd => isSpace_of_isNameChar (hcs d hd)⟩

theorem IsName.stops_reverse (h : IsName name) (front : List Char) :
    Stops isSpace (front ++ name.toList).reverse := by
  have hmem := h.isSpace_eq_false
  rcases List.eq_nil_or_concat' name.toList with hnil | ⟨init, c, hlast⟩
  · obtain ⟨c, cs, hcons, -⟩ := h
    cases hnil.symm.trans hcons
  · rw [hlast, ← List.append_assoc]
    exact stops_reverse_concat _ (hmem c (by simp [hlast]))

theorem append_name_of_assigned {before : List Char} (hname : IsName name) (hbefore : Spaces before)
    (hafter : Spaces after)
    (h : front ++ (name.toList ++ (before ++ '=' :: after)) = facet.toList ++ " = ".toList) :
    ∃ back, Spaces back ∧ facet.toList = front ++ (name.toList ++ back) := by
  have hequals : (front ++ (name.toList ++ before) ++ ['=']) ++ after =
      (facet.toList ++ [' '] ++ ['=']) ++ [' '] := by
    simpa using h
  have hleft := List.append_cancel_right (eq_of_append_spaces (stops_reverse_concat _ rfl)
    (stops_reverse_concat _ rfl) hafter spaces_blank hequals)
  obtain ⟨core, back, hcore, hback, hfacet⟩ := exists_spaces_behind facet.toList
  rw [hfacet, ← List.append_assoc, List.append_assoc core] at hleft
  have hend := eq_of_append_spaces (hname.stops_reverse front) hcore hbefore
    (hback.append spaces_blank) hleft
  exact ⟨back, hback, by rw [hfacet, ← hend, List.append_assoc]⟩

theorem absent_text (facet : String) : (Query.absent facet).text.toList =
    facet.toList ++ " = ".toList ++ ['n', 'u', 'l', 'l'] := by
  simp [Query.absent, String.toList_append]

theorem derives_padded_absent {before : List Char} (hname : IsName name) (hbefore : Spaces before)
    (hafter : Spaces after) (hfacet : facet.toList = before ++ (name.toList ++ after)) :
    Derives [.absent name] (Query.absent facet).text.toList := by
  have hword : ['n', 'u', 'l', 'l'].map Char.toLower = ['n', 'u', 'l', 'l'] := rfl
  have hspelled : Spells (.absent name)
      (name.toList ++ (after ++ [' '] ++ '=' :: ([' '] ++ ['n', 'u', 'l', 'l']))) :=
    .absent hname (hafter.append spaces_blank) spaces_blank hword
  simpa [absent_text, hfacet] using Derives.clauses hbefore hspelled .nil spaces_nil

theorem last_of_absent_text {c : Char} (h : front ++ [c] = (Query.absent facet).text.toList) :
    c = 'l' := by
  have hlast : front ++ [c] = (facet.toList ++ " = nul".toList) ++ ['l'] := by
    simpa [absent_text] using h
  exact List.singleton_inj.mp (List.append_inj' hlast rfl).2

theorem eq_nil_of_absent_text (hafter : Spaces after)
    (h : front ++ after = (Query.absent facet).text.toList) : after = [] := by
  rcases List.eq_nil_or_concat' after with hnil | ⟨blanks, c, rfl⟩
  · exact hnil
  · obtain rfl := last_of_absent_text ((List.append_assoc ..).trans h)
    exact absurd hafter (not_spaces_of_mem (by simp) (c := 'l') rfl)

theorem Derives.exists_absent_last (h : Derives filter (Query.absent facet).text.toList) :
    ∃ (more : Filter) (name : String) (front back : List Char), filter = more ++ [.absent name] ∧
      IsName name ∧ Spaces back ∧ facet.toList = front ++ (name.toList ++ back) := by
  rcases List.eq_nil_or_concat' filter with rfl | ⟨more, clause, rfl⟩
  · cases h with
    | all hspaces => exact absurd hspaces not_spaces_absent
  · obtain ⟨front, spelled, after, hspelled, hafter, htext⟩ := h.exists_last
    have hbehind : (front ++ spelled) ++ after = (Query.absent facet).text.toList := by
      rw [List.append_assoc, htext]
    obtain rfl := eq_nil_of_absent_text hafter hbehind
    rw [List.append_nil] at htext
    cases hspelled with
    | @equals name value before after quote _ _ _ hq _ =>
      have hlast : front ++ (name.toList ++
          (before ++ '=' :: (after ++ quote :: value.toList))) ++ [quote] =
          (Query.absent facet).text.toList := by
        simp [htext]
      obtain rfl := last_of_absent_text hlast
      rcases hq with hq | hq <;> cases hq
    | @absent name before after word hname hbefore hafter hw =>
      have hlength : word.length = 4 := by simpa using congrArg List.length hw
      have hsplit : (front ++ (name.toList ++ (before ++ '=' :: after))) ++ word =
          (facet.toList ++ " = ".toList) ++ ['n', 'u', 'l', 'l'] := by
        rw [← absent_text, htext]
        simp only [List.append_assoc, List.cons_append]
      obtain ⟨back, hback, hfacet⟩ := append_name_of_assigned hname hbefore hafter
        (List.append_inj' hsplit hlength).1
      exact ⟨more, name, front, back, rfl, hname, hback, hfacet⟩

end Filter

namespace Collection

variable {q : Query} {filter : Filter} {facet : String} {g : Grouping}

theorem toNat_count_sampleOf (c : Collection) {found : List Record}
    (hsize : found.length < UInt64.size) : (c.sampleOf found).count.toNat = found.length :=
  UInt64.toNat_ofNat_of_lt' hsize

theorem ungrouped_of_group {c : Collection} (hq : q.Means filter) (h : c.group q facet = .ok g) :
    ∃ (more : Filter) (name : String) (front back : List Char),
      Filter.parse (Query.absent facet).text = .ok (more ++ [.absent name]) ∧
      Filter.IsName name ∧ Filter.Spaces back ∧ facet.toList = front ++ (name.toList ++ back) ∧
      g.ungrouped = c.sampleOf ((c.matching filter).filter fun r =>
        more.holds r.attributes && (r.attributes.lookup name).isNone) := by
  obtain ⟨found, ungrouped, -, hungrouped, rfl⟩ := select_of_group h
  obtain ⟨filter', hread, rfl⟩ := select_eq_ok_iff.mp hungrouped
  obtain ⟨clauses, hclauses, rfl⟩ :=
    (hq.derives_and_iff Filter.not_spaces_absent).mp (Filter.parse_eq_ok_iff.mp hread)
  obtain ⟨more, name, front, back, rfl, hname, hback, hfacet⟩ := hclauses.exists_absent_last
  refine ⟨more, name, front, back, Filter.parse_eq_ok_iff.mpr hclauses, hname, hback, hfacet, ?_⟩
  rw [← List.append_assoc, matching_concat, matching_append, matching, List.filter_filter,
    List.filter_filter]
  refine congrArg c.sampleOf (List.filter_congr fun r _ => ?_)
  simp only [Clause.holds]
  rw [Bool.and_comm (filter.holds _), Bool.and_assoc, Bool.and_left_comm]

theorem group_of_padded_name {name : String} {before after : List Char} (c : Collection)
    (hq : q.Means filter) (hname : Filter.IsName name) (hbefore : Filter.Spaces before)
    (hafter : Filter.Spaces after) (hfacet : facet.toList = before ++ (name.toList ++ after)) :
    c.group q facet = .ok ⟨UInt64.ofNat (c.matching filter).length,
      c.groupsOf (c.matching filter) facet, c.sampleOf ((c.matching filter).filter fun r =>
        (r.attributes.lookup name).isNone)⟩ := by
  have hderives : Filter.Derives (filter ++ [.absent name]) (q.and (.absent facet)).text.toList :=
    (hq.derives_and_iff Filter.not_spaces_absent).mpr
      ⟨_, Filter.derives_padded_absent hname hbefore hafter hfacet, rfl⟩
  have habsent : c.select (q.and (.absent facet)) = .ok (c.matching (filter ++ [.absent name])) :=
    select_eq_ok_iff.mpr ⟨_, Filter.parse_eq_ok_iff.mpr hderives, rfl⟩
  rw [group, select_eq hq, habsent, matching_concat]
  rfl

theorem ungrouped_as_facet_reads (c : Collection) (hsize : c.records.length < UInt64.size)
    (hq : q.Built) (hread : Filter.parse q.text = .ok filter) :
    let found := c.records.filter fun r => filter.holds r.attributes
    (Filter.IsName facet → ∃ g, c.group q facet = .ok g ∧
      g.ungrouped.count.toNat =
        (found.filter fun r => (r.attributes.lookup facet).isNone).length ∧
      ∃ unlisted, g.unlisted = .ok unlisted) ∧
    (∀ name before after, Filter.IsName name → Filter.Spaces before → Filter.Spaces after →
      facet.toList = before ++ (name.toList ++ after) → ∃ g, c.group q facet = .ok g ∧
        g.ungrouped.count.toNat =
          (found.filter fun r => (r.attributes.lookup name).isNone).length) ∧
    ∀ g, c.group q facet = .ok g → ∃ (more : Filter) (name : String) (front back : List Char),
      Filter.parse (Query.absent facet).text = .ok (more ++ [.absent name]) ∧
      Filter.IsName name ∧ Filter.Spaces back ∧ facet.toList = front ++ (name.toList ++ back) ∧
      g.ungrouped.count.toNat = (found.filter fun r =>
        more.holds r.attributes && (r.attributes.lookup name).isNone).length := by
  intro found
  have hmeans := hq.means hread
  have hcount (p : Record → Bool) :
      (c.sampleOf (found.filter p)).count.toNat = (found.filter p).length :=
    c.toNat_count_sampleOf (Nat.lt_of_le_of_lt
      (Nat.le_trans (List.length_filter_le _ _) (List.length_filter_le _ _)) hsize)
  refine ⟨fun hfacet => ?_, fun name before after hname hbefore hafter hfacet => ?_, fun g hg => ?_⟩
  · refine ⟨_, group_eq hmeans hfacet, ?_,
      Grouping.exists_unlisted_iff.mpr (c.fits_groupingOf filter facet hsize).claimed_le⟩
    rw [groupingOf, matching_concat]
    exact hcount _
  · exact ⟨_, group_of_padded_name c hmeans hname hbefore hafter hfacet, hcount _⟩
  · obtain ⟨more, name, front, back, hparse, hname, hback, hfacet, hsame⟩ :=
      ungrouped_of_group hmeans hg
    refine ⟨more, name, front, back, hparse, hname, hback, hfacet, ?_⟩
    rw [hsame]
    exact hcount _

theorem ungrouped_under_padded_and_joined_names :
    let c : Collection := ⟨[⟨"1", "/a", [("kind", "k"), ("lab", "x")]⟩,
      ⟨"2", "/b", [("kind", "K"), ("lab ", "x")]⟩, ⟨"3", "/c", [("kind", "m"), ("lab ", "x")]⟩,
      ⟨"4", "/d", [("kind", "k"), ("type", "csv")]⟩, ⟨"5", "/e", [("kind", "k")]⟩], 1, 3⟩
    let q := (Query.equals "kind" "k").and .all
    let filter : Filter := [.equals "kind" "k"]
    let joined := "type = 'CSV' and lab"
    let g : Grouping := ⟨4, [], ⟨1, [⟨"4", "/d"⟩]⟩⟩
    c.records.length < UInt64.size ∧ q.Built ∧ Filter.parse q.text = .ok filter ∧
    Filter.IsName "lab" ∧
    (∃ g, c.group q "lab" = .ok g ∧ g.ungrouped.count.toNat = 3 ∧
      ∃ unlisted, g.unlisted = .ok unlisted) ∧
    (∃ g, c.group q "\tlab " = .ok g ∧ g.ungrouped.count.toNat = 3) ∧
    c.group q joined = .ok g ∧
    ∃ (more : Filter) (name : String), Filter.IsName name ∧
      Filter.parse (Query.absent joined).text = .ok (more ++ [.absent name]) ∧
      g.ungrouped.count.toNat = (c.records.filter fun r => filter.holds r.attributes).countP
        fun r => more.holds r.attributes && (r.attributes.lookup name).isNone := by
  intro c q filter joined g
  have hsize : c.records.length < UInt64.size := by decide +kernel
  have hq : q.Built := .and (.equals _ _) .all
  have hread : Filter.parse q.text = .ok filter := by decide +kernel
  have hname : Filter.IsName "lab" := by decide +kernel
  have hg : c.group q joined = .ok g := by decide +kernel
  obtain ⟨hplain, -⟩ := ungrouped_as_facet_reads c hsize hq hread
  obtain ⟨-, hpadded, -⟩ := ungrouped_as_facet_reads c hsize hq hread
  obtain ⟨-, -, hjoined⟩ := ungrouped_as_facet_reads c hsize hq hread
  obtain ⟨more, name, -, -, hparse, hname', -, -, hcount⟩ := hjoined g hg
  refine ⟨hsize, hq, hread, hname, hplain hname,
    hpadded "lab" ['\t'] [' '] hname (List.forall_mem_singleton.mpr (.inr (.inl rfl)))
      Filter.spaces_blank (by decide +kernel),
    hg, more, name, hname', hparse, ?_⟩
  rw [List.countP_eq_length_filter]
  exact hcount

theorem padded_facet_counted_twice :
    let r : Record := ⟨"1", "/a", [("lab ", "x")]⟩
    let c : Collection := ⟨[r], 25, 25⟩
    let g : Grouping := ⟨1, [⟨"x", 1⟩], ⟨1, [⟨"1", "/a"⟩]⟩⟩
    Query.all.Built ∧ Filter.parse Query.all.text = .ok [] ∧ c.select .all = .ok [r] ∧
    c.group .all "lab " = .ok g ∧
    g.ungrouped.count.toNat ≠ ([r].filter fun r => (r.attributes.lookup "lab ").isNone).length ∧
    g.unlisted = .error ⟨1, 2⟩ := by
  refine ⟨.all, ?_, ?_, ?_, ?_, ?_⟩ <;> decide +kernel

end Collection
end FacetBrowser
