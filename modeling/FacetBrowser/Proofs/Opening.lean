import FacetBrowser.Proofs.Conjunction
import FacetBrowser.Proofs.Partition

namespace FacetBrowser

namespace Text

variable {c : Char}

theorem caseRuns_above_quote : ∀ r ∈ caseRuns, ('\''.toNat : Int) < r.first + r.shift := by
  decide +kernel

theorem image_ne_quote {r : CodeRun} {n : Nat} (hr : r ∈ caseRuns) (hn : r.covers n = true) :
    r.image n ≠ '\'' := by
  have habove := caseRuns_above_quote r hr
  have hfirst : r.first ≤ n := by
    simp only [CodeRun.covers, Bool.and_eq_true, decide_eq_true_eq] at hn
    exact hn.1.1
  intro h
  rw [CodeRun.image, Char.ofNat] at h
  by_cases hvalid : ((n : Int) + r.shift).toNat.isValidChar
  · rw [dif_pos hvalid] at h
    have hnat : ((n : Int) + r.shift).toNat = '\''.toNat := congrArg Char.toNat h
    omega
  · rw [dif_neg hvalid] at h
    cases h

theorem eq_quote_of_toLower (h : '\'' = c.toLower) : '\'' = c := by
  delta Char.toLower at h
  split at h
  · rename_i hupper
    have hval := congrArg (·.val.toNat) h
    simp [UInt32.le_iff_toNat_le] at hval hupper
    omega
  · exact h

theorem quote_mem_lowerChar : '\'' ∈ lowerChar c ↔ '\'' = c := by
  rw [lowerChar]
  split
  · rw [List.mem_singleton]
    refine ⟨eq_quote_of_toLower, ?_⟩
    rintro rfl
    rfl
  · rename_i hc
    have hne : '\'' ≠ c := by
      rintro rfl
      exact hc (by decide)
    simp only [hne, iff_false]
    split
    · decide
    · rw [List.mem_singleton, imageIn?]
      cases hfind : caseRuns.find? fun r => r.covers c.toNat with
      | none => exact hne
      | some r =>
        have hcovers := List.find?_some hfind
        exact (image_ne_quote (List.mem_of_find?_eq_some hfind) hcovers).symm

theorem quote_mem_lowerFrom (before cs : List Char) : '\'' ∈ lowerFrom before cs ↔ '\'' ∈ cs := by
  induction cs generalizing before with
  | nil => rfl
  | cons c cs ih =>
    have hc : '\'' ∈ (if c = '\u03A3' then [lowerSigma before cs] else lowerChar c) ↔
        '\'' = c := by
      split
      · rename_i hsigma
        subst hsigma
        rw [lowerSigma]
        split <;> decide
      · exact quote_mem_lowerChar
    rw [lowerFrom, List.mem_append, List.mem_cons, hc, ih]

theorem quote_mem_lower {s : String} : '\'' ∈ (lower s).toList ↔ '\'' ∈ s.toList := by
  rw [lower, String.toList_ofList]
  exact quote_mem_lowerFrom [] s.toList

theorem lower_ne_of_quote {s t : String} (hs : '\'' ∉ s.toList) (ht : '\'' ∈ t.toList) :
    lower s ≠ lower t := by
  intro h
  rw [← quote_mem_lower, ← h, quote_mem_lower] at ht
  exact hs ht

end Text

namespace Filter

variable {filter : Filter} {clause : Clause} {text rest tail : List Char}
  {facet value label : String}

theorem derives_iff_of_readClause (h : readClause text = .ok (clause, rest)) :
    Derives filter text ↔ ∃ more further after, Continues more further ∧ Spaces after ∧
      rest = further ++ after ∧ filter = clause :: more := by
  obtain ⟨spelled, hspelled, htext⟩ := spells_of_readClause h
  constructor
  · intro hderives
    have hstop : Stops isSpace text := htext ▸ hspelled.stops rest
    obtain ⟨c, cs, hcons, hc⟩ := hspelled.exists_cons
    cases hderives with
    | all hspaces =>
      exact absurd hspaces (not_spaces_of_mem (by simp [htext, hcons]) hc)
    | @clauses clause' more before spelled' further after hbefore hspelled' hmore hafter =>
      cases before with
      | cons d before =>
        have := hstop d rfl
        rw [hbefore.isSpace d List.mem_cons_self] at this
        cases this
      | nil =>
        have hnone : continuesWord [] = false := rfl
        have htail : continuesWord after = false := by
          simpa using continuesWord_spaces hafter hnone
        have hread := readClause_spelled hspelled' (hmore.continuesWord htail)
        obtain ⟨rfl, rfl⟩ := Prod.mk.inj (Except.ok.inj (h.symm.trans hread))
        exact ⟨more, further, after, hmore, hafter, rfl, rfl⟩
  · rintro ⟨more, further, after, hmore, hafter, rfl, rfl⟩
    rw [htext]
    exact .clauses spaces_nil hspelled hmore hafter

theorem readClause_quoted (hfacet : IsName facet) (hlabel : '\'' ∉ label.toList) :
    readClause (facet.toList ++
      ([' '] ++ '=' :: ([' '] ++ '\'' :: (label.toList ++ '\'' :: tail)))) =
      .ok (.equals facet label, tail) := by
  have hstop : Stops isSpace ('\'' :: (label.toList ++ '\'' :: tail)) := stops_cons rfl
  rw [readClause_assigned hfacet spaces_blank spaces_blank hstop,
    readValue_quoted (Or.inl rfl) hlabel]

-- the first quote in the value ends the text that is compared, and the rest has to go on from there
theorem derives_equals_iff (hfacet : IsName facet) (hlabel : '\'' ∉ label.toList)
    (hvalue : value.toList = label.toList ++ '\'' :: tail) :
    Derives filter (Query.equals facet value).text.toList ↔
      ∃ more, Continues more (tail ++ ['\'']) ∧ filter = .equals facet label :: more := by
  have htext : (Query.equals facet value).text.toList = facet.toList ++
      ([' '] ++ '=' :: ([' '] ++ '\'' :: (label.toList ++ '\'' :: (tail ++ ['\''])))) := by
    simp [Query.equals, String.toList_append, hvalue]
  rw [htext, derives_iff_of_readClause (readClause_quoted hfacet hlabel)]
  constructor
  · rintro ⟨more, further, after, hmore, hafter, hrest, rfl⟩
    rcases List.eq_nil_or_concat' after with rfl | ⟨after, c, rfl⟩
    · rw [hrest, List.append_nil]
      exact ⟨more, hmore, rfl⟩
    · rw [← List.append_assoc] at hrest
      obtain rfl := List.singleton_inj.mp (List.append_inj' hrest rfl).2
      exact absurd hafter (not_spaces_of_mem (by simp) (c := '\'') rfl)
  · rintro ⟨more, hmore, rfl⟩
    exact ⟨more, _, [], hmore, spaces_nil, by simp, rfl⟩

theorem Continues.ne_nil {more : List Clause} (h : Continues more text) (hne : text ≠ []) :
    more ≠ [] := by
  rintro rfl
  cases h
  exact hne rfl

theorem not_derives_blank_and {spaces : List Char} (hspaces : Spaces spaces)
    (hfacet : IsName facet) :
    ¬ Derives filter (spaces ++ ([' ', 'a', 'n', 'd', ' '] ++ (facet.toList ++ tail))) := by
  obtain ⟨c, cs, hcons, hc, -⟩ := hfacet.exists_cons
  have hand : IsName "and" := by decide +kernel
  have hequals : c ≠ '=' := by
    rintro rfl
    cases hc
  have hname : name? ('a' :: 'n' :: 'd' :: ' ' :: c :: (cs ++ tail)) =
      some ("and", ' ' :: c :: (cs ++ tail)) :=
    name?_append hand (stops_cons rfl)
  have hskip : skipSpaces ([' '] ++ c :: (cs ++ tail)) = c :: (cs ++ tail) :=
    skipSpaces_append spaces_blank (stops_cons (isSpace_of_isNameStart hc))
  have hclause : readClause ('a' :: 'n' :: 'd' :: ' ' :: c :: (cs ++ tail)) =
      .error (.noEquals (c :: (cs ++ tail))) := by
    rw [List.singleton_append] at hskip
    simp only [readClause, hname, hskip]
    split
    · rename_i heq
      exact absurd (List.cons.inj heq).1 hequals
    · rfl
  have hstart : skipSpaces (spaces ++ ([' ', 'a', 'n', 'd', ' '] ++ (facet.toList ++ tail))) =
      'a' :: 'n' :: 'd' :: ' ' :: c :: (cs ++ tail) := by
    have hstop : Stops isSpace ('a' :: 'n' :: 'd' :: ' ' :: c :: (cs ++ tail)) := stops_cons rfl
    simpa [hcons] using skipSpaces_append (hspaces.append spaces_blank) hstop
  intro hderives
  have hread := read_derived hderives
  rw [read, hstart] at hread
  simp only [hclause] at hread
  cases hread

end Filter

namespace Collection

variable {c : Collection} {q : Query} {filter filter' : Filter} {facet : String} {g : Grouping}

theorem disjoint_matching {clause clause' : Clause} (h : clause.Excludes clause') :
    (c.matching (filter ++ [clause])).Disjoint (c.matching (filter ++ [clause'])) := by
  intro r hr hr'
  rw [matching_concat, List.mem_filter] at hr hr'
  rw [h r.attributes hr.2] at hr'
  cases hr'.2

theorem groups_open_apart (c : Collection) (hq : q.Built) (hread : Filter.parse q.text = .ok filter)
    (hfacet : Filter.IsName facet) :
    let opened (group : Group) := q.and (.equals facet group.value)
    let unquoted (group : Group) := '\'' ∉ group.value.toList
    ∃ (g : Grouping) (ungrouped : List Record), c.group q facet = .ok g ∧
      c.select (q.and (.absent facet)) = .ok ungrouped ∧
      (∀ group ∈ g.groups, unquoted group → ∃ (s : Sample) (found : List Record),
        c.sample (opened group) = .ok s ∧ s.count = group.count ∧
        c.select (opened group) = .ok found ∧ found.Disjoint ungrouped) ∧
      g.groups.Pairwise fun group group' => unquoted group → unquoted group' →
        ∃ found found', c.select (opened group) = .ok found ∧
          c.select (opened group') = .ok found' ∧ found.Disjoint found' := by
  intro opened unquoted
  have hmeans := hq.means hread
  have hopened {group : Group} (h : unquoted group) :
      (opened group).Means (filter ++ [.equals facet group.value]) :=
    hmeans.and (Filter.spells_equals hfacet h)
  refine ⟨_, _, group_eq hmeans hfacet, select_eq (hmeans.and (Filter.spells_absent hfacet)),
    fun group hgroup h => ?_, ?_⟩
  · refine ⟨_, _, sample_eq (hopened h), (group_count hgroup).symm, select_eq (hopened h), ?_⟩
    exact List.disjoint_symm (disjoint_matching (Clause.absent_excludes facet group.value))
  · refine (c.pairwise_groupsOf _ facet).imp fun {group group'} hne h h' => ?_
    exact ⟨_, _, select_eq (hopened h), select_eq (hopened h'),
      disjoint_matching (Clause.equals_excludes hne)⟩

theorem dotted_groups_open_apart :
    let first : Record := ⟨"1", "/a", [("kind", "K"), ("lab", "\u0130")]⟩
    let second : Record := ⟨"2", "/b", [("lab", "i\u0307"), ("kind", "k")]⟩
    let bare : Record := ⟨"4", "/d", [("kind", "k")]⟩
    let c : Collection := ⟨[first, second, ⟨"3", "/c", [("lab", "I"), ("kind", "k")]⟩, bare,
      ⟨"5", "/e", [("kind", "k"), ("lab", "O'B")]⟩, ⟨"6", "/f", [("lab", "\u0130")]⟩], 1, 3⟩
    let q := Query.ofText "kind=\"k\" "
    let g : Grouping := ⟨5, [⟨"\u0130", 2⟩, ⟨"I", 1⟩, ⟨"O'B", 1⟩], ⟨1, [⟨"4", "/d"⟩]⟩⟩
    let opened (value : String) := q.and (.equals "lab" value)
    q.Built ∧ Filter.parse q.text = .ok [.equals "kind" "k"] ∧ Filter.IsName "lab" ∧
    c.group q "lab" = .ok g ∧ '\'' ∉ "\u0130".toList ∧ '\'' ∉ "I".toList ∧
    (∃ s found, c.sample (opened "\u0130") = .ok s ∧ s.count = 2 ∧
      c.select (opened "\u0130") = .ok found ∧ found.Disjoint [bare]) ∧
    c.select (opened "\u0130") = .ok [first, second] ∧
    ∃ found found', c.select (opened "\u0130") = .ok found ∧ c.select (opened "I") = .ok found' ∧
      found.Disjoint found' := by
  intro first second bare c q g opened
  have hread : Filter.parse q.text = .ok [.equals "kind" "k"] := by decide +kernel
  have hfacet : Filter.IsName "lab" := by decide +kernel
  have hg : c.group q "lab" = .ok g := by decide +kernel
  have hbare : c.select (q.and (.absent "lab")) = .ok [bare] := by decide +kernel
  have hdotted : '\'' ∉ "\u0130".toList := by decide +kernel
  have hplain : '\'' ∉ "I".toList := by decide +kernel
  have hselect : c.select (opened "\u0130") = .ok [first, second] := by decide +kernel
  obtain ⟨g', ungrouped, hg', hungrouped, hopened, happart⟩ :=
    groups_open_apart c (.ofText _) hread hfacet
  obtain rfl := Except.ok.inj (hg.symm.trans hg')
  obtain rfl := Except.ok.inj (hbare.symm.trans hungrouped)
  have hfirst := hopened ⟨"\u0130", 2⟩ List.mem_cons_self hdotted
  have hpair := (List.pairwise_cons.mp happart).1 ⟨"I", 1⟩ List.mem_cons_self hdotted hplain
  exact ⟨.ofText _, hread, hfacet, hg, hdotted, hplain, hfirst, hselect, hpair⟩

theorem exists_means_of_group (hfacet : Filter.IsName facet) (h : c.group q facet = .ok g) :
    ∃ filter, q.Means filter ∧ g = c.groupingOf filter facet := by
  obtain ⟨_, _, hfound, hungrouped, -⟩ := select_of_group h
  obtain ⟨filter, hread, -⟩ := select_eq_ok_iff.mp hfound
  obtain ⟨filter', hread', -⟩ := select_eq_ok_iff.mp hungrouped
  have hderives := Filter.parse_eq_ok_iff.mp hread
  have hmeans : q.Means filter := by
    refine ⟨hderives, fun hnil => ?_⟩
    by_contra hall
    rw [hnil] at hderives
    cases hderives with
    | all hspaces =>
      have habsent : Query.absent facet ≠ .all := by
        intro h
        have htext := congrArg (·.text.toList) h
        simp [Query.absent, Query.all, String.toList_append] at htext
      rw [Query.and_eq_mk hall habsent] at hread'
      have htext : Filter.Derives filter' (q.text.toList ++
          ([' ', 'a', 'n', 'd', ' '] ++ (facet.toList ++ " = null".toList))) := by
        simpa [Query.absent, String.toList_append] using Filter.parse_eq_ok_iff.mp hread'
      exact Filter.not_derives_blank_and hspaces hfacet htext
  exact ⟨filter, hmeans, Except.ok.inj (h.symm.trans (group_eq hmeans hfacet))⟩

theorem parse_quoted_row_iff {value label : String} {tail : List Char} (hq : q.Means filter)
    (hfacet : Filter.IsName facet) (hlabel : '\'' ∉ label.toList)
    (hvalue : value.toList = label.toList ++ '\'' :: tail) :
    Filter.parse (q.and (.equals facet value)).text = .ok filter' ↔
      ∃ more, Filter.Continues more (tail ++ ['\'']) ∧
        filter' = filter ++ .equals facet label :: more := by
  rw [Filter.parse_eq_ok_iff, hq.derives_and_iff Filter.not_spaces_equals]
  simp only [Filter.derives_equals_iff hfacet hlabel hvalue]
  constructor
  · rintro ⟨_, ⟨more, hmore, rfl⟩, rfl⟩
    exact ⟨more, hmore, rfl⟩
  · rintro ⟨more, hmore, rfl⟩
    exact ⟨_, ⟨more, hmore, rfl⟩, rfl⟩

theorem opened_row_cases (c : Collection) (hfacet : Filter.IsName facet)
    (hg : c.group q facet = .ok g) :
    ∃ filter, Filter.parse q.text = .ok filter ∧ ∀ group ∈ g.groups,
      let opened := q.and (.equals facet group.value)
      ('\'' ∉ group.value.toList → ∃ s, c.sample opened = .ok s ∧ s.count = group.count) ∧
      ('\'' ∈ group.value.toList → ∃ (label : String) (tail : List Char),
        '\'' ∉ label.toList ∧ group.value.toList = label.toList ++ '\'' :: tail ∧
        (∀ filter', Filter.parse opened.text = .ok filter' ↔
          ∃ more, Filter.Continues more (tail ++ ['\'']) ∧
            filter' = filter ++ .equals facet label :: more) ∧
        ∀ s, c.sample opened = .ok s → ∃ more, more ≠ [] ∧
          Filter.Continues more (tail ++ ['\'']) ∧
          let found := c.records.filter fun r =>
            Filter.holds (filter ++ .equals facet label :: more) r.attributes
          s = c.sampleOf found ∧
            ∀ r ∈ found, (Clause.equals facet group.value).holds r.attributes = false) := by
  obtain ⟨filter, hmeans, rfl⟩ := exists_means_of_group hfacet hg
  refine ⟨filter, Filter.read_derived hmeans.derives, fun group hgroup => ⟨fun hvalue => ?_,
    fun hquote => ?_⟩⟩
  · exact ⟨_, sample_eq (hmeans.and (Filter.spells_equals hfacet hvalue)),
      (group_count hgroup).symm⟩
  · obtain ⟨front, tail, hsplit, hfront⟩ := List.eq_append_cons_of_mem hquote
    have hlabel : '\'' ∉ (String.ofList front).toList := by rwa [String.toList_ofList]
    have hvalue : group.value.toList = (String.ofList front).toList ++ '\'' :: tail := by
      rwa [String.toList_ofList]
    refine ⟨String.ofList front, tail, hlabel, hvalue,
      fun _ => parse_quoted_row_iff hmeans hfacet hlabel hvalue, fun s hs => ?_⟩
    obtain ⟨found, hfound, rfl⟩ := select_of_sample hs
    obtain ⟨filter', hread, rfl⟩ := select_eq_ok_iff.mp hfound
    obtain ⟨more, hmore, rfl⟩ := (parse_quoted_row_iff hmeans hfacet hlabel hvalue).mp hread
    refine ⟨more, hmore.ne_nil (by simp), hmore, rfl, fun r hr => ?_⟩
    have hlower := Text.lower_ne_of_quote hlabel hquote
    exact Clause.equals_excludes hlower _
      (List.all_eq_true.mp (List.mem_filter.mp hr).2 _ (by simp))

theorem quoted_row_opens_others :
    ¬ ∀ (c : Collection) (q : Query) (facet : String) (g : Grouping) (group : Group) (s : Sample),
      q.Built → (∃ filter, Filter.parse q.text = .ok filter) → Filter.IsName facet →
      c.group q facet = .ok g → group ∈ g.groups →
      c.sample (q.and (.equals facet group.value)) = .ok s → s.count = group.count := by
  intro h
  let c : Collection := ⟨[⟨"1", "/a", [("lab", "x' and type = 'y")]⟩,
    ⟨"2", "/b", [("lab", "x"), ("type", "y")]⟩, ⟨"3", "/c", [("lab", "X"), ("type", "Y")]⟩], 25, 25⟩
  let group : Group := ⟨"x' and type = 'y", 1⟩
  have hread : ∃ filter, Filter.parse Query.all.text = .ok filter := ⟨[], by decide +kernel⟩
  have hfacet : Filter.IsName "lab" := by decide +kernel
  have hg : c.group .all "lab" = .ok ⟨3, [⟨"x", 2⟩, group], ⟨0, []⟩⟩ := by decide +kernel
  have hs : c.sample (Query.all.and (.equals "lab" group.value)) =
      .ok ⟨2, [⟨"2", "/b"⟩, ⟨"3", "/c"⟩]⟩ := by decide +kernel
  have hcount := h c .all "lab" _ group _ .all hread hfacet hg (by simp) hs
  exact absurd hcount (by decide)

theorem quoted_row_opens_past_first_quote :
    let c : Collection := ⟨[⟨"1", "/a", [("kind", "k"), ("lab", "x' and type = 'y")]⟩,
      ⟨"2", "/b", [("kind", "k"), ("lab", "x"), ("type", "y")]⟩,
      ⟨"3", "/c", [("lab", "X"), ("type", "Y"), ("kind", "K")]⟩,
      ⟨"4", "/d", [("kind", "m"), ("lab", "x"), ("type", "y")]⟩], 1, 25⟩
    let q := Query.equals "kind" "k"
    let value := "x' and type = 'y"
    let g : Grouping := ⟨3, [⟨"x", 2⟩, ⟨value, 1⟩], ⟨0, []⟩⟩
    let s : Sample := ⟨2, [⟨"2", "/b"⟩]⟩
    Filter.IsName "lab" ∧ c.group q "lab" = .ok g ∧
    c.sample (q.and (.equals "lab" value)) = .ok s ∧
    (∃ s, c.sample (q.and (.equals "lab" "x")) = .ok s ∧ s.count = 2) ∧
    ∃ (filter : Filter) (label : String) (tail : List Char) (more : Filter),
      '\'' ∉ label.toList ∧ value.toList = label.toList ++ '\'' :: tail ∧ more ≠ [] ∧
      Filter.Continues more (tail ++ ['\'']) ∧
      s = c.sampleOf (c.records.filter fun r =>
        Filter.holds (filter ++ .equals "lab" label :: more) r.attributes) := by
  intro c q value g s
  have hfacet : Filter.IsName "lab" := by decide +kernel
  have hg : c.group q "lab" = .ok g := by decide +kernel
  have hs : c.sample (q.and (.equals "lab" value)) = .ok s := by decide +kernel
  obtain ⟨filter, -, hrows⟩ := opened_row_cases c hfacet hg
  obtain ⟨hplain, -⟩ := hrows ⟨"x", 2⟩ List.mem_cons_self
  obtain ⟨-, hquoted⟩ := hrows ⟨value, 1⟩ (by simp [g])
  obtain ⟨label, tail, hlabel, hvalue, -, hsample⟩ := hquoted (by decide +kernel)
  obtain ⟨more, hne, hmore, hsame, -⟩ := hsample s hs
  exact ⟨hfacet, hg, hs, hplain (by decide +kernel), filter, label, tail, more, hlabel, hvalue, hne,
    hmore, hsame⟩

end Collection
end FacetBrowser
