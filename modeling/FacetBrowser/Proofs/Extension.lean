import FacetBrowser.Proofs.Collected
import FacetBrowser.Proofs.Recognition

namespace FacetBrowser

namespace Text

theorem trimEnd_eq_nil {cs : List Char} (h : ∀ c ∈ trimEnd cs, isBlank c = true) :
    trimEnd cs = [] := by
  rw [trimEnd, List.reverse_eq_nil_iff]
  cases hd : cs.reverse.dropWhile isBlank with
  | nil => rfl
  | cons c rest =>
    have hstop := List.head?_dropWhile_not isBlank cs.reverse
    rw [hd] at hstop
    have hblank := h c (by simp [trimEnd, hd])
    exact absurd hblank (by simpa using hstop)

end Text

namespace Query

inductive Built : Query → Prop
  | all : Built .all
  | ofText (text : String) : Built (.ofText text)
  | equals (facet value : String) : Built (.equals facet value)
  | absent (facet : String) : Built (.absent facet)
  | and {p q : Query} : Built p → Built q → Built (p.and q)

variable {p q : Query} {filter : Filter}

theorem isBlank_of_space {c : Char} (h : Filter.Space c) : Text.isBlank c = true := by
  rcases h with rfl | rfl | rfl | rfl <;> rfl

theorem eq_all_of_toList (h : q.text.toList = []) : q = .all :=
  congrArg Query.mk (String.toList_eq_nil_iff.mp h)

theorem Built.eq_all (h : q.Built) (hspaces : Filter.Spaces q.text.toList) : q = .all := by
  induction h with
  | all => rfl
  | ofText text =>
    refine eq_all_of_toList ?_
    rw [Query.ofText, Text.trim, String.toList_ofList] at hspaces ⊢
    exact Text.trimEnd_eq_nil fun c hc => isBlank_of_space (hspaces c hc)
  | equals facet value =>
    exact absurd hspaces Filter.not_spaces_equals
  | absent facet =>
    exact absurd hspaces Filter.not_spaces_absent
  | @and p q _ _ ihp ihq =>
    rw [Query.and] at hspaces ⊢
    split at hspaces
    · rename_i hp
      rw [if_pos hp]
      exact ihq hspaces
    · rename_i hp
      rw [if_neg hp]
      split at hspaces
      · rename_i hq
        rw [if_pos hq]
        exact ihp hspaces
      · have hmem : 'a' ∈ (p.text ++ " and " ++ q.text).toList := by simp [String.toList_append]
        exact absurd hspaces (Filter.not_spaces_of_mem hmem rfl)

theorem Built.means (h : q.Built) (hread : Filter.parse q.text = .ok filter) :
    q.Means filter where
  derives := Filter.parse_eq_ok_iff.mp hread
  all hfilter := by
    have hderives := Filter.parse_eq_ok_iff.mp hread
    rw [hfilter] at hderives
    cases hderives with
    | all hspaces => exact h.eq_all hspaces

theorem suffix_and (p q : Query) : q.text.toList <:+ (p.and q).text.toList := by
  rw [Query.and]
  split
  · exact List.suffix_rfl
  · split
    · rename_i hq
      have htext : q.text = "" := of_decide_eq_true hq
      simp [htext]
    · exact ⟨p.text.toList ++ " and ".toList, by simp [String.toList_append]⟩

end Query

namespace Filter

variable {filter : Filter} {clause : Clause} {clauses : List Clause} {name value : String}
  {text : List Char}

theorem Continues.exists_last (h : Continues (clauses ++ [clause]) text) :
    ∃ before spelled, Spells clause spelled ∧ text = before ++ spelled := by
  generalize hc : clauses ++ [clause] = all at h
  induction h generalizing clauses with
  | nil => simp at hc
  | @cons clause' clauses' before word after spelled rest _ _ _ _ _ hspelled hmore ih =>
    cases clauses with
    | nil =>
      obtain ⟨rfl, rfl⟩ := List.cons.inj hc
      cases hmore
      exact ⟨before ++ (word ++ after), spelled, hspelled, by simp⟩
    | cons c clauses =>
      obtain ⟨before', spelled', hs, rfl⟩ := ih (List.cons.inj hc).2
      exact ⟨before ++ (word ++ (after ++ (spelled ++ before'))), spelled', hs, by simp⟩

theorem Derives.exists_last (h : Derives (filter ++ [clause]) text) :
    ∃ before spelled after, Spells clause spelled ∧ Spaces after ∧
      text = before ++ (spelled ++ after) := by
  generalize hf : filter ++ [clause] = all at h
  cases h with
  | all => simp at hf
  | @clauses clause' clauses before spelled rest after _ hspelled hmore hafter =>
    cases filter with
    | nil =>
      obtain ⟨rfl, rfl⟩ := List.cons.inj hf
      cases hmore
      exact ⟨before, spelled, after, hspelled, hafter, by simp⟩
    | cons c filter =>
      obtain ⟨rfl, rfl⟩ := List.cons.inj hf
      obtain ⟨before', spelled', hs, rfl⟩ := hmore.exists_last
      exact ⟨before ++ (spelled ++ before'), spelled', after, hs, hafter, by simp⟩

theorem Derives.unquoted (h : Derives (filter ++ [.equals name value]) text)
    (hend : ['\''] <:+ text) : IsName name ∧ '\'' ∉ value.toList := by
  obtain ⟨before, spelled, after, hspelled, hafter, rfl⟩ := h.exists_last
  obtain ⟨front, hfront⟩ := hend
  rcases List.eq_nil_or_concat' after with rfl | ⟨after, c, rfl⟩
  · cases hspelled with
    | @equals _ _ blanks blanks' quote hname _ _ _ hv =>
      have hlast : front ++ ['\''] = (before ++ (name.toList ++ (blanks ++ '=' ::
          (blanks' ++ quote :: value.toList)))) ++ [quote] := by
        simpa using hfront
      obtain rfl := List.singleton_inj.mp (List.append_inj' hlast rfl).2
      exact ⟨hname, hv⟩
  · have hlast : front ++ ['\''] = (before ++ (spelled ++ after)) ++ [c] := by
      simpa using hfront
    obtain rfl := List.singleton_inj.mp (List.append_inj' hlast rfl).2
    exact absurd hafter (not_spaces_of_mem (by simp) (c := '\'') rfl)

theorem Derives.isName_of_absent (h : Derives (filter ++ [.absent name]) text) : IsName name := by
  obtain ⟨_, _, _, hspelled, -, -⟩ := h.exists_last
  cases hspelled with
  | absent hname => exact hname

theorem clause_read_back_iff {p : Query} (hp : p.Built) (h : parse p.text = .ok filter)
    (facet value : String) :
    (parse (p.and (.equals facet value)).text = .ok (filter ++ [.equals facet value]) ↔
      IsName facet ∧ '\'' ∉ value.toList) ∧
    (parse (p.and (.absent facet)).text = .ok (filter ++ [.absent facet]) ↔ IsName facet) := by
  have hmeans := hp.means h
  refine ⟨⟨fun hread => ?_, fun ⟨hname, hvalue⟩ => ?_⟩, fun hread => ?_, fun hname => ?_⟩
  · refine (parse_eq_ok_iff.mp hread).unquoted (List.IsSuffix.trans ?_ (p.suffix_and _))
    exact ⟨facet.toList ++ " = '".toList ++ value.toList,
      by simp [Query.equals, String.toList_append]⟩
  · exact parse_eq_ok_iff.mpr (hmeans.and (spells_equals hname hvalue)).derives
  · exact (parse_eq_ok_iff.mp hread).isName_of_absent
  · exact parse_eq_ok_iff.mpr (hmeans.and (spells_absent hname)).derives

theorem clause_read_back_after_apostrophe :
    let p := (Query.ofText "\tlab = \"O'Brien\"").and (.absent "null")
    let filter : Filter := [.equals "lab" "O'Brien", .absent "null"]
    p.Built ∧ parse p.text = .ok filter ∧
      parse (p.and (.equals "and" "x\" and y = null")).text =
        .ok (filter ++ [.equals "and" "x\" and y = null"]) ∧
      parse (p.and (.equals "lab" "O'Brien")).text ≠
        .ok (filter ++ [.equals "lab" "O'Brien"]) ∧
      parse (p.and (.absent "my lab")).text ≠ .ok (filter ++ [.absent "my lab"]) := by
  intro p filter
  have hp : p.Built := .and (.ofText _) (.absent _)
  have h : parse p.text = .ok filter := by decide +kernel
  refine ⟨hp, h, (clause_read_back_iff hp h _ _).1.mpr ?_, fun hread => ?_, fun hread => ?_⟩
  · decide +kernel
  · exact ((clause_read_back_iff hp h _ _).1.mp hread).2 (by decide +kernel)
  · exact absurd ((clause_read_back_iff hp h _ "").2.mp hread) (by decide +kernel)

end Filter
end FacetBrowser
