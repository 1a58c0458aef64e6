import FacetBrowser.Filter.Parser
import FacetBrowser.Query
import Mathlib.Data.List.TakeWhile

namespace FacetBrowser.Filter

def Space (c : Char) : Prop :=
  c = ' ' ∨ c = '\t' ∨ c = '\r' ∨ c = '\n'

def Letter (c : Char) : Prop :=
  'A' ≤ c ∧ c ≤ 'Z' ∨ 'a' ≤ c ∧ c ≤ 'z'

def Digit (c : Char) : Prop :=
  '0' ≤ c ∧ c ≤ '9'

def Spaces (cs : List Char) : Prop :=
  ∀ c ∈ cs, Space c

def IsName (name : String) : Prop :=
  ∃ c cs, name.toList = c :: cs ∧ (Letter c ∨ c = '_') ∧ ∀ d ∈ cs, Letter d ∨ Digit d ∨ d = '_'

theorem isSpace_iff {c : Char} : isSpace c = true ↔ Space c := by
  simp [isSpace, Space, or_assoc]

theorem isNameStart_iff {c : Char} : isNameStart c = true ↔ Letter c ∨ c = '_' := by
  delta isNameStart Char.isAlpha Char.isUpper Char.isLower
  simp [Letter, Char.le_def]

theorem isNameChar_iff {c : Char} : isNameChar c = true ↔ Letter c ∨ Digit c ∨ c = '_' := by
  delta isNameChar Char.isAlphanum Char.isAlpha Char.isUpper Char.isLower Char.isDigit
  simp [Letter, Digit, Char.le_def, or_assoc]

theorem Spaces.isSpace {cs : List Char} (h : Spaces cs) : ∀ c ∈ cs, isSpace c = true :=
  fun c hc => isSpace_iff.mpr (h c hc)

theorem IsName.exists_cons {name : String} (h : IsName name) : ∃ c cs, name.toList = c :: cs ∧
    isNameStart c = true ∧ ∀ d ∈ cs, isNameChar d = true := by
  obtain ⟨c, cs, hname, hc, hcs⟩ := h
  exact ⟨c, cs, hname, isNameStart_iff.mpr hc, fun d hd => isNameChar_iff.mpr (hcs d hd)⟩

theorem spaces_nil : Spaces [] :=
  List.forall_mem_nil _

theorem spaces_blank : Spaces [' '] :=
  List.forall_mem_singleton.mpr (.inl rfl)

theorem Spaces.append {cs ds : List Char} (h : Spaces cs) (h' : Spaces ds) : Spaces (cs ++ ds) :=
  List.forall_mem_append.mpr ⟨h, h'⟩

theorem not_spaces_of_mem {c : Char} {cs : List Char} (hc : c ∈ cs) (hs : isSpace c = false) :
    ¬ Spaces cs :=
  fun h => Bool.eq_false_iff.mp hs (isSpace_iff.mpr (h c hc))

inductive Spells : Clause → List Char → Prop
  | equals {name value : String} {before after : List Char} {quote : Char} : IsName name →
      Spaces before → Spaces after → quote = '\'' ∨ quote = '"' → quote ∉ value.toList →
      Spells (.equals name value)
        (name.toList ++ (before ++ '=' :: (after ++ quote :: (value.toList ++ [quote]))))
  | absent {name : String} {before after word : List Char} : IsName name → Spaces before →
      Spaces after → word.map Char.toLower = ['n', 'u', 'l', 'l'] →
      Spells (.absent name) (name.toList ++ (before ++ '=' :: (after ++ word)))

inductive Continues : List Clause → List Char → Prop
  | nil : Continues [] []
  | cons {clause : Clause} {clauses : List Clause} {before word after text rest : List Char} :
      before ≠ [] → Spaces before → word.map Char.toLower = ['a', 'n', 'd'] → after ≠ [] →
      Spaces after → Spells clause text → Continues clauses rest →
      Continues (clause :: clauses) (before ++ (word ++ (after ++ (text ++ rest))))

inductive Derives : Filter → List Char → Prop
  | all {spaces : List Char} : Spaces spaces → Derives [] spaces
  | clauses {clause : Clause} {clauses : List Clause} {before text rest after : List Char} :
      Spaces before → Spells clause text → Continues clauses rest → Spaces after →
      Derives (clause :: clauses) (before ++ (text ++ (rest ++ after)))

def Stops (p : Char → Bool) (cs : List Char) : Prop :=
  ∀ c ∈ cs.head?, p c = false

theorem stops_cons {p : Char → Bool} {c : Char} {cs : List Char} (h : p c = false) :
    Stops p (c :: cs) := by
  intro d hd
  obtain rfl := Option.some.inj hd
  exact h

section Scanning

variable {p : Char → Bool} {run rest : List Char}

theorem takeWhile_append (hrun : ∀ c ∈ run, p c = true) (hrest : Stops p rest) :
    (run ++ rest).takeWhile p = run := by
  rw [List.takeWhile_append_of_pos hrun]
  cases rest with
  | nil => simp
  | cons c rest => simp [hrest c rfl]

theorem dropWhile_append (hrun : ∀ c ∈ run, p c = true) (hrest : Stops p rest) :
    (run ++ rest).dropWhile p = rest := by
  rw [List.dropWhile_append_of_pos hrun]
  cases rest with
  | nil => rfl
  | cons c rest => simp [hrest c rfl]

theorem skipSpaces_append (hrun : Spaces run) (hrest : Stops isSpace rest) :
    skipSpaces (run ++ rest) = rest :=
  dropWhile_append hrun.isSpace hrest

theorem skipSpaces_eq_nil_iff : skipSpaces run = [] ↔ Spaces run :=
  List.dropWhile_eq_nil_iff.trans (forall₂_congr fun _ _ => isSpace_iff)

end Scanning

section Characters

variable {c : Char}

theorem Space.not_isNameChar (h : Space c) : isNameChar c = false := by
  rcases h with rfl | rfl | rfl | rfl <;> decide

theorem isSpace_of_isNameChar (h : isNameChar c = true) : isSpace c = false := by
  by_contra hs
  rw [Space.not_isNameChar (isSpace_iff.mp (by simpa using hs))] at h
  cases h

theorem isSpace_of_isNameStart (h : isNameStart c = true) : isSpace c = false :=
  isSpace_of_isNameChar (isNameChar_iff.mpr ((isNameStart_iff.mp h).imp_right .inr))

theorem Space.not_isAlphanumeric (h : Space c) :
    (Text.isAlphanumeric c || c = '_') = false := by
  rcases h with rfl | rfl | rfl | rfl <;> decide

end Characters

theorem stops_of_spaces {p : Char → Bool} (hp : ∀ c, Space c → p c = false)
    {spaces rest : List Char} (h : Spaces spaces) (hrest : Stops p rest) :
    Stops p (spaces ++ rest) := by
  cases spaces with
  | nil => exact hrest
  | cons c spaces => exact stops_cons (hp c (h c List.mem_cons_self))

theorem stops_word {word small rest : List Char} {w : Char}
    (hw : word.map Char.toLower = w :: small) (hstart : isSpace w = false) :
    Stops isSpace (word ++ rest) := by
  cases word with
  | nil => cases hw
  | cons c word =>
    obtain ⟨rfl, -⟩ := List.cons.inj hw
    refine stops_cons (Bool.eq_false_iff.mpr fun hs => ?_)
    rcases isSpace_iff.mp hs with rfl | rfl | rfl | rfl <;> cases hstart

theorem name?_append {name : String} {rest : List Char} (h : IsName name)
    (hrest : Stops isNameChar rest) : name? (name.toList ++ rest) = some (name, rest) := by
  obtain ⟨c, cs, hname, hc, hcs⟩ := h.exists_cons
  rw [hname, List.cons_append, name?, if_pos hc, takeWhile_append hcs hrest,
    dropWhile_append hcs hrest, ← hname, String.ofList_toList]

theorem dropWord?_append {word small rest : List Char} (h : word.map Char.toLower = small) :
    dropWord? small (word ++ rest) = some rest := by
  induction word generalizing small with
  | nil =>
    subst h
    rfl
  | cons c word ih =>
    subst h
    simp [dropWord?, ih rfl]

theorem upTo?_append {quote : Char} {value : String} {rest : List Char}
    (h : quote ∉ value.toList) :
    upTo? quote (value.toList ++ quote :: rest) = some (value, rest) := by
  have hrun : ∀ c ∈ value.toList, decide (c ≠ quote) = true := by
    intro c hc
    exact decide_eq_true fun hq => h (hq ▸ hc)
  have hrest : Stops (fun c => decide (c ≠ quote)) (quote :: rest) := stops_cons (by simp)
  rw [upTo?, dropWhile_append hrun hrest, takeWhile_append hrun hrest, String.ofList_toList]

theorem readValue_quoted {name value : String} {quote : Char} {rest : List Char}
    (hq : quote = '\'' ∨ quote = '"') (hv : quote ∉ value.toList) :
    readValue name (quote :: (value.toList ++ quote :: rest)) =
      .ok (.equals name value, rest) := by
  rcases hq with rfl | rfl <;> simp only [readValue, quoted?, upTo?_append hv]

theorem readValue_null {name : String} {word rest : List Char}
    (hw : word.map Char.toLower = ['n', 'u', 'l', 'l']) (hrest : continuesWord rest = false) :
    readValue name (word ++ rest) = .ok (.absent name, rest) := by
  have hquoted : quoted? (word ++ rest) = none := by
    cases word with
    | nil => cases hw
    | cons c word =>
      have hc : c.toLower = 'n' := (List.cons.inj hw).1
      simp only [List.cons_append, quoted?]
      split
      · rename_i heq
        obtain ⟨rfl, -⟩ := List.cons.inj heq
        cases hc
      · rename_i heq
        obtain ⟨rfl, -⟩ := List.cons.inj heq
        cases hc
      · rfl
  simp only [readValue, hquoted, dropWord?_append hw, hrest, Bool.false_eq_true, if_false]

theorem Spells.exists_cons {clause : Clause} {text : List Char} (h : Spells clause text) :
    ∃ c cs, text = c :: cs ∧ isSpace c = false := by
  cases h with
  | equals hname _ _ _ _ | absent hname _ _ _ =>
    obtain ⟨c, cs, hname, hc, -⟩ := hname.exists_cons
    rw [hname]
    exact ⟨c, _, rfl, isSpace_of_isNameStart hc⟩

theorem Spells.stops {clause : Clause} {text : List Char} (h : Spells clause text)
    (rest : List Char) : Stops isSpace (text ++ rest) := by
  obtain ⟨c, cs, rfl, hc⟩ := h.exists_cons
  exact stops_cons hc

theorem readClause_assigned {name : String} {before after value : List Char}
    (hname : IsName name) (hbefore : Spaces before) (hafter : Spaces after)
    (hvalue : Stops isSpace value) :
    readClause (name.toList ++ (before ++ '=' :: (after ++ value))) = readValue name value := by
  have hequals : Stops isSpace ('=' :: (after ++ value)) := stops_cons rfl
  have hstop : Stops isNameChar (before ++ '=' :: (after ++ value)) :=
    stops_of_spaces (fun _ => Space.not_isNameChar) hbefore (stops_cons (by decide))
  simp only [readClause, name?_append hname hstop, skipSpaces_append hbefore hequals,
    skipSpaces_append hafter hvalue]

theorem readClause_spelled {clause : Clause} {text rest : List Char} (h : Spells clause text)
    (hrest : continuesWord rest = false) : readClause (text ++ rest) = .ok (clause, rest) := by
  cases h with
  | @equals name value before after quote hname hbefore hafter hq hv =>
    have hvalue : Stops isSpace (quote :: (value.toList ++ quote :: rest)) := by
      rcases hq with rfl | rfl <;> exact stops_cons rfl
    have hread := readClause_assigned hname hbefore hafter hvalue
    rw [readValue_quoted hq hv] at hread
    simpa using hread
  | @absent name before after word hname hbefore hafter hw =>
    have hvalue : Stops isSpace (word ++ rest) := stops_word hw rfl
    have hread := readClause_assigned hname hbefore hafter hvalue
    rw [readValue_null hw hrest] at hread
    simpa using hread

theorem continuesWord_spaces {spaces rest : List Char} (h : Spaces spaces)
    (hrest : continuesWord rest = false) : continuesWord (spaces ++ rest) = false := by
  cases spaces with
  | nil => exact hrest
  | cons c spaces => exact (h c List.mem_cons_self).not_isAlphanumeric

theorem conjunction?_spaces {spaces : List Char} (h : Spaces spaces) :
    conjunction? spaces = none := by
  cases spaces with
  | nil => rfl
  | cons c spaces =>
    have htail : skipSpaces spaces = [] :=
      skipSpaces_eq_nil_iff.mpr fun d hd => h d (List.mem_cons_of_mem _ hd)
    simp [conjunction?, h.isSpace c List.mem_cons_self, htail, dropWord?]

theorem conjunction?_append {before word after rest : List Char} (hne : before ≠ [])
    (hbefore : Spaces before) (hw : word.map Char.toLower = ['a', 'n', 'd'])
    (hne' : after ≠ []) (hafter : Spaces after) (hrest : Stops isSpace rest) :
    conjunction? (before ++ (word ++ (after ++ rest))) = some rest := by
  have hword : Stops isSpace (word ++ (after ++ rest)) := stops_word hw rfl
  cases before with
  | nil => exact absurd rfl hne
  | cons c before =>
    cases after with
    | nil => exact absurd rfl hne'
    | cons d after =>
      have hskip := skipSpaces_append (fun e he => hbefore e (List.mem_cons_of_mem _ he)) hword
      have hskip' := skipSpaces_append (fun e he => hafter e (List.mem_cons_of_mem _ he)) hrest
      simp only [List.cons_append, conjunction?, hbefore.isSpace c List.mem_cons_self, if_true]
      rw [List.cons_append] at hskip
      rw [hskip, dropWord?_append hw]
      simp only [hafter.isSpace d List.mem_cons_self, if_true, hskip']

theorem Continues.continuesWord {clauses : List Clause} {rest tail : List Char}
    (h : Continues clauses rest) (htail : Filter.continuesWord tail = false) :
    Filter.continuesWord (rest ++ tail) = false := by
  cases h with
  | nil => exact htail
  | @cons clause clauses before word after' text rest hne hbefore =>
    cases before with
    | nil => exact absurd rfl hne
    | cons c before => exact (hbefore c List.mem_cons_self).not_isAlphanumeric

theorem readMore_append {clauses : List Clause} {rest tail : List Char} {fuel : Nat}
    (h : Continues clauses rest) (htail : continuesWord tail = false)
    (hfuel : clauses.length ≤ fuel) :
    readMore fuel (rest ++ tail) = (readMore (fuel - clauses.length) tail).map fun more =>
      (clauses ++ more.1, more.2) := by
  induction h generalizing fuel with
  | nil =>
    cases hread : readMore fuel tail <;> simp [hread, Except.map]
  | @cons clause clauses before word after text rest hne hbefore hw hne' hafter htext hmore ih =>
    cases fuel with
    | zero => cases hfuel
    | succ fuel =>
      have hconjunction := conjunction?_append hne hbefore hw hne' hafter
        (htext.stops (rest ++ tail))
      have hclause := readClause_spelled htext (hmore.continuesWord htail)
      simp only [List.append_assoc, readMore, hconjunction, hclause,
        ih (Nat.le_of_succ_le_succ hfuel), List.length_cons, Nat.add_sub_add_right]
      cases readMore (fuel - clauses.length) tail <;> rfl

theorem readMore_spaces {spaces : List Char} (fuel : Nat) (h : Spaces spaces) :
    readMore fuel spaces = .ok ([], spaces) := by
  cases fuel with
  | zero => rfl
  | succ fuel => simp only [readMore, conjunction?_spaces h]

theorem Continues.length_le {clauses : List Clause} {rest : List Char}
    (h : Continues clauses rest) : clauses.length ≤ rest.length := by
  induction h with
  | nil => exact Nat.le_refl _
  | @cons _ _ before _ _ _ _ hne _ _ _ _ _ _ ih =>
    have := List.length_pos_iff.mpr hne
    simp only [List.length_cons, List.length_append]
    omega

theorem read_clauses {clause : Clause} {clauses : List Clause} {before text rest tail : List Char}
    (hbefore : Spaces before) (htext : Spells clause text) (hmore : Continues clauses rest)
    (htail : continuesWord tail = false) :
    ∃ fuel, read (before ++ (text ++ (rest ++ tail))) =
      match readMore fuel tail with
      | .error fault => .error fault
      | .ok (more, left) =>
        match skipSpaces left with
        | [] => .ok (clause :: (clauses ++ more))
        | left => .error (.unread left) := by
  have hskip := skipSpaces_append hbefore (htext.stops (rest ++ tail))
  have hclause := readClause_spelled htext (hmore.continuesWord htail)
  have hfuel : clauses.length ≤ (rest ++ tail).length := by
    have := hmore.length_le
    rw [List.length_append]
    omega
  obtain ⟨c, cs, hcons, -⟩ := htext.exists_cons
  subst hcons
  rw [List.cons_append] at hskip hclause ⊢
  refine ⟨(rest ++ tail).length - clauses.length, ?_⟩
  simp only [read, hskip, hclause, readMore_append hmore htail hfuel]
  cases readMore ((rest ++ tail).length - clauses.length) tail <;> rfl

theorem read_derived {filter : Filter} {text : List Char} (h : Derives filter text) :
    read text = .ok filter := by
  cases h with
  | all hspaces => simp only [read, skipSpaces_eq_nil_iff.mpr hspaces]
  | @clauses clause clauses before text rest after hbefore htext hmore hafter =>
    have hnone : continuesWord [] = false := rfl
    have htail : continuesWord after = false := by
      simpa using continuesWord_spaces hafter hnone
    obtain ⟨fuel, hread⟩ := read_clauses hbefore htext hmore htail
    simp only [hread, readMore_spaces fuel hafter, skipSpaces_eq_nil_iff.mpr hafter,
      List.append_nil]

theorem Continues.append {clauses clauses' : List Clause} {rest rest' : List Char}
    (h : Continues clauses rest) (h' : Continues clauses' rest') :
    Continues (clauses ++ clauses') (rest ++ rest') := by
  induction h with
  | nil => exact h'
  | cons hne hbefore hw hne' hafter htext _ ih =>
    simpa using Continues.cons hne hbefore hw hne' hafter htext ih

theorem Derives.conjoin {filter filter' : Filter} {text text' : List Char}
    (h : Derives filter text) (h' : Derives filter' text') (hne : filter ≠ [])
    (hne' : filter' ≠ []) :
    Derives (filter ++ filter') (text ++ ([' ', 'a', 'n', 'd', ' '] ++ text')) := by
  cases h with
  | all => exact absurd rfl hne
  | @clauses clause clauses before text rest after hbefore htext hmore hafter =>
    cases h' with
    | all => exact absurd rfl hne'
    | @clauses clause' clauses' before' text' rest' after' hbefore' htext' hmore' hafter' =>
      have hleft : Spaces (after ++ [' ']) := hafter.append spaces_blank
      have hright : Spaces (' ' :: before') := spaces_blank.append hbefore'
      have hword : ['a', 'n', 'd'].map Char.toLower = ['a', 'n', 'd'] := rfl
      have hjoint := hmore.append
        (.cons (by simp) hleft hword (List.cons_ne_nil _ _) hright htext' hmore')
      simpa using Derives.clauses hbefore htext hjoint hafter'

theorem Derives.eq_nil {filter : Filter} (h : Derives filter []) : filter = [] := by
  cases hf : filter with
  | nil => rfl
  | cons clause clauses =>
    generalize ht : ([] : List Char) = text at h
    rw [hf] at h
    cases h with
    | clauses _ htext _ _ =>
      obtain ⟨c, cs, rfl, -⟩ := htext.exists_cons
      simp at ht

theorem derives_and {p q : Query} {filter filter' : Filter}
    (hp : Derives filter p.text.toList) (hq : Derives filter' q.text.toList)
    (hall : filter = [] → p = .all) (hne : filter' ≠ []) :
    Derives (filter ++ filter') (p.and q).text.toList := by
  have hclosed {r : Query} {clauses : Filter} (hr : Derives clauses r.text.toList)
      (hne : clauses ≠ []) : ¬ r.isAll = true := by
    intro h
    have htext : r.text = "" := of_decide_eq_true h
    rw [htext] at hr
    exact hne hr.eq_nil
  by_cases hfilter : filter = []
  · rw [hall hfilter, hfilter]
    exact hq
  · rw [Query.and, if_neg (hclosed hp hfilter), if_neg (hclosed hq hne)]
    simpa [String.toList_append] using hp.conjoin hq hfilter hne

theorem spells_equals {name value : String} (hname : IsName name)
    (hvalue : '\'' ∉ value.toList) :
    Spells (.equals name value) (Query.equals name value).text.toList := by
  simpa [Query.equals, String.toList_append] using
    Spells.equals hname spaces_blank spaces_blank (Or.inl rfl) hvalue

theorem spells_absent {name : String} (hname : IsName name) :
    Spells (.absent name) (Query.absent name).text.toList := by
  have hword : ['n', 'u', 'l', 'l'].map Char.toLower = ['n', 'u', 'l', 'l'] := rfl
  simpa [Query.absent, String.toList_append] using
    Spells.absent hname spaces_blank spaces_blank hword

theorem not_spaces_equals {facet value : String} :
    ¬ Spaces (Query.equals facet value).text.toList :=
  not_spaces_of_mem (c := '=') (by simp [Query.equals, String.toList_append]) rfl

theorem not_spaces_absent {facet : String} : ¬ Spaces (Query.absent facet).text.toList :=
  not_spaces_of_mem (c := '=') (by simp [Query.absent, String.toList_append]) rfl

theorem Spells.derives {clause : Clause} {text : List Char} (h : Spells clause text) :
    Derives [clause] text := by
  simpa using Derives.clauses spaces_nil h .nil spaces_nil

end FacetBrowser.Filter
