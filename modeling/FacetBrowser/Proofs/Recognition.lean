import FacetBrowser.Proofs.Grammar
import Mathlib.Data.Set.Subsingleton

namespace FacetBrowser.Filter

variable {cs rest : List Char} {name value : String} {clause : Clause}

theorem exists_spaces (cs : List Char) :
    ∃ spaces, Spaces spaces ∧ cs = spaces ++ skipSpaces cs :=
  ⟨cs.takeWhile isSpace, fun _ hc => isSpace_iff.mp (List.mem_takeWhile_imp hc),
    List.takeWhile_append_dropWhile.symm⟩

theorem eq_append_of_name? (h : name? cs = some (name, rest)) :
    IsName name ∧ cs = name.toList ++ rest := by
  cases cs with
  | nil => cases h
  | cons c cs =>
    rw [name?] at h
    split at h
    · rename_i hc
      obtain ⟨rfl, rfl⟩ := Prod.mk.inj (Option.some.inj h)
      have hchars (d) (hd : d ∈ cs.takeWhile isNameChar) :=
        isNameChar_iff.mp (List.mem_takeWhile_imp hd)
      exact ⟨⟨c, _, String.toList_ofList, isNameStart_iff.mp hc, hchars⟩,
        by simp [String.toList_ofList, List.takeWhile_append_dropWhile]⟩
    · cases h

theorem isName_iff : IsName name ↔ name? name.toList = some (name, []) := by
  constructor
  · intro h
    have hnone : Stops isNameChar [] := by simp [Stops]
    simpa using name?_append h hnone
  · exact fun h => (eq_append_of_name? h).1

instance : DecidablePred IsName :=
  fun _ => decidable_of_iff _ isName_iff.symm

theorem eq_append_of_dropWord? {small : List Char} (h : dropWord? small cs = some rest) :
    ∃ word, word.map Char.toLower = small ∧ cs = word ++ rest := by
  induction small generalizing cs with
  | nil => exact ⟨[], rfl, Option.some.inj h⟩
  | cons w small ih =>
    cases cs with
    | nil => cases h
    | cons c cs =>
      rw [dropWord?] at h
      split at h
      · rename_i hc
        obtain ⟨word, rfl, rfl⟩ := ih h
        exact ⟨c :: word, by rw [List.map_cons, hc], rfl⟩
      · cases h

theorem eq_append_of_upTo? {quote : Char} (h : upTo? quote cs = some (value, rest)) :
    quote ∉ value.toList ∧ cs = value.toList ++ quote :: rest := by
  have hsplit := List.takeWhile_append_dropWhile (p := fun c => decide (c ≠ quote)) (l := cs)
  rw [upTo?] at h
  split at h
  · cases h
  · rename_i d tail hdrop
    obtain ⟨rfl, rfl⟩ := Prod.mk.inj (Option.some.inj h)
    have hd : d = quote := by
      have hstop := List.head?_dropWhile_not (fun c => decide (c ≠ quote)) cs
      rw [hdrop] at hstop
      simpa using hstop
    subst hd
    rw [String.toList_ofList]
    refine ⟨fun hmem => ?_, by rw [← hdrop, hsplit]⟩
    simpa using List.mem_takeWhile_imp hmem

theorem eq_append_of_quoted? (h : quoted? cs = some (value, rest)) :
    ∃ quote, (quote = '\'' ∨ quote = '"') ∧ quote ∉ value.toList ∧
      cs = quote :: (value.toList ++ quote :: rest) := by
  rw [quoted?.eq_def] at h
  split at h
  · obtain ⟨hv, rfl⟩ := eq_append_of_upTo? h
    exact ⟨_, Or.inl rfl, hv, rfl⟩
  · obtain ⟨hv, rfl⟩ := eq_append_of_upTo? h
    exact ⟨_, Or.inr rfl, hv, rfl⟩
  · cases h

theorem spells_of_readValue {before after : List Char} (hname : IsName name)
    (hbefore : Spaces before) (hafter : Spaces after)
    (h : readValue name cs = .ok (clause, rest)) :
    ∃ text, Spells clause (name.toList ++ (before ++ '=' :: (after ++ text))) ∧
      cs = text ++ rest := by
  rw [readValue] at h
  split at h
  · rename_i value tail hquoted
    obtain ⟨rfl, rfl⟩ := Prod.mk.inj (Except.ok.inj h)
    obtain ⟨quote, hq, hv, rfl⟩ := eq_append_of_quoted? hquoted
    exact ⟨_, .equals hname hbefore hafter hq hv, by simp⟩
  · split at h
    · cases h
    · rename_i tail hword
      split at h
      · cases h
      · obtain ⟨rfl, rfl⟩ := Prod.mk.inj (Except.ok.inj h)
        obtain ⟨word, hw, rfl⟩ := eq_append_of_dropWord? hword
        exact ⟨word, .absent hname hbefore hafter hw, rfl⟩

theorem spells_of_readClause (h : readClause cs = .ok (clause, rest)) :
    ∃ text, Spells clause text ∧ cs = text ++ rest := by
  rw [readClause] at h
  split at h
  · cases h
  · rename_i name tail hname
    obtain ⟨hspelled, rfl⟩ := eq_append_of_name? hname
    obtain ⟨before, hbefore, htail⟩ := exists_spaces tail
    split at h
    · rename_i tail' hequals
      obtain ⟨after, hafter, htail'⟩ := exists_spaces tail'
      obtain ⟨text, htext, hvalue⟩ := spells_of_readValue hspelled hbefore hafter h
      refine ⟨_, htext, ?_⟩
      rw [htail, hequals, htail', hvalue]
      simp
    · cases h

theorem eq_append_of_conjunction? (h : conjunction? cs = some rest) :
    ∃ before word after, before ≠ [] ∧ Spaces before ∧ word.map Char.toLower = ['a', 'n', 'd'] ∧
      after ≠ [] ∧ Spaces after ∧ cs = before ++ (word ++ (after ++ rest)) := by
  cases cs with
  | nil => cases h
  | cons c cs =>
    rw [conjunction?] at h
    split at h
    · rename_i hc
      obtain ⟨before, hbefore, hcs⟩ := exists_spaces cs
      split at h
      · rename_i d tail hword
        split at h
        · rename_i hd
          obtain rfl := Option.some.inj h
          obtain ⟨word, hw, hskip⟩ := eq_append_of_dropWord? hword
          obtain ⟨after, hafter, htail⟩ := exists_spaces tail
          refine ⟨c :: before, word, d :: after, List.cons_ne_nil _ _,
            List.forall_mem_cons.mpr ⟨isSpace_iff.mp hc, hbefore⟩, hw, List.cons_ne_nil _ _,
            List.forall_mem_cons.mpr ⟨isSpace_iff.mp hd, hafter⟩, ?_⟩
          calc c :: cs = c :: (before ++ (word ++ d :: tail)) := by rw [← hskip, ← hcs]
            _ = c :: (before ++ (word ++ d :: (after ++ skipSpaces tail))) := by rw [← htail]
            _ = _ := by simp
        · cases h
      · cases h
    · cases h

theorem exists_continues_nil (cs : List Char) : ∃ text, Continues [] text ∧ cs = text ++ cs :=
  ⟨[], .nil, rfl⟩

theorem continues_of_readMore {fuel : Nat} {clauses : List Clause}
    (h : readMore fuel cs = .ok (clauses, rest)) :
    ∃ text, Continues clauses text ∧ cs = text ++ rest := by
  induction fuel generalizing cs clauses with
  | zero =>
    obtain ⟨rfl, rfl⟩ := Prod.mk.inj (Except.ok.inj h)
    exact exists_continues_nil cs
  | succ fuel ih =>
    rw [readMore] at h
    split at h
    · obtain ⟨rfl, rfl⟩ := Prod.mk.inj (Except.ok.inj h)
      exact exists_continues_nil cs
    · rename_i next hconjunction
      split at h
      · split at h
        · cases h
        · obtain ⟨rfl, rfl⟩ := Prod.mk.inj (Except.ok.inj h)
          exact exists_continues_nil cs
      · rename_i clause tail hclause
        split at h
        · cases h
        · rename_i clauses tail' hread
          obtain ⟨rfl, rfl⟩ := Prod.mk.inj (Except.ok.inj h)
          obtain ⟨before, word, after, hne, hbefore, hw, hne', hafter, rfl⟩ :=
            eq_append_of_conjunction? hconjunction
          obtain ⟨text, htext, rfl⟩ := spells_of_readClause hclause
          obtain ⟨more, hmore, rfl⟩ := ih hread
          exact ⟨_, .cons hne hbefore hw hne' hafter htext hmore, by simp⟩

theorem derives_of_read {filter : Filter} (h : read cs = .ok filter) : Derives filter cs := by
  obtain ⟨before, hbefore, hcs⟩ := exists_spaces cs
  rw [read] at h
  split at h
  · rename_i hskip
    obtain rfl := Except.ok.inj h
    rw [hcs, hskip, List.append_nil]
    exact .all hbefore
  · rename_i c tail hskip
    split at h
    · cases h
    · rename_i clause rest hclause
      split at h
      · cases h
      · rename_i clauses rest' hread
        split at h
        · rename_i hrest
          obtain rfl := Except.ok.inj h
          obtain ⟨text, htext, hcons⟩ := spells_of_readClause hclause
          obtain ⟨more, hmore, rfl⟩ := continues_of_readMore hread
          obtain ⟨after, hafter, hend⟩ := exists_spaces rest'
          rw [hrest, List.append_nil] at hend
          rw [hcs, hskip, hcons, hend]
          exact .clauses hbefore htext hmore hafter
        · cases h

theorem parse_eq_ok_iff {text : String} {filter : Filter} :
    parse text = .ok filter ↔ Derives filter text.toList :=
  ⟨derives_of_read, read_derived⟩

theorem Derives.unique {filter filter' : Filter} (h : Derives filter cs)
    (h' : Derives filter' cs) : filter = filter' :=
  Except.ok.inj ((read_derived h).symm.trans (read_derived h'))

theorem reads_exactly_the_grammar (text : String) :
    (∀ filter, parse text = .ok filter ↔ Derives filter text.toList) ∧
      Set.Subsingleton {filter | Derives filter text.toList} :=
  ⟨fun _ => parse_eq_ok_iff, fun _ h _ h' => h.unique h'⟩

example : parse "\tand=\"O' and b = 'c\" AND null = NuLL\n" =
    .ok [.equals "and" "O' and b = 'c", .absent "null"] := by
  decide +kernel

end FacetBrowser.Filter
