import FacetBrowser.Json.Skip

namespace FacetBrowser

namespace Text

variable {digits : List Char} {value : Nat}

theorem le_ofDigitChars (value : Nat) (digits : List Char) :
    value ≤ Nat.ofDigitChars 10 digits value := by
  rw [Nat.ofDigitChars_eq_ofDigitChars_zero]
  exact Nat.le_add_right_of_le (Nat.le_mul_of_pos_left _ (Nat.pow_pos (by decide)))

theorem isDigit_toDigits (n : Nat) : ∀ c ∈ Nat.toDigits 10 n, c.isDigit = true := fun _ hc =>
  Nat.isDigit_of_mem_toDigits (by decide) (by decide) hc

theorem exists_toDigits (n : Nat) : ∃ c cs, Nat.toDigits 10 n = c :: cs ∧ c.isDigit = true := by
  obtain ⟨c, cs, h⟩ := List.exists_cons_of_ne_nil (Nat.toDigits_ne_nil (n := n) (b := 10))
  exact ⟨c, cs, h, isDigit_toDigits n c (h ▸ List.mem_cons_self)⟩

theorem toDigits_head {n : Nat} {cs : List Char} (h : Nat.toDigits 10 n = '0' :: cs) :
    n = 0 ∧ cs = [] := by
  induction n using Nat.strongRecOn generalizing cs with
  | ind n ih =>
    rcases Nat.lt_or_ge n 10 with hlt | hge
    · rw [Nat.toDigits_of_lt_base hlt, List.cons.injEq] at h
      have hdigit := Nat.toNat_digitChar_sub_48_of_lt_ten hlt
      rw [h.1] at hdigit
      exact ⟨hdigit.symm, h.2.symm⟩
    · rw [Nat.toDigits_of_base_le (by decide) hge] at h
      obtain ⟨c, ds, hds, -⟩ := exists_toDigits (n / 10)
      rw [hds, List.cons_append, List.cons.injEq] at h
      obtain ⟨hzero, -⟩ := ih (n / 10) (by omega) (h.1 ▸ hds)
      omega

theorem readDigits_eq (value : Nat) (hdigits : ∀ c ∈ digits, c.isDigit = true)
    (hsize : Nat.ofDigitChars 10 digits value < UInt64.size) :
    readDigits value digits = .ok (Nat.ofDigitChars 10 digits value) := by
  induction digits generalizing value with
  | nil => rfl
  | cons c cs ih =>
    obtain ⟨hc, hcs⟩ := List.forall_mem_cons.mp hdigits
    rw [Nat.ofDigitChars_cons, Nat.mul_comm] at hsize ⊢
    have hlt := Nat.lt_of_le_of_lt (le_ofDigitChars _ cs) hsize
    rw [readDigits, if_pos hc]
    exact (if_pos hlt).trans (ih _ hcs hsize)

theorem of_readDigits {n : Nat} (h : readDigits value digits = .ok n) :
    (∀ c ∈ digits, c.isDigit = true) ∧ Nat.ofDigitChars 10 digits value = n ∧
      (value < UInt64.size → n < UInt64.size) := by
  induction digits generalizing value with
  | nil =>
    cases h
    exact ⟨fun _ hc => absurd hc List.not_mem_nil, rfl, id⟩
  | cons c cs ih =>
    rw [readDigits] at h
    split at h
    · rename_i hc
      simp only at h
      split at h
      · rename_i hlt
        obtain ⟨hcs, hn, hsize⟩ := ih h
        refine ⟨List.forall_mem_cons.mpr ⟨hc, hcs⟩, ?_, fun _ => hsize hlt⟩
        rw [Nat.ofDigitChars_cons, Nat.mul_comm]
        exact hn
      · cases h
    · cases h

theorem map_readDigits_iff {n : UInt64} :
    (readDigits 0 digits).map UInt64.ofNat = .ok n ↔
      (∀ c ∈ digits, c.isDigit = true) ∧ Nat.ofDigitChars 10 digits 0 = n.toNat := by
  constructor
  · intro h
    cases hread : readDigits 0 digits with
    | error fault =>
      rw [hread] at h
      cases h
    | ok m =>
      rw [hread] at h
      obtain ⟨hdigits, hm, hsize⟩ := of_readDigits hread
      cases h
      exact ⟨hdigits, hm.trans (UInt64.toNat_ofNat_of_lt' (hsize (by decide))).symm⟩
  · rintro ⟨hdigits, hn⟩
    rw [readDigits_eq 0 hdigits (hn ▸ n.toNat_lt), hn]
    exact congrArg Except.ok UInt64.ofNat_toNat

def Numeral (text : String) (n : Nat) : Prop :=
  ∃ sign digits, text.toList = sign ++ digits ∧ (sign = [] ∨ sign = ['+']) ∧ digits ≠ [] ∧
    (∀ c ∈ digits, c.isDigit = true) ∧ Nat.ofDigitChars 10 digits 0 = n

theorem ne_of_isDigit {c d : Char} (hc : c.isDigit = true) (hd : d.isDigit = false) : c ≠ d := by
  rintro rfl
  rw [hc] at hd
  cases hd

theorem readNumeral_iff {text : String} {n : UInt64} :
    readNumeral text = .ok n ↔ Numeral text n.toNat := by
  constructor
  · intro h
    rw [readNumeral] at h
    split at h
    · cases h
    · cases h
    · rename_i cs hne htext
      obtain ⟨hcs, hn⟩ := map_readDigits_iff.mp h
      exact ⟨['+'], cs, htext, .inr rfl, fun hnil => hne (by rw [hnil]), hcs, hn⟩
    · rename_i hne _ _
      obtain ⟨hcs, hn⟩ := map_readDigits_iff.mp h
      exact ⟨[], text.toList, rfl, .inl rfl, hne, hcs, hn⟩
  · rintro ⟨sign, digits, htext, hsign, hne, hdigits, hn⟩
    have hread := map_readDigits_iff.mpr ⟨hdigits, hn⟩
    obtain ⟨c, cs, rfl⟩ := List.exists_cons_of_ne_nil hne
    have hplus : c ≠ '+' := ne_of_isDigit (hdigits c List.mem_cons_self) rfl
    rw [readNumeral, htext]
    rcases hsign with rfl | rfl
    · split
      · rename_i h
        cases h
      · rename_i h
        exact absurd (List.cons.inj h).1 hplus
      · rename_i h
        exact absurd (List.cons.inj h).1 hplus
      · exact hread
    · exact hread

theorem readNumeral_toString (n : UInt64) : readNumeral (toString n) = .ok n :=
  readNumeral_iff.mpr ⟨[], Nat.toDigits 10 n.toNat, Nat.toList_repr, .inl rfl,
    Nat.toDigits_ne_nil, isDigit_toDigits n.toNat, Nat.ofDigitChars_ten_toDigits⟩

end Text

namespace Json

open Text (le_ofDigitChars isDigit_toDigits exists_toDigits toDigits_head)

inductive Closes : List Char → Prop
  | text : Closes []
  | item (rest : List Char) : Closes (',' :: rest)
  | list (rest : List Char) : Closes (']' :: rest)
  | object (rest : List Char) : Closes ('\x7d' :: rest)

theorem isBlank_of_isDigit {c : Char} (h : c.isDigit = true) : isBlank c = false := by
  refine Bool.eq_false_iff.mpr fun hblank => ?_
  have hc : ((c = ' ' ∨ c = '\n') ∨ c = '\t') ∨ c = '\r' := by simpa [isBlank] using hblank
  rcases hc with ((rfl | rfl) | rfl) | rfl <;> cases h

variable {rest digits : List Char} {value : Nat}

theorem Closes.not_digit (h : Closes rest) : startsWithDigit rest = false := by
  cases h <;> rfl

theorem takeDigits_append (value : Nat) (hdigits : ∀ c ∈ digits, c.isDigit = true)
    (hsize : Nat.ofDigitChars 10 digits value < UInt64.size)
    (hrest : startsWithDigit rest = false) :
    takeDigits value (digits ++ rest) =
      (Nat.ofDigitChars 10 digits value, digits.length, rest) := by
  induction digits generalizing value with
  | nil =>
    cases rest with
    | nil => rfl
    | cons c rest =>
      have hc : c.isDigit = false := hrest
      simp [takeDigits, hc]
  | cons c cs ih =>
    obtain ⟨hc, hcs⟩ := List.forall_mem_cons.mp hdigits
    rw [Nat.ofDigitChars_cons, Nat.mul_comm] at hsize ⊢
    have hlt : value * 10 + digitOf c < UInt64.size :=
      Nat.lt_of_le_of_lt (le_ofDigitChars _ cs) hsize
    rw [List.cons_append, takeDigits, if_pos (by simp [hc, hlt]), digitOf, ih _ hcs hsize]
    rfl

theorem scanAfterWhole_closes (h : Closes rest) (negative : Bool) :
    scanAfterWhole negative value rest = wholeNumber negative value rest := by
  cases h <;> rfl

theorem scanNumber_digits (negative : Bool) {n : Nat} (hsize : n < UInt64.size)
    (h : Closes rest) :
    scanNumber negative (Nat.toDigits 10 n ++ rest) = wholeNumber negative n rest := by
  obtain ⟨c, cs, hcs, hc⟩ := exists_toDigits n
  rw [hcs, List.cons_append, scanNumber]
  split
  · rename_i hzero
    obtain ⟨rfl, rfl⟩ := toDigits_head (hzero ▸ hcs)
    rw [List.nil_append, h.not_digit]
    exact scanAfterWhole_closes h negative
  · have htake := takeDigits_append 0 (isDigit_toDigits n)
      (Nat.ofDigitChars_ten_toDigits ▸ hsize) h.not_digit
    rw [Nat.ofDigitChars_ten_toDigits, hcs, List.cons_append] at htake
    rw [htake]
    simp only [h.not_digit]
    exact scanAfterWhole_closes h negative

theorem scanNumber_toDigits {n : Nat} (hsize : n < UInt64.size) (h : Closes rest) :
    scanNumber false (Nat.toDigits 10 n ++ rest) = .ok (.integer n, rest) :=
  scanNumber_digits false hsize h

theorem scanNumber_negated {n : Nat} (hpos : 0 < n) (hsize : 2 * n ≤ UInt64.size)
    (h : Closes rest) :
    scanNumber true (Nat.toDigits 10 n ++ rest) = .ok (.integer (-n), rest) := by
  have hlt : n < UInt64.size := by omega
  have hfits : (n = 0 || UInt64.size < 2 * n) = false := by
    simp only [Bool.or_eq_false_iff, decide_eq_false_iff_not]
    omega
  rw [scanNumber_digits true hlt h, wholeNumber, if_neg (by decide), hfits]
  rfl

theorem skipAfterWhole_closes (h : Closes rest) :
    skipAfterWhole rest = .ok rest := by
  cases h <;> rfl

theorem skipNumber_toDigits (n : Nat) (h : Closes rest) :
    skipNumber (Nat.toDigits 10 n ++ rest) = .ok rest := by
  obtain ⟨c, cs, hcs, hc⟩ := exists_toDigits n
  rw [hcs, List.cons_append, skipNumber]
  split
  · rename_i hzero
    obtain ⟨-, rfl⟩ := toDigits_head (hzero ▸ hcs)
    rw [List.nil_append, h.not_digit]
    exact skipAfterWhole_closes h
  · have hdigits : ∀ d ∈ cs, d.isDigit = true := fun d hd =>
      isDigit_toDigits n d (hcs ▸ List.mem_cons_of_mem _ hd)
    have hskip : skipDigits (cs ++ rest) = rest := by
      rw [skipDigits, List.dropWhile_append_of_pos hdigits]
      cases h <;> rfl
    rw [hskip]
    exact skipAfterWhole_closes h

end Json
end FacetBrowser
