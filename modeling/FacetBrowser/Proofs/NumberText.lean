import FacetBrowser.Json.Number
import FacetBrowser.Proofs.Digits
import Mathlib.Data.List.TakeWhile

namespace FacetBrowser.Json

open Decimal (Binary)
open Decimal.Binary (Shown)
open Text (exists_toDigits isDigit_toDigits ne_of_isDigit)

variable {text digits : List Char} {x : ℚ}

inductive Significand : List Char → ℚ → Prop
  | whole {digits : List Char} : Shown digits → Significand digits (Nat.ofDigitChars 10 digits 0)
  | point {whole fraction : List Char} {x : ℚ} :
      Shown whole → (∀ c ∈ fraction, c.isDigit = true) →
      x * 10 ^ fraction.length = Nat.ofDigitChars 10 (whole ++ fraction) 0 →
      Significand (whole ++ '.' :: fraction) x

def powerText (power : Int) : List Char :=
  'e' :: (if power < 0 then '-' else '+') :: Nat.toDigits 10 power.natAbs

inductive FloatForm : List Char → ℚ → Prop
  | fixed {text : List Char} {x : ℚ} : Significand text x → '.' ∈ text → FloatForm text x
  | scaled {text : List Char} {x : ℚ} (power : Int) : Significand text x →
      FloatForm (text ++ powerText power) (x * 10 ^ power)

section Reading

def powerOf : List Char → Int
  | _ :: sign :: digits =>
    if sign = '-' then -(Nat.ofDigitChars 10 digits 0 : Int) else Nat.ofDigitChars 10 digits 0
  | _ => 0

def decimal (text : List Char) : ℚ :=
  let significand := text.takeWhile (· ≠ 'e')
  let places := (significand.dropWhile (· ≠ '.')).length - 1
  Nat.ofDigitChars 10 (significand.filter (· ≠ '.')) 0 *
    10 ^ (powerOf (text.dropWhile (· ≠ 'e')) - (places : Int))

theorem powerOf_powerText (power : Int) : powerOf (powerText power) = power := by
  by_cases h : power < 0
  · simp only [powerText, powerOf, if_pos h, Nat.ofDigitChars_ten_toDigits, if_true]
    omega
  · simp only [powerText, powerOf, if_neg h, Nat.ofDigitChars_ten_toDigits]
    rw [if_neg (by decide)]
    omega

theorem decimal_append {s tail : List Char} (hs : ∀ c ∈ s, c ≠ 'e')
    (htail : tail.takeWhile (· ≠ 'e') = []) :
    decimal (s ++ tail) = Nat.ofDigitChars 10 (s.filter (· ≠ '.')) 0 *
      10 ^ (powerOf tail - (((s.dropWhile (· ≠ '.')).length - 1 : Nat) : Int)) := by
  have hs' : ∀ c ∈ s, decide (c ≠ 'e') = true := fun c hc => decide_eq_true (hs c hc)
  have hdrop : tail.dropWhile (· ≠ 'e') = tail := by
    have := List.takeWhile_append_dropWhile (p := (· ≠ 'e')) (l := tail)
    rwa [htail] at this
  simp only [decimal, List.takeWhile_append_of_pos hs', List.dropWhile_append_of_pos hs', htail,
    hdrop, List.append_nil]

theorem Significand.ne_exponent (h : Significand text x) : ∀ c ∈ text, c ≠ 'e' := by
  cases h with
  | whole h => exact fun c hc => ne_of_isDigit (h.isDigit c hc) rfl
  | point h hf _ =>
    intro c hc
    rcases List.mem_append.mp hc with hc | hc
    · exact ne_of_isDigit (h.isDigit c hc) rfl
    · rcases List.mem_cons.mp hc with rfl | hc
      · decide
      · exact ne_of_isDigit (hf c hc) rfl

theorem Significand.decimal_append (h : Significand text x) (tail : List Char)
    (htail : tail.takeWhile (· ≠ 'e') = []) :
    decimal (text ++ tail) = x * 10 ^ powerOf tail := by
  have hpoint {ds : List Char} (hds : ∀ c ∈ ds, c.isDigit = true) :
      ∀ c ∈ ds, decide (c ≠ '.') = true :=
    fun c hc => decide_eq_true (ne_of_isDigit (hds c hc) rfl)
  rw [Json.decimal_append h.ne_exponent htail]
  cases h with
  | whole h =>
    have hnone : text.dropWhile (· ≠ '.') = [] :=
      List.dropWhile_eq_nil_iff.mpr (hpoint h.isDigit)
    rw [List.filter_eq_self.mpr (hpoint h.isDigit), hnone]
    simp
  | @point whole fraction _ h hf hx =>
    have hfilter : (whole ++ '.' :: fraction).filter (· ≠ '.') = whole ++ fraction := by
      rw [List.filter_append, List.filter_cons_of_neg (by simp),
        List.filter_eq_self.mpr (hpoint h.isDigit), List.filter_eq_self.mpr (hpoint hf)]
    have hplaces : (whole ++ '.' :: fraction).dropWhile (· ≠ '.') = '.' :: fraction := by
      rw [List.dropWhile_append_of_pos (hpoint h.isDigit)]
      exact List.dropWhile_cons_of_neg (by simp)
    rw [hfilter, hplaces, List.length_cons, Nat.add_sub_cancel, ← hx, mul_assoc, ← zpow_natCast,
      ← zpow_add₀ (by norm_num), add_sub_cancel]

theorem FloatForm.decimal_eq (h : FloatForm text x) : decimal text = x := by
  cases h with
  | fixed h =>
    have hdecimal := h.decimal_append [] rfl
    simpa [powerOf] using hdecimal
  | scaled power h =>
    have hdecimal := h.decimal_append (powerText power) rfl
    rwa [powerOf_powerText] at hdecimal

end Reading

section Layout

open Decimal (Digits)

theorem ofDigitChars_zeros (digits : List Char) (n : Nat) :
    Nat.ofDigitChars 10 (digits ++ zeros n) 0 = 10 ^ n * Nat.ofDigitChars 10 digits 0 := by
  rw [zeros, Nat.ofDigitChars_append, Nat.ofDigitChars_replicate_zero]

theorem isDigit_zeros (n : Nat) : ∀ c ∈ zeros n, c.isDigit = true :=
  fun _ hc => (List.eq_of_mem_replicate hc) ▸ rfl

variable {d : Digits} {n : Nat}

theorem value_eq_mul (he : d.exponent = n) :
    d.value = Nat.ofDigitChars 10 d.digits 0 * 10 ^ n := by
  rw [Digits.value, he, zpow_natCast]

theorem value_mul_eq (he : d.exponent = -n) :
    d.value * 10 ^ n = Nat.ofDigitChars 10 d.digits 0 := by
  rw [Digits.value, he, mul_assoc, ← zpow_natCast, ← zpow_add₀ (by norm_num), neg_add_cancel,
    zpow_zero, mul_one]

theorem form_integral (h : Shown d.digits) (he : d.exponent = n) :
    FloatForm (d.digits ++ zeros n ++ ['.', '0']) d.value := by
  refine .fixed (.point (h.append (isDigit_zeros n)) (isDigit_zeros 1) ?_) (by simp)
  have hlast : Nat.ofDigitChars 10 (d.digits ++ zeros n ++ ['0']) 0 =
      10 ^ 1 * (10 ^ n * Nat.ofDigitChars 10 d.digits 0) :=
    (ofDigitChars_zeros _ 1).trans (congrArg _ (ofDigitChars_zeros d.digits n))
  rw [hlast, value_eq_mul he]
  push_cast
  rw [List.length_singleton]
  ring

theorem form_split (h : Shown d.digits) (hpos : 0 < n) (hle : n ≤ d.digits.length)
    (he : d.exponent = n - d.digits.length) :
    FloatForm (d.digits.take n ++ '.' :: d.digits.drop n) d.value := by
  have hfraction (c) (hc : c ∈ d.digits.drop n) := h.isDigit c (List.mem_of_mem_drop hc)
  refine .fixed (.point (h.take hpos) hfraction ?_) (by simp)
  rw [List.take_append_drop, List.length_drop]
  exact value_mul_eq (by omega)

theorem form_small (h : Shown d.digits) (he : d.exponent = -(n + d.digits.length : Nat)) :
    FloatForm (['0'] ++ '.' :: (zeros n ++ d.digits)) d.value := by
  have hzero : Shown ['0'] := ⟨by simp, by simp⟩
  have hfraction : ∀ c ∈ zeros n ++ d.digits, c.isDigit = true :=
    List.forall_mem_append.mpr ⟨isDigit_zeros n, h.isDigit⟩
  refine .fixed (.point hzero hfraction ?_) (by simp)
  have hvalue : Nat.ofDigitChars 10 (['0'] ++ (zeros n ++ d.digits)) 0 =
      Nat.ofDigitChars 10 d.digits 0 := by
    have hzeros := ofDigitChars_zeros ['0'] n
    rw [← List.append_assoc, Nat.ofDigitChars_append, hzeros]
    rfl
  rw [hvalue, List.length_append, show (zeros n).length = n from List.length_replicate]
  exact value_mul_eq he

theorem significand_first (h : Shown digits) : Significand
    (digits.take 1 ++ (if digits.length = 1 then [] else '.' :: digits.drop 1))
    (Nat.ofDigitChars 10 digits 0 * 10 ^ (1 - digits.length : Int)) := by
  have hlength := List.length_pos_iff.mpr h.ne_nil
  split
  · rename_i hone
    rw [List.append_nil, List.take_of_length_le hone.le, hone, Nat.cast_one, sub_self, zpow_zero,
      mul_one]
    exact .whole h
  · refine .point (h.take Nat.one_pos) (fun c hc => h.isDigit c (List.mem_of_mem_drop hc)) ?_
    rw [List.take_append_drop, List.length_drop, mul_assoc, ← zpow_natCast,
      ← zpow_add₀ (by norm_num), Nat.cast_sub hlength, Nat.cast_one, sub_add_sub_cancel',
      sub_self, zpow_zero, mul_one]

theorem form_scientific (h : Shown d.digits) (power : Int)
    (he : d.exponent + d.digits.length - 1 = power) :
    FloatForm (d.digits.take 1 ++ (if d.digits.length = 1 then [] else '.' :: d.digits.drop 1) ++
      powerText power) d.value := by
  have hform := FloatForm.scaled power (significand_first h)
  have hvalue : d.value =
      Nat.ofDigitChars 10 d.digits 0 * 10 ^ (1 - d.digits.length : Int) * 10 ^ power := by
    rw [mul_assoc, ← zpow_add₀ (by norm_num), Digits.value]
    congr 2
    omega
  rw [hvalue]
  exact hform

theorem form_floatText {b : Binary} (hb : b.Normal) : FloatForm (floatText b) b.shortest.value := by
  obtain ⟨h, -⟩ := Decimal.Binary.shortest_spec hb
  rw [floatText]
  generalize b.shortest = d at h ⊢
  simp only
  split
  · rename_i hintegral
    exact form_integral h (Int.toNat_of_nonneg hintegral.1).symm
  split
  · rename_i hsplit
    have hn := Int.toNat_of_nonneg hsplit.1.le
    exact form_split h (by omega) (by omega) (by omega)
  split
  · exact form_small h (by omega)
  · have hform := form_scientific h (d.digits.length + d.exponent - 1) (by omega)
    simp only [powerText, Int.sub_one_lt_iff] at hform
    exact hform

end Layout

section Apart

theorem Significand.head (h : Significand text x) :
    ∃ c cs, text = c :: cs ∧ c.isDigit = true := by
  have hfirst {ds : List Char} (hds : Shown ds) (cs : List Char) :
      ∃ c rest, ds ++ cs = c :: rest ∧ c.isDigit = true := by
    obtain ⟨c, rest, rfl⟩ := List.exists_cons_of_ne_nil hds.ne_nil
    exact ⟨c, _, rfl, hds.isDigit c List.mem_cons_self⟩
  cases h with
  | whole h => simpa using hfirst h []
  | point h _ _ => exact hfirst h _

theorem FloatForm.head (h : FloatForm text x) : ∃ c cs, text = c :: cs ∧ c.isDigit = true := by
  cases h with
  | fixed h _ => exact h.head
  | scaled power h =>
    obtain ⟨c, cs, rfl, hc⟩ := h.head
    exact ⟨c, _, rfl, hc⟩

theorem FloatForm.exists_mark (h : FloatForm text x) : ∃ c ∈ text, c.isDigit = false := by
  cases h with
  | fixed _ hpoint => exact ⟨'.', hpoint, rfl⟩
  | scaled power _ => exact ⟨'e', List.mem_append_right _ List.mem_cons_self, rfl⟩

theorem floatText_injective {a b : Binary} (ha : a.Normal) (hb : b.Normal)
    (h : floatText a = floatText b) : a = b := by
  have hvalue := (form_floatText ha).decimal_eq
  rw [h, (form_floatText hb).decimal_eq] at hvalue
  exact Decimal.Binary.eq_of_value_shortest_eq ha hb hvalue.symm

namespace Number

inductive Proper : Number → Prop
  | integer (value : Int) : Proper (.integer value)
  | float (negative : Bool) {size : Binary} : size.Normal → Proper (.float negative size)

def isMinus : Number → Bool
  | .integer value => value < 0
  | .float negative _ => negative

def unsigned : Number → List Char
  | .integer value => Nat.toDigits 10 value.natAbs
  | .float _ size => floatText size

theorem text_eq (n : Number) : n.text = (if n.isMinus then ['-'] else []) ++ n.unsigned := by
  cases n with
  | integer value => by_cases h : value < 0 <;> simp [text, integerText, isMinus, unsigned, h]
  | float negative size => cases negative <;> rfl

variable {m n : Number}

theorem unsigned_head (hn : n.Proper) : ∃ c cs, n.unsigned = c :: cs ∧ c.isDigit = true := by
  cases hn with
  | integer value => exact exists_toDigits value.natAbs
  | float negative h => exact (form_floatText h).head

theorem parts_eq (hm : m.Proper) (hn : n.Proper) (h : m.text = n.text) :
    m.isMinus = n.isMinus ∧ m.unsigned = n.unsigned := by
  obtain ⟨c, cs, hc, hdigit⟩ := unsigned_head hm
  obtain ⟨d, ds, hd, hdigit'⟩ := unsigned_head hn
  rw [text_eq, text_eq] at h
  cases hminus : m.isMinus <;> cases hminus' : n.isMinus <;> rw [hminus, hminus'] at h
  · exact ⟨rfl, h⟩
  · rw [hc] at h
    exact absurd (List.cons.inj h).1 (ne_of_isDigit hdigit rfl)
  · rw [hd] at h
    exact absurd (List.cons.inj h).1.symm (ne_of_isDigit hdigit' rfl)
  · exact ⟨rfl, (List.cons.inj h).2⟩

theorem unsigned_ne (value : Int) {size : Binary} (h : size.Normal) :
    Nat.toDigits 10 value.natAbs ≠ floatText size := by
  intro heq
  obtain ⟨c, hc, hmark⟩ := (form_floatText h).exists_mark
  exact Bool.eq_false_iff.mp hmark (isDigit_toDigits _ c (heq ▸ hc))

theorem text_injective (hm : m.Proper) (hn : n.Proper) (h : m.text = n.text) : m = n := by
  obtain ⟨hminus, hunsigned⟩ := parts_eq hm hn h
  cases hm with
  | integer v =>
    cases hn with
    | integer w =>
      have hsize := congrArg (Nat.ofDigitChars 10 · 0) hunsigned
      simp only [unsigned, Nat.ofDigitChars_ten_toDigits] at hsize
      simp only [isMinus, decide_eq_decide] at hminus
      congr 1
      omega
    | float _ hb => exact absurd hunsigned (unsigned_ne v hb)
  | float negative ha =>
    cases hn with
    | integer w => exact absurd hunsigned.symm (unsigned_ne w ha)
    | float negative' hb =>
      obtain rfl : negative = negative' := hminus
      rw [floatText_injective ha hb hunsigned]

end Number

end Apart

end FacetBrowser.Json
