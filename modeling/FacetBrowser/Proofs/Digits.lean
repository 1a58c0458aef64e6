import FacetBrowser.Decimal.Shortest
import FacetBrowser.Proofs.Numerals
import FacetBrowser.Proofs.Rounding

namespace FacetBrowser.Decimal

def Interval.holds (i : Interval) (n d c : Nat) : Bool :=
  if i.closed then i.low * n ≤ c * d && c * d ≤ i.high * n
  else i.low * n < c * d && c * d < i.high * n

def Digits.value (d : Digits) : ℚ := Nat.ofDigitChars 10 d.digits 0 * 10 ^ d.exponent

namespace Binary

variable {a b : Binary} {x : ℚ} {n d c j p : Nat} {k : Int}

def value (b : Binary) : ℚ := b.mantissa * 2 ^ b.exponent

def quarter (b : Binary) : ℚ := 2 ^ (b.exponent - 2)

theorem quarter_pos (b : Binary) : 0 < b.quarter := zpow_pos two_pos _

theorem value_eq (b : Binary) : b.value = b.interval.middle * b.quarter := by
  have h : (2 : ℚ) ^ b.exponent = 2 ^ 2 * 2 ^ (b.exponent - 2) := by
    rw [← two_zpow_add]
    congr 1
    omega
  simp only [value, interval, quarter, h]
  push_cast
  ring

structure Covers (b : Binary) (x : ℚ) : Prop where
  low_le : b.interval.low * b.quarter ≤ x
  le_high : x ≤ b.interval.high * b.quarter
  ends : b.interval.closed = false →
    b.interval.low * b.quarter < x ∧ x < b.interval.high * b.quarter

theorem quarterOver_eq (b : Binary) (k : Int) : 0 < (b.quarterOver k).2 ∧
    ((b.quarterOver k).1 : ℚ) * 10 ^ k = (b.quarterOver k).2 * b.quarter := by
  obtain ⟨n, d, hd, hnd, hover⟩ : ∃ n d : Nat, 0 < d ∧ (n : ℚ) = d * b.quarter ∧
      b.quarterOver k = if 0 ≤ k then (n, d * Nat.pow 10 k.toNat)
        else (n * Nat.pow 10 (-k).toNat, d) := by
    rw [quarterOver]
    by_cases he : 2 ≤ b.exponent
    · obtain ⟨j, hj⟩ := Int.eq_ofNat_of_zero_le (show 0 ≤ b.exponent - 2 by omega)
      refine ⟨_, _, Nat.one_pos, ?_, by rw [if_pos he]⟩
      simp [quarter, hj]
    · obtain ⟨j, hj⟩ := Int.eq_ofNat_of_zero_le (show 0 ≤ 2 - b.exponent by omega)
      refine ⟨1, Nat.pow 2 (2 - b.exponent).toNat, Nat.pow_pos Nat.two_pos, ?_, by rw [if_neg he]⟩
      rw [quarter, show b.exponent - 2 = -j by omega, hj]
      simp [zpow_neg]
  rw [hover]
  split
  · rename_i hk
    obtain ⟨j, rfl⟩ := Int.eq_ofNat_of_zero_le hk
    refine ⟨Nat.mul_pos hd (Nat.pow_pos (by decide)), ?_⟩
    simp only [hnd, Int.toNat_natCast, Nat.pow_eq, zpow_natCast]
    push_cast
    ring
  · obtain ⟨j, hj⟩ := Int.eq_ofNat_of_zero_le (show 0 ≤ -k by omega)
    obtain rfl : k = -j := by omega
    refine ⟨hd, ?_⟩
    simp only [neg_neg, Int.toNat_natCast, Nat.pow_eq, zpow_neg, zpow_natCast]
    push_cast
    rw [hnd, mul_assoc, mul_inv_cancel₀ (by positivity), mul_one]

section Grid

variable (hd : 0 < d) (h : (n : ℚ) * 10 ^ k = d * b.quarter)
include hd h

theorem exists_scale : ∃ s : ℚ, 0 < s ∧
    (∀ l : Nat, ((l * n : Nat) : ℚ) = s * (l * b.quarter)) ∧
      ∀ c : Nat, ((c * d : Nat) : ℚ) = s * (c * 10 ^ k) := by
  have hd' : (0 : ℚ) < d := Nat.cast_pos.mpr hd
  have hk : (10 : ℚ) ^ k ≠ 0 := by positivity
  have hn : (n : ℚ) = d / 10 ^ k * b.quarter := by
    rw [div_mul_eq_mul_div, eq_div_iff hk, h]
  refine ⟨d / 10 ^ k, by positivity, fun l => ?_, fun c => ?_⟩
  · rw [Nat.cast_mul, hn, mul_left_comm]
  · rw [Nat.cast_mul, mul_left_comm, div_mul_cancel₀ _ hk]

theorem scaled_le_iff (l : Nat) : l * n ≤ c * d ↔ l * b.quarter ≤ (c : ℚ) * 10 ^ k := by
  obtain ⟨s, hs, hl, hc⟩ := exists_scale hd h
  rw [← Nat.cast_le (α := ℚ), hl, hc, mul_le_mul_iff_right₀ hs]

theorem le_scaled_iff (l : Nat) : c * d ≤ l * n ↔ (c : ℚ) * 10 ^ k ≤ l * b.quarter := by
  obtain ⟨s, hs, hl, hc⟩ := exists_scale hd h
  rw [← Nat.cast_le (α := ℚ), hl, hc, mul_le_mul_iff_right₀ hs]

theorem covers_iff : b.interval.holds n d c ↔ b.Covers (c * 10 ^ k) := by
  have hlow := scaled_le_iff (c := c) hd h b.interval.low
  have hhigh := le_scaled_iff (c := c) hd h b.interval.high
  have hlow' := le_scaled_iff (c := c) hd h b.interval.low
  have hhigh' := scaled_le_iff (c := c) hd h b.interval.high
  rw [Interval.holds]
  cases hclosed : b.interval.closed with
  | true =>
    simp only [if_true, Bool.and_eq_true, decide_eq_true_eq, hlow, hhigh]
    exact ⟨fun hc => ⟨hc.1, hc.2, by simp [hclosed]⟩, fun hc => ⟨hc.low_le, hc.le_high⟩⟩
  | false =>
    simp only [Bool.false_eq_true, if_false, Bool.and_eq_true, decide_eq_true_eq, ← Nat.not_le,
      hlow', hhigh']
    rw [not_le, not_le]
    exact ⟨fun hc => ⟨hc.1.le, hc.2.le, fun _ => hc⟩, fun hc => hc.ends hclosed⟩

end Grid

theorem onGrid?_eq {below : Nat} (hunits : b.quarterOver k = (n, d))
    (hbelow : b.interval.middle * n / d = below) :
    ∃ nearer : Bool, b.onGrid? k =
      if b.interval.holds n d below && b.interval.holds n d (below + 1) then
        if nearer then some below else some (below + 1)
      else if b.interval.holds n d below then some below
      else if b.interval.holds n d (below + 1) then some (below + 1)
      else none := by
  subst hbelow
  rw [onGrid?, hunits]
  exact ⟨_, rfl⟩

theorem onGrid?_cases (b : Binary) (k : Int) : ∃ below : Nat,
    (below : ℚ) * 10 ^ k ≤ b.value ∧ b.value < ((below + 1 : Nat) : ℚ) * 10 ^ k ∧
      ((∃ c, b.onGrid? k = some c ∧ b.Covers (c * 10 ^ k)) ∨ (b.onGrid? k = none ∧
        ¬ b.Covers (below * 10 ^ k) ∧ ¬ b.Covers (((below + 1 : Nat) : ℚ) * 10 ^ k))) := by
  obtain ⟨hd, hover⟩ := b.quarterOver_eq k
  generalize hunits : b.quarterOver k = units at hd hover
  obtain ⟨n, d⟩ := units
  have hcovers (c : Nat) := covers_iff (n := n) (d := d) (c := c) hd hover
  obtain ⟨nearer, hgrid⟩ := onGrid?_eq hunits rfl
  refine ⟨b.interval.middle * n / d, ?_, ?_, ?_⟩
  · rw [value_eq, ← le_scaled_iff hd hover]
    exact Nat.div_mul_le_self _ _
  · rw [value_eq, ← not_le, ← le_scaled_iff hd hover, Nat.not_le, Nat.mul_comm _ d]
    exact Nat.lt_mul_div_succ _ hd
  · rw [hgrid]
    split_ifs with hboth hnear hbelow habove
    · exact .inl ⟨_, rfl, (hcovers _).mp (Bool.and_eq_true_iff.mp hboth).1⟩
    · exact .inl ⟨_, rfl, (hcovers _).mp (Bool.and_eq_true_iff.mp hboth).2⟩
    · exact .inl ⟨_, rfl, (hcovers _).mp hbelow⟩
    · exact .inl ⟨_, rfl, (hcovers _).mp habove⟩
    · exact .inr ⟨rfl, hbelow ∘ (hcovers _).mpr, habove ∘ (hcovers _).mpr⟩

theorem low_lt_middle (hm : 0 < b.mantissa) : b.interval.low < b.interval.middle := by
  simp only [interval]
  split_ifs <;> omega

theorem le_low_of_not_covers (hx : x ≤ b.value) (h : ¬ b.Covers x) :
    x ≤ b.interval.low * b.quarter := by
  by_contra hlow
  have hhigh : b.value < b.interval.high * b.quarter := by
    rw [value_eq, mul_lt_mul_iff_left₀ b.quarter_pos]
    exact_mod_cast Nat.lt_add_of_pos_right Nat.two_pos
  have hlt := hx.trans_lt hhigh
  rw [not_le] at hlow
  exact h ⟨hlow.le, hlt.le, fun _ => ⟨hlow, hlt⟩⟩

theorem high_le_of_not_covers (hm : 0 < b.mantissa) (hx : b.value ≤ x) (h : ¬ b.Covers x) :
    b.interval.high * b.quarter ≤ x := by
  by_contra hhigh
  have hlow : b.interval.low * b.quarter < b.value := by
    rw [value_eq, mul_lt_mul_iff_left₀ b.quarter_pos]
    exact_mod_cast low_lt_middle hm
  have hlt := hlow.trans_le hx
  rw [not_le] at hhigh
  exact h ⟨hlt.le, hhigh.le, fun _ => ⟨hlt, hhigh⟩⟩

-- an interval is wider than a step of a grid with seventeen places, so it holds a point
theorem exists_onGrid (hb : b.Normal) (hm : 0 < b.mantissa)
    (hk : 10 ^ 16 * (10 : ℚ) ^ k ≤ b.value) :
    ∃ c, b.onGrid? k = some c ∧ b.Covers (c * 10 ^ k) := by
  obtain ⟨below, hbelow, habove, hfound | ⟨-, hunder, hover⟩⟩ := b.onGrid?_cases k
  · exact hfound
  · have hlow := le_low_of_not_covers hbelow hunder
    have hhigh := high_le_of_not_covers hm habove.le hover
    have hwidth : 10 ^ 16 * (b.interval.high - b.interval.low : ℚ) ≤ b.interval.middle := by
      rw [value_eq] at hk
      refine le_of_mul_le_mul_right ?_ b.quarter_pos
      push_cast at hhigh
      linarith
    have hlt := hb.mantissa_lt
    have hnat : 10 ^ 16 * b.interval.high ≤ b.interval.middle + 10 ^ 16 * b.interval.low := by
      have := (mul_sub _ _ _).symm.trans_le hwidth
      exact_mod_cast sub_le_iff_le_add.mp this
    simp only [interval, Nat.pow_eq] at hnat
    split_ifs at hnat <;> omega

theorem value_eq_ratio (b : Binary) : b.value = b.toRatio.1 / b.toRatio.2 := by
  rw [value, toRatio]
  split
  · rename_i he
    obtain ⟨j, hj⟩ := Int.eq_ofNat_of_zero_le he
    simp [hj]
  · rename_i he
    obtain ⟨j, hj⟩ := Int.eq_ofNat_of_zero_le (show 0 ≤ -b.exponent by omega)
    obtain he : b.exponent = -j := by omega
    simp [he, zpow_neg, div_eq_mul_inv]

theorem ten_pow_le (h : 5 * j ≤ p) : (10 ^ 5) ^ j ≤ 10 ^ p :=
  (Nat.pow_mul 10 5 j).symm.trans_le (Nat.pow_le_pow_right (Nat.succ_pos 9) h)

theorem two_pow_le (hj : j ≤ 1074) (hp : 340 ≤ p) : 2 ^ j ≤ 10 ^ p :=
  calc 2 ^ j ≤ 2 ^ (16 * 68) := Nat.pow_le_pow_right Nat.two_pos (by omega)
    _ = (2 ^ 16) ^ 68 := Nat.pow_mul ..
    _ ≤ (10 ^ 5) ^ 68 := Nat.pow_le_pow_left (by decide) 68
    _ ≤ 10 ^ p := ten_pow_le hp

theorem toRatio_le (hb : b.Normal) (hm : 0 < b.mantissa) (hp : 340 ≤ p) :
    b.toRatio.2 ≤ b.toRatio.1 * 10 ^ p := by
  have hleast := hb.least_le
  rw [toRatio]
  split
  · exact Nat.mul_pos (Nat.mul_pos hm (Nat.pow_pos Nat.two_pos)) (Nat.pow_pos (by decide))
  · refine (two_pow_le ?_ hp).trans (Nat.le_mul_of_pos_left _ hm)
    rw [leastExponent] at hleast
    omega

theorem pow_length_toDigits_le (hn : 0 < n) : 10 ^ ((Nat.toDigits 10 n).length - 1) ≤ n := by
  rcases Nat.eq_zero_or_pos ((Nat.toDigits 10 n).length - 1) with h | h
  · rw [h]
    exact hn
  · rw [← Nat.not_lt, ← Nat.length_toDigits_le_iff (by decide) h]
    omega

theorem leadingExponent_le (hb : b.Normal) (hm : 0 < b.mantissa) :
    (10 : ℚ) ^ b.leadingExponent ≤ b.value := by
  obtain ⟨p, hp⟩ : ∃ p, 340 = p := ⟨_, rfl⟩
  have hd : (0 : ℚ) < b.toRatio.2 := Nat.cast_pos.mpr b.toRatio_pos
  have hone : 0 < b.toRatio.1 * 10 ^ p / b.toRatio.2 :=
    Nat.div_pos (toRatio_le hb hm hp.le) b.toRatio_pos
  have hpos := Nat.length_toDigits_pos (b := 10) (n := b.toRatio.1 * 10 ^ p / b.toRatio.2)
  have hpow := pow_length_toDigits_le hone
  rw [Nat.le_div_iff_mul_le b.toRatio_pos] at hpow
  have hexp : b.leadingExponent =
      ((Nat.toDigits 10 (b.toRatio.1 * 10 ^ p / b.toRatio.2)).length - 1 : Nat) - (p : Int) := by
    simp only [leadingExponent, Nat.pow_eq, hp]
    omega
  rw [hexp, zpow_sub₀ (by norm_num), zpow_natCast, zpow_natCast, value_eq_ratio,
    div_le_div_iff₀ (by positivity) hd]
  exact_mod_cast hpow

theorem shortestFrom_eq (hb : b.Normal) (hm : 0 < b.mantissa) {leading : Int}
    (hleading : (10 : ℚ) ^ leading ≤ b.value) {places more : Nat} (h : places + more = 16) :
    ∃ c k, b.shortestFrom leading places more = dropZeros c k ∧ b.Covers (c * 10 ^ k) := by
  induction more generalizing places with
  | zero =>
    have hlast : 10 ^ 16 * (10 : ℚ) ^ (leading - places) ≤ b.value := by
      obtain rfl : places = 16 := h
      rwa [← zpow_natCast, ← zpow_add₀ (by norm_num), Nat.cast_ofNat, add_sub_cancel]
    obtain ⟨c, hc, hcovers⟩ := exists_onGrid hb hm hlast
    refine ⟨c, _, ?_, hcovers⟩
    rw [shortestFrom, hc]
    rfl
  | succ more ih =>
    obtain ⟨-, -, -, ⟨c, hc, hcovers⟩ | ⟨hnone, -⟩⟩ := b.onGrid?_cases (leading - places)
    · refine ⟨c, _, ?_, hcovers⟩
      rw [shortestFrom, hc]
    · rw [shortestFrom, hnone]
      exact ih (by omega)

theorem low_pos (hm : 0 < b.mantissa) : 0 < b.interval.low := by
  simp only [interval]
  split_ifs <;> omega

theorem pos_of_covers (hm : 0 < b.mantissa) (h : b.Covers (c * 10 ^ k)) : 0 < c := by
  have hlow : (0 : ℚ) < b.interval.low * b.quarter :=
    mul_pos (Nat.cast_pos.mpr (low_pos hm)) b.quarter_pos
  exact_mod_cast pos_of_mul_pos_left (hlow.trans_le h.low_le) (by positivity)

theorem exists_toDigits_eq (c : Nat) (k : Int) : ∃ n : Nat,
    Nat.toDigits 10 c = (dropZeros c k).digits ++ List.replicate n '0' ∧
      (dropZeros c k).exponent = k + n := by
  rw [dropZeros]
  generalize Nat.toDigits 10 c = shown
  have hsplit : shown = (shown.reverse.dropWhile (· = '0')).reverse ++
      (shown.reverse.takeWhile (· = '0')).reverse := by
    rw [← List.reverse_append, List.takeWhile_append_dropWhile, List.reverse_reverse]
  have hzeros : (shown.reverse.takeWhile (· = '0')).reverse =
      List.replicate (shown.reverse.takeWhile (· = '0')).length '0' := by
    rw [List.eq_replicate_iff, List.length_reverse]
    refine ⟨rfl, fun d hd => ?_⟩
    simpa using List.all_eq_true.mp List.all_takeWhile d (List.mem_reverse.mp hd)
  have hlength := congrArg List.length hsplit
  simp only [List.length_append, List.length_reverse] at hlength
  refine ⟨_, hsplit.trans (congrArg _ hzeros), ?_⟩
  simp only
  omega

theorem value_dropZeros (c : Nat) (k : Int) : (dropZeros c k).value = c * 10 ^ k := by
  obtain ⟨n, hdigits, hexp⟩ := exists_toDigits_eq c k
  have hc := congrArg (Nat.ofDigitChars 10 · 0) hdigits
  simp only [Nat.ofDigitChars_ten_toDigits, Nat.ofDigitChars_append,
    Nat.ofDigitChars_replicate_zero] at hc
  have hc' : (c : ℚ) = 10 ^ n * Nat.ofDigitChars 10 (dropZeros c k).digits 0 := by
    exact_mod_cast hc
  rw [Digits.value, hexp, zpow_add₀ (by norm_num), zpow_natCast, hc']
  ring

structure Shown (digits : List Char) : Prop where
  ne_nil : digits ≠ []
  isDigit : ∀ c ∈ digits, c.isDigit = true

theorem Shown.append {digits more : List Char} (h : Shown digits)
    (hmore : ∀ c ∈ more, c.isDigit = true) : Shown (digits ++ more) where
  ne_nil := List.append_ne_nil_of_left_ne_nil h.ne_nil _
  isDigit := List.forall_mem_append.mpr ⟨h.isDigit, hmore⟩

theorem Shown.take {digits : List Char} (h : Shown digits) {n : Nat} (hn : 0 < n) :
    Shown (digits.take n) := by
  refine ⟨?_, fun c hc => h.isDigit c (List.mem_of_mem_take hc)⟩
  have := List.length_pos_iff.mpr h.ne_nil
  rw [← List.length_pos_iff, List.length_take]
  omega

theorem shown_dropZeros (hc : 0 < c) : Shown (dropZeros c k).digits := by
  obtain ⟨n, hdigits, -⟩ := exists_toDigits_eq c k
  constructor
  · intro hnil
    have hzero := congrArg (Nat.ofDigitChars 10 · 0) hdigits
    simp only [Nat.ofDigitChars_ten_toDigits, hnil, List.nil_append,
      Nat.ofDigitChars_replicate_zero, Nat.mul_zero] at hzero
    omega
  · intro d hd
    exact Text.isDigit_toDigits c d (hdigits ▸ List.mem_append_left _ hd)

theorem shortest_spec (hb : b.Normal) : Shown b.shortest.digits ∧ b.Covers b.shortest.value := by
  rw [shortest]
  split
  · rename_i hm
    have hzero : (⟨['0'], 0⟩ : Digits).value = 0 := by simp [Digits.value, Nat.ofDigitChars_cons]
    refine ⟨⟨by simp, by simp⟩, ?_⟩
    rw [hzero]
    have hclosed : b.interval.closed = true := by simp [interval, hm]
    have hlow : b.interval.low = 0 := by simp [interval, hm]
    refine ⟨by simp [hlow], by have := b.quarter_pos; positivity, by simp [hclosed]⟩
  · rename_i hm
    have hpos := Nat.pos_of_ne_zero hm
    obtain ⟨c, k, heq, hcovers⟩ :=
      shortestFrom_eq hb hpos (leadingExponent_le hb hpos) (Nat.zero_add 16)
    rw [heq, value_dropZeros]
    exact ⟨shown_dropZeros (pos_of_covers hpos hcovers), hcovers⟩

theorem low_le_high (hexp : b.exponent = a.exponent + j) (hax : a.Covers x) (hbx : b.Covers x) :
    b.interval.low * 2 ^ j ≤ a.interval.high ∧
      (a.interval.closed = false ∨ b.interval.closed = false →
        b.interval.low * 2 ^ j < a.interval.high) := by
  have hscale : b.interval.low * b.quarter = ((b.interval.low * 2 ^ j : Nat) : ℚ) * a.quarter := by
    have hquarter : b.quarter = 2 ^ j * a.quarter := by
      rw [quarter, quarter, ← two_zpow_add]
      congr 1
      omega
    rw [hquarter]
    push_cast
    ring
  constructor
  · have hle := hbx.low_le.trans hax.le_high
    rw [hscale, mul_le_mul_iff_left₀ a.quarter_pos] at hle
    exact_mod_cast hle
  · intro hopen
    have hlt : b.interval.low * b.quarter < a.interval.high * a.quarter := by
      rcases hopen with hopen | hopen
      · exact hbx.low_le.trans_lt (hax.ends hopen).2
      · exact (hbx.ends hopen).1.trans_le hax.le_high
    rw [hscale, mul_lt_mul_iff_left₀ a.quarter_pos] at hlt
    exact_mod_cast hlt

theorem mantissa_le_of_covers (ha : a.Normal) (hexp : b.exponent = a.exponent) (hax : a.Covers x)
    (hbx : b.Covers x) : b.mantissa ≤ a.mantissa := by
  obtain ⟨hle, hlt⟩ := low_le_high (j := 0) (by omega) hax hbx
  have hmantissa := ha.le_mantissa
  simp only [interval, Nat.pow_eq, decide_eq_false_iff_not] at hle hlt
  split_ifs at hle hlt with hedge
  · have := hmantissa (hexp ▸ hedge.2)
    omega
  · omega

theorem not_covers_of_lt (ha : a.Normal) (hb : b.Normal) (hexp : a.exponent < b.exponent)
    (hax : a.Covers x) : ¬ b.Covers x := by
  intro hbx
  obtain ⟨j, hj⟩ := Int.le.dest (Int.add_one_le_of_lt hexp)
  obtain ⟨hle, hlt⟩ := low_le_high (j := j + 1) (by push_cast; omega) hax hbx
  have hfew := ha.mantissa_lt
  have hnot_least : leastExponent < b.exponent := ha.least_le.trans_lt hexp
  have hmany := hb.le_mantissa hnot_least
  have hdouble : b.interval.low * 2 ≤ b.interval.low * 2 ^ (j + 1) :=
    Nat.mul_le_mul_left _ (Nat.le_self_pow (Nat.succ_ne_zero j) 2)
  generalize b.interval.low * 2 ^ (j + 1) = low at hle hlt hdouble
  simp only [interval, Nat.pow_eq, decide_eq_false_iff_not] at hle hlt hdouble
  split_ifs at hdouble <;> omega

theorem eq_of_covers (ha : a.Normal) (hb : b.Normal) (hax : a.Covers x) (hbx : b.Covers x) :
    a = b := by
  rcases lt_trichotomy a.exponent b.exponent with hexp | hexp | hexp
  · exact absurd hbx (not_covers_of_lt ha hb hexp hax)
  · have hmantissa := Nat.le_antisymm (mantissa_le_of_covers hb hexp hbx hax)
      (mantissa_le_of_covers ha hexp.symm hax hbx)
    cases a
    cases b
    exact congrArg₂ Binary.mk hmantissa hexp
  · exact absurd hax (not_covers_of_lt hb ha hexp hbx)

theorem eq_of_value_shortest_eq (ha : a.Normal) (hb : b.Normal)
    (h : a.shortest.value = b.shortest.value) : a = b :=
  eq_of_covers ha hb (shortest_spec ha).2 (h ▸ (shortest_spec hb).2)

end Binary
end FacetBrowser.Decimal
