import FacetBrowser.Decimal.Binary
import Mathlib.Algebra.Order.Field.Basic
import Mathlib.Algebra.Order.Field.Power
import Mathlib.Data.Rat.Cast.Order
import Mathlib.Tactic.FieldSimp
import Mathlib.Tactic.Linarith
import Mathlib.Tactic.Positivity
import Mathlib.Tactic.Ring

namespace FacetBrowser.Decimal

variable {num den n d m : Nat} {exponent : Int}

theorem roundDiv_le (hd : 0 < d) (h : n ≤ m * d) : roundDiv n d ≤ m := by
  have hq : n / d ≤ m := Nat.div_le_of_le_mul (Nat.mul_comm m d ▸ h)
  have hn := Nat.div_add_mod n d
  rcases Nat.lt_or_eq_of_le hq with hlt | rfl
  · simp only [roundDiv]
    split_ifs <;> omega
  · have hr : n % d = 0 := by
      have := Nat.mul_comm (n / d) d
      omega
    rw [roundDiv, hr, if_pos (by omega)]

theorem le_roundDiv (hd : 0 < d) (h : m * d ≤ n) : m ≤ roundDiv n d := by
  have hq : m ≤ n / d := (Nat.le_div_iff_mul_le hd).mpr h
  simp only [roundDiv]
  split_ifs <;> omega

theorem inUnits_eq (hden : 0 < den) (num : Nat) (exponent : Int) :
    0 < (inUnits num den exponent).2 ∧
      ((inUnits num den exponent).1 : ℚ) / (inUnits num den exponent).2 =
        num / den / 2 ^ exponent := by
  rw [inUnits]
  split
  · rename_i he
    obtain ⟨k, rfl⟩ := Int.eq_ofNat_of_zero_le he
    refine ⟨Nat.mul_pos hden (Nat.pow_pos (by decide)), ?_⟩
    simp [div_div]
  · rename_i he
    obtain ⟨k, hk⟩ := Int.eq_ofNat_of_zero_le (show 0 ≤ -exponent by omega)
    obtain rfl : exponent = -k := by omega
    refine ⟨hden, ?_⟩
    simp [zpow_neg]
    ring

theorem two_zpow_add (e : Int) (k : Nat) : (2 : ℚ) ^ (e + k) = 2 ^ k * 2 ^ e := by
  rw [zpow_add₀ two_ne_zero, zpow_natCast, mul_comm]

theorem ratio_bounds (hnum : num ≠ 0) (hden : den ≠ 0) :
    (2 : ℚ) ^ ((num.log2 : Int) - den.log2 - 1) < num / den ∧
      (num / den : ℚ) < 2 ^ ((num.log2 : Int) - den.log2 + 1) := by
  have hd : (0 : ℚ) < den := Nat.cast_pos.mpr (Nat.pos_of_ne_zero hden)
  have hn₁ : (2 : ℚ) ^ (num.log2 : Int) ≤ num := by exact_mod_cast Nat.log2_self_le hnum
  have hn₂ : (num : ℚ) < 2 ^ ((num.log2 : Int) + 1) := by
    exact_mod_cast (Nat.lt_log2_self : num < 2 ^ (num.log2 + 1))
  have hd₁ : (2 : ℚ) ^ (den.log2 : Int) ≤ den := by exact_mod_cast Nat.log2_self_le hden
  have hd₂ : (den : ℚ) < 2 ^ ((den.log2 : Int) + 1) := by
    exact_mod_cast (Nat.lt_log2_self : den < 2 ^ (den.log2 + 1))
  constructor
  · rw [lt_div_iff₀ hd]
    calc (2 : ℚ) ^ ((num.log2 : Int) - den.log2 - 1) * den
        < 2 ^ ((num.log2 : Int) - den.log2 - 1) * 2 ^ ((den.log2 : Int) + 1) := by gcongr
      _ = 2 ^ (num.log2 : Int) := by rw [← zpow_add₀ two_ne_zero]; congr 1; omega
      _ ≤ num := hn₁
  · rw [div_lt_iff₀ hd]
    calc (num : ℚ) < 2 ^ ((num.log2 : Int) + 1) := hn₂
      _ = 2 ^ ((num.log2 : Int) - den.log2 + 1) * 2 ^ (den.log2 : Int) := by
        rw [← zpow_add₀ two_ne_zero]; congr 1; omega
      _ ≤ 2 ^ ((num.log2 : Int) - den.log2 + 1) * den := by gcongr

namespace Binary

structure Normal (b : Binary) : Prop where
  mantissa_lt : b.mantissa < 2 ^ 53
  least_le : leastExponent ≤ b.exponent
  le_mantissa : leastExponent < b.exponent → 2 ^ 52 ≤ b.mantissa

theorem normal_zero : zero.Normal := ⟨by decide, by decide, by decide⟩

theorem div_lt_iff (hd : 0 < d) (k : Nat) : n / d < k ↔ (n : ℚ) / d < k := by
  rw [Nat.div_lt_iff_lt_mul hd, div_lt_iff₀ (Nat.cast_pos.mpr hd)]
  exact_mod_cast Iff.rfl

theorem exponentFor_bounds (hnum : num ≠ 0) (hden : den ≠ 0) :
    leastExponent ≤ exponentFor num den ∧
      (num / den : ℚ) < 2 ^ 53 * 2 ^ exponentFor num den ∧
      (leastExponent < exponentFor num den →
        (2 ^ 52 * 2 ^ exponentFor num den : ℚ) ≤ num / den) := by
  obtain ⟨hlow, hhigh⟩ := ratio_bounds hnum hden
  rw [exponentFor]
  generalize hguess : max leastExponent ((num.log2 : Int) - den.log2 - 53) = guess
  have hleast : leastExponent ≤ guess := hguess ▸ le_max_left _ _
  have hpos : (0 : ℚ) < 2 ^ guess := by positivity
  obtain ⟨hd, hunits⟩ := inUnits_eq (Nat.pos_of_ne_zero hden) num guess
  have hfits : (inUnits num den guess).1 / (inUnits num den guess).2 < Nat.pow 2 53 ↔
      (num / den : ℚ) < 2 ^ 53 * 2 ^ guess := by
    rw [div_lt_iff hd, hunits, div_lt_iff₀ hpos]
    norm_num
  simp only [hfits]
  split
  · rename_i hlt
    refine ⟨hleast, hlt, fun hless => hlow.le.trans' ?_⟩
    rw [← two_zpow_add]
    exact zpow_le_zpow_right₀ one_le_two (by omega)
  · rename_i hge
    have hnext : (2 : ℚ) ^ (guess + 1) = 2 * 2 ^ guess := by
      rw [zpow_add_one₀ two_ne_zero, mul_comm]
    have htop : (2 : ℚ) ^ ((num.log2 : Int) - den.log2 + 1) ≤ 2 ^ 54 * 2 ^ guess := by
      rw [← two_zpow_add]
      exact zpow_le_zpow_right₀ one_le_two (by omega)
    refine ⟨by omega, ?_, fun _ => ?_⟩ <;> rw [hnext] <;> linarith

theorem mantissa_bounds (hnum : num ≠ 0) (hden : den ≠ 0) :
    let units := inUnits num den (exponentFor num den)
    roundDiv units.1 units.2 ≤ 2 ^ 53 ∧
      (leastExponent < exponentFor num den → 2 ^ 52 ≤ roundDiv units.1 units.2) ∧
      (den ≤ num → 0 < roundDiv units.1 units.2) := by
  intro units
  obtain ⟨hleast, hlt, hge⟩ := exponentFor_bounds hnum hden
  obtain ⟨hd, hunits⟩ := inUnits_eq (Nat.pos_of_ne_zero hden) num (exponentFor num den)
  have hpos : (0 : ℚ) < 2 ^ exponentFor num den := by positivity
  have hd' : (0 : ℚ) < units.2 := Nat.cast_pos.mpr hd
  have hratio : (units.1 : ℚ) = num / den / 2 ^ exponentFor num den * units.2 :=
    (div_eq_iff hd'.ne').mp hunits
  have hlow : leastExponent < exponentFor num den → 2 ^ 52 ≤ roundDiv units.1 units.2 := by
    intro hless
    refine le_roundDiv hd ?_
    have hge' := (le_div_iff₀ hpos).mpr (hge hless)
    have hle : (2 ^ 52 * units.2 : ℚ) ≤ units.1 := by
      rw [hratio]
      gcongr
    exact_mod_cast hle
  refine ⟨?_, hlow, fun hle => ?_⟩
  · refine roundDiv_le hd ?_
    have hlt' := (div_le_iff₀ hpos).mpr hlt.le
    have hle : (units.1 : ℚ) ≤ 2 ^ 53 * units.2 := by
      rw [hratio]
      gcongr
    exact_mod_cast hle
  · rcases eq_or_lt_of_le hleast with heq | hless
    · have hone : (1 : ℚ) ≤ num / den :=
        (one_le_div (Nat.cast_pos.mpr (Nat.pos_of_ne_zero hden))).mpr (Nat.cast_le.mpr hle)
      have hsmall : (2 : ℚ) ^ exponentFor num den ≤ 1 :=
        zpow_le_one_of_nonpos₀ one_le_two (by rw [← heq]; decide)
      have hunit : (units.2 : ℚ) ≤ units.1 := by
        rw [hratio]
        exact le_mul_of_one_le_left hd'.le ((one_le_div hpos).mpr (hsmall.trans hone))
      exact le_roundDiv hd (by rw [Nat.one_mul]; exact Nat.cast_le.mp hunit)
    · exact Nat.lt_of_lt_of_le (by decide) (hlow hless)

theorem ofRatio_spec {b : Binary} (hden : den ≠ 0) (h : ofRatio num den = some b) :
    b.Normal ∧ (num ≠ 0 → den ≤ num → 0 < b.mantissa) := by
  rw [ofRatio] at h
  split at h
  · rename_i hzero
    obtain rfl := Option.some.inj h
    exact ⟨normal_zero, fun hnum => absurd hzero hnum⟩
  · rename_i hnum
    obtain ⟨hleast, -⟩ := exponentFor_bounds hnum hden
    obtain ⟨hhigh, hlow, hpos⟩ := mantissa_bounds hnum hden
    generalize exponentFor num den = exponent at *
    simp only at h hhigh hlow hpos
    generalize roundDiv _ _ = m at *
    by_cases hcarry : m = 2 ^ 53
    · simp only [hcarry, Nat.pow_eq, if_true, Option.ite_none_left_eq_some, Option.some.injEq] at h
      obtain ⟨-, rfl⟩ := h
      exact ⟨⟨by norm_num, by simp only; omega, fun _ => Nat.le_refl _⟩, fun _ _ => by norm_num⟩
    · simp only [Nat.pow_eq, if_neg hcarry, Option.ite_none_left_eq_some, Option.some.injEq] at h
      obtain ⟨-, rfl⟩ := h
      exact ⟨⟨by simp only; omega, hleast, hlow⟩, fun _ => hpos⟩

section Scaling

variable {a b : Binary}

theorem toRatio_pos (b : Binary) : 0 < b.toRatio.2 := by
  rw [toRatio]
  split
  · exact Nat.one_pos
  · exact Nat.pow_pos Nat.two_pos

theorem toRatio_ne_zero (h : 0 < b.mantissa) : b.toRatio.1 ≠ 0 := by
  rw [toRatio]
  split
  · exact Nat.mul_ne_zero h.ne' (Nat.pow_pos Nat.two_pos).ne'
  · exact h.ne'

theorem normal_mul {c : Binary} (h : a.mul b = some c) : c.Normal :=
  (ofRatio_spec (Nat.mul_pos a.toRatio_pos b.toRatio_pos).ne' h).1

theorem powerOfTen_pos {k : Nat} (h : powerOfTen k = some b) : 0 < b.mantissa :=
  (ofRatio_spec one_ne_zero h).2 (Nat.pow_pos (by decide)).ne' (Nat.pow_pos (by decide))

theorem normal_overPowerOfTen {k : Nat} (h : a.overPowerOfTen k = some b) : b.Normal := by
  obtain ⟨power, hpower, hdiv⟩ := Option.bind_eq_some_iff.mp h
  have hne := toRatio_ne_zero (powerOfTen_pos hpower)
  exact (ofRatio_spec (Nat.mul_ne_zero a.toRatio_pos.ne' hne) hdiv).1

theorem normal_timesTenTo {k : Nat} (ha : a.Normal) (h : a.timesTenTo k = some b) :
    b.Normal := by
  rw [timesTenTo] at h
  split at h
  · obtain ⟨power, -, hmul⟩ := Option.bind_eq_some_iff.mp h
    exact normal_mul hmul
  · split at h
    · exact Option.some.inj h ▸ ha
    · cases h

theorem normal_ofScientific {significand : Nat} (h : ofScientific significand exponent = some b) :
    b.Normal := by
  obtain ⟨whole, hwhole, hscaled⟩ := Option.bind_eq_some_iff.mp h
  have hnormal := (ofRatio_spec one_ne_zero hwhole).1
  rw [scaleByTen] at hscaled
  split at hscaled
  · exact normal_timesTenTo hnormal hscaled
  · obtain ⟨last, -, hover⟩ := Option.bind_eq_some_iff.mp hscaled
    exact normal_overPowerOfTen hover

end Scaling

end Binary
end FacetBrowser.Decimal
