namespace FacetBrowser.Decimal

structure Binary where
  mantissa : Nat
  exponent : Int
  deriving DecidableEq, Repr

def roundDiv (num den : Nat) : Nat :=
  let q := num / den
  let r := num % den
  if 2 * r < den then q
  else if den < 2 * r then q + 1
  else q + q % 2

def inUnits (num den : Nat) (exponent : Int) : Nat × Nat :=
  if 0 ≤ exponent then (num, den * Nat.pow 2 exponent.toNat)
  else (num * Nat.pow 2 (-exponent).toNat, den)

namespace Binary

def leastExponent : Int := -1074

def greatestExponent : Int := 971

def zero : Binary := ⟨0, leastExponent⟩

def exponentFor (num den : Nat) : Int :=
  let guess := max leastExponent ((Nat.log2 num : Int) - (Nat.log2 den : Int) - 53)
  let (n, d) := inUnits num den guess
  if n / d < Nat.pow 2 53 then guess else guess + 1

def ofRatio (num den : Nat) : Option Binary :=
  if num = 0 then some zero
  else
    let exponent := exponentFor num den
    let (n, d) := inUnits num den exponent
    let m := roundDiv n d
    let (m, exponent) := if m = Nat.pow 2 53 then (Nat.pow 2 52, exponent + 1) else (m, exponent)
    if greatestExponent < exponent then none else some ⟨m, exponent⟩

def toRatio (b : Binary) : Nat × Nat :=
  if 0 ≤ b.exponent then (b.mantissa * Nat.pow 2 b.exponent.toNat, 1)
  else (b.mantissa, Nat.pow 2 (-b.exponent).toNat)

def mul (a b : Binary) : Option Binary :=
  ofRatio (a.toRatio.1 * b.toRatio.1) (a.toRatio.2 * b.toRatio.2)

def div (a b : Binary) : Option Binary :=
  ofRatio (a.toRatio.1 * b.toRatio.2) (a.toRatio.2 * b.toRatio.1)

def powerOfTen (k : Nat) : Option Binary :=
  ofRatio (Nat.pow 10 k) 1

def greatestPower : Nat := 308

def timesTenTo (b : Binary) (k : Nat) : Option Binary :=
  if k ≤ greatestPower then (powerOfTen k).bind b.mul
  else if b.mantissa = 0 then some b
  else none

def overPowerOfTen (b : Binary) (k : Nat) : Option Binary :=
  (powerOfTen k).bind b.div

def overGreatestPowers : Nat → Binary → Option Binary
  | 0, b => some b
  | n + 1, b =>
    if b.mantissa = 0 then some b
    else (b.overPowerOfTen greatestPower).bind (overGreatestPowers n)

def overTenTo (b : Binary) (k : Nat) : Option Binary :=
  let whole := (k - 1) / greatestPower
  (overGreatestPowers whole b).bind (·.overPowerOfTen (k - whole * greatestPower))

def scaleByTen (b : Binary) (exponent : Int) : Option Binary :=
  if 0 ≤ exponent then b.timesTenTo exponent.toNat else b.overTenTo (-exponent).toNat

def ofScientific (significand : Nat) (exponent : Int) : Option Binary :=
  (ofRatio significand 1).bind (·.scaleByTen exponent)

end Binary
end FacetBrowser.Decimal
