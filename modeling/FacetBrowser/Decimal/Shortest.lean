import FacetBrowser.Decimal.Binary

namespace FacetBrowser.Decimal

structure Digits where
  digits : List Char
  exponent : Int

structure Interval where
  low : Nat
  middle : Nat
  high : Nat
  closed : Bool

namespace Binary

def interval (b : Binary) : Interval where
  low := 4 * b.mantissa - (if b.mantissa = Nat.pow 2 52 ∧ leastExponent < b.exponent then 1 else 2)
  middle := 4 * b.mantissa
  high := 4 * b.mantissa + 2
  closed := b.mantissa % 2 = 0

def quarterOver (b : Binary) (k : Int) : Nat × Nat :=
  let (n, d) := if 2 ≤ b.exponent then (Nat.pow 2 (b.exponent - 2).toNat, 1)
    else (1, Nat.pow 2 (2 - b.exponent).toNat)
  if 0 ≤ k then (n, d * Nat.pow 10 k.toNat) else (n * Nat.pow 10 (-k).toNat, d)

def leadingExponent (b : Binary) : Int :=
  let (n, d) := b.toRatio
  ((Nat.toDigits 10 (n * Nat.pow 10 340 / d)).length : Int) - 341

def onGrid? (b : Binary) (k : Int) : Option Nat :=
  let i := b.interval
  let (n, d) := b.quarterOver k
  let inside (c : Nat) : Bool :=
    if i.closed then i.low * n ≤ c * d && c * d ≤ i.high * n
    else i.low * n < c * d && c * d < i.high * n
  let below := i.middle * n / d
  let above := below + 1
  if inside below && inside above then
    let (under, past) := (i.middle * n - below * d, above * d - i.middle * n)
    if under < past || (under = past && below % 2 = 0) then some below else some above
  else if inside below then some below
  else if inside above then some above
  else none

def dropZeros (c : Nat) (k : Int) : Digits :=
  let kept := (Nat.toDigits 10 c).reverse.dropWhile (· = '0')
  ⟨kept.reverse, k + (((Nat.toDigits 10 c).length - kept.length : Nat) : Int)⟩

def shortestFrom (b : Binary) (leading : Int) (places : Nat) : Nat → Digits
  | 0 => dropZeros ((b.onGrid? (leading - places)).getD 0) (leading - places)
  | more + 1 =>
    match b.onGrid? (leading - places) with
    | some c => dropZeros c (leading - places)
    | none => shortestFrom b leading (places + 1) more

def shortest (b : Binary) : Digits :=
  if b.mantissa = 0 then ⟨['0'], 0⟩
  else shortestFrom b b.leadingExponent 0 16

end Binary
end FacetBrowser.Decimal
