import FacetBrowser.Decimal.Shortest

namespace FacetBrowser.Json

open Decimal (Binary)

inductive Number where
  | integer (value : Int)
  | float (negative : Bool) (size : Binary)
  deriving DecidableEq, Repr

def zeros (n : Nat) : List Char :=
  List.replicate n '0'

def floatText (size : Binary) : List Char :=
  let shortest := size.shortest
  let digits := shortest.digits
  let point : Int := digits.length + shortest.exponent
  if 0 ≤ shortest.exponent ∧ point ≤ 16 then
    digits ++ zeros shortest.exponent.toNat ++ ['.', '0']
  else if 0 < point ∧ point ≤ 16 then
    digits.take point.toNat ++ '.' :: digits.drop point.toNat
  else if -5 < point ∧ point ≤ 0 then
    '0' :: '.' :: zeros (-point).toNat ++ digits
  else
    let fraction := if digits.length = 1 then [] else '.' :: digits.drop 1
    let sign := if point ≤ 0 then '-' else '+'
    digits.take 1 ++ fraction ++ 'e' :: sign :: Nat.toDigits 10 (point - 1).natAbs

def integerText (value : Int) : List Char :=
  if value < 0 then '-' :: Nat.toDigits 10 value.natAbs else Nat.toDigits 10 value.natAbs

def Number.text : Number → List Char
  | .integer value => integerText value
  | .float negative size => if negative then '-' :: floatText size else floatText size

end FacetBrowser.Json
