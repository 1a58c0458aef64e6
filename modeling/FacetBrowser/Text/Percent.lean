import FacetBrowser.Text.Numeral

namespace FacetBrowser.Text.Percent

def escape (byte : UInt8) : List Char :=
  let digit (n : Nat) : Char := (Nat.digitChar n).toUpper
  ['%', digit (byte.toNat / 16), digit (byte.toNat % 16)]

def encode (keeps : Char → Bool) (cs : List Char) : List Char :=
  cs.flatMap fun c => if keeps c then [c] else (String.utf8EncodeChar c).flatMap escape

def byte? : List Char → Option (UInt8 × List Char)
  | '%' :: a :: b :: cs => (numberIn? 16 [a, b]).map (UInt8.ofNat ·, cs)
  | _ => none

def decode : List Char → List UInt8
  | '%' :: a :: b :: cs =>
    match numberIn? 16 [a, b] with
    | some n => UInt8.ofNat n :: decode cs
    | none => String.utf8EncodeChar '%' ++ decode (a :: b :: cs)
  | c :: cs => String.utf8EncodeChar c ++ decode cs
  | [] => []

end FacetBrowser.Text.Percent
