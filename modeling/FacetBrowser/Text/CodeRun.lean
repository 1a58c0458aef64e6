namespace FacetBrowser.Text

structure CodeRun where
  first : Nat
  last : Nat
  step : Nat
  shift : Int

namespace CodeRun

def covers (r : CodeRun) (n : Nat) : Bool :=
  r.first ≤ n && n ≤ r.last && (n - r.first) % r.step == 0

def image (r : CodeRun) (n : Nat) : Char :=
  Char.ofNat (n + r.shift).toNat

end CodeRun

def imageIn? (runs : List CodeRun) (c : Char) : Option Char :=
  (runs.find? (·.covers c.toNat)).map (·.image c.toNat)

end FacetBrowser.Text
