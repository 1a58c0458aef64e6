namespace FacetBrowser

structure CodeSet where
  bounds : Array Nat

namespace CodeSet

def firstAbove (bounds : Array Nat) (c lo hi : Nat) : Nat :=
  if lo < hi then
    let mid := (lo + hi) / 2
    if bounds.getD mid 0 ≤ c then firstAbove bounds c (mid + 1) hi
    else firstAbove bounds c lo mid
  else lo
termination_by hi - lo

def contains (s : CodeSet) (c : Char) : Bool :=
  firstAbove s.bounds c.toNat 0 s.bounds.size % 2 == 1

end CodeSet
end FacetBrowser
