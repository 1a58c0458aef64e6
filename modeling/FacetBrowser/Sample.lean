namespace FacetBrowser

structure Item where
  id : String
  path : String
  deriving DecidableEq, Repr

structure CountMismatch where
  total : UInt64
  accounted : UInt64
  deriving DecidableEq, Repr

def CountMismatch.message (m : CountMismatch) : String :=
  "result accounts for " ++ toString m.accounted ++ " items but reports a total of "
    ++ toString m.total

structure Sample where
  count : UInt64
  items : List Item
  deriving DecidableEq, Repr

def Sample.unlisted (s : Sample) : Except CountMismatch UInt64 :=
  if s.items.length ≤ s.count.toNat then .ok (s.count - UInt64.ofNat s.items.length)
  else .error ⟨s.count, UInt64.ofNat s.items.length⟩

structure Group where
  value : String
  count : UInt64
  deriving DecidableEq, Repr

structure Grouping where
  count : UInt64
  groups : List Group
  ungrouped : Sample
  deriving DecidableEq, Repr

namespace Grouping

def addWithin (a b : UInt64) : Option UInt64 :=
  if a.toNat + b.toNat < UInt64.size then some (a + b) else none

def accounted (g : Grouping) : Option UInt64 :=
  g.groups.foldlM (fun sum group => addWithin sum group.count) g.ungrouped.count

def unlisted (g : Grouping) : Except CountMismatch UInt64 :=
  match g.accounted with
  | none => .error ⟨g.count, UInt64.ofNat (UInt64.size - 1)⟩
  | some sum => if sum ≤ g.count then .ok (g.count - sum) else .error ⟨g.count, sum⟩

def isCut (g : Grouping) : Bool :=
  match g.unlisted with
  | .ok n => 0 < n
  | .error _ => false

end Grouping
end FacetBrowser
