import FacetBrowser.Source

namespace FacetBrowser

inductive Row where
  | child (id : Nat)
  | item (item : Item)
  | more (count : UInt64)
  deriving DecidableEq, Repr

structure Listing where
  total : UInt64
  rows : List Row
  deriving DecidableEq, Repr

namespace Listing

def children (l : Listing) : List Nat :=
  l.rows.filterMap fun
    | .child id => some id
    | _ => none

def items (l : Listing) : List Item :=
  l.rows.filterMap fun
    | .item item => some item
    | _ => none

def elisions (l : Listing) : List UInt64 :=
  l.rows.filterMap fun
    | .more count => some count
    | _ => none

end Listing

inductive Failure where
  | source (error : SourceError)
  | inconsistent (mismatch : CountMismatch)
  deriving DecidableEq, Repr

def Failure.message : Failure → String
  | .source error => error.message
  | .inconsistent mismatch => "inconsistent counts: " ++ mismatch.message

inductive Stage where
  | collapsed
  | loading
  | branch (listing : Listing)
  | leaf (listing : Listing)
  | failed (failure : Failure)
  deriving DecidableEq, Repr

namespace Stage

def listing? : Stage → Option Listing
  | .branch listing => some listing
  | .leaf listing => some listing
  | _ => none

def isCollapsed : Stage → Bool
  | .collapsed => true
  | _ => false

def isLeaf : Stage → Bool
  | .leaf _ => true
  | _ => false

end Stage

structure Node where
  id : Nat
  parent : Option Nat
  label : Option String
  query : Query
  depth : Nat
  groupCount : Option UInt64
  stage : Stage
  deriving DecidableEq, Repr

namespace Node

def root : Node :=
  ⟨0, none, none, .all, 0, none, .loading⟩

def child (parent : Node) (facet : String) (id : Nat) (group : Group) : Node :=
  ⟨id, some parent.id, some group.value, parent.query.and (.equals facet group.value),
    parent.depth + 1, some group.count, .collapsed⟩

def count (n : Node) : Option UInt64 :=
  match n.stage.listing? with
  | some listing => some listing.total
  | none => n.groupCount

end Node
end FacetBrowser
