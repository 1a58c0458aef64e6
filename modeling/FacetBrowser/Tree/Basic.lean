import FacetBrowser.Tree.Node

namespace FacetBrowser

structure Tree where
  nodes : List Node
  deriving DecidableEq, Repr

namespace Tree

def seedling : Tree :=
  ⟨[.root]⟩

def node? (t : Tree) (id : Nat) : Option Node :=
  t.nodes[id]?

def set (t : Tree) (n : Node) : Tree :=
  ⟨t.nodes.set n.id n⟩

def listing? (t : Tree) (id : Nat) : Option Listing :=
  (t.node? id).bind (·.stage.listing?)

def rows (t : Tree) (id : Nat) : List Row :=
  match t.listing? id with
  | some listing => listing.rows
  | none => []

def children (t : Tree) (id : Nat) : List Node :=
  (t.rows id).filterMap fun
    | .child child => t.node? child
    | _ => none

def idsAt (t : Tree) (stage : Stage → Bool) : List Nat :=
  (t.nodes.filter (stage ·.stage)).map (·.id)

def walkFrom (t : Tree) : Nat → Nat → Nat → List (Nat × Row)
  | 0, _, _ => []
  | fuel + 1, level, id =>
    (t.rows id).flatMap fun row =>
      (level, row) :: match row with
        | .child child => t.walkFrom fuel (level + 1) child
        | _ => []

def walk (t : Tree) (id : Nat) : List (Nat × Row) :=
  t.walkFrom t.nodes.length 0 id

end Tree
end FacetBrowser
