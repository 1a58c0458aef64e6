import FacetBrowser.Browser.Fetch
import FacetBrowser.Tree.Basic

namespace FacetBrowser

structure UnknownNode where
  id : Nat
  deriving DecidableEq, Repr

def UnknownNode.message (e : UnknownNode) : String :=
  "node #" ++ toString e.id ++ " not found"

structure Browser where
  facets : Facets
  tree : Tree
  seeded : Bool
  deriving DecidableEq, Repr

structure Outcome where
  changed : Option Node
  followUp : Option Fetch
  deriving DecidableEq, Repr

def Outcome.nothing : Outcome :=
  ⟨none, none⟩

namespace Browser

def new (facets : Facets) : Browser :=
  ⟨facets, .seedling, false⟩

def node? (b : Browser) (id : Nat) : Option Node :=
  b.tree.node? id

def set (b : Browser) (n : Node) : Browser :=
  { b with tree := b.tree.set n }

def seed (b : Browser) : Browser × Option Fetch :=
  if b.seeded then (b, none)
  else ({ b with seeded := true }, some ⟨0, .root⟩)

def activate (b : Browser) (id : Nat) : Except UnknownNode (Browser × Option Fetch) :=
  match b.node? id with
  | none => .error ⟨id⟩
  | some n =>
    match n.stage with
    | .collapsed => .ok (b.set { n with stage := .loading }, some ⟨id, .ofNode b.facets n⟩)
    | _ => .ok (b, none)

def isOutdated (facets : Facets) (n : Node) : Bool :=
  n.stage.isLeaf && n.depth < facets.chosen.length

def choose (b : Browser) (facet : String) : Except NotOffered (Browser × List Fetch) :=
  match b.facets.choose facet with
  | .error e => .error e
  | .ok (_, facets) =>
    let reload (n : Node) : Node :=
      if isOutdated facets n then { n with stage := .loading } else n
    let fetches := (b.tree.nodes.filter (isOutdated facets)).map fun n =>
      ⟨n.id, .ofNode facets n⟩
    .ok ({ b with facets := facets, tree := ⟨b.tree.nodes.map reload⟩ }, fetches)

def moreRows (count : UInt64) : List Row :=
  if count = 0 then [] else [.more count]

def childrenOf (n : Node) (facet : String) (start : Nat) (groups : List Group) : List Node :=
  groups.mapIdx fun i group => n.child facet (start + i) group

def put (b : Browser) (n : Node) : Browser × Outcome :=
  (b.set n, ⟨some n, none⟩)

def fail (b : Browser) (n : Node) (failure : Failure) : Browser × Outcome :=
  b.put { n with stage := .failed failure }

def putLeaf (b : Browser) (n : Node) (s : Sample) : Browser × Outcome :=
  match s.unlisted with
  | .error mismatch => b.fail n (.inconsistent mismatch)
  | .ok unlisted =>
    b.put { n with stage := .leaf ⟨s.count, s.items.map .item ++ moreRows unlisted⟩ }

def putBranch (b : Browser) (n : Node) (facet : String) (g : Grouping) : Browser × Outcome :=
  match g.unlisted with
  | .error mismatch => b.fail n (.inconsistent mismatch)
  | .ok unlisted =>
    match g.ungrouped.unlisted with
    | .error mismatch => b.fail n (.inconsistent mismatch)
    | .ok ungrouped =>
      let children := childrenOf n facet b.tree.nodes.length g.groups
      let rows := children.map (.child ·.id) ++ moreRows unlisted
        ++ g.ungrouped.items.map .item ++ moreRows ungrouped
      let grown := { b with tree := ⟨b.tree.nodes ++ children⟩ }
      grown.put { n with stage := .branch ⟨g.count, rows⟩ }

def receive (b : Browser) (reply : Reply) : Browser × Outcome :=
  match b.node? reply.node with
  | none => (b, .nothing)
  | some n =>
    match n.stage with
    | .loading =>
      match reply.answer with
      | .error e => b.fail n (.source e)
      | .ok (.group facet g) => b.putBranch n facet g
      | .ok (.sample s) =>
        if n.depth < b.facets.chosen.length then
          (b, ⟨none, some ⟨reply.node, .ofNode b.facets n⟩⟩)
        else b.putLeaf n s
    | _ => (b, .nothing)

end Browser
end FacetBrowser
