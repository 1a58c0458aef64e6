namespace FacetBrowser

structure NotOffered where
  facet : String
  deriving DecidableEq, Repr

def NotOffered.message (e : NotOffered) : String :=
  "invalid facet '" ++ e.facet ++ "': not among the remaining facet options"

structure Facets where
  chosen : List String
  offered : List String
  revision : Nat
  deriving DecidableEq, Repr

namespace Facets

def distinct (options : List String) : List String :=
  options.foldl (fun kept option => if option ∈ kept then kept else kept ++ [option]) []

def ofOptions (options : List String) : Facets :=
  ⟨[], distinct options, 0⟩

def choose (f : Facets) (facet : String) : Except NotOffered (Nat × Facets) :=
  if facet ∈ f.offered then
    .ok (f.chosen.length, ⟨f.chosen ++ [facet], f.offered.erase facet, f.revision + 1⟩)
  else .error ⟨facet⟩

def depth? (f : Facets) (facet : String) : Option Nat :=
  f.chosen.idxOf? facet

def at? (f : Facets) (depth : Nat) : Option String :=
  f.chosen[depth]?

def isExhausted (f : Facets) : Bool :=
  f.offered.isEmpty

end Facets
end FacetBrowser
