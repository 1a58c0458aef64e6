import FacetBrowser.Text.Blank

namespace FacetBrowser

structure Query where
  text : String
  deriving DecidableEq, Repr

namespace Query

def all : Query := ⟨""⟩

def ofText (text : String) : Query :=
  ⟨Text.trim text⟩

def isAll (q : Query) : Bool :=
  q.text = ""

def equals (facet value : String) : Query :=
  ⟨facet ++ " = '" ++ value ++ "'"⟩

def absent (facet : String) : Query :=
  ⟨facet ++ " = null"⟩

def and (p q : Query) : Query :=
  if p.isAll then q
  else if q.isAll then p
  else ⟨p.text ++ " and " ++ q.text⟩

end Query
end FacetBrowser
