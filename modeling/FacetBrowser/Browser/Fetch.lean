import FacetBrowser.Facets
import FacetBrowser.Tree.Node

namespace FacetBrowser

inductive Question where
  | root
  | sample (query : Query)
  | group (query : Query) (facet : String)
  deriving DecidableEq, Repr

inductive Answer where
  | sample (sample : Sample)
  | group (facet : String) (grouping : Grouping)
  deriving DecidableEq, Repr

namespace Question

def ofNode (facets : Facets) (n : Node) : Question :=
  match facets.at? n.depth with
  | some facet => .group n.query facet
  | none => .sample n.query

def text : Question → String
  | .root => "list_root()"
  | .sample query => "count_and_sample(\"" ++ query.text ++ "\")"
  | .group query facet => "group_by(\"" ++ query.text ++ "\", \"" ++ facet ++ "\")"

def answer (source : Source) : Question → Except SourceError Answer
  | .root => (source.sample .all).map .sample
  | .sample query => (source.sample query).map .sample
  | .group query facet => (source.group query facet).map (.group facet)

end Question

structure Fetch where
  node : Nat
  question : Question
  deriving DecidableEq, Repr

structure Reply where
  node : Nat
  answer : Except SourceError Answer

def Fetch.run (source : Source) (fetch : Fetch) : Reply :=
  ⟨fetch.node, fetch.question.answer source⟩

end FacetBrowser
