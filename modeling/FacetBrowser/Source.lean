import FacetBrowser.Query
import FacetBrowser.Sample

namespace FacetBrowser

inductive SourceError where
  | transport (reason : String)
  | decode (reason : String)
  deriving DecidableEq, Repr

def SourceError.message : SourceError → String
  | .transport reason => "transport error: " ++ reason
  | .decode reason => "decode error: " ++ reason

structure Source where
  sample : Query → Except SourceError Sample
  group : Query → String → Except SourceError Grouping

end FacetBrowser
