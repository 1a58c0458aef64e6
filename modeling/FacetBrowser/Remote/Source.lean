import FacetBrowser.Remote.Exchange
import FacetBrowser.Remote.Page
import FacetBrowser.Settings.Basic
import FacetBrowser.Source

namespace FacetBrowser.Remote

open Json (Reader Value)

def itemsPath : String := "/api/datasets/"

def filterPath : String := "/api/datasets/filter/"

def facetPath : String := "/api/datasets/facet/"

def trimSlashes (url : String) : String :=
  String.ofList (url.toList.reverse.dropWhile (· = '/')).reverse

def sampleRequest (service : Service) (q : Query) (size : UInt64) : Request :=
  let arguments := [("page_size", toString size)]
  let base := trimSlashes service.baseUrl
  if q.isAll then ⟨.get, base, itemsPath, arguments, none, ""⟩
  else ⟨.post, base, filterPath, arguments, some "text/plain", q.text⟩

def facetBody (q : Query) (facet : String) : Value :=
  .object (("facet", .string facet) :: if q.isAll then [] else [("query", .string q.text)])

def facetRequest (service : Service) (q : Query) (facet : String) : Request :=
  let size := ("page_size", toString service.groupPageSize)
  let base := trimSlashes service.baseUrl
  match service.wireFormat with
  | .plainText =>
    ⟨.post, base, facetPath, [("column", facet), size], some "text/plain", q.text⟩
  | .json =>
    ⟨.post, base, facetPath, [size], some "application/json",
      String.ofList (facetBody q facet).compact⟩

def ask {α : Type} (exchange : Exchange) (request : Request) (reader : Reader α) :
    Except SourceError α :=
  match exchange request with
  | .error reason => .error (.transport reason)
  | .ok response =>
    if response.isSuccess then (reader.run response.text).mapError (.decode ·.message)
    else .error (.transport ("HTTP " ++ response.statusText ++ ": " ++ response.text))

def askSample (service : Service) (exchange : Exchange) (q : Query) (size : UInt64) :
    Except SourceError Sample :=
  (ask exchange (sampleRequest service q size) (Page.shape itemRow.reader).reader).map
    fun page => ⟨page.count, page.rows⟩

def askGroups (service : Service) (exchange : Exchange) (q : Query) (facet : String) :
    Except SourceError (List Group) :=
  (ask exchange (facetRequest service q facet) (Page.shape FacetRow.shape.reader).reader).map
    fun page => page.rows.filterMap FacetRow.group?

def sample (service : Service) (exchange : Exchange) (q : Query) : Except SourceError Sample :=
  askSample service exchange q service.sampleSize

def group (service : Service) (exchange : Exchange) (q : Query) (facet : String) :
    Except SourceError Grouping := do
  let groups ← askGroups service exchange q facet
  let total ← askSample service exchange q 1
  let ungrouped ← askSample service exchange (q.and (.absent facet)) service.sampleSize
  let grouping : Grouping := ⟨total.count, groups, ungrouped⟩
  match grouping.unlisted with
  | .ok _ => .ok grouping
  | .error mismatch => .error (.decode ("facet " ++ facet ++ ": " ++ mismatch.message))

def source (service : Service) (exchange : Exchange) : Source :=
  ⟨sample service exchange, group service exchange⟩

def unreachable : Exchange := fun request =>
  let url := match request.address with
    | .ok address => address.text
    | .error _ => request.baseUrl ++ request.path
  .error ("error sending request for url (" ++ url ++ ")")

end FacetBrowser.Remote
