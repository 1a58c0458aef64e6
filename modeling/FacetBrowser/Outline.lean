import FacetBrowser.Browser.Basic

namespace FacetBrowser.Outline

def fill (id : List Char) : List Char → List Char
  | '\x7b' :: 'i' :: 'd' :: '\x7d' :: cs => id ++ fill id cs
  | c :: cs => c :: fill id cs
  | [] => []

def hasPlace : List Char → Bool
  | '\x7b' :: 'i' :: 'd' :: '\x7d' :: _ => true
  | _ :: cs => hasPlace cs
  | [] => false

def link (template id : String) : String :=
  String.ofList (fill id.toList template.toList)

def defaultTemplate : String := "/datasets/\x7bid\x7d/"

def margin (depth : Nat) : String :=
  String.ofList (List.replicate (2 * depth) ' ')

def remark : Stage → String
  | .loading => " (loading...)"
  | .failed failure => " ! " ++ failure.message
  | _ => ""

def nodeLine (n : Node) (depth : Nat) : String :=
  let count := match n.count with
    | some count => " (" ++ toString count ++ ")"
    | none => ""
  margin depth ++ n.label.getD "" ++ "/" ++ count ++ remark n.stage

def rowLine (template : String) (t : Tree) (depth : Nat) : Row → Option String
  | .child id => (t.node? id).map (nodeLine · depth)
  | .item item => some (margin depth ++ item.path ++ " <" ++ link template item.id ++ ">")
  | .more count => some (margin depth ++ "... + " ++ toString count ++ " more")

def header (facets : Facets) : String :=
  "facets: " ++ if facets.chosen.isEmpty then "(none)" else " / ".intercalate facets.chosen

def lines (template : String) (b : Browser) : List String :=
  header b.facets
    :: (b.node? 0).toList.map (nodeLine · 0)
    ++ (b.tree.walk 0).filterMap fun (level, row) => rowLine template b.tree (level + 1) row

end FacetBrowser.Outline
