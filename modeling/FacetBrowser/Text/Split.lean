namespace FacetBrowser.Text

def split (divides : Char → Bool) : List Char → List (List Char)
  | [] => [[]]
  | c :: cs =>
    if divides c then [] :: split divides cs
    else
      match split divides cs with
      | part :: parts => (c :: part) :: parts
      | [] => [[c]]

def join (divider : Char) : List (List Char) → List Char
  | [] => []
  | [part] => part
  | part :: parts => part ++ divider :: join divider parts

end FacetBrowser.Text
