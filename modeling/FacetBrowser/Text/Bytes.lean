namespace FacetBrowser.Text

def byteCount : List Char → Nat
  | [] => 0
  | c :: cs => c.utf8Size + byteCount cs

end FacetBrowser.Text
