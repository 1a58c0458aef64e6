import FacetBrowser.Text.CombiningClass
import FacetBrowser.Text.Composition

namespace FacetBrowser.Text

def maxMarks : Nat := 4

def decompose : Nat → Char → List Char
  | 0, c => [c]
  | fuel + 1, c =>
    match parts? c with
    | some (base, mark) => decompose fuel base ++ [mark]
    | none => [c]

abbrev Classed := Nat × Char

def classed (c : Char) : Classed :=
  (combiningClass c, c)

def placeMark (mark : Classed) : List Classed → List Classed
  | [] => [mark]
  | last :: before =>
    if mark.1 ≠ 0 && mark.1 < last.1 then last :: placeMark mark before
    else mark :: last :: before

def orderMarks (cs : List Classed) : List Classed :=
  (cs.foldl (fun before c => placeMark c before) []).reverse

def composeFrom (base : Char) (marks : List Char) (last : Nat) : List Classed → List Char
  | [] => base :: marks.reverse
  | (k, c) :: rest =>
    match if marks.isEmpty || last < k then compose? base c else none with
    | some whole => composeFrom whole marks last rest
    | none =>
      if k = 0 then base :: (marks.reverse ++ composeFrom c [] 0 rest)
      else composeFrom base (c :: marks) k rest

def composeMarks : List Classed → List Char
  | [] => []
  | (k, c) :: rest => if k = 0 then composeFrom c [] 0 rest else c :: composeMarks rest

def normalize (cs : List Char) : List Char :=
  composeMarks (orderMarks ((cs.flatMap (decompose maxMarks)).map classed))

end FacetBrowser.Text
