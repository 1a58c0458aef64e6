import FacetBrowser.Text.Blank
import FacetBrowser.Text.Bytes

namespace FacetBrowser.Filter

inductive Fault where
  | noAttribute (rest : List Char)
  | noEquals (rest : List Char)
  | noValue (rest : List Char)
  | longerThanNull (rest tail : List Char)
  | unread (rest : List Char)
  deriving DecidableEq, Repr

namespace Fault

def isFinal : Fault → Bool
  | .noValue _ => true
  | .longerThanNull _ _ => true
  | _ => false

structure Place where
  line : Nat
  text : List Char
  column : Nat

def placeOf (whole rest : List Char) : Place :=
  let before := whole.take (whole.length - rest.length)
  let lead := (before.reverse.takeWhile (· ≠ '\n')).reverse
  { line := before.count '\n' + 1
    text := Text.trimEnd ((lead ++ rest).takeWhile (· ≠ '\n'))
    column := Text.byteCount lead + 1 }

def entry (whole : List Char) (number : Nat) (rest : List Char) (subject remark : String) :
    String :=
  let place := placeOf whole rest
  toString number ++ ": at line " ++ toString place.line ++ subject ++ ":\n"
    ++ String.ofList place.text ++ "\n"
    ++ String.ofList (List.replicate (place.column - 1) ' ') ++ "^\n" ++ remark ++ "\n"

def within (whole : List Char) (number : Nat) (rest : List Char) (name : String) : String :=
  entry whole number rest (", in " ++ name) ""

def message (whole : List Char) : Fault → String
  | .noAttribute rest =>
    within whole 0 rest "Tag" ++ within whole 1 rest "Alt" ++ within whole 2 rest "attribute"
  | .noEquals rest =>
    let got := match rest with
      | c :: _ => "found " ++ String.singleton c
      | [] => "got end of input"
    entry whole 0 rest "" ("expected '=', " ++ got ++ "\n")
  | .noValue rest =>
    within whole 0 rest "Tag" ++ within whole 1 rest "Alt" ++ within whole 2 rest "value"
  | .longerThanNull rest tail =>
    within whole 0 tail "Not" ++ within whole 1 rest "Alt" ++ within whole 2 rest "value"
  | .unread rest => within whole 0 rest "Eof"

end Fault
end FacetBrowser.Filter
