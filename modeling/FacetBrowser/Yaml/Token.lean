namespace FacetBrowser.Yaml

inductive Style where
  | plain
  | singleQuoted
  | doubleQuoted
  | literal
  | folded
  deriving DecidableEq, Repr

abbrev Tag := List UInt8

inductive Token where
  | versionDirective (major minor : Nat)
  | tagDirective (handle : String) (start : Tag)
  | documentStart
  | documentEnd
  | blockSequenceStart
  | blockMappingStart
  | blockEnd
  | flowSequenceStart
  | flowSequenceEnd
  | flowMappingStart
  | flowMappingEnd
  | blockEntry
  | flowEntry
  | key
  | value
  | alias (name : String)
  | anchor (name : String)
  | tag (handle : String) (suffix : Tag)
  | scalar (style : Style) (text : String)
  deriving DecidableEq, Repr

structure Cursor where
  rest : List Char
  index : Nat
  line : Nat
  column : Nat

def isGap (c : Char) : Bool :=
  c = ' ' || c = '\t'

def isBreak (c : Char) : Bool :=
  c = '\n' || c = '\r' || c = '\u0085' || c = '\u2028' || c = '\u2029'

def isGapOrBreak (c : Char) : Bool :=
  isGap c || isBreak c

def isWord (c : Char) : Bool :=
  c.isAlphanum || c = '_' || c = '-'

def endsWord : List Char → Bool
  | [] => true
  | c :: _ => isGapOrBreak c

def endsLine : List Char → Bool
  | [] => true
  | c :: _ => isBreak c

namespace Cursor

def skip (k : Cursor) (n : Nat) : Cursor :=
  { k with rest := k.rest.drop n, index := k.index + n, column := k.column + n }

def nextLine (k : Cursor) (n : Nat) : Cursor :=
  ⟨k.rest.drop n, k.index + n, k.line + 1, 0⟩

def takeBreak (k : Cursor) : List Char × Cursor :=
  match k.rest with
  | '\r' :: '\n' :: _ => (['\n'], k.nextLine 2)
  | c :: _ =>
    if c = '\u2028' || c = '\u2029' then ([c], k.nextLine 1)
    else if isBreak c then (['\n'], k.nextLine 1)
    else ([], k)
  | [] => ([], k)

def skipWhile (k : Cursor) (p : Char → Bool) : Cursor :=
  k.skip (k.rest.takeWhile p).length

def atMarker (k : Cursor) (c : Char) : Bool :=
  k.column = 0 && k.rest.take 3 = [c, c, c] && endsWord (k.rest.drop 3)

def atDocumentMarker (k : Cursor) : Bool :=
  k.atMarker '-' || k.atMarker '.'

end Cursor
end FacetBrowser.Yaml
