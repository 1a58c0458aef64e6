import FacetBrowser.Text.Numeral
import FacetBrowser.Yaml.Token

namespace FacetBrowser.Yaml

structure Spacing where
  gaps : List Char
  broken : Bool
  first : List Char
  others : List Char

namespace Spacing

def none : Spacing := ⟨[], false, [], []⟩

def fold (s : Spacing) : List Char :=
  if s.broken then
    if s.first = ['\n'] then (if s.others.isEmpty then [' '] else s.others)
    else s.first ++ s.others
  else s.gaps

def addBreak (s : Spacing) (chars : List Char) : Spacing :=
  if s.broken then { s with others := s.others ++ chars }
  else ⟨[], true, chars, []⟩

end Spacing

def plainSpacing (indent : Nat) : Nat → Spacing → Cursor → Option (Spacing × Cursor)
  | 0, s, k => some (s, k)
  | fuel + 1, s, k =>
    match k.rest with
    | [] => some (s, k)
    | c :: _ =>
      if isGap c then
        if s.broken && k.column < indent && c = '\t' then none
        else if s.broken then plainSpacing indent fuel s (k.skip 1)
        else plainSpacing indent fuel { s with gaps := s.gaps ++ [c] } (k.skip 1)
      else if isBreak c then
        let (chars, k) := k.takeBreak
        plainSpacing indent fuel (s.addBreak chars) k
      else some (s, k)

def isFlowMark (c : Char) : Bool :=
  c = ',' || c = '[' || c = ']' || c = '\x7b' || c = '\x7d'

def isFlowMarkOrQuestion : List Char → Bool
  | [] => false
  | c :: _ => isFlowMark c || c = '?'

def plainPiece (inFlow : Bool) : Nat → List Char → Cursor → Option (List Char × Cursor)
  | 0, text, k => some (text, k)
  | fuel + 1, text, k =>
    match k.rest with
    | [] => some (text, k)
    | c :: after =>
      if isGapOrBreak c then some (text, k)
      else if inFlow && c = ':' && isFlowMarkOrQuestion after then none
      else if c = ':' && endsWord after then some (text, k)
      else if inFlow && isFlowMark c then some (text, k)
      else plainPiece inFlow fuel (text ++ [c]) (k.skip 1)

def plainScalar (inFlow : Bool) (indent : Nat) :
    Nat → List Char → Spacing → Cursor → Option (List Char × Bool × Cursor)
  | 0, text, s, k => some (text, s.broken, k)
  | fuel + 1, text, s, k =>
    if k.atDocumentMarker || k.rest.head? = some '#' then some (text, s.broken, k)
    else do
      let (piece, k) ← plainPiece inFlow (k.rest.length + 1) [] k
      let (text, s) := if piece.isEmpty then (text, s) else (text ++ s.fold ++ piece, .none)
      match k.rest with
      | [] => some (text, s.broken, k)
      | c :: _ =>
        if isGapOrBreak c then
          let (s, k) ← plainSpacing indent (k.rest.length + 1) s k
          if !inFlow && k.column < indent then some (text, s.broken, k)
          else plainScalar inFlow indent fuel text s k
        else some (text, s.broken, k)

def hexEscape? (digits : Nat) (k : Cursor) : Option (Char × Cursor) := do
  let code := k.rest.take digits
  if code.length < digits then none
  else
    let n ← Text.numberIn? 16 code
    if n < 0xD800 || (0xE000 ≤ n && n ≤ 0x10FFFF) then some (Char.ofNat n, k.skip digits)
    else none

def escape? : Char → Option Char
  | '0' => some '\x00'
  | 'a' => some '\x07'
  | 'b' => some '\x08'
  | 't' => some '\t'
  | '\t' => some '\t'
  | 'n' => some '\n'
  | 'v' => some '\x0b'
  | 'f' => some '\x0c'
  | 'r' => some '\r'
  | 'e' => some '\x1b'
  | ' ' => some ' '
  | '"' => some '"'
  | '/' => some '/'
  | '\\' => some '\\'
  | 'N' => some '\u0085'
  | '_' => some '\u00A0'
  | 'L' => some '\u2028'
  | 'P' => some '\u2029'
  | _ => none

def escaped? (k : Cursor) : Option (Char × Cursor) :=
  match k.rest with
  | 'x' :: _ => hexEscape? 2 (k.skip 1)
  | 'u' :: _ => hexEscape? 4 (k.skip 1)
  | 'U' :: _ => hexEscape? 8 (k.skip 1)
  | c :: _ => (escape? c).map (·, k.skip 1)
  | [] => none

def quotedPiece (single : Bool) : Nat → List Char → Cursor → Option (List Char × Bool × Cursor)
  | 0, text, k => some (text, false, k)
  | fuel + 1, text, k =>
    match k.rest with
    | [] => some (text, false, k)
    | c :: after =>
      if isGapOrBreak c then some (text, false, k)
      else if single then
        if c = '\'' then
          if after.head? = some '\'' then quotedPiece single fuel (text ++ ['\'']) (k.skip 2)
          else some (text, false, k)
        else quotedPiece single fuel (text ++ [c]) (k.skip 1)
      else if c = '"' then some (text, false, k)
      else if c = '\\' then
        if !after.isEmpty && endsLine after then some (text, true, (k.skip 1).takeBreak.2)
        else do
          let (e, k) ← escaped? (k.skip 1)
          quotedPiece single fuel (text ++ [e]) k
      else quotedPiece single fuel (text ++ [c]) (k.skip 1)

def quotedSpacing : Nat → Spacing → Cursor → Spacing × Cursor
  | 0, s, k => (s, k)
  | fuel + 1, s, k =>
    match k.rest with
    | [] => (s, k)
    | c :: _ =>
      if isGap c then
        quotedSpacing fuel (if s.broken then s else { s with gaps := s.gaps ++ [c] }) (k.skip 1)
      else if isBreak c then
        let (chars, k) := k.takeBreak
        quotedSpacing fuel (s.addBreak chars) k
      else (s, k)

def quotedScalar (single : Bool) : Nat → List Char → Cursor → Option (List Char × Cursor)
  | 0, _, _ => none
  | fuel + 1, text, k =>
    if k.atDocumentMarker || k.rest.isEmpty then none
    else do
      let (text, escapedBreak, k) ← quotedPiece single (k.rest.length + 1) text k
      if k.rest.head? = some (if single then '\'' else '"') then
        some (text, k.skip 1)
      else
        let start : Spacing := ⟨[], escapedBreak, [], []⟩
        let (s, k) := quotedSpacing (k.rest.length + 1) start k
        quotedScalar single fuel (text ++ s.fold) k

inductive Chomping where
  | strip
  | clip
  | keep
  deriving DecidableEq

def chomping? : Char → Option Chomping
  | '+' => some .keep
  | '-' => some .strip
  | _ => none

def increment? (c : Char) : Option Nat :=
  if '1' ≤ c ∧ c ≤ '9' then some (c.toNat - '0'.toNat) else none

def blockHeader (k : Cursor) : Option (Chomping × Nat × Cursor) :=
  match k.rest with
  | c :: after =>
    match chomping? c, increment? c with
    | some chomping, _ =>
      match after.head?.bind increment? with
      | some n => some (chomping, n, k.skip 2)
      | none => if after.head? = some '0' then none else some (chomping, 0, k.skip 1)
    | none, some n =>
      match after.head?.bind chomping? with
      | some chomping => some (chomping, n, k.skip 2)
      | none => some (.clip, n, k.skip 1)
    | none, none => if c = '0' then none else some (.clip, 0, k)
  | [] => some (.clip, 0, k)

def restOfLine (k : Cursor) : Option Cursor :=
  let k := k.skipWhile isGap
  let k := if k.rest.head? = some '#' then k.skipWhile (!isBreak ·) else k
  if endsLine k.rest then some k.takeBreak.2 else none

def blockBreaks (indent : Nat) : Nat → Nat → List Char → Cursor → Option (List Char × Nat × Cursor)
  | 0, widest, breaks, k => some (breaks, widest, k)
  | fuel + 1, widest, breaks, k =>
    let margin := (k.rest.takeWhile (· = ' ')).length
    let k := k.skip (if indent = 0 then margin else min margin (indent - k.column))
    let widest := max widest k.column
    match k.rest with
    | [] => some (breaks, widest, k)
    | c :: _ =>
      if (indent = 0 || k.column < indent) && c = '\t' then none
      else if isBreak c then
        let (chars, k) := k.takeBreak
        blockBreaks indent fuel widest (breaks ++ chars) k
      else some (breaks, widest, k)

def blockLines (literal : Bool) (indent : Nat) :
    Nat → List Char → List Char → List Char → Bool → Cursor →
      Option (List Char × List Char × List Char × Cursor)
  | 0, text, leading, trailing, _, k => some (text, leading, trailing, k)
  | fuel + 1, text, leading, trailing, wasGap, k =>
    if k.column = indent && !k.rest.isEmpty then do
      let gap := (k.rest.head?.map isGap).getD false
      let joint :=
        if !literal && leading = ['\n'] && !wasGap && !gap then
          if trailing.isEmpty then [' '] else []
        else leading
      let line := k.rest.takeWhile (!isBreak ·)
      let (leading, k) := (k.skip line.length).takeBreak
      let (trailing', _, k) ← blockBreaks indent (k.rest.length + 1) 0 [] k
      blockLines literal indent fuel (text ++ joint ++ trailing ++ line) leading trailing' gap k
    else some (text, leading, trailing, k)

def blockScalar (literal : Bool) (outer : Int) (k : Cursor) : Option (List Char × Cursor) := do
  let (chomping, increment, k) ← blockHeader k
  let k ← restOfLine k
  let given := if increment = 0 then 0 else (max outer 0).toNat + increment
  let (breaks, widest, k) ← blockBreaks given (k.rest.length + 1) 0 [] k
  let indent := if given = 0 then max widest (max (outer + 1).toNat 1) else given
  let (text, leading, trailing, k) ←
    blockLines literal indent (k.rest.length + 1) [] [] breaks false k
  some (text ++ (if chomping = .strip then [] else leading)
    ++ (if chomping = .keep then trailing else []), k)

end FacetBrowser.Yaml
