import FacetBrowser.Text.Percent
import FacetBrowser.Yaml.Scalar

namespace FacetBrowser.Yaml

structure KeyStart where
  required : Bool
  token : Nat
  index : Nat
  line : Nat
  column : Nat

structure Scanner where
  cursor : Cursor
  tokens : List Token
  keys : List (Option KeyStart)
  keyAllowed : Bool
  indents : List Int

namespace Scanner

def new (text : List Char) : Scanner :=
  ⟨⟨text, 0, 0, 0⟩, [], [none], true, []⟩

def inFlow (s : Scanner) : Bool :=
  1 < s.keys.length

def indent (s : Scanner) : Int :=
  s.indents.headD (-1)

def push (s : Scanner) (token : Token) : Scanner :=
  { s with tokens := s.tokens ++ [token] }

def skip (s : Scanner) (n : Nat) : Scanner :=
  { s with cursor := s.cursor.skip n }

def dropKey (s : Scanner) : Option Scanner :=
  match s.keys with
  | some key :: keys => if key.required then none else some { s with keys := none :: keys }
  | _ => some s

def saveKey (s : Scanner) : Option Scanner :=
  if s.keyAllowed then do
    let s ← s.dropKey
    let k := s.cursor
    let required := !s.inFlow && s.indent = k.column
    some { s with keys := some ⟨required, s.tokens.length, k.index, k.line, k.column⟩
      :: s.keys.drop 1 }
  else some s

def isStale (k : Cursor) (key : KeyStart) : Bool :=
  key.line < k.line || key.index + 1024 < k.index

def dropStaleKeys (s : Scanner) : Option Scanner :=
  if s.keys.any fun key => key.any fun key => isStale s.cursor key && key.required then none
  else some { s with keys := s.keys.map fun key => key.filter fun key => !isStale s.cursor key }

def openBlock (s : Scanner) (column place : Nat) (token : Token) : Scanner :=
  if !s.inFlow && s.indent < column then
    { s with indents := (column : Int) :: s.indents, tokens := s.tokens.insertIdx place token }
  else s

def closeBlocks (s : Scanner) (column : Int) : Scanner :=
  if s.inFlow then s
  else
    let closed := s.indents.takeWhile (column < ·)
    { s with
      indents := s.indents.dropWhile (column < ·)
      tokens := s.tokens ++ closed.map fun _ => .blockEnd }

def skipSpaceBefore : Nat → Scanner → Scanner
  | 0, s => s
  | fuel + 1, s =>
    let k := s.cursor
    let k := if k.column = 0 && k.rest.head? = some '\uFEFF' then k.skip 1 else k
    let tabs := s.inFlow || !s.keyAllowed
    let k := k.skipWhile fun c => c = ' ' || (tabs && c = '\t')
    let k := if k.rest.head? = some '#' then k.skipWhile (!isBreak ·) else k
    match k.rest with
    | c :: _ =>
      if isBreak c then
        skipSpaceBefore fuel
          { s with cursor := k.takeBreak.2, keyAllowed := s.keyAllowed || !s.inFlow }
      else { s with cursor := k }
    | [] => { s with cursor := k }

def fetchDocumentMarker (s : Scanner) (token : Token) : Option Scanner := do
  let s ← (s.closeBlocks (-1)).dropKey
  some ({ s with keyAllowed := false }.skip 3 |>.push token)

def fetchFlowStart (s : Scanner) (token : Token) : Option Scanner := do
  let s ← s.saveKey
  some ({ s with keys := none :: s.keys, keyAllowed := true }.skip 1 |>.push token)

def fetchFlowEnd (s : Scanner) (token : Token) : Option Scanner := do
  let s ← s.dropKey
  let keys := if s.inFlow then s.keys.drop 1 else s.keys
  some ({ s with keys := keys, keyAllowed := false }.skip 1 |>.push token)

def fetchFlowEntry (s : Scanner) : Option Scanner := do
  let s ← s.dropKey
  some ({ s with keyAllowed := true }.skip 1 |>.push .flowEntry)

def fetchBlockEntry (s : Scanner) : Option Scanner := do
  if !s.inFlow && !s.keyAllowed then none
  else
    let s ← (s.openBlock s.cursor.column s.tokens.length .blockSequenceStart).dropKey
    some ({ s with keyAllowed := true }.skip 1 |>.push .blockEntry)

def fetchKey (s : Scanner) : Option Scanner := do
  if !s.inFlow && !s.keyAllowed then none
  else
    let s ← (s.openBlock s.cursor.column s.tokens.length .blockMappingStart).dropKey
    some ({ s with keyAllowed := !s.inFlow }.skip 1 |>.push .key)

def fetchValue (s : Scanner) : Option Scanner :=
  match s.keys with
  | some key :: keys =>
    let s := { s with tokens := s.tokens.insertIdx key.token .key, keys := none :: keys }
    let s := s.openBlock key.column key.token .blockMappingStart
    some ({ s with keyAllowed := false }.skip 1 |>.push .value)
  | _ =>
    if !s.inFlow && !s.keyAllowed then none
    else
      let s := s.openBlock s.cursor.column s.tokens.length .blockMappingStart
      some ({ s with keyAllowed := !s.inFlow }.skip 1 |>.push .value)

def endsName : List Char → Bool
  | [] => true
  | c :: _ => isGapOrBreak c || "?:,]\x7d%@`".toList.contains c

def fetchName (s : Scanner) (token : String → Token) : Option Scanner := do
  let s ← s.saveKey
  let name := (s.cursor.rest.drop 1).takeWhile isWord
  let after := (s.cursor.rest.drop 1).dropWhile isWord
  if name.isEmpty || !endsName after then none
  else
    some ({ s with keyAllowed := false }.skip (name.length + 1) |>.push
      (token (String.ofList name)))

def isUriChar (c : Char) : Bool :=
  isWord c || ";/?:@&=+$.!~*'()".toList.contains c

def byteWidth? (first : UInt8) : Option Nat :=
  if first < 0x80 then some 1
  else if first < 0xC0 then none
  else if first < 0xE0 then some 2
  else if first < 0xF0 then some 3
  else if first < 0xF8 then some 4
  else none

def laterBytes? : Nat → List Char → Option (Tag × List Char)
  | 0, cs => some ([], cs)
  | n + 1, cs => do
    let (byte, cs) ← Text.Percent.byte? cs
    if byte < 0x80 || 0xC0 ≤ byte then none
    else
      let (bytes, cs) ← laterBytes? n cs
      some (byte :: bytes, cs)

def escapedBytes? (cs : List Char) : Option (Tag × List Char) := do
  let (first, cs) ← Text.Percent.byte? cs
  let (bytes, cs) ← laterBytes? ((← byteWidth? first) - 1) cs
  some (first :: bytes, cs)

def uriBytes (verbatim : Bool) : Nat → List Char → Option (Tag × List Char)
  | 0, cs => some ([], cs)
  | fuel + 1, cs =>
    match cs with
    | '%' :: _ => do
      let (bytes, cs) ← escapedBytes? cs
      let (more, rest) ← uriBytes verbatim fuel cs
      some (bytes ++ more, rest)
    | c :: cs =>
      if isUriChar c || (verbatim && (c = ',' || c = '[' || c = ']')) then do
        let (more, rest) ← uriBytes verbatim fuel cs
        some (c.toUInt8 :: more, rest)
      else some ([], c :: cs)
    | [] => some ([], [])

def tagPart (verbatim : Bool) (cs : List Char) : Option (Tag × Bool × List Char) := do
  let (bytes, rest) ← uriBytes verbatim (cs.length + 1) cs
  some (bytes.takeWhile (· ≠ 0), bytes.isEmpty, rest)

def tagHandle? (cs : List Char) : Option (List Char) :=
  match cs.dropWhile isWord with
  | '!' :: _ => some ('!' :: cs.takeWhile isWord ++ ['!'])
  | _ => none

def scanTag (cs : List Char) : Option (String × Tag × List Char) :=
  match cs with
  | '<' :: cs => do
    let (tag, isEmpty, rest) ← tagPart true cs
    match rest with
    | '>' :: rest => if isEmpty then none else some ("", tag, rest)
    | _ => none
  | cs =>
    match tagHandle? cs with
    | some handle => do
      let (tag, isEmpty, rest) ← tagPart false (cs.drop (handle.length - 1))
      if isEmpty then none else some (String.ofList handle, tag, rest)
    | none => do
      let (tag, _, rest) ← tagPart false cs
      if tag.isEmpty then some ("", "!".toUTF8.toList, rest) else some ("!", tag, rest)

def fetchTag (s : Scanner) : Option Scanner := do
  let s ← s.saveKey
  let (handle, suffix, rest) ← scanTag (s.cursor.rest.drop 1)
  if endsWord rest || (s.inFlow && rest.head? = some ',') then
    some ({ s with keyAllowed := false }.skip (s.cursor.rest.length - rest.length) |>.push
      (.tag handle suffix))
  else none

def readVersion (cs : List Char) : Option (Token × List Char) :=
  let major := cs.takeWhile Char.isDigit
  match cs.dropWhile Char.isDigit with
  | '.' :: cs =>
    let minor := cs.takeWhile Char.isDigit
    if major.isEmpty || minor.isEmpty || 9 < major.length || 9 < minor.length then none
    else some (.versionDirective (Nat.ofDigitChars 10 major 0) (Nat.ofDigitChars 10 minor 0),
      cs.dropWhile Char.isDigit)
  | _ => none

def readTagDirective (cs : List Char) : Option (Token × List Char) :=
  match cs with
  | '!' :: cs => do
    let (handle, cs) ← match tagHandle? cs with
      | some handle => some (handle, cs.drop (handle.length - 1))
      | none => if (cs.takeWhile isWord).isEmpty then some (['!'], cs) else none
    if cs.isEmpty || !endsWord cs then none
    else
      let (start, isEmpty, rest) ← tagPart true (cs.dropWhile isGap)
      if isEmpty || !endsWord rest then none
      else some (.tagDirective (String.ofList handle) start, rest)
  | _ => none

def fetchDirective (s : Scanner) : Option Scanner := do
  let s ← (s.closeBlocks (-1)).dropKey
  let cs := s.cursor.rest.drop 1
  let name := String.ofList (cs.takeWhile isWord)
  let after := cs.dropWhile isWord
  if !endsWord after then none
  else
    let (token, rest) ←
      if name = "YAML" then readVersion (after.dropWhile isGap)
      else if name = "TAG" then readTagDirective (after.dropWhile isGap)
      else none
    let s := { s with keyAllowed := false }.skip (s.cursor.rest.length - rest.length)
    let cursor ← restOfLine s.cursor
    some ({ s with cursor := cursor }.push token)

def fetchBlockScalar (s : Scanner) (style : Style) : Option Scanner := do
  let s ← s.dropKey
  let (text, k) ← blockScalar (style = .literal) s.indent (s.cursor.skip 1)
  some ({ s with cursor := k, keyAllowed := true }.push (.scalar style (String.ofList text)))

def fetchQuotedScalar (s : Scanner) (style : Style) : Option Scanner := do
  let s ← s.saveKey
  let k := s.cursor.skip 1
  let (text, k) ← quotedScalar (style = .singleQuoted) (k.rest.length + 1) [] k
  some ({ s with cursor := k, keyAllowed := false }.push (.scalar style (String.ofList text)))

def fetchPlainScalar (s : Scanner) : Option Scanner := do
  let s ← s.saveKey
  let (text, broken, k) ← plainScalar s.inFlow (s.indent + 1).toNat
    (s.cursor.rest.length + 1) [] .none s.cursor
  some ({ s with cursor := k, keyAllowed := broken }.push (.scalar .plain (String.ofList text)))

def isMark (c : Char) : Bool :=
  "-?:,[]\x7b\x7d#&*!|>'\"%@`".toList.contains c

def beginsPlain (s : Scanner) (c : Char) (after : List Char) : Bool :=
  !(isGapOrBreak c || isMark c)
    || (c = '-' && !(after.head?.any isGap))
    || (!s.inFlow && (c = '?' || c = ':') && !endsWord after)

def fetchAt (s : Scanner) (c : Char) (after : List Char) : Option Scanner :=
  let k := s.cursor
  let entry := s.inFlow || endsWord after
  if k.column = 0 && c = '%' then s.fetchDirective
  else if k.atMarker '-' then s.fetchDocumentMarker .documentStart
  else if k.atMarker '.' then s.fetchDocumentMarker .documentEnd
  else if c = '[' then s.fetchFlowStart .flowSequenceStart
  else if c = '\x7b' then s.fetchFlowStart .flowMappingStart
  else if c = ']' then s.fetchFlowEnd .flowSequenceEnd
  else if c = '\x7d' then s.fetchFlowEnd .flowMappingEnd
  else if c = ',' then s.fetchFlowEntry
  else if c = '-' && endsWord after then s.fetchBlockEntry
  else if c = '?' && entry then s.fetchKey
  else if c = ':' && entry then s.fetchValue
  else if c = '*' then s.fetchName .alias
  else if c = '&' then s.fetchName .anchor
  else if c = '!' then s.fetchTag
  else if c = '|' && !s.inFlow then s.fetchBlockScalar .literal
  else if c = '>' && !s.inFlow then s.fetchBlockScalar .folded
  else if c = '\'' then s.fetchQuotedScalar .singleQuoted
  else if c = '"' then s.fetchQuotedScalar .doubleQuoted
  else if s.beginsPlain c after then s.fetchPlainScalar
  else none

def fetchEnd (s : Scanner) : Option Scanner :=
  (s.closeBlocks (-1)).dropKey

def fetchAll : Nat → Scanner → Option Scanner
  | 0, _ => none
  | fuel + 1, s => do
    let s ← (skipSpaceBefore (s.cursor.rest.length + 1) s).dropStaleKeys
    let s := s.closeBlocks s.cursor.column
    match s.cursor.rest with
    | [] => s.fetchEnd
    | c :: after => fetchAll fuel (← s.fetchAt c after)

end Scanner

def isAllowed (c : Char) : Bool :=
  let n := c.toNat
  n = 9 || n = 10 || n = 13 || (0x20 ≤ n && n ≤ 0x7E) || n = 0x85 || (0xA0 ≤ n && n ≤ 0xD7FF)
    || (0xE000 ≤ n && n ≤ 0xFFFD) || 0x10000 ≤ n

def tokens? (text : List Char) : Option (List Token) :=
  if text.all isAllowed then
    ((Scanner.new text).fetchAll (text.length + 1)).map (·.tokens)
  else none

end FacetBrowser.Yaml
