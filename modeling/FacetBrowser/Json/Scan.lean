import FacetBrowser.Json.Fault
import FacetBrowser.Text.Bytes
import FacetBrowser.Text.Numeral

namespace FacetBrowser.Json

open Decimal (Binary)

def isBlank (c : Char) : Bool :=
  c = ' ' || c = '\n' || c = '\t' || c = '\r'

def skipBlanks (cs : List Char) : List Char :=
  cs.dropWhile isBlank

def scanWord : List Char → List Char → Except Fault (List Char)
  | [], cs => .ok cs
  | _ :: _, [] => .error .endInValue
  | w :: ws, c :: cs => if w = c then scanWord ws cs else .error .wordExpected

def scanHex (cs : List Char) : Except Fault (Nat × List Char) :=
  if Text.byteCount (cs.take 4) < 4 then .error .endInString
  else
    match cs with
    | a :: b :: c :: d :: rest =>
      match Text.numberIn? 16 [a, b, c, d] with
      | some n => .ok (n, rest)
      | none => .error .invalidEscape
    | _ => .error .invalidEscape

def isLeading (n : Nat) : Bool := 0xD800 ≤ n && n ≤ 0xDBFF

def isTrailing (n : Nat) : Bool := 0xDC00 ≤ n && n ≤ 0xDFFF

def scanTrailing (leading : Nat) (cs : List Char) : Except Fault (Char × List Char) :=
  match cs with
  | [] => .error .endInString
  | ['\\'] => .error .endInString
  | '\\' :: 'u' :: cs => do
    let (trailing, rest) ← scanHex cs
    if isTrailing trailing then
      .ok (Char.ofNat ((leading - 0xD800) * 0x400 + (trailing - 0xDC00) + 0x10000), rest)
    else .error .loneSurrogate
  | _ => .error .hexEscapeCut

def scanUnicode (cs : List Char) : Except Fault (Char × List Char) := do
  let (n, rest) ← scanHex cs
  if isTrailing n then .error .loneSurrogate
  else if isLeading n then scanTrailing n rest
  else .ok (Char.ofNat n, rest)

def simpleEscape? : Char → Option Char
  | '"' => some '"'
  | '\\' => some '\\'
  | '/' => some '/'
  | 'b' => some '\x08'
  | 'f' => some '\x0c'
  | 'n' => some '\n'
  | 'r' => some '\r'
  | 't' => some '\t'
  | _ => none

def scanEscape : List Char → Except Fault (Char × List Char)
  | [] => .error .endInString
  | 'u' :: cs => scanUnicode cs
  | c :: cs =>
    match simpleEscape? c with
    | some e => .ok (e, cs)
    | none => .error .invalidEscape

def scanStringBody : List Char → List Char → Except Fault (List Char × List Char)
  | [], _ => .error .endInString
  | _, [] => .error .endInString
  | _ :: fuel, c :: cs =>
    if c = '"' then .ok ([], cs)
    else if c = '\\' then do
      let (e, cs) ← scanEscape cs
      let (body, rest) ← scanStringBody fuel cs
      .ok (e :: body, rest)
    else if c.toNat < 32 then .error .controlCharacter
    else do
      let (body, rest) ← scanStringBody fuel cs
      .ok (c :: body, rest)

def scanString (cs : List Char) : Except Fault (String × List Char) := do
  let (body, rest) ← scanStringBody cs cs
  .ok (String.ofList body, rest)

def digitOf (c : Char) : Nat := c.toNat - '0'.toNat

def startsWithDigit : List Char → Bool
  | c :: _ => c.isDigit
  | [] => false

def takeDigits (value : Nat) : List Char → Nat × Nat × List Char
  | [] => (value, 0, [])
  | c :: cs =>
    if c.isDigit && value * 10 + digitOf c < UInt64.size then
      let (last, taken, rest) := takeDigits (value * 10 + digitOf c) cs
      (last, taken + 1, rest)
    else (value, 0, c :: cs)

def floatNumber (negative : Bool) (significand : Nat) (exponent : Int) (rest : List Char) :
    Except Fault (Number × List Char) :=
  match Binary.ofScientific significand exponent with
  | some size => .ok (.float negative size, rest)
  | none => .error .numberOutOfRange

def isExponentMark (c : Char) : Bool := c = 'e' || c = 'E'

def scanExponent (negative : Bool) (significand : Nat) (exponent : Int) (cs : List Char) :
    Except Fault (Number × List Char) :=
  let (down, cs) : Bool × List Char :=
    match cs with
    | '+' :: cs => (false, cs)
    | '-' :: cs => (true, cs)
    | cs => (false, cs)
  match cs with
  | [] => .error .endInValue
  | c :: rest =>
    if c.isDigit then
      let size : Int := Nat.ofDigitChars 10 (cs.takeWhile Char.isDigit) 0
      floatNumber negative significand (if down then exponent - size else exponent + size)
        (rest.dropWhile Char.isDigit)
    else .error .invalidNumber

def scanExponentOrEnd (negative : Bool) (significand : Nat) (exponent : Int) (cs : List Char) :
    Except Fault (Number × List Char) :=
  match cs with
  | c :: rest =>
    if isExponentMark c then scanExponent negative significand exponent rest
    else floatNumber negative significand exponent cs
  | [] => floatNumber negative significand exponent []

def scanFraction (negative : Bool) (significand : Nat) (exponent : Int) (cs : List Char) :
    Except Fault (Number × List Char) :=
  let (significand, taken, rest) := takeDigits significand cs
  if startsWithDigit rest then
    scanExponentOrEnd negative significand (exponent - taken) (rest.dropWhile Char.isDigit)
  else if taken = 0 then
    if rest.isEmpty then .error .endInValue else .error .invalidNumber
  else scanExponentOrEnd negative significand (exponent - taken) rest

def wholeNumber (negative : Bool) (significand : Nat) (rest : List Char) :
    Except Fault (Number × List Char) :=
  if !negative then .ok (.integer significand, rest)
  else if significand = 0 || UInt64.size < 2 * significand then floatNumber true significand 0 rest
  else .ok (.integer (-significand), rest)

def scanAfterWhole (negative : Bool) (significand : Nat) (cs : List Char) :
    Except Fault (Number × List Char) :=
  match cs with
  | '.' :: rest => scanFraction negative significand 0 rest
  | c :: rest =>
    if isExponentMark c then scanExponent negative significand 0 rest
    else wholeNumber negative significand cs
  | [] => wholeNumber negative significand []

def scanAfterLong (negative : Bool) (significand dropped : Nat) (cs : List Char) :
    Except Fault (Number × List Char) :=
  match cs with
  | '.' :: rest => scanFraction negative significand dropped rest
  | cs => scanExponentOrEnd negative significand dropped cs

def scanNumber (negative : Bool) (cs : List Char) : Except Fault (Number × List Char) :=
  match cs with
  | [] => .error .endInValue
  | c :: rest =>
    if c = '0' then
      if startsWithDigit rest then .error .invalidNumber else scanAfterWhole negative 0 rest
    else if c.isDigit then
      let (significand, _, rest) := takeDigits 0 cs
      if startsWithDigit rest then
        scanAfterLong negative significand (rest.takeWhile Char.isDigit).length
          (rest.dropWhile Char.isDigit)
      else scanAfterWhole negative significand rest
    else .error .invalidNumber

end FacetBrowser.Json
