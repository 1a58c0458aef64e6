import FacetBrowser.Json.Scan

namespace FacetBrowser.Json

def skipDigits (cs : List Char) : List Char :=
  cs.dropWhile Char.isDigit

def skipExponent (cs : List Char) : Except Fault (List Char) :=
  let cs := match cs with
    | '+' :: cs => cs
    | '-' :: cs => cs
    | cs => cs
  if startsWithDigit cs then .ok (skipDigits cs) else .error .invalidNumber

def skipFraction (cs : List Char) : Except Fault (List Char) :=
  if startsWithDigit cs then
    match skipDigits cs with
    | c :: rest => if isExponentMark c then skipExponent rest else .ok (c :: rest)
    | [] => .ok []
  else .error .invalidNumber

def skipAfterWhole : List Char → Except Fault (List Char)
  | '.' :: rest => skipFraction rest
  | c :: rest => if isExponentMark c then skipExponent rest else .ok (c :: rest)
  | [] => .ok []

def skipNumber : List Char → Except Fault (List Char)
  | [] => .error .invalidNumber
  | c :: rest =>
    if c = '0' then
      if startsWithDigit rest then .error .invalidNumber else skipAfterWhole rest
    else if c.isDigit then skipAfterWhole (skipDigits rest)
    else .error .invalidNumber

def skipStringBody : List Char → List Char → Except Fault (List Char)
  | [], _ => .error .endInString
  | _, [] => .error .endInString
  | _ :: fuel, c :: cs =>
    if c = '"' then .ok cs
    else if c = '\\' then
      match cs with
      | [] => .error .endInString
      | 'u' :: cs => do
        let (_, cs) ← scanHex cs
        skipStringBody fuel cs
      | e :: cs =>
        if (simpleEscape? e).isSome then skipStringBody fuel cs else .error .invalidEscape
    else if c.toNat < 32 then .error .controlCharacter
    else skipStringBody fuel cs

def skipString (cs : List Char) : Except Fault (List Char) :=
  skipStringBody cs cs

inductive Enclosing where
  | list
  | object
  deriving DecidableEq, Repr

def skipKey (cs : List Char) : Except Fault (List Char) :=
  match skipBlanks cs with
  | [] => .error .endInObject
  | '"' :: cs => do
    match skipBlanks (← skipString cs) with
    | [] => .error .endInObject
    | ':' :: cs => .ok cs
    | _ => .error .colonExpected
  | _ => .error .keyNotString

def beforeItem : Enclosing → List Char → Except Fault (List Char)
  | .list, cs => .ok cs
  | .object, cs => skipKey cs

def skipAfter : List Enclosing → List Char → Except Fault (Option (List Enclosing) × List Char)
  | [], cs => .ok (none, cs)
  | .list :: outer, cs =>
    match skipBlanks cs with
    | [] => .error .endInList
    | ',' :: cs => do .ok (some (.list :: outer), cs)
    | ']' :: cs => skipAfter outer cs
    | _ => .error .listCommaExpected
  | .object :: outer, cs =>
    match skipBlanks cs with
    | [] => .error .endInObject
    | ',' :: cs => do .ok (some (.object :: outer), ← skipKey cs)
    | '\x7d' :: cs => skipAfter outer cs
    | _ => .error .objectCommaExpected

def skipOpened (inner : Enclosing) (outer : List Enclosing) (cs : List Char) :
    Except Fault (Option (List Enclosing) × List Char) :=
  match inner, skipBlanks cs with
  | .list, [] => .error .endInList
  | .list, ']' :: cs => skipAfter outer cs
  | .object, [] => .error .endInObject
  | .object, '\x7d' :: cs => skipAfter outer cs
  | inner, cs => do .ok (some (inner :: outer), ← beforeItem inner cs)

def skipWithin : List Char → List Enclosing → List Char → Except Fault (List Char)
  | [], _, _ => .error .endInValue
  | _ :: fuel, outer, cs => do
    let (still, cs) ←
      match skipBlanks cs with
      | [] => .error .endInValue
      | 'n' :: cs => do skipAfter outer (← scanWord ['u', 'l', 'l'] cs)
      | 't' :: cs => do skipAfter outer (← scanWord ['r', 'u', 'e'] cs)
      | 'f' :: cs => do skipAfter outer (← scanWord ['a', 'l', 's', 'e'] cs)
      | '"' :: cs => do skipAfter outer (← skipString cs)
      | '-' :: cs => do skipAfter outer (← skipNumber cs)
      | '[' :: cs => skipOpened .list outer cs
      | '\x7b' :: cs => skipOpened .object outer cs
      | c :: cs =>
        if c.isDigit then do skipAfter outer (← skipNumber (c :: cs)) else .error .valueExpected
    match still with
    | some opened => skipWithin fuel opened cs
    | none => .ok cs

def skipValue (cs : List Char) : Except Fault (List Char) :=
  skipWithin cs [] cs

end FacetBrowser.Json
