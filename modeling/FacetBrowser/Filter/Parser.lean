import FacetBrowser.Filter.Clause
import FacetBrowser.Filter.Fault
import FacetBrowser.Text.Letter

namespace FacetBrowser.Filter

def isSpace (c : Char) : Bool :=
  c = ' ' || c = '\t' || c = '\r' || c = '\n'

def skipSpaces (cs : List Char) : List Char :=
  cs.dropWhile isSpace

def isNameStart (c : Char) : Bool :=
  c.isAlpha || c = '_'

def isNameChar (c : Char) : Bool :=
  c.isAlphanum || c = '_'

def name? : List Char → Option (String × List Char)
  | [] => none
  | c :: cs =>
    if isNameStart c then
      some (String.ofList (c :: cs.takeWhile isNameChar), cs.dropWhile isNameChar)
    else none

def dropWord? : List Char → List Char → Option (List Char)
  | [], cs => some cs
  | _ :: _, [] => none
  | w :: ws, c :: cs => if c.toLower = w then dropWord? ws cs else none

def upTo? (quote : Char) (cs : List Char) : Option (String × List Char) :=
  match cs.dropWhile (· ≠ quote) with
  | [] => none
  | _ :: rest => some (String.ofList (cs.takeWhile (· ≠ quote)), rest)

def quoted? : List Char → Option (String × List Char)
  | '\'' :: cs => upTo? '\'' cs
  | '"' :: cs => upTo? '"' cs
  | _ => none

def continuesWord : List Char → Bool
  | [] => false
  | c :: _ => Text.isAlphanumeric c || c = '_'

def readValue (name : String) (cs : List Char) : Except Fault (Clause × List Char) :=
  match quoted? cs with
  | some (value, rest) => .ok (.equals name value, rest)
  | none =>
    match dropWord? ['n', 'u', 'l', 'l'] cs with
    | none => .error (.noValue cs)
    | some rest =>
      if continuesWord rest then .error (.longerThanNull cs rest)
      else .ok (.absent name, rest)

def readClause (cs : List Char) : Except Fault (Clause × List Char) :=
  match name? cs with
  | none => .error (.noAttribute cs)
  | some (name, rest) =>
    match skipSpaces rest with
    | '=' :: rest => readValue name (skipSpaces rest)
    | rest => .error (.noEquals rest)

def conjunction? : List Char → Option (List Char)
  | [] => none
  | c :: cs =>
    if isSpace c then
      match dropWord? ['a', 'n', 'd'] (skipSpaces cs) with
      | some (d :: rest) => if isSpace d then some (skipSpaces rest) else none
      | _ => none
    else none

def readMore : Nat → List Char → Except Fault (List Clause × List Char)
  | 0, cs => .ok ([], cs)
  | fuel + 1, cs =>
    match conjunction? cs with
    | none => .ok ([], cs)
    | some next =>
      match readClause next with
      | .error fault => if fault.isFinal then .error fault else .ok ([], cs)
      | .ok (clause, rest) =>
        match readMore fuel rest with
        | .error fault => .error fault
        | .ok (clauses, rest) => .ok (clause :: clauses, rest)

def read (cs : List Char) : Except Fault Filter :=
  match skipSpaces cs with
  | [] => .ok []
  | c :: cs =>
    match readClause (c :: cs) with
    | .error fault => .error fault
    | .ok (clause, rest) =>
      match readMore rest.length rest with
      | .error fault => .error fault
      | .ok (clauses, rest) =>
        match skipSpaces rest with
        | [] => .ok (clause :: clauses)
        | rest => .error (.unread rest)

def parse (text : String) : Except Fault Filter :=
  read text.toList

end FacetBrowser.Filter
