import FacetBrowser.Settings.Override
import FacetBrowser.Text.Blank
import FacetBrowser.Text.Letter

namespace FacetBrowser.Dotenv

inductive Quoting where
  | bare
  | blank
  | escape
  | weak
  | weakEscape
  | strong
  | strongEscape
  deriving DecidableEq, Repr

namespace Quoting

def ofBare (c : Char) : Quoting :=
  if c = '\\' then .escape
  else if c = '"' then .weak
  else if c = '\'' then .strong
  else .bare

def step (q : Quoting) (c : Char) : Quoting :=
  match q with
  | .bare => if Text.isBlank c && c ≠ '\n' && c ≠ '\r' then .blank else ofBare c
  | .blank => ofBare c
  | .escape => .bare
  | .weak => if c = '\\' then .weakEscape else if c = '"' then .bare else .weak
  | .weakEscape => .weak
  | .strong => if c = '\\' then .strongEscape else if c = '\'' then .bare else .strong
  | .strongEscape => .strong

end Quoting

def scanLine (q : Quoting) (before : List Char) : List Char → Quoting × Option (List Char)
  | [] => (q, none)
  | c :: cs =>
    if q = .blank && c = '#' then (q, some before.reverse)
    else scanLine (q.step c) (c :: before) cs

def dropNewline (line : List Char) : List Char :=
  match line.reverse with
  | '\n' :: '\r' :: cs => cs.reverse
  | '\n' :: cs => cs.reverse
  | _ => line

def lines : Nat → Quoting → List Char → List Char → List (Option (List Char))
  | 0, _, _, _ => []
  | fuel + 1, q, before, text =>
    match text with
    | [] => if q = .bare then [] else [none]
    | _ =>
      let line := text.takeWhile (· ≠ '\n') ++ (text.dropWhile (· ≠ '\n')).take 1
      let rest := (text.dropWhile (· ≠ '\n')).drop 1
      let whole := before ++ line
      if (Text.trimStart whole).head? = some '#' then some [] :: lines fuel .bare [] rest
      else
        match scanLine q [] line with
        | (_, some cut) => some (before ++ cut) :: lines fuel .bare [] rest
        | (.bare, none) => some (dropNewline whole) :: lines fuel .bare [] rest
        | (q, none) => lines fuel q whole rest

inductive Substitution where
  | none
  | bare
  | braced
  deriving DecidableEq, Repr

structure ValueState where
  strong : Bool
  weak : Bool
  escaped : Bool
  ending : Bool
  substitution : Substitution
  name : List Char
  output : List Char

def ValueState.start : ValueState :=
  ⟨false, false, false, false, .none, [], []⟩

def valueBehind (env : Environment) (name : List Char) : Option (List Char) :=
  let value? (name : List Char) : Option (List Char) := (env (String.ofList name)).map (·.toList)
  match name.dropWhile (· ≠ '=') with
  | [] => value? name
  | _ :: more => do
    let value ← value? (name.takeWhile (· ≠ '='))
    if (more ++ ['=']).isPrefixOf value then some (value.drop (more.length + 1)) else none

def ValueState.substitute (env : Environment) (s : ValueState) : ValueState :=
  { s with
    substitution := .none
    name := []
    output := s.output ++ (valueBehind env s.name).getD [] }

def ValueState.push (s : ValueState) (c : Char) : ValueState :=
  { s with output := s.output ++ [c] }

def isEscapable (c : Char) : Bool :=
  c = '\\' || c = '\'' || c = '"' || c = '$' || c = ' '

def ValueState.step (env : Environment) (s : ValueState) (c : Char) : Option ValueState :=
  if s.escaped then
    if isEscapable c then some { s.push c with escaped := false }
    else if c = 'n' then some { s.push '\n' with escaped := false }
    else none
  else if s.strong then
    if c = '\'' then some { s with strong := false } else some (s.push c)
  else if s.substitution ≠ .none && Text.isAlphanumeric c then
    some { s with name := s.name ++ [c] }
  else if s.substitution = .bare then
    if c = '\x7b' && s.name.isEmpty then some { s with substitution := .braced }
    else if c = '$' then some { s.substitute env with substitution := .bare }
    else some ((s.substitute env).push c)
  else if s.substitution = .braced then
    if c = '\x7d' then some (s.substitute env) else some { s with name := s.name ++ [c] }
  else if c = '$' then some { s with substitution := .bare }
  else if s.weak then
    if c = '"' then some { s with weak := false }
    else if c = '\\' then some { s with escaped := true }
    else some (s.push c)
  else if c = '\'' then some { s with strong := true }
  else if c = '"' then some { s with weak := true }
  else if c = '\\' then some { s with escaped := true }
  else if c = ' ' || c = '\t' then some { s with ending := true }
  else some (s.push c)

def readValue (env : Environment) : ValueState → List Char → Option ValueState
  | s, [] => if s.substitution = .braced || s.strong || s.weak then none else s.substitute env
  | s, c :: cs =>
    if s.ending then
      if c = ' ' || c = '\t' then readValue env s cs
      else if c = '#' then readValue env s []
      else none
    else
      match s.step env c with
      | some s => readValue env s cs
      | none => none

def readKey : List Char → Option (List Char × List Char)
  | [] => none
  | c :: cs =>
    if c.isAlpha || c = '_' then
      let inKey (c : Char) : Bool := c.isAlphanum || c = '_' || c = '.'
      some (c :: cs.takeWhile inKey, Text.trimStart (cs.dropWhile inKey))
    else none

def afterEquals : List Char → Option (List Char)
  | '=' :: cs => some cs
  | _ => none

def readName (cs : List Char) : Option (List Char × List Char) := do
  let (key, rest) ← readKey cs
  match afterEquals rest with
  | some rest => some (key, rest)
  | none =>
    if key = "export".toList then
      let (key, rest) ← readKey rest
      some (key, ← afterEquals rest)
    else none

def isEmptyOrComment (cs : List Char) : Bool :=
  cs.isEmpty || cs.head? = some '#'

def readLine (env : Environment) (line : List Char) : Option (Option (String × String)) := do
  let cs := Text.trimStart (Text.trimEnd line)
  if isEmptyOrComment cs then some none
  else
    let (key, rest) ← readName cs
    let rest := Text.trimStart rest
    if isEmptyOrComment rest then some (some (String.ofList key, ""))
    else
      let value ← readValue env .start rest
      some (some (String.ofList key, String.ofList value.output))

def orElse (env : Environment) (set : List (String × String)) : Environment := fun key =>
  (env key).or (set.lookup key)

def assign (env : Environment) : List (String × String) → List (Option (List Char)) →
    List (String × String)
  | set, [] => set
  | set, none :: _ => set
  | set, some line :: rest =>
    match readLine (orElse env set) line with
    | none => set
    | some none => assign env set rest
    | some (some (key, value)) =>
      assign env (if (orElse env set key).isSome then set else set ++ [(key, value)]) rest

def extend (env : Environment) (text : String) : Environment :=
  let cs := match text.toList with
    | '\uFEFF' :: cs => cs
    | cs => cs
  orElse env (assign env [] (lines (cs.length + 1) .bare [] cs))

end FacetBrowser.Dotenv
