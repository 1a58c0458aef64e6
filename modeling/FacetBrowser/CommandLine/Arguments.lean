import FacetBrowser.Settings.Override

namespace FacetBrowser.CommandLine

inductive Format where
  | text
  | json
  deriving DecidableEq, Repr

inductive Command where
  | attributes
  | browse (fixture : Option String) (facets : List String) (expand : UInt64)
  deriving DecidableEq, Repr

structure Invocation where
  command : Command
  config : Option String
  format : Format
  deriving DecidableEq, Repr

inductive Instruction where
  | run (invocation : Invocation)
  | version
  | help
  | refused
  deriving DecidableEq, Repr

inductive Level where
  | top
  | attributes
  | browse
  deriving DecidableEq, Repr

inductive Flag where
  | config
  | format
  | quiet
  | version
  | help
  | fixture
  | facet
  | expand
  deriving DecidableEq, Repr

namespace Flag

def takesValue : Flag → Bool
  | .quiet => false
  | .version => false
  | .help => false
  | _ => true

def isKnownAt (level : Level) : Flag → Bool
  | .version => level = .top
  | .fixture => level = .browse
  | .facet => level = .browse
  | .expand => level = .browse
  | _ => true

def all : List (String × Option Char × Flag) :=
  [("config", some 'c', .config), ("format", some 'o', .format), ("quiet", some 'q', .quiet),
    ("version", some 'V', .version), ("help", some 'h', .help), ("fixture", none, .fixture),
    ("facet", some 'f', .facet), ("expand", some 'e', .expand)]

def ofLong? (level : Level) (name : String) : Option Flag :=
  ((all.find? (·.1 = name)).map (·.2.2)).filter (isKnownAt level)

def ofShort? (level : Level) (c : Char) : Option Flag :=
  ((all.find? (·.2.1 = some c)).map (·.2.2)).filter (isKnownAt level)

end Flag

structure Options where
  config : Option String
  format : Option Format
  quiet : Bool
  fixture : Option String
  facets : List String
  expand : Option UInt64
  deriving DecidableEq, Repr

def Options.none : Options :=
  ⟨.none, .none, false, .none, [], .none⟩

inductive Stop where
  | version
  | help
  | refused
  deriving DecidableEq, Repr

def once {α : Type} (known : Option α) (value : Option α) : Except Stop (Option α) :=
  if known.isSome || value.isNone then .error .refused else .ok value

def formatOf? (value : String) : Option Format :=
  if value = "text" then some .text
  else if value = "json" then some .json
  else none

def pathOf? (value : String) : Option String :=
  if value = "" then none else some value

def sizeOf? (value : String) : Option UInt64 :=
  (Text.readNumeral value).toOption

namespace Options

def setValue (o : Options) (flag : Flag) (value : String) : Except Stop Options := do
  match flag with
  | .config => .ok { o with config := ← once o.config (pathOf? value) }
  | .format => .ok { o with format := ← once o.format (formatOf? value) }
  | .fixture => .ok { o with fixture := ← once o.fixture (pathOf? value) }
  | .expand => .ok { o with expand := ← once o.expand (sizeOf? value) }
  | .facet => .ok { o with facets := o.facets ++ [value] }
  | _ => .error .refused

def setFlag (o : Options) : Flag → Except Stop Options
  | .quiet => if o.quiet then .error .refused else .ok { o with quiet := true }
  | .version => .error .version
  | .help => .error .help
  | _ => .error .refused

end Options

def readLong (level : Level) (o : Options) (word : List Char) :
    Except Stop (Options × Option Flag) :=
  let name := word.takeWhile (· ≠ '=')
  match Flag.ofLong? level (String.ofList name), word.dropWhile (· ≠ '=') with
  | none, _ => .error .refused
  | some flag, [] =>
    if flag.takesValue then .ok (o, some flag) else (o.setFlag flag).map (·, none)
  | some flag, _ :: value =>
    if flag.takesValue then (o.setValue flag (String.ofList value)).map (·, none)
    else .error .refused

def readShort (level : Level) (o : Options) : List Char → Except Stop (Options × Option Flag)
  | [] => .ok (o, none)
  | c :: cs =>
    match Flag.ofShort? level c with
    | none => .error .refused
    | some flag =>
      if flag.takesValue then
        match cs with
        | [] => .ok (o, some flag)
        | '=' :: value => (o.setValue flag (String.ofList value)).map (·, none)
        | value => (o.setValue flag (String.ofList value)).map (·, none)
      else
        match o.setFlag flag with
        | .ok o => readShort level o cs
        | .error stop => .error stop

inductive Word where
  | long (text : List Char)
  | short (text : List Char)
  | dashes
  | plain

def wordOf (word : String) : Word :=
  match word.toList with
  | ['-', '-'] => .dashes
  | '-' :: '-' :: cs => .long cs
  | ['-'] => .plain
  | '-' :: cs => .short cs
  | _ => .plain

def readOptions (level : Level) :
    Options → Option Flag → List String → Except Stop (Options × List String)
  | o, none, [] => .ok (o, [])
  | _, some _, [] => .error .refused
  | o, pending, word :: words =>
    match wordOf word, pending with
    | .plain, some flag =>
      match o.setValue flag word with
      | .ok o => readOptions level o none words
      | .error stop => .error stop
    | .plain, none => .ok (o, word :: words)
    | .long text, none =>
      match readLong level o text with
      | .ok (o, pending) => readOptions level o pending words
      | .error stop => .error stop
    | .short text, none =>
      match readShort level o text with
      | .ok (o, pending) => readOptions level o pending words
      | .error stop => .error stop
    | .dashes, none => if words.isEmpty then .ok (o, []) else .error .refused
    | _, some _ => .error .refused

def levelOf? (word : String) : Option Level :=
  if word = "attributes" then some .attributes
  else if word = "browse" then some .browse
  else none

def readHelp (words : List String) : Stop :=
  match words with
  | [] => .help
  | [word] => if word = "help" || (levelOf? word).isSome then .help else .refused
  | _ => .refused

def commandOf (o : Options) : Level → Command
  | .browse => .browse o.fixture o.facets (o.expand.getD 0)
  | _ => .attributes

def configOf (env : Environment) (outer inner : Options) : Except Stop (Option String) :=
  match outer.config, inner.config, env Settings.configKey with
  | some _, some path, _ => .ok (some path)
  | _, _, some "" => .error .refused
  | outer, inner, env => .ok ((inner.or outer).or env)

def readWords (env : Environment) (words : List String) : Except Stop Invocation := do
  let (outer, words) ← readOptions .top .none none words
  match words with
  | [] => .error .refused
  | word :: words =>
    if word = "help" then .error (readHelp words)
    else
      match levelOf? word with
      | none => .error .refused
      | some level =>
        let (inner, words) ← readOptions level .none none words
        if words.isEmpty then
          let config ← configOf env outer inner
          .ok ⟨commandOf inner level, config, (inner.format.or outer.format).getD .text⟩
        else .error .refused

def read (env : Environment) (words : List String) : Instruction :=
  match readWords env words with
  | .ok invocation => .run invocation
  | .error .version => .version
  | .error .help => .help
  | .error .refused => .refused

end FacetBrowser.CommandLine
