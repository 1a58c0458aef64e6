import FacetBrowser.Address.Basic

namespace FacetBrowser.Address

def isWebScheme (scheme : String) : Bool :=
  scheme = "http" || scheme = "https"

def isSpecial (scheme : String) : Bool :=
  isWebScheme scheme || ["ws", "wss", "ftp", "file"].contains scheme

def defaultPort? (scheme : String) : Option Nat :=
  if scheme = "http" || scheme = "ws" then some 80
  else if scheme = "https" || scheme = "wss" then some 443
  else if scheme = "ftp" then some 21
  else none

def isSlash (special : Bool) (c : Char) : Bool :=
  c = '/' || special && c = '\\'

def endsPath (c : Char) : Bool :=
  c = '?' || c = '#'

def endsAuthority (special : Bool) (c : Char) : Bool :=
  isSlash special c || endsPath c

def isPlainBut (others : String) (c : Char) : Bool :=
  0x20 < c.toNat && c.toNat < 0x7F && !others.toList.contains c

def inFragment : Char → Bool := isPlainBut "\"<>\x60"

def inPath : Char → Bool := isPlainBut "\"<>\x60#?\x7b\x7d"

def inCredentials : Char → Bool := isPlainBut "\"<>\x60#?\x7b\x7d/:;=@[\\]^|"

def inQuery (special : Bool) : Char → Bool := isPlainBut (if special then "\"#<>'" else "\"#<>")

def encoded (keeps : Char → Bool) (cs : List Char) : String :=
  String.ofList (Text.Percent.encode keeps cs)

def isBreak (c : Char) : Bool :=
  c = '\t' || c = '\n' || c = '\r'

def withoutBreaks (cs : List Char) : List Char :=
  cs.filter (!isBreak ·)

def trim (cs : List Char) : List Char :=
  let isOuter (c : Char) : Bool := c.toNat ≤ 0x20
  ((cs.dropWhile isOuter).reverse.dropWhile isOuter).reverse

def readScheme (cs : List Char) : Option (String × List Char) :=
  let inScheme (c : Char) : Bool := c.isAlphanum || c = '+' || c = '-' || c = '.'
  match cs.head?.any Char.isAlpha, cs.dropWhile inScheme with
  | true, ':' :: rest => some (String.ofList ((cs.takeWhile inScheme).map Char.toLower), rest)
  | _, _ => none

def splitCredentials (cs : List Char) : Option (List Char) × List Char :=
  match cs.reverse.dropWhile (· ≠ '@') with
  | _ :: before => (some before.reverse, (cs.reverse.takeWhile (· ≠ '@')).reverse)
  | [] => (none, cs)

def readCredentials (cs : List Char) : String × Option String :=
  let password := (cs.dropWhile (· ≠ ':')).drop 1
  (encoded inCredentials (cs.takeWhile (· ≠ ':')),
    if password.isEmpty then none else some (encoded inCredentials password))

def splitHost (inBrackets : Bool) : List Char → List Char × List Char
  | [] => ([], [])
  | c :: cs =>
    if c = ':' && !inBrackets then ([], c :: cs)
    else
      let inBrackets := if c = '[' then true else if c = ']' then false else inBrackets
      let (host, rest) := splitHost inBrackets cs
      (c :: host, rest)

def readHost (special : Bool) (cs : List Char) : Except AddressFault (Option Host) :=
  if cs.isEmpty then
    if special then .error .emptyHost else .ok none
  else (if special then Host.ofDomain cs else Host.ofOpaque cs).map some

def readPort (scheme : String) : List Char → Except AddressFault (Option Nat × List Char)
  | ':' :: cs =>
    let digits := cs.takeWhile Char.isDigit
    let port := Nat.ofDigitChars 10 digits 0
    match cs.dropWhile Char.isDigit with
    | c :: rest =>
      if c = '\\' && port < 65536 then .ok (kept digits port, c :: rest) else .error .port
    | [] => if port < 65536 then .ok (kept digits port, []) else .error .port
  | cs => .ok (none, cs)
where
  kept (digits : List Char) (port : Nat) : Option Nat :=
    if digits.isEmpty || defaultPort? scheme = some port then none else some port

def readAuthority (scheme : String) (cs : List Char) :
    Except AddressFault (Authority × List Char) := do
  let special := isSpecial scheme
  let rest := cs.dropWhile (!endsAuthority special ·)
  let (credentials, place) := splitCredentials (cs.takeWhile (!endsAuthority special ·))
  if credentials = some [] && place.isEmpty && !rest.isEmpty then .error .emptyHost
  else
    let (user, password) := readCredentials (credentials.getD [])
    let (hostText, portText) := splitHost false place
    let host ← readHost special hostText
    if host.isNone && !portText.isEmpty then .error .emptyHost
    else
      let (port, after) ← readPort scheme portText
      let authority : Authority := ⟨user, password, host, port⟩
      if host.isNone && !authority.isAnonymous then .error .emptyHost
      else .ok (authority, after ++ rest)

def isDot (segment : String) : Bool :=
  segment = "." || segment.toList.map Char.toLower = "%2e".toList

def isDoubleDot (segment : String) : Bool :=
  [".." , "%2e.", ".%2e", "%2e%2e"].contains (String.ofList (segment.toList.map Char.toLower))

def isDrive : List Char → Bool
  | [letter, mark] => letter.isAlpha && (mark = ':' || mark = '|')
  | _ => false

structure Trail where
  passed : List String
  onDrive : Bool

namespace Trail

def start : Trail := ⟨[], false⟩

def back (t : Trail) : Trail :=
  if t.passed.head?.any (isDrive ·.toList) then t else { t with passed := t.passed.drop 1 }

def enter (ofFile : Bool) (t : Trail) (segment : String) : Trail :=
  if ofFile && t.passed.isEmpty && isDrive segment.toList then
    ⟨[String.ofList (segment.toList.take 1 ++ [':'])], true⟩
  else { t with passed := segment :: t.passed }

def enterBroken (ofFile : Bool) (t : Trail) (cs : List Char) : Trail × List Char :=
  match t.passed, cs.dropWhile isBreak with
  | [], letter :: rest =>
    match rest.dropWhile isBreak with
    | ':' :: c :: rest =>
      if ofFile && letter.isAlpha && isBreak c && !rest.all isBreak then
        ({ t with passed := [String.ofList [letter, ':']] }, rest)
      else (t, cs)
    | _ => (t, cs)
  | _, _ => (t, cs)

def walk (ofFile : Bool) (t : Trail) : List (List Char) → Trail
  | [] => t
  | cs :: later =>
    let (t, cs) := t.enterBroken ofFile cs
    let segment := encoded inPath (withoutBreaks cs)
    let isLast := later.isEmpty
    let t :=
      if isDoubleDot segment then if isLast then t.back.enter ofFile "" else t.back
      else if isDot segment then if isLast then t.enter ofFile "" else t
      else t.enter ofFile segment
    walk ofFile t later

def segments (t : Trail) : List String :=
  t.passed.reverse

end Trail

def rooted (segments : List String) : String :=
  "/" ++ "/".intercalate segments

def readSegments (special : Bool) (cs : List Char) : String :=
  rooted ((Trail.start.walk false (Text.split (isSlash special) cs)).segments)

def readPath (special : Bool) (cs : List Char) : String :=
  match cs with
  | [] => if special then "/" else ""
  | c :: rest => readSegments special (if isSlash special c then rest else c :: rest)

def readFileTrail (cs : List Char) : Trail :=
  Trail.start.walk true (Text.split (isSlash true) cs)

def Trail.filePath (t : Trail) : String :=
  rooted (t.segments.dropWhile (·.isEmpty))

def readRest (special : Bool) (scheme : String) (authority : Option Authority) (path : String)
    (cs : List Char) : Address :=
  let fragment := match cs.dropWhile (· ≠ '#') with
    | _ :: cs => some (encoded inFragment cs)
    | [] => none
  let query := match cs.takeWhile (· ≠ '#') with
    | _ :: cs => some (encoded (inQuery special) cs)
    | [] => none
  ⟨scheme, authority, path, query, fragment⟩

def readHierarchy (scheme : String) (cs : List Char) : Except AddressFault Address := do
  let (authority, cs) ← readAuthority scheme cs
  let path := readPath (isSpecial scheme) (cs.takeWhile (!endsPath ·))
  .ok (readRest (isSpecial scheme) scheme (some authority) path (cs.dropWhile (!endsPath ·)))

def readFileHost (cs : List Char) : Except AddressFault (Option Host × List Char) :=
  let name := cs.takeWhile (!endsAuthority true ·)
  if name.isEmpty || isDrive name then .ok (none, cs)
  else do
    let host ← Host.ofDomain name
    let rest := cs.dropWhile (!endsAuthority true ·)
    if host = .name "localhost" then .ok (none, rest) else .ok (some host, afterSlash rest)
where
  afterSlash : List Char → List Char
    | c :: cs => if isSlash true c then cs else c :: cs
    | [] => []

def readFilePlace : List Char → Except AddressFault (Option Host × List Char)
  | c :: d :: rest =>
    if isSlash true c && isSlash true d then readFileHost rest
    else .ok (none, if isSlash true c then d :: rest else c :: d :: rest)
  | [c] => .ok (none, if isSlash true c then [] else [c])
  | [] => .ok (none, [])

def dropUnbroken : Nat → List Char → List Char
  | 0, cs => cs
  | _, [] => []
  | n + 1, c :: cs => if isBreak c then dropUnbroken (n + 1) cs else dropUnbroken n cs

def readFile (cs : List Char) : Except AddressFault Address := do
  let unbroken := withoutBreaks cs
  let (host, rest) ← readFilePlace unbroken
  let path := (dropUnbroken (unbroken.length - rest.length) cs).takeWhile (!endsPath ·)
  let trail := readFileTrail path
  let host := if trail.onDrive then none else host
  .ok (readRest true "file" (some (.ofHost host)) trail.filePath (rest.dropWhile (!endsPath ·)))

def readOther (scheme : String) (cs : List Char) : Address :=
  let text := cs.takeWhile (!endsPath ·)
  let path := match text with
    | '/' :: text => readSegments false text
    | text => encoded Host.isPlain text
  readRest false scheme none path (cs.dropWhile (!endsPath ·))

def ofText (text : String) : Except AddressFault Address :=
  let cs := trim text.toList
  match readScheme (withoutBreaks cs) with
  | none => .error .noScheme
  | some (scheme, rest) =>
    if scheme = "file" then readFile ((cs.dropWhile (· ≠ ':')).drop 1)
    else if isSpecial scheme then readHierarchy scheme (rest.dropWhile (isSlash true))
    else
      match rest with
      | '/' :: '/' :: rest => readHierarchy scheme rest
      | rest => .ok (readOther scheme rest)

end FacetBrowser.Address
