import FacetBrowser.Address.Domain
import FacetBrowser.Address.Fault
import FacetBrowser.Text.Percent

namespace FacetBrowser.Address

inductive Host where
  | name (text : String)
  | ipv4 (value : Nat)
  | ipv6 (pieces : List Nat)
  deriving DecidableEq, Repr

namespace Ipv4

def number? : List Char → Option Nat
  | ['0', 'x'] => some 0
  | '0' :: 'x' :: cs => Text.numberIn? 16 cs
  | '0' :: c :: cs => Text.numberIn? 8 (c :: cs)
  | cs => Text.numberIn? 10 cs

def parts (cs : List Char) : List (List Char) :=
  let parts := Text.split (· = '.') cs
  if parts.getLast? = some [] then parts.dropLast else parts

def isNumeric (cs : List Char) : Bool :=
  !cs.isEmpty && cs.all Char.isDigit || (number? cs).isSome

def endsInNumber (cs : List Char) : Bool :=
  match (parts cs).getLast? with
  | some part => isNumeric part
  | none => false

def value? (numbers : List Nat) : Option Nat :=
  let leading := numbers.dropLast
  match numbers.getLast? with
  | some last =>
    if 4 < numbers.length || leading.any (255 < ·) then none
    else
      let room := Nat.pow 256 (4 - leading.length)
      if last < room then
        some (leading.foldl (fun value byte => value * 256 + byte) 0 * room + last)
      else none
  | none => none

def ofText? (cs : List Char) : Option Nat := do
  value? (← (parts cs).mapM number?)

def text (value : Nat) : String :=
  let byte (place : Nat) : String := toString (value / Nat.pow 256 place % 256)
  ".".intercalate [byte 3, byte 2, byte 1, byte 0]

end Ipv4

namespace Ipv6

def piece? (cs : List Char) : Option Nat :=
  if cs.length ≤ 4 then Text.numberIn? 16 cs else none

def byte? (cs : List Char) : Option Nat :=
  if cs.head? = some '0' && 1 < cs.length then none
  else (Text.numberIn? 10 cs).filter (· ≤ 255)

def lastPieces? (cs : List Char) : Option (List Nat) :=
  if cs.contains '.' then
    match (Text.split (· = '.') cs).mapM byte? with
    | some [a, b, c, d] => some [a * 256 + b, c * 256 + d]
    | _ => none
  else (piece? cs).map ([·])

def pieces? : List (List Char) → Option (List Nat)
  | [] => some []
  | [part] => lastPieces? part
  | part :: parts => do some ((← piece? part) :: (← pieces? parts))

def halves (parts : List (List Char)) : List (List Char) × Option (List (List Char)) :=
  let tail (parts : List (List Char)) : List (List Char) := if parts = [[]] then [] else parts
  match parts with
  | [] :: [] :: part :: parts => ([], some (tail (part :: parts)))
  | [] :: parts => ([] :: parts, none)
  | parts =>
    match parts.dropWhile (· ≠ []) with
    | [] :: part :: rest => (parts.takeWhile (· ≠ []), some (tail (part :: rest)))
    | _ => (parts, none)

def ofText? (cs : List Char) : Option (List Nat) := do
  match halves (Text.split (· = ':') cs) with
  | (parts, none) =>
    let pieces ← pieces? parts
    if pieces.length = 8 then some pieces else none
  | (before, some after) =>
    let before ← before.mapM piece?
    let after ← pieces? after
    let size := before.length + after.length
    if size < 8 then some (before ++ List.replicate (8 - size) 0 ++ after) else none

def longestGap (place : Nat) : List Nat → Nat × Nat
  | [] => (place, 0)
  | piece :: pieces =>
    let here := ((piece :: pieces).takeWhile (· = 0)).length
    let later := longestGap (place + 1) pieces
    if later.2 ≤ here then (place, here) else later

def join (pieces : List Nat) : String :=
  ":".intercalate (pieces.map fun n => String.ofList (Nat.toDigits 16 n))

def text (pieces : List Nat) : String :=
  let (place, size) := longestGap 0 pieces
  if size < 2 then join pieces
  else join (pieces.take place) ++ "::" ++ join (pieces.drop (place + size))

end Ipv6

namespace Host

def text : Host → String
  | .name text => text
  | .ipv4 value => Ipv4.text value
  | .ipv6 pieces => "[" ++ Ipv6.text pieces ++ "]"

def bracketed? : List Char → Option (List Char)
  | '[' :: cs => if cs.getLast? = some ']' then some cs.dropLast else none
  | _ => none

def readIpv6 (cs : List Char) : Except AddressFault Host :=
  match (bracketed? cs).bind Ipv6.ofText? with
  | some pieces => .ok (.ipv6 pieces)
  | none => .error .ipv6

def ofDomain (cs : List Char) : Except AddressFault Host :=
  if cs.head? = some '[' then readIpv6 cs
  else
    match Domain.ofBytes? (Text.Percent.decode cs) with
    | none => .error .domain
    | some [] => .error .emptyHost
    | some domain =>
      if Ipv4.endsInNumber domain then
        match Ipv4.ofText? domain with
        | some value => .ok (.ipv4 value)
        | none => .error .ipv4
      else .ok (.name (String.ofList domain))

def isBound (c : Char) : Bool :=
  c = '\x00' || "\t\n\r #/:<>?@[\\]^|".toList.contains c

def isPlain (c : Char) : Bool :=
  0x20 ≤ c.toNat && c.toNat < 0x7F

def ofOpaque (cs : List Char) : Except AddressFault Host :=
  if cs.head? = some '[' then readIpv6 cs
  else if cs.any isBound then .error .hostCharacter
  else .ok (.name (String.ofList (Text.Percent.encode isPlain cs)))

end Host
end FacetBrowser.Address
