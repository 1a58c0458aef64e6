namespace FacetBrowser.Address.Punycode

def isBasic (c : Char) : Bool :=
  c.toNat < 128

def digit (d : Nat) : Char :=
  if d < 26 then Char.ofNat (d + 'a'.toNat) else Char.ofNat (d - 26 + '0'.toNat)

def digit? (c : Char) : Option Nat :=
  if 'a' ≤ c ∧ c ≤ 'z' then some (c.toNat - 'a'.toNat)
  else if '0' ≤ c ∧ c ≤ '9' then some (c.toNat - '0'.toNat + 26)
  else none

def threshold (place bias : Nat) : Nat :=
  max 1 (min 26 (place - bias))

theorem threshold_pos (place bias : Nat) : 0 < threshold place bias := by
  simp only [threshold]; omega

def digits (bias place distance : Nat) : List Char :=
  let t := threshold place bias
  if distance < t then [digit distance]
  else
    digit (t + (distance - t) % (36 - t))
      :: digits bias (place + 36) ((distance - t) / (36 - t))
termination_by distance
decreasing_by
  have := threshold_pos place bias
  have h := Nat.div_le_self (distance - threshold place bias) (36 - threshold place bias)
  omega

def biasOf (place distance : Nat) : Nat :=
  if 455 < distance then biasOf (place + 36) (distance / 35)
  else place + 36 * distance / (distance + 38)
termination_by distance
decreasing_by exact Nat.div_lt_self (by omega) (by omega)

def adapt (distance size : Nat) (first : Bool) : Nat :=
  let distance := if first then distance / 700 else distance / 2
  biasOf 0 (distance + distance / size)

def firstCode : Nat := 128

def firstBias : Nat := 72

structure Writer where
  distance : Nat
  bias : Nat
  size : Nat
  output : List Char

def Writer.pass (basic m : Nat) (w : Writer) (c : Char) : Writer :=
  if c.toNat < m then { w with distance := w.distance + 1 }
  else if c.toNat = m then
    { distance := 0
      bias := adapt w.distance (w.size + 1) (w.size == basic)
      size := w.size + 1
      output := w.output ++ digits w.bias 36 w.distance }
  else w

def Writer.writeCodes (basic : Nat) (cs : List Char) : Nat → List Nat → Writer → Writer
  | _, [], w => w
  | n, m :: ms, w =>
    let w := { w with distance := w.distance + (m - n) * (w.size + 1) }
    let w := cs.foldl (Writer.pass basic m) w
    writeCodes basic cs (m + 1) ms { w with distance := w.distance + 1 }

def encode (cs : List Char) : List Char :=
  let basic := cs.filter isBasic
  let codes := ((cs.filter (!isBasic ·)).map Char.toNat).mergeSort.eraseDups
  let start : Writer := ⟨0, firstBias, basic.length, []⟩
  let w := Writer.writeCodes basic.length cs firstCode codes start
  basic ++ (if basic.isEmpty then [] else ['-']) ++ w.output

def readDistance (bias : Nat) : Nat → Nat → Nat → List Char → Option (Nat × List Char)
  | _, _, _, [] => none
  | place, weight, total, c :: cs => do
    let d ← digit? c
    let t := threshold place bias
    if d < t then some (total + d * weight, cs)
    else readDistance bias (place + 36) (weight * (36 - t)) (total + d * weight) cs

def charOf? (n : Nat) : Option Char :=
  if n < 0xD800 || (0xE000 ≤ n && n ≤ 0x10FFFF) then some (Char.ofNat n) else none

def insertAll : Nat → Nat → Nat → Nat → List Char → List Char → Option (List Char)
  | 0, _, _, _, text, cs => if cs.isEmpty then some text else none
  | fuel + 1, code, position, bias, text, cs =>
    if cs.isEmpty then some text
    else do
      let (total, cs) ← readDistance bias 36 1 position cs
      let size := text.length + 1
      let code := code + total / size
      let place := total % size
      let c ← charOf? code
      insertAll fuel code (place + 1) (adapt (total - position) size (position == 0))
        (text.insertIdx place c) cs

def decode? (cs : List Char) : Option (List Char) :=
  let basic := (cs.reverse.dropWhile (· ≠ '-')).drop 1 |>.reverse
  let rest := (cs.reverse.takeWhile (· ≠ '-')).reverse
  if basic.all isBasic then insertAll cs.length firstCode 0 firstBias basic rest else none

end FacetBrowser.Address.Punycode
