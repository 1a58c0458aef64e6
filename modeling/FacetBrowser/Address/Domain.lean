import FacetBrowser.Address.Folding
import FacetBrowser.Address.Punycode
import FacetBrowser.Text.Direction
import FacetBrowser.Text.Joining
import FacetBrowser.Text.Normal
import FacetBrowser.Text.Printable

namespace FacetBrowser.Address.Domain

def isForbidden (c : Char) : Bool :=
  c.toNat ≤ 0x20 || c.toNat = 0x7F || "%#/:<>?@[\\]^|".toList.contains c

def unfit : CodeSet :=
  ⟨#[0xA0, 0xA1, 0xA8, 0xA9, 0xAF, 0xB0, 0xB4, 0xB5, 0xB8, 0xB9, 0x2D8, 0x2DE, 0x37A, 0x37B,
    0x384, 0x386, 0x1FBD, 0x1FBE, 0x1FBF, 0x1FC2, 0x1FCD, 0x1FD0, 0x1FDD, 0x1FE0, 0x1FED,
    0x1FEF, 0x1FFD, 0x1FFF, 0x2000, 0x200B, 0x2017, 0x2018, 0x2024, 0x2027, 0x202F, 0x2030,
    0x203E, 0x203F, 0x205F, 0x2060, 0x2488, 0x249C, 0x2FF0, 0x3001, 0x309B, 0x309D, 0x31EF,
    0x31F0, 0x33C2, 0x33C3, 0x33C7, 0x33C8, 0x33D8, 0x33D9, 0xFC5E, 0xFC64, 0xFDFA, 0xFDFC,
    0xFE12, 0xFE13, 0xFE19, 0xFE1A, 0xFE30, 0xFE31, 0xFE49, 0xFE4D, 0xFE52, 0xFE53, 0xFE70,
    0xFE71, 0xFE72, 0xFE73, 0xFE74, 0xFE75, 0xFE76, 0xFE77, 0xFE78, 0xFE79, 0xFE7A, 0xFE7B,
    0xFE7C, 0xFE7D, 0xFE7E, 0xFE7F, 0xFFE3, 0xFFE4, 0xFFFC, 0xFFFE, 0x1F100, 0x1F101]⟩

def laterLetters : CodeSet :=
  ⟨#[0x18E00, 0x191E0, 0x3D000, 0x3FC40]⟩

def mayStand (c : Char) : Bool :=
  if Punycode.isBasic c then !isForbidden c
  else c = Text.joiner || c = Text.nonJoiner || laterLetters.contains c
    || (Text.isPrintable c || Text.isMark c) && !unfit.contains c

def canonical (cs : List Char) : List Char :=
  Text.normalize (cs.flatMap Folding.fold)

def marker : List Char := "xn--".toList

def maxSize : Nat := 1000

def maxEncodedSize : Nat := 2000

def decoded? (cs : List Char) : Option (List Char) := do
  if maxEncodedSize < cs.length then none
  else
    let text ← Punycode.decode? cs
    if text.any (!Punycode.isBasic ·) && canonical text = text && Punycode.encode text = cs then
      some text
    else none

def labelText? (cs : List Char) : Option (List Char) :=
  if marker.isPrefixOf cs then decoded? (cs.drop marker.length) else some cs

def isLabel (text : List Char) : Bool :=
  text.all mayStand && !text.head?.any Text.isMark && Text.joinersMatter [] text

def encoded? (text : List Char) : Option (List Char) :=
  if text.all Punycode.isBasic then some text
  else if maxSize < text.length then none
  else some (marker ++ Punycode.encode text)

def keepDirections (labels : List (List Char)) : Bool :=
  !labels.any (·.any Text.turnsLeft) || labels.all Text.keepsDirection

def ofText? (cs : List Char) : Option (List Char) := do
  let labels ← (Text.split (· = '.') (canonical cs)).mapM labelText?
  if labels.all isLabel && keepDirections labels then
    some (Text.join '.' (← labels.mapM encoded?))
  else none

def ofBytes? (bytes : List UInt8) : Option (List Char) := do
  ofText? (← String.fromUTF8? bytes.toByteArray).toList

end FacetBrowser.Address.Domain
