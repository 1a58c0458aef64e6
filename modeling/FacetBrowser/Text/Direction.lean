import FacetBrowser.Text.Mark

namespace FacetBrowser.Text

private def leftwardBounds : Array Nat := #[
    0x5BE, 0x5BF, 0x5C0, 0x5C1, 0x5C3, 0x5C4, 0x5C6, 0x5C7, 0x5D0, 0x606, 0x608, 0x609, 0x60B,
    0x60C, 0x60D, 0x60E, 0x61B, 0x64B, 0x66D, 0x670, 0x671, 0x6D6, 0x6E5, 0x6E7, 0x6EE, 0x6F0,
    0x6FA, 0x711, 0x712, 0x730, 0x74D, 0x7A6, 0x7B1, 0x7EB, 0x7F4, 0x7F6, 0x7FA, 0x7FD, 0x7FE,
    0x816, 0x81A, 0x81B, 0x824, 0x825, 0x828, 0x829, 0x830, 0x859, 0x85E, 0x897, 0x8A0, 0x8CA,
    0xFBB2, 0xFBC3, 0xFE73, 0xFFFD, 0x10800, 0x1091F, 0x10920, 0x10A01, 0x10A10, 0x10A38,
    0x10A40, 0x10AE5, 0x10AEB, 0x10B39, 0x10B40, 0x10D24, 0x10D4A, 0x10D69, 0x10D6F, 0x10E60,
    0x10E80, 0x10EAB, 0x10EAD, 0x10ED0, 0x10F00, 0x10F46, 0x10F51, 0x10F82, 0x10F86, 0x11000,
    0x1E800, 0x1E8D0, 0x1E922, 0x1E944, 0x1E94B, 0x1EEF0]

def leftward : CodeSet :=
  ⟨leftwardBounds⟩

private def leftwardDigitsBounds : Array Nat := #[
    0x660, 0x66A, 0x66B, 0x66D, 0x10D30, 0x10D4A, 0x10E60, 0x10E80]

def leftwardDigits : CodeSet :=
  ⟨leftwardDigitsBounds⟩

private def wideDigitsBounds : Array Nat := #[
    0x6F0, 0x6FA, 0x102E1, 0x10300]

def wideDigits : CodeSet :=
  ⟨wideDigitsBounds⟩

private def neutralSignsBounds : Array Nat := #[
    0xA1, 0xDF, 0xF7, 0xF8, 0x2B9, 0x2BB, 0x2C2, 0x2D0, 0x2D2, 0x2EE, 0x2EF, 0x300, 0x375,
    0x377, 0x3F6, 0x3F8, 0x58A, 0x591, 0x606, 0x608, 0x609, 0x60B, 0x60C, 0x60D, 0x60E, 0x610,
    0x66A, 0x66B, 0x6DE, 0x6DF, 0x6E9, 0x6EA, 0x7F6, 0x7FA, 0x9F2, 0x9F4, 0x9FB, 0x9FC, 0xAF1,
    0xAF9, 0xBF3, 0xC00, 0xC78, 0xC7F, 0xE3F, 0xE40, 0xF3A, 0xF3E, 0x1390, 0x13A0, 0x1400,
    0x1401, 0x169B, 0x16A0, 0x17DB, 0x17DC, 0x17F0, 0x1810, 0x1940, 0x1946, 0x19DE, 0x1A00,
    0x200C, 0x20D0, 0x2104, 0x214E, 0x218A, 0x2336, 0x237B, 0x2395, 0x2396, 0x26AC, 0x26AD,
    0x2800, 0x2900, 0x2C30, 0x2CE5, 0x2CEC, 0x2CF9, 0x2D00, 0x2E00, 0x3005, 0x3008, 0x3021,
    0x3030, 0x3031, 0x3037, 0x303B, 0x303D, 0x3041, 0x30A0, 0x30A1, 0x30FB, 0x30FC, 0x31C0,
    0x31F0, 0x4DC0, 0x4E00, 0xA490, 0xA4D0, 0xA60D, 0xA610, 0xA673, 0xA674, 0xA67E, 0xA681,
    0xA700, 0xA723, 0xA788, 0xA789, 0xA828, 0xA82C, 0xA838, 0xA840, 0xA874, 0xA880, 0xAB6A,
    0xABC0, 0xFBC3, 0xFE20, 0xFE45, 0xFE73, 0xFFFD, 0x10000, 0x10101, 0x10102, 0x10140, 0x1018D,
    0x10190, 0x101D0, 0x1091F, 0x10920, 0x10B39, 0x10B40, 0x10D6E, 0x10D6F, 0x10ED0, 0x10EFA,
    0x11052, 0x11066, 0x11660, 0x11680, 0x11FD5, 0x11FFF, 0x16FE2, 0x16FE3, 0x1CC00, 0x1CF00,
    0x1D1E9, 0x1D242, 0x1D245, 0x1D2C0, 0x1D300, 0x1D360, 0x1E2FF, 0x1E4D0, 0x1EEF0, 0x1F150,
    0x1F16D, 0x1F170, 0x1F1AD, 0x1F1E6, 0x1F260, 0x20000]

def neutralSigns : CodeSet :=
  ⟨neutralSignsBounds⟩

inductive Direction where
  | right
  | left
  | digit
  | leftDigit
  | sign
  | mark
  deriving DecidableEq, Repr

def isLetterMark (c : Char) : Bool :=
  "\u0CBF\u0CC6".toList.contains c || c.toNat = 0x11A07 || c.toNat = 0x11A08
    || c.toNat = 0x11C3F

def direction (c : Char) : Direction :=
  if c.toNat < 128 then
    if c.isAlpha then .right else if c.isDigit then .digit else .sign
  else if leftward.contains c then .left
  else if leftwardDigits.contains c then .leftDigit
  else if wideDigits.contains c then .digit
  else if neutralSigns.contains c then .sign
  else if nonspacing.contains c && !isLetterMark c then .mark
  else .right

def turnsLeft (c : Char) : Bool :=
  direction c = .left || direction c = .leftDigit

def goRight : List Direction → Bool
  | [] => true
  | last :: before =>
    (last = .right || last = .digit) && before.all fun d => d ≠ .left && d ≠ .leftDigit

def goLeft : List Direction → Bool
  | [] => true
  | last :: before =>
    (last = .left || last = .digit || last = .leftDigit) && before.all (· ≠ .right)
      && !((last :: before).contains .digit && (last :: before).contains .leftDigit)

def keepsDirection : List Char → Bool
  | [] => true
  | c :: cs =>
    let later := (cs.map direction).reverse.dropWhile (· = .mark)
    match direction c with
    | .right => goRight later
    | .left => goLeft later
    | _ => false

end FacetBrowser.Text
