/-
# Domain names outside ASCII

A name is compared without case, and a label with characters outside ASCII is written in a form
that has none: the prefix `xn--`, the ASCII characters of the label, and behind a hyphen the
others, coded as the places where they stand and how far they are apart (Punycode).

The code is a row of differences in a number system with digits of varying weight.  Each
difference says how many places to pass before the next insertion, counting through all
places for one code point before going on to the next code point.

The standard for such names has tables of all characters.  Here are the characters that are written
as one other; nothing is composed, and no rule says which characters may stand together.
-/
import Playtest.Text.Blank
import Playtest.Text.Search

namespace Playtest
namespace Url

/-! ## 1. Punycode -/

namespace Punycode

def base : Nat := 36
def tMin : Nat := 1
def tMax : Nat := 26
def skew : Nat := 38
def damp : Nat := 700
def initialBias : Nat := 72
def initialN : Nat := 128

/-- Halves a difference until it is small, counting the halvings. -/
def scaleDown (fuel delta k : Nat) : Nat × Nat :=
  match fuel with
  | 0 => (delta, k)
  | fuel + 1 =>
    if (base - tMin) * tMax / 2 < delta then scaleDown fuel (delta / (base - tMin)) (k + base)
    else (delta, k)

/-- The bias for the next difference. -/
def adapt (delta points : Nat) (isFirst : Bool) : Nat :=
  let delta := if isFirst then delta / damp else delta / 2
  let (delta, k) := scaleDown delta (delta + delta / points) 0
  k + (base - tMin + 1) * delta / (delta + skew)

/-- The threshold of the digit at this weight. -/
def threshold (bias k : Nat) : Nat :=
  if k ≤ bias then tMin else if bias + tMax ≤ k then tMax else k - bias

/-- The letter or digit of a value. -/
def digit (n : Nat) : Char := if n < 26 then Char.ofNat (97 + n) else Char.ofNat (22 + n)

/-- The value of a letter or digit. -/
def digitValue? (c : Char) : Option Nat :=
  if 'a' ≤ c ∧ c ≤ 'z' then some (c.toNat - 97)
  else if 'A' ≤ c ∧ c ≤ 'Z' then some (c.toNat - 65)
  else if '0' ≤ c ∧ c ≤ '9' then some (c.toNat - 22)
  else none

/-- The digits of one difference. -/
def encodeDelta (fuel bias q k : Nat) : List Char :=
  let t := threshold bias k
  match fuel with
  | 0 => [digit q]
  | fuel + 1 =>
    if q < t then [digit q]
    else
      digit (t + (q - t) % (base - t)) :: encodeDelta fuel bias ((q - t) / (base - t)) (k + base)

/-- What changes while a label is encoded. -/
structure Encoding where
  delta : Nat
  bias : Nat
  handled : Nat
  output : List Char

/-- Passes one character of the label while the code point `n` is inserted. -/
def encodeStep (basic n : Nat) (e : Encoding) (c : Char) : Encoding :=
  if c.toNat < n then { e with delta := e.delta + 1 }
  else if c.toNat = n then
    { delta := 0
      bias := adapt e.delta (e.handled + 1) (e.handled == basic)
      handled := e.handled + 1
      output := e.output ++ encodeDelta e.delta e.bias e.delta base }
  else e

/-- Inserts the code points of the label from `n` on, the least first. -/
def encodeFrom (s : List Char) (basic fuel n : Nat) (e : Encoding) : List Char :=
  match fuel with
  | 0 => e.output
  | fuel + 1 =>
    match (s.map Char.toNat).filter (n ≤ ·) |>.min? with
    | none => e.output
    | some m =>
      let e := { e with delta := e.delta + (m - n) * (e.handled + 1) }
      let e := s.foldl (encodeStep basic m) e
      encodeFrom s basic fuel (m + 1) { e with delta := e.delta + 1 }

/-- The code of a label, without its prefix. -/
def encode (s : List Char) : List Char :=
  let ascii := s.filter fun c => c.toNat < 128
  let start := if ascii = [] then [] else ascii ++ ['-']
  start ++ encodeFrom s ascii.length s.length initialN ⟨0, initialBias, ascii.length, []⟩

/-- Reads one difference: its value, and what follows it. -/
def decodeDelta (bias i w k : Nat) : List Char → Option (Nat × List Char)
  | [] => none
  | c :: rest => do
    let d ← digitValue? c
    let i := i + d * w
    if Nat.pow 2 32 ≤ i then none
    else
      let t := threshold bias k
      if d < t then some (i, rest) else decodeDelta bias i (w * (base - t)) (k + base) rest

/-- Inserts the coded characters into what is read so far. -/
def decodeFrom (fuel : Nat) (output : List Char) (n i bias : Nat) (s : List Char) :
    Option (List Char) :=
  match fuel, s with
  | _, [] => some output
  | 0, _ => none
  | fuel + 1, s => do
    let (j, rest) ← decodeDelta bias i 1 base s
    let points := output.length + 1
    let bias := adapt (j - i) points (i == 0)
    let n := n + j / points
    if 0x10FFFF < n ∨ (0xD800 ≤ n ∧ n ≤ 0xDFFF) then none
    else
      let place := j % points
      let output := output.take place ++ Char.ofNat n :: output.drop place
      decodeFrom fuel output n (place + 1) bias rest

/-- The label that a code stands for. -/
def decode? (s : List Char) : Option (List Char) :=
  let tail := (s.reverse.takeWhile (· ≠ '-')).reverse
  let head := s.take (s.length - tail.length - 1)
  let tail := if s.contains '-' then tail else s
  decodeFrom tail.length head initialN 0 initialBias tail

end Punycode

/-! ## 2. Case -/

/-- Rows of characters that are written as others: the first, the last, the step, and what the
first one is written as. -/
def foldRows : List (Nat × Nat × Nat × Nat) := [
  (0x41, 0x5A, 1, 0x61), (0xC0, 0xD6, 1, 0xE0), (0xD8, 0xDE, 1, 0xF8), (0x100, 0x12E, 2, 0x101),
  (0x134, 0x136, 2, 0x135), (0x139, 0x13D, 2, 0x13A), (0x141, 0x147, 2, 0x142),
  (0x14A, 0x176, 2, 0x14B), (0x178, 0x178, 1, 0xFF), (0x179, 0x17D, 2, 0x17A),
  (0x181, 0x181, 1, 0x253), (0x182, 0x184, 2, 0x183), (0x186, 0x186, 1, 0x254),
  (0x187, 0x187, 1, 0x188), (0x189, 0x18A, 1, 0x256), (0x18B, 0x18B, 1, 0x18C),
  (0x18E, 0x18E, 1, 0x1DD), (0x18F, 0x18F, 1, 0x259), (0x190, 0x190, 1, 0x25B),
  (0x191, 0x191, 1, 0x192), (0x193, 0x193, 1, 0x260), (0x194, 0x194, 1, 0x263),
  (0x196, 0x196, 1, 0x269), (0x197, 0x197, 1, 0x268), (0x198, 0x198, 1, 0x199),
  (0x19C, 0x19C, 1, 0x26F), (0x19D, 0x19D, 1, 0x272), (0x19F, 0x19F, 1, 0x275),
  (0x1A0, 0x1A4, 2, 0x1A1), (0x1A6, 0x1A6, 1, 0x280), (0x1A7, 0x1A7, 1, 0x1A8),
  (0x1A9, 0x1A9, 1, 0x283), (0x1AC, 0x1AC, 1, 0x1AD), (0x1AE, 0x1AE, 1, 0x288),
  (0x1AF, 0x1AF, 1, 0x1B0), (0x1B1, 0x1B2, 1, 0x28A), (0x1B3, 0x1B5, 2, 0x1B4),
  (0x1B7, 0x1B7, 1, 0x292), (0x1B8, 0x1B8, 1, 0x1B9), (0x1BC, 0x1BC, 1, 0x1BD),
  (0x1CD, 0x1DB, 2, 0x1CE), (0x1DE, 0x1EE, 2, 0x1DF), (0x1F4, 0x1F4, 1, 0x1F5),
  (0x1F6, 0x1F6, 1, 0x195), (0x1F7, 0x1F7, 1, 0x1BF), (0x1F8, 0x21E, 2, 0x1F9),
  (0x220, 0x220, 1, 0x19E), (0x222, 0x232, 2, 0x223), (0x23A, 0x23A, 1, 0x2C65),
  (0x23B, 0x23B, 1, 0x23C), (0x23D, 0x23D, 1, 0x19A), (0x23E, 0x23E, 1, 0x2C66),
  (0x241, 0x241, 1, 0x242), (0x243, 0x243, 1, 0x180), (0x244, 0x244, 1, 0x289),
  (0x245, 0x245, 1, 0x28C), (0x246, 0x24E, 2, 0x247), (0x370, 0x372, 2, 0x371),
  (0x376, 0x376, 1, 0x377), (0x37F, 0x37F, 1, 0x3F3), (0x386, 0x386, 1, 0x3AC),
  (0x388, 0x38A, 1, 0x3AD), (0x38C, 0x38C, 1, 0x3CC), (0x38E, 0x38F, 1, 0x3CD),
  (0x391, 0x3A1, 1, 0x3B1), (0x3A3, 0x3AB, 1, 0x3C3), (0x3CF, 0x3CF, 1, 0x3D7),
  (0x3D8, 0x3EE, 2, 0x3D9), (0x3F4, 0x3F4, 1, 0x3B8), (0x3F7, 0x3F7, 1, 0x3F8),
  (0x3FA, 0x3FA, 1, 0x3FB), (0x3FD, 0x3FF, 1, 0x37B), (0x400, 0x40F, 1, 0x450),
  (0x410, 0x42F, 1, 0x430), (0x460, 0x480, 2, 0x461), (0x48A, 0x4BE, 2, 0x48B),
  (0x4C0, 0x4C0, 1, 0x4CF), (0x4C1, 0x4CD, 2, 0x4C2), (0x4D0, 0x52E, 2, 0x4D1),
  (0x531, 0x556, 1, 0x561), (0x10A0, 0x10C5, 1, 0x2D00), (0x10C7, 0x10C7, 1, 0x2D27),
  (0x10CD, 0x10CD, 1, 0x2D2D), (0x1C90, 0x1CBA, 1, 0x10D0), (0x1CBD, 0x1CBF, 1, 0x10FD),
  (0x1E00, 0x1E94, 2, 0x1E01), (0x1E9E, 0x1E9E, 1, 0xDF), (0x1EA0, 0x1EFE, 2, 0x1EA1),
  (0x1F08, 0x1F0F, 1, 0x1F00), (0x1F18, 0x1F1D, 1, 0x1F10), (0x1F28, 0x1F2F, 1, 0x1F20),
  (0x1F38, 0x1F3F, 1, 0x1F30), (0x1F48, 0x1F4D, 1, 0x1F40), (0x1F59, 0x1F5F, 2, 0x1F51),
  (0x1F68, 0x1F6F, 1, 0x1F60), (0x1FB8, 0x1FB9, 1, 0x1FB0), (0x1FBA, 0x1FBA, 1, 0x1F70),
  (0x1FC8, 0x1FCA, 2, 0x1F72), (0x1FD8, 0x1FD9, 1, 0x1FD0), (0x1FDA, 0x1FDA, 1, 0x1F76),
  (0x1FE8, 0x1FE9, 1, 0x1FE0), (0x1FEA, 0x1FEA, 1, 0x1F7A), (0x1FEC, 0x1FEC, 1, 0x1FE5),
  (0x1FF8, 0x1FF8, 1, 0x1F78), (0x1FFA, 0x1FFA, 1, 0x1F7C), (0x2126, 0x2126, 1, 0x3C9),
  (0x212A, 0x212A, 1, 0x6B), (0x212B, 0x212B, 1, 0xE5), (0x2132, 0x2132, 1, 0x214E),
  (0x2183, 0x2183, 1, 0x2184), (0x2C00, 0x2C2F, 1, 0x2C30), (0x2C60, 0x2C60, 1, 0x2C61),
  (0x2C62, 0x2C62, 1, 0x26B), (0x2C63, 0x2C63, 1, 0x1D7D), (0x2C64, 0x2C64, 1, 0x27D),
  (0x2C67, 0x2C6B, 2, 0x2C68), (0x2C6D, 0x2C6D, 1, 0x251), (0x2C6E, 0x2C6E, 1, 0x271),
  (0x2C6F, 0x2C6F, 1, 0x250), (0x2C70, 0x2C70, 1, 0x252), (0x2C72, 0x2C72, 1, 0x2C73),
  (0x2C75, 0x2C75, 1, 0x2C76), (0x2C7E, 0x2C7F, 1, 0x23F), (0x2C80, 0x2CE2, 2, 0x2C81),
  (0x2CEB, 0x2CED, 2, 0x2CEC), (0x2CF2, 0x2CF2, 1, 0x2CF3), (0x3002, 0x3002, 1, 0x2E),
  (0xA640, 0xA66C, 2, 0xA641), (0xA680, 0xA69A, 2, 0xA681), (0xA722, 0xA72E, 2, 0xA723),
  (0xA732, 0xA76E, 2, 0xA733), (0xA779, 0xA77B, 2, 0xA77A), (0xA77D, 0xA77D, 1, 0x1D79),
  (0xA77E, 0xA786, 2, 0xA77F), (0xA78B, 0xA78B, 1, 0xA78C), (0xA78D, 0xA78D, 1, 0x265),
  (0xA790, 0xA792, 2, 0xA791), (0xA796, 0xA7A8, 2, 0xA797), (0xA7AA, 0xA7AA, 1, 0x266),
  (0xA7AB, 0xA7AB, 1, 0x25C), (0xA7AC, 0xA7AC, 1, 0x261), (0xA7AD, 0xA7AD, 1, 0x26C),
  (0xA7AE, 0xA7AE, 1, 0x26A), (0xA7B0, 0xA7B0, 1, 0x29E), (0xA7B1, 0xA7B1, 1, 0x287),
  (0xA7B2, 0xA7B2, 1, 0x29D), (0xA7B3, 0xA7B3, 1, 0xAB53), (0xA7B4, 0xA7C2, 2, 0xA7B5),
  (0xA7C4, 0xA7C4, 1, 0xA794), (0xA7C5, 0xA7C5, 1, 0x282), (0xA7C6, 0xA7C6, 1, 0x1D8E),
  (0xA7C7, 0xA7C9, 2, 0xA7C8), (0xA7D0, 0xA7D0, 1, 0xA7D1), (0xA7D6, 0xA7D8, 2, 0xA7D7),
  (0xA7F5, 0xA7F5, 1, 0xA7F6), (0xFF01, 0xFF20, 1, 0x21), (0xFF21, 0xFF3A, 1, 0x61),
  (0xFF3B, 0xFF5E, 1, 0x5B), (0x10400, 0x10427, 1, 0x10428), (0x104B0, 0x104D3, 1, 0x104D8),
  (0x10570, 0x10594, 2, 0x10597), (0x10571, 0x1057A, 1, 0x10598), (0x1057D, 0x1058A, 1, 0x105A4),
  (0x1058D, 0x10592, 1, 0x105B4), (0x10595, 0x10595, 1, 0x105BC), (0x10C80, 0x10CB2, 1, 0x10CC0),
  (0x118A0, 0x118BF, 1, 0x118C0), (0x16E40, 0x16E5F, 1, 0x16E60), (0x1E900, 0x1E921, 1, 0x1E922)]

/-- The characters that a character is written as in a domain name. -/
def foldChar (c : Char) : List Char :=
  let n := c.toNat
  -- the soft hyphen, the joiners of graphemes and the variation selectors are dropped
  if n = 0xAD ∨ n = 0x200B ∨ n = 0x2060 ∨ n = 0xFEFF ∨ (0xFE00 ≤ n ∧ n ≤ 0xFE0F) then []
  else if n = 0x1E9E then ['s', 's']
  else
    match foldRows.find? fun (lo, hi, step, _) => lo ≤ n && n ≤ hi && (n - lo) % step == 0 with
    | some (lo, _, _, first) => [Char.ofNat (first + (n - lo))]
    | none => [c]

/-- A character that a label outside ASCII may not hold. -/
def isUnassigned (c : Char) : Bool :=
  let n := c.toNat
  Text.isBlank c || (0x80 ≤ n && n < 0xA0) || (0xE000 ≤ n && n ≤ 0xF8FF) || 0xE0000 ≤ n ||
    n == 0xFFFD || n % 0x10000 == 0xFFFE || n % 0x10000 == 0xFFFF

/-! ## 3. Labels -/

/-- A label that starts with `xn--` must be the code of a label outside ASCII in its folded
form. -/
def checkCoded (label : List Char) : Bool :=
  match Text.after? "xn--".toList label with
  | none => true
  | some code =>
    match Punycode.decode? code with
    | none => false
    | some s =>
      s.any (fun c => 128 ≤ c.toNat) && s.flatMap foldChar == s && !s.any isUnassigned &&
        Punycode.encode s == code

/-- The ASCII form of one label. -/
def labelToAscii? (label : List Char) : Option (List Char) :=
  if label.all fun c => c.toNat < 128 then
    if checkCoded label then some label else none
  else if label.any isUnassigned then none
  else some ("xn--".toList ++ Punycode.encode label)

/-- The ASCII form of a name: it is folded, and every label is coded that is not ASCII. -/
def foldToAscii? (s : List Char) : Option (List Char) := do
  let labels ← (Text.splitAt '.' (s.flatMap foldChar)).mapM labelToAscii?
  return Text.joinWith ['.'] labels

end Url
end Playtest
