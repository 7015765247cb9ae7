/-
# Percent-encoding

A URL is written in ASCII.  A character outside the set that a part of it allows is written as
the bytes of its UTF-8 form, each as a percent sign and two hexadecimal digits.  Every part
has its own set, and each set but the first contains one before it.

The pairs of a query have a stricter form: a space is a plus sign, and only letters, digits
and four signs stand for themselves.
-/

namespace Playtest
namespace Url

/-! ## 1. The sets of characters that are encoded -/

/-- Controls and everything outside ASCII. -/
def isControl (c : Char) : Bool := c.toNat < 0x20 || 0x7E < c.toNat

def isFragmentEncoded (c : Char) : Bool :=
  isControl c || c == ' ' || c == '"' || c == '<' || c == '>' || c == '`'

def isPathEncoded (c : Char) : Bool :=
  isFragmentEncoded c || c == '#' || c == '?' || c == '\x7b' || c == '\x7d'

def isUserinfoEncoded (c : Char) : Bool :=
  isPathEncoded c || c == '/' || c == ':' || c == ';' || c == '=' || c == '@' || c == '[' ||
    c == '\\' || c == ']' || c == '^' || c == '|'

def isQueryEncoded (c : Char) : Bool :=
  isControl c || c == ' ' || c == '"' || c == '#' || c == '<' || c == '>'

/-- The set for queries of the schemes that browsers treat specially. -/
def isSpecialQueryEncoded (c : Char) : Bool := isQueryEncoded c || c == '\''

/-! ## 2. Encoding and decoding -/

/-- One upper-case hexadecimal digit. -/
def hexDigit (n : Nat) : Char := if n < 10 then Char.ofNat (48 + n) else Char.ofNat (55 + n)

/-- One byte, percent-encoded. -/
def encodeByte (b : UInt8) : List Char :=
  ['%', hexDigit (b.toNat / 16), hexDigit (b.toNat % 16)]

/-- One character, percent-encoded. -/
def encodeChar (c : Char) : List Char := (String.utf8EncodeChar c).flatMap encodeByte

/-- The text with the characters of the set percent-encoded. -/
def encode (isEncoded : Char → Bool) (s : List Char) : List Char :=
  s.flatMap fun c => if isEncoded c then encodeChar c else [c]

/-- The value of a hexadecimal digit. -/
def hexValue? (c : Char) : Option Nat :=
  if '0' ≤ c ∧ c ≤ '9' then some (c.toNat - 48)
  else if 'A' ≤ c ∧ c ≤ 'F' then some (c.toNat - 55)
  else if 'a' ≤ c ∧ c ≤ 'f' then some (c.toNat - 87)
  else none

/-- The bytes that a text stands for.  A percent sign without two digits stands for itself. -/
def decodeBytes : List Char → List UInt8
  | [] => []
  | '%' :: a :: b :: rest =>
    match hexValue? a, hexValue? b with
    | some x, some y => UInt8.ofNat (x * 16 + y) :: decodeBytes rest
    | _, _ => '%'.toUInt8 :: decodeBytes (a :: b :: rest)
  | c :: rest => String.utf8EncodeChar c ++ decodeBytes rest

/-- The text that percent-encoded text stands for, if its bytes are the UTF-8 form of one. -/
def decode? (s : List Char) : Option String := String.fromUTF8? ⟨(decodeBytes s).toArray⟩

/-! ## 3. The pairs of a query -/

/-- A byte that stands for itself in a pair. -/
def isFormPlain (b : UInt8) : Bool :=
  let c := Char.ofNat b.toNat
  c.isAlphanum || c == '*' || c == '-' || c == '.' || c == '_'

/-- One byte of a pair. -/
def encodeFormByte (b : UInt8) : List Char :=
  if isFormPlain b then [Char.ofNat b.toNat]
  else if b.toNat = 32 then ['+']
  else encodeByte b

/-- The name or value of a pair. -/
def encodeForm (s : String) : List Char :=
  s.toList.flatMap fun c => (String.utf8EncodeChar c).flatMap encodeFormByte

end Url
end Playtest
