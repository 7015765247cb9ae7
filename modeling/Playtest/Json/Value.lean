/-
# JSON values and their text

The values that pass between the driver and the page, and their compact text: no blanks, and
members in the order they are held.

A text is escaped no more than it has to be: the quote, the backslash and the characters below
the space.  All else is written as itself.
-/
import Playtest.Number.Decimal

namespace Playtest
namespace Json

/-! ## 1. Values -/

/-- A number.  Whole numbers within 64 bits stay exact. -/
inductive Number where
  | integer (n : Int)
  | float (x : Binary64)
  deriving DecidableEq, Repr

/-- A JSON value.  The members of an object keep their order and may repeat a key. -/
inductive Value where
  | null
  | bool (b : Bool)
  | number (n : Number)
  | string (s : String)
  | array (items : List Value)
  | object (members : List (String × Value))
  deriving Repr

/-! ## 2. Strings -/

/-- One lower-case hexadecimal digit. -/
def hexDigit (n : Nat) : Char :=
  if n < 10 then Char.ofNat (48 + n) else Char.ofNat (87 + n)

/-- The text of one character inside a string. -/
def escapeChar (c : Char) : List Char :=
  if c = '"' then ['\\', '"']
  else if c = '\\' then ['\\', '\\']
  else if c.toNat < 32 then
    if c.toNat = 8 then ['\\', 'b']
    else if c.toNat = 9 then ['\\', 't']
    else if c.toNat = 10 then ['\\', 'n']
    else if c.toNat = 12 then ['\\', 'f']
    else if c.toNat = 13 then ['\\', 'r']
    else ['\\', 'u', '0', '0', hexDigit (c.toNat / 16), hexDigit (c.toNat % 16)]
  else [c]

/-- The text of a string, with its quotes. -/
def stringText (s : String) : List Char := '"' :: (s.toList.flatMap escapeChar ++ ['"'])

/-! ## 3. Compact text -/

/-- The text of a number. -/
def Number.text : Number → List Char
  | .integer n => (toString n).toList
  | .float x => x.jsonText.toList

mutual
/-- The text of a value. -/
def Value.text : Value → List Char
  | .null => ['n', 'u', 'l', 'l']
  | .bool true => ['t', 'r', 'u', 'e']
  | .bool false => ['f', 'a', 'l', 's', 'e']
  | .number n => n.text
  | .string s => stringText s
  | .array items => '[' :: (itemsText items ++ [']'])
  | .object members => '\x7b' :: (membersText members ++ ['\x7d'])

/-- The texts of the items, with commas between them. -/
def itemsText : List Value → List Char
  | [] => []
  | [v] => v.text
  | v :: vs => v.text ++ ',' :: itemsText vs

/-- The texts of the members, with commas between them. -/
def membersText : List (String × Value) → List Char
  | [] => []
  | [(k, v)] => stringText k ++ ':' :: v.text
  | (k, v) :: ms => stringText k ++ ':' :: (v.text ++ ',' :: membersText ms)
end

/-- The compact text of a value. -/
def Value.compact (v : Value) : String := String.ofList v.text

end Json
end Playtest
