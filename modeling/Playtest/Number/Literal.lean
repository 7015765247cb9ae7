/-
# Floating-point numbers in text

A number is written as digits with or without a point and with or without an exponent, or as
the name of an infinity or of what is not a number.
-/
import Playtest.Number.Binary64
import Playtest.Text.Number
import Playtest.Text.Search

namespace Playtest
namespace Binary64

/-- The digits at the start of a text, and what follows them. -/
def cutDigits (s : List Char) : List Char × List Char :=
  (s.takeWhile Char.isDigit, s.dropWhile Char.isDigit)

/-- The exponent behind its letter. -/
def exponent? (s : List Char) : Option Int :=
  let read (digits : List Char) : Option Nat :=
    if digits = [] ∨ !digits.all Char.isDigit then none else some (Text.digitsValue digits)
  match s with
  | '-' :: s => (read s).map fun n => -(n : Int)
  | '+' :: s => (read s).map Int.ofNat
  | s => (read s).map Int.ofNat

/-- A number without a sign, which is given. -/
def parseUnsigned? (negative : Bool) (s : List Char) : Option Binary64 :=
  let name := String.ofList (s.map Char.toLower)
  if name = "inf" ∨ name = "infinity" then some (.infinity negative)
  else if name = "nan" then some .nan
  else
    let (whole, rest) := cutDigits s
    let (fraction, rest) :=
      match rest with
      | '.' :: rest => cutDigits rest
      | _ => ([], rest)
    if whole = [] ∧ fraction = [] then none
    else
      let number (e : Int) : Binary64 :=
        ofDecimal negative (Text.digitsValue (whole ++ fraction)) (e - fraction.length)
      match rest with
      | [] => some (number 0)
      | c :: rest => if c = 'e' ∨ c = 'E' then (exponent? rest).map number else none

/-- The number nearest to the one that a text denotes. -/
def parse? : List Char → Option Binary64
  | '-' :: s => parseUnsigned? true s
  | '+' :: s => parseUnsigned? false s
  | s => parseUnsigned? false s

end Binary64
end Playtest
