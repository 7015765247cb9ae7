/-
# Strings, numbers and dates of TOML

Each reader takes a text from its first character and gives the value with what follows it, or
nothing where the text does not begin with such a value.
-/
import Playtest.Number.Literal
import Playtest.Toml.Value

namespace Playtest
namespace Toml

/-! ## 1. Characters -/

/-- A character that text may hold as it is. -/
def isPlain (c : Char) : Bool := c = '\t' || (32 ≤ c.toNat && c.toNat ≠ 127)

def isSpace (c : Char) : Bool := c = ' ' || c = '\t'

/-- The text without spaces at its start. -/
def skipSpaces (s : List Char) : List Char := s.dropWhile isSpace

/-- The value of hexadecimal digits. -/
def hexNumber? (digits : List Char) : Option Nat :=
  digits.foldlM (fun n c => do
    let d ←
      if c.isDigit then some (c.toNat - 48)
      else if 'a' ≤ c ∧ c ≤ 'f' then some (c.toNat - 87)
      else if 'A' ≤ c ∧ c ≤ 'F' then some (c.toNat - 55)
      else none
    return n * 16 + d) 0

/-- The character with a number, if there is one. -/
def charOf? (n : Nat) : Option Char :=
  if n < 0xD800 ∨ (0xDFFF < n ∧ n ≤ 0x10FFFF) then some (Char.ofNat n) else none

/-- The character that a letter behind a backslash stands for. -/
def escaped? (c : Char) : Option Char :=
  if c = 'b' then some '\x08'
  else if c = 't' then some '\t'
  else if c = 'n' then some '\n'
  else if c = 'f' then some '\x0c'
  else if c = 'r' then some '\r'
  else if c = '"' ∨ c = '\\' then some c
  else none

/-! ## 2. Strings -/

/-- How a string is written. -/
structure Style where
  quote : Char
  /-- It stands between three quotes and may hold line breaks. -/
  isLong : Bool

/-- The number of quotes at the start of a text, five at most. -/
def quotes (q : Char) (s : List Char) : Nat := ((s.take 5).takeWhile (· == q)).length

/-- What is being read in a string. -/
inductive Within where
  | text
  /-- The character behind a backslash. -/
  | escape
  /-- The digits of a character's number: how many are still to come, and those so far. -/
  | code (left : Nat) (digits : List Char)
  /-- Blanks behind a backslash, up to the end of the line. -/
  | lineEnd
  /-- Blanks behind a line end that a backslash took away. -/
  | blanks
  deriving DecidableEq

/-- Puts a character before the text that was read. -/
def keep (c : Char) (read : Option (List Char × List Char)) : Option (List Char × List Char) :=
  read.map fun (text, rest) => (c :: text, rest)

/-- Reads a string behind its opening quotes.  A line break in a long string counts as a line
feed, however it is written. -/
def readString (style : Style) (within : Within) : List Char → Option (List Char × List Char)
  | [] => none
  | c :: rest =>
    let isBreak : Bool := c == '\n' || (c == '\r' && rest.head? == some '\n')
    match within with
    | .escape =>
      match escaped? c with
      | some x => keep x (readString style .text rest)
      | none =>
        if c = 'u' then readString style (.code 4 []) rest
        else if c = 'U' then readString style (.code 8 []) rest
        else if !style.isLong then none
        else if c = '\n' then readString style .blanks rest
        else if isSpace c || isBreak then readString style .lineEnd rest
        else none
    | .code left digits =>
      let digits := digits ++ [c]
      if 1 < left then readString style (.code (left - 1) digits) rest
      else do keep (← charOf? (← hexNumber? digits)) (readString style .text rest)
    | .lineEnd =>
      if c = '\n' then readString style .blanks rest
      else if isSpace c || isBreak then readString style .lineEnd rest
      else none
    | .text | .blanks =>
      if within = .blanks ∧ (isSpace c || isBreak) then readString style .blanks rest
      else if c = style.quote then
        let n := quotes c rest + 1
        if !style.isLong then some ([], rest)
        else if n < 3 then keep c (readString style .text rest)
        else
          -- up to two quotes may stand directly before the closing ones
          let extra := min (n - 3) 2
          some (List.replicate extra c, rest.drop (extra + 2))
      else if c = '\\' ∧ style.quote = '"' then readString style .escape rest
      else if style.isLong ∧ c = '\n' then keep c (readString style .text rest)
      else if style.isLong ∧ isBreak then readString style .text rest
      else if isPlain c then keep c (readString style .text rest)
      else none

/-- Reads a string with its quotes, one that ends on its line if `mayBeLong` is not set. -/
def readQuoted (mayBeLong : Bool) : List Char → Option (String × List Char)
  | q :: rest => do
    if q ≠ '"' ∧ q ≠ '\'' then failure
    let isLong := mayBeLong && 2 ≤ quotes q rest
    let start := if isLong then rest.drop 2 else rest
    -- a line break directly behind three quotes is left out
    let start :=
      match isLong, start with
      | true, '\n' :: start => start
      | true, '\r' :: '\n' :: start => start
      | _, start => start
    let (text, rest) ← readString ⟨q, isLong⟩ .text start
    return (String.ofList text, rest)
  | [] => none

/-! ## 3. Numbers -/

/-- The digits at the start of a text, and what follows them.  A single underscore may stand
between two digits and is left out. -/
def digitRun (isDigit : Char → Bool) : List Char → List Char × List Char
  | [] => ([], [])
  | c :: rest =>
    if !isDigit c then ([], c :: rest)
    else
      let (digits, rest) :=
        match rest with
        | '_' :: tail =>
          if tail.head?.any isDigit then digitRun isDigit tail else ([], '_' :: tail)
        | tail => digitRun isDigit tail
      (c :: digits, rest)

/-- Like `digitRun`, with at least one digit. -/
def digitRun? (isDigit : Char → Bool) (s : List Char) : Option (List Char × List Char) :=
  match digitRun isDigit s with
  | ([], _) => none
  | run => some run

/-- The number in a base that digits denote. -/
def inBase (base : Nat) (digits : List Char) : Nat :=
  digits.foldl (fun n c => n * base + ((hexNumber? [c]).getD 0)) 0

/-- A whole number, which must have 64 bits. -/
def whole? (n : Int) : Option Value :=
  if -(Nat.pow 2 63 : Int) ≤ n ∧ n < (Nat.pow 2 63 : Int) then some (.integer n) else none

/-- A whole number in another base than ten, behind its mark. -/
def readInBase (base : Nat) (s : List Char) : Option (Value × List Char) := do
  let isDigit (c : Char) : Bool := (hexNumber? [c]).any (· < base)
  let (digits, rest) ← digitRun? isDigit s
  return (← whole? (inBase base digits), rest)

/-- The whole digits of a decimal number.  Nothing follows a zero at their start. -/
def readWhole : List Char → Option (List Char × List Char)
  | '0' :: rest => some (['0'], rest)
  | s => digitRun? Char.isDigit s

/-- The point and the digits behind it, if there is a point. -/
def readFraction : List Char → Option (List Char × List Char)
  | '.' :: rest => do
    let (digits, rest) ← digitRun? Char.isDigit rest
    return ('.' :: digits, rest)
  | s => some ([], s)

/-- The exponent with its letter, if there is one. -/
def readExponent : List Char → Option (List Char × List Char)
  | c :: rest =>
    if c = 'e' ∨ c = 'E' then do
      let (sign, rest) :=
        match rest with
        | '+' :: rest => (['+'], rest)
        | '-' :: rest => (['-'], rest)
        | _ => ([], rest)
      let (digits, rest) ← digitRun? Char.isDigit rest
      return ('e' :: sign ++ digits, rest)
    else some ([], c :: rest)
  | [] => some ([], [])

/-- A number behind its sign.  One too large for a floating-point number is refused. -/
def readUnsigned (isNegative : Bool) : List Char → Option (Value × List Char)
  | 'i' :: 'n' :: 'f' :: rest => some (.float (.infinity isNegative), rest)
  | 'n' :: 'a' :: 'n' :: rest => some (.float .nan, rest)
  | s => do
    let (whole, rest) ← readWhole s
    let (fraction, rest) ← readFraction rest
    let (exponent, rest) ← readExponent rest
    if fraction = [] ∧ exponent = [] then
      let n : Int := Text.digitsValue whole
      return (← whole? (if isNegative then -n else n), rest)
    else
      let x ← Binary64.parseUnsigned? isNegative (whole ++ fraction ++ exponent)
      if x = .infinity false then failure
      return (.float x, rest)

def readNumber : List Char → Option (Value × List Char)
  | '0' :: 'x' :: rest => readInBase 16 rest
  | '0' :: 'o' :: rest => readInBase 8 rest
  | '0' :: 'b' :: rest => readInBase 2 rest
  | '+' :: rest => readUnsigned false rest
  | '-' :: rest => readUnsigned true rest
  | s => readUnsigned false s

/-! ## 4. Dates and times -/

/-- A number of two digits. -/
def readPair : List Char → Option (Nat × List Char)
  | a :: b :: rest => if a.isDigit ∧ b.isDigit then some (Text.digitsValue [a, b], rest) else none
  | _ => none

/-- Leaves out one given character. -/
def readMark (c : Char) : List Char → Option (List Char)
  | x :: rest => if x = c then some rest else none
  | [] => none

/-- The number of days of a month. -/
def daysIn (year month : Nat) : Nat :=
  if month = 2 then
    if year % 4 = 0 ∧ (year % 100 ≠ 0 ∨ year % 400 = 0) then 29 else 28
  else if month ∈ [4, 6, 9, 11] then 30 else 31

/-- What follows a date. -/
def afterDate (s : List Char) : Option (List Char) := do
  let (century, rest) ← readPair s
  let (year, rest) ← readPair rest
  let (month, rest) ← readPair (← readMark '-' rest)
  let (day, rest) ← readPair (← readMark '-' rest)
  guard (1 ≤ month ∧ month ≤ 12 ∧ 1 ≤ day ∧ day ≤ daysIn (century * 100 + year) month)
  return rest

/-- What follows a time of the day.  A minute may have a leap second. -/
def afterTime (s : List Char) : Option (List Char) := do
  let (hour, rest) ← readPair s
  let (minute, rest) ← readPair (← readMark ':' rest)
  let (second, rest) ← readPair (← readMark ':' rest)
  guard (hour ≤ 23 ∧ minute ≤ 59 ∧ second ≤ 60)
  match rest with
  | '.' :: digits =>
    if digits.head?.any Char.isDigit then return digits.dropWhile Char.isDigit else failure
  | _ => return rest

/-- What follows a distance from Greenwich, if there is one. -/
def afterOffset : List Char → Option (List Char)
  | c :: rest =>
    if c = 'Z' ∨ c = 'z' then some rest
    else if c = '+' ∨ c = '-' then do
      let (hour, rest) ← readPair rest
      let (minute, rest) ← readPair (← readMark ':' rest)
      guard (hour ≤ 23 ∧ minute ≤ 59)
      return rest
    else some (c :: rest)
  | [] => some []

/-- What follows a date, a time or both. -/
def afterMoment (s : List Char) : Option (List Char) :=
  match afterDate s with
  | none => afterTime s
  | some [] => some []
  | some (c :: rest) =>
    if c = 'T' ∨ c = 't' ∨ c = ' ' then
      match afterTime rest with
      | some rest => afterOffset rest
      | none => some (c :: rest)
    else some (c :: rest)

def readMoment (s : List Char) : Option (Value × List Char) := do
  let rest ← afterMoment s
  return (.datetime (String.ofList (s.take (s.length - rest.length))), rest)

/-! ## 5. Single values -/

/-- Reads a value that holds no other values. -/
def readScalar : List Char → Option (Value × List Char)
  | 't' :: 'r' :: 'u' :: 'e' :: rest => some (.boolean true, rest)
  | 'f' :: 'a' :: 'l' :: 's' :: 'e' :: rest => some (.boolean false, rest)
  | s =>
    match s.head? with
    | some c =>
      if c = '"' ∨ c = '\'' then do
        let (text, rest) ← readQuoted true s
        return (.string text, rest)
      else (readMoment s).orElse fun _ => readNumber s
    | none => none

end Toml
end Playtest
