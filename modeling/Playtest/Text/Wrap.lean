/-
# Wrapping lines

A line is broken into words, and words are put on a line as long as they fit.  A break may
stand behind spaces, behind a hyphen between letters or digits, and at few places within a row
of characters.  Those places are told by the classes of the characters around them; the rules
are for ASCII, and every other character counts as a letter.

A word that fits on no line is broken where the line is full.
-/
import Playtest.Text.Search

namespace Playtest
namespace Text
namespace Wrap

/-! ## 1. Where a line may break -/

/-- What a character does to a break beside it. -/
inductive BreakClass where
  | space
  /-- A break may follow, as behind a tab. -/
  | tab
  | opening
  | closing
  /-- A closing brace, which letters may follow on the next line. -/
  | brace
  | quotation
  | exclamation
  /-- Marks that separate numbers, as points do. -/
  | point
  | slash
  | hyphen
  | percent
  | currency
  | digit
  | letter
  deriving DecidableEq, Repr

open BreakClass in
def breakClass (c : Char) : BreakClass :=
  if c = ' ' then space
  else if c = '\t' ∨ c = '|' then tab
  else if c = '(' ∨ c = '[' ∨ c = '\x7b' then opening
  else if c = ')' ∨ c = ']' then closing
  else if c = '\x7d' then brace
  else if c = '"' ∨ c = '\'' then quotation
  else if c = '!' ∨ c = '?' then exclamation
  else if c = ',' ∨ c = '.' ∨ c = ':' ∨ c = ';' then point
  else if c = '/' then slash
  else if c = '-' then hyphen
  else if c = '%' then percent
  else if c = '$' ∨ c = '+' ∨ c = '\\' then currency
  else if c.isDigit then digit
  else letter

/-- Two characters side by side stay together. -/
def joins : BreakClass → BreakClass → Bool
  | _, .space | _, .tab | _, .closing | _, .brace | _, .quotation | _, .exclamation => true
  | _, .point | _, .slash | _, .hyphen => true
  | .opening, _ | .quotation, _ => true
  | .letter, .letter | .letter, .digit | .digit, .letter | .digit, .digit => true
  | .percent, .letter | .percent, .digit | .percent, .opening => true
  | .currency, .letter | .currency, .digit | .currency, .opening => true
  | .letter, .percent | .letter, .currency | .digit, .percent | .digit, .currency => true
  | .closing, .percent | .closing, .currency | .brace, .percent | .brace, .currency => true
  | .hyphen, .digit | .point, .digit | .slash, .digit | .point, .letter => true
  | .letter, .opening | .digit, .opening | .closing, .letter | .closing, .digit => true
  | _, _ => false

/-- Two characters stay together over the spaces between them. -/
def joinsOverSpaces : BreakClass → BreakClass → Bool
  | _, .closing | _, .brace | _, .exclamation | _, .point | _, .slash => true
  | .opening, _ => true
  | .quotation, .opening => true
  | _, _ => false

/-- A line may break before `next`, where `last` is the last character that is no space. -/
def mayBreak (last : Char) (spaced : Bool) (next : Char) : Bool :=
  if next = ' ' then false
  else if spaced then !joinsOverSpaces (breakClass last) (breakClass next)
  else !joins (breakClass last) (breakClass next)

/-- The hyphen behind `before` may end a line. -/
def mayHyphenate (before after : Option Char) : Bool :=
  before.any Char.isAlphanum && after.any Char.isAlphanum

/-- A line may break between a word, given last character first, and `next`. -/
def breaksAfter (word : List Char) (next : Char) : Bool :=
  let spaced := word.head? == some ' '
  match word.find? (· != ' ') with
  | some '-' =>
    if spaced then mayBreak '-' true next else mayHyphenate (word.drop 1).head? (some next)
  | some last => mayBreak last spaced next
  | none => spaced && next != ' '

/-- Cuts a line at the places where it may break.  `word` is the word so far, last character
first. -/
def wordsFrom (word : List Char) : List Char → List (List Char)
  | [] => if word = [] then [] else [word.reverse]
  | c :: rest =>
    if breaksAfter word c then word.reverse :: wordsFrom [c] rest
    else wordsFrom (c :: word) rest

/-- The words of a line, each with the spaces behind it. -/
def words (line : List Char) : List (List Char) := wordsFrom [] line

/-! ## 2. Filling lines -/

/-- The word without the spaces behind it. -/
def bare (word : List Char) : List Char := (word.reverse.dropWhile (· == ' ')).reverse

/-- Cuts a word that is longer than a line. -/
def pieces (width : Nat) (word : List Char) : Nat → List (List Char)
  | 0 => [word]
  | fuel + 1 =>
    if (bare word).length ≤ max 1 width then [word]
    else word.take (max 1 width) :: pieces width (word.drop (max 1 width)) fuel

/-- Puts words on lines.  `line` is the line so far. -/
def fillFrom (width : Nat) (line : List Char) : List (List Char) → List (List Char)
  | [] => [bare line]
  | word :: rest =>
    if line ≠ [] ∧ width < line.length + (bare word).length then
      bare line :: fillFrom width word rest
    else fillFrom width (line ++ word) rest

/-- The lines of at most `width` characters that a line is wrapped to. -/
def lines (width : Nat) (line : List Char) : List (List Char) :=
  fillFrom width [] ((words line).flatMap fun word => pieces width word word.length)

/-- Wraps every line of a text. -/
def text (width : Nat) (s : List Char) : List (List Char) :=
  (splitAt '\n' s).flatMap (lines width)

end Wrap
end Text
end Playtest
