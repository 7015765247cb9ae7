/-
# The grammar of JSON

What a JSON text is, said without a reader: which characters may stand between the quotes of a
string and what they denote, how a number is written, and how values are put together, with
blanks around them.  The reader and its cut into lexemes are not used here; they are held against
these definitions.

A string may be grammatical and still denote no text, if half of a surrogate pair is escaped in
it.  So there are two statements about what stands between the quotes: that it is grammatical
(`IsBody`), and that it spells a text (`Spells`), in which any character may be written plainly,
by a short escape, or by its code.

Of an object that is not nested the members are given as they are written (`Member`), so that one
can speak of their order, their blanks, and of members with the same name.
-/
import Playtest.Json.Lexeme
import Playtest.Text.Search

namespace Playtest
namespace Json

/-! ## 1. Blanks -/

/-- Nothing but blanks. -/
def IsBlank (s : List Char) : Prop := ∀ c ∈ s, c ∈ [' ', '\t', '\n', '\r']

instance (s : List Char) : Decidable (IsBlank s) :=
  List.decidableBAll (· ∈ [' ', '\t', '\n', '\r']) s

theorem isBlank_nil : IsBlank [] := by simp [IsBlank]

/-! ## 2. Strings -/

/-- The characters that have a short escape, behind the sign that stands for them. -/
def shortEscapes : List (Char × Char) :=
  [('"', '"'), ('\\', '\\'), ('/', '/'), ('b', '\x08'), ('f', '\x0c'), ('n', '\n'), ('r', '\r'),
    ('t', '\t')]

/-- The code is half of a surrogate pair. -/
def IsSurrogate (n : Nat) : Prop := 0xD800 ≤ n ∧ n ≤ 0xDFFF

/-- What may stand between the quotes of a string. -/
inductive IsBody : List Char → Prop where
  | nil : IsBody []
  /-- A character that needs no escape. -/
  | plain {c : Char} {s : List Char} (quote : c ≠ '"') (backslash : c ≠ '\\')
      (visible : 0x20 ≤ c.toNat) (rest : IsBody s) : IsBody (c :: s)
  | short {e c : Char} {s : List Char} (escape : (e, c) ∈ shortEscapes) (rest : IsBody s) :
      IsBody ('\\' :: e :: s)
  | code {w x y z : Char} {n : Nat} {s : List Char} (digits : hexValue4? w x y z = some n)
      (rest : IsBody s) : IsBody ('\\' :: 'u' :: w :: x :: y :: z :: s)

/-- What stands between the quotes of a string, and the text that it denotes. -/
inductive Spells : List Char → List Char → Prop where
  | nil : Spells [] []
  | plain {c : Char} {s t : List Char} (quote : c ≠ '"') (backslash : c ≠ '\\')
      (visible : 0x20 ≤ c.toNat) (rest : Spells s t) : Spells (c :: s) (c :: t)
  | short {e c : Char} {s t : List Char} (escape : (e, c) ∈ shortEscapes) (rest : Spells s t) :
      Spells ('\\' :: e :: s) (c :: t)
  | code {w x y z : Char} {n : Nat} {s t : List Char} (digits : hexValue4? w x y z = some n)
      (whole : ¬IsSurrogate n) (rest : Spells s t) :
      Spells ('\\' :: 'u' :: w :: x :: y :: z :: s) (Char.ofNat n :: t)
  /-- A character beyond the first plane is two codes. -/
  | pair {w x y z w' x' y' z' : Char} {lead trail : Nat} {s t : List Char}
      (first : hexValue4? w x y z = some lead) (isLead : 0xD800 ≤ lead ∧ lead ≤ 0xDBFF)
      (second : hexValue4? w' x' y' z' = some trail) (isTrail : 0xDC00 ≤ trail ∧ trail ≤ 0xDFFF)
      (rest : Spells s t) :
      Spells ('\\' :: 'u' :: w :: x :: y :: z :: '\\' :: 'u' :: w' :: x' :: y' :: z' :: s)
        (Char.ofNat ((lead - 0xD800) * 0x400 + (trail - 0xDC00) + 0x10000) :: t)

/-- What spells a text is grammatical. -/
theorem Spells.isBody {s t : List Char} (h : Spells s t) : IsBody s := by
  induction h with
  | nil => exact .nil
  | plain quote backslash visible _ ih => exact .plain quote backslash visible ih
  | short escape _ ih => exact .short escape ih
  | code digits _ _ ih => exact .code digits ih
  | pair first _ second _ _ ih => exact .code first (.code second ih)

/-- The string with this between its quotes. -/
def quote (body : List Char) : List Char := '"' :: (body ++ ['"'])

/-! ## 3. Numbers -/

/-- One digit or more. -/
def IsDigits (s : List Char) : Prop := s ≠ [] ∧ ∀ c ∈ s, c.isDigit = true

/-- A whole number.  A zero stands alone. -/
def IsWhole (s : List Char) : Prop := IsDigits s ∧ (s.head? = some '0' → s = ['0'])

/-- A fraction, or none. -/
def IsFraction (s : List Char) : Prop := s = [] ∨ ∃ digits, IsDigits digits ∧ s = '.' :: digits

/-- An exponent, or none. -/
def IsExponent (s : List Char) : Prop :=
  s = [] ∨ ∃ e sign digits, (e = 'e' ∨ e = 'E') ∧ sign ∈ [[], ['+'], ['-']] ∧ IsDigits digits ∧
    s = e :: (sign ++ digits)

/-- A number as it is written. -/
def IsNumber (s : List Char) : Prop :=
  ∃ sign whole fraction exponent, sign ∈ [[], ['-']] ∧ IsWhole whole ∧ IsFraction fraction ∧
    IsExponent exponent ∧ s = sign ++ (whole ++ (fraction ++ exponent))

/-! ## 4. Values -/

/-- A value as it is written in an array or behind a name, with the blanks around it. -/
structure Item where
  before : List Char := []
  value : List Char
  behind : List Char := []

namespace Item

def text (x : Item) : List Char := x.before ++ (x.value ++ x.behind)

theorem text_append (x : Item) (rest : List Char) :
    x.text ++ rest = x.before ++ (x.value ++ (x.behind ++ rest)) := by
  simp [text]

def IsPadded (x : Item) : Prop := IsBlank x.before ∧ IsBlank x.behind

end Item

/-- A member as it is written in an object, with what stands between the quotes of its name and
with the blanks around. -/
structure Member where
  before : List Char := []
  key : List Char
  behind : List Char := []
  item : Item

namespace Member

def text (m : Member) : List Char :=
  m.before ++ (quote m.key ++ (m.behind ++ ':' :: m.item.text))

theorem text_append (m : Member) (rest : List Char) :
    m.text ++ rest = m.before ++ (quote m.key ++ (m.behind ++ ':' :: (m.item.text ++ rest))) := by
  simp [text]

def IsPadded (m : Member) : Prop := IsBlank m.before ∧ IsBlank m.behind ∧ m.item.IsPadded

end Member

/-- The array of these items. -/
def arrayText (blank : List Char) (items : List Item) : List Char :=
  '[' :: (blank ++ (Text.joinWith [','] (items.map Item.text) ++ [']']))

/-- The object of these members. -/
def objectText (blank : List Char) (members : List Member) : List Char :=
  '\x7b' :: (blank ++ (Text.joinWith [','] (members.map Member.text) ++ ['\x7d']))

/-- A value as it is written. -/
inductive IsValue : List Char → Prop where
  | literal {s : List Char} (h : s ∈ ["null".toList, "true".toList, "false".toList]) : IsValue s
  | number {s : List Char} (h : IsNumber s) : IsValue s
  | string {body : List Char} (h : IsBody body) : IsValue (quote body)
  | array {blank : List Char} {items : List Item} (inner : IsBlank blank)
      (padded : ∀ x ∈ items, x.IsPadded) (values : ∀ x ∈ items, IsValue x.value) :
      IsValue (arrayText blank items)
  | object {blank : List Char} {members : List Member} (inner : IsBlank blank)
      (padded : ∀ m ∈ members, m.IsPadded) (keys : ∀ m ∈ members, IsBody m.key)
      (values : ∀ m ∈ members, IsValue m.item.value) : IsValue (objectText blank members)

/-! ## 5. Objects -/

namespace Member

/-- A member as an object may have it. -/
structure IsProper (m : Member) : Prop where
  padded : m.IsPadded
  key : IsBody m.key
  value : IsValue m.item.value

/-- The name of the member is this one, in whatever way it is written. -/
def Names (m : Member) (name : String) : Prop := Spells m.key name.toList

/-- The value of the member is a string that denotes this text, in whatever way it is written. -/
def Holds (m : Member) (text : String) : Prop :=
  ∃ body, Spells body text.toList ∧ m.item.value = quote body

end Member

/-- The text is an object with these members, in this order. -/
def IsObject (s : List Char) (members : List Member) : Prop :=
  (∀ m ∈ members, m.IsProper) ∧ ∃ before inner behind, IsBlank before ∧ IsBlank inner ∧
    IsBlank behind ∧ s = before ++ (objectText inner members ++ behind)

end Json
end Playtest
