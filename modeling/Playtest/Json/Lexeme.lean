/-
# Lexemes of a JSON text

A JSON text is cut into lexemes: the six signs of punctuation, strings, numbers and the three
literals.  What a lexeme is depends on its first character alone, so the cut can be made
before the grammar is known.  At the first character that starts no lexeme, or whose lexeme
cannot be ended, the cut stops; the reader may find another fault before it gets there.

Some strings and numbers can be passed over but have no value: a string with half of a
surrogate pair, and a number too large for a binary64.
-/
import Playtest.Json.Fault
import Playtest.Json.Value

namespace Playtest
namespace Json

/-! ## 1. Strings -/

/-- The value of a hexadecimal digit. -/
def hexValue? (c : Char) : Option Nat :=
  if '0' ≤ c ∧ c ≤ '9' then some (c.toNat - 48)
  else if 'a' ≤ c ∧ c ≤ 'f' then some (c.toNat - 87)
  else if 'A' ≤ c ∧ c ≤ 'F' then some (c.toNat - 55)
  else none

/-- The value of four hexadecimal digits. -/
def hexValue4? (a b c d : Char) : Option Nat := do
  let a ← hexValue? a
  let b ← hexValue? b
  let c ← hexValue? c
  let d ← hexValue? d
  some (((a * 16 + b) * 16 + c) * 16 + d)

/-- The character of a one-character escape. -/
def escaped? (c : Char) : Option Char :=
  if c = '"' then some '"'
  else if c = '\\' then some '\\'
  else if c = '/' then some '/'
  else if c = 'b' then some '\x08'
  else if c = 'f' then some '\x0c'
  else if c = 'n' then some '\n'
  else if c = 'r' then some '\r'
  else if c = 't' then some '\t'
  else none

/-- The fault of four bytes that are no hexadecimal digits. -/
def hexFault (s : List Char) : Fault :=
  if 4 ≤ byteLength s then ⟨.invalidEscape, some (byteLength s - 4)⟩ else ⟨.eofString, some 0⟩

def isLeadSurrogate (n : Nat) : Bool := 0xD800 ≤ n && n ≤ 0xDBFF

def isTrailSurrogate (n : Nat) : Bool := 0xDC00 ≤ n && n ≤ 0xDFFF

/-- The character of a surrogate pair. -/
def surrogatePair (lead trail : Nat) : Char :=
  Char.ofNat ((lead - 0xD800) * 0x400 + (trail - 0xDC00) + 0x10000)

/-- Reads the rest of a string, up to its closing quote.  `lead` is the first half of a
surrogate pair, if the last escape gave one. -/
def readString (lead : Option Nat) : List Char → Except Fault (List Char × List Char)
  | [] => .error ⟨.eofString, some 0⟩
  | '\\' :: [] => .error ⟨.eofString, some 0⟩
  | '\\' :: 'u' :: a :: b :: c :: d :: rest =>
    match hexValue4? a b c d with
    | none => .error (hexFault (a :: b :: c :: d :: rest))
    | some n =>
      match lead with
      | some hi =>
        if isTrailSurrogate n then do
          let (text, rest) ← readString none rest
          .ok (surrogatePair hi n :: text, rest)
        else .error ⟨.loneSurrogate, some (byteLength rest)⟩
      | none =>
        if isTrailSurrogate n then .error ⟨.loneSurrogate, some (byteLength rest)⟩
        else if isLeadSurrogate n then readString (some n) rest
        else do
          let (text, rest) ← readString none rest
          .ok (Char.ofNat n :: text, rest)
  | '\\' :: e :: rest =>
    if e = 'u' then .error (hexFault rest)
    else if lead.isSome then .error ⟨.unexpectedEscapeEnd, some (byteLength (e :: rest) - 1)⟩
    else
      match escaped? e with
      | none => .error ⟨.invalidEscape, some (byteLength (e :: rest) - 1)⟩
      | some c => do
        let (text, rest) ← readString none rest
        .ok (c :: text, rest)
  | c :: rest =>
    if lead.isSome then .error ⟨.unexpectedEscapeEnd, some (byteLength (c :: rest) - 1)⟩
    else if c = '"' then .ok ([], rest)
    else if c.toNat < 32 then .error ⟨.controlCharacter, some (byteLength rest)⟩
    else do
      let (text, rest) ← readString none rest
      .ok (c :: text, rest)

/-- A quote ends the string. -/
theorem readString_quote {s : List Char} : readString none ('"' :: s) = .ok ([], s) := by
  rw [readString]
  · simp
  all_goals
    intros
    simp_all

/-- Passes over the rest of a string, up to its closing quote. -/
def skipString : List Char → Except Fault (List Char)
  | [] => .error ⟨.eofString, some 0⟩
  | '\\' :: [] => .error ⟨.eofString, some 0⟩
  | '\\' :: 'u' :: a :: b :: c :: d :: rest =>
    match hexValue4? a b c d with
    | none => .error (hexFault (a :: b :: c :: d :: rest))
    | some _ => skipString rest
  | '\\' :: e :: rest =>
    if e = 'u' then .error (hexFault rest)
    else
      match escaped? e with
      | none => .error ⟨.invalidEscape, some (byteLength (e :: rest) - 1)⟩
      | some _ => skipString rest
  | c :: rest =>
    if c = '"' then .ok rest
    else if c.toNat < 32 then .error ⟨.controlCharacter, some (byteLength rest)⟩
    else skipString rest

theorem skipString_length {s rest : List Char} (h : skipString s = .ok rest) :
    rest.length < s.length := by
  fun_induction skipString s <;> simp_all <;> omega

/-! ## 2. Numbers -/

/-- The parts of a number as written. -/
structure NumberText where
  negative : Bool
  whole : List Char
  fraction? : Option (List Char)
  /-- The exponent, with whether it is negative. -/
  exponent? : Option (Bool × List Char)
  deriving Repr

/-- Cuts off the digits a text starts with. -/
def spanDigits (s : List Char) : List Char × List Char :=
  (s.takeWhile Char.isDigit, s.dropWhile Char.isDigit)

/-- The fault of a character where the number needs a digit: before it if `peeked`, else
behind its first byte. -/
def digitFault (s : List Char) : Fault :=
  match s with
  | [] => ⟨.eofValue, some 0⟩
  | _ :: _ => ⟨.invalidNumber, some (byteLength s - 1)⟩

/-- Reads the digits before the point.  A zero stands alone. -/
def readWhole : List Char → Except Fault (List Char × List Char)
  | '0' :: rest =>
    if rest.head?.any Char.isDigit then .error ⟨.invalidNumber, some (byteLength rest - 1)⟩
    else .ok (['0'], rest)
  | s =>
    let (digits, rest) := spanDigits s
    if digits = [] then .error (digitFault s) else .ok (digits, rest)

/-- Reads the point and the digits after it, if they are there. -/
def readFraction : List Char → Except Fault (Option (List Char) × List Char)
  | '.' :: s =>
    let (digits, rest) := spanDigits s
    if digits = [] then .error (digitFault s) else .ok (some digits, rest)
  | s => .ok (none, s)

/-- Reads the sign of an exponent. -/
def readSign : List Char → Bool × List Char
  | '-' :: s => (true, s)
  | '+' :: s => (false, s)
  | s => (false, s)

/-- Reads the exponent, if it is there. -/
def readExponent : List Char → Except Fault (Option (Bool × List Char) × List Char)
  | c :: s =>
    if c = 'e' ∨ c = 'E' then
      let (negative, s) := readSign s
      let (digits, rest) := spanDigits s
      if digits = [] then .error (digitFault s) else .ok (some (negative, digits), rest)
    else .ok (none, c :: s)
  | [] => .ok (none, [])

/-- Reads a number. -/
def readNumberText (s : List Char) : Except Fault (NumberText × List Char) := do
  let (negative, s) := if s.head? = some '-' then (true, s.drop 1) else (false, s)
  let (whole, s) ← readWhole s
  let (fraction?, s) ← readFraction s
  let (exponent?, s) ← readExponent s
  .ok (⟨negative, whole, fraction?, exponent?⟩, s)

theorem spanDigits_append (s : List Char) : (spanDigits s).1 ++ (spanDigits s).2 = s :=
  List.takeWhile_append_dropWhile

theorem spanDigits_length (s : List Char) : (spanDigits s).2.length ≤ s.length := by
  have := congrArg List.length (spanDigits_append s)
  rw [List.length_append] at this
  omega

theorem readWhole_length {s : List Char} {p} (h : readWhole s = .ok p) :
    p.2.length < s.length := by
  unfold readWhole at h
  split at h
  · split at h
    · simp at h
    · cases h; simp
  · next =>
    dsimp only at h
    split at h
    · simp at h
    · next hd =>
      cases h
      have hl := congrArg List.length (spanDigits_append s)
      rw [List.length_append] at hl
      have : 0 < (spanDigits s).1.length := List.length_pos_iff.2 hd
      dsimp only
      omega

theorem readFraction_length {s : List Char} {p} (h : readFraction s = .ok p) :
    p.2.length ≤ s.length := by
  unfold readFraction at h
  split at h
  · next s =>
    dsimp only at h
    split at h
    · simp at h
    · cases h
      exact Nat.le_succ_of_le (spanDigits_length s)
  · cases h; exact Nat.le_refl _

theorem readSign_length (s : List Char) : (readSign s).2.length ≤ s.length := by
  unfold readSign
  split <;> simp

theorem readExponent_length {s : List Char} {p} (h : readExponent s = .ok p) :
    p.2.length ≤ s.length := by
  unfold readExponent at h
  split at h
  · next c s =>
    split at h
    · dsimp only at h
      split at h
      · simp at h
      · cases h
        exact Nat.le_succ_of_le
          (Nat.le_trans (spanDigits_length _) (readSign_length s))
    · cases h; exact Nat.le_refl _
  · cases h; exact Nat.le_refl _

/-- A number takes at least one character. -/
theorem readNumberText_length {s : List Char} {p} (h : readNumberText s = .ok p) :
    p.2.length < s.length := by
  unfold readNumberText at h
  simp only [bind, Except.bind] at h
  split at h
  · simp at h
  · next w hw =>
    split at h
    · simp at h
    · next f hf =>
      split at h
      · simp at h
      · next e he =>
        cases h
        have h1 := readWhole_length hw
        have h2 := readFraction_length hf
        have h3 := readExponent_length he
        have h4 : (if s.head? = some '-' then (true, s.drop 1) else (false, s)).2.length
            ≤ s.length := by split <;> simp
        dsimp only
        omega

/-! ## 3. The value of a number -/

/-- The greatest whole number of 64 bits. -/
def maxWord : Nat := Nat.pow 2 64 - 1

/-- Takes digits into a significand of 64 bits: the significand, and the digits that no
longer fit. -/
def takeDigits (significand : Nat) : List Char → Nat × List Char
  | [] => (significand, [])
  | c :: rest =>
    let next := significand * 10 + (c.toNat - 48)
    if next ≤ maxWord then takeDigits next rest else (significand, c :: rest)

/-- The exponent as a number, or the digits left where it passes 31 bits. -/
def takeExponent (e : Nat) : List Char → Nat × List Char
  | [] => (e, [])
  | c :: rest =>
    let next := e * 10 + (c.toNat - 48)
    if next < Nat.pow 2 31 then takeExponent next rest else (e, c :: rest)

/-- Divides by a power of ten, in steps that stay within range. -/
def scaleDown (x : Binary64) (e : Nat) : Binary64 :=
  if x = Binary64.zero false then x
  else if e ≤ 308 then x.div (Binary64.ofRatio false (Nat.pow 10 e) 1)
  else scaleDown (x.div (Binary64.ofRatio false (Nat.pow 10 308) 1)) (e - 308)
termination_by e

/-- `significand · 10 ^ e` as a binary64, unless it is too large. -/
def scale? (significand : Nat) (e : Int) : Option Binary64 :=
  let x := Binary64.ofRatio false significand 1
  if e < 0 then some (scaleDown x (-e).toNat)
  else if significand = 0 then some x
  else if 308 < e then none
  else
    match x.mul (Binary64.ofRatio false (Nat.pow 10 e.toNat) 1) with
    | .infinity _ => none
    | y => some y

/-- The number that the text denotes; `left` is the number of bytes behind it. -/
def NumberText.value (n : NumberText) (left : Nat) : Except Fault Number :=
  let (significand, excess) := takeDigits 0 n.whole
  if excess = [] ∧ n.fraction?.isNone ∧ n.exponent?.isNone then
    if !n.negative then .ok (.integer significand)
    else if significand = 0 ∨ Nat.pow 2 63 < significand then
      .ok (.float (Binary64.ofRatio false significand 1).neg)
    else .ok (.integer (-(significand : Int)))
  else
    let e : Int := excess.length
    let (significand, e) : Nat × Int :=
      match n.fraction? with
      | none => (significand, e)
      | some digits =>
        let (s, unread) := takeDigits significand digits
        (s, e - (digits.length - unread.length : Nat))
    let signed (x : Binary64) : Number := .float (if n.negative then x.neg else x)
    let outOfRange (more : List Char) : Except Fault Number :=
      .error ⟨.numberOutOfRange, some (left + more.length)⟩
    match n.exponent? with
    | none =>
      match scale? significand e with
      | some x => .ok (signed x)
      | none => outOfRange []
    | some (negative, digits) =>
      let (k, excess) := takeExponent 0 digits
      if excess ≠ [] then
        if significand ≠ 0 ∧ !negative then outOfRange excess
        else .ok (signed (Binary64.zero false))
      else
        match scale? significand (if negative then e - k else e + k) with
        | some x => .ok (signed x)
        | none => outOfRange []

/-! ## 4. The cut -/

/-- What a lexeme is. -/
inductive Token where
  | openArray
  | closeArray
  | openObject
  | closeObject
  | colon
  | comma
  | string (text : Except Fault String)
  | number (value : Except Fault Number)
  | literal (value : Value)
  /-- A string that cannot be ended. -/
  | brokenString (fault : Fault)
  /-- A number that cannot be ended. -/
  | brokenNumber (fault : Fault)
  /-- A literal that cannot be ended. -/
  | brokenLiteral (fault : Fault)
  /-- A character that starts no lexeme. -/
  | stray

/-- A lexeme, with the text from its first character on and the text behind it. -/
structure Lexeme where
  token : Token
  start : List Char
  after : List Char

/-- The number of bytes from the lexeme on. -/
def Lexeme.left (x : Lexeme) : Nat := byteLength x.start

/-- A fault found on looking at the first character of the lexeme. -/
def Lexeme.peeked (x : Lexeme) (cause : Cause) : Fault := ⟨cause, some (x.left - 1)⟩

/-- The blanks that may stand between lexemes. -/
def isSpace (c : Char) : Bool := c == ' ' || c == '\n' || c == '\t' || c == '\r'

/-- Reads the rest of a literal. -/
def readLiteral : List Char → List Char → Except Fault (List Char)
  | [], s => .ok s
  | _ :: _, [] => .error ⟨.eofValue, some 0⟩
  | a :: word, c :: s =>
    if a = c then readLiteral word s
    else .error ⟨.expectedIdent, some (byteLength (c :: s) - 1)⟩

theorem readLiteral_length {word s rest : List Char} (h : readLiteral word s = .ok rest) :
    rest.length ≤ s.length := by
  fun_induction readLiteral word s <;> simp_all
  omega

/-- The sign of punctuation that a character is. -/
def punctuation? (c : Char) : Option Token :=
  if c = '[' then some .openArray
  else if c = ']' then some .closeArray
  else if c = '\x7b' then some .openObject
  else if c = '\x7d' then some .closeObject
  else if c = ':' then some .colon
  else if c = ',' then some .comma
  else none

/-- The literal that a character starts: the rest of its word, and its value. -/
def literal? (c : Char) : Option (List Char × Value) :=
  if c = 'n' then some (['u', 'l', 'l'], .null)
  else if c = 't' then some (['r', 'u', 'e'], .bool true)
  else if c = 'f' then some (['a', 'l', 's', 'e'], .bool false)
  else none

/-- The string whose opening quote stands before `s`. -/
def cutString (s : List Char) : Token × Option (List Char) :=
  match skipString s with
  | .ok rest => (.string ((readString none s).map fun p => String.ofList p.1), some rest)
  | .error f =>
    match readString none s with
    | .error f => (.brokenString f, none)
    | .ok _ => (.brokenString f, none)

/-- The number that stands before the rest of `s`. -/
def cutNumber (s : List Char) : Token × Option (List Char) :=
  match readNumberText s with
  | .ok (n, rest) => (.number (n.value (byteLength rest)), some rest)
  | .error f => (.brokenNumber f, none)

/-- The lexeme that starts with `c`, and what follows it if the cut can go on. -/
def cutLexeme (c : Char) (s : List Char) : Token × Option (List Char) :=
  match punctuation? c with
  | some token => (token, some s)
  | none =>
    if c = '"' then cutString s
    else if c = '-' ∨ c.isDigit then cutNumber (c :: s)
    else
      match literal? c with
      | none => (.stray, none)
      | some (word, v) =>
        match readLiteral word s with
        | .ok rest => (.literal v, some rest)
        | .error f => (.brokenLiteral f, none)

theorem cutString_length {s rest : List Char} (h : (cutString s).2 = some rest) :
    rest.length < s.length := by
  unfold cutString at h
  split at h
  · next hs => cases h; exact skipString_length hs
  · split at h <;> simp at h

theorem cutNumber_length {s rest : List Char} (h : (cutNumber s).2 = some rest) :
    rest.length < s.length := by
  unfold cutNumber at h
  split at h
  · next hn => cases h; exact readNumberText_length hn
  · simp at h

theorem cutLexeme_length {c : Char} {s rest : List Char} (h : (cutLexeme c s).2 = some rest) :
    rest.length ≤ s.length := by
  unfold cutLexeme at h
  split at h
  · cases h; exact Nat.le_refl _
  · split at h
    · exact Nat.le_of_lt (cutString_length h)
    · split at h
      · exact Nat.le_of_lt_succ (cutNumber_length h)
      · split at h
        · simp at h
        · split at h
          · next hr => cases h; exact readLiteral_length hr
          · simp at h

/-- Cuts a text into its lexemes. -/
def lexemes (s : List Char) : List Lexeme :=
  match s with
  | [] => []
  | c :: rest =>
    if isSpace c then lexemes rest
    else
      match h : (cutLexeme c rest).2 with
      | none => [⟨(cutLexeme c rest).1, c :: rest, []⟩]
      | some after =>
        have := cutLexeme_length h
        ⟨(cutLexeme c rest).1, c :: rest, after⟩ :: lexemes after
termination_by s.length
decreasing_by
  · simp
  · simp only [List.length_cons]; omega

end Json
end Playtest
