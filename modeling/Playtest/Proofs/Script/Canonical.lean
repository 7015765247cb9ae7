/-
# Lines written down again

Every meaning that a line can have is written in one canonical way (`Line.text`), and what is
written so has that meaning (`text_read_back`).

The marks of a line overlap: a star or two, the three tags after `>`, and a colon inside a
parameter.  A name or payload may hold any of them, so reading back rests on what the
classification leaves in the parts of a line.  `Line.Readable` says this for each class: names
and payloads are trimmed, names are not empty, the name of a parameter is a word, and a literal
does not itself look like another class.  `readable_iff` says that this is all: these are
exactly the lines that can be read.
-/
import Mathlib.Data.List.DropRight
import Playtest.Script.Line

namespace Playtest

/-! ## 1. Trimmed text -/

namespace Text

theorem isBlank_of_head?_trimStart {s : List Char} {c : Char}
    (h : (trimStart s).head? = some c) : isBlank c = false := by
  have not := List.head?_dropWhile_not isBlank s
  rw [trimStart] at h
  rw [h] at not
  exact not

/-- Trimming leaves no blank at either end. -/
theorem isTrimmed_trim (s : List Char) : IsTrimmed (trim s) := by
  have kept : trim s <+: trimStart s := List.rdropWhile_prefix isBlank _
  refine ⟨fun c hc => ?_, fun c hc => ?_⟩
  · obtain ⟨rest, hr⟩ := kept
    refine isBlank_of_head?_trimStart (s := s) ?_
    rw [← hr, List.head?_append, hc]
    rfl
  · rw [trim, trimEnd, List.getLast?_reverse] at hc
    exact isBlank_of_head?_trimStart hc

theorem trimStart_of_isTrimmed {s : List Char} (h : IsTrimmed s) : trimStart s = s :=
  dropWhile_of_head? h.1

/-- There is nothing to cut off a trimmed text. -/
theorem trim_of_isTrimmed {s : List Char} (h : IsTrimmed s) : trim s = s := by
  rw [trim, trimStart_of_isTrimmed h]
  exact dropWhileEnd_of_getLast? h.2

/-- A space before the text is cut off. -/
theorem trimStart_space (s : List Char) : trimStart (' ' :: s) = trimStart s := rfl

theorem trim_space (s : List Char) : trim (' ' :: s) = trim s := rfl

theorem trim_eq_nil_iff {s : List Char} : trim s = [] ↔ ∀ c ∈ s, isBlank c = true := by
  have both : trim s = [] ↔ ∀ c ∈ trimStart s, isBlank c = true := List.rdropWhile_eq_nil_iff
  rw [both]
  constructor
  · intro h
    have none : trimStart s = [] := by
      rcases hs : trimStart s with _ | ⟨c, rest⟩
      · rfl
      · have blank : isBlank c = true := h c (by rw [hs]; exact List.mem_cons_self)
        rw [isBlank_of_head?_trimStart (s := s) (by rw [hs]; rfl)] at blank
        cases blank
    exact List.dropWhile_eq_nil_iff.1 none
  · exact fun h c hc => h c ((List.dropWhile_suffix isBlank).subset hc)

/-! ## 2. Words -/

/-- The closed ranges of the blanks. -/
def blankRanges : List (Nat × Nat) :=
  [(9, 13), (0x20, 0x20), (0x85, 0x85), (0xA0, 0xA0), (0x1680, 0x1680), (0x2000, 0x200A),
    (0x2028, 0x2029), (0x202F, 0x202F), (0x205F, 0x205F), (0x3000, 0x3000)]

theorem isBlank_iff {c : Char} :
    isBlank c = true ↔ ∃ r ∈ blankRanges, r.1 ≤ c.toNat ∧ c.toNat ≤ r.2 := by
  simp only [isBlank, blankRanges, Bool.or_eq_true, Bool.and_eq_true, decide_eq_true_eq, beq_iff_eq,
    List.mem_cons, List.not_mem_nil, or_false, exists_eq_or_imp, exists_eq_left]
  omega

/-- No range of letters and numerals meets a range of blanks. -/
theorem ranges_apart :
    ∀ r ∈ alphanumericRanges, ∀ b ∈ blankRanges, r.2 < b.1 ∨ b.2 < r.1 := by
  have all : (alphanumericRanges.all fun r =>
      blankRanges.all fun b => Nat.blt r.2 b.1 || Nat.blt b.2 r.1) = true := by
    decide +kernel
  intro r hr b hb
  have apart := List.all_eq_true.1 (List.all_eq_true.1 all r hr) b hb
  rcases Bool.or_eq_true_iff.1 apart with h | h
  · exact .inl (Nat.blt_eq.mp h)
  · exact .inr (Nat.blt_eq.mp h)

theorem toNat_between {a b c : Char} (h : c.val ≥ a.val ∧ c.val ≤ b.val) :
    a.toNat ≤ c.toNat ∧ c.toNat ≤ b.toNat :=
  ⟨UInt32.le_iff_toNat_le.1 h.1, UInt32.le_iff_toNat_le.1 h.2⟩

/-- The letters and digits of ASCII are in the ranges. -/
theorem mem_ranges_of_isAlphanum {c : Char} (h : c.isAlphanum = true) :
    ∃ r ∈ [(0x30, 0x39), (0x41, 0x5A), (0x61, 0x7A)], r.1 ≤ c.toNat ∧ c.toNat ≤ r.2 := by
  rcases Bool.or_eq_true_iff.1 h with letter | digit
  · rcases Bool.or_eq_true_iff.1 letter with upper | lower
    · exact ⟨(0x41, 0x5A), by simp, toNat_between (a := 'A') (b := 'Z') (of_decide_eq_true upper)⟩
    · have inside := Bool.and_eq_true_iff.1 lower
      exact ⟨(0x61, 0x7A), by simp, toNat_between (a := 'a') (b := 'z')
        ⟨of_decide_eq_true inside.1, of_decide_eq_true inside.2⟩⟩
  · have inside := Bool.and_eq_true_iff.1 digit
    exact ⟨(0x30, 0x39), by simp, toNat_between (a := '0') (b := '9')
      ⟨of_decide_eq_true inside.1, of_decide_eq_true inside.2⟩⟩

/-- A word character that is no underscore lies in a range of letters or numerals. -/
theorem mem_ranges_of_isAlphanumeric {c : Char} (h : isAlphanumeric c = true) :
    ∃ r ∈ alphanumericRanges, r.1 ≤ c.toNat ∧ c.toNat ≤ r.2 := by
  rcases Bool.or_eq_true_iff.1 h with ascii | listed
  · obtain ⟨r, hr, hc⟩ := mem_ranges_of_isAlphanum ascii
    refine ⟨r, ?_, hc⟩
    have listed : ∀ r ∈ [(0x30, 0x39), (0x41, 0x5A), (0x61, 0x7A)], r ∈ alphanumericRanges := by
      decide
    exact listed r hr
  · simpa using listed

theorem isBlank_of_isWordChar {c : Char} (h : isWordChar c = true) : isBlank c = false := by
  rcases Bool.or_eq_true_iff.1 h with letter | underscore
  · rw [Bool.eq_false_iff]
    intro blank
    obtain ⟨r, hr, inside⟩ := mem_ranges_of_isAlphanumeric letter
    obtain ⟨b, hb, within⟩ := isBlank_iff.1 blank
    rcases ranges_apart r hr b hb with apart | apart
    · omega
    · omega
  · rw [eq_of_beq underscore]
    decide

theorem ne_colon_of_isWordChar {c : Char} (h : isWordChar c = true) : c ≠ ':' := by
  rintro rfl
  have no : isWordChar ':' = false := by decide +kernel
  rw [no] at h
  cases h

/-- A word is trimmed. -/
theorem isTrimmed_of_word {s : List Char} (h : s.all isWordChar = true) : IsTrimmed s := by
  have word := List.all_eq_true.1 h
  exact ⟨fun c hc => isBlank_of_isWordChar (word c (List.mem_of_head? hc)),
    fun c hc => isBlank_of_isWordChar (word c (List.mem_of_getLast? hc))⟩

end Text

/-! ## 3. The canonical text of a line -/

/-- The mark of an input of this kind. -/
def InputKind.mark : InputKind → String
  | .line => ">"
  | .char => ">\x7bchar\x7d"
  | .filerefPrompt => ">\x7bfileref_prompt\x7d"

namespace Line

open Text (isBlank IsTrimmed isTrimmed_trim trim_of_isTrimmed trim_space)

/-- A text with this meaning. -/
def text : Line → String
  | .blank => ""
  | .comment => "#"
  | .parameter name value => "** " ++ name ++ ": " ++ value
  | .testStart name => "* " ++ name
  | .malformed line => line
  | .directive (.includeTest name) => ">\x7binclude\x7d " ++ name
  | .directive (.input input) => input.kind.mark ++ " " ++ input.payload
  | .directive (.check check) => if check.inverted then "!" ++ check.text else check.text

/-! ## 4. The lines that can be read -/

/-- A name, or any other part that must be there: trimmed, and not empty. -/
structure IsPart (s : String) : Prop where
  trimmed : IsTrimmed s.toList
  nonempty : s.toList ≠ []

/-- A text that looks like no other class of lines: it is a literal. -/
structure IsLiteral (s : List Char) : Prop where
  nonempty : s ≠ []
  unmarked : ∀ c, s.head? = some c → c ≠ '#' ∧ c ≠ '>' ∧ c ≠ '!'
  noParameter : ∀ rest, s = '*' :: '*' :: rest → parameter? rest = none
  noTest : ∀ rest, s = '*' :: rest → testName? rest = none

/-- What can be said of the parts of a line that was read. -/
def Readable : Line → Prop
  | .blank => True
  | .comment => True
  | .parameter name value => IsPart name ∧ name.toList.all Text.isWordChar = true ∧ IsPart value
  | .testStart name => IsPart name
  | .malformed line =>
    ∃ rest, line.toList = ">\x7binclude\x7d".toList ++ rest ∧ ∀ c ∈ rest, isBlank c = true
  | .directive (.includeTest name) => IsPart name
  | .directive (.input input) => IsTrimmed input.payload.toList
  | .directive (.check check) => check.inverted = true ∨ IsLiteral check.text.toList

theorem isPart_ofList {s : List Char} (h : s ≠ []) (ht : IsTrimmed s) : IsPart (String.ofList s) :=
  ⟨by rwa [String.toList_ofList], by rwa [String.toList_ofList]⟩

/-! ## 5. What is read is readable -/

theorem parameter?_eq_some {s name value : List Char} (h : parameter? s = some (name, value)) :
    name ≠ [] ∧ name.all Text.isWordChar = true ∧ value ≠ [] ∧ IsTrimmed value := by
  simp only [parameter?, Option.bind_eq_bind, Option.bind_eq_some_iff] at h
  obtain ⟨_, -, ⟨first, rest⟩, -, h⟩ := h
  split at h
  · next parts =>
    cases h
    exact ⟨parts.1, parts.2.1, parts.2.2, isTrimmed_trim _⟩
  · cases h

theorem testName?_eq_some {s name : List Char} (h : testName? s = some name) :
    name ≠ [] ∧ IsTrimmed name := by
  simp only [testName?, Option.bind_eq_bind, Option.bind_eq_some_iff] at h
  obtain ⟨_, -, h⟩ := h
  split at h
  · next name =>
    cases h
    exact ⟨name, isTrimmed_trim _⟩
  · cases h

theorem readable_input (kind : InputKind) (payload : List Char) :
    (input kind payload).Readable := by
  rw [input, Readable, String.toList_ofList]
  exact isTrimmed_trim payload

theorem readable_ofInput (s : List Char) : (ofInput ('>' :: s) s).Readable := by
  unfold ofInput
  split
  · next rest hs =>
    dsimp only
    split
    · next blank =>
      refine ⟨rest, ?_, Text.trim_eq_nil_iff.1 blank⟩
      rw [String.toList_ofList, Text.after?_eq_some_iff.1 hs]
      rfl
    · next name => exact isPart_ofList name (isTrimmed_trim rest)
  · split
    · exact readable_input .filerefPrompt _
    · split
      · exact readable_input .char _
      · exact readable_input .line s

/-- **What is read is readable.** -/
theorem readable_ofChars (s : List Char) : (ofChars s).Readable := by
  unfold ofChars
  split
  · trivial
  · trivial
  · next rest =>
    split
    · next name value hp =>
      obtain ⟨hn, word, hv, trimmed⟩ := parameter?_eq_some hp
      refine ⟨isPart_ofList hn (Text.isTrimmed_of_word word), ?_, isPart_ofList hv trimmed⟩
      rwa [String.toList_ofList]
    · next hp =>
      refine .inr ?_
      rw [String.toList_ofList]
      refine ⟨List.cons_ne_nil _ _, ?_, ?_, ?_⟩
      · rintro c ⟨⟩
        decide
      · rintro rest' ⟨⟩
        exact hp
      · -- the second star is no blank
        rintro rest' ⟨⟩
        rfl
  · next rest single =>
    split
    · next name hn =>
      obtain ⟨nonempty, trimmed⟩ := testName?_eq_some hn
      exact isPart_ofList nonempty trimmed
    · next hn =>
      refine .inr ?_
      rw [String.toList_ofList]
      refine ⟨List.cons_ne_nil _ _, ?_, ?_, ?_⟩
      · rintro c ⟨⟩
        decide
      · rintro rest' ⟨⟩
        exact absurd rfl (single rest')
      · rintro rest' ⟨⟩
        exact hn
  · next rest => exact readable_ofInput rest
  · exact .inl rfl
  · next hnil hhash hstars hstar harrow hbang =>
    refine .inr ?_
    rw [String.toList_ofList]
    refine ⟨hnil, ?_, ?_, ?_⟩
    · intro c hc
      obtain ⟨rest, rfl⟩ := List.head?_eq_some_iff.1 hc
      refine ⟨?_, ?_, ?_⟩
      · rintro rfl
        exact hhash rest rfl
      · rintro rfl
        exact harrow rest rfl
      · rintro rfl
        exact hbang rest rfl
    · exact fun rest hs => absurd hs (hstars rest)
    · exact fun rest hs => absurd hs (hstar rest)

/-! ## 6. What is readable is read back -/

theorem ofChars_of_isLiteral {s : List Char} (h : IsLiteral s) : ofChars s = check s false := by
  unfold ofChars
  split
  · exact absurd rfl h.nonempty
  · exact absurd rfl (h.unmarked _ rfl).1
  · rw [h.noParameter _ rfl]
  · rw [h.noTest _ rfl]
  · exact absurd rfl (h.unmarked _ rfl).2.1
  · exact absurd rfl (h.unmarked _ rfl).2.2
  · rfl

theorem parameter?_of_parts {name value : List Char} (hn : name ≠ [])
    (word : name.all Text.isWordChar = true) (hv : value ≠ []) (trimmed : IsTrimmed value) :
    parameter? (' ' :: (name ++ ':' :: ' ' :: value)) = some (name, value) := by
  have start : Text.trimStart (name ++ ':' :: ' ' :: value) = name ++ ':' :: ' ' :: value := by
    rcases name with _ | ⟨c, name⟩
    · exact absurd rfl hn
    · have hc : isBlank c = false := (Text.isTrimmed_of_word word).1 c rfl
      rw [List.cons_append, Text.trimStart, List.dropWhile_cons_of_neg]
      rw [hc]
      decide
  have colon : ':' ∉ name := fun hm =>
    Text.ne_colon_of_isWordChar (List.all_eq_true.1 word _ hm) rfl
  have first : afterBlank? (' ' :: (name ++ ':' :: ' ' :: value)) =
      some (' ' :: (name ++ ':' :: ' ' :: value)) := rfl
  simp only [parameter?, first, Option.bind_eq_bind, Option.bind_some, Text.trimStart_space, start,
    Text.cutAt?_append colon, trim_space, trim_of_isTrimmed trimmed]
  exact if_pos ⟨hn, word, hv⟩

theorem testName?_of_part {name : List Char} (hn : name ≠ []) (trimmed : IsTrimmed name) :
    testName? (' ' :: name) = some name := by
  have first : afterBlank? (' ' :: name) = some (' ' :: name) := rfl
  simp only [testName?, first, Option.bind_eq_bind, Option.bind_some, trim_space,
    trim_of_isTrimmed trimmed]
  exact if_pos hn

theorem ofChars_mark (kind : InputKind) (payload : List Char) :
    ofChars (kind.mark.toList ++ ' ' :: payload) = input kind (' ' :: payload) := by
  cases kind with
  | line => rfl
  | char => rfl
  | filerefPrompt => rfl

theorem ofChars_testStart {name : List Char} (hn : name ≠ []) (trimmed : IsTrimmed name) :
    ofChars ('*' :: ' ' :: name) = .testStart (String.ofList name) := by
  rw [ofChars, testName?_of_part hn trimmed]
  rintro rest ⟨⟩

theorem ofChars_include (rest : List Char) :
    ofChars (">\x7binclude\x7d".toList ++ rest) =
      if Text.trim rest = [] then .malformed (String.ofList (">\x7binclude\x7d".toList ++ rest))
      else .directive (.includeTest (String.ofList (Text.trim rest))) := by
  have mark : ">\x7binclude\x7d".toList = '>' :: "\x7binclude\x7d".toList := by decide
  rw [mark, List.cons_append, ofChars, ofInput, Text.after?_eq_some_iff.2 rfl]

/-- **What is readable is read back.** -/
theorem classify_text_of_readable {x : Line} (h : x.Readable) : classify x.text = x := by
  rcases x with _ | _ | ⟨name, value⟩ | name | line | ⟨kind, payload⟩ | name | ⟨literal, inverted⟩
  · rfl
  · rfl
  · obtain ⟨hn, word, hv⟩ := h
    have chars : (parameter name value).text.toList =
        '*' :: '*' :: ' ' :: (name.toList ++ ':' :: ' ' :: value.toList) := by
      simp [text]
    rw [classify, chars, ofChars, parameter?_of_parts hn.nonempty word hv.nonempty hv.trimmed]
    simp
  · have chars : (testStart name).text.toList = '*' :: ' ' :: name.toList := by simp [text]
    have part : IsPart name := h
    rw [classify, chars, ofChars_testStart part.nonempty part.trimmed, String.ofList_toList]
  · obtain ⟨rest, chars, blank⟩ := h
    rw [text, classify, chars, ofChars_include, if_pos (Text.trim_eq_nil_iff.2 blank), ← chars,
      String.ofList_toList]
  · have chars : (directive (.input ⟨kind, payload⟩)).text.toList =
        kind.mark.toList ++ ' ' :: payload.toList := by
      simp [text]
    have trimmed : IsTrimmed payload.toList := h
    rw [classify, chars, ofChars_mark, input, trim_space, trim_of_isTrimmed trimmed,
      String.ofList_toList]
  · have chars : (directive (.includeTest name)).text.toList =
        ">\x7binclude\x7d".toList ++ ' ' :: name.toList := by
      simp [text]
    have part : IsPart name := h
    rw [classify, chars, ofChars_include, trim_space, trim_of_isTrimmed part.trimmed,
      if_neg part.nonempty, String.ofList_toList]
  · cases inverted with
    | true =>
      have chars : (directive (.check ⟨literal, true⟩)).text.toList = '!' :: literal.toList := by
        simp [text]
      rw [classify, chars, ofChars, check, String.ofList_toList]
    | false =>
      have plain : IsLiteral literal.toList := h.resolve_left Bool.false_ne_true
      have chars : (directive (.check ⟨literal, false⟩)).text.toList = literal.toList := by
        simp [text]
      rw [classify, chars, ofChars_of_isLiteral plain, check, String.ofList_toList]

/-! ## 7. Round trip -/

/-- The readable lines are exactly those that are read from some text. -/
theorem readable_iff {x : Line} : x.Readable ↔ ∃ l, classify l = x := by
  constructor
  · exact fun h => ⟨x.text, classify_text_of_readable h⟩
  · rintro ⟨l, rfl⟩
    exact readable_ofChars l.toList

/-- **Written down again, a line is read as before.**  This holds of every text, trimmed or not.
The names, values and payloads that are read are trimmed, and no name and no value is empty; and
every line that is so is read from some text. -/
theorem text_read_back :
    (∀ l : String, classify (classify l).text = classify l ∧ (classify l).Readable) ∧
      ∀ x : Line, x.Readable ↔ ∃ l, classify l = x := by
  refine ⟨fun l => ?_, fun x => readable_iff⟩
  have readable : (classify l).Readable := readable_ofChars l.toList
  exact ⟨classify_text_of_readable readable, readable⟩

/-- A name may look like a mark. -/
example : classify "*  ** a: b " = .testStart "** a: b" ∧
    classify (classify "*  ** a: b ").text = .testStart "** a: b" := by
  decide +kernel

end Line
end Playtest
