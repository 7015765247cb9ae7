/-
# Lexemes of grammatical texts

How the cut into lexemes meets the grammar.  Each piece of a grammatical text becomes one lexeme,
whatever follows it, and the cut goes on behind it: a sign, a string (`lexemes_string`), a number
(`lexemes_number`) and a literal.  Blanks leave no lexeme.  Only a number must not be followed by
what could belong to it (`Ends`), which no grammatical text lets happen.

What a lexeme is worth does not depend on what follows it, either.  A string is worth the text
that it spells, and nothing if it spells none (`spelled?_eq_some_iff`).  Positions do depend on
what follows, and so do the faults, which name them; so all of this is said up to faults.
-/
import Playtest.Proofs.Json.Grammar

namespace Playtest
namespace Json

/-! ## 1. Passing over strings -/

theorem escaped?_of_mem {e c : Char} (h : (e, c) ∈ shortEscapes) :
    escaped? e = some c ∧ e ≠ 'u' := by
  simp only [shortEscapes, List.mem_cons, Prod.mk.injEq, List.not_mem_nil, or_false] at h
  rcases h with h | h | h | h | h | h | h | h <;> obtain ⟨rfl, rfl⟩ := h <;> decide

section

variable {c e : Char} {s : List Char}

theorem skipString_plain (quote : c ≠ '"') (backslash : c ≠ '\\') (visible : 0x20 ≤ c.toNat) :
    skipString (c :: s) = skipString s := by
  rw [skipString]
  · rw [if_neg quote, if_neg (by omega)]
  all_goals
    intros
    simp_all

theorem skipString_short (h : (e, c) ∈ shortEscapes) :
    skipString ('\\' :: e :: s) = skipString s := by
  obtain ⟨escape, notCode⟩ := escaped?_of_mem h
  rw [skipString]
  · rw [if_neg notCode, escape]
  all_goals
    intros
    simp_all

theorem skipString_code {w x y z : Char} {n : Nat} (h : hexValue4? w x y z = some n) :
    skipString ('\\' :: 'u' :: w :: x :: y :: z :: s) = skipString s := by
  rw [skipString, h]

theorem skipString_quote : skipString ('"' :: s) = .ok s := by
  rw [skipString]
  · rw [if_pos rfl]
  all_goals
    intros
    simp_all

end

/-- A grammatical string can be passed over. -/
theorem skipString_body {body : List Char} (h : IsBody body) (rest : List Char) :
    skipString (body ++ '"' :: rest) = .ok rest := by
  induction h with
  | nil => exact skipString_quote
  | plain quote backslash visible _ ih => exact (skipString_plain quote backslash visible).trans ih
  | short escape _ ih => exact (skipString_short escape).trans ih
  | code digits _ ih => exact (skipString_code digits).trans ih

/-! ## 2. Reading strings -/

section

variable {c e w x y z : Char} {s : List Char} {n lead : Nat}

/-- A text, and what follows it, with a character before the text. -/
def addChar (c : Char) (p : List Char × List Char) : List Char × List Char := (c :: p.1, p.2)

theorem readString_plain (quote : c ≠ '"') (backslash : c ≠ '\\') (visible : 0x20 ≤ c.toNat) :
    (readString none (c :: s)).toOption = (readString none s).toOption.map (addChar c) := by
  rw [readString]
  · rw [if_neg (by simp), if_neg quote, if_neg (by omega)]
    cases readString none s <;> rfl
  all_goals
    intros
    simp_all

theorem readString_short (h : (e, c) ∈ shortEscapes) :
    (readString none ('\\' :: e :: s)).toOption =
      (readString none s).toOption.map (addChar c) := by
  obtain ⟨escape, notCode⟩ := escaped?_of_mem h
  rw [readString]
  · rw [if_neg notCode, if_neg (by simp), escape]
    cases readString none s <;> rfl
  all_goals
    intros
    simp_all

theorem readString_code (h : hexValue4? w x y z = some n) (whole : ¬IsSurrogate n) :
    (readString none ('\\' :: 'u' :: w :: x :: y :: z :: s)).toOption =
      (readString none s).toOption.map (addChar (Char.ofNat n)) := by
  have notTrail : isTrailSurrogate n = false := by
    unfold IsSurrogate at whole
    simp [isTrailSurrogate]
    omega
  have notLead : isLeadSurrogate n = false := by
    unfold IsSurrogate at whole
    simp [isLeadSurrogate]
    omega
  rw [readString, h]
  simp only [notTrail, notLead, Bool.false_eq_true, if_false]
  cases readString none s <;> rfl

/-- The first half of a pair waits for the second one. -/
theorem readString_lead (h : hexValue4? w x y z = some n) (isLead : 0xD800 ≤ n ∧ n ≤ 0xDBFF) :
    (readString none ('\\' :: 'u' :: w :: x :: y :: z :: s)).toOption =
      (readString (some n) s).toOption := by
  have notTrail : isTrailSurrogate n = false := by
    simp [isTrailSurrogate]
    omega
  have lead : isLeadSurrogate n = true := by simp [isLeadSurrogate, isLead]
  rw [readString, h]
  simp [notTrail, lead]

theorem readString_trail (h : hexValue4? w x y z = some n) (isTrail : 0xDC00 ≤ n ∧ n ≤ 0xDFFF) :
    (readString (some lead) ('\\' :: 'u' :: w :: x :: y :: z :: s)).toOption =
      (readString none s).toOption.map (addChar (surrogatePair lead n)) := by
  have trail : isTrailSurrogate n = true := by simp [isTrailSurrogate, isTrail]
  rw [readString, h]
  simp only [trail, if_true]
  cases readString none s <;> rfl

/-- The second half of a pair may not stand alone, -/
theorem readString_lone (h : hexValue4? w x y z = some n) (isTrail : 0xDC00 ≤ n ∧ n ≤ 0xDFFF) :
    (readString none ('\\' :: 'u' :: w :: x :: y :: z :: s)).toOption = none := by
  have trail : isTrailSurrogate n = true := by simp [isTrailSurrogate, isTrail]
  rw [readString, h]
  simp [trail, Except.toOption]

/-- and nothing else may follow the first one. -/
theorem readString_parted (h : hexValue4? w x y z = some n)
    (notTrail : ¬(0xDC00 ≤ n ∧ n ≤ 0xDFFF)) :
    (readString (some lead) ('\\' :: 'u' :: w :: x :: y :: z :: s)).toOption = none := by
  have trail : isTrailSurrogate n = false := by simpa [isTrailSurrogate] using notTrail
  rw [readString, h]
  simp [trail, Except.toOption]

theorem readString_parted_plain (backslash : c ≠ '\\') :
    (readString (some lead) (c :: s)).toOption = none := by
  rw [readString]
  · rfl
  all_goals
    intros
    simp_all

theorem readString_parted_short (notCode : e ≠ 'u') :
    (readString (some lead) ('\\' :: e :: s)).toOption = none := by
  rw [readString]
  · rw [if_neg notCode]
    rfl
  all_goals
    intros
    simp_all

end

/-- A string that spells a text is read as the text. -/
theorem readString_spells {body text : List Char} (h : Spells body text) (rest : List Char) :
    (readString none (body ++ '"' :: rest)).toOption = some (text, rest) := by
  have onward {c : Char} {s t u : List Char}
      (read : (readString none u).toOption = (readString none (s ++ '"' :: rest)).toOption.map
        (addChar c))
      (ih : (readString none (s ++ '"' :: rest)).toOption = some (t, rest)) :
      (readString none u).toOption = some (c :: t, rest) := by
    rw [read, ih]
    rfl
  induction h with
  | nil => exact congrArg Except.toOption readString_quote
  | plain quote backslash visible _ ih => exact onward (readString_plain quote backslash visible) ih
  | short escape _ ih => exact onward (readString_short escape) ih
  | code digits whole _ ih => exact onward (readString_code digits whole) ih
  | pair first isLead second isTrail _ ih =>
    exact onward ((readString_lead first isLead).trans (readString_trail second isTrail)) ih

/-- Behind the first half of a pair: the second half and something that spells a text, or the
string cannot be read. -/
def Completes (body : List Char) : Prop :=
  (∃ w x y z trail s t, body = '\\' :: 'u' :: w :: x :: y :: z :: s ∧
    hexValue4? w x y z = some trail ∧ (0xDC00 ≤ trail ∧ trail ≤ 0xDFFF) ∧ Spells s t) ∨
  ∀ lead rest, (readString (some lead) (body ++ '"' :: rest)).toOption = none

/-- A grammatical string spells a text, or it cannot be read. -/
theorem spells_or_unread {body : List Char} (h : IsBody body) :
    (∃ text, Spells body text) ∨
      ∀ rest, (readString none (body ++ '"' :: rest)).toOption = none := by
  -- the induction also needs to know what there is behind the first half of a pair
  suffices both : ((∃ text, Spells body text) ∨
      ∀ rest, (readString none (body ++ '"' :: rest)).toOption = none) ∧ Completes body from both.1
  induction h with
  | nil => exact ⟨.inl ⟨[], .nil⟩, .inr fun lead rest => readString_parted_plain (by decide)⟩
  | plain quote backslash visible _ ih =>
    refine ⟨?_, .inr fun lead rest => readString_parted_plain backslash⟩
    rcases ih.1 with ⟨t, ht⟩ | unread
    · exact .inl ⟨_, .plain quote backslash visible ht⟩
    · exact .inr fun rest => (readString_plain quote backslash visible).trans
        (Option.map_eq_none_iff.2 (unread rest))
  | short escape _ ih =>
    refine ⟨?_, .inr fun lead rest => readString_parted_short (escaped?_of_mem escape).2⟩
    rcases ih.1 with ⟨t, ht⟩ | unread
    · exact .inl ⟨_, .short escape ht⟩
    · exact .inr fun rest => (readString_short escape).trans
        (Option.map_eq_none_iff.2 (unread rest))
  | @code w x y z n s digits _ ih =>
    constructor
    · by_cases isLead : 0xD800 ≤ n ∧ n ≤ 0xDBFF
      · rcases ih.2 with ⟨w', x', y', z', trail, s', t, rfl, second, isTrail, ht⟩ | unread
        · exact .inl ⟨_, .pair digits isLead second isTrail ht⟩
        · exact .inr fun rest => (readString_lead digits isLead).trans (unread n rest)
      · by_cases isTrail : 0xDC00 ≤ n ∧ n ≤ 0xDFFF
        · exact .inr fun rest => readString_lone digits isTrail
        · have whole : ¬IsSurrogate n := by
            unfold IsSurrogate
            omega
          rcases ih.1 with ⟨t, ht⟩ | unread
          · exact .inl ⟨_, .code digits whole ht⟩
          · exact .inr fun rest => (readString_code digits whole).trans
              (Option.map_eq_none_iff.2 (unread rest))
    · by_cases isTrail : 0xDC00 ≤ n ∧ n ≤ 0xDFFF
      · rcases ih.1 with ⟨t, ht⟩ | unread
        · exact .inl ⟨w, x, y, z, n, s, t, rfl, digits, isTrail, ht⟩
        · exact .inr fun lead rest => (readString_trail digits isTrail).trans
            (Option.map_eq_none_iff.2 (unread rest))
      · exact .inr fun lead rest => readString_parted digits isTrail

/-- The text that is spelled between quotes, if one is. -/
def spelled? (body : List Char) : Option String :=
  (readString none (body ++ ['"'])).toOption.map fun p => String.ofList p.1

/-- What spells a text denotes this text and no other. -/
theorem spelled?_of_spells {body text : List Char} (h : Spells body text) :
    spelled? body = some (String.ofList text) := by
  rw [spelled?, readString_spells h []]
  rfl

theorem spelled?_eq_some_iff {body : List Char} (h : IsBody body) {text : String} :
    spelled? body = some text ↔ Spells body text.toList := by
  constructor
  · intro ht
    rcases spells_or_unread h with ⟨t, spells⟩ | unread
    · rw [spelled?_of_spells spells] at ht
      rw [← Option.some.inj ht, String.toList_ofList]
      exact spells
    · rw [spelled?, unread] at ht
      cases ht
  · intro spells
    rw [spelled?_of_spells spells, String.ofList_toList]

/-- The value of the string between quotes, where `rest` follows. -/
def textAt (body rest : List Char) : Except Fault String :=
  (readString none (body ++ '"' :: rest)).map fun p => String.ofList p.1

/-- What a string denotes does not depend on what follows it. -/
theorem toOption_textAt {body : List Char} (h : IsBody body) (rest : List Char) :
    (textAt body rest).toOption = spelled? body := by
  have mapped (r : Except Fault (List Char × List Char)) :
      (r.map fun p => String.ofList p.1).toOption = r.toOption.map fun p => String.ofList p.1 := by
    cases r <;> rfl
  rw [textAt, mapped]
  rcases spells_or_unread h with ⟨t, spells⟩ | unread
  · rw [readString_spells spells, spelled?_of_spells spells]
    rfl
  · rw [unread, spelled?, unread]

/-- A string that spells a text is worth the text, whatever follows it. -/
theorem textAt_of_spells {body text : List Char} (h : Spells body text) (rest : List Char) :
    textAt body rest = .ok (String.ofList text) := by
  have read := toOption_textAt h.isBody rest
  rw [spelled?_of_spells h] at read
  cases worth : textAt body rest with
  | error f =>
    rw [worth] at read
    cases read
  | ok t =>
    rw [worth] at read
    cases read
    rfl

/-! ## 3. Numbers -/

/-- The text does not begin with a digit. -/
def NoDigit (s : List Char) : Prop := ∀ c, s.head? = some c → c.isDigit = false

/-- The text begins with nothing that could belong to a number before it. -/
def Ends (s : List Char) : Prop :=
  ∀ c, s.head? = some c → c.isDigit = false ∧ c ≠ '.' ∧ c ≠ 'e' ∧ c ≠ 'E'

theorem Ends.noDigit {s : List Char} (h : Ends s) : NoDigit s := fun c hc => (h c hc).1

theorem ends_nil : Ends [] := fun _ hc => nomatch hc

/-- No number goes on with a sign or a blank. -/
theorem ends_cons {c : Char} {s : List Char}
    (h : c ∈ [',', ']', '\x7d', ':', ' ', '\t', '\n', '\r']) :
    Ends (c :: s) := by
  intro d hd
  cases hd
  simp only [List.mem_cons, List.not_mem_nil, or_false] at h
  rcases h with h | h | h | h | h | h | h | h <;> subst h <;> decide

theorem IsBlank.ends {blank s : List Char} (h : IsBlank blank) (hs : Ends s) :
    Ends (blank ++ s) := by
  rcases blank with _ | ⟨c, blank⟩
  · exact hs
  · refine ends_cons ?_
    have first := h c List.mem_cons_self
    simp only [List.mem_cons, List.not_mem_nil, or_false] at first
    rcases first with rfl | rfl | rfl | rfl <;> simp

theorem IsDigits.head {s : List Char} (h : IsDigits s) :
    ∃ c rest, s = c :: rest ∧ c.isDigit = true := by
  obtain ⟨c, rest, rfl⟩ := List.exists_cons_of_ne_nil h.1
  exact ⟨c, rest, rfl, h.2 c List.mem_cons_self⟩

theorem spanDigits_digits {digits rest : List Char} (h : ∀ c ∈ digits, c.isDigit = true)
    (hr : NoDigit rest) : spanDigits (digits ++ rest) = (digits, rest) := by
  rw [spanDigits, List.takeWhile_append_of_pos h, List.dropWhile_append_of_pos h]
  rcases rest with _ | ⟨c, rest⟩
  · simp
  · simp [hr c rfl]

theorem readWhole_whole {whole rest : List Char} (h : IsWhole whole) (hr : NoDigit rest) :
    readWhole (whole ++ rest) = .ok (whole, rest) := by
  obtain ⟨digits, alone⟩ := h
  obtain ⟨c, more, rfl, -⟩ := digits.head
  by_cases zero : c = '0'
  · have single : c :: more = ['0'] := alone (by rw [zero]; rfl)
    rw [single]
    have none : rest.head?.any Char.isDigit = false := by
      rcases rest with _ | ⟨d, rest⟩
      · rfl
      · exact hr d rfl
    rw [List.singleton_append, readWhole, none]
    rfl
  · rw [readWhole]
    · rw [spanDigits_digits digits.2 hr]
      exact if_neg digits.1
    · intro t ht
      exact zero (List.cons.inj ht).1

theorem readFraction_fraction {fraction rest : List Char} (h : IsFraction fraction)
    (hr : NoDigit rest) (point : rest.head? ≠ some '.') :
    ∃ digits?, (fraction = [] → digits? = none) ∧
      readFraction (fraction ++ rest) = .ok (digits?, rest) := by
  rcases h with rfl | ⟨digits, hd, rfl⟩
  · refine ⟨none, fun _ => rfl, ?_⟩
    rw [List.nil_append, readFraction]
    intro t ht
    exact point (by rw [ht]; rfl)
  · refine ⟨some digits, fun he => (List.cons_ne_nil _ _ he).elim, ?_⟩
    rw [List.cons_append, readFraction, spanDigits_digits hd.2 hr]
    exact if_neg hd.1

theorem readSign_digits {sign digits : List Char} (hs : sign ∈ [[], ['+'], ['-']])
    (hd : IsDigits digits) (rest : List Char) :
    ∃ negative, readSign (sign ++ (digits ++ rest)) = (negative, digits ++ rest) := by
  obtain ⟨c, more, rfl, digit⟩ := hd.head
  simp only [List.mem_cons, List.not_mem_nil, or_false] at hs
  rcases hs with rfl | rfl | rfl
  · refine ⟨false, ?_⟩
    rw [List.nil_append, readSign]
    · intro t ht
      rw [(List.cons.inj ht).1] at digit
      cases digit
    · intro t ht
      rw [(List.cons.inj ht).1] at digit
      cases digit
  · exact ⟨false, rfl⟩
  · exact ⟨true, rfl⟩

theorem readExponent_exponent {exponent rest : List Char} (h : IsExponent exponent)
    (hr : Ends rest) :
    ∃ value?, (exponent = [] → value? = none) ∧
      readExponent (exponent ++ rest) = .ok (value?, rest) := by
  rcases h with rfl | ⟨e, sign, digits, he, hs, hd, rfl⟩
  · refine ⟨none, fun _ => rfl, ?_⟩
    rcases rest with _ | ⟨c, rest⟩
    · rfl
    · obtain ⟨-, -, small, large⟩ := hr c rfl
      exact if_neg (not_or.2 ⟨small, large⟩)
  · obtain ⟨negative, read⟩ := readSign_digits hs hd rest
    refine ⟨some (negative, digits), fun he => (List.cons_ne_nil _ _ he).elim, ?_⟩
    rw [List.cons_append, List.append_assoc, readExponent, if_pos he, read]
    simp only [spanDigits_digits hd.2 hr.noDigit]
    exact if_neg hd.1

/-- What may follow a fraction. -/
theorem noDigit_behindFraction {exponent rest : List Char} (he : IsExponent exponent)
    (hr : Ends rest) : NoDigit (exponent ++ rest) ∧ (exponent ++ rest).head? ≠ some '.' := by
  rcases he with rfl | ⟨e, sign, digits, he, -, -, rfl⟩
  · exact ⟨hr.noDigit, fun hc => (hr _ hc).2.1 rfl⟩
  · constructor
    · intro c hc
      cases hc
      rcases he with rfl | rfl <;> decide
    · intro hc
      cases hc
      rcases he with he | he <;> cases he

/-- What may follow the digits before the point. -/
theorem noDigit_behindWhole {fraction exponent rest : List Char} (hf : IsFraction fraction)
    (he : IsExponent exponent) (hr : Ends rest) : NoDigit (fraction ++ (exponent ++ rest)) := by
  rcases hf with rfl | ⟨digits, -, rfl⟩
  · exact (noDigit_behindFraction he hr).1
  · intro c hc
    cases hc
    decide

/-- A number is read to its end. -/
theorem readNumberText_number {sign whole fraction exponent rest : List Char}
    (hs : sign ∈ [[], ['-']]) (hw : IsWhole whole) (hf : IsFraction fraction)
    (he : IsExponent exponent) (hr : Ends rest) :
    ∃ fraction? exponent?, (fraction = [] → fraction? = none) ∧
      (exponent = [] → exponent? = none) ∧
      readNumberText (sign ++ (whole ++ (fraction ++ (exponent ++ rest)))) =
        .ok (⟨sign = ['-'], whole, fraction?, exponent?⟩, rest) := by
  obtain ⟨noDigit, noPoint⟩ := noDigit_behindFraction he hr
  obtain ⟨fraction?, noFraction, readF⟩ := readFraction_fraction hf noDigit noPoint
  obtain ⟨exponent?, noExponent, readE⟩ := readExponent_exponent he hr
  refine ⟨fraction?, exponent?, noFraction, noExponent, ?_⟩
  have readW := readWhole_whole hw (noDigit_behindWhole hf he hr)
  have signed : (if (sign ++ (whole ++ (fraction ++ (exponent ++ rest)))).head? = some '-' then
      (true, (sign ++ (whole ++ (fraction ++ (exponent ++ rest)))).drop 1)
      else (false, sign ++ (whole ++ (fraction ++ (exponent ++ rest))))) =
      (decide (sign = ['-']), whole ++ (fraction ++ (exponent ++ rest))) := by
    simp only [List.mem_cons, List.not_mem_nil, or_false] at hs
    rcases hs with rfl | rfl
    · obtain ⟨c, more, rfl, digit⟩ := hw.1.head
      have notMinus : c ≠ '-' := by
        rintro rfl
        cases digit
      simp [notMinus]
    · simp
  unfold readNumberText
  rw [signed]
  simp only [readW, readF, readE, bind, Except.bind]

/-! ## 4. Lexemes -/

theorem lexemes_nil : lexemes [] = [] := by rw [lexemes]

/-- Where one lexeme can be cut off, the cut goes on behind it. -/
theorem lexemes_cons {c : Char} {s after : List Char} {token : Token} (solid : isSpace c = false)
    (cut : cutLexeme c s = (token, some after)) :
    lexemes (c :: s) = ⟨token, c :: s, after⟩ :: lexemes after := by
  rw [lexemes, if_neg (by simp [solid])]
  split
  · next h =>
    rw [cut] at h
    cases h
  · next behind h =>
    rw [cut] at h
    cases h
    simp only [cut]

/-- Blanks leave no lexeme. -/
theorem lexemes_blank {blank : List Char} (h : IsBlank blank) (rest : List Char) :
    lexemes (blank ++ rest) = lexemes rest := by
  induction blank with
  | nil => rfl
  | cons c blank ih =>
    have space : isSpace c = true := by
      have first := h c List.mem_cons_self
      simp only [List.mem_cons, List.not_mem_nil, or_false] at first
      rcases first with rfl | rfl | rfl | rfl <;> rfl
    rw [List.cons_append, lexemes, if_pos space]
    exact ih fun d hd => h d (List.mem_cons_of_mem c hd)

/-- Nothing but blanks has no lexemes. -/
theorem lexemes_only_blank {blank : List Char} (h : IsBlank blank) : lexemes blank = [] := by
  have cut := lexemes_blank h []
  rwa [List.append_nil, lexemes_nil] at cut

/-- A text with more than blanks has a lexeme. -/
theorem isBlank_of_lexemes {s : List Char} (h : lexemes s = []) : IsBlank s := by
  induction s with
  | nil => exact isBlank_nil
  | cons c s ih =>
    rw [lexemes] at h
    split at h
    · next space =>
      have first : c ∈ [' ', '\t', '\n', '\r'] := by
        simp only [isSpace, Bool.or_eq_true, beq_iff_eq] at space
        rcases space with ((rfl | rfl) | rfl) | rfl <;> simp
      intro d hd
      rcases List.mem_cons.1 hd with rfl | hd
      · exact first
      · exact ih h d hd
    · split at h <;> cases h

/-- A sign of punctuation is a lexeme. -/
theorem lexemes_sign {c : Char} {token : Token} (h : punctuation? c = some token)
    (rest : List Char) : lexemes (c :: rest) = ⟨token, c :: rest, rest⟩ :: lexemes rest := by
  refine lexemes_cons ?_ (by rw [cutLexeme, h])
  cases space : isSpace c with
  | false => rfl
  | true =>
    simp only [isSpace, Bool.or_eq_true, beq_iff_eq] at space
    rcases space with ((rfl | rfl) | rfl) | rfl <;> cases h

/-- A string is a lexeme, which is worth what it spells. -/
theorem lexemes_string {body : List Char} (h : IsBody body) (rest : List Char) :
    lexemes (quote body ++ rest) =
      ⟨.string (textAt body rest), quote body ++ rest, rest⟩ :: lexemes rest := by
  have flat : quote body ++ rest = '"' :: (body ++ '"' :: rest) := by simp [quote]
  rw [flat]
  refine lexemes_cons rfl ?_
  have cut : cutLexeme '"' (body ++ '"' :: rest) = cutString (body ++ '"' :: rest) := rfl
  rw [cut, cutString, skipString_body h]
  rfl

/-- The lexeme of a literal. -/
theorem lexemes_literal {c : Char} {word : List Char} {v : Value}
    (h : literal? c = some (word, v)) (rest : List Char) :
    lexemes (c :: (word ++ rest)) =
      ⟨.literal v, c :: (word ++ rest), rest⟩ :: lexemes rest := by
  have read (word : List Char) : readLiteral word (word ++ rest) = .ok rest := by
    induction word with
    | nil => rw [List.nil_append, readLiteral]
    | cons a word ih => rw [List.cons_append, readLiteral, if_pos rfl, ih]
  have first : c = 'n' ∨ c = 't' ∨ c = 'f' := by
    by_cases n : c = 'n'
    · exact .inl n
    · by_cases t : c = 't'
      · exact .inr (.inl t)
      · by_cases f : c = 'f'
        · exact .inr (.inr f)
        · rw [literal?, if_neg n, if_neg t, if_neg f] at h
          cases h
  have plain : isSpace c = false ∧ punctuation? c = none ∧ c ≠ '"' ∧
      ¬(c = '-' ∨ c.isDigit = true) := by
    rcases first with rfl | rfl | rfl <;> decide
  refine lexemes_cons plain.1 ?_
  rw [cutLexeme, plain.2.1]
  simp only [if_neg plain.2.2.1, if_neg plain.2.2.2, h, read]

/-- A number as far as it can be read is a lexeme. -/
theorem lexemes_numberText {s rest : List Char} {n : NumberText} {c : Char} {more : List Char}
    (start : s = c :: more) (first : c = '-' ∨ c.isDigit = true)
    (read : readNumberText s = .ok (n, rest)) :
    lexemes s = ⟨.number (n.value (byteLength rest)), s, rest⟩ :: lexemes rest := by
  subst start
  have plain : isSpace c = false ∧ punctuation? c = none ∧ c ≠ '"' := by
    rcases first with rfl | digit
    · decide
    · refine ⟨?_, ?_, by rintro rfl; cases digit⟩
      · simp only [isSpace, Bool.or_eq_false_iff, beq_eq_false_iff_ne]
        refine ⟨⟨⟨?_, ?_⟩, ?_⟩, ?_⟩ <;> rintro rfl <;> cases digit
      · unfold punctuation?
        repeat' (split; (next h => subst h; cases digit))
        rfl
  refine lexemes_cons plain.1 ?_
  rw [cutLexeme, plain.2.1]
  simp only [if_neg plain.2.2, if_pos first, cutNumber, read]

/-- A number is a lexeme. -/
theorem lexemes_number {n rest : List Char} (h : IsNumber n) (hr : Ends rest) :
    ∃ value, lexemes (n ++ rest) = ⟨.number value, n ++ rest, rest⟩ :: lexemes rest := by
  obtain ⟨sign, whole, fraction, exponent, hs, hw, hf, he, rfl⟩ := h
  obtain ⟨fraction?, exponent?, -, -, read⟩ := readNumberText_number hs hw hf he hr
  have flat : sign ++ (whole ++ (fraction ++ exponent)) ++ rest =
      sign ++ (whole ++ (fraction ++ (exponent ++ rest))) := by simp
  have start (t : List Char) :
      ∃ c more, sign ++ (whole ++ t) = c :: more ∧ (c = '-' ∨ c.isDigit = true) := by
    obtain ⟨c, more, rfl, digit⟩ := hw.1.head
    simp only [List.mem_cons, List.not_mem_nil, or_false] at hs
    rcases hs with rfl | rfl
    · exact ⟨c, more ++ t, rfl, .inr digit⟩
    · exact ⟨'-', c :: (more ++ t), rfl, .inl rfl⟩
  obtain ⟨c, more, hc, first⟩ := start (fraction ++ (exponent ++ rest))
  rw [flat]
  exact ⟨_, lexemes_numberText hc first read⟩

/-! ## 5. Items and members -/

/-- An item is its value. -/
theorem lexemes_item {x : Item} (h : x.IsPadded) (tail : List Char) :
    lexemes (x.text ++ tail) = lexemes (x.value ++ (x.behind ++ tail)) := by
  rw [Item.text_append, lexemes_blank h.1]

/-- A member is its name, a colon and its value. -/
theorem lexemes_member {m : Member} (h : m.IsPadded) (body : IsBody m.key) (tail : List Char) :
    ∃ q r c d, lexemes (m.text ++ tail) = ⟨.string (textAt m.key r), q, r⟩ :: ⟨.colon, c, d⟩ ::
      lexemes (m.item.value ++ (m.item.behind ++ tail)) := by
  rw [Member.text_append, lexemes_blank h.1, lexemes_string body, lexemes_blank h.2.1,
    lexemes_sign rfl, lexemes_item h.2.2]
  exact ⟨_, _, _, _, rfl⟩

end Json
end Playtest
