/-
# Names of keys

A payload of a character input names a key.  This file says which payload names which key without
the reader (`DownKey.IsMeantBy`, `DownKey.HasCode`), and proves that the reader agrees for every
payload (`keys_resolve`).

The number of a function key may be written with any number of digits.  It is read into a word of
32 bits, and what counts is the number that the digits denote: digits that do not fit name no key,
as if they had been read to their end (`Text.natUpTo?_eq_some_iff`).
-/
import Playtest.Bridge.Keystroke

namespace Playtest
namespace Keystroke

/-! ## 1. Keys that go down -/

/-- A key that goes down: one with a name, or a function key with its number. -/
inductive DownKey where
  | named (name : String)
  | function (number : Nat)
  deriving DecidableEq, Repr

namespace DownKey

/-- The code of a key.  There are eleven keys with a name and twelve function keys. -/
inductive HasCode : DownKey → Nat → Prop where
  | named {name : String} {code : Nat} (listed : (name, code) ∈ namedKeys) :
    HasCode (.named name) code
  | function {n : Nat} (low : 1 ≤ n) (high : n ≤ 12) : HasCode (.function n) (111 + n)

/-- The payload means the key: it is the name of the key, or `func` and a numeral of its number. -/
inductive IsMeantBy : DownKey → String → Prop where
  | named (name : String) : IsMeantBy (.named name) name
  | function {payload : String} {numeral : List Char} {n : Nat}
    (text : payload.toList = "func".toList ++ numeral) (h : Text.IsNumeral numeral n) :
    IsMeantBy (.function n) payload

/-- The codes with a name are those of no function key, and each of them has one name. -/
theorem eq_of_mem_namedKeys :
    ∀ p ∈ namedKeys, p.2 < 112 ∧ ∀ q ∈ namedKeys, p.2 = q.2 → p.1 = q.1 := by
  decide

/-- **Keys with the same code are the same key.** -/
theorem HasCode.injective {key key' : DownKey} {code : Nat} (h : key.HasCode code)
    (h' : key'.HasCode code) : key = key' := by
  cases h with
  | named listed =>
    obtain ⟨low, unique⟩ := eq_of_mem_namedKeys _ listed
    cases h' with
    | named listed' => exact congrArg DownKey.named (unique _ listed' rfl)
    | function low' high' =>
      dsimp only at low
      omega
  | @function n low high =>
    generalize hc : 111 + n = c at h'
    cases h' with
    | named listed' =>
      have := (eq_of_mem_namedKeys _ listed').1
      dsimp only at this
      omega
    | @function n' low' high' =>
      have same : n = n' := by omega
      rw [same]

/-- No code is greater than that of the last function key. -/
theorem HasCode.le {key : DownKey} {code : Nat} (h : key.HasCode code) : code ≤ 123 := by
  cases h with
  | named listed =>
    have low := (eq_of_mem_namedKeys _ listed).1
    dsimp only at low
    omega
  | function low high => omega

end DownKey

/-- The payload means a key with this code that goes down. -/
def GoesDown (payload : String) (code : Nat) : Prop :=
  ∃ key : DownKey, key.IsMeantBy payload ∧ key.HasCode code

/-! ## 2. Names that are read -/

/-- No name is listed twice. -/
theorem lookup_of_mem_namedKeys : ∀ p ∈ namedKeys, namedKeys.lookup p.1 = some p.2 := by
  decide

theorem mem_of_lookup {payload : String} {code : Nat} (h : namedKeys.lookup payload = some code) :
    (payload, code) ∈ namedKeys := by
  obtain ⟨front, behind, split, -⟩ := List.lookup_eq_some_iff.1 h
  simp [split]

/-- No listed name begins like that of a function key. -/
theorem not_mem_of_func {payload : String} {numeral : List Char}
    (text : payload.toList = "func".toList ++ numeral) (code : Nat) :
    (payload, code) ∉ namedKeys := by
  intro listed
  have plain : ∀ p ∈ namedKeys, Text.after? "func".toList p.1.toList = none := by decide
  have begins : Text.after? "func".toList payload.toList = some numeral :=
    Text.after?_eq_some_iff.2 text
  rw [plain _ listed] at begins
  cases begins

theorem functionKey?_eq_some_iff {payload : String} {code : Nat} :
    functionKey? payload = some code ↔
      ∃ n, (DownKey.function n).IsMeantBy payload ∧ (DownKey.function n).HasCode code := by
  have bound : 12 ≤ Nat.pow 2 32 - 1 := by decide
  simp only [functionKey?, Option.bind_eq_bind, Option.bind_eq_some_iff,
    Text.after?_eq_some_iff, Text.natUpTo?_eq_some_iff]
  constructor
  · rintro ⟨numeral, text, n, ⟨h, -⟩, read⟩
    split at read
    · next range =>
      cases read
      exact ⟨n, .function text h, .function range.1 range.2⟩
    · cases read
  · rintro ⟨n, meant, coded⟩
    cases meant with
    | function text h =>
      cases coded with
      | function low high =>
        exact ⟨_, text, n, ⟨h, Nat.le_trans high bound⟩, if_pos ⟨low, high⟩⟩

/-- **A payload is read as a key that goes down exactly if it means one.** -/
theorem downKey?_eq_some_iff {payload : String} {code : Nat} :
    downKey? payload = some code ↔ GoesDown payload code := by
  rw [downKey?]
  constructor
  · intro h
    split at h
    · next listed =>
      cases h
      exact ⟨_, .named payload, .named (mem_of_lookup listed)⟩
    · obtain ⟨n, meant, coded⟩ := functionKey?_eq_some_iff.1 h
      exact ⟨_, meant, coded⟩
  · rintro ⟨key, meant, coded⟩
    cases meant with
    | named =>
      cases coded with
      | named listed =>
        have found : namedKeys.lookup payload = some code := lookup_of_mem_namedKeys _ listed
        rw [found]
    | @function _ numeral n text h =>
      split
      · next listed => exact absurd (mem_of_lookup listed) (not_mem_of_func text _)
      · exact functionKey?_eq_some_iff.2 ⟨n, .function text h, coded⟩

/-- A numeral behind `func` goes down exactly if its number is that of a function key. -/
theorem goesDown_of_func {payload : String} {numeral : List Char} {n code : Nat}
    (text : payload.toList = "func".toList ++ numeral) (h : Text.IsNumeral numeral n) :
    GoesDown payload code ↔ (1 ≤ n ∧ n ≤ 12) ∧ code = 111 + n := by
  constructor
  · rintro ⟨key, meant, coded⟩
    cases meant with
    | named =>
      cases coded with
      | named listed => exact absurd listed (not_mem_of_func text code)
    | function text' h' =>
      have same := List.append_cancel_left (text.symm.trans text')
      rw [h.unique (same ▸ h')]
      cases coded with
      | function low high => exact ⟨⟨low, high⟩, rfl⟩
  · rintro ⟨⟨low, high⟩, rfl⟩
    exact ⟨.function n, .function text h, .function low high⟩

/-! ## 3. All payloads -/

/-- The code of the key that is pressed for a payload which means none that goes down. -/
def pressed (payload : String) : Nat :=
  match payload.toList with
  | [] => 13
  | c :: _ => if payload = "return" then 13 else if payload = "space" then 32 else c.toNat

theorem ofPayload_of_goesDown {payload : String} {code : Nat} (h : GoesDown payload code) :
    ofPayload payload = ⟨.keydown, code⟩ := by
  have down := downKey?_eq_some_iff.2 h
  have others : ∀ name ∈ ["", "return", "space"], payload ≠ name := by
    rintro name listed rfl
    have none : ∀ name ∈ ["", "return", "space"], downKey? name = none := by decide
    rw [none _ listed] at down
    cases down
  rw [ofPayload, if_neg, if_neg (others "space" (by decide)), down]
  rintro (empty | enter)
  · exact others "" (by decide) empty
  · exact others "return" (by decide) enter

theorem ofPayload_of_not_goesDown {payload : String} (h : ∀ code, ¬GoesDown payload code) :
    ofPayload payload = ⟨.keypress, pressed payload⟩ := by
  have none : downKey? payload = none :=
    Option.eq_none_iff_forall_ne_some.2 fun code down => h code (downKey?_eq_some_iff.1 down)
  rw [ofPayload, pressed, none]
  rcases text : payload.toList with _ | ⟨c, rest⟩
  · have empty : payload = "" := String.toList_eq_nil_iff.1 text
    rw [if_pos (.inl empty)]
    rfl
  · have full : payload ≠ "" := fun empty => by simp [empty] at text
    dsimp only
    by_cases enter : payload = "return"
    · rw [if_pos (.inr enter), if_pos enter]
      rfl
    · rw [if_neg (not_or.2 ⟨full, enter⟩), if_neg enter]
      split
      · rfl
      · rfl

/-- The code of a key that is pressed is that of a character. -/
theorem pressed_le (payload : String) : pressed payload ≤ 0x10FFFF := by
  unfold pressed
  split
  · decide
  · next c rest text =>
    split
    · decide
    · split
      · decide
      · have valid : c.toNat < 0xD800 ∨ 0xDFFF < c.toNat ∧ c.toNat < 0x110000 := c.valid
        omega

/-- The code of a key that is typed is that of a character at most. -/
theorem which_ofPayload (payload : String) : (ofPayload payload).which ≤ 0x10FFFF := by
  by_cases h : ∃ code, GoesDown payload code
  · obtain ⟨code, key, meant, coded⟩ := h
    rw [ofPayload_of_goesDown ⟨key, meant, coded⟩]
    exact Nat.le_trans coded.le (by decide)
  · rw [ofPayload_of_not_goesDown (not_exists.1 h)]
    exact pressed_le payload

/-- Whatever begins like the name of a function key and is none presses its first letter. -/
theorem pressed_of_func {payload : String} {numeral : List Char}
    (text : payload.toList = "func".toList ++ numeral) : pressed payload = 'f'.toNat := by
  have others : ∀ name ∈ ["return", "space"], payload ≠ name := by
    rintro name listed rfl
    have none : ∀ name ∈ ["return", "space"], Text.after? "func".toList name.toList = none := by
      decide
    have begins := Text.after?_eq_some_iff.2 text
    rw [none _ listed] at begins
    cases begins
  rw [pressed, text]
  change (if payload = "return" then 13 else if payload = "space" then 32 else 'f'.toNat) = _
  rw [if_neg (others _ (by decide)), if_neg (others _ (by decide))]

/-- **Digits behind `func` are taken for the number that they denote**, with any number of zeros
before them and however many digits there are. -/
theorem ofPayload_func (zeros : Nat) {digits : List Char} (ne : digits ≠ [])
    (all : ∀ c ∈ digits, c.isDigit = true) :
    ofPayload (String.ofList ("func".toList ++ (List.replicate zeros '0' ++ digits))) =
      if 1 ≤ Text.digitsValue digits ∧ Text.digitsValue digits ≤ 12 then
        ⟨.keydown, 111 + Text.digitsValue digits⟩
      else ⟨.keypress, 'f'.toNat⟩ := by
  have numeral : Text.IsNumeral (List.replicate zeros '0' ++ digits) (Text.digitsValue digits) := by
    refine ⟨_, .inl rfl, by simp [ne], ?_, Text.digitsValue_zeros zeros digits⟩
    intro c hc
    rcases List.mem_append.1 hc with zero | digit
    · rw [List.eq_of_mem_replicate zero]
      rfl
    · exact all c digit
  have text := String.toList_ofList (l := "func".toList ++ (List.replicate zeros '0' ++ digits))
  split
  · next range => exact ofPayload_of_goesDown ((goesDown_of_func text numeral).2 ⟨range, rfl⟩)
  · next range =>
    rw [ofPayload_of_not_goesDown fun code down => range ((goesDown_of_func text numeral).1 down).1,
      pressed_of_func text]

/-- **Keys resolve without wrap-around.**  A payload is a key that goes down exactly if it means
one, and has its code.  Any other payload is a key that is pressed: the return key, the space bar,
or its first character.  Two keys that go down never have the same code.

So digits name a function key if and only if the number that they denote is from one to twelve, with
any number of zeros before it and however many digits there are; any others press the key of their
first letter. -/
theorem keys_resolve (payload : String) (key : Keystroke) :
    (ofPayload payload = key ↔
      (∃ code, GoesDown payload code ∧ key = ⟨.keydown, code⟩) ∨
      ((∀ code, ¬GoesDown payload code) ∧ key = ⟨.keypress, pressed payload⟩)) ∧
    (∀ down down' : DownKey, ∀ code, down.HasCode code → down'.HasCode code → down = down') ∧
    ∀ (zeros : Nat) (digits : List Char), digits ≠ [] → (∀ c ∈ digits, c.isDigit = true) →
      ofPayload (String.ofList ("func".toList ++ (List.replicate zeros '0' ++ digits))) =
        if 1 ≤ Text.digitsValue digits ∧ Text.digitsValue digits ≤ 12 then
          ⟨.keydown, 111 + Text.digitsValue digits⟩
        else ⟨.keypress, 'f'.toNat⟩ := by
  refine ⟨?_, fun _ _ _ => DownKey.HasCode.injective, fun zeros _ => ofPayload_func zeros⟩
  constructor
  · rintro rfl
    by_cases h : ∃ code, GoesDown payload code
    · obtain ⟨code, down⟩ := h
      exact .inl ⟨code, down, ofPayload_of_goesDown down⟩
    · have none := not_exists.1 h
      exact .inr ⟨none, ofPayload_of_not_goesDown none⟩
  · rintro (⟨code, down, rfl⟩ | ⟨none, rfl⟩)
    · exact ofPayload_of_goesDown down
    · exact ofPayload_of_not_goesDown none

end Keystroke
end Playtest
