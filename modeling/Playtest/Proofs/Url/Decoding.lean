/-
# Encoded text decoded again

Percent-encoding a text does not change what it stands for, as long as the percent sign and the
hexadecimal digits are not in the set that is encoded (`decodeBytes_encode`).  A percent sign
stays as it is, so two digits behind it stand for a byte before the encoding and after it.

A text without such a pair stands for itself (`decode?_of_plain`).  These two facts together say
when a text can be encoded and read back.
-/
import Playtest.Url.Percent

namespace Playtest
namespace Url

/-! ## 1. Bytes -/

theorem hexValue?_hexDigit {n : Nat} (h : n < 16) : hexValue? (hexDigit n) = some n := by
  have all : ∀ k : Fin 16, hexValue? (hexDigit k) = some k.val := by decide
  exact all ⟨n, h⟩

theorem hexValue?_percent : hexValue? '%' = none := by decide

/-- An encoded byte is decoded to itself. -/
theorem decodeBytes_encodeByte (b : UInt8) (rest : List Char) :
    decodeBytes (encodeByte b ++ rest) = b :: decodeBytes rest := by
  have small : b.toNat < 256 := b.toNat_lt
  have high : hexValue? (hexDigit (b.toNat / 16)) = some (b.toNat / 16) :=
    hexValue?_hexDigit (by omega)
  have low : hexValue? (hexDigit (b.toNat % 16)) = some (b.toNat % 16) :=
    hexValue?_hexDigit (by omega)
  have whole : b.toNat / 16 * 16 + b.toNat % 16 = b.toNat := by omega
  simp only [encodeByte, List.cons_append, List.nil_append, decodeBytes, high, low, whole,
    UInt8.ofNat_toNat]

theorem decodeBytes_encodeChar (c : Char) (rest : List Char) :
    decodeBytes (encodeChar c ++ rest) = String.utf8EncodeChar c ++ decodeBytes rest := by
  rw [encodeChar]
  induction String.utf8EncodeChar c with
  | nil => rfl
  | cons b bytes ih =>
    rw [List.flatMap_cons, List.append_assoc, decodeBytes_encodeByte, ih, List.cons_append]

/-! ## 2. Pairs of digits -/

/-- Two hexadecimal digits stand at the beginning. -/
def startsWithDigits : List Char → Bool
  | a :: b :: _ => (hexValue? a).isSome && (hexValue? b).isSome
  | _ => false

/-- A percent sign with two hexadecimal digits behind it stands somewhere. -/
def hasPair : List Char → Bool
  | [] => false
  | c :: rest => (c == '%' && startsWithDigits rest) || hasPair rest

theorem of_pair {c : Char} {rest : List Char} (h : (c == '%' && startsWithDigits rest) = true) :
    c = '%' ∧ ∃ a b rest' x y, rest = a :: b :: rest' ∧ hexValue? a = some x ∧
      hexValue? b = some y := by
  obtain ⟨sign, start⟩ := Bool.and_eq_true_iff.1 h
  rcases rest with _ | ⟨a, _ | ⟨b, rest⟩⟩
  · cases start
  · cases start
  · obtain ⟨ha, hb⟩ := Bool.and_eq_true_iff.1 start
    obtain ⟨x, hx⟩ := Option.isSome_iff_exists.1 ha
    obtain ⟨y, hy⟩ := Option.isSome_iff_exists.1 hb
    exact ⟨eq_of_beq sign, a, b, rest, x, y, rfl, hx, hy⟩

theorem startsWithDigits_cons {c : Char} (h : hexValue? c = none) (s : List Char) :
    startsWithDigits (c :: s) = false := by
  rcases s with _ | ⟨b, s⟩
  · rfl
  · rw [startsWithDigits, h]
    rfl

theorem startsWithDigits_append {s : List Char} (h : startsWithDigits s = true) (t : List Char) :
    startsWithDigits (s ++ t) = true := by
  rcases s with _ | ⟨a, _ | ⟨b, s⟩⟩
  · cases h
  · cases h
  · exact h

theorem hasPair_append_left {s : List Char} (h : hasPair s = true) (t : List Char) :
    hasPair (s ++ t) = true := by
  induction s with
  | nil => cases h
  | cons c rest ih =>
    refine Bool.or_eq_true_iff.2 ?_
    rcases Bool.or_eq_true_iff.1 h with here | later
    · obtain ⟨sign, start⟩ := Bool.and_eq_true_iff.1 here
      exact .inl (Bool.and_eq_true_iff.2 ⟨sign, startsWithDigits_append start t⟩)
    · exact .inr (ih later)

theorem hasPair_append_right (s : List Char) {t : List Char} (h : hasPair t = true) :
    hasPair (s ++ t) = true := by
  induction s with
  | nil => exact h
  | cons c rest ih => exact Bool.or_eq_true_iff.2 (.inr ih)

/-- A part of a text without pairs has no pairs. -/
theorem noPair_of_part {s t : List Char} (part : s <:+: t) (h : hasPair t = false) :
    hasPair s = false := by
  obtain ⟨front, back, rfl⟩ := part
  rw [Bool.eq_false_iff]
  intro pair
  rw [hasPair_append_left (hasPair_append_right front pair) back] at h
  cases h

/-- A percent sign without digits stands for itself, and so does every other character. -/
theorem decodeBytes_cons {c : Char} {rest : List Char}
    (h : (c == '%' && startsWithDigits rest) = false) :
    decodeBytes (c :: rest) = String.utf8EncodeChar c ++ decodeBytes rest := by
  by_cases hc : c = '%'
  · subst hc
    rcases rest with _ | ⟨a, _ | ⟨b, rest⟩⟩
    · rfl
    · rfl
    · rw [decodeBytes]
      split
      · next x y hx hy =>
        rw [startsWithDigits, hx, hy] at h
        cases h
      · rfl
  · rw [decodeBytes]
    exact fun a b rest' first => absurd first hc

theorem decodeBytes_pair {a b : Char} {x y : Nat} (hx : hexValue? a = some x)
    (hy : hexValue? b = some y) (rest : List Char) :
    decodeBytes ('%' :: a :: b :: rest) = UInt8.ofNat (x * 16 + y) :: decodeBytes rest := by
  rw [decodeBytes, hx, hy]

/-- A text is read pair by pair, and character by character where there is no pair. -/
theorem pair_induction {motive : List Char → Prop} (nil : motive [])
    (pair : ∀ a b rest x y, hexValue? a = some x → hexValue? b = some y → motive rest →
      motive ('%' :: a :: b :: rest))
    (single : ∀ c rest, (c == '%' && startsWithDigits rest) = false → motive rest →
      motive (c :: rest)) (s : List Char) : motive s := by
  fun_induction decodeBytes s with
  | case1 => exact nil
  | case2 a b rest x y hy hx ih => exact pair a b rest x y hx hy ih
  | case3 a b rest alone ih =>
    refine single '%' (a :: b :: rest) ?_ ih
    rw [Bool.eq_false_iff]
    intro start
    obtain ⟨-, _, _, _, x, y, h, hx, hy⟩ := of_pair start
    cases h
    exact alone x y hx hy
  | case4 c rest other ih =>
    refine single c rest ?_ ih
    rw [Bool.eq_false_iff]
    intro start
    obtain ⟨sign, a, b, rest', _, _, h, -, -⟩ := of_pair start
    exact other a b rest' sign h

/-- **A text without pairs stands for itself.** -/
theorem decodeBytes_of_plain {s : List Char} (h : hasPair s = false) :
    decodeBytes s = s.flatMap String.utf8EncodeChar := by
  induction s with
  | nil => rfl
  | cons c rest ih =>
    obtain ⟨here, later⟩ := Bool.or_eq_false_iff.1 h
    rw [decodeBytes_cons here, ih later, List.flatMap_cons]

/-! ## 3. Encoding -/

section

variable {isEncoded : Char → Bool}

theorem encode_cons (c : Char) (s : List Char) :
    encode isEncoded (c :: s) = (if isEncoded c then encodeChar c else [c]) ++ encode isEncoded s :=
  List.flatMap_cons

theorem encode_kept {c : Char} (h : isEncoded c = false) (s : List Char) :
    encode isEncoded (c :: s) = c :: encode isEncoded s := by
  rw [encode_cons, h]
  rfl

/-- What is encoded begins with a percent sign, and this is no digit. -/
theorem encode_encoded {c : Char} (h : isEncoded c = true) (s : List Char) :
    ∃ rest, encode isEncoded (c :: s) = '%' :: rest := by
  rw [encode_cons, h, if_pos rfl, encodeChar]
  rcases hb : String.utf8EncodeChar c with _ | ⟨b, bytes⟩
  · exact absurd hb String.utf8EncodeChar_ne_nil
  · exact ⟨_, rfl⟩

variable (digits : ∀ c, (hexValue? c).isSome = true → isEncoded c = false)

include digits in
/-- Digits stand at the beginning of the encoded text if they do in the text. -/
theorem startsWithDigits_encode (s : List Char) :
    startsWithDigits (encode isEncoded s) = startsWithDigits s := by
  have noDigit {c : Char} (h : isEncoded c = true) : (hexValue? c).isSome = false := by
    rw [Bool.eq_false_iff]
    intro digit
    rw [digits c digit] at h
    cases h
  rcases s with _ | ⟨a, s⟩
  · rfl
  · cases ha : isEncoded a with
    | true =>
      obtain ⟨rest, he⟩ := encode_encoded ha s
      rw [he, startsWithDigits_cons hexValue?_percent]
      rcases s with _ | ⟨b, s⟩
      · rfl
      · rw [startsWithDigits, noDigit ha]
        rfl
    | false =>
      rw [encode_kept ha]
      rcases s with _ | ⟨b, s⟩
      · rfl
      · cases hb : isEncoded b with
        | true =>
          obtain ⟨rest, he⟩ := encode_encoded hb s
          rw [he, startsWithDigits, startsWithDigits, hexValue?_percent, noDigit hb]
          rfl
        | false =>
          rw [encode_kept hb]
          rfl

include digits in
/-- **Encoding does not change what a text stands for**, if percent signs and digits are left as
they are. -/
theorem decodeBytes_encode (percent : isEncoded '%' = false) (s : List Char) :
    decodeBytes (encode isEncoded s) = decodeBytes s := by
  induction s using pair_induction with
  | nil => rfl
  | pair a b rest x y hx hy ih =>
    have ha : isEncoded a = false := digits a (by rw [hx]; rfl)
    have hb : isEncoded b = false := digits b (by rw [hy]; rfl)
    rw [encode_kept percent, encode_kept ha, encode_kept hb, decodeBytes_pair hx hy,
      decodeBytes_pair hx hy, ih]
  | single c rest noPair ih =>
    cases hc : isEncoded c with
    | true =>
      rw [encode_cons, hc, if_pos rfl, decodeBytes_encodeChar, decodeBytes_cons noPair, ih]
    | false =>
      have still : (c == '%' && startsWithDigits (encode isEncoded rest)) = false := by
        rw [startsWithDigits_encode digits]
        exact noPair
      rw [encode_kept hc, decodeBytes_cons still, decodeBytes_cons noPair, ih]

end

/-- The characters of a path that are encoded are no digits. -/
theorem isPathEncoded_of_digit {c : Char} (h : (hexValue? c).isSome = true) :
    isPathEncoded c = false := by
  have ascii : c.toNat < 128 := by
    unfold hexValue? at h
    have val : c.val.toNat = c.toNat := rfl
    simp only [Char.le_def, UInt32.le_iff_toNat_le] at h
    split at h
    · next range => exact val ▸ Nat.lt_of_le_of_lt range.2 (by decide)
    · split at h
      · next range => exact val ▸ Nat.lt_of_le_of_lt range.2 (by decide)
      · split at h
        · next range => exact val ▸ Nat.lt_of_le_of_lt range.2 (by decide)
        · cases h
  have all : ∀ k : Fin 128, (hexValue? (Char.ofNat k)).isSome = true →
      isPathEncoded (Char.ofNat k) = false := by
    decide
  rw [← Char.ofNat_toNat c] at h ⊢
  exact all ⟨c.toNat, ascii⟩ h

/-- The path of a URL stands for what it is written for. -/
theorem decodeBytes_encode_path (s : List Char) :
    decodeBytes (encode isPathEncoded s) = decodeBytes s :=
  decodeBytes_encode (fun _ => isPathEncoded_of_digit) (by decide) s

/-! ## 4. Text -/

theorem toByteArray_utf8 (s : List Char) :
    (⟨(s.flatMap String.utf8EncodeChar).toArray⟩ : ByteArray) = s.utf8Encode := by
  refine ByteArray.ext ?_
  rw [List.utf8Encode]
  exact (Array.toList_inj.1 List.toList_data_toByteArray).symm

/-- The UTF-8 form of a text is read as this text. -/
theorem fromUTF8?_utf8 (s : List Char) :
    String.fromUTF8? ⟨(s.flatMap String.utf8EncodeChar).toArray⟩ = some (String.ofList s) := by
  rw [toByteArray_utf8, String.fromUTF8?, dif_pos ByteArray.isValidUTF8_utf8Encode]
  exact congrArg some (String.toByteArray_inj.1 String.toByteArray_ofList.symm)

/-- Texts with the same UTF-8 form are the same. -/
theorem eq_of_utf8 {s t : List Char}
    (h : s.flatMap String.utf8EncodeChar = t.flatMap String.utf8EncodeChar) : s = t := by
  have read := fromUTF8?_utf8 s
  rw [h, fromUTF8?_utf8] at read
  exact (String.ofList_injective (Option.some.inj read)).symm

/-- **A text without pairs is decoded to itself.** -/
theorem decode?_of_plain {s : List Char} (h : hasPair s = false) :
    decode? s = some (String.ofList s) := by
  rw [decode?, decodeBytes_of_plain h, fromUTF8?_utf8]

/-- What is decoded to a text stands for the bytes of this text. -/
theorem decodeBytes_of_decode? {s t : List Char} (h : decode? s = some (String.ofList t)) :
    decodeBytes s = t.flatMap String.utf8EncodeChar := by
  rw [decode?, String.fromUTF8?] at h
  split at h
  · next valid =>
    have bytes := congrArg String.toByteArray (Option.some.inj h)
    rw [String.toByteArray_ofList, ← toByteArray_utf8] at bytes
    have arrays := congrArg ByteArray.data bytes
    exact congrArg Array.toList arrays
  · cases h

end Url
end Playtest
