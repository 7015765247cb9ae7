/-
# The pairs of a query

A query stands for pairs of a name and a value: it is cut at its ampersands, each part at its first
equals sign, and then plus signs are spaces and percent signs lead bytes.  Bytes that are no text
are replaced, so every query has pairs (`pairs`).

The form in which a name or a value is written holds neither mark, and reads back as it was
(`decodeForm_encodeForm`).  So what is put at the end of a query puts one pair behind the pairs
that it has, whatever those are (`pairs_appendToQuery`), and an interpreter is told the address of
its story without a change (`page_tells_story`).
-/
import Playtest.Proofs.Url.Decoding
import Playtest.Site.Location

namespace Playtest
namespace Url

/-! ## 1. Bytes as text -/

/-- The character whose UTF-8 form the bytes begin with. -/
def firstChar? (bytes : List UInt8) : Option Char := bytes.toByteArray.utf8DecodeChar? 0

/-- A byte that goes on with a character. -/
def isTail (b : UInt8) : Bool := 0x80 ≤ b && b ≤ 0xBF

/-- The byte may stand second behind the first one of a character of three bytes or four. -/
def maySecond (a b : UInt8) : Bool :=
  if a = 0xE0 then 0xA0 ≤ b && b ≤ 0xBF
  else if a = 0xED then 0x80 ≤ b && b ≤ 0x9F
  else if a = 0xF0 then 0x90 ≤ b && b ≤ 0xBF
  else if a = 0xF4 then 0x80 ≤ b && b ≤ 0x8F
  else 0xE0 ≤ a && a ≤ 0xF4 && isTail b

/-- Of bytes that begin with no character: how many there are, less the first one, until it is
clear that they do not. -/
def brokenRest : List UInt8 → Nat
  | a :: b :: rest =>
    if !maySecond a b then 0
    else if 0xF0 ≤ a && rest.head?.any isTail then 2
    else 1
  | _ => 0

/-- The text of bytes, of which the first `n` are left out.  Bytes that are no character are
replaced. -/
def lossyFrom : Nat → List UInt8 → List Char
  | _, [] => []
  | n + 1, _ :: rest => lossyFrom n rest
  | 0, b :: rest =>
    match firstChar? (b :: rest) with
    | some c => c :: lossyFrom (c.utf8Size - 1) rest
    | none => '\uFFFD' :: lossyFrom (brokenRest (b :: rest)) rest

/-- The text of bytes. -/
def lossy (bytes : List UInt8) : List Char := lossyFrom 0 bytes

theorem firstChar?_utf8 (c : Char) (rest : List UInt8) :
    firstChar? (String.utf8EncodeChar c ++ rest) = some c := by
  rw [firstChar?, List.toByteArray_append]
  exact ByteArray.utf8DecodeChar?_utf8EncodeChar_append

theorem lossyFrom_append (front rest : List UInt8) :
    lossyFrom front.length (front ++ rest) = lossyFrom 0 rest := by
  induction front with
  | nil => rfl
  | cons b front ih => exact ih

theorem lossy_utf8EncodeChar (c : Char) (rest : List UInt8) :
    lossy (String.utf8EncodeChar c ++ rest) = c :: lossy rest := by
  have first := firstChar?_utf8 c rest
  have length := String.length_utf8EncodeChar c
  rcases hb : String.utf8EncodeChar c with _ | ⟨b, more⟩
  · exact absurd hb String.utf8EncodeChar_ne_nil
  · rw [hb] at first length
    have size : c.utf8Size - 1 = more.length := by
      rw [← length]
      rfl
    rw [lossy, List.cons_append, lossyFrom, ← List.cons_append, first]
    dsimp only
    rw [size, lossyFrom_append]
    rfl

/-- Nothing is replaced in the UTF-8 form of a text. -/
theorem lossy_utf8 (s : List Char) : lossy (s.flatMap String.utf8EncodeChar) = s := by
  induction s with
  | nil => rfl
  | cons c s ih => rw [List.flatMap_cons, lossy_utf8EncodeChar, ih]

/-! ## 2. Names and values -/

/-- A plus sign stands for a space. -/
def spaced (c : Char) : Char := if c = '+' then ' ' else c

/-- What a name or a value of a query stands for. -/
def decodeForm (s : List Char) : String := String.ofList (lossy (decodeBytes (s.map spaced)))

/-- A byte that stands for itself is a character of one byte, and none of the marks. -/
theorem of_isFormPlain {b : UInt8} (h : isFormPlain b = true) :
    String.utf8EncodeChar (Char.ofNat b.toNat) = [b] ∧
      Char.ofNat b.toNat ∉ ['%', '+', '&', '='] := by
  have all : ∀ k : Fin 256, isFormPlain (UInt8.ofNat k) = true →
      String.utf8EncodeChar (Char.ofNat k) = [UInt8.ofNat k] ∧
        Char.ofNat k ∉ ['%', '+', '&', '='] := by
    decide +kernel
  have this := all ⟨b.toNat, b.toNat_lt⟩
  rw [UInt8.ofNat_toNat] at this
  exact this h

theorem hexDigit_not_mem {n : Nat} (h : n < 16) : hexDigit n ∉ ['+', '&', '='] := by
  have all : ∀ k : Fin 16, hexDigit k ∉ ['+', '&', '='] := by decide
  exact all ⟨n, h⟩

/-- An encoded byte holds none of the marks. -/
theorem not_mem_encodeByte {b : UInt8} {c : Char} (h : c ∈ encodeByte b) :
    c ∉ ['+', '&', '='] := by
  have small : b.toNat < 256 := b.toNat_lt
  simp only [encodeByte, List.mem_cons, List.not_mem_nil, or_false] at h
  rcases h with rfl | rfl | rfl
  · decide
  · exact hexDigit_not_mem (by omega)
  · exact hexDigit_not_mem (by omega)

theorem spaced_eq_self {c : Char} (h : c ∉ ['+', '&', '=']) : spaced c = c := by
  have sign : c ≠ '+' := fun e => h (e ▸ List.mem_cons_self)
  rw [spaced, if_neg sign]

theorem map_spaced_encodeByte (b : UInt8) : (encodeByte b).map spaced = encodeByte b := by
  conv => rhs; rw [← List.map_id (encodeByte b)]
  exact List.map_congr_left fun c hc => spaced_eq_self (not_mem_encodeByte hc)

/-- One byte is read back. -/
theorem decodeBytes_encodeFormByte (b : UInt8) (rest : List Char) :
    decodeBytes ((encodeFormByte b).map spaced ++ rest) = b :: decodeBytes rest := by
  unfold encodeFormByte
  split
  · next plain =>
    obtain ⟨byte, marks⟩ := of_isFormPlain plain
    have sign : Char.ofNat b.toNat ≠ '%' := fun e => marks (e ▸ List.mem_cons_self)
    have self : spaced (Char.ofNat b.toNat) = Char.ofNat b.toNat :=
      spaced_eq_self (List.not_mem_of_not_mem_cons marks)
    have noPair : (Char.ofNat b.toNat == '%' && startsWithDigits rest) = false := by
      rw [beq_false_of_ne sign, Bool.false_and]
    rw [List.map_singleton, self, List.singleton_append, decodeBytes_cons noPair, byte]
    rfl
  · split
    · next blank =>
      have byte : b = 32 := UInt8.toNat_inj.1 blank
      rw [byte]
      exact decodeBytes_cons (c := ' ') rfl
    · rw [map_spaced_encodeByte, decodeBytes_encodeByte]

theorem decodeBytes_encodeFormBytes (bytes : List UInt8) (rest : List Char) :
    decodeBytes ((bytes.flatMap encodeFormByte).map spaced ++ rest) =
      bytes ++ decodeBytes rest := by
  induction bytes with
  | nil => rfl
  | cons b bytes ih =>
    rw [List.flatMap_cons, List.map_append, List.append_assoc, decodeBytes_encodeFormByte, ih,
      List.cons_append]

/-- **A name or a value is read back as it was.** -/
theorem decodeForm_encodeForm (s : String) : decodeForm (encodeForm s) = s := by
  have bytes : decodeBytes ((encodeForm s).map spaced) =
      s.toList.flatMap String.utf8EncodeChar := by
    have whole := decodeBytes_encodeFormBytes (s.toList.flatMap String.utf8EncodeChar) []
    rw [List.append_nil, List.flatMap_assoc] at whole
    exact whole.trans (List.append_nil _)
  rw [decodeForm, bytes, lossy_utf8, String.ofList_toList]

/-- It holds no mark at which a query is cut. -/
theorem not_mem_encodeForm {s : String} {c : Char} (h : c ∈ encodeForm s) :
    c ≠ '&' ∧ c ≠ '=' := by
  obtain ⟨x, -, hx⟩ := List.mem_flatMap.1 h
  obtain ⟨b, -, hb⟩ := List.mem_flatMap.1 hx
  have marks : c ∉ ['&', '='] := by
    unfold encodeFormByte at hb
    split at hb
    · next plain =>
      rw [List.mem_singleton.1 hb]
      intro mark
      exact (of_isFormPlain plain).2 (List.mem_cons_of_mem _ (List.mem_cons_of_mem _ mark))
    · split at hb
      · rw [List.mem_singleton.1 hb]
        decide
      · exact List.not_mem_of_not_mem_cons (not_mem_encodeByte hb)
  exact ⟨fun e => marks (e ▸ List.mem_cons_self),
    fun e => marks (e ▸ List.mem_cons_of_mem _ List.mem_cons_self)⟩

/-! ## 3. Pairs -/

/-- The pair that a part of a query stands for. -/
def pairOf (part : List Char) : String × String :=
  match Text.cutAt? '=' part with
  | some (name, value) => (decodeForm name, decodeForm value)
  | none => (decodeForm part, "")

/-- The pairs that a query stands for. -/
def pairs (query : List Char) : List (String × String) :=
  ((Text.splitAt '&' query).filter (· ≠ [])).map pairOf

/-- Two queries with an ampersand between them have the pairs of both. -/
theorem pairs_append (query more : List Char) :
    pairs (query ++ '&' :: more) = pairs query ++ pairs more := by
  simp only [pairs, Text.splitAt_append_sep, List.filter_append, List.map_append]

theorem pairs_single {part : List Char} (given : part ≠ []) (uncut : '&' ∉ part) :
    pairs part = [pairOf part] := by
  rw [pairs, Text.splitAt_of_not_mem uncut]
  simp [given]

/-- A name and a value, written as a pair. -/
theorem pairs_pair (name value : String) :
    pairs (encodeForm name ++ '=' :: encodeForm value) = [(name, value)] := by
  have uncut : '&' ∉ encodeForm name ++ '=' :: encodeForm value := by
    intro h
    rcases List.mem_append.1 h with h | h
    · exact (not_mem_encodeForm h).1 rfl
    · rcases List.mem_cons.1 h with h | h
      · cases h
      · exact (not_mem_encodeForm h).1 rfl
  have cut : Text.cutAt? '=' (encodeForm name ++ '=' :: encodeForm value) =
      some (encodeForm name, encodeForm value) :=
    Text.cutAt?_append fun h => (not_mem_encodeForm h).2 rfl
  rw [pairs_single (by simp) uncut, pairOf, cut]
  simp only [decodeForm_encodeForm]

/-- A name alone has the empty value. -/
theorem pairs_name {name : String} (given : encodeForm name ≠ []) :
    pairs (encodeForm name) = [(name, "")] := by
  have uncut : '&' ∉ encodeForm name := fun h => (not_mem_encodeForm h).1 rfl
  have whole : Text.cutAt? '=' (encodeForm name) = none :=
    Text.cutAt?_of_not_mem fun h => (not_mem_encodeForm h).2 rfl
  rw [pairs_single given uncut, pairOf, whole]
  simp only [decodeForm_encodeForm]

/-- The text of the query of a URL, which may be missing. -/
def queryText (url : Url) : List Char := url.query?.getD []

/-- **What is put at the end of a query leaves its pairs alone.** -/
theorem pairs_appendToQuery (url : Url) (item : List Char) :
    pairs (url.appendToQuery item).queryText = pairs url.queryText ++ pairs item := by
  simp only [queryText, appendToQuery, Option.getD_some]
  split
  · next none =>
    rw [none]
    rfl
  · exact pairs_append _ _

/-- The query that was there stands at the beginning. -/
theorem prefix_appendToQuery (url : Url) (item : List Char) :
    url.queryText <+: (url.appendToQuery item).queryText := by
  simp only [queryText, appendToQuery, Option.getD_some]
  split
  · next none =>
    rw [none]
    exact List.nil_prefix
  · exact List.prefix_append _ _

end Url

/-! ## 4. The page of a run -/

namespace PageAddress

open Url (pairs queryText)

/-- The pair that names the story, if there is one. -/
def story? (address : PageAddress) : Option (String × String) :=
  address.game?.map fun game => ("story", game.href)

/-- The pair that asks not to resume an earlier session. -/
def afresh : String × String := ("do_vm_autosave", "")

/-- The page before it is asked not to resume. -/
def told (address : PageAddress) : Url :=
  match address.game? with
  | none => address.interpreter
  | some game => address.interpreter.appendPair "story" game.href

theorem pairs_told (address : PageAddress) :
    pairs address.told.queryText =
      pairs address.interpreter.queryText ++ address.story?.toList := by
  unfold told story?
  cases address.game? with
  | none => exact (List.append_nil _).symm
  | some game =>
    dsimp only [Url.appendPair]
    rw [Url.pairs_appendToQuery, Url.pairs_pair]
    rfl

theorem prefix_told (address : PageAddress) :
    address.interpreter.queryText <+: address.told.queryText := by
  unfold told
  cases address.game? with
  | none => exact List.prefix_rfl
  | some game => exact Url.prefix_appendToQuery _ _

/-- Nothing but the query is changed. -/
theorem url_eq (address : PageAddress) :
    address.url = { address.interpreter with query? := some address.url.queryText } := by
  unfold url
  cases address.game? <;> rfl

theorem pairs_url (address : PageAddress) :
    pairs address.url.queryText =
      pairs address.interpreter.queryText ++ address.story?.toList ++ [afresh] := by
  have url : address.url = address.told.appendName "do_vm_autosave" := rfl
  have name : Url.encodeForm "do_vm_autosave" ≠ [] := by decide
  rw [url, Url.appendName, Url.pairs_appendToQuery, pairs_told, Url.pairs_name name]
  rfl

/-- Whatever stories the interpreter was told of, the last one is that of the run. -/
theorem getLast?_story {address : PageAddress} {game : Url} (h : address.game? = some game) :
    ((pairs address.url.queryText).filter (·.1 = "story")).getLast? =
      some ("story", game.href) := by
  have story : address.story? = some ("story", game.href) := by
    rw [story?, h]
    rfl
  rw [pairs_url, story, List.filter_append, List.filter_append]
  simp [afresh]

/-- **The page tells the story.**  The pairs of its query are those of the interpreter, in their
order, then the one that names the story, if there is one, and then the one that asks not to
resume.  The address of the story is the last value under its name, character for character.  The
query of the interpreter stands at the beginning, and every other part of its URL is kept. -/
theorem page_tells_story (address : PageAddress) :
    let interpreter := address.interpreter
    let page := address.url
    pairs page.queryText =
        pairs interpreter.queryText ++
          (address.game?.map fun game => ("story", game.href)).toList ++
          [("do_vm_autosave", "")] ∧
      (∀ game, address.game? = some game →
        ((pairs page.queryText).filter (·.1 = "story")).getLast? = some ("story", game.href)) ∧
      interpreter.queryText <+: page.queryText ∧
      page = { interpreter with query? := some page.queryText } :=
  ⟨pairs_url address, fun _ given => getLast?_story given,
    (prefix_told address).trans (Url.prefix_appendToQuery _ _), url_eq address⟩

end PageAddress
end Playtest
