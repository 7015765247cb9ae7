/-
# References that stand for themselves

A reference to names, seen from a server, leads to the path of these names if every character of
it stands for itself (`IsPlain`, `join_of_isPlain`): the path is the encoded reference behind a
slash, and it decodes to the reference.

No other reference does (`isPlain_of_join`).  A path that decodes to all of the reference lost no
byte of it, so nothing was cut off, left out or taken away (`yields_join`), and no character was
read as another one.
-/
import Mathlib.Data.List.TakeWhile
import Playtest.Proofs.Files.Cleaning
import Playtest.Proofs.Url.Bounds

namespace Playtest
namespace Url

open Playtest.Path (IsName)

/-! ## 1. Segments of a path -/

/-- Without backslashes the segments are the parts between slashes. -/
theorem segments_eq_splitAt {kind : SchemeKind} {s : List Char} (h : '\\' ∉ s) :
    segments kind s = Text.splitAt '/' s := by
  induction s with
  | nil => rfl
  | cons c rest ih =>
    have hc : c ≠ '\\' := fun e => List.ne_of_not_mem_cons h e.symm
    have slash : isSlash kind c = true ↔ c = '/' := by simp [isSlash, hc]
    by_cases hs : c = '/'
    · rw [segments, if_pos (slash.2 hs), Text.splitAt, if_pos hs,
        ih (List.not_mem_of_not_mem_cons h)]
    · rw [segments, if_neg (mt slash.1 hs), ih (List.not_mem_of_not_mem_cons h)]
      exact (if_neg hs).symm

theorem encode_append {isEncoded : Char → Bool} (s t : List Char) :
    encode isEncoded (s ++ t) = encode isEncoded s ++ encode isEncoded t :=
  List.flatMap_append

/-- The point forms stand for a point. -/
theorem decodeBytes_pointForms :
    ∀ form ∈ pointForms, decodeBytes form = ['.'].flatMap String.utf8EncodeChar := by
  decide

theorem decodeBytes_twoPoints : ∀ a ∈ pointForms, ∀ b ∈ pointForms,
    decodeBytes (a ++ b) = ['.', '.'].flatMap String.utf8EncodeChar := by
  decide

theorem decodeBytes_encode_of_plain {s : List Char} (h : hasPair s = false) :
    decodeBytes (encode isPathEncoded s) = s.flatMap String.utf8EncodeChar := by
  rw [decodeBytes_encode_path, decodeBytes_of_plain h]

/-- A name without pairs is no point form, and it stays none when it is encoded. -/
theorem isSteps_of_isName {name : List Char} (h : IsName name) (plain : hasPair name = false) :
    isSteps name = false := by
  refine Bool.or_eq_false_iff.2 ⟨?_, ?_⟩
  · rw [Bool.eq_false_iff]
    intro point
    have bytes := decodeBytes_pointForms _ (List.contains_iff_mem.1 point)
    rw [decodeBytes_encode_of_plain plain] at bytes
    exact h.notCurrent (eq_of_utf8 bytes)
  · rw [Bool.eq_false_iff]
    intro points
    simp only [isTwoPoints, List.any_eq_true, decide_eq_true_eq] at points
    obtain ⟨a, ha, b, hb, he⟩ := points
    have bytes := decodeBytes_twoPoints a ha b hb
    rw [← he, decodeBytes_encode_of_plain plain] at bytes
    exact h.notParent (eq_of_utf8 bytes)

/-- Segments that are no point forms are put behind a path as they are, encoded. -/
theorem addSegments_put {path : List Char} {parts : List (List Char)}
    (h : ∀ part ∈ parts, isSteps part = false) :
    (addSegments .machine path parts).1 =
      path ++ encode isPathEncoded (Text.joinWith ['/'] parts) := by
  have put (path : List Char) {part : List Char} (closed : Bool) (hp : isSteps part = false) :
      (addSegment .machine path part closed).1 =
        path ++ encode isPathEncoded part ++ if closed then ['/'] else [] := by
    obtain ⟨one, two⟩ := Bool.or_eq_false_iff.1 hp
    rw [addSegment_machine, one, two, if_neg Bool.false_ne_true, if_neg Bool.false_ne_true]
  induction parts generalizing path with
  | nil => exact (List.append_nil path).symm
  | cons part parts ih =>
    have first := h part List.mem_cons_self
    rcases parts with _ | ⟨next, parts⟩
    · exact (put _ false first).trans (List.append_nil _)
    · have slash : encode isPathEncoded ['/'] = ['/'] := by decide
      rw [addSegments_cons_cons, ih fun p hp => h p (List.mem_cons_of_mem _ hp), put _ true first,
        joinWith_cons_cons, encode_append, encode_append, slash, if_pos rfl, List.append_assoc,
        List.append_assoc, List.append_assoc]

/-! ## 2. References that stand for themselves -/

/-- Every character of the reference stands for itself: none of them begins a query or a fragment,
is read as a slash or left out, no pair stands for a byte, the first name holds no scheme, and no
blank or control character stands at either end. -/
structure IsPlain (s : List Char) : Prop where
  unmarked : ∀ c ∈ s, c ∉ ['?', '#', '\\', '\t', '\n', '\r']
  noPair : hasPair s = false
  noScheme : cutScheme? s = none
  starts : ∀ c ∈ s.head?, 0x20 < c.toNat
  ends : ∀ c ∈ s.getLast?, 0x20 < c.toNat

/-- A plain reference is told from others by looking at its characters one after another. -/
theorem isPlain_iff {s : List Char} :
    IsPlain s ↔ (s.all fun c => decide (c ∉ ['?', '#', '\\', '\t', '\n', '\r'])) = true ∧
      hasPair s = false ∧ (cutScheme? s).isNone = true ∧
      (s.head?.all fun c => decide (0x20 < c.toNat)) = true ∧
      (s.getLast?.all fun c => decide (0x20 < c.toNat)) = true := by
  simp only [List.all_eq_true, Option.all_eq_true, decide_eq_true_eq, Option.isNone_iff_eq_none]
  constructor
  · exact fun h => ⟨h.unmarked, h.noPair, h.noScheme, h.starts, h.ends⟩
  · rintro ⟨unmarked, noPair, noScheme, starts, ends⟩
    exact ⟨unmarked, noPair, noScheme, starts, ends⟩

instance (s : List Char) : Decidable (IsPlain s) := decidable_of_iff _ isPlain_iff.symm

theorem IsPlain.ne {s : List Char} (h : IsPlain s) {c : Char} (hc : c ∈ s) :
    c ≠ '?' ∧ c ≠ '#' ∧ c ≠ '\\' ∧ c ≠ '\t' ∧ c ≠ '\n' ∧ c ≠ '\r' := by
  simpa using h.unmarked c hc

/-- Nothing in such a reference is left out. -/
theorem cleaned_of_isPlain {s : List Char} (h : IsPlain s) : cleaned (String.ofList s) = s :=
  cleaned_eq_self h.starts h.ends fun _ hc => (h.ne hc).2.2.2

/-- Such a reference has no query and no fragment. -/
theorem isTailMark_of_isPlain {s : List Char} (h : IsPlain s) {c : Char} (hc : c ∈ s) :
    isTailMark c = false := by
  obtain ⟨question, sharp, -⟩ := h.ne hc
  simp [isTailMark, question, sharp]

theorem beforeTail_of_isPlain {s : List Char} (h : IsPlain s) : beforeTail s = s := by
  refine List.takeWhile_eq_self_iff.2 fun c hc => ?_
  rw [isTailMark_of_isPlain h hc]
  rfl

theorem hierarchical_of_isPlain {s : List Char} (h : IsPlain s) (scheme : String)
    (authority? : Option Authority) (path : List Char) :
    hierarchical scheme authority? path s = ⟨scheme, authority?, .path path, none, none⟩ := by
  have noTail : tailOf s = [] := by
    refine List.dropWhile_eq_nil_iff.2 fun c hc => ?_
    rw [isTailMark_of_isPlain h hc]
    rfl
  rw [hierarchical, withTail, noTail]
  rfl

/-! ## 3. References to names -/

section

variable {base : Url} {names : List (List Char)} (hne : names ≠ [])
  (proper : ∀ name ∈ names, IsName name)

include hne proper

/-- The reference does not begin with a slash, so it is seen from the directory of its base. -/
theorem exists_first : ∃ a rest, Text.joinWith ['/'] names = a :: rest ∧ a ≠ '/' := by
  rcases names with _ | ⟨_ | ⟨a, name⟩, names⟩
  · exact absurd rfl hne
  · exact absurd rfl (proper [] List.mem_cons_self).nonempty
  · have ha : a ≠ '/' := fun e =>
      (proper (a :: name) List.mem_cons_self).noSlash (e ▸ List.mem_cons_self)
    rcases names with _ | ⟨next, names⟩
    · exact ⟨a, name, rfl, ha⟩
    · exact ⟨a, _, rfl, ha⟩

variable (plain : IsPlain (Text.joinWith ['/'] names))

include plain

/-- The names are put behind the slash of the server. -/
theorem readPath_of_isPlain :
    (readPath .machine ['/'] (Text.joinWith ['/'] names)).1 =
      '/' :: encode isPathEncoded (Text.joinWith ['/'] names) := by
  have backslash : '\\' ∉ Text.joinWith ['/'] names := fun hm => (plain.ne hm).2.2.1 rfl
  have cut : segments .machine (Text.joinWith ['/'] names) = names := by
    rw [segments_eq_splitAt backslash]
    exact Text.splitAt_joinWith hne fun name hn => (proper name hn).noSlash
  have each : ∀ name ∈ names, isSteps name = false := fun name hn => by
    have noPair : hasPair name = false :=
      noPair_of_part (Text.infix_joinWith hn) plain.noPair
    exact isSteps_of_isName (proper name hn) noPair
  rw [readPath_machine, cut, addSegments_put each]
  rfl

variable (hk : base.kind = .machine) (hp : base.place = .path ['/'])

include hk hp

theorem readRelative_of_isPlain [Idna] :
    readRelative base (Text.joinWith ['/'] names) = .ok
      ⟨base.scheme, base.authority?,
        .path ('/' :: encode isPathEncoded (Text.joinWith ['/'] names)), none, none⟩ := by
  obtain ⟨a, rest, hs, ha⟩ := exists_first hne proper
  have start : base.pathText = ['/'] := by rw [pathText, hp]
  have first : readRelative base (Text.joinWith ['/'] names) = .ok
      (hierarchical base.scheme base.authority?
        (readPath .machine ['/'] (beforeTail (Text.joinWith ['/'] names))).1
        (Text.joinWith ['/'] names)) := by
    obtain ⟨question, sharp, backslash, -⟩ := plain.ne (hs ▸ List.mem_cons_self : a ∈ _)
    rw [hs]
    unfold readRelative
    split
    · next e => cases e
    · next e => exact absurd (List.cons.inj e).1 question
    · next e => exact absurd (List.cons.inj e).1 sharp
    · next b rest' _ _ e =>
      cases e
      rw [if_neg (not_or.2 ⟨ha, backslash⟩), start, hk]
      rfl
  rw [first, beforeTail_of_isPlain plain, readPath_of_isPlain hne proper plain,
    hierarchical_of_isPlain plain]

/-- **What a plain reference names**, seen from a server. -/
theorem join_of_isPlain [Idna] :
    base.join (String.ofList (Text.joinWith ['/'] names)) = .ok
      ⟨base.scheme, base.authority?,
        .path ('/' :: encode isPathEncoded (Text.joinWith ['/'] names)), none, none⟩ := by
  rw [join, read]
  simp only [cleaned_of_isPlain plain, plain.noScheme, hp, hk]
  split
  · next e => exact absurd rfl (plain.ne (e ▸ List.mem_cons_self : '#' ∈ _)).2.1
  · next place _ => cases place
  · exact readRelative_of_isPlain hne proper plain hk hp

end

/-! ## 4. Other references -/

theorem cleaned_sublist (s : List Char) : (cleaned (String.ofList s)).Sublist s := by
  rw [cleaned, String.toList_ofList]
  exact List.filter_sublist.trans (Text.dropWhileEnd_sublist.trans (List.dropWhile_sublist _))

/-- If nothing is left out of a text, it has no blanks at its ends and no line breaks. -/
theorem of_cleaned_eq {s : List Char} (h : cleaned (String.ofList s) = s) :
    (∀ c ∈ s.head?, 0x20 < c.toNat) ∧ (∀ c ∈ s.getLast?, 0x20 < c.toNat) ∧
      ∀ c ∈ s, c ≠ '\t' ∧ c ≠ '\n' ∧ c ≠ '\r' := by
  let isEdge (c : Char) : Bool := decide (c.toNat ≤ 0x20)
  have noEdge {c : Char} (hc : isEdge c = false) : 0x20 < c.toNat :=
    Nat.not_le.1 (of_decide_eq_false hc)
  rw [cleaned, String.toList_ofList] at h
  have first := List.dropWhile_sublist isEdge (l := s)
  have last : ((s.dropWhile isEdge).reverse.dropWhile isEdge).reverse.Sublist
      (s.dropWhile isEdge) :=
    Text.dropWhileEnd_sublist
  have kept : s.Sublist ((s.dropWhile isEdge).reverse.dropWhile isEdge).reverse := by
    have part := List.filter_sublist (p := fun c => c ≠ '\t' && c ≠ '\n' && c ≠ '\r')
      (l := ((s.dropWhile isEdge).reverse.dropWhile isEdge).reverse)
    rwa [h] at part
  -- every step keeps what it is given
  have front : s.dropWhile isEdge = s := first.antisymm (kept.trans last)
  rw [front] at last kept
  have back : (s.reverse.dropWhile isEdge).reverse = s := last.antisymm kept
  refine ⟨fun c hc => noEdge (Text.head?_of_dropWhile_eq front hc),
    fun c hc => noEdge (Text.getLast?_of_dropWhileEnd_eq back hc), fun c hc => ?_⟩
  have text := List.filter_eq_self.1 (by rwa [front, back] at h) c hc
  simpa [and_assoc] using text

section

variable {base url : Url} {s : List Char}

/-- If the segments stand for all of the text, all of its characters stand for themselves. -/
theorem of_decodeBytes_segments
    (h : decodeBytes (Text.joinWith ['/'] (segments .machine s)) =
      s.flatMap String.utf8EncodeChar) :
    '\\' ∉ s ∧ hasPair s = false := by
  have noPair : hasPair (Text.joinWith ['/'] (segments .machine s)) = false := by
    have less := meant_add_pair (Text.joinWith ['/'] (segments .machine s))
    rw [meant, h, size_joinWith_segments] at less
    exact Bool.toNat_eq_zero.1 (Nat.le_zero.1 (Nat.le_of_add_le_add_left less))
  have same : Text.joinWith ['/'] (segments .machine s) = s := by
    rw [decodeBytes_of_plain noPair] at h
    exact eq_of_utf8 h
  refine ⟨fun hc => ?_, by rwa [same] at noPair⟩
  rw [joinWith_segments] at same
  have slash := List.map_inj_left.1 (same.trans (List.map_id s).symm) '\\' hc
  exact absurd slash (by decide)

variable (hk : base.kind = .machine) (hp : base.place = .path ['/'])

include hk hp

/-- **Only a plain reference names its own text.**  If the URL is on the machine of the base and
its path decodes to the reference, then every character of the reference stands for itself. -/
theorem isPlain_of_join [Idna] (h : base.join (String.ofList s) = .ok url)
    (same : url.scheme = base.scheme)
    (decoded : decode? url.pathText = some (String.ofList ('/' :: s))) : IsPlain s := by
  have bytes := decodeBytes_of_decode? decoded
  have all : meant url.pathText = 1 + size s := by
    rw [meant, bytes]
    exact size_cons '/' s
  obtain ⟨⟨bound, whole⟩, noScheme⟩ := yields_join hk hp _ _ h same
  -- nothing is left out
  have clean : cleaned (String.ofList s) = s :=
    eq_of_sublist_of_size (cleaned_sublist s) (by omega)
  obtain ⟨starts, ends, kept⟩ := of_cleaned_eq clean
  rw [clean] at whole noScheme
  -- nothing is cut off
  obtain ⟨noTail, path⟩ := whole (Nat.le_of_eq all.symm)
  have unmarked := List.takeWhile_eq_self_iff.1 noTail
  -- nothing is taken away
  have noSteps : (segments .machine s).any isSteps = false := by
    have read := meant_readPath s
    rw [← path, all] at read
    exact Bool.toNat_eq_zero.1 (Nat.le_zero.1 (Nat.le_of_add_le_add_left read))
  have put : url.pathText =
      '/' :: encode isPathEncoded (Text.joinWith ['/'] (segments .machine s)) := by
    rw [path, readPath_machine, addSegments_put fun part hp =>
      Bool.eq_false_iff.2 (List.any_eq_false.1 noSteps part hp)]
    rfl
  rw [put, decodeBytes_cons rfl, decodeBytes_encode_path, List.flatMap_cons] at bytes
  obtain ⟨backslash, noPair⟩ := of_decodeBytes_segments (List.append_cancel_left bytes)
  refine ⟨fun c hc => ?_, noPair, noScheme (Nat.le_of_eq all.symm), starts, ends⟩
  have mark := unmarked c hc
  have other : c ≠ '\\' := fun e => backslash (e ▸ hc)
  simp [isTailMark] at mark
  simp [mark, other, kept c hc]

end

end Url
end Playtest
