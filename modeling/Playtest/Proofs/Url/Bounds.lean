/-
# How much a path can stand for

A path is read from a text and stands for bytes.  On the way something may be lost: a pair stands
for one byte, a point for nothing, and two points take away what is there.  Nothing is gained:
a path behind a slash stands for no more bytes than the text has (`meant_readPath`), and for
fewer if a segment is a point form.

This holds of every way in which a reference is read (`yields_join`), so a path that stands for
all of the text was read segment by segment, with nothing cut off.
-/
import Playtest.Proofs.Url.Decoding
import Playtest.Url.Reading

namespace Playtest
namespace Url

/-! ## 1. Bytes of a text, and bytes that it stands for -/

/-- The number of bytes of the UTF-8 form. -/
def size (s : List Char) : Nat := (s.flatMap String.utf8EncodeChar).length

/-- The number of bytes that the text stands for. -/
def meant (s : List Char) : Nat := (decodeBytes s).length

theorem size_cons (c : Char) (s : List Char) :
    size (c :: s) = (String.utf8EncodeChar c).length + size s := by
  rw [size, List.flatMap_cons, List.length_append, size]

theorem size_append (s t : List Char) : size (s ++ t) = size s + size t := by
  rw [size, List.flatMap_append, List.length_append, size, size]

theorem utf8EncodeChar_pos (c : Char) : 1 ≤ (String.utf8EncodeChar c).length :=
  List.length_pos_iff.2 String.utf8EncodeChar_ne_nil

theorem size_lt_cons (c : Char) (s : List Char) : size s < size (c :: s) := by
  have pos := utf8EncodeChar_pos c
  rw [size_cons]
  omega

theorem size_le_of_sublist {s t : List Char} (h : s.Sublist t) : size s ≤ size t := by
  induction h with
  | slnil => exact Nat.le_refl _
  | cons c _ ih => exact Nat.le_trans ih (Nat.le_of_lt (size_lt_cons c _))
  | cons_cons c _ ih =>
    rw [size_cons, size_cons]
    exact Nat.add_le_add_left ih _

/-- A part with as many bytes is the whole. -/
theorem eq_of_sublist_of_size {s t : List Char} (h : s.Sublist t) (same : size t ≤ size s) :
    s = t := by
  induction h with
  | slnil => rfl
  | cons c part _ =>
    have less := size_le_of_sublist part
    have more := size_lt_cons c
    exact absurd (Nat.lt_of_lt_of_le (more _) same) (Nat.not_lt.2 less)
  | cons_cons c _ ih =>
    rw [size_cons, size_cons] at same
    rw [ih (Nat.le_of_add_le_add_left same)]

theorem size_lt_of_sublist {s t : List Char} (h : s.Sublist t) (short : s.length < t.length) :
    size s < size t := by
  rcases Nat.lt_or_ge (size s) (size t) with less | more
  · exact less
  · rw [eq_of_sublist_of_size h more] at short
    exact absurd short (Nat.lt_irrefl _)

/-- **A text stands for no more bytes than it has**, and for fewer if there is a pair. -/
theorem meant_add_pair (s : List Char) : meant s + (hasPair s).toNat ≤ size s := by
  unfold meant
  induction s using pair_induction with
  | nil => exact Nat.le_refl _
  | pair a b rest x y hx hy ih =>
    have once : (hasPair ('%' :: a :: b :: rest)).toNat ≤ 1 := Bool.toNat_le _
    have pa := utf8EncodeChar_pos a
    have pb := utf8EncodeChar_pos b
    have ps := utf8EncodeChar_pos '%'
    rw [decodeBytes_pair hx hy, List.length_cons, size_cons, size_cons, size_cons]
    omega
  | single c rest noPair ih =>
    rw [hasPair, noPair, Bool.false_or, decodeBytes_cons noPair, List.length_append, size_cons]
    omega

theorem meant_le_size (s : List Char) : meant s ≤ size s :=
  Nat.le_trans (Nat.le_add_right _ _) (meant_add_pair s)

/-! ## 2. Slashes -/

theorem hexValue?_slash : hexValue? '/' = none := by decide

/-- What stands before a slash and what stands behind it are decoded apart. -/
theorem decodeBytes_append_slash (s t : List Char) :
    decodeBytes (s ++ '/' :: t) = decodeBytes s ++ decodeBytes ('/' :: t) := by
  induction s using pair_induction with
  | nil => rfl
  | pair a b rest x y hx hy ih =>
    rw [List.cons_append, List.cons_append, List.cons_append, decodeBytes_pair hx hy,
      decodeBytes_pair hx hy, ih, List.cons_append]
  | single c rest noPair ih =>
    have still : (c == '%' && startsWithDigits (rest ++ '/' :: t)) = false := by
      rcases rest with _ | ⟨d, _ | ⟨e, rest⟩⟩
      · rw [List.nil_append, startsWithDigits_cons hexValue?_slash, Bool.and_false]
      · simp [startsWithDigits, hexValue?_slash]
      · exact noPair
    rw [List.cons_append, decodeBytes_cons still, decodeBytes_cons noPair, ih, List.append_assoc]

theorem exists_front {path : List Char} (h : endsInSlash path = true) :
    ∃ front, path = front ++ ['/'] :=
  List.getLast?_eq_some_iff.1 (of_decide_eq_true h)

theorem endsInSlash_append (front : List Char) : endsInSlash (front ++ ['/']) = true := by
  rw [endsInSlash, List.getLast?_append]
  rfl

theorem meant_slash (s : List Char) : meant ('/' :: s) = 1 + meant s := by
  have noPair : ('/' == '%' && startsWithDigits s) = false := rfl
  rw [meant, decodeBytes_cons noPair, List.length_append]
  rfl

theorem meant_concat_slash (s : List Char) : meant (s ++ ['/']) = meant s + 1 := by
  rw [meant, decodeBytes_append_slash, List.length_append, meant]
  rfl

/-- Behind a slash, what is put there is counted apart. -/
theorem meant_append {path : List Char} (h : endsInSlash path = true) (s : List Char) :
    meant (path ++ s) = meant path + meant s := by
  obtain ⟨front, rfl⟩ := exists_front h
  have apart (t : List Char) : meant (front ++ '/' :: t) = meant front + (1 + meant t) := by
    rw [← meant_slash, meant, decodeBytes_append_slash, List.length_append, meant, meant]
  have none : meant [] = 0 := rfl
  rw [List.append_assoc, List.singleton_append, apart, apart, none]
  omega

theorem meant_pos {path : List Char} (h : endsInSlash path = true) : 1 ≤ meant path := by
  obtain ⟨front, rfl⟩ := exists_front h
  rw [meant_concat_slash]
  exact Nat.le_add_left _ _

/-! ## 3. Going up -/

/-- The path up to its last slash is a part of it that ends in a slash, or nothing. -/
theorem upToSlash_spec (path : List Char) :
    ∃ rest, path = upToSlash path ++ rest ∧
      (upToSlash path = [] ∨ endsInSlash (upToSlash path) = true) := by
  have parts : path = (path.reverse.dropWhile (· ≠ '/')).reverse ++ lastSegment path := by
    rw [lastSegment, ← List.reverse_append, List.takeWhile_append_dropWhile, List.reverse_reverse]
  have front : upToSlash path = (path.reverse.dropWhile (· ≠ '/')).reverse := by
    have long := congrArg List.length parts
    rw [List.length_append] at long
    exact (congrArg (List.take _) parts).trans (List.take_left' (by omega))
  refine ⟨lastSegment path, by rw [front]; exact parts, ?_⟩
  rw [front]
  rcases hd : path.reverse.dropWhile (· ≠ '/') with _ | ⟨c, rest⟩
  · exact .inl rfl
  · have slash := List.head?_dropWhile_not (· ≠ '/') path.reverse
    rw [hd] at slash
    have hc : c = '/' := by simpa using slash
    rw [List.reverse_cons, hc]
    exact .inr (endsInSlash_append rest.reverse)

theorem meant_upToSlash_le (path : List Char) : meant (upToSlash path) ≤ meant path := by
  obtain ⟨rest, hp, hu | hu⟩ := upToSlash_spec path
  · rw [hu]
    exact Nat.zero_le _
  · have whole := meant_append hu rest
    rw [← hp] at whole
    omega

/-- Going up ends at an earlier slash, or nowhere else. -/
theorem goUp_cases {path : List Char} (h : endsInSlash path = true) :
    (∃ front, path = front ++ ['/'] ∧ goUp .machine path = upToSlash front) ∨
      goUp .machine path = path := by
  obtain ⟨front, rfl⟩ := exists_front h
  rw [goUp, if_pos h, List.dropLast_concat]
  dsimp only
  split
  · exact .inl ⟨front, rfl, rfl⟩
  · exact .inr rfl

theorem withSlash_of_endsInSlash {path : List Char} (h : endsInSlash path = true) :
    withSlash path = path := by
  rw [withSlash, if_pos h]

/-- Going up loses something, or nothing. -/
theorem meant_goUp_le {path : List Char} (h : endsInSlash path = true) :
    meant (goUp .machine path) ≤ meant path := by
  rcases goUp_cases h with ⟨front, rfl, up⟩ | up
  · rw [up, meant_concat_slash]
    exact Nat.le_succ_of_le (meant_upToSlash_le front)
  · exact Nat.le_of_eq (congrArg meant up)

theorem meant_withSlash_goUp_le {path : List Char} (h : endsInSlash path = true) :
    meant (withSlash (goUp .machine path)) ≤ meant path := by
  have ends : goUp .machine path = [] ∨ endsInSlash (goUp .machine path) = true := by
    rcases goUp_cases h with ⟨front, -, up⟩ | up
    · obtain ⟨_, -, ends⟩ := upToSlash_spec front
      rw [up]
      exact ends
    · rw [up]
      exact .inr h
  rcases ends with up | up
  · rw [up]
    exact meant_pos h
  · rw [withSlash_of_endsInSlash up]
    exact meant_goUp_le h

/-! ## 4. Segments -/

/-- The segment is not put at the end of a path, but leaves it as it is or takes something away. -/
def isSteps (segment : List Char) : Bool :=
  isPoint (encode isPathEncoded segment) || isTwoPoints (encode isPathEncoded segment)

theorem meant_encode (s : List Char) : meant (encode isPathEncoded s) = meant s := by
  rw [meant, decodeBytes_encode_path, meant]

theorem addSegment_machine (path segment : List Char) (closed : Bool) :
    (addSegment .machine path segment closed).1 =
      if isTwoPoints (encode isPathEncoded segment) then
        if closed then withSlash (goUp .machine path) else goUp .machine path
      else if isPoint (encode isPathEncoded segment) then withSlash path
      else path ++ encode isPathEncoded segment ++ if closed then ['/'] else [] := by
  simp only [addSegment, reduceCtorEq, false_and, if_false]
  split
  · rfl
  · split
    · rfl
    · rfl

theorem addSegments_cons_cons (path segment next : List Char) (segments : List (List Char)) :
    (addSegments .machine path (segment :: next :: segments)).1 =
      (addSegments .machine (addSegment .machine path segment true).1 (next :: segments)).1 :=
  rfl

theorem size_pos_of_isSteps {segment : List Char} (h : isSteps segment = true) :
    1 ≤ size segment := by
  rcases segment with _ | ⟨c, segment⟩
  · cases h
  · exact Nat.lt_of_le_of_lt (Nat.zero_le _) (size_lt_cons c segment)

theorem endsInSlash_addSegment (path segment : List Char) :
    endsInSlash (addSegment .machine path segment true).1 = true := by
  have closed (p : List Char) : endsInSlash (withSlash p) = true := by
    rw [withSlash]
    split
    · next hp => exact hp
    · exact endsInSlash_append p
  rw [addSegment_machine]
  split
  · exact closed _
  · split
    · exact closed _
    · exact endsInSlash_append _

variable {path : List Char}

/-- **A segment adds no more bytes than it has**, and fewer if it is a point form. -/
theorem meant_addSegment (h : endsInSlash path = true) (segment : List Char) (closed : Bool) :
    meant (addSegment .machine path segment closed).1 + (isSteps segment).toNat ≤
      meant path + size segment + closed.toNat := by
  have steps : (isSteps segment).toNat ≤ size segment := by
    cases hs : isSteps segment with
    | true => exact size_pos_of_isSteps hs
    | false => exact Nat.zero_le _
  rw [addSegment_machine]
  split
  · have up := meant_goUp_le h
    have upToSlash := meant_withSlash_goUp_le h
    split
    · omega
    · omega
  · next two =>
    split
    · rw [withSlash_of_endsInSlash h]
      omega
    · next one =>
      have none : isSteps segment = false := by
        rw [isSteps, Bool.eq_false_iff.2 one, Bool.eq_false_iff.2 two, Bool.or_false]
      have less := meant_le_size segment
      cases closed with
      | true =>
        rw [if_pos rfl, meant_concat_slash, meant_append h, meant_encode, none]
        exact Nat.add_le_add_right (Nat.add_le_add_left less _) 1
      | false =>
        rw [if_neg Bool.false_ne_true, List.append_nil, meant_append h, meant_encode, none]
        exact Nat.add_le_add_left less _

theorem joinWith_cons_cons (sep : List Char) (a b : List Char) (parts : List (List Char)) :
    Text.joinWith sep (a :: b :: parts) = a ++ sep ++ Text.joinWith sep (b :: parts) :=
  rfl

theorem toNat_or_le (a b : Bool) : (a || b).toNat ≤ a.toNat + b.toNat := by
  cases a <;> cases b <;> decide

/-- **Segments add no more bytes than they have**, and fewer if one of them is a point form. -/
theorem meant_addSegments (h : endsInSlash path = true) (segments : List (List Char)) :
    meant (addSegments .machine path segments).1 + (segments.any isSteps).toNat ≤
      meant path + size (Text.joinWith ['/'] segments) := by
  induction segments generalizing path with
  | nil => exact Nat.le_add_right _ _
  | cons segment segments ih =>
    rcases segments with _ | ⟨next, segments⟩
    · have one := meant_addSegment h segment false
      rw [List.any_cons, List.any_nil, Bool.or_false]
      exact one
    · have first := meant_addSegment h segment true
      have others := ih (endsInSlash_addSegment path segment)
      have flags := toNat_or_le (isSteps segment) ((next :: segments).any isSteps)
      have slash : size ['/'] = 1 := rfl
      have closed : Bool.toNat true = 1 := rfl
      rw [joinWith_cons_cons, size_append, size_append, slash, List.any_cons]
      rw [addSegments_cons_cons]
      omega

/-! ## 5. Paths -/

theorem segments_ne_nil (kind : SchemeKind) (s : List Char) : segments kind s ≠ [] := by
  rcases s with _ | ⟨c, rest⟩
  · exact List.cons_ne_nil _ _
  · rw [segments]
    split
    · exact List.cons_ne_nil _ _
    · split
      · exact List.cons_ne_nil _ _
      · exact List.cons_ne_nil _ _

/-- The segments, with slashes between them: the text with a slash for every character that
separates segments. -/
theorem joinWith_segments (kind : SchemeKind) (s : List Char) :
    Text.joinWith ['/'] (segments kind s) = s.map fun c => if isSlash kind c then '/' else c := by
  induction s with
  | nil => rfl
  | cons c rest ih =>
    rcases hs : segments kind rest with _ | ⟨part, parts⟩
    · exact absurd hs (segments_ne_nil kind rest)
    · rw [List.map_cons, ← ih, segments, hs]
      split
      · rfl
      · rcases parts with _ | ⟨next, parts⟩
        · rfl
        · rfl

theorem size_joinWith_segments (kind : SchemeKind) (s : List Char) :
    size (Text.joinWith ['/'] (segments kind s)) = size s := by
  have one (c : Char) : (String.utf8EncodeChar (if isSlash kind c then '/' else c)).length =
      (String.utf8EncodeChar c).length := by
    split
    · next slash =>
      rcases Bool.or_eq_true_iff.1 slash with hc | hc
      · rw [eq_of_beq hc]
      · rw [eq_of_beq (Bool.and_eq_true_iff.1 hc).2]
        rfl
    · rfl
  rw [joinWith_segments]
  induction s with
  | nil => rfl
  | cons c rest ih => rw [List.map_cons, size_cons, size_cons, ih, one]

theorem readPath_machine (path s : List Char) :
    (readPath .machine path s).1 = (addSegments .machine path (segments .machine s)).1 :=
  rfl

/-- **A path stands for no more bytes than its text has.** -/
theorem meant_readPath (s : List Char) :
    meant (readPath .machine ['/'] s).1 + ((segments .machine s).any isSteps).toNat ≤
      1 + size s := by
  have slash : meant ['/'] = 1 := rfl
  rw [readPath_machine, ← size_joinWith_segments .machine s, ← slash]
  exact meant_addSegments rfl _

/-! ## 6. Authorities -/

/-- Whatever is read has the property. -/
def Yields {α : Type} (x : Except Error α) (P : α → Prop) : Prop := ∀ a, x = .ok a → P a

namespace Yields

variable {α β : Type} {P : α → Prop} {Q : β → Prop}

theorem ok {a : α} (h : P a) : Yields (.ok a) P := by
  intro b hb
  cases hb
  exact h

theorem bind {x : Except Error α} {f : α → Except Error β} (hx : Yields x P)
    (hf : ∀ a, P a → Yields (f a) Q) : Yields (x >>= f) Q := by
  intro b hb
  cases x with
  | error e => cases hb
  | ok a => exact hf a (hx a rfl) b hb

theorem any (x : Except Error α) : Yields x fun _ => True := fun _ _ => trivial

theorem ite {c : Prop} [Decidable c] {x y : Except Error α} (hx : Yields x P) (hy : Yields y P) :
    Yields (if c then x else y) P := by
  split
  · exact hx
  · exact hy

/-- Nothing is read behind an error. -/
theorem check {c : Prop} [Decidable c] {e : Error} {f : PUnit → Except Error α}
    {x : Except Error α} (h : ¬c → Yields x P) :
    Yields (if c then throw e >>= f else x) P := by
  split
  · intro a ha
    cases ha
  · next hc => exact h hc

end Yields

theorem cutAuthority_append {kind : SchemeKind} {s text rest : List Char}
    (h : cutAuthority kind s = (text, rest)) : text ++ rest = s := by
  cases h
  exact List.takeWhile_append_dropWhile

theorem sublist_of_cutCredentials? {s credentials rest : List Char}
    (h : cutCredentials? s = some (credentials, rest)) : rest.Sublist s := by
  obtain ⟨⟨front, back⟩, cut, parts⟩ := Option.map_eq_some_iff.1 h
  cases parts
  have whole := Text.of_cutAt?_eq_some cut
  have part : front.Sublist s.reverse := by
    rw [whole]
    exact List.sublist_append_left _ _
  exact List.reverse_sublist.1 (by rwa [List.reverse_reverse])

theorem sublist_of_cutPort (inBrackets : Bool) (s : List Char) :
    ((cutPort inBrackets s).2.getD []).Sublist s := by
  induction s generalizing inBrackets with
  | nil => exact List.Sublist.refl _
  | cons c rest ih =>
    rw [cutPort]
    split
    · exact List.sublist_cons_self _ _
    · exact (ih _).trans (List.sublist_cons_self _ _)

section

variable {scheme : String}

/-- What is behind an authority is a part of the text. -/
theorem yields_readAuthority [Idna] (kind : SchemeKind.ofScheme scheme = .machine) (s : List Char) :
    Yields (readAuthority scheme s) fun r => r.2.Sublist s := by
  rcases hA : cutAuthority .machine s with ⟨text, rest⟩
  have port {inBrackets : Bool} {host inner : List Char} {port? : Option (List Char)}
      (hP : cutPort inBrackets inner = (host, port?)) (hi : inner.Sublist text) :
      ((port?.getD []).dropWhile (fun c => decide (c ≠ '\\')) ++ rest).Sublist s := by
    have part := sublist_of_cutPort inBrackets inner
    rw [hP] at part
    rw [← cutAuthority_append hA]
    exact (((List.dropWhile_sublist _).trans part).trans hi).append (List.Sublist.refl _)
  rcases hC : cutCredentials? text with _ | ⟨credentials, inner⟩
  · rcases hP : cutPort false text with ⟨host, port?⟩
    simp only [readAuthority, kind, hA, hC, hP]
    refine .check fun _ => .check fun _ => ?_
    exact .bind (.any _) fun _ _ => .check fun _ => .bind (.any _) fun _ _ => .check fun _ =>
      .ok (port hP (List.Sublist.refl _))
  · rcases hP : cutPort false inner with ⟨host, port?⟩
    simp only [readAuthority, kind, hA, hC, hP]
    refine .check fun _ => .check fun _ => ?_
    exact .bind (.any _) fun _ _ => .check fun _ => .bind (.any _) fun _ _ => .check fun _ =>
      .ok (port hP (sublist_of_cutCredentials? hC))

theorem pathText_hierarchical (scheme : String) (authority? : Option Authority)
    (path s : List Char) : (hierarchical scheme authority? path s).pathText = path :=
  rfl

theorem sublist_beforeTail (s : List Char) : (beforeTail s).Sublist s := List.takeWhile_sublist _

theorem meant_beforeTail (s : List Char) :
    meant (readPath .machine ['/'] (beforeTail s)).1 ≤ 1 + size (beforeTail s) :=
  Nat.le_trans (Nat.le_add_right _ _) (meant_readPath (beforeTail s))

/-- What is behind the slashes of a URL stands for no more bytes than it has. -/
theorem yields_readAfterSlashes [Idna] (kind : SchemeKind.ofScheme scheme = .machine)
    (s : List Char) :
    Yields (readAfterSlashes scheme s) fun url => meant url.pathText ≤ 1 + size s := by
  unfold readAfterSlashes
  refine .bind (yields_readAuthority kind s) fun ⟨authority, rest⟩ part => .ok ?_
  have less : size (beforeTail rest) ≤ size s :=
    size_le_of_sublist ((sublist_beforeTail rest).trans part)
  simp only [kind, SchemeKind.isSpecial, hierarchical, withTail, pathText]
  rw [if_pos (by decide)]
  split
  · exact Nat.le_add_right 1 _
  · next c text ht =>
    have shorter := size_lt_cons c text
    have bound := Nat.le_trans (Nat.le_add_right _ _) (meant_readPath text)
    rw [ht] at less
    omega

/-! ## 7. Other schemes -/

theorem yields_scheme_readAfterSlashes [Idna] (s : List Char) :
    Yields (readAfterSlashes scheme s) fun url => url.scheme = scheme := by
  unfold readAfterSlashes
  exact .bind (.any _) fun ⟨_, _⟩ _ => .ok rfl

theorem yields_readFileHost [Idna] (s : List Char) :
    Yields (readFileHost s) fun url => url.scheme = "file" := by
  unfold readFileHost
  dsimp only
  split
  · exact .bind (.any _) fun _ _ => .ite (.ok rfl) (.ok rfl)
  · exact .ite (.bind (.any _) fun _ _ => .ite (.ok rfl) (.ok rfl))
      (.bind (.any _) fun _ _ => .ite (.ok rfl) (.ok rfl))

/-- The URL of a file is one, if it is not relative to another. -/
theorem yields_readFile [Idna] (s : List Char) :
    Yields (readFile none s) fun url => url.scheme = "file" := by
  have oneSlash (s rest : List Char) :
      Yields (readFile.oneSlash none s rest) fun url => url.scheme = "file" := .ok rfl
  unfold readFile
  split
  · next a rest =>
    split
    · split
      · split
        · exact yields_readFileHost _
        · exact oneSlash _ _
      · exact oneSlash _ _
    · exact .ok rfl
  · exact .ok rfl

end

/-! ## 8. References -/

theorem size_lt_of_cutScheme? {s rest : List Char} {scheme : String}
    (h : cutScheme? s = some (scheme, rest)) : size rest < size s := by
  rw [cutScheme?] at h
  obtain ⟨⟨front, back⟩, cut, parts⟩ := Option.bind_eq_some_iff.1 h
  obtain ⟨first, -, parts⟩ := Option.bind_eq_some_iff.1 parts
  have same : back = rest := by
    split at parts
    · cases parts
      rfl
    · cases parts
  have colon := size_lt_cons ':' rest
  have whole := congrArg size (Text.of_cutAt?_eq_some cut)
  rw [size_append, same] at whole
  omega

/-- The path stands for no more bytes than a text behind a slash has.  If it stands for as many,
the path is all of the text, read from the root. -/
structure Within (s : List Char) (url : Url) : Prop where
  bound : meant url.pathText ≤ 1 + size s
  whole : 1 + size s ≤ meant url.pathText →
    beforeTail s = s ∧ url.pathText = (readPath .machine ['/'] s).1

theorem within_of_lt {s : List Char} {url : Url} (h : meant url.pathText < 1 + size s) :
    Within s url :=
  ⟨Nat.le_of_lt h, fun all => absurd h (Nat.not_lt.2 all)⟩

section

variable {base : Url} (hk : base.kind = .machine) (hp : base.place = .path ['/'])

include hk hp

/-- **A reference stands for no more bytes than it has.** -/
theorem yields_readRelative [Idna] (s : List Char) : Yields (readRelative base s) (Within s) := by
  have root : base.pathText = ['/'] := by rw [pathText, hp]
  have machine : SchemeKind.ofScheme base.scheme = .machine := hk
  have one : meant base.pathText = 1 := congrArg meant root
  -- the path of the base is shorter than every text
  have stays {c : Char} {rest : List Char} {url : Url} (h : url.pathText = base.pathText) :
      Within (c :: rest) url := by
    have pos := size_lt_cons c rest
    refine within_of_lt ?_
    rw [h, one]
    omega
  have part {text : List Char} (h : text.Sublist s) (short : text.length < s.length) :
      Yields (readAfterSlashes base.scheme text) (Within s) := by
    intro url hu
    have bound := yields_readAfterSlashes machine text url hu
    have less := size_lt_of_sublist h short
    exact within_of_lt (by omega)
  unfold readRelative
  split
  · exact .ok ⟨Nat.le_of_eq one, fun _ => ⟨rfl, root⟩⟩
  · exact .ok (stays rfl)
  · exact .ok (stays rfl)
  · next a rest question sharp =>
    dsimp only
    split
    · split
      · next text slashes =>
        rw [slashes] at part ⊢
        exact part ((List.sublist_cons_self _ _).trans (List.sublist_cons_self _ _))
          (Nat.lt_succ_of_lt (Nat.lt_succ_self _))
      · split
        · exact part (List.dropWhile_sublist _) (by omega)
        · refine .ok (within_of_lt ?_)
          have bound := meant_beforeTail rest
          have less := size_le_of_sublist (sublist_beforeTail rest)
          have shorter := size_lt_cons a rest
          rw [pathText_hierarchical, hk]
          omega
    · have directory :
          (if dropLastSegment .machine ['/'] = [] then ['/'] else dropLastSegment .machine ['/']) =
            ['/'] :=
        rfl
      have bound := meant_beforeTail (a :: rest)
      have less := size_le_of_sublist (sublist_beforeTail (a :: rest))
      rw [root, hk, directory]
      refine .ok ⟨Nat.le_trans bound (Nat.add_le_add_left less 1), fun all => ?_⟩
      have whole : beforeTail (a :: rest) = a :: rest :=
        eq_of_sublist_of_size (sublist_beforeTail _) (by rw [pathText_hierarchical] at all; omega)
      exact ⟨whole, by rw [pathText_hierarchical, whole]⟩

/-- Behind a scheme, the path stands for no more bytes than what the scheme leaves. -/
theorem yields_readWithScheme [Idna] (scheme : String) (s : List Char) :
    Yields (readWithScheme (some base) scheme s) fun url =>
      url.scheme = base.scheme → meant url.pathText ≤ 1 + size s := by
  have machine : SchemeKind.ofScheme base.scheme = .machine := hk
  have other {url : Url} {P : Prop} (hs : SchemeKind.ofScheme scheme ≠ .machine)
      (hu : url.scheme = scheme) (same : url.scheme = base.scheme) : P :=
    absurd (by rw [← hu, same, machine]) hs
  have slashes (kind : SchemeKind.ofScheme scheme = .machine) :
      Yields (readAfterSlashes scheme (s.dropWhile fun c => c == '/' || c == '\\')) fun url =>
        url.scheme = base.scheme → meant url.pathText ≤ 1 + size s := by
    intro url hu _
    have bound := yields_readAfterSlashes kind _ url hu
    have less := size_le_of_sublist (List.dropWhile_sublist (l := s) fun c => c == '/' || c == '\\')
    omega
  unfold readWithScheme
  split
  · next kind =>
    have unlike : base.scheme ≠ "file" := fun e => by
      rw [e] at machine
      cases machine
    have alone : (some base).filter (fun url => url.scheme == "file") = none := by
      simp [Option.filter, unlike]
    rw [alone]
    exact fun url hu same => absurd (same.symm.trans (yields_readFile s url hu)) unlike
  · next kind =>
    dsimp only
    split
    · next from? filtered =>
      obtain ⟨rfl, -⟩ : base = from? ∧ _ := by simpa using filtered
      refine .ite ?_ (slashes kind)
      exact fun url hu _ => (yields_readRelative hk hp s url hu).bound
    · exact slashes kind
  · next kind =>
    have unlike : SchemeKind.ofScheme scheme ≠ .machine := by
      rw [kind]
      decide
    split
    · exact fun url hu => other unlike (yields_scheme_readAfterSlashes _ url hu)
    · exact .ok (other unlike rfl)
    · exact .ok (other unlike rfl)

/-- **A reference to something on the machine of its base** stands for no more bytes than its text
has.  If it stands for as many, it has no scheme, and its path is all of the text. -/
theorem yields_join [Idna] (text : String) :
    Yields (base.join text) fun url => url.scheme = base.scheme →
      Within (cleaned text) url ∧
        (1 + size (cleaned text) ≤ meant url.pathText → cutScheme? (cleaned text) = none) := by
  rw [join, read]
  split
  · next scheme rest cut =>
    intro url hu same
    have bound := yields_readWithScheme hk hp scheme rest url hu same
    have less := size_lt_of_cutScheme? cut
    exact ⟨within_of_lt (by omega), fun all => absurd all (by omega)⟩
  · next cut =>
    rw [hp]
    split
    · next rest sharp =>
      have slash : meant ['/'] = 1 := rfl
      have pos := size_lt_cons '#' rest
      have short : meant ['/'] < 1 + size (cleaned text) := by
        rw [sharp]
        omega
      exact .ok fun _ => ⟨within_of_lt short, fun _ => cut⟩
    · next e _ => cases e
    · rw [if_neg (by rw [hk]; decide)]
      exact fun url hu _ => ⟨yields_readRelative hk hp _ url hu, fun _ => cut⟩

end

end Url
end Playtest
