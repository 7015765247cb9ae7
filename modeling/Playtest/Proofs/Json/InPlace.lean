/-
# Values where they stand

The reader goes through the lexemes of a whole text with the containers that are open on a stack.
Here it is seen from one value: where the text of a value stands, the reader takes exactly its
lexemes, puts the value into the innermost container, and goes on behind it (`Reads`).  What
stands before the value, on the stack, and behind it, in the rest of the text, plays no part.

An array or object is read if its items and members are (`Reads.array`, `readFrom_object`).  From
there two things are derived.

* Every grammatical value can be passed over (`IsValue.passes`).
* Whatever can be read can be passed over, and the two end at the same place (`skipValue_of_read`).
-/
import Mathlib.Data.List.Forall2
import Playtest.Json.Reading
import Playtest.Proofs.Json.Cutting
import Playtest.Proofs.Steps

namespace Playtest
namespace Json

/-! ## 1. Steps of the reader -/

section

variable {purpose : Purpose} {room : Nat} {stack below : List Opened} {x : Lexeme}
  {xs : List Lexeme} {items : List Value} {members : List (String × Value)} {s t : List Char}

/-- What the reader does with a value that is complete. -/
def goOn (purpose : Purpose) (room : Nat) (stack : List Opened) (v : Value) (xs : List Lexeme) :
    Except Fault (Value × List Lexeme) :=
  match stack with
  | [] => .ok (v, xs)
  | top :: below => readFrom purpose room (top.add v :: below) .more xs

theorem readFrom_scalar {v : Value} (h : scalar purpose x = .ok v) :
    readFrom purpose room stack .value (x :: xs) = goOn purpose room stack v xs := by
  unfold readFrom
  dsimp only
  split
  · next token => simp [scalar, token] at h
  · next token => simp [scalar, token] at h
  · rw [h]
    rfl

theorem readFrom_openArray (h : purpose = .wanted → stack.length < room) :
    readFrom purpose room stack .value (⟨.openArray, s, t⟩ :: xs) =
      readFrom purpose room (.array [] :: stack) .firstItem xs :=
  if_neg fun deep => absurd (h deep.1) (Nat.not_lt.2 deep.2)

theorem readFrom_openObject (h : purpose = .wanted → stack.length < room) :
    readFrom purpose room stack .value (⟨.openObject, s, t⟩ :: xs) =
      readFrom purpose room (.object [] "" :: stack) .firstKey xs :=
  if_neg fun deep => absurd (h deep.1) (Nat.not_lt.2 deep.2)

theorem readFrom_firstItem (h : x.token ≠ .closeArray) :
    readFrom purpose room stack .firstItem (x :: xs) =
      readFrom purpose room stack .value (x :: xs) := by
  unfold readFrom
  dsimp only
  split
  · next token => exact absurd token h
  · rfl

theorem readFrom_noItem :
    readFrom purpose room (.array items :: stack) .firstItem (⟨.closeArray, s, t⟩ :: xs) =
      goOn purpose room stack (.array items.reverse) xs := rfl

theorem readFrom_noMember {key : String} :
    readFrom purpose room (.object members key :: stack) .firstKey (⟨.closeObject, s, t⟩ :: xs) =
      goOn purpose room stack (.object members.reverse) xs := rfl

theorem readFrom_key {old key : String} {text : Except Fault String} {next : Next}
    (hn : next = .firstKey ∨ next = .key) (h : keyOf purpose ⟨.string text, s, t⟩ = .ok key) :
    readFrom purpose room (.object members old :: stack) next (⟨.string text, s, t⟩ :: xs) =
      readFrom purpose room (.object members key :: stack) .colon xs := by
  rcases hn with rfl | rfl
  all_goals
    conv => lhs; unfold readFrom
    simp only [h, bind, Except.bind]

theorem readFrom_colon :
    readFrom purpose room stack .colon (⟨.colon, s, t⟩ :: xs) =
      readFrom purpose room stack .value xs := rfl

theorem readFrom_nextItem (h : x.token ≠ .closeArray) :
    readFrom purpose room (.array items :: stack) .more (⟨.comma, s, t⟩ :: x :: xs) =
      readFrom purpose room (.array items :: stack) .value (x :: xs) := by
  conv => lhs; unfold readFrom
  dsimp only
  split
  · next taken => exact absurd (congrArg Lexeme.token (List.cons.inj taken).1) h
  · rfl

theorem readFrom_nextMember {key : String} :
    readFrom purpose room (.object members key :: stack) .more (⟨.comma, s, t⟩ :: xs) =
      readFrom purpose room (.object members key :: stack) .key xs := rfl

theorem readFrom_lastItem :
    readFrom purpose room (.array items :: stack) .more (⟨.closeArray, s, t⟩ :: xs) =
      goOn purpose room stack (.array items.reverse) xs := rfl

theorem readFrom_lastMember {key : String} :
    readFrom purpose room (.object members key :: stack) .more (⟨.closeObject, s, t⟩ :: xs) =
      goOn purpose room stack (.object members.reverse) xs := rfl

end

/-! ## 2. Arrays and objects -/

/-- Where this text stands, inside of `depth` containers, the reader takes it for this value. -/
def Reads (purpose : Purpose) (room depth : Nat) (text : List Char) (v : Value) : Prop :=
  ∀ stack rest, stack.length = depth → Ends rest →
    readFrom purpose room stack .value (lexemes (text ++ rest)) =
      goOn purpose room stack v (lexemes rest)

/-- A value starts with no sign that could end a container. -/
theorem IsValue.first {text rest : List Char} (h : IsValue text) (hr : Ends rest) :
    ∃ x xs, lexemes (text ++ rest) = x :: xs ∧ x.token ≠ .closeArray ∧ x.token ≠ .closeObject := by
  cases h with
  | literal h =>
    simp only [List.mem_cons, List.not_mem_nil, or_false] at h
    rcases h with rfl | rfl | rfl
    · exact ⟨_, _, lexemes_literal (c := 'n') rfl rest, by simp⟩
    · exact ⟨_, _, lexemes_literal (c := 't') rfl rest, by simp⟩
    · exact ⟨_, _, lexemes_literal (c := 'f') rfl rest, by simp⟩
  | number h =>
    obtain ⟨value, read⟩ := lexemes_number h hr
    exact ⟨_, _, read, by simp⟩
  | string h => exact ⟨_, _, lexemes_string h rest, by simp⟩
  | array => exact ⟨_, _, lexemes_sign rfl _, by simp⟩
  | object => exact ⟨_, _, lexemes_sign rfl _, by simp⟩

section

variable {purpose : Purpose} {room depth : Nat}

theorem arrayText_cons (blank : List Char) (x : Item) (items : List Item) (rest : List Char) :
    arrayText blank (x :: items) ++ rest =
      '[' :: (blank ++ (x.text ++ (items.flatMap (fun y => ',' :: y.text) ++ ']' :: rest))) := by
  simp [arrayText, Text.joinWith_cons, List.flatMap_map]

theorem objectText_cons (blank : List Char) (m : Member) (members : List Member)
    (rest : List Char) :
    objectText blank (m :: members) ++ rest =
      '\x7b' :: (blank ++ (m.text ++
        (members.flatMap (fun n => ',' :: n.text) ++ '\x7d' :: rest))) := by
  simp [objectText, Text.joinWith_cons, List.flatMap_map]

/-- Behind an item or a member stands a comma or the end of the container. -/
theorem ends_items {α : Type} (close : Char) (h : close ∈ [']', '\x7d']) (xs : List α)
    (text : α → List Char) (rest : List Char) :
    Ends (xs.flatMap (fun x => ',' :: text x) ++ close :: rest) := by
  rcases xs with _ | ⟨x, xs⟩
  · simp only [List.mem_cons, List.not_mem_nil, or_false] at h
    rcases h with rfl | rfl <;> exact ends_cons (by simp)
  · exact ends_cons (by simp)

/-- An item, from the blanks before it to the blanks behind it. -/
theorem readFrom_item {x : Item} {w : Value} {stack : List Opened} {tail : List Char}
    (padded : x.IsPadded) (reads : Reads purpose room (depth + 1) x.value w)
    (deep : stack.length = depth) (ends : Ends tail) (read : List Value) :
    readFrom purpose room (.array read :: stack) .value (lexemes (x.text ++ tail)) =
      readFrom purpose room (.array (w :: read) :: stack) .more (lexemes tail) := by
  rw [lexemes_item padded, reads _ _ (by rw [List.length_cons, deep]) (padded.2.ends ends),
    lexemes_blank padded.2]
  rfl

/-- Where an item stands, no array ends. -/
theorem first_item {x : Item} {tail : List Char} (padded : x.IsPadded) (value : IsValue x.value)
    (ends : Ends tail) :
    ∃ y ys, lexemes (x.text ++ tail) = y :: ys ∧ y.token ≠ .closeArray := by
  obtain ⟨y, ys, cut, notEnd, -⟩ := value.first (padded.2.ends ends)
  exact ⟨y, ys, (lexemes_item padded tail).trans cut, notEnd⟩

/-- The items behind the first one, up to the end of the array. -/
theorem readFrom_items {items : List Item} {ws : List Value} (padded : ∀ x ∈ items, x.IsPadded)
    (values : ∀ x ∈ items, IsValue x.value)
    (reads : List.Forall₂ (fun x w => Reads purpose room (depth + 1) x.value w) items ws)
    {stack : List Opened} (deep : stack.length = depth) (read : List Value) (rest : List Char) :
    readFrom purpose room (.array read :: stack) .more
        (lexemes (items.flatMap (fun y => ',' :: y.text) ++ ']' :: rest)) =
      goOn purpose room stack (.array (read.reverse ++ ws)) (lexemes rest) := by
  induction reads generalizing read with
  | nil =>
    rw [List.flatMap_nil, List.nil_append, List.append_nil, lexemes_sign rfl]
    exact readFrom_lastItem
  | @cons x w items ws first _ ih =>
    have ends := ends_items ']' (by simp) items Item.text rest
    obtain ⟨hx, padded⟩ := List.forall_mem_cons.1 padded
    obtain ⟨value, values⟩ := List.forall_mem_cons.1 values
    obtain ⟨y, ys, cut, notEnd⟩ := first_item hx value ends
    rw [List.flatMap_cons, List.append_assoc, List.cons_append, lexemes_sign rfl, cut,
      readFrom_nextItem notEnd, ← cut, readFrom_item hx first deep ends, ih padded values]
    simp

/-- An array is read if its items are. -/
theorem Reads.array {blank : List Char} {items : List Item} {ws : List Value}
    (inner : IsBlank blank) (padded : ∀ x ∈ items, x.IsPadded)
    (values : ∀ x ∈ items, IsValue x.value) (shallow : purpose = .wanted → depth < room)
    (reads : List.Forall₂ (fun x w => Reads purpose room (depth + 1) x.value w) items ws) :
    Reads purpose room depth (arrayText blank items) (.array ws) := by
  intro stack rest deep _
  have opened (s : List Char) : readFrom purpose room stack .value (lexemes ('[' :: s)) =
      readFrom purpose room (.array [] :: stack) .firstItem (lexemes s) := by
    rw [lexemes_sign rfl]
    exact readFrom_openArray fun h => by rw [deep]; exact shallow h
  cases reads with
  | nil =>
    have flat : arrayText blank [] ++ rest = '[' :: (blank ++ ']' :: rest) := by
      simp [arrayText, Text.joinWith]
    rw [flat, opened, lexemes_blank inner, lexemes_sign rfl]
    exact readFrom_noItem
  | @cons x w items ws first others =>
    have ends := ends_items ']' (by simp) items Item.text rest
    obtain ⟨hx, padded⟩ := List.forall_mem_cons.1 padded
    obtain ⟨value, values⟩ := List.forall_mem_cons.1 values
    obtain ⟨y, ys, cut, notEnd⟩ := first_item hx value ends
    rw [arrayText_cons, opened, lexemes_blank inner, cut, readFrom_firstItem notEnd, ← cut,
      readFrom_item hx first deep ends, readFrom_items padded values others deep]
    rfl

/-- Where a member stands, the reader takes it for this name and this value. -/
structure MemberReads (purpose : Purpose) (room depth : Nat) (m : Member)
    (p : String × Value) : Prop where
  key : ∀ s t, keyOf purpose ⟨.string (textAt m.key t), s, t⟩ = .ok p.1
  value : Reads purpose room depth m.item.value p.2

/-- A member, from the blanks before it to the blanks behind it. -/
theorem readFrom_member {m : Member} {p : String × Value} {stack : List Opened}
    {tail : List Char} {next : Next} (hn : next = .firstKey ∨ next = .key) (padded : m.IsPadded)
    (body : IsBody m.key) (reads : MemberReads purpose room (depth + 1) m p)
    (deep : stack.length = depth) (ends : Ends tail) (read : List (String × Value))
    (old : String) :
    readFrom purpose room (.object read old :: stack) next (lexemes (m.text ++ tail)) =
      readFrom purpose room (.object (p :: read) "" :: stack) .more (lexemes tail) := by
  have blank := padded.2.2.2
  obtain ⟨q, r, c, d, cut⟩ := lexemes_member padded body tail
  rw [cut, readFrom_key hn (reads.key q r), readFrom_colon,
    reads.value _ _ (by rw [List.length_cons, deep]) (blank.ends ends), lexemes_blank blank]
  rfl

/-- The members behind the first one, up to the end of the object. -/
theorem readFrom_members {members : List Member} {ps : List (String × Value)}
    (padded : ∀ m ∈ members, m.IsPadded) (bodies : ∀ m ∈ members, IsBody m.key)
    (reads : List.Forall₂ (MemberReads purpose room (depth + 1)) members ps)
    {stack : List Opened} (deep : stack.length = depth) (read : List (String × Value))
    (old : String) (rest : List Char) :
    readFrom purpose room (.object read old :: stack) .more
        (lexemes (members.flatMap (fun n => ',' :: n.text) ++ '\x7d' :: rest)) =
      goOn purpose room stack (.object (read.reverse ++ ps)) (lexemes rest) := by
  induction reads generalizing read old with
  | nil =>
    rw [List.flatMap_nil, List.nil_append, List.append_nil, lexemes_sign rfl]
    exact readFrom_lastMember
  | @cons m p members ps first _ ih =>
    have ends := ends_items '\x7d' (by simp) members Member.text rest
    obtain ⟨hm, padded⟩ := List.forall_mem_cons.1 padded
    obtain ⟨body, bodies⟩ := List.forall_mem_cons.1 bodies
    rw [List.flatMap_cons, List.append_assoc, List.cons_append, lexemes_sign rfl,
      readFrom_nextMember, readFrom_member (.inr rfl) hm body first deep ends, ih padded bodies]
    simp

/-- An object is read if its members are, whatever follows it. -/
theorem readFrom_object {blank : List Char} {members : List Member} {ps : List (String × Value)}
    (inner : IsBlank blank) (padded : ∀ m ∈ members, m.IsPadded)
    (bodies : ∀ m ∈ members, IsBody m.key) (shallow : purpose = .wanted → depth < room)
    (reads : List.Forall₂ (MemberReads purpose room (depth + 1)) members ps)
    {stack : List Opened} (deep : stack.length = depth) (rest : List Char) :
    readFrom purpose room stack .value (lexemes (objectText blank members ++ rest)) =
      goOn purpose room stack (.object ps) (lexemes rest) := by
  have opened (s : List Char) : readFrom purpose room stack .value (lexemes ('\x7b' :: s)) =
      readFrom purpose room (.object [] "" :: stack) .firstKey (lexemes s) := by
    rw [lexemes_sign rfl]
    exact readFrom_openObject fun h => by rw [deep]; exact shallow h
  cases reads with
  | nil =>
    have flat : objectText blank [] ++ rest = '\x7b' :: (blank ++ '\x7d' :: rest) := by
      simp [objectText, Text.joinWith]
    rw [flat, opened, lexemes_blank inner, lexemes_sign rfl]
    exact readFrom_noMember
  | @cons m p members ps first others =>
    have ends := ends_items '\x7d' (by simp) members Member.text rest
    obtain ⟨hm, padded⟩ := List.forall_mem_cons.1 padded
    obtain ⟨body, bodies⟩ := List.forall_mem_cons.1 bodies
    rw [objectText_cons, opened, lexemes_blank inner,
      readFrom_member (.inl rfl) hm body first deep ends,
      readFrom_members padded bodies others deep]
    rfl

end

/-! ## 3. Passing over -/

theorem Reads.literal {purpose : Purpose} {room depth : Nat} {c : Char} {word : List Char}
    {v : Value} (h : literal? c = some (word, v)) : Reads purpose room depth (c :: word) v := by
  intro stack rest _ _
  rw [List.cons_append, lexemes_literal h]
  exact readFrom_scalar rfl

/-- Values for all items, if there is one for each. -/
theorem exists_forall₂ {α β : Type} {R : α → β → Prop} {xs : List α} (h : ∀ x ∈ xs, ∃ y, R x y) :
    ∃ ys, List.Forall₂ R xs ys := by
  induction xs with
  | nil => exact ⟨[], .nil⟩
  | cons x xs ih =>
    obtain ⟨⟨y, hy⟩, h⟩ := List.forall_mem_cons.1 h
    obtain ⟨ys, hys⟩ := ih h
    exact ⟨y :: ys, .cons hy hys⟩

/-- **Every grammatical value can be passed over**, however deep it goes, and whether or not its
strings and numbers are worth anything. -/
theorem IsValue.passes {text : List Char} (h : IsValue text) (room depth : Nat) :
    ∃ v, Reads .unwanted room depth text v := by
  -- the items of a container are one level deeper
  induction h generalizing depth with
  | literal h =>
    simp only [List.mem_cons, List.not_mem_nil, or_false] at h
    rcases h with rfl | rfl | rfl
    · exact ⟨.null, Reads.literal (c := 'n') rfl⟩
    · exact ⟨.bool true, Reads.literal (c := 't') rfl⟩
    · exact ⟨.bool false, Reads.literal (c := 'f') rfl⟩
  | number h =>
    refine ⟨.null, fun stack rest _ hr => ?_⟩
    obtain ⟨value, cut⟩ := lexemes_number h hr
    rw [cut]
    exact readFrom_scalar rfl
  | string h =>
    refine ⟨.null, fun stack rest _ _ => ?_⟩
    rw [lexemes_string h]
    exact readFrom_scalar rfl
  | array inner padded values ih =>
    obtain ⟨ws, reads⟩ := exists_forall₂ fun x hx => ih x hx (depth + 1)
    exact ⟨.array ws, Reads.array inner padded values nofun reads⟩
  | @object blank members inner padded keys _ ih =>
    have read : ∀ m ∈ members, ∃ p, MemberReads .unwanted room (depth + 1) m p := by
      intro m hm
      obtain ⟨v, hv⟩ := ih m hm (depth + 1)
      exact ⟨("", v), fun _ _ => rfl, hv⟩
    obtain ⟨ps, reads⟩ := exists_forall₂ read
    exact ⟨.object ps, fun _ rest deep _ =>
      readFrom_object inner padded keys (by simp) reads deep rest⟩

/-- A value is passed over, and what follows it is left. -/
theorem IsValue.skipped {text rest : List Char} (h : IsValue text) (hr : Ends rest) :
    skipValue (lexemes (text ++ rest)) = .ok (lexemes rest) := by
  obtain ⟨v, reads⟩ := h.passes 0 0
  rw [skipValue, reads [] rest rfl hr]
  rfl

/-- An object ends where it ends, whatever follows it. -/
theorem IsObject.skipped {s : List Char} {members : List Member} (h : IsObject s members)
    (rest : List Char) : skipValue (lexemes (s ++ rest)) = .ok (lexemes rest) := by
  obtain ⟨proper, before, inner, behind, hb, hi, hd, rfl⟩ := h
  have read : ∀ m ∈ members, ∃ p, MemberReads .unwanted 0 1 m p := by
    intro m hm
    obtain ⟨v, hv⟩ := (proper m hm).value.passes 0 1
    exact ⟨("", v), fun _ _ => rfl, hv⟩
  obtain ⟨ps, reads⟩ := exists_forall₂ read
  have flat : before ++ (objectText inner members ++ behind) ++ rest =
      before ++ (objectText inner members ++ (behind ++ rest)) := by simp
  have taken : readFrom .unwanted 0 [] .value _ = _ :=
    readFrom_object hi (fun m hm => (proper m hm).padded) (fun m hm => (proper m hm).key)
      (by simp) reads rfl (behind ++ rest)
  rw [flat, lexemes_blank hb, skipValue, taken, lexemes_blank hd]
  rfl

/-- **No object is continued to another one**, except by blanks. -/
theorem IsObject.isBlank_of_append {s rest : List Char} {members members' : List Member}
    (h : IsObject s members) (h' : IsObject (s ++ rest) members') : IsBlank rest := by
  have whole := h'.skipped []
  rw [List.append_nil, h.skipped rest, lexemes_nil] at whole
  exact isBlank_of_lexemes (Except.ok.inj whole)

/-! ## 4. Leniency -/

/-- The container is an array. -/
def Opened.isArray : Opened → Bool
  | .array _ => true
  | .object _ _ => false

section

variable {room room' : Nat} {stack stack' : List Opened} {x : Lexeme} {xs : List Lexeme}
  {result : Value × List Lexeme}

/-- What is read behind these lexemes is passed over, and the same is left. -/
def Lenient (room room' : Nat) (xs : List Lexeme) : Prop :=
  ∀ stack stack' next result, stack.map Opened.isArray = stack'.map Opened.isArray →
    readFrom .wanted room stack next xs = .ok result →
    ∃ v, readFrom .unwanted room' stack' next xs = .ok (v, result.2)

theorem Lenient.goOn (h : Lenient room room' xs)
    (alike : stack.map Opened.isArray = stack'.map Opened.isArray) {v w : Value}
    (read : goOn .wanted room stack v xs = .ok result) :
    ∃ u, Json.goOn .unwanted room' stack' w xs = .ok (u, result.2) := by
  rcases stack with _ | ⟨top, below⟩ <;> rcases stack' with _ | ⟨top', below'⟩
  · cases read
    exact ⟨w, rfl⟩
  · cases alike
  · cases alike
  · refine h _ _ _ _ ?_ read
    have kept (v : Value) (o : Opened) : (o.add v).isArray = o.isArray := by cases o <;> rfl
    simpa only [List.map_cons, kept] using alike

/-- What corresponds to an array is an array, -/
theorem exists_array_of_alike {items : List Value} {below : List Opened}
    (alike : (Opened.array items :: below).map Opened.isArray = stack.map Opened.isArray) :
    ∃ items' below', stack = .array items' :: below' ∧
      below.map Opened.isArray = below'.map Opened.isArray := by
  rcases stack with _ | ⟨items' | ⟨members', key'⟩, below'⟩
  · cases alike
  · exact ⟨items', below', rfl, (List.cons.inj alike).2⟩
  · cases alike

/-- and what corresponds to an object is an object. -/
theorem exists_object_of_alike {members : List (String × Value)} {key : String}
    {below : List Opened}
    (alike : (Opened.object members key :: below).map Opened.isArray = stack.map Opened.isArray) :
    ∃ members' key' below', stack = .object members' key' :: below' ∧
      below.map Opened.isArray = below'.map Opened.isArray := by
  rcases stack with _ | ⟨items' | ⟨members', key'⟩, below'⟩
  · cases alike
  · cases alike
  · exact ⟨members', key', below', rfl, (List.cons.inj alike).2⟩

theorem scalar_unwanted {v : Value} (h : scalar .wanted x = .ok v) :
    ∃ w, scalar .unwanted x = .ok w := by
  rcases x with ⟨token, start, after⟩
  cases token <;> simp_all [scalar]

theorem keyOf_unwanted {key : String} (h : keyOf .wanted x = .ok key) :
    ∃ text, x.token = .string text := by
  rcases x with ⟨token, start, after⟩
  cases token <;> simp_all [keyOf]

/-- A value of its own, or the sign that opens a container. -/
theorem Lenient.value (h : Lenient room room' xs)
    (alike : stack.map Opened.isArray = stack'.map Opened.isArray)
    (read : readFrom .wanted room stack .value (x :: xs) = .ok result) :
    ∃ v, readFrom .unwanted room' stack' .value (x :: xs) = .ok (v, result.2) := by
  have deeper (o : Opened) :
      (o :: stack).map Opened.isArray = (o :: stack').map Opened.isArray := by simp [alike]
  conv at read => lhs; unfold readFrom
  dsimp only at read
  rcases x with ⟨token, s, t⟩
  split at read
  · next opens =>
    cases opens
    split at read
    · cases read
    · obtain ⟨v, skipped⟩ := h _ _ _ _ (deeper _) read
      exact ⟨v, (readFrom_openArray (by simp)).trans skipped⟩
  · next opens =>
    cases opens
    split at read
    · cases read
    · obtain ⟨v, skipped⟩ := h _ _ _ _ (deeper _) read
      exact ⟨v, (readFrom_openObject (by simp)).trans skipped⟩
  · cases value : scalar .wanted ⟨token, s, t⟩ with
    | error f =>
      rw [value] at read
      cases read
    | ok v =>
      rw [value] at read
      obtain ⟨w, skipped⟩ := scalar_unwanted value
      rw [readFrom_scalar skipped]
      exact h.goOn alike (v := v) read

/-- Where a name is read, an object is open, and a colon comes next. -/
theorem of_readFrom_key {next : Next} (hn : next = .firstKey ∨ next = .key)
    (more : x.token ≠ .closeObject)
    (read : readFrom .wanted room stack next (x :: xs) = .ok result) :
    ∃ members old below key, stack = .object members old :: below ∧
      keyOf .wanted x = .ok key ∧
      readFrom .wanted room (.object members key :: below) .colon xs = .ok result := by
  rcases hn with rfl | rfl
  all_goals
    conv at read => lhs; unfold readFrom
    dsimp only at read
    split at read
    · next ends => exact absurd ends more
    · obtain ⟨key, named, read⟩ := bind_eq_ok.1 read
      split at read
      · exact ⟨_, _, _, key, rfl, named, read⟩
      · cases read

/-- The name of a member. -/
theorem Lenient.key (h : Lenient room room' xs) {next : Next}
    (hn : next = .firstKey ∨ next = .key) (more : x.token ≠ .closeObject)
    (alike : stack.map Opened.isArray = stack'.map Opened.isArray)
    (read : readFrom .wanted room stack next (x :: xs) = .ok result) :
    ∃ v, readFrom .unwanted room' stack' next (x :: xs) = .ok (v, result.2) := by
  obtain ⟨members, old, below, key, rfl, named, behind⟩ := of_readFrom_key hn more read
  obtain ⟨text, token⟩ := keyOf_unwanted named
  obtain ⟨_, s, t⟩ := x
  cases token
  obtain ⟨members', old', below', rfl, -⟩ := exists_object_of_alike alike
  obtain ⟨v, skipped⟩ :=
    h (.object members key :: below) (.object members' "" :: below') .colon _ alike behind
  exact ⟨v, (readFrom_key hn rfl).trans skipped⟩

/-- What may stand behind a complete value. -/
theorem Lenient.more (h : Lenient room room' xs)
    (alike : stack.map Opened.isArray = stack'.map Opened.isArray)
    (read : readFrom .wanted room stack .more (x :: xs) = .ok result) :
    ∃ v, readFrom .unwanted room' stack' .more (x :: xs) = .ok (v, result.2) := by
  rcases x with ⟨token, s, t⟩
  conv at read => lhs; unfold readFrom
  dsimp only at read
  split at read
  · obtain ⟨items', below', rfl, around⟩ := exists_array_of_alike alike
    exact h.goOn around read
  · obtain ⟨items', below', rfl, -⟩ := exists_array_of_alike alike
    split at read
    · cases read
    · exact h _ _ _ _ alike read
  · obtain ⟨members', key', below', rfl, around⟩ := exists_object_of_alike alike
    exact h.goOn around read
  · obtain ⟨members', key', below', rfl, -⟩ := exists_object_of_alike alike
    exact h _ _ _ _ alike read
  · cases read
  · cases read

/-- **Whatever can be read can be passed over**, and the same is left. -/
theorem lenient (room room' : Nat) (xs : List Lexeme) : Lenient room room' xs := by
  induction xs with
  | nil =>
    intro stack stack' next result _ read
    cases read
  | cons x xs ih =>
    intro stack stack' next result alike read
    rcases x with ⟨token, s, t⟩
    cases next with
    | value => exact ih.value alike read
    | firstItem =>
      by_cases ends : token = .closeArray
      · subst ends
        rcases stack with _ | ⟨top, below⟩ <;> rcases stack' with _ | ⟨top', below'⟩
        · cases read
        · cases alike
        · cases alike
        · exact ih.goOn (List.cons.inj alike).2 read
      · rw [readFrom_firstItem ends] at read ⊢
        exact ih.value alike read
    | firstKey =>
      by_cases ends : token = .closeObject
      · subst ends
        rcases stack with _ | ⟨top, below⟩ <;> rcases stack' with _ | ⟨top', below'⟩
        · cases read
        · cases alike
        · cases alike
        · exact ih.goOn (List.cons.inj alike).2 read
      · exact ih.key (.inl rfl) ends alike read
    | key =>
      by_cases ends : token = .closeObject
      · subst ends
        cases read
      · exact ih.key (.inr rfl) ends alike read
    | colon =>
      by_cases separates : token = .colon
      · subst separates
        exact ih _ _ .value _ alike read
      · conv at read => lhs; unfold readFrom
        dsimp only at read
        split at read
        · exact absurd rfl separates
        · cases read
    | more => exact ih.more alike read

/-- What is left behind a value does not depend on whether it is wanted. -/
theorem skipValue_of_read {room : Nat} {xs ys : List Lexeme} {v : Value}
    (h : readValue room xs = .ok (v, ys)) : skipValue xs = .ok ys := by
  obtain ⟨w, skipped⟩ := lenient room 0 xs [] [] .value _ rfl h
  rw [skipValue, skipped]
  rfl

end

end Json
end Playtest
