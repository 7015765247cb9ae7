/-
# Values under keys

A list of values, each under a key.  A value is put in the place of the one that stands under its
key, so a list in which each key stands once stays such a list, and then what is found under a key
is what was put there last.
-/

namespace Playtest

/-- Values under keys. -/
abbrev Keyed (α : Type) := List (String × α)

namespace Keyed

variable {α : Type}

/-- Puts a value in the place of another of the same key, or at the end. -/
def put (entries : Keyed α) (key : String) (x : α) : Keyed α :=
  match entries with
  | [] => [(key, x)]
  | (k, y) :: rest => if k = key then (k, x) :: rest else (k, y) :: put rest key x

/-- The values that are there. -/
def given (entries : Keyed (Option α)) : Keyed α :=
  entries.filterMap fun (key, x?) => x?.map (key, ·)

/-! ## 1. What is found -/

theorem lookup_cons (k key : String) (y : α) (rest : Keyed α) :
    List.lookup key ((k, y) :: rest) = if key = k then some y else rest.lookup key := by
  rw [List.lookup_cons]
  by_cases same : key = k
  · rw [beq_iff_eq.2 same, if_pos same]
  · rw [beq_false_of_ne same, if_neg same]

theorem lookup_put (entries : Keyed α) (key k : String) (x : α) :
    (entries.put key x).lookup k = if k = key then some x else entries.lookup k := by
  induction entries with
  | nil => exact lookup_cons key k x []
  | cons entry rest ih =>
    obtain ⟨own, y⟩ := entry
    rw [put]
    split
    · next same =>
      subst same
      simp only [lookup_cons]
      split <;> rfl
    · next differ =>
      simp only [lookup_cons, ih]
      split
      · next here => rw [if_neg fun there => differ (here.symm.trans there)]
      · rfl

/-! ## 2. Distinct keys -/

/-- Each key stands once. -/
def Distinct (entries : Keyed α) : Prop := (entries.map Prod.fst).Nodup

theorem lookup_eq_none {entries : Keyed α} {key : String} (h : key ∉ entries.map Prod.fst) :
    entries.lookup key = none :=
  List.lookup_eq_none_iff.2 fun _ mem =>
    bne_iff_ne.2 fun same => h (same ▸ List.mem_map_of_mem mem)

theorem not_mem_keys {entries : Keyed α} {key : String} (h : entries.lookup key = none) :
    key ∉ entries.map Prod.fst := by
  intro mem
  obtain ⟨entry, mem, same⟩ := List.mem_map.1 mem
  exact bne_iff_ne.1 (List.lookup_eq_none_iff.1 h entry mem) same.symm

theorem mem_keys_put {entries : Keyed α} {key k : String} {x : α}
    (h : k ∈ (entries.put key x).map Prod.fst) : k = key ∨ k ∈ entries.map Prod.fst := by
  induction entries with
  | nil => exact .inl (List.mem_singleton.1 h)
  | cons entry rest ih =>
    rw [put] at h
    split at h
    · exact .inr h
    · rcases List.mem_cons.1 h with own | later
      · exact .inr (own ▸ List.mem_cons_self)
      · exact (ih later).imp_right (List.mem_cons_of_mem _)

theorem Distinct.put {entries : Keyed α} (h : entries.Distinct) (key : String) (x : α) :
    (entries.put key x).Distinct := by
  induction entries with
  | nil => exact List.nodup_cons.2 ⟨List.not_mem_nil, List.nodup_nil⟩
  | cons entry rest ih =>
    obtain ⟨fresh, distinct⟩ := List.nodup_cons.1 h
    rw [Keyed.put]
    split
    · exact h
    · next differ =>
      refine List.nodup_cons.2 ⟨fun mem => ?_, ih distinct⟩
      rcases mem_keys_put mem with same | before
      · exact differ same
      · exact fresh before

/-- Something under a key that is not there yet can stand at the end. -/
theorem Distinct.snoc {entries : Keyed α} {key : String} (h : entries.Distinct)
    (absent : entries.lookup key = none) (x : α) : Keyed.Distinct (entries ++ [(key, x)]) := by
  rw [Distinct, List.map_append, List.nodup_append]
  refine ⟨h, List.nodup_cons.2 ⟨List.not_mem_nil, List.nodup_nil⟩, fun k before other last => ?_⟩
  rw [List.mem_singleton.1 last]
  rintro rfl
  exact not_mem_keys absent before

/-! ## 3. What is there -/

theorem given_none (key : String) (rest : Keyed (Option α)) :
    given ((key, none) :: rest) = given rest := rfl

theorem given_some (key : String) (x : α) (rest : Keyed (Option α)) :
    given ((key, some x) :: rest) = (key, x) :: given rest := rfl

theorem keys_given (entries : Keyed (Option α)) :
    (entries.given.map Prod.fst).Sublist (entries.map Prod.fst) := by
  induction entries with
  | nil => exact .slnil
  | cons entry rest ih =>
    obtain ⟨key, x?⟩ := entry
    cases x? with
    | none => exact ih.cons key
    | some x => exact ih.cons_cons key

theorem Distinct.given {entries : Keyed (Option α)} (h : entries.Distinct) :
    entries.given.Distinct :=
  h.sublist (keys_given entries)

theorem lookup_given {entries : Keyed (Option α)} (h : entries.Distinct) (key : String) :
    entries.given.lookup key = (entries.lookup key).join := by
  induction entries with
  | nil => rfl
  | cons entry rest ih =>
    obtain ⟨own, x?⟩ := entry
    obtain ⟨fresh, distinct⟩ := List.nodup_cons.1 h
    rw [lookup_cons]
    cases x? with
    | none =>
      rw [given_none, ih distinct]
      split
      · next same =>
        rw [same, lookup_eq_none fresh]
        rfl
      · rfl
    | some x =>
      rw [given_some, lookup_cons, ih distinct]
      split <;> rfl

end Keyed
end Playtest
