/-
# Layers

Tables are laid over each other key by key.  What is then found under a key is what the topmost
table with that key has there, except that a table laid over a table is put together from both
(`lookup_ofLayers`).  No setting is a table, so for a reader the two are one (`Datum.Shows`).

That needs tables in which each key stands once, and so are those that layers are made of: a
settings file (`document?_distinct`), a variable, and the options of a command line.
-/
import Mathlib.Data.List.Induction
import Playtest.Proofs.Steps
import Playtest.Settings.Layers

namespace Playtest
namespace Settings

/-! ## 1. A value over a value -/

theorem shape_onto (low x : Datum) : (Datum.onto low x).shape = x.shape := by
  cases x with
  | scalar source x => simp [Datum.onto]
  | list source items => simp [Datum.onto]
  | dict source members => cases low <;> simp [Datum.onto, Datum.shape]

theorem onto_eq {x : Datum} (h : x.shape ≠ .map) (low : Datum) : Datum.onto low x = x := by
  cases x with
  | scalar source x => simp [Datum.onto]
  | list source items => simp [Datum.onto]
  | dict source members => exact absurd rfl h

/-- A value that has come out of layers stands for one that a layer gives: it is that value, or
both are tables. -/
def Datum.Shows (merged x : Datum) : Prop :=
  merged = x ∨ merged.shape = .map ∧ x.shape = .map

theorem Datum.Shows.trans {merged x y : Datum} (h : merged.Shows x) (h' : x.Shows y) :
    merged.Shows y := by
  rcases h with rfl | ⟨map, map'⟩
  · exact h'
  · rcases h' with rfl | ⟨-, map''⟩
    · exact .inr ⟨map, map'⟩
    · exact .inr ⟨map, map''⟩

theorem shows_self : ∀ x? : Option Datum, Option.Rel Datum.Shows x? x?
  | none => .none
  | some _ => .some (.inl rfl)

theorem Datum.shows_onto (low x : Datum) : (Datum.onto low x).Shows x := by
  by_cases table : x.shape = .map
  · exact .inr ⟨(shape_onto low x).trans table, table⟩
  · exact .inl (onto_eq table low)

/-- What is found under a key in a table over another. -/
def over? : Option Datum → Option Datum → Option Datum
  | some low, some x => some (Datum.onto low x)
  | none, some x => some x
  | low?, none => low?

/-! ## 2. A table over a table -/

theorem lookup_onto {low top : Table} (h : top.Distinct) (key : String) :
    (low.onto top).lookup key = over? (low.lookup key) (top.lookup key) := by
  induction top generalizing low with
  | nil =>
    rw [Table.onto]
    cases low.lookup key <;> rfl
  | cons entry rest ih =>
    obtain ⟨own, x⟩ := entry
    obtain ⟨fresh, distinct⟩ := List.nodup_cons.1 h
    rw [Table.onto, ih distinct, Keyed.lookup_put, Keyed.lookup_cons]
    split
    · next same =>
      rw [same, Keyed.lookup_eq_none fresh]
      cases low.lookup own <;> rfl
    · rfl

theorem distinct_onto {low : Table} (h : low.Distinct) (top : Table) :
    (low.onto top).Distinct := by
  induction top generalizing low with
  | nil =>
    rw [Table.onto]
    exact h
  | cons entry rest ih =>
    rw [Table.onto]
    exact ih (h.put _ _)

/-- What the topmost table that has a key gives for it. -/
def topmost? (key : String) (layers : List Table) : Option Datum :=
  layers.reverse.findSome? fun layer => layer.lookup key

theorem topmost?_concat (key : String) (layers : List Table) (top : Table) :
    topmost? key (layers ++ [top]) = (top.lookup key).or (topmost? key layers) := by
  rw [topmost?, List.reverse_concat, List.findSome?_cons]
  cases top.lookup key <;> rfl

theorem ofLayers_concat (layers : List Table) (top : Table) :
    Table.ofLayers (layers ++ [top]) = (Table.ofLayers layers).onto top := by
  rw [Table.ofLayers, List.foldl_append]
  rfl

theorem distinct_ofLayers (layers : List Table) : (Table.ofLayers layers).Distinct := by
  induction layers using List.reverseRecOn with
  | nil => exact List.nodup_nil
  | append_singleton layers top ih =>
    rw [ofLayers_concat]
    exact distinct_onto ih top

theorem over?_shows {low? below? top? x? : Option Datum} (low : Option.Rel Datum.Shows low? below?)
    (top : Option.Rel Datum.Shows top? x?) :
    Option.Rel Datum.Shows (over? low? top?) (x?.or below?) := by
  cases top with
  | none => cases low with
    | none => exact .none
    | some shows => exact .some shows
  | some shows => cases low with
    | none => exact .some shows
    | some _ => exact .some ((Datum.shows_onto _ _).trans shows)

/-- **The topmost layer decides.** -/
theorem lookup_ofLayers {layers : List Table} (h : ∀ layer ∈ layers, layer.Distinct)
    (key : String) :
    Option.Rel Datum.Shows ((Table.ofLayers layers).lookup key) (topmost? key layers) := by
  induction layers using List.reverseRecOn with
  | nil => exact .none
  | append_singleton layers top ih =>
    have below : ∀ layer ∈ layers, layer.Distinct :=
      fun layer mem => h layer (List.mem_append_left _ mem)
    have distinct : top.Distinct := h top (List.mem_append_right _ List.mem_cons_self)
    rw [ofLayers_concat, lookup_onto distinct, topmost?_concat]
    exact over?_shows (ih below) (shows_self _)

/-! ## 3. The keys of a settings file -/

section

open Toml

/-- A change of a table leaves each key standing once. -/
def KeepsDistinct (change : Members → Option Members) : Prop :=
  ∀ {members members' : Members}, change members = some members' → members.Distinct →
    members'.Distinct

section

variable {α : Type} {read? : Option α} {make : α → Value} {key : String}
  {members members' : Members}

theorem distinct_of_put (distinct : members.Distinct)
    (h : (do return members.put key (make (← read?))) = some members') : members'.Distinct := by
  obtain ⟨inner, -, result⟩ := Option.bind_eq_some_iff.1 h
  cases result
  exact distinct.put _ _

theorem distinct_of_snoc (distinct : members.Distinct) (absent : members.lookup key = none)
    (h : (do return members ++ [(key, make (← read?))]) = some members') : members'.Distinct := by
  obtain ⟨inner, -, result⟩ := Option.bind_eq_some_iff.1 h
  cases result
  exact distinct.snoc absent _

end

theorem addKey_keeps (isDotted isFirst : Bool) (key : List String) (v : Value) :
    KeepsDistinct fun members => addKey isDotted isFirst members key v := by
  intro members members' h distinct
  dsimp only at h
  unfold addKey at h
  split at h
  · cases h
  · split at h
    · cases h
    · split at h
      · cases h
      · next absent =>
        cases h
        exact distinct.snoc (Option.not_isSome_iff_eq_none.1 absent) _
  · split at h
    · next absent => exact distinct_of_snoc distinct absent h
    · exact distinct_of_put distinct h
    · exact distinct_of_put distinct h
    · obtain ⟨last, -, h⟩ := Option.bind_eq_some_iff.1 h
      exact distinct_of_put distinct h
    · cases h

theorem openTable_keeps (key : String) : KeepsDistinct (openTable key) := by
  intro members members' h distinct
  unfold openTable at h
  split at h
  · next absent =>
    cases h
    exact distinct.snoc absent _
  · cases h
    exact distinct.put _ _
  · cases h

theorem appendTable_keeps (key : String) : KeepsDistinct (appendTable key) := by
  intro members members' h distinct
  unfold appendTable at h
  split at h
  · next absent =>
    cases h
    exact distinct.snoc absent _
  · cases h
    exact distinct.put _ _
  · cases h

/-- Only a change at the root itself counts, since on the way to another table nothing but the
value of one key is changed. -/
theorem changeAt_keeps {change : Members → Option Members} (keeps : KeepsDistinct change)
    (path : List String) : KeepsDistinct (changeAt change path) := by
  intro members members' h distinct
  unfold changeAt at h
  split at h
  · exact keeps h distinct
  · split at h
    · next absent => exact distinct_of_snoc distinct absent h
    · cases h
    · exact distinct_of_put distinct h
    · obtain ⟨last, -, h⟩ := Option.bind_eq_some_iff.1 h
      exact distinct_of_put distinct h
    · cases h

theorem enter_distinct {draft next : Draft} {isAppended : Bool} {path : List String}
    (h : draft.enter isAppended path = some next) (distinct : draft.members.Distinct) :
    next.members.Distinct := by
  obtain ⟨last, -, h⟩ := Option.bind_eq_some_iff.1 h
  obtain ⟨members, changed, result⟩ := Option.bind_eq_some_iff.1 h
  cases result
  cases isAppended with
  | true => exact changeAt_keeps (appendTable_keeps last) _ changed distinct
  | false => exact changeAt_keeps (openTable_keeps last) _ changed distinct

/-- A line opens a table, adds to the one that is open, or says nothing. -/
theorem readLine_distinct {draft next : Draft} {s rest : List Char}
    (h : draft.readLine s = some (next, rest)) (distinct : draft.members.Distinct) :
    next.members.Distinct := by
  unfold Draft.readLine at h
  split at h
  · simp only [Option.bind_eq_bind, Option.bind_eq_some_iff, Option.pure_def] at h
    obtain ⟨_, -, _, -, _, -, _, -, _, entered, result⟩ := h
    cases result
    exact enter_distinct entered distinct
  · simp only [Option.bind_eq_bind, Option.bind_eq_some_iff, Option.pure_def] at h
    obtain ⟨_, -, _, -, _, -, _, entered, result⟩ := h
    cases result
    exact enter_distinct entered distinct
  · split at h
    · cases h
      exact distinct
    · split at h
      · cases h
        exact distinct
      · simp only [Option.bind_eq_bind, Option.bind_eq_some_iff, Option.pure_def] at h
        obtain ⟨_, -, _, -, _, -, _, -, _, added, result⟩ := h
        cases result
        exact changeAt_keeps (addKey_keeps _ _ _ _) _ added distinct

theorem readLines_distinct {draft next : Draft} {fuel : Nat} {s : List Char}
    (h : draft.readLines fuel s = some next) (distinct : draft.members.Distinct) :
    next.members.Distinct := by
  fun_induction Draft.readLines draft fuel s with
  | case1 draft fuel =>
    cases h
    exact distinct
  | case2 draft s nonempty => cases h
  | case3 draft fuel s nonempty ih =>
    obtain ⟨⟨middle, rest⟩, line, h⟩ := Option.bind_eq_some_iff.1 h
    exact ih _ _ h (readLine_distinct line distinct)

/-- **In a settings file each key stands once.** -/
theorem document?_distinct {text : String} {members : Members}
    (h : document? text = some members) : members.Distinct := by
  obtain ⟨draft, read, result⟩ := Option.bind_eq_some_iff.1 h
  cases result
  exact readLines_distinct read List.nodup_nil

end

/-! ## 4. The layers of a run -/

theorem keys_ofMembers (source : Source) (members : Toml.Members) :
    (ofMembers source members).map Prod.fst = members.map Prod.fst := by
  induction members with
  | nil => rfl
  | cons member rest ih =>
    rw [ofMembers, List.map_cons, ih]
    rfl

/-- The settings that come from a file: none if there is no file. -/
def fileLayer (disk : Disk) (args : Arguments) : Except SettingsError Table := do
  match ← fileOf disk args with
  | none => .ok []
  | some path => (ofFile disk path).mapError unreadable

theorem fileLayer_distinct {disk : Disk} {args : Arguments} {file : Table}
    (h : fileLayer disk args = .ok file) : file.Distinct := by
  obtain ⟨path?, -, h⟩ := bind_eq_ok.1 h
  cases path? with
  | none =>
    cases h
    exact List.nodup_nil
  | some path =>
    dsimp only [ofFile] at h
    split at h
    · cases h
      exact List.nodup_nil
    · split at h
      · next document =>
        cases h
        rw [Keyed.Distinct, keys_ofMembers]
        exact document?_distinct document
      · cases h

/-- The settings that each variable gives, in the order of the variables. -/
def variableLayers (vars : Variables) : List Table :=
  vars.filterMap fun (name, text) =>
    (Variable.keys? name).map (Variable.nested (Variable.value text))

theorem nested_distinct (x : Datum) (path : List String) :
    (Variable.nested x path).Distinct := by
  fun_cases Variable.nested x path <;> simp [Keyed.Distinct]

theorem variableLayers_distinct {vars : Variables} :
    ∀ layer ∈ variableLayers vars, layer.Distinct := by
  intro layer mem
  obtain ⟨⟨name, text⟩, -, given⟩ := List.mem_filterMap.1 mem
  obtain ⟨path, -, rfl⟩ := Option.map_eq_some_iff.1 given
  exact nested_distinct _ path

theorem ofVariables_distinct (vars : Variables) : (ofVariables vars).Distinct :=
  distinct_ofLayers (variableLayers vars)

theorem optionValues_distinct (args : Arguments) : (optionValues args).Distinct := by
  have keys : ["interpreter", "game", "port", "timeout", "verbose", "tests", "capture",
      "capture_path", "root", "chrome", "headless"].Nodup := by
    decide
  exact keys

theorem ofArguments_distinct (args : Arguments) : (ofArguments args).Distinct :=
  (optionValues_distinct args).given

end Settings
end Playtest
