/-
# Settings one by one

Every setting has a key, a reader for what stands under that key, an option of the command line,
and a place among the settings of a run (`Field`).  The eleven of them are all that settings
consist of (`ext_fields`), and to read the settings from a table is to read each of them by itself
(`ofTable_eq_ok`).

No reader takes a table, and each tells of what it refuses under which key it stands (`IsPlain`).
-/
import Playtest.Proofs.Program.CommandLine
import Playtest.Proofs.Settings.Layering

namespace Playtest
namespace Settings

/-! ## 1. Readers -/

/-- The reader takes no table, and what it refuses it finds under the keys that it was given. -/
structure Reader.IsPlain {α : Type} (read : Reader α) : Prop where
  refuses : ∀ {path x v}, x.shape = .map → read path x ≠ .ok v
  found : ∀ {path x} {e : Misfit}, read path x = .error e → path <+: e.path

variable {α : Type} {read : Reader α}

/-- What has come out of layers is read as what the topmost of them gives. -/
theorem Reader.IsPlain.shows (plain : read.IsPlain) {merged x : Datum} (h : merged.Shows x)
    {path : List String} {v : α} : read path merged = .ok v ↔ read path x = .ok v := by
  rcases h with rfl | ⟨map, map'⟩
  · rfl
  · exact iff_of_false (plain.refuses map) (plain.refuses map')

theorem eq_dict {x : Datum} (h : x.shape = .map) : ∃ source members, x = .dict source members := by
  cases x with
  | dict source members => exact ⟨source, members, rfl⟩
  | _ => cases h

theorem readBoolean_isPlain : Reader.IsPlain readBoolean where
  refuses map := by
    obtain ⟨source, members, rfl⟩ := eq_dict map
    exact nofun
  found h := by
    unfold readBoolean at h
    split at h <;> cases h
    exact List.prefix_rfl

theorem readTextual_isPlain (wanted : String) : Reader.IsPlain (readTextual wanted) where
  refuses map := by
    obtain ⟨source, members, rfl⟩ := eq_dict map
    exact nofun
  found h := by
    unfold readTextual at h
    split at h <;> cases h
    exact List.prefix_rfl

theorem readSeconds_isPlain : Reader.IsPlain readSeconds where
  refuses map := by
    obtain ⟨source, members, rfl⟩ := eq_dict map
    exact nofun
  found h := by
    unfold readSeconds at h
    split at h <;> cases h
    exact List.prefix_rfl

theorem readPort_isPlain : Reader.IsPlain readPort where
  refuses map := by
    obtain ⟨source, members, rfl⟩ := eq_dict map
    exact nofun
  found h := by
    unfold readPort at h
    split at h
    · split at h <;> cases h
      exact List.prefix_rfl
    · split at h <;> cases h
      exact List.prefix_rfl
    · cases h
      exact List.prefix_rfl

/-- A table can name a format, but then it must hold nothing, which no source can write. -/
theorem readFormat_isPlain : Reader.IsPlain readFormat where
  refuses map := by
    obtain ⟨source, members, rfl⟩ := eq_dict map
    dsimp only [readFormat]
    split
    · exact nofun
    · split <;> exact nofun
  found h := by
    unfold readFormat at h
    split at h
    · split at h <;> cases h
      exact List.prefix_rfl
    · split at h
      · cases h
        exact List.prefix_rfl
      · split at h <;> cases h <;> exact List.prefix_append _ _
    · cases h
      exact List.prefix_rfl

theorem readItems_found (plain : read.IsPlain) {path : List String} {n : Nat} {xs : List Datum}
    {e : Misfit} (h : readItems read path n xs = .error e) : path <+: e.path := by
  induction xs generalizing n with
  | nil => cases h
  | cons x rest ih =>
    rcases bind_eq_error.1 h with here | ⟨first, -, h⟩
    · exact (List.prefix_append _ _).trans (plain.found here)
    · rcases bind_eq_error.1 h with later | ⟨_, -, h⟩
      · exact ih later
      · cases h

theorem Reader.IsPlain.list (plain : read.IsPlain) : Reader.IsPlain (readList read) where
  refuses map := by
    obtain ⟨source, members, rfl⟩ := eq_dict map
    exact nofun
  found h := by
    unfold readList at h
    split at h
    · exact readItems_found plain h
    · cases h
      exact List.prefix_rfl

/-- A value that may be missing, but is there. -/
def Reader.present (read : Reader α) : Reader (Option α) := fun path x => (read path x).map some

theorem Reader.IsPlain.present (plain : read.IsPlain) : read.present.IsPlain where
  refuses map h := by
    obtain ⟨v, there, -⟩ := map_eq_ok.1 h
    exact plain.refuses map there
  found h := plain.found (map_eq_error.1 h)

/-! ## 2. The settings -/

/-- One of the settings. -/
structure Field where
  Carrier : Type
  key : String
  /-- Reads what stands under the key. -/
  read : Reader Carrier
  /-- Its place among the settings of a run. -/
  get : Settings → Carrier
  /-- What a command line gives for it.  An option that is not there gives nothing. -/
  argument? : Arguments → Option Carrier

namespace Field

/-- A setting that may be missing. -/
def optional (key : String) (read : Reader α) (get : Settings → Option α)
    (argument? : Arguments → Option α) : Field :=
  ⟨Option α, key, read.present, get, fun args => (argument? args).map some⟩

/-- What a value under the key means.  If there is none, the setting has its default. -/
def meaning (f : Field) : Option Datum → Except Misfit f.Carrier
  | some x => f.read [f.key] x
  | none => .ok (f.get {})

end Field

/-- The settings, in the order of their keys. -/
def fields : List Field :=
  [.optional "capture" readFormat capture? fun args =>
      if args.pdf then some .pdf else args.capture?,
    .optional "capture_path" readPath capturePath? Arguments.capturePath?,
    .optional "chrome" readPath chrome? Arguments.chrome?,
    .optional "game" readText game? Arguments.game?,
    ⟨Bool, "headless", readBoolean, headless, fun args =>
      if args.visible then some false else none⟩,
    .optional "interpreter" readText interpreter? Arguments.interpreter?,
    ⟨Nat, "port", readPort, port, Arguments.port?⟩,
    .optional "root" readPath root? Arguments.root?,
    ⟨List String, "tests", readList readText, tests, fun args =>
      if args.tests = [] then none else some args.tests⟩,
    ⟨Binary64, "timeout", readSeconds, timeout, Arguments.timeout?⟩,
    ⟨Bool, "verbose", readBoolean, verbose, fun args =>
      if args.verbose then some true else none⟩]

theorem fields_isPlain : ∀ f ∈ fields, f.read.IsPlain := by
  simp only [fields, List.forall_mem_cons, List.not_mem_nil, false_imp_iff, implies_true, and_true]
  exact ⟨readFormat_isPlain.present, (readTextual_isPlain _).present,
    (readTextual_isPlain _).present, (readTextual_isPlain _).present, readBoolean_isPlain,
    (readTextual_isPlain _).present, readPort_isPlain, (readTextual_isPlain _).present,
    (readTextual_isPlain _).list, readSeconds_isPlain, readBoolean_isPlain⟩

/-- **There are no other settings.**  Settings are equal if each of these is. -/
theorem ext_fields {s t : Settings} (h : ∀ f ∈ fields, f.get s = f.get t) : s = t := by
  simp only [fields, List.forall_mem_cons, Field.optional] at h
  obtain ⟨capture, path, chrome, game, headless, interpreter, port, root, tests, timeout, verbose,
    -⟩ := h
  cases s
  cases t
  simp_all

/-! ## 3. Reading a table -/

section

variable {table : Table} {key : String} {get : Settings → Option α}
  {argument? : Arguments → Option α} {e : Misfit}

theorem meaning_optional (h : get {} = none) :
    (Field.optional key read get argument?).meaning (table.lookup key) = table.read? key read := by
  unfold Table.read?
  cases table.lookup key with
  | none => exact congrArg Except.ok h
  | some x => rfl

theorem meaning_eq (f : Field) :
    f.meaning (table.lookup f.key) =
      (table.read? f.key f.read).map fun given? => given?.getD (f.get {}) := by
  unfold Table.read?
  cases table.lookup f.key with
  | none => rfl
  | some x => cases hx : f.read [f.key] x <;> simp [Field.meaning, hx, Except.map]

theorem meaning_of_read (f : Field) {given? : Option f.Carrier}
    (h : table.read? f.key f.read = .ok given?) :
    f.meaning (table.lookup f.key) = .ok (given?.getD (f.get {})) := by
  rw [meaning_eq, h]
  rfl

theorem meaning_of_misfit (f : Field) (h : table.read? f.key f.read = .error e) :
    f.meaning (table.lookup f.key) = .error e := by
  rw [meaning_eq, h]
  rfl

end

theorem meaning_of_ofTable {table : Table} {s : Settings} (h : ofTable table = .ok s) :
    ∀ f ∈ fields, f.meaning (table.lookup f.key) = .ok (f.get s) := by
  simp only [ofTable, bind_eq_ok] at h
  obtain ⟨capture?, capture, path?, path, chrome?, chrome, game?, game, headless?, headless,
    interpreter?, interpreter, port?, port, root?, root, tests?, tests, timeout?, timeout,
    verbose?, verbose, h⟩ := h
  cases h
  simp only [fields, List.forall_mem_cons, List.not_mem_nil, false_imp_iff, implies_true, and_true]
  exact ⟨(meaning_optional rfl).trans capture, (meaning_optional rfl).trans path,
    (meaning_optional rfl).trans chrome, (meaning_optional rfl).trans game,
    meaning_of_read _ headless, (meaning_optional rfl).trans interpreter, meaning_of_read _ port,
    (meaning_optional rfl).trans root, meaning_of_read _ tests, meaning_of_read _ timeout,
    meaning_of_read _ verbose⟩

/-- What is reported is a setting that cannot be read. -/
theorem ofTable_eq_error {table : Table} {e : Misfit} (h : ofTable table = .error e) :
    ∃ f ∈ fields, f.meaning (table.lookup f.key) = .error e := by
  simp only [ofTable, bind_eq_error] at h
  simp only [fields, List.mem_cons, List.not_mem_nil, or_false, exists_eq_or_imp, exists_eq_left]
  -- the settings stand in the order in which they are read, so the two go through them together
  iterate 10
    rcases h with h | ⟨_, -, h⟩
    · left
      first | exact (meaning_optional rfl).trans h | exact meaning_of_misfit _ h
    right
  rcases h with h | ⟨_, -, h⟩
  · exact meaning_of_misfit _ h
  · cases h

/-- **The settings that a table gives are those that it gives one by one.** -/
theorem ofTable_eq_ok {table : Table} {s : Settings} :
    ofTable table = .ok s ↔ ∀ f ∈ fields, f.meaning (table.lookup f.key) = .ok (f.get s) := by
  refine ⟨meaning_of_ofTable, fun h => ?_⟩
  rcases read : ofTable table with e | t
  · obtain ⟨f, mem, failed⟩ := ofTable_eq_error read
    exact nomatch failed.symm.trans (h f mem)
  · have same : t = s := ext_fields fun f mem =>
      Except.ok.inj ((meaning_of_ofTable read f mem).symm.trans (h f mem))
    rw [same]

/-! ## 4. What a command line gives -/

theorem readFormat_extension (path : List String) (source : Source) (format : CaptureFormat) :
    readFormat path (.scalar source (.string format.extension)) = .ok format := by
  cases format <;> rfl

theorem readItems_texts (path : List String) (source : Source) (texts : List String) (n : Nat) :
    readItems readText path n (texts.map fun s => .scalar source (.string s)) = .ok texts := by
  induction texts generalizing n with
  | nil => rfl
  | cons s rest ih =>
    rw [List.map_cons, readItems, ih]
    rfl

/-- The reader reads back what a command line writes for the values that it was given. -/
def Reader.ReadsBack (read : Reader α) (path : List String) : Option Datum → Option α → Prop :=
  Option.Rel fun x v => read path x = .ok v

section

variable {path : List String}

variable {given? : Option α} {datum : α → Datum}

theorem readsBack_option (h : ∀ v, given? = some v → read path (datum v) = .ok v) :
    read.ReadsBack path (given?.map datum) given? := by
  cases given? with
  | none => exact .none
  | some v => exact .some (h v rfl)

theorem readsBack_present (h : ∀ v, read path (datum v) = .ok v) :
    read.present.ReadsBack path (given?.map datum) (given?.map some) := by
  cases given? with
  | none => exact .none
  | some v => exact .some (congrArg (Except.map some) (h v))

theorem readsBack_flag {x : Datum} {v : α} (h : read path x = .ok v) (flag : Bool) :
    read.ReadsBack path (if flag then some x else none) (if flag then some v else none) := by
  cases flag with
  | false => exact .none
  | true => exact .some h

end

/-- **A command line gives what its options say, and nothing where an option is absent.** -/
theorem readsBack_arguments {args : Arguments} (port : args.HasPort) :
    ∀ f ∈ fields,
      f.read.ReadsBack [f.key] ((ofArguments args).lookup f.key) (f.argument? args) := by
  have lookup (key : String) :
      (ofArguments args).lookup key = ((optionValues args).lookup key).join :=
    Keyed.lookup_given (optionValues_distinct args) key
  simp only [fields, List.forall_mem_cons, List.not_mem_nil, false_imp_iff, implies_true, and_true,
    lookup, optionValues, Keyed.lookup_cons, Field.optional, String.reduceEq, if_true, if_false,
    Option.join_some]
  refine ⟨?capture, readsBack_present fun _ => rfl, readsBack_present fun _ => rfl,
    readsBack_present fun _ => rfl, readsBack_flag rfl _, readsBack_present fun _ => rfl, ?port,
    readsBack_present fun _ => rfl, ?tests, readsBack_option fun _ _ => rfl, readsBack_flag rfl _⟩
  case capture =>
    rw [Option.map_map]
    exact readsBack_present fun format => readFormat_extension _ _ format
  case port => exact readsBack_option fun n given => if_pos (port n given)
  case tests =>
    cases args.tests with
    | nil => exact .none
    | cons s rest => exact .some (readItems_texts _ _ (s :: rest) 0)

end Settings
end Playtest
