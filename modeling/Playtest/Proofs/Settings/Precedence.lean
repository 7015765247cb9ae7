/-
# Precedence

A setting can be given by the command line, by variables of the environment and by a file, and a
test file can name an interpreter and a story.  For each setting by itself the topmost of these
that gives it decides, whatever they say of other settings (`topmost_source_decides`).
-/
import Playtest.Program.Session
import Playtest.Proofs.Settings.Fields

namespace Playtest
namespace Settings

/-! ## 1. The settings file -/

/-- A text is found at the first of some places that has one. -/
def FoundAt (disk : Disk) (places : List String) (place text : String) : Prop :=
  ∃ before after, places = before ++ place :: after ∧ disk.read place = .ok text ∧
    ∀ other ∈ before, ∀ text, disk.read other ≠ .ok text

/-- The path of the settings file: the one that a command line names, or else the usual one. -/
def Names (args : Arguments) (path : String) : Prop :=
  args.config? = some path ∨ args.config? = none ∧ path = "regtest.toml"

/-- What the settings file gives: the members of its text, which is a TOML document.  If there is
no text, nothing is given; but a file that the command line names must be there. -/
inductive FileGives (disk : Disk) (args : Arguments) : Source → Toml.Members → Prop
  | document {path place text : String} {members : Toml.Members} (named : Names args path)
      (there : disk.has path = true)
      (found : FoundAt disk (filePlaces disk.cwd path) place text)
      (reads : Toml.document? text = some members) :
      FileGives disk args (.file (shownName disk.cwd place)) members
  | unread {path : String} (source : Source) (named : Names args path)
      (there : disk.has path = true)
      (nowhere : ∀ place ∈ filePlaces disk.cwd path, ∀ text, disk.read place ≠ .ok text) :
      FileGives disk args source []
  | absent (source : Source) (unnamed : args.config? = none)
      (missing : disk.has "regtest.toml" = false) :
      FileGives disk args source []

section

variable {disk : Disk} {args : Arguments} {path : String}

theorem findFile?_eq_some_iff {place text : String} :
    findFile? disk path = some (place, text) ↔
      FoundAt disk (filePlaces disk.cwd path) place text := by
  rw [findFile?, List.findSome?_eq_some_iff]
  constructor
  · rintro ⟨before, here, after, whole, found, earlier⟩
    cases read : disk.read here with
    | error e =>
      rw [read] at found
      cases found
    | ok own =>
      rw [read] at found
      cases found
      refine ⟨before, after, whole, read, fun other mem text there => ?_⟩
      have passed := earlier other mem
      rw [there] at passed
      cases passed
  · rintro ⟨before, after, whole, read, earlier⟩
    refine ⟨before, place, after, whole, by rw [read], fun other mem => ?_⟩
    cases there : disk.read other with
    | error e => rfl
    | ok text => exact absurd there (earlier other mem text)

theorem findFile?_eq_none_iff :
    findFile? disk path = none ↔
      ∀ place ∈ filePlaces disk.cwd path, ∀ text, disk.read place ≠ .ok text := by
  rw [findFile?, List.findSome?_eq_none_iff]
  refine forall₂_congr fun place _ => ?_
  cases disk.read place <;> simp

/-- Which file it is, if it is there. -/
theorem fileLayer_of_named (named : Names args path) (there : disk.has path = true) :
    fileLayer disk args = (ofFile disk path).mapError unreadable := by
  have which : fileOf disk args = .ok (some path) := by
    rcases named with named | ⟨unnamed, rfl⟩
    · simp [fileOf, named, there]
    · simp [fileOf, unnamed, defaultFile, there]
  rw [fileLayer, which]
  rfl

theorem fileLayer_of_absent (unnamed : args.config? = none)
    (missing : disk.has "regtest.toml" = false) : fileLayer disk args = .ok [] := by
  have which : fileOf disk args = .ok none := by
    simp [fileOf, unnamed, defaultFile, missing]
  rw [fileLayer, which]
  rfl

/-- A file that is there gives the members of its document. -/
theorem ofFile_eq_ok {table : Table} :
    (ofFile disk path).mapError unreadable = .ok table ↔
      (∃ place text members, FoundAt disk (filePlaces disk.cwd path) place text ∧
        Toml.document? text = some members ∧
        table = ofMembers (.file (shownName disk.cwd place)) members) ∨
      (∀ place ∈ filePlaces disk.cwd path, ∀ text, disk.read place ≠ .ok text) ∧ table = [] := by
  rw [mapError_eq_ok, ofFile, ← findFile?_eq_none_iff]
  simp only [← findFile?_eq_some_iff]
  rcases findFile? disk path with _ | ⟨place, text⟩
  · simp [eq_comm]
  · cases document : Toml.document? text with
    | none => simp [document]
    | some members => simp [document, eq_comm]

/-- **The layer of the settings file has the members of its document.** -/
theorem fileLayer_eq_ok {table : Table} :
    fileLayer disk args = .ok table ↔
      ∃ source members, FileGives disk args source members ∧ table = ofMembers source members := by
  constructor
  · intro layer
    by_cases there : ∃ path, Names args path ∧ disk.has path = true
    · obtain ⟨path, named, there⟩ := there
      rw [fileLayer_of_named named there, ofFile_eq_ok] at layer
      rcases layer with ⟨place, text, members, found, reads, rfl⟩ | ⟨nowhere, rfl⟩
      · exact ⟨_, members, .document named there found reads, rfl⟩
      · exact ⟨.arguments, [], .unread _ named there nowhere, rfl⟩
    · rcases named : args.config? with _ | path
      · have missing : disk.has "regtest.toml" = false :=
          Bool.eq_false_iff.2 fun has => there ⟨_, .inr ⟨named, rfl⟩, has⟩
        rw [fileLayer_of_absent named missing] at layer
        cases layer
        exact ⟨.arguments, [], .absent _ named missing, rfl⟩
      · have missing : disk.has path = false :=
          Bool.eq_false_iff.2 fun has => there ⟨path, .inl named, has⟩
        have which : fileOf disk args = .error (.noSuchFile path) := by
          simp [fileOf, named, missing]
        rw [fileLayer, which] at layer
        cases layer
  · rintro ⟨source, members, gives, rfl⟩
    cases gives with
    | document named there found reads =>
      rw [fileLayer_of_named named there, ofFile_eq_ok]
      exact .inl ⟨_, _, members, found, reads, rfl⟩
    | unread source named there nowhere =>
      rw [fileLayer_of_named named there, ofFile_eq_ok]
      exact .inr ⟨nowhere, rfl⟩
    | absent source unnamed missing => exact fileLayer_of_absent unnamed missing

end

/-! ## 2. One setting -/

/-- What the last of the variables that lead to a key gives for it. -/
def inVariables? (vars : Variables) (key : String) : Option Datum :=
  topmost? key (variableLayers vars)

/-- What the topmost source that gives a setting says.  What the sources below it give is not
looked at, be it a value of the setting or not. -/
def Field.value (f : Field) (args : Arguments) (vars : Variables) (source : Source)
    (members : Toml.Members) : Except Misfit f.Carrier :=
  match f.argument? args, inVariables? vars f.key, members.lookup f.key with
  | some v, _, _ => .ok v
  | none, some x, _ => f.read [f.key] x
  | none, none, some v => f.read [f.key] (ofToml source v)
  | none, none, none => .ok (f.get {})

/-- The layers of a run, laid over each other. -/
def merged (args : Arguments) (vars : Variables) (file : Table) : Table :=
  Table.ofLayers [file, ofVariables vars, ofArguments args]

variable {args : Arguments} {vars : Variables} {file : Table} {source : Source}
  {members : Toml.Members} {f : Field}

theorem lookup_ofMembers (source : Source) (members : Toml.Members) (key : String) :
    (ofMembers source members).lookup key = (members.lookup key).map (ofToml source) := by
  induction members with
  | nil => rfl
  | cons member rest ih =>
    obtain ⟨own, v⟩ := member
    rw [ofMembers, Keyed.lookup_cons, Keyed.lookup_cons, ih]
    split <;> rfl

theorem lookup_ofVariables (vars : Variables) (key : String) :
    Option.Rel Datum.Shows ((ofVariables vars).lookup key) (inVariables? vars key) :=
  lookup_ofLayers variableLayers_distinct key

theorem lookup_merged (distinct : file.Distinct) (key : String) :
    Option.Rel Datum.Shows ((merged args vars file).lookup key)
      (((ofArguments args).lookup key).or ((inVariables? vars key).or (file.lookup key))) := by
  have layers : merged args vars file =
      ((Table.onto [] file).onto (ofVariables vars)).onto (ofArguments args) := rfl
  rw [layers, lookup_onto (ofArguments_distinct args), lookup_onto (ofVariables_distinct vars),
    lookup_onto distinct]
  have bottom : over? (List.lookup key []) (file.lookup key) = file.lookup key := by
    cases file.lookup key <;> rfl
  rw [bottom]
  exact over?_shows (over?_shows (shows_self _) (lookup_ofVariables vars key)) (shows_self _)

/-- What stands for a value has its meaning, or neither has one. -/
theorem meaning_of_shows (plain : f.read.IsPlain) {x? y? : Option Datum}
    (h : Option.Rel Datum.Shows x? y?) {v : f.Carrier} :
    f.meaning x? = .ok v ↔ f.meaning y? = .ok v := by
  cases h with
  | none => rfl
  | some shows => exact plain.shows shows

theorem meaning_topmost (port : args.HasPort) (mem : f ∈ fields) :
    f.meaning (((ofArguments args).lookup f.key).or
      ((inVariables? vars f.key).or ((ofMembers source members).lookup f.key))) =
        f.value args vars source members := by
  have back := readsBack_arguments port f mem
  rw [lookup_ofMembers]
  unfold Field.value
  generalize (ofArguments args).lookup f.key = x?, f.argument? args = v? at back ⊢
  cases back with
  | some read => exact read
  | none =>
    cases inVariables? vars f.key with
    | some x => rfl
    | none => cases members.lookup f.key <;> rfl

/-- **The merged value means what the topmost source says.** -/
theorem meaning_merged (port : args.HasPort) (distinct : (ofMembers source members).Distinct)
    (mem : f ∈ fields) {v : f.Carrier} :
    f.meaning ((merged args vars (ofMembers source members)).lookup f.key) = .ok v ↔
      f.value args vars source members = .ok v := by
  rw [← meaning_topmost port mem]
  exact meaning_of_shows (fields_isPlain f mem) (lookup_merged distinct f.key)

/-! ## 3. All settings -/

/-- Each setting is what the topmost source that gives it says. -/
def Decided (args : Arguments) (vars : Variables) (source : Source) (members : Toml.Members)
    (s : Settings) : Prop :=
  ∀ f ∈ fields, f.value args vars source members = .ok (f.get s)

/-- What the topmost source says of some setting is no value of it, and that is where the error
points to. -/
def Undecided (args : Arguments) (vars : Variables) (source : Source) (members : Toml.Members)
    (e : Misfit) : Prop :=
  ∃ f ∈ fields, (∃ e', f.value args vars source members = .error e') ∧ [f.key] <+: e.path

theorem ofTable_merged (port : args.HasPort) (distinct : (ofMembers source members).Distinct)
    {s : Settings} :
    ofTable (merged args vars (ofMembers source members)) = .ok s ↔
      Decided args vars source members s := by
  rw [ofTable_eq_ok]
  exact forall₂_congr fun f mem => meaning_merged port distinct mem

theorem undecided_of_ofTable (port : args.HasPort)
    (distinct : (ofMembers source members).Distinct) {e : Misfit}
    (h : ofTable (merged args vars (ofMembers source members)) = .error e) :
    Undecided args vars source members e := by
  obtain ⟨f, mem, failed⟩ := ofTable_eq_error h
  refine ⟨f, mem, ?_, ?_⟩
  · rcases value : f.value args vars source members with e' | v
    · exact ⟨e', rfl⟩
    · exact nomatch failed.symm.trans ((meaning_merged port distinct mem).2 value)
  · rcases found : (merged args vars (ofMembers source members)).lookup f.key with _ | x
    · rw [found] at failed
      cases failed
    · rw [found] at failed
      exact (fields_isPlain f mem).found failed

/-- What is made of the layers: settings that are checked as a whole. -/
def ofMerged (table : Table) : Except SettingsError Settings := do
  let settings ← (ofTable table).mapError fun m => unreadable m.message
  match settings.fault? with
  | some fault => .error fault
  | none => .ok settings

theorem load_eq (disk : Disk) (vars : Variables) (args : Arguments) :
    load disk vars args = fileLayer disk args >>= fun file => ofMerged (merged args vars file) := by
  unfold load fileLayer
  rcases fileOf disk args with e | path?
  · rfl
  · cases path? <;> rfl

theorem ofMerged_of_misfit {table : Table} {m : Misfit} (h : ofTable table = .error m) :
    ofMerged table = .error (unreadable m.message) := by
  rw [ofMerged, h]
  rfl

theorem ofMerged_of_ok {table : Table} {s : Settings} (h : ofTable table = .ok s) :
    ofMerged table = match s.fault? with
      | some fault => .error fault
      | none => .ok s := by
  rw [ofMerged, h]
  rfl

theorem ofMerged_eq_ok {table : Table} {s : Settings} :
    ofMerged table = .ok s ↔ ofTable table = .ok s ∧ s.fault? = none := by
  constructor
  · intro h
    obtain ⟨t, read, h⟩ := bind_eq_ok.1 h
    have read := mapError_eq_ok.1 read
    split at h
    · cases h
    · next sound =>
      cases h
      exact ⟨read, sound⟩
  · rintro ⟨read, sound⟩
    rw [ofMerged_of_ok read, sound]

section

variable {disk : Disk} (port : args.HasPort)

include port

theorem load_eq_ok {s : Settings} :
    load disk vars args = .ok s ↔
      ∃ source members, FileGives disk args source members ∧
        Decided args vars source members s ∧ s.fault? = none := by
  rw [load_eq, bind_eq_ok]
  constructor
  · rintro ⟨file, layer, merged⟩
    have distinct := fileLayer_distinct layer
    obtain ⟨source, members, gives, rfl⟩ := fileLayer_eq_ok.1 layer
    obtain ⟨read, sound⟩ := ofMerged_eq_ok.1 merged
    exact ⟨source, members, gives, (ofTable_merged port distinct).1 read, sound⟩
  · rintro ⟨source, members, gives, decided, sound⟩
    have layer := fileLayer_eq_ok.2 ⟨source, members, gives, rfl⟩
    have read := (ofTable_merged port (fileLayer_distinct layer)).2 decided
    exact ⟨_, layer, ofMerged_eq_ok.2 ⟨read, sound⟩⟩

theorem load_of_fault (gives : FileGives disk args source members) {s : Settings}
    {e : SettingsError} (decided : Decided args vars source members s)
    (fault : s.fault? = some e) : load disk vars args = .error e := by
  have layer := fileLayer_eq_ok.2 ⟨source, members, gives, rfl⟩
  have read := (ofTable_merged port (fileLayer_distinct layer)).2 decided
  rw [load_eq, layer]
  refine (ofMerged_of_ok read).trans ?_
  rw [fault]

theorem load_of_misfit (gives : FileGives disk args source members) (mem : f ∈ fields)
    {e : Misfit} (misfit : f.value args vars source members = .error e) :
    ∃ m, Undecided args vars source members m ∧
      load disk vars args = .error (unreadable m.message) := by
  have layer := fileLayer_eq_ok.2 ⟨source, members, gives, rfl⟩
  have distinct := fileLayer_distinct layer
  rcases read : ofTable (merged args vars (ofMembers source members)) with m | s
  · refine ⟨m, undecided_of_ofTable port distinct read, ?_⟩
    rw [load_eq, layer]
    exact ofMerged_of_misfit read
  · have decided := (ofTable_merged port distinct).1 read
    exact nomatch misfit.symm.trans (decided f mem)

end

/-! ## 4. Interpreter and story -/

/-- The first line of a test file that sets a parameter, wherever it stands, gives it a value. -/
def FirstSets (source name value : String) : Prop :=
  ∃ before line after, Text.splitAt '\n' source.toList = before ++ line :: after ∧
    Line.ofChars (Text.trim line) = .parameter name value ∧
    ∀ other ∈ before, ∀ v, Line.ofChars (Text.trim other) ≠ .parameter name v

/-- The location that settings name, seen from the working directory, or else the first one that
a test file names, seen from another directory. -/
inductive Located [Url.Idna] (cwd directory source name : String) :
    Option String → Option Location → Prop
  | configured (text : String) :
      Located cwd directory source name (some text) (some (Location.parse text cwd))
  | declared {value : String} (first : FirstSets source name value) :
      Located cwd directory source name none (some (Location.parse value directory))
  | missing (never : ∀ value, ¬ FirstSets source name value) :
      Located cwd directory source name none none

theorem eq_parameter {line : Line} {name value : String} :
    (match line with
      | .parameter n v => if n = name then some v else none
      | _ => none) = some value ↔ line = .parameter name value := by
  cases line with
  | parameter n v => simp
  | _ => simp

theorem parameter?_parse {source name value : String} :
    (TestFile.parse source).parameter? name = some value ↔ FirstSets source name value := by
  simp only [TestFile.parameter?, TestFile.parse, List.findSome?_map, List.findSome?_eq_some_iff,
    Function.comp, FirstSets]
  refine exists_congr fun before => exists_congr fun line => exists_congr fun after =>
    and_congr_right fun _ => and_congr ?_ ?_
  · exact eq_parameter
  · refine forall₂_congr fun other _ => ?_
    rw [Option.eq_none_iff_forall_ne_some]
    exact forall_congr' fun v => not_congr eq_parameter

theorem location?_eq [Url.Idna] {cwd directory source name : String} {configured? : Option String}
    {location? : Option Location} :
    Session.location? cwd directory configured? ((TestFile.parse source).parameter? name) =
        location? ↔ Located cwd directory source name configured? location? := by
  constructor
  · rintro rfl
    rcases configured? with _ | text
    · rcases named : (TestFile.parse source).parameter? name with _ | value
      · exact .missing fun value first => nomatch named.symm.trans (parameter?_parse.2 first)
      · exact .declared (parameter?_parse.1 named)
    · exact .configured text
  · intro h
    cases h with
    | configured text => rfl
    | declared first =>
      rw [parameter?_parse.2 first]
      rfl
    | missing never =>
      have unnamed : (TestFile.parse source).parameter? name = none :=
        Option.eq_none_iff_forall_ne_some.2 fun value named =>
          never value (parameter?_parse.1 named)
      rw [unnamed]
      rfl

/-- What is reported if no interpreter is named. -/
def noInterpreter : SettingsError :=
  .missingField "interpreter"
    "Pass --interpreter or add '** interpreter: <path-or-url>' to the test file"

section

variable {cwd source : String} {s : Settings}

theorem places_eq_ok [Url.Idna] {p : Session.Places} :
    Session.places cwd args s (TestFile.parse source) = .ok p ↔
      Located cwd (Session.directoryOf cwd args.testFile) source "interpreter" s.interpreter?
          (some p.interpreter) ∧
        Located cwd (Session.directoryOf cwd args.testFile) source "game" s.game? p.game? := by
  rw [← location?_eq, ← location?_eq]
  obtain ⟨interpreter, game?⟩ := p
  unfold Session.places TestFile.interpreter? TestFile.game?
  dsimp only
  split
  · next found => simp [found]
  · next missing => simp [missing]

theorem places_eq_error [Url.Idna] {e : SettingsError} :
    Session.places cwd args s (TestFile.parse source) = .error e ↔
      e = noInterpreter ∧
        Located cwd (Session.directoryOf cwd args.testFile) source "interpreter" s.interpreter?
          none := by
  rw [← location?_eq]
  unfold Session.places TestFile.interpreter?
  dsimp only
  split
  · next found => simp [found]
  · next missing =>
    simp only [missing, and_true]
    exact ⟨fun h => (Except.error.inj h).symm, fun h => congrArg _ h.symm⟩

end

/-! ## 5. The topmost source decides -/

/-- **The topmost source decides.**  A run has settings exactly if, for each setting by itself,
the topmost of the command line, the environment, the file and the defaults that gives it says
what it is, and the settings are sound as a whole.  What the other sources say of it plays no part.
What the file gives are the members of its text, which must be a TOML document.  If the topmost
source says something that is no value of the setting, there are no settings, and if the settings
are not sound, that is what is reported.

The interpreter is where the settings say, seen from the working directory, or else where the first
line says that names one, wherever it stands in the test file, seen from the directory of that
file.  The same holds of the story, but only an interpreter must be named. -/
theorem topmost_source_decides [Url.Idna] {words : List String} {args : Arguments}
    (given : Arguments.parse words = .ok args) (disk : Disk) (vars : Variables) :
    (∀ s, load disk vars args = .ok s ↔
      ∃ source members, FileGives disk args source members ∧
        Decided args vars source members s ∧ s.fault? = none) ∧
    (∀ source members, FileGives disk args source members →
      (∀ f ∈ fields, ∀ e, f.value args vars source members = .error e →
        ∃ m, Undecided args vars source members m ∧
          load disk vars args = .error (unreadable m.message)) ∧
      (∀ s fault, Decided args vars source members s → s.fault? = some fault →
        load disk vars args = .error fault)) ∧
    (∀ s t : Settings, (∀ f ∈ fields, f.get s = f.get t) → s = t) ∧
    ∀ (s : Settings) (source : String),
      let directory :=
        match Path.parent? args.testFile with
        | some parent => Path.join disk.cwd parent
        | none => disk.cwd
      let found := Session.places disk.cwd args s (TestFile.parse source)
      (∀ places, found = .ok places ↔
        Located disk.cwd directory source "interpreter" s.interpreter? (some places.interpreter) ∧
          Located disk.cwd directory source "game" s.game? places.game?) ∧
      (∀ e, found = .error e ↔
        e = noInterpreter ∧
          Located disk.cwd directory source "interpreter" s.interpreter? none) := by
  have port := Arguments.port_lt given
  refine ⟨?_, ?_, ?_, ?_⟩
  · intro s
    exact load_eq_ok port
  · intro source members gives
    constructor
    · intro f mem e misfit
      exact load_of_misfit port gives mem misfit
    · intro s fault decided unsound
      exact load_of_fault port gives decided unsound
  · intro s t
    exact ext_fields
  · intro s source
    exact ⟨fun _ => places_eq_ok, fun _ => places_eq_error⟩

/-- A test file that names an interpreter and a story. -/
def placedSource : String := "** interpreter: play.html\n** game: b.ulx\n"

/-- The text of a settings file. -/
def settledText : String := "port = \"x\"\nheadless = false\ngame = \"a.ulx\"\n"

def settledMembers : Toml.Members :=
  [("port", .string "x"), ("headless", .boolean false), ("game", .string "a.ulx")]

/-- A value without parts is known from its shape. -/
theorem eq_of_shape {source : Source} {v : Toml.Value} :
    (∀ s, (ofToml source v).shape = .scalar (.string s) → v = .string s) ∧
      ∀ b, (ofToml source v).shape = .scalar (.boolean b) → v = .boolean b := by
  cases v <;> simp [ofToml, Datum.shape]

theorem settledText_reads : Toml.document? settledText = some settledMembers := by
  have shapes : (Toml.document? settledText).map (fun members =>
      (ofMembers .arguments members).map fun m => (m.1, m.2.shape)) =
        some [("port", .scalar (.string "x")), ("headless", .scalar (.boolean false)),
          ("game", .scalar (.string "a.ulx"))] := by
    decide +kernel
  obtain ⟨members, reads, shapes⟩ := Option.map_eq_some_iff.1 shapes
  rcases members with _ | ⟨⟨_, port⟩, _ | ⟨⟨_, headless⟩, _ | ⟨⟨_, game⟩, _ | _⟩⟩⟩ <;>
    simp only [ofMembers, List.map_cons, List.map_nil, List.cons.injEq, Prod.mk.injEq,
      reduceCtorEq, and_true, and_false] at shapes
  obtain ⟨⟨rfl, hport⟩, ⟨rfl, hheadless⟩, rfl, hgame⟩ := shapes
  rw [reads, eq_of_shape.1 _ hport, eq_of_shape.2 _ hheadless, eq_of_shape.1 _ hgame,
    settledMembers]

/-- A settings file in the working directory, and a test file below it. -/
def settledDisk : Disk :=
  Disk.ofList "/work" [("regtest.toml", some settledText), ("games/t.regtest", some placedSource)]

/-- A port on the command line hides one in the environment that is no number, and so it does in
the file.  What is not given above comes from the variables and from the file, and the test file
names the interpreter. -/
theorem port_hides_what_is_no_port :
    let args : Arguments := { testFile := "games/t.regtest", port? := some 9002 }
    let vars : Variables := [("REGTEST_PORT", "many"), ("REGTEST_VERBOSE", "true")]
    let settings : Settings :=
      { port := 9002, verbose := true, headless := false, game? := some "a.ulx" }
    Arguments.parse ["-p", "9002", "games/t.regtest"] = .ok args ∧
      load settledDisk vars args = .ok settings ∧
      Session.places settledDisk.cwd args settings (TestFile.parse placedSource) =
        .ok ⟨.path "/work/games/play.html", some (.path "/work/a.ulx")⟩ := by
  intro args vars settings
  have given : Arguments.parse ["-p", "9002", "games/t.regtest"] = .ok args := by
    decide +kernel
  have gives : FileGives settledDisk args (.file "regtest.toml") settledMembers := by
    have found : FoundAt settledDisk (filePlaces settledDisk.cwd "regtest.toml")
        "/work/regtest.toml" settledText :=
      ⟨[], ["/regtest.toml"], by decide +kernel, by decide +kernel, by simp⟩
    exact .document (.inr ⟨rfl, rfl⟩) (by decide +kernel) found settledText_reads
  have decided : Decided args vars (.file "regtest.toml") settledMembers settings := by
    simp only [Decided, fields, List.forall_mem_cons, List.not_mem_nil, false_imp_iff,
      implies_true, and_true]
    refine ⟨?_, ?_, ?_, ?_, ?_, ?_, ?_, ?_, ?_, ?_, ?_⟩ <;> with_unfolding_all rfl
  have first : FirstSets placedSource "interpreter" "play.html" :=
    parameter?_parse.1 (by decide +kernel)
  have interpreter : Location.parse "play.html" "/work/games" =
      .path "/work/games/play.html" := by
    decide +kernel
  have game : Location.parse "a.ulx" "/work" = .path "/work/a.ulx" := by decide +kernel
  have located : Located "/work" "/work/games" placedSource "interpreter" none
        (some (.path "/work/games/play.html")) ∧
      Located "/work" "/work/games" placedSource "game" (some "a.ulx")
        (some (.path "/work/a.ulx")) := by
    rw [← interpreter, ← game]
    exact ⟨.declared first, .configured "a.ulx"⟩
  obtain ⟨loads, -, -, finds⟩ := topmost_source_decides given settledDisk vars
  have directory : (match Path.parent? args.testFile with
      | some parent => Path.join settledDisk.cwd parent
      | none => settledDisk.cwd) = "/work/games" := by
    decide +kernel
  have found := (finds settings placedSource).1
  rw [directory] at found
  exact ⟨given, (loads settings).2 ⟨_, _, gives, decided, by decide +kernel⟩,
    (found _).2 located⟩

end Settings
end Playtest
