/-
# Where settings come from

The settings are read from three layers laid over each other: the settings file, the environment
and the command line on top.  What none of them gives has its default.
-/
import Playtest.Files.Disk
import Playtest.Program.Options
import Playtest.Settings.Reading
import Playtest.Settings.Variable
import Playtest.Toml.Document

namespace Playtest
namespace Settings

/-! ## 1. The command line -/

/-- What the options of a command line give for each key. -/
def optionValues (args : Arguments) : Keyed (Option Datum) :=
  let scalar (x : Scalar) : Datum := .scalar .arguments x
  let text (s? : Option String) : Option Datum := s?.map fun s => scalar (.string s)
  let when (b : Bool) (x : Datum) : Option Datum := if b then some x else none
  let capture? := if args.pdf then some .pdf else args.capture?
  [("interpreter", text args.interpreter?),
    ("game", text args.game?),
    ("port", args.port?.map fun n => scalar (.natural n)),
    ("timeout", args.timeout?.map fun x => scalar (.float x)),
    ("verbose", when args.verbose (scalar (.boolean true))),
    ("tests", when (!args.tests.isEmpty)
      (.list .arguments (args.tests.map fun s => scalar (.string s)))),
    ("capture", text (capture?.map CaptureFormat.extension)),
    ("capture_path", text args.capturePath?),
    ("root", text args.root?),
    ("chrome", text args.chrome?),
    ("headless", when args.visible (scalar (.boolean false)))]

/-- The settings that a command line gives.  An option that is not there gives nothing. -/
def ofArguments (args : Arguments) : Table := (optionValues args).given

/-! ## 2. The file -/

mutual

/-- A value of a TOML document.  A moment is a table with one member. -/
def ofToml (source : Source) : Toml.Value → Datum
  | .string s => .scalar source (.string s)
  | .integer n => .scalar source (.integer n)
  | .float x => .scalar source (.float x)
  | .boolean b => .scalar source (.boolean b)
  | .datetime text =>
    .dict source [("$__toml_private_datetime", .scalar source (.string text))]
  | .array items => .list source (ofItems source items)
  | .table _ members => .dict source (ofMembers source members)
  | .tables items => .list source (ofTables source items)

def ofItems (source : Source) : List Toml.Value → List Datum
  | [] => []
  | v :: rest => ofToml source v :: ofItems source rest

def ofMembers (source : Source) : List (String × Toml.Value) → Table
  | [] => []
  | (key, v) :: rest => (key, ofToml source v) :: ofMembers source rest

def ofTables (source : Source) : List (List (String × Toml.Value)) → List Datum
  | [] => []
  | members :: rest => .dict source (ofMembers source members) :: ofTables source rest

end

/-- The name of the file that settings come from if no other is named. -/
def defaultFile : String := "regtest.toml"

/-- A path as seen from a directory. -/
def seenFrom (directory path : String) : String :=
  let rec go : List Path.Component → List Path.Component → List Path.Component
    | a :: as, b :: bs => if a = b then go as bs else (a :: as).map (fun _ => .parent) ++ b :: bs
    | as, bs => as.map (fun _ => .parent) ++ bs
  String.ofList (Path.ofComponents (go (Path.components directory.toList)
    (Path.components path.toList)))

/-- The name of a file in a message: as seen from the working directory, if that is shorter. -/
def shownName (cwd path : String) : String :=
  let seen := seenFrom cwd path
  if (Path.components seen.toList).length < (Path.components path.toList).length then seen
  else path

/-- The directory and those above it, innermost first. -/
def ancestors (directory : String) : List String :=
  let steps := Path.components directory.toList
  (List.range steps.length).map fun n =>
    String.ofList (Path.ofComponents (steps.take (steps.length - n)))

/-- Where a settings file is searched: in the working directory and in those above it. -/
def filePlaces (cwd path : String) : List String :=
  if Path.isAbsolute path then [path] else (ancestors cwd).map (Path.join · path)

/-- The file that a path names, with its place. -/
def findFile? (disk : Disk) (path : String) : Option (String × String) :=
  (filePlaces disk.cwd path).findSome? fun place =>
    match disk.read place with
    | .ok text => some (place, text)
    | .error _ => none

/-- The settings that a file gives.  A file that is not there gives none. -/
def ofFile (disk : Disk) (path : String) : Except String Table :=
  match findFile? disk path with
  | none => .ok []
  | some (place, text) =>
    match Toml.document? text with
    | some members => .ok (ofMembers (.file (shownName disk.cwd place)) members)
    | none => .error "TOML parse error"

/-! ## 3. All layers -/

/-- The file that settings come from, if there is one. -/
def fileOf (disk : Disk) (args : Arguments) : Except SettingsError (Option String) :=
  match args.config? with
  | some path => if disk.has path then .ok (some path) else .error (.noSuchFile path)
  | none => .ok (if disk.has defaultFile then some defaultFile else none)

/-- A layer that cannot be read, or a value in it that does not fit. -/
def unreadable (message : String) : SettingsError :=
  .invalidValue "configuration" message "Check regtest.toml syntax and REGTEST_* variables"

/-- The settings of a run. -/
def load (disk : Disk) (vars : Variables) (args : Arguments) : Except SettingsError Settings := do
  let file ←
    match ← fileOf disk args with
    | none => .ok []
    | some path => (ofFile disk path).mapError unreadable
  let table := Table.ofLayers [file, ofVariables vars, ofArguments args]
  let settings ← (ofTable table).mapError fun m => unreadable m.message
  match settings.fault? with
  | some fault => .error fault
  | none => .ok settings

end Settings
end Playtest
