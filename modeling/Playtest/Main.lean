/-
# The program

The thin outer layer: it gathers the words, the environment and the files that a session looks
at, takes a port where one is needed, and writes what the library answers.

No other program can be started from here, so a browser is reported as one that does not start.
-/
import Playtest.Program.Output
import Std.Async.TCP
import Std.Time

namespace Playtest
namespace Outer

/-- The text between the zero bytes of a row of bytes. -/
def texts (bytes : ByteArray) : List String :=
  ((String.fromUTF8? bytes).getD "").splitOn "\x00"

/-- The environment variables of this process. -/
def environment : IO Variables := do
  let bytes ← try IO.FS.readBinFile "/proc/self/environ" catch _ => pure ByteArray.empty
  return (texts bytes).filterMap fun entry =>
    match entry.splitOn "=" with
    | name :: value :: rest => some (name, "=".intercalate (value :: rest))
    | _ => none

/-- What stands at a path. -/
def entry? (path : String) : IO (Option Entry) := do
  try
    return some (.file (← IO.FS.readFile path))
  catch e =>
    match e with
    | .inappropriateType .. => return some .directory
    | _ => return none

/-- The names on the way from the root to an absolute path, and to all places above it. -/
def waysTo (path : String) : List (List (List Char)) :=
  let names := (Path.components path.toList).filterMap fun
    | .name text => some text
    | _ => none
  (List.range (names.length + 1)).map names.take

/-- The disk as far as some paths lead over it. -/
def diskOf (cwd : String) (paths : List String) : IO Disk := do
  let mut entries := []
  for path in paths do
    for way in waysTo (Path.join cwd path) ++ waysTo (Path.absolute cwd path) do
      let text := '/' :: Text.joinWith ['/'] way
      match ← entry? (String.ofList text) with
      | some entry => entries := (way, entry) :: entries
      | none => pure ()
  return ⟨cwd, entries⟩

/-- The paths that a session looks at before it has its settings. -/
def pathsOf (cwd : String) (args : Arguments) : List String :=
  args.testFile :: Settings.filePlaces cwd (args.config?.getD Settings.defaultFile)

/-- The settings of a session, if they can be read. -/
def settings? (disk : Disk) (vars : Variables) (args : Arguments) : Option Settings :=
  (Settings.load disk vars args).toOption

/-- Takes a port of this machine. -/
def takePort (port : Nat) : IO (Except IoError Nat) := do
  try
    let socket ← Std.Async.TCP.Socket.Server.mk
    socket.bind (.v4 ⟨.ofParts 127 0 0 1, port.toUInt16⟩)
    socket.listen 128
    return .ok (← socket.getSockName).port.toNat
  catch e =>
    match e with
    | .resourceBusy .. => return .error .addressInUse
    | e => return .error ⟨.other, toString e⟩

/-- This machine.  The port that a session may ask for is taken beforehand. -/
def host (bound : Except IoError Nat) : Host Unit where
  bind _ s := (bound, s)
  start _ _ s := (.error "no program can be started here", s)
  newPage s := (.error "there is no browser", s)
  browser := ⟨fun _ s => ({ result := .error "there is no browser" }, s)⟩
  save _ _ s := (.error (.ofKind .other), s)
  close s := (.ok (), s)
  interrupted _ := false

/-- The port that a session serves on, if it serves anything. -/
def port? (disk : Disk) (vars : Variables) (args : Arguments) : Option Nat := do
  let source ← (disk.read args.testFile).toOption
  let settings ← settings? disk vars args
  let places ← (Session.places disk.cwd args settings (TestFile.parse source)).toOption
  if places.areServed ∧ !args.list then some settings.port else none

/-- Answers a call. -/
def answer (words : List String) : IO Output := do
  let cwd := toString (← IO.currentDir)
  let vars ← environment
  let call : Call :=
    { words, vars
      isTerminal := ← (← IO.getStderr).isTty
      time := (← Std.Time.DateTime.now).toISO8601String }
  match Arguments.parse words with
  | .error refusal => return Output.ofRefusal refusal
  | .ok args =>
    let disk ← diskOf cwd (pathsOf cwd args)
    let browser := ((settings? disk vars args).bind (·.chrome?)).toList
    let disk ← diskOf cwd (pathsOf cwd args ++ browser)
    let bound ←
      match port? disk vars args with
      | some port => takePort port
      | none => pure (.ok 0)
    return (Output.ofCall (host bound) disk call ()).1

end Outer
end Playtest

/-- Answers the command line, and ends with its exit status. -/
def main (words : List String) : IO UInt32 := do
  let output ← Playtest.Outer.answer words
  IO.print output.screen.out
  (← IO.getStderr).putStr output.screen.err
  return output.exitCode.toUInt32
