/-
# Reading settings from a table

Each setting has a key and a kind of value.  The settings are read in the order of their keys,
and the first value that does not fit is reported.  Keys that name no setting are left alone.
-/
import Playtest.Settings.Basic
import Playtest.Settings.Datum

namespace Playtest
namespace Settings

/-! ## 1. Kinds of values -/

/-- Understands a value, which is found under some keys. -/
abbrev Reader (α : Type) := List String → Datum → Except Misfit α

/-- Refuses a value. -/
def misfit {α : Type} (fault : Shape → String → Fault) (wanted : String) : Reader α :=
  fun path x => .error ⟨fault x.shape wanted, path, x.source⟩

def readBoolean : Reader Bool
  | _, .scalar _ (.boolean b) => .ok b
  | path, x => misfit .wrongType "a boolean" path x

/-- A text, called by the name that a message has for it. -/
def readTextual (wanted : String) : Reader String
  | _, .scalar _ (.string s) => .ok s
  | _, .scalar _ (.char c) => .ok (String.singleton c)
  | path, x => misfit .wrongType wanted path x

def readText : Reader String := readTextual "a string"

def readPath : Reader String := readTextual "path string"

def readPort : Reader Nat
  | path, .scalar source (.natural n) =>
    if n < 65536 then .ok n else misfit .outOfRange "u16" path (.scalar source (.natural n))
  | path, .scalar source (.integer n) =>
    if 0 ≤ n ∧ n < 65536 then .ok n.toNat
    else misfit .outOfRange "u16" path (.scalar source (.integer n))
  | path, x => misfit .wrongType "u16" path x

/-- A number of seconds. -/
def readSeconds : Reader Binary64
  | _, .scalar _ (.float x) => .ok x
  | _, .scalar _ (.natural n) => .ok (Binary64.ofRatio false n 1)
  | _, .scalar _ (.integer n) => .ok (Binary64.ofRatio (n < 0) n.natAbs 1)
  | path, x => misfit .wrongType "f64" path x

/-- Reads the items of a list from the one with number `n` on. -/
def readItems {α : Type} (read : Reader α) (path : List String) (n : Nat) :
    List Datum → Except Misfit (List α)
  | [] => .ok []
  | x :: rest => do
    let first ← read (path ++ [toString n]) x
    return first :: (← readItems read path (n + 1) rest)

def readList {α : Type} (read : Reader α) : Reader (List α)
  | path, .list _ xs => readItems read path 0 xs
  | path, x => misfit .wrongType "a sequence" path x

/-- The format with a name. -/
def formatNamed? (name : String) : Option CaptureFormat :=
  [CaptureFormat.pdf, .png].find? fun f => f.extension == name

/-- The member with the least key. -/
def firstMember? : Table → Option (String × Datum)
  | [] => none
  | m :: rest =>
    match firstMember? rest with
    | some m' => if m'.1 < m.1 then some m' else some m
    | none => some m

/-- A format is given by its name.  A table can name it too, as its first key, but then it must
give nothing for it, and no source can write nothing. -/
def readFormat : Reader CaptureFormat
  | path, .scalar source (.string name) =>
    match formatNamed? name with
    | some f => .ok f
    | none => .error ⟨.unknownFormat name, path, source⟩
  | path, .dict source members =>
    match firstMember? members with
    | none => misfit .wrongType "enum" path (.dict source members)
    | some (name, x) =>
      if (formatNamed? name).isSome then misfit .wrongType "unit" (path ++ [name]) x
      else .error ⟨.unknownFormat name, path ++ [name], source⟩
  | path, x => misfit .wrongType "enum CaptureFormat" path x

/-! ## 2. Tables -/

/-- Reads what stands under a key, if anything does. -/
def Table.read? {α : Type} (table : Table) (key : String) (read : Reader α) :
    Except Misfit (Option α) :=
  match table.lookup key with
  | some x => (read [key] x).map some
  | none => .ok none

/-- The settings that a table gives.  One it does not give has its default. -/
def ofTable (table : Table) : Except Misfit Settings := do
  let defaults : Settings := {}
  let capture? ← table.read? "capture" readFormat
  let capturePath? ← table.read? "capture_path" readPath
  let chrome? ← table.read? "chrome" readPath
  let game? ← table.read? "game" readText
  let headless? ← table.read? "headless" readBoolean
  let interpreter? ← table.read? "interpreter" readText
  let port? ← table.read? "port" readPort
  let root? ← table.read? "root" readPath
  let tests? ← table.read? "tests" (readList readText)
  let timeout? ← table.read? "timeout" readSeconds
  let verbose? ← table.read? "verbose" readBoolean
  return {
    interpreter?, game?, capture?, capturePath?, root?, chrome?
    port := port?.getD defaults.port
    timeout := timeout?.getD defaults.timeout
    verbose := verbose?.getD defaults.verbose
    tests := tests?.getD defaults.tests
    headless := headless?.getD defaults.headless }

end Settings
end Playtest
