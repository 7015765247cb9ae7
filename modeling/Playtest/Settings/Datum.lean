/-
# Values of settings before they are understood

A setting can be given in a file, in the environment or on the command line.  Each of these is
a layer: a table of values that remember where they were given.  Layers are laid over each
other key by key, and only the result is read, so a value that is covered is never looked at.
-/
import Playtest.Keyed
import Playtest.Number.Decimal
import Playtest.Text.Quoted

namespace Playtest
namespace Settings

/-! ## 1. Values -/

/-- Where a value is given. -/
inductive Source where
  | file (name : String)
  | environment
  | arguments
  deriving DecidableEq, Repr

/-- A value without parts. -/
inductive Scalar where
  | boolean (b : Bool)
  | natural (n : Nat)
  | integer (n : Int)
  | float (x : Binary64)
  | string (s : String)
  /-- A single character, which is good for what a text is good for, except for a name. -/
  | char (c : Char)
  deriving DecidableEq, Repr

/-- A value with its source. -/
inductive Datum where
  | scalar (source : Source) (x : Scalar)
  | list (source : Source) (items : List Datum)
  | dict (source : Source) (members : List (String × Datum))
  deriving Repr

/-- Settings under their keys. -/
abbrev Table := Keyed Datum

def Datum.source : Datum → Source
  | .scalar source _ => source
  | .list source _ => source
  | .dict source _ => source

/-! ## 2. Layers -/

mutual

/-- Lays a value over another.  Only tables are laid over each other key by key. -/
def Datum.onto (low : Datum) : Datum → Datum
  | .dict source members =>
    match low with
    | .dict _ below => .dict source (Table.onto below members)
    | _ => .dict source members
  | x => x

/-- Lays a table over another. -/
def Table.onto (low : Table) : Table → Table
  | [] => low
  | (key, x) :: rest =>
    let x :=
      match low.lookup key with
      | some y => Datum.onto y x
      | none => x
    Table.onto (low.put key x) rest

end

/-- Lays tables over each other, the last one on top. -/
def Table.ofLayers (layers : List Table) : Table := layers.foldl Table.onto []

/-! ## 3. What does not fit -/

/-- A value as a message shows it. -/
inductive Shape where
  | scalar (x : Scalar)
  | sequence
  | map
  deriving DecidableEq, Repr

def Datum.shape : Datum → Shape
  | .scalar _ x => .scalar x
  | .list _ _ => .sequence
  | .dict _ _ => .map

def Shape.describe : Shape → String
  | .scalar (.boolean b) => "bool " ++ (if b then "true" else "false")
  | .scalar (.natural n) => "unsigned int `" ++ toString n ++ "`"
  | .scalar (.integer n) => "signed int `" ++ toString n ++ "`"
  | .scalar (.float x) => "float `" ++ x.display ++ "`"
  | .scalar (.string s) => "string " ++ Text.quoted s
  | .scalar (.char c) => "string " ++ Text.quoted (String.singleton c)
  | .sequence => "sequence"
  | .map => "map"

/-- What is wrong with a value. -/
inductive Fault where
  | wrongType (found : Shape) (wanted : String)
  | outOfRange (found : Shape) (wanted : String)
  | unknownFormat (found : String)
  deriving DecidableEq, Repr

def Fault.message : Fault → String
  | .wrongType found wanted => "invalid type: found " ++ found.describe ++ ", expected " ++ wanted
  | .outOfRange found wanted => "invalid value " ++ found.describe ++ ", expected " ++ wanted
  | .unknownFormat found =>
    "unknown variant: found `" ++ found ++ "`, expected ``pdf` or `png``"

/-- A value that does not fit its setting. -/
structure Misfit where
  fault : Fault
  /-- The keys that lead to the value. -/
  path : List String
  source : Source
  deriving DecidableEq, Repr

/-- The key as it is written at its source. -/
def Source.key (path : List String) : Source → String
  | .environment => ".".intercalate (path.map fun part => part.map Char.toUpper)
  | _ => ".".intercalate ("default" :: path)

def Source.describe : Source → String
  | .file name => name ++ " TOML file"
  | .environment => "`REGTEST_` environment variable(s)"
  | .arguments => "command line"

def Misfit.message (m : Misfit) : String :=
  m.fault.message ++ " for key " ++ Text.quoted (m.source.key m.path) ++ " in " ++
    m.source.describe

end Settings
end Playtest
