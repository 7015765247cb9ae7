/-
# TOML values and tables

A document is a table, and its tables come from four sources: headers, longer headers that
merely pass through, dotted keys, and braces.  They differ in what may still be added.  A table
that is only passed through can get a header later, one of dotted keys can get more keys from
where it began, and one in braces is complete.
-/
import Playtest.Keyed
import Playtest.Number.Binary64

namespace Playtest
namespace Toml

/-! ## 1. Values -/

/-- Where a table comes from. -/
inductive Origin where
  /-- A header names it. -/
  | header
  /-- A longer header passes through it. -/
  | passed
  /-- Dotted keys name it. -/
  | dotted
  /-- It stands in braces. -/
  | braces
  deriving DecidableEq, Repr

inductive Value where
  | string (s : String)
  | integer (n : Int)
  | float (x : Binary64)
  | boolean (b : Bool)
  /-- A date, a time or both, as written. -/
  | datetime (text : String)
  | array (items : List Value)
  | table (origin : Origin) (members : List (String × Value))
  /-- Tables that headers in double brackets append to. -/
  | tables (items : List (List (String × Value)))
  deriving Repr

/-- The members of a table. -/
abbrev Members := Keyed Value

/-! ## 2. Adding keys -/

/-- Adds a value under a dotted key.  `isDotted` says whether the table itself belongs to
dotted keys, which all tables on the way but the first one must. -/
def addKey (isDotted isFirst : Bool) (members : Members) :
    List String → Value → Option Members
  | [], _ => none
  | [key], v =>
    if isDotted = isFirst then none
    else if (members.lookup key).isSome then none
    else some (members ++ [(key, v)])
  | key :: path, v =>
    match members.lookup key with
    | none => do
      let inner ← addKey true false [] path v
      return members ++ [(key, .table .dotted inner)]
    | some (.table .dotted inner) => do
      return members.put key (.table .dotted (← addKey true false inner path v))
    | some (.table .passed inner) => do
      return members.put key (.table .passed (← addKey false false inner path v))
    | some (.tables items) => do
      let last ← items.getLast?
      let inner ← addKey false false last path v
      return members.put key (.tables (items.dropLast ++ [inner]))
    | some _ => none

/-! ## 3. Headers -/

/-- Changes the table that a header leads to.  Tables on the way that are missing are made. -/
def changeAt (change : Members → Option Members) : List String → Members → Option Members
  | [], members => change members
  | key :: path, members =>
    match members.lookup key with
    | none => do return members ++ [(key, .table .passed (← changeAt change path []))]
    | some (.table .braces _) => none
    | some (.table origin inner) => do
      return members.put key (.table origin (← changeAt change path inner))
    | some (.tables items) => do
      let last ← items.getLast?
      return members.put key (.tables (items.dropLast ++ [← changeAt change path last]))
    | some _ => none

/-- Opens the table of a header. -/
def openTable (key : String) (members : Members) : Option Members :=
  match members.lookup key with
  | none => some (members ++ [(key, .table .header [])])
  | some (.table .passed inner) => some (members.put key (.table .header inner))
  | some _ => none

/-- Appends a table for a header in double brackets. -/
def appendTable (key : String) (members : Members) : Option Members :=
  match members.lookup key with
  | none => some (members ++ [(key, .tables [[]])])
  | some (.tables items) => some (members.put key (.tables (items ++ [[]])))
  | some _ => none

/-- Adds a value under a dotted key in the table at `path`. -/
def addAt (path key : List String) (v : Value) (members : Members) : Option Members :=
  changeAt (fun inner => addKey false true inner key v) path members

end Toml
end Playtest
