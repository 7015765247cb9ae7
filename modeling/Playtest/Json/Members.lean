/-
# Members of JSON values

Looking into values that are already read: the members of objects by their keys, and values
with their members in the order of the keys.  Where a key is repeated its last value counts.
-/
import Playtest.Json.Value

namespace Playtest
namespace Json
namespace Value

/-! ## 1. Looking in -/

/-- The value of a key.  A value that is no object has none. -/
def get? (key : String) : Value → Option Value
  | .object members => (members.reverse.find? (·.1 == key)).map (·.2)
  | _ => none

/-- The text of a string. -/
def string? : Value → Option String
  | .string s => some s
  | _ => none

/-- The items of an array. -/
def items : Value → List Value
  | .array items => items
  | _ => []

/-- A whole number. -/
def integer? : Value → Option Int
  | .number (.integer n) => some n
  | _ => none

/-- The text of a key, if its value is a string. -/
def text? (key : String) (v : Value) : Option String := (v.get? key).bind string?

/-! ## 2. Order -/

/-- Puts a member where its key belongs.  A later value replaces an earlier one. -/
def insertMember (key : String) (v : Value) : List (String × Value) → List (String × Value)
  | [] => [(key, v)]
  | (k, w) :: rest =>
    if key < k then (key, v) :: (k, w) :: rest
    else if key = k then (key, v) :: rest
    else (k, w) :: insertMember key v rest

mutual
/-- The value with all members in the order of their keys, each key once. -/
def sorted : Value → Value
  | .array items => .array (sortedItems items)
  | .object members => .object (sortedMembers [] members)
  | v => v

def sortedItems : List Value → List Value
  | [] => []
  | v :: vs => v.sorted :: sortedItems vs

/-- Puts members into a row that is in order. -/
def sortedMembers (row : List (String × Value)) : List (String × Value) → List (String × Value)
  | [] => row
  | (k, v) :: ms => sortedMembers (insertMember k v.sorted row) ms
end

end Value
end Json
end Playtest
