/-
# Environment variables

The variables that the program is started with, each with its value.
-/

namespace Playtest

/-- The environment variables with their values, in the order in which they were set. -/
abbrev Variables := List (String × String)

namespace Variables

/-- The variable is set, be it to nothing. -/
def has (vars : Variables) (name : String) : Bool := (vars.lookup name).isSome

end Variables
end Playtest
