/-
# Reading a command line

The words of a command line are read from left to right.  A word that begins with two hyphens
is an option with its name, one that begins with one hyphen is a row of letters, and two
hyphens alone end the options.  The value of an option stands behind an equals sign, directly
behind its letter, or in the next word.

A value in a word of its own is looked at when the next word is known not to belong to it.  So
an unknown option is reported before a bad value that stands directly before it.
-/
import Playtest.Number.Literal
import Playtest.Program.Refusal
import Playtest.Text.Similarity

namespace Playtest
namespace Arguments

/-! ## 1. Values -/

/-- Reads a number of seconds. -/
def readSeconds (o : Opt) (text : String) : Except Refusal Binary64 :=
  match Binary64.parse? text.toList with
  | some x => .ok x
  | none =>
    .error (.badValue o text
      (if text = "" then "cannot parse float from empty string" else "invalid float literal"))

/-- Reads a port. -/
def readPort (o : Opt) (text : String) : Except Refusal Nat :=
  match Text.int64 text.toList with
  | .error fault => .error (.badValue o text fault.message)
  | .ok n =>
    if 0 ≤ n ∧ n ≤ 65535 then .ok n.toNat
    else .error (.badValue o text (toString n ++ " is not in 0..=65535"))

/-- The formats with their names. -/
def formats : List CaptureFormat := [.pdf, .png]

/-- Reads the name of a format. -/
def readFormat (text : String) : Except Refusal CaptureFormat :=
  match formats.find? fun f => f.extension == text with
  | some format => .ok format
  | none =>
    if text = "" then .error (.missingValue (.option .capture))
    else .error (.unknownFormat text (Text.mostLike? text CaptureFormat.extension formats))

/-- Reads a path, which must not be empty. -/
def readPath (slot : Slot) (text : String) : Except Refusal String :=
  if text = "" then .error (.missingValue slot) else .ok text

/-- Takes in the value of an option. -/
def setOption (args : Arguments) (o : Opt) (text : String) : Except Refusal Arguments := do
  match o with
  | .interpreter => return { args with interpreter? := some text }
  | .game => return { args with game? := some text }
  | .timeout => return { args with timeout? := some (← readSeconds o text) }
  | .port => return { args with port? := some (← readPort o text) }
  | .root => return { args with root? := some (← readPath (.option o) text) }
  | .capture => return { args with capture? := some (← readFormat text) }
  | .capturePath => return { args with capturePath? := some (← readPath (.option o) text) }
  | .chrome => return { args with chrome? := some (← readPath (.option o) text) }
  | .config => return { args with config? := some (← readPath (.option o) text) }
  | _ => return args.turnOn o

/-- Takes in a value. -/
def set (args : Arguments) (slot : Slot) (text : String) : Except Refusal Arguments := do
  match slot with
  | .option o => args.setOption o text
  | .testFile => return { args with testFile := ← readPath .testFile text }
  | .tests => return { args with tests := args.tests ++ [text] }

/-! ## 2. Words -/

/-- What is read so far. -/
structure Reading where
  args : Arguments := {}
  /-- What was given, in order. -/
  given : List Slot := []
  /-- What was named last, with its value if there is one, and not looked at yet. -/
  pending? : Option (Slot × Option String) := none

namespace Reading

/-- Notes that something was given.  An option must not be given twice. -/
def note (r : Reading) (slot : Slot) : Except Refusal Reading :=
  match slot with
  | .option o =>
    if r.given.contains slot then .error (.repeated o)
    else .ok { r with given := r.given ++ [slot] }
  | _ => .ok (if r.given.contains slot then r else { r with given := r.given ++ [slot] })

/-- Takes in something with its value. -/
def give (r : Reading) (slot : Slot) (text : String) : Except Refusal Reading := do
  let r ← r.note slot
  return { r with args := ← r.args.set slot text }

/-- Looks at what is pending. -/
def settle (r : Reading) : Except Refusal Reading :=
  match r.pending? with
  | none => .ok r
  | some (slot, none) => .error (.missingValue slot)
  | some (slot, some text) => ({ r with pending? := none } : Reading).give slot text

/-- What was given up to an unknown word.  Whether what is pending can be read does not matter
any more. -/
def givenNow (r : Reading) : List Slot :=
  match r.pending? with
  | some (slot, some _) => if r.given.contains slot then r.given else r.given ++ [slot]
  | _ => r.given

/-- Turns an option on that takes no value. -/
def turnOn (r : Reading) (isLong : Bool) (o : Opt) : Except Refusal Reading := do
  let r ← r.settle
  match o with
  | .help => .error (.help isLong)
  | .version => .error .version
  | _ =>
    let r ← r.note (.option o)
    return { r with args := r.args.turnOn o }

/-- Names an option that takes a value, with the value if it is attached. -/
def take (r : Reading) (o : Opt) (attached? : Option String) : Except Refusal Reading := do
  let r ← r.settle
  match attached? with
  | some text => r.give (.option o) text
  | none => return { r with pending? := some (.option o, none) }

/-- Reads an option behind two hyphens. -/
def readName (r : Reading) (word : List Char) : Except Refusal Reading :=
  let (name, value?) :=
    match Text.cutAt? '=' word with
    | some (name, value) => (String.ofList name, some (String.ofList value))
    | none => (String.ofList word, none)
  match Opt.all.find? fun o => o.name == name with
  | none =>
    let similar? := Text.mostLike? name Opt.name Opt.all
    let given := r.givenNow ++ (similar?.map Slot.option).toList
    .error (.unknownOption ("--" ++ name) similar? given)
  | some o =>
    if o.valueName?.isSome then r.take o value?
    else
      match value? with
      | none => r.turnOn true o
      | some text =>
        let others := r.given.filter (· ≠ .testFile)
        .error (.unneededValue o text (others ++ [.option o]))

/-- Reads a row of letters behind a hyphen. -/
def readLetters (r : Reading) : List Char → Except Refusal Reading
  | [] => .ok r
  | c :: rest =>
    match Opt.all.find? fun o => o.letter? == some c with
    | none => .error (.unknownOption (String.ofList ['-', c]) none [])
    | some o =>
      if o.valueName?.isSome then
        match rest with
        | [] => r.take o none
        | '=' :: value => r.take o (some (String.ofList value))
        | value => r.take o (some (String.ofList value))
      else do
        let r ← r.turnOn false o
        r.readLetters rest

/-- Reads a word that is no option. -/
def readPlain (r : Reading) (word : String) : Except Refusal Reading := do
  let r ← r.settle
  let slot : Slot := if r.given.contains .testFile then .tests else .testFile
  return { r with pending? := some (slot, some word) }

/-- Reads words up to the end.  `open` says that options may still come. -/
def readWords (r : Reading) (mayOption : Bool) : List String → Except Refusal Reading
  | [] => r.settle
  | word :: rest => do
    if !mayOption then (← r.readPlain word).readWords false rest
    else
      match word.toList with
      | ['-', '-'] => r.readWords false rest
      | '-' :: '-' :: name => (← r.readName name).readWords true rest
      | '-' :: c :: letters => (← r.readLetters (c :: letters)).readWords true rest
      | _ =>
        match r.pending? with
        | some (.option o, none) =>
          ({ r with pending? := some (.option o, some word) } : Reading).readWords true rest
        | _ => (← r.readPlain word).readWords true rest

/-- The first option given that excludes another one given, with that one. -/
def conflict? (given : List Slot) : Option (Opt × Opt) :=
  let options := Usage.optionsOf given
  options.findSome? fun o => (options.find? o.excludes).map (o, ·)

/-- Checks what belongs together. -/
def finish (r : Reading) : Except Refusal Arguments :=
  match conflict? r.given with
  | some (first, second) =>
    .error (.conflicting first second (r.given.filter (· ≠ .option second)))
  | none =>
    if r.given.contains .testFile then .ok r.args
    else .error (.missingTestFile (r.given ++ [.testFile]))

end Reading

/-! ## 3. Command lines -/

/-- Reads the words behind the name of the program. -/
def parse (words : List String) : Except Refusal Arguments := do
  (← ({} : Reading).readWords true words).finish

end Arguments
end Playtest
