/-
# Domain names

A domain name is a list of labels between dots, and it is written in ASCII.  A name that is in ASCII
already is only put into small letters.  Any other name, and one with a label that stands for
characters outside ASCII, is turned into ASCII by a standard with tables of all characters: this
step is left open (`Idna`).
-/
import Playtest.Url.Folding

namespace Playtest
namespace Url

/-- The step that turns a name into ASCII, or refuses it. -/
class Idna where
  toAscii? : List Char → Option (List Char)

/-- Where nothing else is said, names are folded. -/
instance folding : Idna := ⟨foldToAscii?⟩

/-- The label stands for one with characters outside ASCII. -/
def isCoded (label : List Char) : Bool := (Text.after? "xn--".toList label).isSome

/-- Nothing but case has to change in the name. -/
def isPlainName (s : List Char) : Bool :=
  (s.all fun c => c.toNat < 128) &&
    !(Text.splitAt '.' (s.map Char.toLower)).any isCoded

/-- A character that no domain name may hold. -/
def isForbidden (c : Char) : Bool :=
  let n := c.toNat
  n ≤ 0x20 || n == 0x7F || "%#/:<>?@[\\]^|".toList.contains c

/-- The ASCII form of a domain name. -/
def domainToAscii? [Idna] (s : List Char) : Option (List Char) := do
  let name ← if isPlainName s then some (s.map Char.toLower) else Idna.toAscii? s
  if name.any isForbidden then none else some name

end Url
end Playtest
