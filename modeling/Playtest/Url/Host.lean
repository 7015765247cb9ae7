/-
# Hosts

The host of a URL is a domain name, an IPv4 address or an IPv6 address.  An address may be
written in many ways and is always printed in one.

The schemes that browsers treat specially have hosts that name machines.  There a host whose
last label is a number is an IPv4 address, and no other.  With any other scheme a host is a
plain text that only must not hold the characters that end it.
-/
import Playtest.Url.Domain
import Playtest.Url.Error
import Playtest.Url.Percent

namespace Playtest
namespace Url

inductive Host where
  /-- A name.  The empty one stands for no host. -/
  | domain (name : List Char)
  /-- The address as one number. -/
  | ipv4 (address : Nat)
  /-- The eight groups of the address. -/
  | ipv6 (groups : List Nat)
  deriving DecidableEq, Repr

/-! ## 1. IPv4 addresses -/

/-- The value of digits to a base, or nothing if one of them is no digit of the base. -/
def numberIn? (base : Nat) (s : List Char) : Option Nat :=
  s.foldlM (fun n c => do
    let d ← hexValue? c
    if d < base then some (n * base + d) else none) 0

/-- A number of an IPv4 address: octal behind a zero, hexadecimal behind `0x`. -/
def ipv4Number? : List Char → Option Nat
  | [] => none
  | '0' :: 'x' :: s => numberIn? 16 s
  | '0' :: 'X' :: s => numberIn? 16 s
  | '0' :: c :: s => numberIn? 8 (c :: s)
  | s => numberIn? 10 s

/-- The labels of a name, without the empty one behind a point at the end. -/
def ipv4Labels (name : List Char) : List (List Char) :=
  let labels := Text.splitAt '.' name
  if 1 < labels.length ∧ labels.getLast? = some [] then labels.dropLast else labels

/-- The name can only be an address. -/
def endsInNumber (name : List Char) : Bool :=
  match (ipv4Labels name).getLast? with
  | none => false
  | some label => (label ≠ [] && label.all Char.isDigit) || (ipv4Number? label).isSome

/-- An IPv4 address of one to four numbers, the last of which fills what is left. -/
def ipv4? (name : List Char) : Option Nat := do
  let labels := ipv4Labels name
  let numbers ← labels.mapM ipv4Number?
  let last ← numbers.getLast?
  let front := numbers.dropLast
  if 4 < numbers.length ∨ front.any (255 < ·) ∨ Nat.pow 256 (4 - front.length) ≤ last then none
  else some (front.foldr (fun n (rest : Nat × Nat) => (n * rest.2 + rest.1, rest.2 * 256))
      (last, Nat.pow 256 (4 - front.length))).1

/-- The four numbers between points. -/
def ipv4Text (address : Nat) : List Char :=
  Text.joinWith ['.'] ([24, 16, 8, 0].map fun shift =>
    (toString (address / Nat.pow 2 shift % 256)).toList)

/-! ## 2. IPv6 addresses -/

/-- A number of at most 255 without zeros before it. -/
def octet? (s : List Char) : Option Nat :=
  if s = [] ∨ !s.all Char.isDigit ∨ (1 < s.length ∧ s.head? = some '0') then none
  else do
    let n ← numberIn? 10 s
    if n ≤ 255 then some n else none

/-- The groups that a part between colons stands for.  The last part of an address may be an
IPv4 address. -/
def ipv6Part? (isLast : Bool) (part : List Char) : Option (List Nat) :=
  if isLast ∧ part.contains '.' then do
    match ← (Text.splitAt '.' part).mapM octet? with
    | [a, b, c, d] => some [a * 256 + b, c * 256 + d]
    | _ => none
  else if part = [] ∨ 4 < part.length then none
  else (numberIn? 16 part).map ([·])

/-- The groups of parts between colons. -/
def ipv6Groups? (mayEnd : Bool) : List (List Char) → Option (List Nat)
  | [] => some []
  | [part] => ipv6Part? mayEnd part
  | part :: parts => do return (← ipv6Part? false part) ++ (← ipv6Groups? mayEnd parts)

/-- The parts between the colons of a text that may be empty. -/
def ipv6Parts (s : List Char) : List (List Char) := if s = [] then [] else Text.splitAt ':' s

/-- The text before and after the first pair of colons, if there is one. -/
def cutAtColons? : List Char → Option (List Char × List Char)
  | [] => none
  | ':' :: ':' :: rest => some ([], rest)
  | c :: rest => (cutAtColons? rest).map fun p => (c :: p.1, p.2)

/-- An IPv6 address: eight groups, where two colons stand for at least one group of zeros. -/
def ipv6? (s : List Char) : Option (List Nat) := do
  match cutAtColons? s with
  | none =>
    let groups ← ipv6Groups? true (ipv6Parts s)
    if groups.length = 8 then some groups else none
  | some (front, back) =>
    let front ← ipv6Groups? false (ipv6Parts front)
    let back ← ipv6Groups? true (ipv6Parts back)
    let known := front.length + back.length
    if known ≤ 7 then some (front ++ List.replicate (8 - known) 0 ++ back) else none

/-- The number of zeros that the groups begin with. -/
def leadingZeros (groups : List Nat) : Nat := (groups.takeWhile (· == 0)).length

/-- The first of the longest runs of zeros: where it begins, and how long it is. -/
def longestZeros : List Nat → Nat × Nat
  | [] => (0, 0)
  | g :: rest =>
    let here := leadingZeros (g :: rest)
    let later := longestZeros rest
    if later.2 ≤ here then (0, here) else (later.1 + 1, later.2)

/-- The groups in hexadecimal, with two colons for the longest run of at least two zeros. -/
def ipv6Text (groups : List Nat) : List Char :=
  let group (n : Nat) : List Char := Nat.toDigits 16 n
  let row (groups : List Nat) : List Char := Text.joinWith [':'] (groups.map group)
  let (start, length) := longestZeros groups
  if length < 2 then row groups
  else row (groups.take start) ++ [':', ':'] ++ row (groups.drop (start + length))

/-! ## 3. Hosts -/

/-- A character that ends or spoils a host of a scheme that is not special. -/
def isForbiddenInHost (c : Char) : Bool :=
  "\x00\t\n\r #/:<>?@[\\]^|".toList.contains c

/-- An IPv6 address between brackets, the first of which is passed. -/
def bracketed (s : List Char) : Except Error Host :=
  if s.getLast? = some ']' then
    match ipv6? s.dropLast with
    | some groups => .ok (.ipv6 groups)
    | none => .error .invalidIpv6
  else .error .invalidIpv6

/-- The host of a special scheme. -/
def Host.parse [Idna] : List Char → Except Error Host
  | '[' :: s => bracketed s
  | s =>
    match (decode? s).bind fun t => domainToAscii? t.toList with
    | none => .error .invalidDomainName
    | some name =>
      if name = [] then .error .emptyHost
      else if endsInNumber name then
        match ipv4? name with
        | some address => .ok (.ipv4 address)
        | none => .error .invalidIpv4
      else .ok (.domain name)

/-- The host of any other scheme. -/
def Host.parsePlain : List Char → Except Error Host
  | '[' :: s => bracketed s
  | s =>
    if s.any isForbiddenInHost then .error .invalidDomainCharacter
    else .ok (.domain (encode isControl s))

/-- The text of a host. -/
def Host.text : Host → List Char
  | .domain name => name
  | .ipv4 address => ipv4Text address
  | .ipv6 groups => '[' :: (ipv6Text groups ++ [']'])

end Url
end Playtest
