/-
# Decimal text of binary numbers

A number is printed with the fewest digits that read back as the same number.  Of two such
decimals of the same length the nearer one is taken, and the even one if both are as near.

The search looks at the grids of 1, 2, ... 17 significant digits in turn.  On each grid only
the two neighbours of the number can lie in the interval of reals that round to it, so it is
enough to test those two.

How the digits are laid out is decided by two formats: plain positional notation, and the
notation of JSON values, which has a point in every number and an exponent where the point
would stand far from the digits.
-/
import Playtest.Number.Binary64

namespace Playtest

/-- `digits · 10 ^ exponent`. -/
structure Decimal where
  digits : Nat
  exponent : Int
  deriving DecidableEq, Repr

namespace Decimal

/-! ## 1. The fewest digits -/

/-- `num / den` in units of `10 ^ q`, as a quotient of whole numbers. -/
def inUnits (num den : Nat) (q : Int) : Nat × Nat :=
  if 0 ≤ q then (num, den * Nat.pow 10 q.toNat) else (num * Nat.pow 10 (-q).toNat, den)

/-- The exponent of the leading digit of `num / den`, starting from a guess that is at most
`fuel` off. -/
def leadingExponent (num den : Nat) : Nat → Int → Int
  | 0, k => k
  | fuel + 1, k =>
    let (n, d) := inUnits num den k
    if n < d then leadingExponent num den fuel (k - 1)
    else if 10 * d ≤ n then leadingExponent num den fuel (k + 1)
    else k

/-- The number of the grid `10 ^ q` that rounds to the binary number `mid / den`, if there is
one: `low` and `high` are the ends of its interval over the same denominator, and `closed`
says whether they belong to it. -/
def onGrid? (low mid high den : Nat) (closed : Bool) (q : Int) : Option Nat :=
  let (m, d) := inUnits mid den q
  let (l, _) := inUnits low den q
  let (h, _) := inUnits high den q
  let c := m / d
  let isLow := if closed then l ≤ c * d else l < c * d
  let isHigh := if closed then (c + 1) * d ≤ h else (c + 1) * d < h
  if isLow then
    if isHigh then some (roundHalfEven m d) else some c
  else if isHigh then some (c + 1) else none

/-- The first grid of at least `n` digits with a number that reads back. -/
def firstGrid (low mid high den : Nat) (closed : Bool) (lead : Int) : Nat → Int → Decimal
  | 0, q => ⟨roundHalfEven (inUnits mid den q).1 (inUnits mid den q).2, q⟩
  | fuel + 1, q =>
    match onGrid? low mid high den closed q with
    | some c => ⟨c, q⟩
    | none => firstGrid low mid high den closed lead fuel (q - 1)

/-- The digits without the zeros they end with. -/
def strip : Nat → Decimal → Decimal
  | 0, x => x
  | fuel + 1, x =>
    if x.digits ≠ 0 ∧ x.digits % 10 = 0 then strip fuel ⟨x.digits / 10, x.exponent + 1⟩ else x

/-- The shortest decimal that reads back as `mantissa · 2 ^ exponent`, for a number that is
not zero. -/
def shortest (mantissa : Nat) (exponent : Int) : Decimal :=
  -- a quarter of the last place is the unit in which both ends of the interval are whole
  let isPower := mantissa = Nat.pow 2 52 ∧ Binary64.minExponent < exponent
  let (unit, den) := Binary64.ratio 1 (exponent - 2)
  let mid := 4 * mantissa * unit
  let low := (4 * mantissa - (if isPower then 1 else 2)) * unit
  let high := (4 * mantissa + 2) * unit
  let guess : Int := ((Nat.log2 mantissa : Int) + exponent) * 30103 / 100000
  let lead := leadingExponent mid den 4 guess
  strip 20 (firstGrid low mid high den (mantissa % 2 = 0) lead 17 lead)

/-! ## 2. Layout -/

/-- A row of zeros. -/
def zeros (n : Nat) : String := String.ofList (List.replicate n '0')

/-- The digits with the point before the last `places` of them. -/
def pointed (digits : String) (places : Nat) : String :=
  let cs := digits.toList
  let cs := if cs.length ≤ places then List.replicate (places + 1 - cs.length) '0' ++ cs else cs
  let whole := cs.length - places
  String.ofList (cs.take whole) ++ "." ++ String.ofList (cs.drop whole)

/-- Positional notation: no exponent, and a point only before a fraction. -/
def positional (x : Decimal) : String :=
  if 0 ≤ x.exponent then toString x.digits ++ zeros x.exponent.toNat
  else pointed (toString x.digits) (-x.exponent).toNat

/-- The notation of JSON values: positional from `10 ^ -5` up to `10 ^ 16` with at least one
digit after the point, otherwise one digit before the point and a signed exponent. -/
def scientific (x : Decimal) : String :=
  let text := toString x.digits
  let point : Int := text.length + x.exponent
  if 0 ≤ x.exponent ∧ point ≤ 16 then text ++ zeros x.exponent.toNat ++ ".0"
  else if -5 < point ∧ point ≤ 16 then pointed text (-x.exponent).toNat
  else
    let lead := point - 1
    let sign := if lead < 0 then "-" else "+"
    let digits := if text.length = 1 then text else pointed text (text.length - 1)
    digits ++ "e" ++ sign ++ toString lead.natAbs

end Decimal

namespace Binary64

/-- The sign of a negative number. -/
def signText (negative : Bool) : String := if negative then "-" else ""

/-- The number in positional notation. -/
def display : Binary64 → String
  | .nan => "NaN"
  | .infinity s => signText s ++ "inf"
  | .finite s m e =>
    if m = 0 then signText s ++ "0" else signText s ++ (Decimal.shortest m e).positional

/-- The number in the notation of JSON values, which has no text for infinities. -/
def jsonText : Binary64 → String
  | .nan => "null"
  | .infinity _ => "null"
  | .finite s m e =>
    if m = 0 then signText s ++ "0.0" else signText s ++ (Decimal.shortest m e).scientific

/-- A finite number with exactly two places; a tie goes to the even neighbour. -/
def twoPlaces : Binary64 → String
  | .finite s m e =>
    let (n, d) := ratio m e
    signText s ++ Decimal.pointed (toString (roundHalfEven (n * 100) d)) 2
  | x => x.display

end Binary64
end Playtest
