import TlsListener.Number.Power

/-!
# Binary floating-point numbers in decimal notation

A number is a sign, a natural mantissa of at most 53 bits and a power of two no smaller than
`2 ^ (-1074)`; beyond the greatest of them lies infinity. All arithmetic is exact, on natural
numbers.

`Binary64.ofDecimal` rounds a decimal to the nearest such number, a tie going to the even mantissa.
`Binary64.shortest` gives the decimal with the fewest digits that rounds back to the number, and of
those the nearest. `Binary64.render` writes it in positional notation with at least one digit after
the point.
-/

namespace TlsListener

/-- A floating-point number of double width. -/
inductive Binary64 where
  /-- `mantissa * 2 ^ exponent`, negated when `negative`. -/
  | finite (negative : Bool) (mantissa : Nat) (exponent : Int)
  | infinite (negative : Bool)
  | nan
  deriving DecidableEq, Repr, Inhabited

namespace Binary64

/-- The exponent of the smallest positive number. -/
def leastExponent : Int := -1074

/-- The quotient of two natural numbers rounded to the nearest, ties to even. -/
def divEven (num den : Nat) : Nat :=
  let q := num / den
  let r := num % den
  if 2 * r < den then q
  else if den < 2 * r then q + 1
  else if q % 2 = 0 then q else q + 1

/-- `num / den` divided by `2 ^ e`, as a quotient of natural numbers. -/
def scale (num den : Nat) (e : Int) : Nat × Nat :=
  (num * twoTo (-e).toNat, den * twoTo e.toNat)

/-- The nearest number to the positive quotient `num / den`. -/
def ofQuotient (negative : Bool) (num den : Nat) : Binary64 :=
  let guess := max leastExponent ((num.log2 : Int) - (den.log2 : Int) - 53)
  let (n, d) := scale num den guess
  let e := if n / d < twoTo 53 then guess else guess + 1
  let (n, d) := scale num den e
  let m := divEven n d
  let (m, e) := if m = twoTo 53 then (twoTo 52, e + 1) else (m, e)
  if 971 < e then infinite negative else finite negative m e

/-- The number of decimal digits. -/
def digitCount (n : Nat) : Nat :=
  (Nat.toDigits 10 n).length

/-- The nearest number to `digits * 10 ^ exponent`. Exponents far outside the range of these numbers
are settled by the count of digits alone. -/
def ofDecimal (negative : Bool) (digits : Nat) (exponent : Int) : Binary64 :=
  if digits = 0 then finite negative 0 leastExponent
  else
    let magnitude := exponent + digitCount digits
    if 310 < magnitude then infinite negative
    else if magnitude < -330 then finite negative 0 leastExponent
    else ofQuotient negative (digits * tenTo exponent.toNat) (tenTo (-exponent).toNat)

/-- The greatest `p` with `10 ^ p ≤ num / den`, for a positive quotient. -/
def decimalExponent (num den : Nat) : Int :=
  if den ≤ num then (digitCount (num / den) : Int) - 1
  else
    let gap := digitCount den - digitCount num
    if den ≤ num * tenTo gap then -(gap : Int) else -(gap : Int) - 1

/-- The reals that round to a number, in quarters of its last place: half a place to either side,
but only a quarter downwards where the numbers below lie twice as close. The ends belong to it when
the mantissa is even. -/
structure Interval where
  low : Nat
  value : Nat
  high : Nat
  closed : Bool

/-- The interval of `mantissa * 2 ^ exponent`. -/
def interval (mantissa : Nat) (exponent : Int) : Interval where
  low :=
    if mantissa = twoTo 52 ∧ leastExponent < exponent then 4 * mantissa - 1
    else 4 * mantissa - 2
  value := 4 * mantissa
  high := 4 * mantissa + 2
  closed := mantissa % 2 = 0

/-- Of the two neighbours of a positive number on the grid of multiples of `10 ^ place`, the nearer
one that rounds back to it, if either does. Of two that are equally near it is the greater. -/
def onGrid (mantissa : Nat) (exponent place : Int) : Option Nat :=
  let span := interval mantissa exponent
  -- every bound divided by `10 ^ place`, over the common denominator `unit`
  let factor := twoTo (exponent - 2).toNat * tenTo (-place).toNat
  let unit := twoTo (2 - exponent).toNat * tenTo place.toNat
  let low := span.low * factor
  let value := span.value * factor
  let high := span.high * factor
  let below := value / unit
  let inside (n : Nat) : Bool :=
    if span.closed then low ≤ n * unit && n * unit ≤ high
    else low < n * unit && n * unit < high
  match inside below, inside (below + 1) with
  | true, true =>
    some (if value - below * unit < (below + 1) * unit - value then below else below + 1)
  | true, false => some below
  | false, true => some (below + 1)
  | false, false => none

/-- The fewest digits that round back to a positive number, with the place of the last of them.
Seventeen digits always suffice. -/
def shortest (mantissa : Nat) (exponent : Int) : Nat × Int :=
  let (n, d) := scale mantissa 1 (-exponent)
  let top := decimalExponent n d
  let found := (List.range 17).findSome? fun (i : Nat) =>
    let place := top - i
    (onGrid mantissa exponent place).map fun digits =>
      -- the upper neighbour of a one-digit number may be ten
      if digits = 10 then (1, place + 1) else (digits, place)
  found.getD (0, 0)

/-- `digits * 10 ^ place` in positional notation. -/
def positional (digits : Nat) (place : Int) : String :=
  let shown := toString digits
  if 0 ≤ place then shown ++ String.ofList (List.replicate place.toNat '0') ++ ".0"
  else
    let after := (-place).toNat
    let padded := (List.replicate (after + 1 - shown.length) '0') ++ shown.toList
    let before := padded.length - after
    String.ofList (padded.take before) ++ "." ++ String.ofList (padded.drop before)

/-- A number in positional notation with the fewest digits, at least one of them after the point. -/
def render : Binary64 → String
  | nan => "NaN"
  | infinite negative => if negative then "-inf" else "inf"
  | finite negative mantissa exponent =>
    let sign := if negative then "-" else ""
    if mantissa = 0 then sign ++ "0.0"
    else
      let (digits, place) := shortest mantissa exponent
      sign ++ positional digits place

end Binary64

end TlsListener
