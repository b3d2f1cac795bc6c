import TaskMachine.Decimal.Binary64
import TaskMachine.Decimal.Digits

/-!
# Shortest decimal text of a double

A finite positive double `v` stands for every real that rounds to it: the interval between
the midpoints to its two neighbours, ends included when the mantissa is even. The text of
`v` uses the fewest significant digits whose decimal lies in that interval; of the two
decimals of that length around `v` the nearer wins, and an exact tie goes up.

The digits are then laid out positionally, never with an exponent: `1e21` is written
`1000000000000000000000` and `1e-7` is `0.0000001`, with no `.0` after an integer. Zero
keeps its sign (`-0`), and the non-finite values are `NaN`, `inf` and `-inf`.

Main statements: `shortestDigits` searches the decimal grids of 1 to 17 significant
digits in exact natural arithmetic, and `numberText` lays the digits out.
-/

set_option autoImplicit false

namespace TaskMachine.Decimal

/-- The reals that round to a positive double, scaled by `2^exponent`: the double is
`center * 2^exponent` and the interval runs from `low` to `high` in the same unit. -/
structure RoundingInterval where
  low : Nat
  center : Nat
  high : Nat
  exponent : Int
  inclusive : Bool
  deriving Repr

/-- The rounding interval of `mantissa * 2^exponent`, a positive double. The unit is a
quarter of the spacing, so both half-gaps are whole: two units each side, except that
a normal mantissa of exactly `2^52` has its lower neighbour twice as close, one unit
below. Subnormal mantissas always include their ends; normal ones when even. -/
def roundingInterval (mantissa : Nat) (exponent : Int) : RoundingInterval :=
  let subnormal := mantissa < Binary64.hiddenBit
  let lowGap := if mantissa = Binary64.hiddenBit then 1 else 2
  { low := 4 * mantissa - lowGap
    center := 4 * mantissa
    high := 4 * mantissa + 2
    exponent := exponent - 2
    inclusive := subnormal || mantissa % 2 = 0 }

def binaryFraction (a : Nat) (e : Int) : Nat × Nat :=
  (a * Nat.pow 2 e.toNat, Nat.pow 2 (-e).toNat)

/-- The decimal with `count` significant digits chosen for the interval, as
`digits * 10^exponent`, when one of the two decimals around the center on that grid lies
in the interval. `leading` is the decimal exponent of the center's first digit. -/
def onGrid (r : RoundingInterval) (leading : Int) (count : Nat) : Option (Nat × Int) :=
  let step : Int := leading - count + 1
  let scale (a : Nat) : Nat := a * Nat.pow 2 r.exponent.toNat * Nat.pow 10 (-step).toNat
  let den := Nat.pow 2 (-r.exponent).toNat * Nat.pow 10 step.toNat
  let num := scale r.center
  let below := num / den
  let rest := num % den
  let lowNum := scale r.low
  let highNum := scale r.high
  let downFits := if r.inclusive then lowNum ≤ below * den else lowNum < below * den
  let upFits := if r.inclusive then (below + 1) * den ≤ highNum else (below + 1) * den < highNum
  if downFits && upFits then
    some (if den ≤ 2 * rest then below + 1 else below, step)
  else if downFits then some (below, step)
  else if upFits then some (below + 1, step)
  else none

def trimZeros (digits : Nat) (exponent : Int) : Nat × Int :=
  if h : digits ≠ 0 ∧ digits % 10 = 0 then trimZeros (digits / 10) (exponent + 1)
  else (digits, exponent)
termination_by digits
decreasing_by omega

/-- The first grid, of `count` up to `count + fuel` digits, that holds a decimal of the
interval. Seventeen digits always suffice for a double. -/
def firstGrid (r : RoundingInterval) (leading : Int) : Nat → Nat → Nat × Int
  | count, 0 => (onGrid r leading count).getD (r.center, r.exponent)
  | count, fuel + 1 =>
    match onGrid r leading count with
    | some found => found
    | none => firstGrid r leading (count + 1) fuel

/-- The shortest digits of `mantissa * 2^exponent`, a positive double, with no trailing
zero: `(digits, e)` stands for `digits * 10^e`. -/
def shortestDigits (mantissa : Nat) (exponent : Int) : Nat × Int :=
  let r := roundingInterval mantissa exponent
  let (num, den) := binaryFraction r.center r.exponent
  let (digits, e) := firstGrid r (floorLog10 num den) 1 16
  trimZeros digits e

/-- Positional text of `digits * 10^exponent`: a leading `0.` and zeros when the point falls
before the digits, the point inside them, or zeros after them. -/
def positional (digits : Nat) (exponent : Int) : String :=
  let ds := digitChars digits
  let point : Int := exponent + ds.length
  if point ≤ 0 then
    String.ofList ('0' :: '.' :: List.replicate (-point).toNat '0' ++ ds)
  else if point < ds.length then
    String.ofList (ds.take point.toNat ++ '.' :: ds.drop point.toNat)
  else
    String.ofList (ds ++ List.replicate (point.toNat - ds.length) '0')

/-- The text of a double: shortest round-trip digits laid out positionally. -/
def numberText (x : Float) : String :=
  match Binary64.parts x with
  | .nan => "NaN"
  | .infinite negative => if negative then "-inf" else "inf"
  | .finite negative mantissa exponent =>
    let sign := if negative then "-" else ""
    if mantissa = 0 then sign ++ "0"
    else
      let (digits, e) := shortestDigits mantissa exponent
      sign ++ positional digits e

end TaskMachine.Decimal
