import TaskMachine.Decimal.Binary64
import TaskMachine.Decimal.Digits

/-!
# Reading decimal text as a double

The accepted texts are an optional sign followed by `inf`, `infinity` or `nan` in any
letter case, or by digits with an optional point and an optional exponent: at least one
digit before or after the point, and an exponent of `e` or `E`, an optional sign and at
least one digit. Nothing else may follow, not even a blank.

A not-a-number keeps its sign in its sign bit. A decimal is rounded to the nearest double,
a tie to the even mantissa; magnitudes past the largest double become an infinity and those
below half the least subnormal a zero of the same sign.

Main statements: `readNumber?` is the reader; `roundToDouble` rounds an exact fraction
in natural arithmetic.
-/

set_option autoImplicit false

namespace TaskMachine.Decimal

inductive Reading where
  | nan (negative : Bool)
  | infinite (negative : Bool)
  | decimal (negative : Bool) (digits : Nat) (exponent : Int)
  deriving Repr, DecidableEq

def digitsValue (cs : List Char) : Nat :=
  cs.foldl (fun acc c => 10 * acc + (c.toNat - 0x30)) 0

def sameLetters (cs : List Char) (word : String) : Bool :=
  cs.map Char.toLower == word.toList

/-- The signed exponent after `e`: an optional sign and at least one digit, nothing after. -/
def exponentPart (cs : List Char) : Option Int :=
  let (negative, rest) := match cs with
    | '+' :: r => (false, r)
    | '-' :: r => (true, r)
    | r => (false, r)
  let ds := rest.takeWhile Char.isDigit
  if ds.isEmpty || ds.length ≠ rest.length then none
  else
    let n : Int := digitsValue ds
    some (if negative then -n else n)

def unsignedReading (negative : Bool) (cs : List Char) : Option Reading :=
  if sameLetters cs "inf" || sameLetters cs "infinity" then some (.infinite negative)
  else if sameLetters cs "nan" then some (.nan negative)
  else
    let whole := cs.takeWhile Char.isDigit
    let afterWhole := cs.dropWhile Char.isDigit
    let (fraction, afterFraction) := match afterWhole with
      | '.' :: r => (r.takeWhile Char.isDigit, r.dropWhile Char.isDigit)
      | r => ([], r)
    if whole.isEmpty && fraction.isEmpty then none
    else
      let exponent? : Option Int := match afterFraction with
        | [] => some 0
        | c :: r => if c = 'e' || c = 'E' then exponentPart r else none
      exponent?.map fun exponent =>
        .decimal negative (digitsValue (whole ++ fraction)) (exponent - fraction.length)

def reading? (text : String) : Option Reading :=
  match text.toList with
  | '+' :: r => unsignedReading false r
  | '-' :: r => unsignedReading true r
  | r => unsignedReading false r

/-- `⌊num / (den * 2^shift)⌋` and the remainder over its divisor, for a signed shift. -/
def scaledQuotient (num den : Nat) (shift : Int) : Nat × Nat × Nat :=
  if 0 ≤ shift then
    let d := den * Nat.pow 2 shift.toNat
    (num / d, num % d, d)
  else
    let n := num * Nat.pow 2 (-shift).toNat
    (n / den, n % den, den)

/-- The nearest double to `num / den`, a positive fraction, as a mantissa and exponent;
`none` when it rounds past the largest finite double. The exponent is chosen so that the
quotient has 53 bits, or is `-1074` for subnormals; the remainder decides the last bit,
a tie going to the even mantissa. -/
def roundToDouble (num den : Nat) : Option (Nat × Int) :=
  let guess : Int := (num.log2 : Int) - den.log2 - 52
  let shift0 :=
    if (scaledQuotient num den guess).1 < Binary64.hiddenBit then guess - 1 else guess
  let shift := max shift0 Binary64.leastExponent
  let (q, r, d) := scaledQuotient num den shift
  let up := d < 2 * r || (d = 2 * r && q % 2 = 1)
  let q' := if up then q + 1 else q
  let (mantissa, exponent) :=
    if q' = 2 * Binary64.hiddenBit then (Binary64.hiddenBit, shift + 1) else (q', shift)
  if 971 < exponent then none else some (mantissa, exponent)

def Reading.toFloat : Reading → Float
  | .nan negative => Binary64.signedNaN negative
  | .infinite negative => Binary64.signedInfinity negative
  | .decimal negative digits exponent =>
    if digits = 0 then Binary64.ofFinite negative 0 0
    else
      let magnitude : Int := exponent + digitCount digits
      if 309 < magnitude then Binary64.signedInfinity negative
      else if magnitude < -324 then Binary64.ofFinite negative 0 0
      else
        let num := digits * Nat.pow 10 exponent.toNat
        let den := Nat.pow 10 (-exponent).toNat
        match roundToDouble num den with
        | some (mantissa, e) => Binary64.ofFinite negative mantissa e
        | none => Binary64.signedInfinity negative

def readNumber? (text : String) : Option Float :=
  (reading? text).map Reading.toFloat

end TaskMachine.Decimal
