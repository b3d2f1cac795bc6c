/-!
# Decimal digits of natural numbers

The count of decimal digits, the decimal exponent of a positive fraction, and the digit
text of a natural number. Number text and number reading both measure magnitudes in
powers of ten with these.

Main statement: `digitCount_pos`, every number has at least one digit.
-/

set_option autoImplicit false

namespace TaskMachine.Decimal

/-- The number of decimal digits of `n`, counting `0` as one digit: the least `j ≥ 1` with
`n < 10^j`. -/
def digitCount (n : Nat) : Nat :=
  if n < 10 then 1 else digitCount (n / 10) + 1
termination_by n
decreasing_by omega

theorem digitCount_pos (n : Nat) : 0 < digitCount n := by
  unfold digitCount
  split <;> omega

/-- `⌊log₁₀ (num / den)⌋` for positive `num` and `den`. Above one it counts the digits of
the integer part; below one it is `-j` for the least `j` with `num * 10^j ≥ den`, which is
the digit count of `⌊(den - 1) / num⌋`. -/
def floorLog10 (num den : Nat) : Int :=
  if den ≤ num then (digitCount (num / den) : Int) - 1
  else -(digitCount ((den - 1) / num) : Int)

def digitChars (n : Nat) : List Char :=
  if n < 10 then [Char.ofNat (0x30 + n)]
  else digitChars (n / 10) ++ [Char.ofNat (0x30 + n % 10)]
termination_by n
decreasing_by omega

def natText (n : Nat) : String :=
  String.ofList (digitChars n)

/-- The decimal text of an integer, with `-` before a negative one. -/
def intText (n : Int) : String :=
  if n < 0 then "-" ++ natText n.natAbs else natText n.toNat

end TaskMachine.Decimal
