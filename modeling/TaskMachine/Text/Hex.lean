/-!
# Fixed-width hexadecimal

Hexadecimal text of a natural number padded with zeros to a least width, in lower or upper
case. Identifiers print sixteen lower-case digits, instruction words four.

Main statement: `length_digits_pad`, the padded text is never shorter than its width.
-/

set_option autoImplicit false

namespace TaskMachine.Hex

def digit (upper : Bool) (value : Nat) : Char :=
  if value < 10 then Char.ofNat (0x30 + value)
  else if upper then Char.ofNat (0x41 + value - 10)
  else Char.ofNat (0x61 + value - 10)

/-- The digits of `value`, most significant first, with no leading zero (zero has none). -/
def rawDigits (upper : Bool) (value : Nat) : List Char :=
  if value < 16 then (if value = 0 then [] else [digit upper value])
  else rawDigits upper (value / 16) ++ [digit upper (value % 16)]
termination_by value
decreasing_by omega

/-- The digits padded on the left with `0` to at least `width` characters. -/
def pad (width : Nat) (cs : List Char) : List Char :=
  List.replicate (width - cs.length) '0' ++ cs

def lower (width value : Nat) : String :=
  String.ofList (pad width (rawDigits false value))

def upper (width value : Nat) : String :=
  String.ofList (pad width (rawDigits true value))

theorem length_digits_pad (width : Nat) (cs : List Char) : width ≤ (pad width cs).length := by
  simp [pad]
  omega

end TaskMachine.Hex
