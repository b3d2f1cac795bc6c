/-!
# Binary64 as sign, integer mantissa and exponent

An IEEE 754 double is a sign, an 11-bit biased exponent and a 52-bit fraction. A finite
double is `(-1)^sign * mantissa * 2^exponent` with an integer mantissa: normal numbers carry
the hidden bit, subnormals and zero share the least exponent `-1074`.

`partsOfBits` reads the parts and `bitsOfFinite` writes them; both follow the layout of the
format field by field.
-/

set_option autoImplicit false

namespace TaskMachine.Binary64

inductive Parts where
  | nan
  | infinite (negative : Bool)
  /-- `(-1)^negative * mantissa * 2^exponent`; zero has mantissa `0`. -/
  | finite (negative : Bool) (mantissa : Nat) (exponent : Int)
  deriving Repr, DecidableEq

def hiddenBit : Nat := Nat.pow 2 52

/-- The exponent of the least subnormal, and of every subnormal mantissa. -/
def leastExponent : Int := -1074

/-- Decomposes bits. A normal number's mantissa lies in `[2^52, 2^53)`. -/
def partsOfBits (bits : UInt64) : Parts :=
  let negative := bits >>> 63 == 1
  let biased := ((bits >>> 52) &&& 0x7ff).toNat
  let fraction := (bits &&& 0xfffffffffffff).toNat
  if biased = 0x7ff then
    if fraction = 0 then .infinite negative else .nan
  else if biased = 0 then .finite negative fraction leastExponent
  else .finite negative (fraction + hiddenBit) (biased - 1075)

def parts (x : Float) : Parts :=
  partsOfBits x.toBits

/-- The bits of a finite double whose mantissa is below `2^53`, with the exponent of a
normal number when the hidden bit is set and `-1074` otherwise. -/
def bitsOfFinite (negative : Bool) (mantissa : Nat) (exponent : Int) : UInt64 :=
  let sign : UInt64 := if negative then 0x8000000000000000 else 0
  if mantissa < hiddenBit then sign ||| mantissa.toUInt64
  else sign ||| ((exponent + 1075).toNat.toUInt64 <<< 52) ||| (mantissa - hiddenBit).toUInt64

def ofFinite (negative : Bool) (mantissa : Nat) (exponent : Int) : Float :=
  Float.ofBits (bitsOfFinite negative mantissa exponent)

def infinity : Float := Float.ofBits 0x7ff0000000000000

def signedInfinity (negative : Bool) : Float :=
  Float.ofBits (if negative then 0xfff0000000000000 else 0x7ff0000000000000)

def signedNaN (negative : Bool) : Float :=
  Float.ofBits (if negative then 0xfff8000000000000 else 0x7ff8000000000000)

end TaskMachine.Binary64
