/-!
# FNV-1a, 64 bits

The 64-bit FNV-1a hash: start from the offset basis, and for each byte xor it into the
state and multiply by the FNV prime modulo 2^64. `UInt64` arithmetic wraps, so its
multiplication is exactly the hash's.

Main statements: `mix_append` (hashing is a fold, so it is a homomorphism over byte
concatenation) and `mix_nil`.
-/

set_option autoImplicit false

namespace TaskMachine.Fnv

def offsetBasis : UInt64 := 0xcbf29ce484222325

def prime : UInt64 := 0x100000001b3

/-- Absorbs one byte: xor it into the low bits, then multiply by the prime. -/
def absorb (state : UInt64) (byte : UInt8) : UInt64 :=
  (state ^^^ byte.toUInt64) * prime

def mix (state : UInt64) (bytes : List UInt8) : UInt64 :=
  bytes.foldl absorb state

def hash (bytes : List UInt8) : UInt64 :=
  mix offsetBasis bytes

def hashText (text : String) : UInt64 :=
  hash text.toUTF8.toList

def littleEndian (word : UInt64) : List UInt8 :=
  (List.range 8).map fun i => (word >>> (8 * i).toUInt64).toUInt8

/-- The hash of a path of segments: each segment is preceded by a `/`, so a non-empty
path hashes like its rendered text, and the empty path leaves the offset basis. -/
def hashSegments (segments : List String) : UInt64 :=
  segments.foldl (fun state segment => mix (mix state [0x2f]) segment.toUTF8.toList)
    offsetBasis

@[simp]
theorem mix_nil (state : UInt64) : mix state [] = state := rfl

@[simp]
theorem mix_cons (state : UInt64) (byte : UInt8) (bytes : List UInt8) :
    mix state (byte :: bytes) = mix (absorb state byte) bytes := rfl

theorem mix_append (state : UInt64) (first second : List UInt8) :
    mix (mix state first) second = mix state (first ++ second) := by
  simp [mix, List.foldl_append]

@[simp]
theorem length_littleEndian (word : UInt64) : (littleEndian word).length = 8 := by
  simp [littleEndian]

end TaskMachine.Fnv
