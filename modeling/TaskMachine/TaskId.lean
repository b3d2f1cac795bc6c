import TaskMachine.Value.Ident
import TaskMachine.Text.Hex

/-!
# Task identifiers

A task is identified by a 64-bit word derived from its owner, the message it was started
with, a nonce and a sequence number: FNV-1a over the eight little-endian bytes of the
account's stable hash, the UTF-8 bytes of the message without its `$`, and the
little-endian bytes of the nonce and of the sequence number. It is written `#` and
sixteen lower-case hex digits.

Main statements: `TaskId.derive` and `derive_eq_hash`, which writes the derivation as one
hash of the concatenated bytes.
-/

set_option autoImplicit false

namespace TaskMachine

structure TaskId where
  value : UInt64
  deriving DecidableEq, Hashable, Repr, Inhabited

namespace TaskId

def derivationBytes (account : Name) (message : Symbol) (nonce sequence : UInt64) :
    List UInt8 :=
  Fnv.littleEndian account.stableHash ++ message.text.toUTF8.toList ++
    Fnv.littleEndian nonce ++ Fnv.littleEndian sequence

/-- The identity derived from an account, a message, a nonce and a sequence number,
mixing the four parts one after another. -/
def derive (account : Name) (message : Symbol) (nonce sequence : UInt64) : TaskId :=
  let h := Fnv.mix Fnv.offsetBasis (Fnv.littleEndian account.stableHash)
  let h := Fnv.mix h message.text.toUTF8.toList
  let h := Fnv.mix h (Fnv.littleEndian nonce)
  ⟨Fnv.mix h (Fnv.littleEndian sequence)⟩

def display (id : TaskId) : String :=
  "#" ++ Hex.lower 16 id.value.toNat

theorem derive_eq_hash (account : Name) (message : Symbol) (nonce sequence : UInt64) :
    (derive account message nonce sequence).value =
      Fnv.hash (derivationBytes account message nonce sequence) := by
  simp only [derive, derivationBytes, Fnv.hash, Fnv.mix_append, List.append_assoc]

end TaskId

end TaskMachine
