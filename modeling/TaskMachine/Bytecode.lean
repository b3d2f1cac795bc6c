import TaskMachine.Instruction.Basic
import TaskMachine.Text.Hex
import TaskMachine.Decimal.Digits

/-!
# Bytecode

A method's code: a sequence of instruction words, addressed from 1. As bytes each word is
two bytes, high byte first, so only an even number of bytes is bytecode. It is written
between single quotes as four upper-case hex digits per word.

Main statements: `Bytecode.ofBytes?`, `Bytecode.toBytes`, `Bytecode.get?`, and
`ofBytes?_toBytes`, reading back the bytes of bytecode gives it unchanged.
-/

set_option autoImplicit false

namespace TaskMachine

structure Bytecode where
  words : List Word
  deriving DecidableEq, Repr, Inhabited

structure TruncatedBytecode where
  byteCount : Nat
  deriving DecidableEq, Repr

def TruncatedBytecode.message (e : TruncatedBytecode) : String :=
  "bytecode has " ++ Decimal.natText e.byteCount ++ " bytes, which is not a whole number of instructions"

namespace Bytecode

def length (b : Bytecode) : Nat := b.words.length

def get? (b : Bytecode) (address : Nat) : Option Word :=
  if address = 0 then none else b.words[address - 1]?

def wordBytes (w : Word) : List UInt8 :=
  [(w.toNat / 256).toUInt8, (w.toNat % 256).toUInt8]

def toBytes (b : Bytecode) : List UInt8 :=
  b.words.flatMap wordBytes

def wordsOfBytes : List UInt8 → List Word
  | high :: low :: rest => (high.toNat * 256 + low.toNat).toUInt16 :: wordsOfBytes rest
  | _ => []

def ofBytes? (bytes : List UInt8) : Except TruncatedBytecode Bytecode :=
  if bytes.length % 2 = 0 then .ok ⟨wordsOfBytes bytes⟩ else .error ⟨bytes.length⟩

/-- The written form, `'` and four upper-case hex digits per word and `'`. -/
def display (b : Bytecode) : String :=
  "'" ++ String.join (b.words.map fun w => Hex.upper 4 w.toNat) ++ "'"

theorem wordsOfBytes_toBytes (ws : List Word) :
    wordsOfBytes (ws.flatMap wordBytes) = ws := by
  induction ws with
  | nil => rfl
  | cons w rest ih =>
    simp only [List.flatMap_cons, wordBytes, List.cons_append, List.nil_append, wordsOfBytes, ih]
    congr 1
    have hw := w.toNat_lt
    apply UInt16.toNat_inj.mp
    simp
    omega

theorem ofBytes?_toBytes (b : Bytecode) : ofBytes? b.toBytes = .ok b := by
  have hlen : (b.words.flatMap wordBytes).length = 2 * b.words.length := by
    induction b.words with
    | nil => rfl
    | cons w rest ih =>
      simp only [List.flatMap_cons, List.length_append, ih, List.length_cons]
      simp [wordBytes]
      omega
  simp [ofBytes?, toBytes, hlen, wordsOfBytes_toBytes]

end Bytecode

end TaskMachine
