import TaskMachine.Instruction.Basic
import TaskMachine.Intrinsic.Basic
import TaskMachine.Text.Hex
import TaskMachine.Decimal.Digits

/-!
# Decoding instruction words

Every word splits into opcode, modifier and operand; decoding refuses three kinds of word:
an operand of 0 where an address or index is needed (all but `PULL` and the unconditional
`JUMP`, where 0 means skip), a `PULL` with an operand, and a `CALL` of an index past the
last intrinsic.

Main statements: `decode` and `DecodeError.message`.
-/

set_option autoImplicit false

namespace TaskMachine

inductive DecodeError where
  | zeroOperand (word : Word) (opcode : Opcode)
  | nonZeroOperand (word : Word)
  | unknownIntrinsic (word : Word) (index : Nat)
  deriving DecidableEq, Repr

def wordHex (w : Word) : String :=
  "0x" ++ Hex.lower 4 w.toNat

def DecodeError.message : DecodeError → String
  | .zeroOperand w op => op.keyword ++ " instruction " ++ wordHex w ++ " has a zero operand"
  | .nonZeroOperand w => "PULL instruction " ++ wordHex w ++ " has a non-zero operand"
  | .unknownIntrinsic w i =>
    "CALL instruction " ++ wordHex w ++ " names unknown intrinsic " ++ Decimal.natText i

def Word.opcodeBits (w : Word) : Nat := w.toNat / Nat.pow 2 13

def Word.modifierBits (w : Word) : Nat := w.toNat / Nat.pow 2 11 % 4

def Word.operandBits (w : Word) : Nat := w.toNat % Nat.pow 2 11

def decode (w : Word) : Except DecodeError Instruction :=
  let op := Opcode.ofCode (Word.opcodeBits w)
  let m := Word.modifierBits w
  let n := Word.operandBits w
  match op with
  | .jump =>
    if n = 0 then
      if m = 0 then .ok .skip else .error (.zeroOperand w op)
    else .ok (.jump n (Condition.ofCode m))
  | .pull => if n = 0 then .ok (.pull (PullTarget.ofCode m)) else .error (.nonZeroOperand w)
  | .push => if n = 0 then .error (.zeroOperand w op) else .ok (.push (PushSource.ofCode m) n)
  | .load => if n = 0 then .error (.zeroOperand w op) else .ok (.load (Storage.ofCode m) n)
  | .save => if n = 0 then .error (.zeroOperand w op) else .ok (.save (Storage.ofCode m) n)
  | .drop => if n = 0 then .error (.zeroOperand w op) else .ok (.drop (Storage.ofCode m) n)
  | .call =>
    if n = 0 then .error (.zeroOperand w op)
    else if Intrinsic.count < n then .error (.unknownIntrinsic w n)
    else .ok (.call n m)
  | .send => if n = 0 then .error (.zeroOperand w op) else .ok (.send n (SendTarget.ofCode m))

end TaskMachine
