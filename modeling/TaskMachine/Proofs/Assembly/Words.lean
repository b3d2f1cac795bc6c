import Mathlib
import TaskMachine.Instruction.Decode

/-! # Instruction words read back

An instruction is one word, and decoding is the inverse of encoding on the instructions a
word can hold (`Instruction.Fits`): addresses and table indexes in `1..=2047`, and calls
of a known intrinsic with at most three arguments.  `decode_eq_ok_iff` says both halves at
once: a word decodes to `i` exactly when `i` fits and encodes to that word.  So every word
that decodes re-encodes to itself, and every fitting instruction survives the trip through
its word. -/

set_option autoImplicit false

namespace TaskMachine

/-- The instructions a word holds: every address and table index in `1..=2047`, and a call
of a known intrinsic with at most three arguments. -/
def Instruction.Fits : Instruction → Prop
  | .skip | .pull _ => True
  | .jump n _ | .push _ n | .load _ n | .save _ n | .drop _ n | .send n _ =>
    1 ≤ n ∧ n ≤ maxOperand
  | .call i n => 1 ≤ i ∧ i ≤ Intrinsic.count ∧ n ≤ 3

instance : DecidablePred Instruction.Fits := fun i => by
  cases i <;> unfold Instruction.Fits <;> infer_instance

/-! ## Field codes read back -/

theorem Opcode.ofCode_code (op : Opcode) : Opcode.ofCode op.code = op := by
  cases op <;> rfl

theorem Condition.ofCode_code (c : Condition) : Condition.ofCode c.code = c := by
  cases c <;> rfl

theorem PushSource.ofCode_code (s : PushSource) : PushSource.ofCode s.code = s := by
  cases s <;> rfl

theorem PullTarget.ofCode_code (t : PullTarget) : PullTarget.ofCode t.code = t := by
  cases t <;> rfl

theorem Storage.ofCode_code (s : Storage) : Storage.ofCode s.code = s := by
  cases s <;> rfl

theorem SendTarget.ofCode_code (t : SendTarget) : SendTarget.ofCode t.code = t := by
  cases t <;> rfl

theorem Opcode.code_ofCode {n : Nat} (small : n < 8) : (Opcode.ofCode n).code = n := by
  interval_cases n <;> rfl

theorem Condition.code_ofCode {m : Nat} (small : m < 4) : (Condition.ofCode m).code = m := by
  interval_cases m <;> rfl

theorem PushSource.code_ofCode {m : Nat} (small : m < 4) : (PushSource.ofCode m).code = m := by
  interval_cases m <;> rfl

theorem PullTarget.code_ofCode {m : Nat} (small : m < 4) : (PullTarget.ofCode m).code = m := by
  interval_cases m <;> rfl

theorem Storage.code_ofCode {m : Nat} (small : m < 4) : (Storage.ofCode m).code = m := by
  interval_cases m <;> rfl

theorem SendTarget.code_ofCode {m : Nat} (small : m < 4) : (SendTarget.ofCode m).code = m := by
  interval_cases m <;> rfl

theorem Opcode.code_lt (op : Opcode) : op.code < 8 := by
  cases op <;> decide

theorem Word.toNat_eq_fields (w : Word) :
    w.toNat = w.opcodeBits * 2 ^ 13 + w.modifierBits * 2 ^ 11 + w.operandBits := by
  have hw := w.toNat_lt
  simp only [Word.opcodeBits, Word.modifierBits, Word.operandBits, Nat.pow_eq]
  omega

theorem Word.opcodeBits_lt (w : Word) : w.opcodeBits < 8 := by
  have hw := w.toNat_lt
  simp only [Word.opcodeBits, Nat.pow_eq]
  omega

theorem Word.modifierBits_lt (w : Word) : w.modifierBits < 4 := by
  simp only [Word.modifierBits, Nat.pow_eq]
  omega

theorem Word.operandBits_lt (w : Word) : w.operandBits < 2 ^ 11 := by
  simp only [Word.operandBits, Nat.pow_eq]
  omega

namespace Instruction

theorem modifier_lt (i : Instruction) : i.modifier < 4 := by
  cases i with
  | skip => decide
  | jump _ c => cases c <;> simp [modifier, Condition.code]
  | push s _ => cases s <;> simp [modifier, PushSource.code]
  | pull t => cases t <;> simp [modifier, PullTarget.code]
  | load s _ | save s _ | drop s _ => cases s <;> simp [modifier, Storage.code]
  | call _ n => exact Nat.mod_lt _ (by decide)
  | send _ t => cases t <;> simp [modifier, SendTarget.code]

theorem toNat_encode (i : Instruction) :
    i.encode.toNat = i.opcode.code * 2 ^ 13 + i.modifier * 2 ^ 11 + i.operand % 2 ^ 11 := by
  have hop := i.opcode.code_lt
  have hm := i.modifier_lt
  have hn := Nat.mod_lt i.operand (show 0 < 2 ^ 11 by decide)
  simp only [encode, Nat.pow_eq, Nat.toUInt16_eq, UInt16.toNat_ofNat']
  omega

theorem opcodeBits_encode (i : Instruction) : i.encode.opcodeBits = i.opcode.code := by
  have hm := i.modifier_lt
  have hn := Nat.mod_lt i.operand (show 0 < 2 ^ 11 by decide)
  simp only [Word.opcodeBits, Nat.pow_eq, toNat_encode]
  omega

theorem modifierBits_encode (i : Instruction) : i.encode.modifierBits = i.modifier := by
  have hm := i.modifier_lt
  have hn := Nat.mod_lt i.operand (show 0 < 2 ^ 11 by decide)
  simp only [Word.modifierBits, Nat.pow_eq, toNat_encode]
  omega

theorem operandBits_encode (i : Instruction) : i.encode.operandBits = i.operand % 2 ^ 11 := by
  have hn := Nat.mod_lt i.operand (show 0 < 2 ^ 11 by decide)
  simp only [Word.operandBits, Nat.pow_eq, toNat_encode]
  omega

theorem encode_eq_of_fields {i : Instruction} {w : Word} (opcode : i.opcode.code = w.opcodeBits)
    (modifier : i.modifier = w.modifierBits) (operand : i.operand = w.operandBits) : i.encode = w := by
  have hlt := w.operandBits_lt
  apply UInt16.toNat_inj.mp
  rw [toNat_encode, Word.toNat_eq_fields w, opcode, modifier, operand, Nat.mod_eq_of_lt hlt]

theorem operand_mod_of_fits {i : Instruction} (fits : i.Fits) :
    i.operand % 2 ^ 11 = i.operand := by
  apply Nat.mod_eq_of_lt
  cases i <;> simp only [Fits, operand, maxOperand, Intrinsic.count] at fits ⊢ <;> omega

end Instruction

theorem decode_encode {i : Instruction} (fits : i.Fits) : decode i.encode = .ok i := by
  have hn := Instruction.operand_mod_of_fits fits
  simp only [decode, Instruction.opcodeBits_encode, Instruction.modifierBits_encode,
    Instruction.operandBits_encode, hn]
  cases i with
  | skip => rfl
  | pull t =>
    simp [Instruction.opcode, Instruction.modifier, Instruction.operand, Opcode.ofCode_code,
      PullTarget.ofCode_code]
  | jump a c =>
    have ha : a ≠ 0 := by simp only [Instruction.Fits] at fits; omega
    simp [Instruction.opcode, Instruction.modifier, Instruction.operand, ha, Opcode.ofCode_code,
      Condition.ofCode_code]
  | push s n =>
    have hn : n ≠ 0 := by simp only [Instruction.Fits] at fits; omega
    simp [Instruction.opcode, Instruction.modifier, Instruction.operand, hn, Opcode.ofCode_code,
      PushSource.ofCode_code]
  | load s n | save s n | drop s n =>
    have hn : n ≠ 0 := by simp only [Instruction.Fits] at fits; omega
    simp [Instruction.opcode, Instruction.modifier, Instruction.operand, hn, Opcode.ofCode_code,
      Storage.ofCode_code]
  | call k n =>
    simp only [Instruction.Fits, Intrinsic.count] at fits
    have hk : k ≠ 0 := by omega
    have hcount : ¬Intrinsic.count < k := by simp only [Intrinsic.count]; omega
    simp [Instruction.opcode, Instruction.modifier, Instruction.operand, hk, hcount,
      Opcode.ofCode_code, Nat.mod_eq_of_lt (show n < 4 by omega)]
  | send m t =>
    have hm : m ≠ 0 := by simp only [Instruction.Fits] at fits; omega
    simp [Instruction.opcode, Instruction.modifier, Instruction.operand, hm, Opcode.ofCode_code,
      SendTarget.ofCode_code]

theorem encode_of_decode {w : Word} {i : Instruction} (decoded : decode w = .ok i) :
    i.encode = w := by
  have hop := Opcode.code_ofCode w.opcodeBits_lt
  have hm := w.modifierBits_lt
  simp only [decode] at decoded
  split at decoded <;> rename_i hcode <;> rw [hcode] at hop <;> (repeat' split at decoded) <;> cases decoded <;>
    refine Instruction.encode_eq_of_fields ?_ ?_ ?_ <;>
    simp_all [Instruction.opcode, Instruction.modifier, Instruction.operand,
      Condition.code_ofCode, PushSource.code_ofCode, PullTarget.code_ofCode, Storage.code_ofCode,
      SendTarget.code_ofCode, Nat.mod_eq_of_lt]

theorem fits_of_decode {w : Word} {i : Instruction} (decoded : decode w = .ok i) : i.Fits := by
  have hlt := w.operandBits_lt
  have hm := w.modifierBits_lt
  simp only [decode] at decoded
  split at decoded <;> (repeat' split at decoded) <;> cases decoded <;>
    simp_all [Instruction.Fits, maxOperand, Intrinsic.count] <;> omega

theorem decode_eq_ok_iff {w : Word} {i : Instruction} :
    decode w = .ok i ↔ i.Fits ∧ i.encode = w := by
  constructor
  · intro h
    exact ⟨fits_of_decode h, encode_of_decode h⟩
  · rintro ⟨hfits, rfl⟩
    exact decode_encode hfits

example : (Instruction.jump 2048 .always).encode = Instruction.skip.encode := by decide

end TaskMachine
