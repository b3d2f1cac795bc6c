import Mathlib
import TaskMachine.TaskId

/-!
# Hashes of concatenated bytes

FNV-1a absorbs one byte at a time, so mixing two byte strings one after the other is mixing
their concatenation (`Fnv.mix_append`). Every hash the machine takes in parts is therefore
the hash of one byte string:

* a path of segments hashes as the UTF-8 bytes of its written form, each segment after a
  `/` (`Fnv.hashSegments_eq_hashText`);
* a name with a segment hashes as its written form, while the name with none is written
  `/` yet contributes no byte and keeps the offset basis (`Name.stableHash_eq_hashText`,
  `Name.stableHash_root`);
* a task identity is the hash of the eight little-endian bytes of the account's hash, the
  UTF-8 bytes of the message and the little-endian bytes of the nonce and of the sequence
  number (`TaskId.derive_eq_hash`).

Main statement: `hashes_are_of_concatenated_bytes`.
-/

set_option autoImplicit false

namespace TaskMachine

namespace Fnv

theorem toList_loop_eq (bytes : ByteArray) (i : Nat) (acc : List UInt8) :
    ByteArray.toList.loop bytes i acc = acc.reverse ++ bytes.data.toList.drop i := by
  fun_induction ByteArray.toList.loop bytes i acc with
  | case1 i acc hi ih =>
    have hlen : i < bytes.data.toList.length := by simpa using hi
    rw [ih, List.drop_eq_getElem_cons hlen]
    simp [ByteArray.get!, hi]
  | case2 i acc hi =>
    have hend : bytes.data.toList.length ≤ i := by simpa using hi
    simp [List.drop_eq_nil_of_le hend]

theorem utf8_toList (text : String) :
    text.toUTF8.toList = text.toList.flatMap String.utf8EncodeChar := by
  have hbytes : text.toUTF8 = (text.toList.flatMap String.utf8EncodeChar).toByteArray :=
    String.utf8Encode_toList.symm
  rw [ByteArray.toList, toList_loop_eq, hbytes, List.toList_data_toByteArray]
  simp

@[simp]
theorem utf8_append (first second : String) :
    (first ++ second).toUTF8.toList = first.toUTF8.toList ++ second.toUTF8.toList := by
  simp only [utf8_toList, String.toList_append, List.flatMap_append]

@[simp]
theorem utf8_empty : "".toUTF8.toList = [] := by
  rw [utf8_toList]
  rfl

theorem utf8_slash : "/".toUTF8.toList = [0x2f] := by
  rw [utf8_toList]
  decide

theorem absorb_toNat (state : UInt64) (byte : UInt8) :
    (absorb state byte).toNat = (state.toNat ^^^ byte.toNat) * prime.toNat % 2 ^ 64 := by
  simp [absorb, UInt64.toNat_mul, UInt64.toNat_xor]

theorem littleEndian_digits (word : UInt64) :
    (littleEndian word).foldr (fun byte rest => byte.toNat + 256 * rest) 0 = word.toNat := by
  have hword := word.toNat_lt
  simp [littleEndian, List.range_succ, Nat.shiftRight_eq_div_pow]
  omega

theorem foldl_segments (state : UInt64) (segments : List String) :
    segments.foldl (fun state segment => mix (mix state [0x2f]) segment.toUTF8.toList) state =
      mix state (String.join (segments.map ("/" ++ ·))).toUTF8.toList := by
  induction segments generalizing state with
  | nil => simp
  | cons segment rest ih =>
    rw [List.foldl_cons, ih, List.map_cons, String.join_cons, utf8_append, utf8_append,
      utf8_slash, mix_append, mix_append, List.append_assoc]

theorem hashSegments_eq_hashText (segments : List String) :
    hashSegments segments = hashText (String.join (segments.map ("/" ++ ·))) :=
  foldl_segments offsetBasis segments

end Fnv

namespace Name

theorem stableHash_eq_hashText {n : Name} (nonempty : n.segments ≠ []) :
    n.stableHash = Fnv.hashText n.display := by
  simp only [stableHash, display, List.isEmpty_iff, nonempty, if_false, Fnv.hashSegments_eq_hashText]

theorem stableHash_root : root.stableHash = Fnv.offsetBasis := rfl

theorem display_root : root.display = "/" := rfl

theorem stableHash_root_ne_hashText : root.stableHash ≠ Fnv.hashText root.display := by
  rw [display_root, Fnv.hashText, Fnv.hash, Fnv.utf8_slash, stableHash_root]
  decide

end Name

theorem hashes_are_of_concatenated_bytes :
    (∀ (state : UInt64) (first second : List UInt8),
      Fnv.mix (Fnv.mix state first) second = Fnv.mix state (first ++ second)) ∧
    (∀ (state : UInt64) (byte : UInt8),
      (Fnv.absorb state byte).toNat =
        (state.toNat ^^^ byte.toNat) * Fnv.prime.toNat % 2 ^ 64) ∧
    (∀ segments : List String,
      Fnv.hashSegments segments = Fnv.hashText (String.join (segments.map ("/" ++ ·)))) ∧
    (∀ n : Name, n.segments ≠ [] → n.stableHash = Fnv.hashText n.display) ∧
    (Name.root.display = "/" ∧ Name.root.stableHash = Fnv.offsetBasis ∧
      Name.root.stableHash ≠ Fnv.hashText Name.root.display) ∧
    (∀ word : UInt64,
      (Fnv.littleEndian word).foldr (fun byte rest => byte.toNat + 256 * rest) 0 =
        word.toNat) ∧
    (∀ (account : Name) (message : Symbol) (nonce sequence : UInt64),
      (TaskId.derive account message nonce sequence).value =
        Fnv.hash (Fnv.littleEndian account.stableHash ++ message.text.toUTF8.toList ++
          Fnv.littleEndian nonce ++ Fnv.littleEndian sequence)) :=
  ⟨Fnv.mix_append, Fnv.absorb_toNat, Fnv.hashSegments_eq_hashText,
    fun _ h => Name.stableHash_eq_hashText h,
    ⟨Name.display_root, Name.stableHash_root, Name.stableHash_root_ne_hashText⟩,
    Fnv.littleEndian_digits, TaskId.derive_eq_hash⟩

end TaskMachine
