import Mathlib
import TaskMachine.Proofs.Value.Catalog
import TaskMachine.Intrinsic.Invoke

/-! # Lists and catalogs under the intrinsics

What `CALL` gets from the collection intrinsics, through `invoke` and the index of each.
`$getValue` and `$setValue` treat a catalog as a map from symbols to values
(`Catalog.get?_insert`): a key reads back what was last written under it, writing a key
leaves the others as they were, and a key never written reads as `none`.  Writing keeps the
order of the keys, replacing in place or appending (`Catalog.insert_in_place`,
`Catalog.insert_of_not_mem`).  `$addItem` and `$concatenation` append.  A key that is not a
symbol, and a second operand of `$concatenation` of another kind than the first, are refused
as invalid arguments with the reason.

`collection_intrinsics_obey_map_and_list_laws` states all of it. -/

set_option autoImplicit false

namespace TaskMachine

namespace Intrinsic

variable (c : Catalog) (k : Symbol) (v : Value)

theorem invoke_getValue :
    invoke getValue.index [.catalog c, .symbol k] = .ok ((c.get? k).getD .none) := rfl

theorem invoke_setValue :
    invoke setValue.index [.catalog c, .symbol k, v] = .ok (.catalog (c.insert k v)) := rfl

theorem invoke_addItem (items : List Value) (x : Value) :
    invoke addItem.index [.list items, x] = .ok (.list (items ++ [x])) := rfl

theorem invoke_concatenation_list (a b : List Value) :
    invoke concatenation.index [.list a, .list b] = .ok (.list (a ++ b)) := rfl

theorem invoke_concatenation_text (s t : String) :
    invoke concatenation.index [.text s, .text t] = .ok (.text (s ++ t)) := rfl

theorem invoke_getValue_of_not_symbol {key : Value} (notSymbol : key.tag ≠ .symbol) :
    invoke getValue.index [.catalog c, key] =
      .error (.invalidArgument "$getValue" ("expected a symbol key, found " ++ key.tag.label)) := by
  cases key with
  | symbol => exact absurd rfl notSymbol
  | _ => rfl

theorem invoke_setValue_of_not_symbol {key : Value} (notSymbol : key.tag ≠ .symbol) :
    invoke setValue.index [.catalog c, key, v] =
      .error (.invalidArgument "$setValue" ("expected a symbol key, found " ++ key.tag.label)) := by
  cases key with
  | symbol => exact absurd rfl notSymbol
  | _ => rfl

theorem invoke_concatenation_text_of_not_text (s : String) {tail : Value}
    (notText : tail.tag ≠ .text) :
    invoke concatenation.index [.text s, tail] =
      .error (.invalidArgument "$concatenation" "cannot join text with a non-text value") := by
  cases tail with
  | text => exact absurd rfl notText
  | _ => rfl

theorem invoke_concatenation_list_of_not_list (items : List Value) {tail : Value}
    (notList : tail.tag ≠ .list) :
    invoke concatenation.index [.list items, tail] =
      .error (.invalidArgument "$concatenation" "cannot join a list with a non-list value") := by
  cases tail with
  | list => exact absurd rfl notList
  | _ => rfl

end Intrinsic

open Intrinsic in
/-- The collection intrinsics obey the laws of maps and lists: what `$setValue` writes,
`$getValue` reads back, and nothing else; a missing key reads as `none`; writing keeps the
order of a catalog's distinct keys, in place or at the end; `$addItem` and `$concatenation`
append; a key that is not a symbol, or a second operand of `$concatenation` of another kind,
is refused with its reason. -/
theorem collection_intrinsics_obey_map_and_list_laws :
    (∀ (c : Catalog) (k : Symbol) (v : Value),
      (invoke setValue.index [.catalog c, .symbol k, v] >>= fun c' =>
        invoke getValue.index [c', .symbol k]) = .ok v) ∧
    (∀ (c : Catalog) (k k' : Symbol) (v : Value), k ≠ k' →
      (invoke setValue.index [.catalog c, .symbol k, v] >>= fun c' =>
        invoke getValue.index [c', .symbol k']) =
      invoke getValue.index [.catalog c, .symbol k']) ∧
    (∀ (c : Catalog) (k : Symbol), k ∉ c.map Prod.fst →
      invoke getValue.index [.catalog c, .symbol k] = .ok .none) ∧
    (∀ (c : Catalog) (k : Symbol) (v : Value), (c.map Prod.fst).Nodup →
      ∃ c', invoke setValue.index [.catalog c, .symbol k, v] = .ok (.catalog c') ∧
        (c'.map Prod.fst).Nodup ∧
        (k ∈ c.map Prod.fst →
          ∃ pre post old, c = pre ++ (k, old) :: post ∧ c' = pre ++ (k, v) :: post) ∧
        (k ∉ c.map Prod.fst → c' = c ++ [(k, v)])) ∧
    (∀ (items : List Value) (x : Value),
      invoke addItem.index [.list items, x] = .ok (.list (items ++ [x]))) ∧
    (∀ a b : List Value, invoke concatenation.index [.list a, .list b] = .ok (.list (a ++ b))) ∧
    (∀ s t : String, invoke concatenation.index [.text s, .text t] = .ok (.text (s ++ t))) ∧
    (∀ (c : Catalog) (key v : Value), key.tag ≠ .symbol →
      invoke getValue.index [.catalog c, key] =
          .error (.invalidArgument "$getValue" ("expected a symbol key, found " ++ key.tag.label)) ∧
        invoke setValue.index [.catalog c, key, v] =
          .error (.invalidArgument "$setValue" ("expected a symbol key, found " ++ key.tag.label))) ∧
    (∀ (s : String) (tail : Value), tail.tag ≠ .text →
      invoke concatenation.index [.text s, tail] =
        .error (.invalidArgument "$concatenation" "cannot join text with a non-text value")) ∧
    (∀ (items : List Value) (tail : Value), tail.tag ≠ .list →
      invoke concatenation.index [.list items, tail] =
        .error (.invalidArgument "$concatenation" "cannot join a list with a non-list value")) := by
  refine ⟨fun c k v => ?_, fun c k k' v hk => ?_, fun c k hk => ?_, fun c k v hc => ?_,
    invoke_addItem, invoke_concatenation_list, invoke_concatenation_text,
    fun c key v hkey => ⟨invoke_getValue_of_not_symbol c hkey,
      invoke_setValue_of_not_symbol c v hkey⟩,
    invoke_concatenation_text_of_not_text, invoke_concatenation_list_of_not_list⟩
  · -- the key written reads back
    rw [invoke_setValue]
    show invoke getValue.index [.catalog (c.insert k v), .symbol k] = _
    rw [invoke_getValue, Catalog.get?_insert, if_pos rfl]
    rfl
  · -- another key reads what it read before
    rw [invoke_setValue]
    show invoke getValue.index [.catalog (c.insert k v), .symbol k'] = _
    rw [invoke_getValue, invoke_getValue, Catalog.get?_insert, if_neg (Ne.symm hk)]
  · rw [invoke_getValue, Catalog.get?, Catalog.lookup_eq_none_iff.mpr hk]
    rfl
  · let keyed : Catalog.Keyed := ⟨c, hc⟩
    exact ⟨(keyed.insert k v).entries, invoke_setValue c k v, (keyed.insert k v).nodup,
      fun h => Catalog.insert_in_place hc h, Catalog.insert_of_not_mem⟩

/-- Writing one key of a catalog leaves another key reading what it held. -/
theorem writing_one_key_keeps_another :
    (⟨"a"⟩ : Symbol) ≠ ⟨"b"⟩ ∧
      (invoke Intrinsic.setValue.index [.catalog [(⟨"b"⟩, .boolean true)], .symbol ⟨"a"⟩, .none]
        >>= fun c' => invoke Intrinsic.getValue.index [c', .symbol ⟨"b"⟩]) =
        .ok (.boolean true) := by
  have hne : (⟨"a"⟩ : Symbol) ≠ ⟨"b"⟩ := by decide
  refine ⟨hne, ?_⟩
  rw [collection_intrinsics_obey_map_and_list_laws.2.1 _ _ _ _ hne]
  rfl

end TaskMachine
