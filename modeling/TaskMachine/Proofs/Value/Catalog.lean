import Mathlib
import TaskMachine.Value.Basic

/-! # Catalogs as maps

A catalog is a list of entries, and a key finds the value of its first entry.  Every catalog
the machine builds has distinct keys; under that, an entry is exactly what its key finds
(`Catalog.lookup_of_mem`), and a catalog with as many entries as another whose keys it
covers has no other keys (`Catalog.keys_subset_of_length_le`).

Writing a key (`Catalog.insert`) is a map update: the key then finds the new value and every
other key what it found before (`Catalog.get?_insert`).  It keeps the order of the keys: a
key that is there keeps its place and has its value replaced there
(`Catalog.insert_in_place`), a new key goes at the end (`Catalog.insert_of_not_mem`), so the
keys stay distinct (`Catalog.nodup_keys_insert`). -/

set_option autoImplicit false

namespace TaskMachine

theorem lookup_map_replace {β : Type} (es : List (Symbol × β)) (key other : Symbol) (m : β) :
    (es.map fun e => if e.1 == key then (key, m) else e).lookup other =
      if other = key then (if es.any (·.1 == key) then some m else none)
      else es.lookup other := by
  induction es with
  | nil => simp
  | cons e rest ih =>
    obtain ⟨k, x⟩ := e
    -- the entry is replaced when it is under `key`; the lookup then stops at it or passes
    by_cases hk : k = key
    · subst hk
      by_cases ho : other = k
      · subst ho
        simp only [List.map_cons, beq_self_eq_true, if_true, List.lookup_cons, List.any_cons,
          Bool.true_or]
      · simp only [List.map_cons, beq_self_eq_true, if_true, List.lookup_cons,
          beq_false_of_ne ho, ih, ho, if_false]
    · have hkb : (k == key) = false := beq_false_of_ne hk
      by_cases ho : other = key
      · subst ho
        simp only [List.map_cons, hkb, Bool.false_eq_true, if_false, List.lookup_cons,
          beq_false_of_ne (Ne.symm hk), ih, if_true, List.any_cons, Bool.false_or]
      · simp only [List.map_cons, hkb, Bool.false_eq_true, if_false, List.lookup_cons, ih, ho]

namespace Catalog

variable {c a b : Catalog} {k : Symbol} {v : Value}

/-! ## Keys and entries -/

theorem mem_of_lookup (found : c.lookup k = some v) : (k, v) ∈ c := by
  obtain ⟨l₁, l₂, rfl, -⟩ := List.lookup_eq_some_iff.mp found
  simp

theorem lookup_of_mem (distinct : (c.map Prod.fst).Nodup) (member : (k, v) ∈ c) : c.lookup k = some v := by
  induction c with
  | nil => cases member
  | cons e rest ih =>
    obtain ⟨k', v'⟩ := e
    rw [List.map_cons, List.nodup_cons] at distinct
    rcases List.mem_cons.mp member with heq | hrest
    · cases heq
      simp
    · -- the key is not the first one, which occurs nowhere else
      have hne : k ≠ k' := fun hk => distinct.1 (hk ▸ List.mem_map.mpr ⟨(k, v), hrest, rfl⟩)
      simp [List.lookup_cons, beq_false_of_ne hne, ih distinct.2 hrest]

theorem lookup_isSome_iff : (c.lookup k).isSome ↔ k ∈ c.map Prod.fst := by
  rw [List.lookup_isSome_iff, List.mem_map]
  simp only [beq_iff_eq]
  exact ⟨fun ⟨e, he, hk⟩ => ⟨e, he, hk.symm⟩, fun ⟨e, he, hk⟩ => ⟨e, he, hk.symm⟩⟩

theorem lookup_eq_none_iff : c.lookup k = none ↔ k ∉ c.map Prod.fst := by
  rw [← Option.not_isSome_iff_eq_none, lookup_isSome_iff]

theorem keys_subset_of_lookup (allFound : ∀ e ∈ b, ∃ w, a.lookup e.1 = some w) :
    b.map Prod.fst ⊆ a.map Prod.fst := by
  intro k hk
  obtain ⟨e, he, rfl⟩ := List.mem_map.mp hk
  obtain ⟨w, hw⟩ := allFound e he
  exact lookup_isSome_iff.mp (by simp [hw])

theorem keys_subset_of_length_le (distinct : (a.map Prod.fst).Nodup)
    (subset : a.map Prod.fst ⊆ b.map Prod.fst) (shorter : b.length ≤ a.length) :
    b.map Prod.fst ⊆ a.map Prod.fst :=
  ((distinct.subperm subset).perm_of_length_le (by simpa using shorter)).symm.subset

/-! ## Writing a key -/

theorem any_key_iff : c.any (·.1 == k) = true ↔ k ∈ c.map Prod.fst := by
  simp [List.any_eq_true, List.mem_map]

theorem insert_of_mem (member : k ∈ c.map Prod.fst) :
    c.insert k v = c.map fun e => if e.1 == k then (k, v) else e := by
  rw [insert, if_pos (any_key_iff.mpr member)]

theorem insert_of_not_mem (absent : k ∉ c.map Prod.fst) : c.insert k v = c ++ [(k, v)] := by
  rw [insert, if_neg (mt any_key_iff.mp absent)]

theorem keys_insert_of_mem (member : k ∈ c.map Prod.fst) :
    (c.insert k v).map Prod.fst = c.map Prod.fst := by
  rw [insert_of_mem member, List.map_map]
  refine List.map_congr_left fun e _ => ?_
  by_cases he : e.1 = k <;> simp [he]

theorem keys_insert_of_not_mem (absent : k ∉ c.map Prod.fst) :
    (c.insert k v).map Prod.fst = c.map Prod.fst ++ [k] := by
  rw [insert_of_not_mem absent, List.map_append]
  rfl

theorem nodup_keys_insert (distinct : (c.map Prod.fst).Nodup) :
    ((c.insert k v).map Prod.fst).Nodup := by
  by_cases h : k ∈ c.map Prod.fst
  · rwa [keys_insert_of_mem h]
  · rw [keys_insert_of_not_mem h, List.nodup_append]
    refine ⟨distinct, List.nodup_singleton k, fun a ha b hb hab => h ?_⟩
    rw [List.mem_singleton] at hb
    exact hb ▸ hab ▸ ha

theorem get?_insert (c : Catalog) (k : Symbol) (v : Value) (k' : Symbol) :
    (c.insert k v).get? k' = if k' = k then some v else c.get? k' := by
  unfold get?
  by_cases h : k ∈ c.map Prod.fst
  · rw [insert_of_mem h, lookup_map_replace, if_pos (any_key_iff.mpr h)]
  · rw [insert_of_not_mem h, List.lookup_append]
    by_cases hk : k' = k
    · subst hk
      simp [lookup_eq_none_iff.mpr h]
    · simp [hk, List.lookup_cons, beq_false_of_ne hk]

theorem insert_in_place (distinct : (c.map Prod.fst).Nodup) (member : k ∈ c.map Prod.fst) :
    ∃ pre post old, c = pre ++ (k, old) :: post ∧ c.insert k v = pre ++ (k, v) :: post := by
  obtain ⟨old, hold⟩ := Option.isSome_iff_exists.mp (lookup_isSome_iff.mpr member)
  obtain ⟨pre, post, rfl, hpre⟩ := List.lookup_eq_some_iff.mp hold
  refine ⟨pre, post, old, rfl, ?_⟩
  have hpost : k ∉ post.map Prod.fst := by
    rw [List.map_append, List.map_cons, List.nodup_append] at distinct
    exact (List.nodup_cons.mp distinct.2.1).1
  have hkeep : ∀ l : Catalog, k ∉ l.map Prod.fst →
      (l.map fun e => if e.1 == k then (k, v) else e) = l := by
    intro l hl
    conv_rhs => rw [← List.map_id l]
    refine List.map_congr_left fun e he => if_neg ?_
    simpa using fun hek : e.1 = k => hl (hek ▸ List.mem_map_of_mem he)
  have hpre' : k ∉ pre.map Prod.fst := fun hk => by
    obtain ⟨e, he, rfl⟩ := List.mem_map.mp hk
    simpa using hpre e he
  rw [insert_of_mem member, List.map_append, List.map_cons, hkeep pre hpre', hkeep post hpost]
  simp

theorem nodup_keys_foldl_insert (entries : List (Symbol × Value)) (distinct : (c.map Prod.fst).Nodup) :
    ((entries.foldl (fun c e => c.insert e.1 e.2) c).map Prod.fst).Nodup := by
  induction entries generalizing c with
  | nil => exact distinct
  | cons e rest ih => exact ih (nodup_keys_insert distinct)

/-! ## Keyed catalogs -/

/-- A catalog whose keys are distinct, as writing keys one at a time builds it. -/
structure Keyed where
  entries : Catalog
  nodup : (entries.map Prod.fst).Nodup

namespace Keyed

def insert (c : Keyed) (k : Symbol) (v : Value) : Keyed :=
  ⟨c.entries.insert k v, nodup_keys_insert c.nodup⟩

def ofEntries (entries : List (Symbol × Value)) : Keyed :=
  ⟨Catalog.ofEntries entries, nodup_keys_foldl_insert entries List.nodup_nil⟩

end Keyed

end Catalog

end TaskMachine
