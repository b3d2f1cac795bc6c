import Mathlib
import TaskMachine.Proofs.Value.Catalog
import TaskMachine.Intrinsic.Invoke

/-! # Equality of values

`Value.equal` is how the machine compares values: `$isEqual`, the interning of a method's
literals and the comparison of snapshots all go through it.  Numbers compare as doubles,
lists item by item, catalogs as maps.

A catalog of the machine is a map, so no key occurs in it twice: a `Catalog.Keyed` carries
that of its entries, and a `Value.Mapped` of every catalog inside its value
(`Value.distinctKeys`).  On such values equality is symmetric (`Value.equal_comm`);
it is transitive on every value (`Value.equal_trans`); and it is reflexive exactly on the
values that hold no `NaN` (`Value.equal_self_iff`), a `NaN` being unequal to itself.  It does
not tell `0` from `-0`.  Two catalogs are equal exactly when they have the same keys and equal
values under each, whatever the order of their entries (`Value.equal_catalog_iff`); two lists
when their items are equal one by one (`Value.equal_list_iff`).
`value_equality_is_map_equivalence` gathers these.

Statements about nested values are proved by `Value.inductionOn`, which hands a list the
induction hypothesis for each of its items and a catalog for each of its values. -/

set_option autoImplicit false

namespace TaskMachine

open Float.Model

/-! ## Doubles -/

theorem unpacked_compare_eq_eq_iff {u v : UnpackedFloat} :
    u.compare v = some .eq ↔
      u.isNaN = false ∧ (u = v ∨ ∃ s s', u = .zero s ∧ v = .zero s') := by
  rcases u with s | _ | s | ⟨s, m, e, hm⟩ <;> rcases v with t | _ | t | ⟨t, n, d, hn⟩ <;>
    (try cases s) <;> (try cases t) <;>
    simp [UnpackedFloat.compare, UnpackedFloat.isNaN, Ordering.then_eq_eq, and_comm] <;> rfl

namespace Float

theorem beq_iff_compare (x y : Float) :
    (x == y) = true ↔ x.toModel.unpack.compare y.toModel.unpack = some .eq := by
  show (x.toModel.unpack.compare y.toModel.unpack == some .eq) = true ↔ _
  simp

theorem isNaN_eq_unpack (x : Float) : x.isNaN = x.toModel.unpack.isNaN := rfl

theorem beq_comm (x y : Float) : (x == y) = (y == x) := by
  rw [Bool.eq_iff_iff, beq_iff_compare, beq_iff_compare, unpacked_compare_eq_eq_iff,
    unpacked_compare_eq_eq_iff]
  constructor
  · rintro ⟨hnan, heq | ⟨s, s', hx, hy⟩⟩
    · exact ⟨heq ▸ hnan, .inl heq.symm⟩
    · exact ⟨by simp [hy, UnpackedFloat.isNaN], .inr ⟨s', s, hy, hx⟩⟩
  · rintro ⟨hnan, heq | ⟨s, s', hy, hx⟩⟩
    · exact ⟨heq ▸ hnan, .inl heq.symm⟩
    · exact ⟨by simp [hx, UnpackedFloat.isNaN], .inr ⟨s', s, hx, hy⟩⟩

theorem beq_trans {x y z : Float} (xy : (x == y) = true) (yz : (y == z) = true) :
    (x == z) = true := by
  rw [beq_iff_compare, unpacked_compare_eq_eq_iff] at xy yz ⊢
  obtain ⟨hnan, xy⟩ := xy
  refine ⟨hnan, ?_⟩
  rcases xy with xy | ⟨s, s', hx, hy⟩
  · rw [xy]
    exact yz.2
  · -- past a zero, only a zero is equal
    rcases yz.2 with yz | ⟨t, t', hy', hz⟩
    · exact .inr ⟨s, s', hx, yz ▸ hy⟩
    · exact .inr ⟨s, t', hx, hz⟩

theorem beq_self (x : Float) : (x == x) = !x.isNaN := by
  rw [Bool.eq_iff_iff, beq_iff_compare, unpacked_compare_eq_eq_iff, isNaN_eq_unpack]
  simp

end Float

/-! ## Induction into lists and catalogs -/

@[elab_as_elim]
theorem Value.inductionOn {motive : Value → Prop} (v : Value) (none : motive .none)
    (boolean : ∀ b, motive (.boolean b)) (number : ∀ x, motive (.number x))
    (text : ∀ s, motive (.text s)) (symbol : ∀ s, motive (.symbol s))
    (name : ∀ n, motive (.name n))
    (list : ∀ items, (∀ x ∈ items, motive x) → motive (.list items))
    (catalog : ∀ entries : Catalog, (∀ e ∈ entries, motive e.2) → motive (.catalog entries)) :
    motive v :=
  Value.rec (motive_1 := motive) (motive_2 := fun items => ∀ x ∈ items, motive x)
    (motive_3 := fun entries => ∀ e ∈ entries, motive e.2) (motive_4 := fun e => motive e.2)
    none boolean number text symbol name list catalog
    (fun _ h => absurd h List.not_mem_nil)
    (fun _ _ hx hxs y hy => (List.mem_cons.mp hy).elim (fun h => h ▸ hx) (hxs y))
    (fun _ h => absurd h List.not_mem_nil)
    (fun _ _ he hes e' he' => (List.mem_cons.mp he').elim (fun h => h ▸ he) (hes e'))
    (fun _ _ h => h) v

/-! ## Items related one by one -/

section Forall₂

variable {α β : Type} {R S : α → β → Prop} {xs : List α} {ys : List β}

theorem forall₂_imp_of_mem (implies : ∀ x ∈ xs, ∀ y ∈ ys, R x y → S x y)
    (related : List.Forall₂ R xs ys) : List.Forall₂ S xs ys := by
  induction related with
  | nil => exact .nil
  | cons hxy _ ih =>
    exact .cons (implies _ List.mem_cons_self _ List.mem_cons_self hxy)
      (ih fun x hx y hy => implies x (List.mem_cons_of_mem _ hx) y (List.mem_cons_of_mem _ hy))

theorem forall₂_trans_of_mem {T : α → α → Prop} {zs : List α}
    (transitive : ∀ x ∈ xs, ∀ y z, T x y → T y z → T x z) (related₁ : List.Forall₂ T xs zs)
    {ws : List α} (related₂ : List.Forall₂ T zs ws) : List.Forall₂ T xs ws := by
  induction related₁ generalizing ws with
  | nil => exact related₂
  | cons hxy _ ih =>
    cases related₂ with
    | cons hyz hrest =>
      exact .cons (transitive _ List.mem_cons_self _ _ hxy hyz)
        (ih (fun x hx => transitive x (List.mem_cons_of_mem _ hx)) hrest)

end Forall₂

namespace Value

/-! ## `NaN`s and keys at every depth -/

mutual

def hasNaN : Value → Bool
  | .number x => x.isNaN
  | .list items => itemsHaveNaN items
  | .catalog entries => entriesHaveNaN entries
  | _ => false

def itemsHaveNaN : List Value → Bool
  | [] => false
  | x :: xs => x.hasNaN || itemsHaveNaN xs

def entriesHaveNaN : List (Symbol × Value) → Bool
  | [] => false
  | (_, v) :: rest => v.hasNaN || entriesHaveNaN rest

end

mutual

/-- Whether every catalog in a value, at any depth, has distinct keys, as a map does. -/
def distinctKeys : Value → Bool
  | .list items => itemsDistinctKeys items
  | .catalog entries => decide (entries.map Prod.fst).Nodup && entriesDistinctKeys entries
  | _ => true

def itemsDistinctKeys : List Value → Bool
  | [] => true
  | x :: xs => x.distinctKeys && itemsDistinctKeys xs

/-- Whether every catalog in the values of the entries has distinct keys. -/
def entriesDistinctKeys : List (Symbol × Value) → Bool
  | [] => true
  | (_, v) :: rest => v.distinctKeys && entriesDistinctKeys rest

end

@[simp]
theorem itemsHaveNaN_eq_false {items : List Value} :
    itemsHaveNaN items = false ↔ ∀ x ∈ items, x.hasNaN = false := by
  induction items with
  | nil => simp [itemsHaveNaN]
  | cons x xs ih => simp [itemsHaveNaN, ih]

@[simp]
theorem entriesHaveNaN_eq_false {entries : List (Symbol × Value)} :
    entriesHaveNaN entries = false ↔ ∀ e ∈ entries, e.2.hasNaN = false := by
  induction entries with
  | nil => simp [entriesHaveNaN]
  | cons e rest ih => simp [entriesHaveNaN, ih]

@[simp]
theorem distinctKeys_list {items : List Value} :
    (list items).distinctKeys = true ↔ ∀ x ∈ items, x.distinctKeys = true := by
  rw [distinctKeys]
  induction items with
  | nil => simp [itemsDistinctKeys]
  | cons x xs ih => simp [itemsDistinctKeys, ih]

@[simp]
theorem distinctKeys_catalog {entries : Catalog} :
    (catalog entries).distinctKeys = true ↔
      (entries.map Prod.fst).Nodup ∧ ∀ e ∈ entries, e.2.distinctKeys = true := by
  rw [distinctKeys, Bool.and_eq_true, decide_eq_true_iff]
  suffices h : entriesDistinctKeys entries = true ↔ ∀ e ∈ entries, e.2.distinctKeys = true by
    rw [h]
  induction entries with
  | nil => simp [entriesDistinctKeys]
  | cons e rest ih => simp [entriesDistinctKeys, ih]

structure Mapped where
  value : Value
  distinct : value.distinctKeys = true

/-! ## Equality, unfolded -/

section
-- Naming the definitions in a simp set makes their equation lemmas here, once, instead of
-- in each of the lemmas below, which would all ask for them at the same time.
attribute [local simp] equal equalItems entriesWithin
end

theorem equalItems_iff_forall₂ {xs ys : List Value} :
    equalItems xs ys = true ↔ List.Forall₂ (fun x y => x.equal y = true) xs ys := by
  induction xs generalizing ys with
  | nil => cases ys <;> simp [equalItems]
  | cons x xs ih => cases ys <;> simp [equalItems, ih]

theorem entriesWithin_iff {a b : Catalog} :
    entriesWithin a b = true ↔ ∀ e ∈ a, ∃ w, b.lookup e.1 = some w ∧ e.2.equal w = true := by
  induction a with
  | nil => simp [entriesWithin]
  | cons e rest ih =>
    obtain ⟨k, v⟩ := e
    cases h : b.lookup k <;> simp [entriesWithin, h, ih]

theorem equal_list_iff {xs ys : List Value} :
    (list xs).equal (list ys) = true ↔ List.Forall₂ (fun x y => x.equal y = true) xs ys := by
  rw [equal, equalItems_iff_forall₂]

theorem equal_catalog_iff_within {a b : Catalog} :
    (catalog a).equal (catalog b) = true ↔
      a.length = b.length ∧ ∀ e ∈ a, ∃ w, b.lookup e.1 = some w ∧ e.2.equal w = true := by
  rw [equal, Bool.and_eq_true, beq_iff_eq, entriesWithin_iff]

theorem equal_number_left {x : Float} {b : Value} :
    (number x).equal b = true ↔ ∃ y, b = number y ∧ (x == y) = true := by
  cases b <;> simp [equal]

theorem equal_list_left {xs : List Value} {b : Value} :
    (list xs).equal b = true ↔
      ∃ ys, b = list ys ∧ List.Forall₂ (fun x y => x.equal y = true) xs ys := by
  cases b <;> simp [equal, equalItems_iff_forall₂]

theorem equal_catalog_left {a : Catalog} {b : Value} :
    (catalog a).equal b = true ↔ ∃ b', b = catalog b' ∧ (catalog a).equal (catalog b') = true := by
  cases b <;> simp [equal]

theorem tag_eq_of_equal {a b : Value} (same : a.equal b = true) : a.tag = b.tag := by
  cases a <;> cases b <;> simp [equal, tag] at same ⊢

/-! ## An equivalence on the values without `NaN` -/

theorem equal_trans {a b c : Value} (ab : a.equal b = true) (bc : b.equal c = true) :
    a.equal c = true := by
  induction a using Value.inductionOn generalizing b c with
  | number x =>
    obtain ⟨y, rfl, hxy⟩ := equal_number_left.mp ab
    obtain ⟨z, rfl, hyz⟩ := equal_number_left.mp bc
    exact equal_number_left.mpr ⟨z, rfl, Float.beq_trans hxy hyz⟩
  | list xs ih =>
    obtain ⟨ys, rfl, hxy⟩ := equal_list_left.mp ab
    obtain ⟨zs, rfl, hyz⟩ := equal_list_left.mp bc
    exact equal_list_iff.mpr (forall₂_trans_of_mem (fun x hx _ _ => ih x hx) hxy hyz)
  | catalog a ih =>
    obtain ⟨b, rfl, ab⟩ := equal_catalog_left.mp ab
    obtain ⟨c, rfl, bc⟩ := equal_catalog_left.mp bc
    rw [equal_catalog_iff_within] at ab bc ⊢
    refine ⟨ab.1.trans bc.1, fun e he => ?_⟩
    obtain ⟨w, hw, hew⟩ := ab.2 e he
    obtain ⟨u, hu, hwu⟩ := bc.2 (e.1, w) (Catalog.mem_of_lookup hw)
    exact ⟨u, hu, ih e he hew hwu⟩
  | _ => cases b <;> cases c <;> simp_all [equal]

theorem equal_comm {a b : Value} (aDistinct : a.distinctKeys = true) (bDistinct : b.distinctKeys = true)
    (same : a.equal b = true) : b.equal a = true := by
  induction a using Value.inductionOn generalizing b with
  | number x =>
    obtain ⟨y, rfl, hxy⟩ := equal_number_left.mp same
    exact equal_number_left.mpr ⟨x, rfl, by rwa [Float.beq_comm]⟩
  | list xs ih =>
    obtain ⟨ys, rfl, hxy⟩ := equal_list_left.mp same
    rw [distinctKeys_list] at aDistinct bDistinct
    exact equal_list_iff.mpr
      (forall₂_imp_of_mem (fun x hx y hy hxy => ih x hx (aDistinct x hx) (bDistinct y hy) hxy) hxy).flip
  | catalog a ih =>
    obtain ⟨b, rfl, same⟩ := equal_catalog_left.mp same
    rw [distinctKeys_catalog] at aDistinct bDistinct
    rw [equal_catalog_iff_within] at same ⊢
    -- the keys of the first catalog are among the second's, as many and distinct: all of them
    have hkeys : b.map Prod.fst ⊆ a.map Prod.fst :=
      Catalog.keys_subset_of_length_le aDistinct.1
        (Catalog.keys_subset_of_lookup fun e he => (same.2 e he).imp fun _ h => h.1)
        (Nat.le_of_eq same.1.symm)
    refine ⟨same.1.symm, fun e he => ?_⟩
    obtain ⟨v, hv⟩ := Option.isSome_iff_exists.mp
      (Catalog.lookup_isSome_iff.mpr (hkeys (List.mem_map_of_mem he)))
    have hva := Catalog.mem_of_lookup hv
    obtain ⟨w, hw, hvw⟩ := same.2 _ hva
    have hwe : w = e.2 := Option.some.inj (hw.symm.trans (Catalog.lookup_of_mem bDistinct.1 he))
    subst hwe
    exact ⟨v, hv, ih _ hva (aDistinct.2 _ hva) (bDistinct.2 _ he) hvw⟩
  | _ => cases b <;> simp_all [equal]

theorem equal_self_iff {a : Value} (aDistinct : a.distinctKeys = true) :
    a.equal a = true ↔ a.hasNaN = false := by
  induction a using Value.inductionOn with
  | number x => simp [equal, hasNaN, Float.beq_self]
  | list xs ih =>
    rw [distinctKeys_list] at aDistinct
    rw [equal_list_iff, List.forall₂_same, hasNaN, itemsHaveNaN_eq_false]
    exact forall_congr' fun x => imp_congr_right fun hx => ih x hx (aDistinct x hx)
  | catalog a ih =>
    rw [distinctKeys_catalog] at aDistinct
    rw [equal_catalog_iff_within, hasNaN, entriesHaveNaN_eq_false]
    have hown : ∀ e ∈ a, a.lookup e.1 = some e.2 := fun e he => Catalog.lookup_of_mem aDistinct.1 he
    simp only [true_and]
    refine forall_congr' fun e => imp_congr_right fun he => ?_
    rw [← ih e he (aDistinct.2 e he)]
    simp [hown e he]
  | _ => simp [equal, hasNaN]

theorem equal_catalog_iff {a b : Catalog} (aDistinct : (a.map Prod.fst).Nodup)
    (bDistinct : (b.map Prod.fst).Nodup) :
    (catalog a).equal (catalog b) = true ↔
      (∀ k, k ∈ a.map Prod.fst ↔ k ∈ b.map Prod.fst) ∧
        ∀ k v w, a.lookup k = some v → b.lookup k = some w → v.equal w = true := by
  rw [equal_catalog_iff_within]
  constructor
  · rintro ⟨hlen, hwithin⟩
    have hsub : a.map Prod.fst ⊆ b.map Prod.fst :=
      Catalog.keys_subset_of_lookup fun e he => (hwithin e he).imp fun _ h => h.1
    refine ⟨fun k => ⟨fun hk => hsub hk,
      fun hk => Catalog.keys_subset_of_length_le aDistinct hsub (Nat.le_of_eq hlen.symm) hk⟩, ?_⟩
    intro k v w hv hw
    obtain ⟨w', hw', hvw⟩ := hwithin (k, v) (Catalog.mem_of_lookup hv)
    rwa [Option.some.inj (hw'.symm.trans hw)] at hvw
  · rintro ⟨hkeys, hvalues⟩
    have hperm := (List.perm_ext_iff_of_nodup aDistinct bDistinct).mpr hkeys
    refine ⟨by simpa using hperm.length_eq, fun e he => ?_⟩
    obtain ⟨w, hw⟩ := Option.isSome_iff_exists.mp
      (Catalog.lookup_isSome_iff.mpr ((hkeys e.1).mp (List.mem_map_of_mem he)))
    exact ⟨w, hw, hvalues e.1 e.2 w (Catalog.lookup_of_mem aDistinct he) hw⟩

end Value

/-- Value equality, as `$isEqual` answers it, is an equivalence on the values without `NaN`
whose catalogs are maps: symmetric on such values, transitive on all, reflexive exactly where
no `NaN` occurs.  It does not tell `0` from `-0`, compares catalogs as maps whatever the
order of their entries, and lists item by item. -/
theorem value_equality_is_map_equivalence :
    (∀ a b : Value, invoke Intrinsic.isEqual.index [a, b] = .ok (.boolean (a.equal b))) ∧
    (∀ a b : Value.Mapped, a.value.equal b.value = true → b.value.equal a.value = true) ∧
    (∀ a b c : Value, a.equal b = true → b.equal c = true → a.equal c = true) ∧
    (∀ a : Value.Mapped, a.value.equal a.value = true ↔ a.value.hasNaN = false) ∧
    (Value.number 0).equal (.number (-0)) = true ∧
    (∀ a b : Catalog.Keyed, (Value.catalog a.entries).equal (.catalog b.entries) = true ↔
        (∀ k, k ∈ a.entries.map Prod.fst ↔ k ∈ b.entries.map Prod.fst) ∧
          ∀ k v w, a.entries.lookup k = some v → b.entries.lookup k = some w →
            v.equal w = true) ∧
    (∀ xs ys : List Value, (Value.list xs).equal (.list ys) = true ↔
      List.Forall₂ (fun x y => x.equal y = true) xs ys) :=
  ⟨fun _ _ => rfl, fun a b => Value.equal_comm a.distinct b.distinct,
    fun _ _ _ => Value.equal_trans, fun a => Value.equal_self_iff a.distinct, by decide,
    fun a b => Value.equal_catalog_iff a.nodup b.nodup, fun _ _ => Value.equal_list_iff⟩

/-- Two catalogs of the same entries in the other order are equal, either way round. -/
theorem reordered_catalogs_equal :
    (Value.catalog (Catalog.Keyed.ofEntries
        [(⟨"y"⟩, .list [.text "z"]), (⟨"x"⟩, .number 1)]).entries).equal
      (.catalog (Catalog.Keyed.ofEntries
        [(⟨"x"⟩, .number 1), (⟨"y"⟩, .list [.text "z"])]).entries) = true :=
  value_equality_is_map_equivalence.2.1
    ⟨.catalog (Catalog.Keyed.ofEntries [(⟨"x"⟩, .number 1), (⟨"y"⟩, .list [.text "z"])]).entries,
      by decide⟩
    ⟨.catalog (Catalog.Keyed.ofEntries [(⟨"y"⟩, .list [.text "z"]), (⟨"x"⟩, .number 1)]).entries,
      by decide⟩
    (by decide)

end TaskMachine
