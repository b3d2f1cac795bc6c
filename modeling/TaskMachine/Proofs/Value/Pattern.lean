import Mathlib
import TaskMachine.Proofs.Value.Equality

/-! # Matching orders values

`Value.matchesPattern v p`, which `$doesMatch` answers, reads "`v` is at least as specific as
`p`": `none` stands for anything, a catalog pattern for every catalog that has at least its
keys with matching values, a list pattern for the lists of its length that match item by
item, and any other pattern for the values equal to it.

Over values whose catalogs are maps (`Value.Mapped`) this is a partial order up to the
machine's equality: reflexive on the values without `NaN` (`Value.matchesPattern_self`),
transitive (`Value.matchesPattern_trans`), antisymmetric up to equality
(`Value.equal_of_matchesPattern_of_matchesPattern`), and it holds between equal values
(`Value.matchesPattern_of_equal`), so it does not tell equal values apart.  `none` is its
top: everything matches `none`, and `none` matches nothing else.
`matching_is_partial_order_up_to_equality` gathers these. -/

set_option autoImplicit false

namespace TaskMachine

namespace Value

/-! ## Matching, unfolded -/

section
-- As for equality: the equation lemmas of matching are made once, before the lemmas that
-- unfold it in parallel.
attribute [local simp] matchesPattern entriesMatch itemsMatch
end

theorem entriesMatch_iff {actual expected : Catalog} :
    entriesMatch actual expected = true ↔
      ∀ e ∈ expected, ∃ v, actual.lookup e.1 = some v ∧ v.matchesPattern e.2 = true := by
  induction expected with
  | nil => simp [entriesMatch]
  | cons e rest ih =>
    obtain ⟨k, p⟩ := e
    cases h : actual.lookup k <;> simp [entriesMatch, h, ih]

theorem itemsMatch_iff {xs ps : List Value} :
    itemsMatch xs ps = true ↔ List.Forall₂ (fun x p => x.matchesPattern p = true) xs ps := by
  induction xs generalizing ps with
  | nil => cases ps <;> simp [itemsMatch]
  | cons x xs ih => cases ps <;> simp [itemsMatch, ih]

@[simp]
theorem matchesPattern_none (v : Value) : v.matchesPattern .none = true := by
  cases v <;> rfl

@[simp]
theorem none_matchesPattern_iff {p : Value} : Value.none.matchesPattern p = true ↔ p = .none := by
  cases p <;> simp [matchesPattern, equal]

theorem matchesPattern_list_right {v : Value} {ps : List Value} :
    v.matchesPattern (list ps) = true ↔
      ∃ xs, v = list xs ∧ List.Forall₂ (fun x p => x.matchesPattern p = true) xs ps := by
  cases v <;> simp [matchesPattern, equal, itemsMatch_iff]

theorem matchesPattern_catalog_right {v : Value} {expected : Catalog} :
    v.matchesPattern (catalog expected) = true ↔
      ∃ actual, v = catalog actual ∧
        ∀ e ∈ expected, ∃ w, actual.lookup e.1 = some w ∧ w.matchesPattern e.2 = true := by
  cases v <;> simp [matchesPattern, equal, entriesMatch_iff]

theorem matchesPattern_eq_equal {p : Value}
    (plain : p.tag ≠ .none ∧ p.tag ≠ .list ∧ p.tag ≠ .catalog) (v : Value) :
    v.matchesPattern p = v.equal p := by
  cases p <;> simp [tag] at plain <;> cases v <;> rfl

/-! ## A partial order up to equality -/

theorem matchesPattern_trans_of_plain {a b c : Value}
    (plain : c.tag ≠ .none ∧ c.tag ≠ .list ∧ c.tag ≠ .catalog) (ab : a.matchesPattern b = true)
    (bc : b.matchesPattern c = true) : a.matchesPattern c = true := by
  rw [matchesPattern_eq_equal plain] at bc ⊢
  have hb : b.tag ≠ .none ∧ b.tag ≠ .list ∧ b.tag ≠ .catalog := tag_eq_of_equal bc ▸ plain
  rw [matchesPattern_eq_equal hb] at ab
  exact equal_trans ab bc

theorem matchesPattern_trans {a b c : Value} (ab : a.matchesPattern b = true)
    (bc : b.matchesPattern c = true) : a.matchesPattern c = true := by
  induction c using Value.inductionOn generalizing a b with
  | none => simp
  | list ps ih =>
    obtain ⟨ys, rfl, hyp⟩ := matchesPattern_list_right.mp bc
    obtain ⟨xs, rfl, hxy⟩ := matchesPattern_list_right.mp ab
    have hpx := forall₂_trans_of_mem (T := fun p x : Value => x.matchesPattern p = true)
      (fun p hp _ _ hpy hyx => ih p hp hyx hpy) (List.Forall₂.flip hyp) (List.Forall₂.flip hxy)
    exact matchesPattern_list_right.mpr ⟨xs, rfl, List.Forall₂.flip hpx⟩
  | catalog expected ih =>
    obtain ⟨middle, rfl, hmid⟩ := matchesPattern_catalog_right.mp bc
    obtain ⟨actual, rfl, hact⟩ := matchesPattern_catalog_right.mp ab
    refine matchesPattern_catalog_right.mpr ⟨actual, rfl, fun e he => ?_⟩
    obtain ⟨w, hw, hwe⟩ := hmid e he
    obtain ⟨u, hu, huw⟩ := hact (e.1, w) (Catalog.mem_of_lookup hw)
    exact ⟨u, hu, ih e he huw hwe⟩
  | _ => exact matchesPattern_trans_of_plain (by simp [tag]) ab bc

theorem matchesPattern_of_equal {a b : Value} (aDistinct : a.distinctKeys = true)
    (bDistinct : b.distinctKeys = true) (same : a.equal b = true) : a.matchesPattern b = true := by
  induction a using Value.inductionOn generalizing b with
  | none => cases b <;> simp_all [equal]
  | list xs ih =>
    obtain ⟨ys, rfl, hxy⟩ := equal_list_left.mp same
    rw [distinctKeys_list] at aDistinct bDistinct
    exact matchesPattern_list_right.mpr
      ⟨xs, rfl, forall₂_imp_of_mem (fun x hx y hy h => ih x hx (aDistinct x hx) (bDistinct y hy) h) hxy⟩
  | catalog a ih =>
    obtain ⟨b, rfl, same⟩ := equal_catalog_left.mp same
    rw [distinctKeys_catalog] at aDistinct bDistinct
    rw [equal_catalog_iff aDistinct.1 bDistinct.1] at same
    refine matchesPattern_catalog_right.mpr ⟨a, rfl, fun e he => ?_⟩
    obtain ⟨v, hv⟩ := Option.isSome_iff_exists.mp
      (Catalog.lookup_isSome_iff.mpr ((same.1 e.1).mpr (List.mem_map_of_mem he)))
    have hva := Catalog.mem_of_lookup hv
    exact ⟨v, hv, ih _ hva (aDistinct.2 _ hva) (bDistinct.2 e he)
      (same.2 e.1 v e.2 hv (Catalog.lookup_of_mem bDistinct.1 he))⟩
  | _ =>
    have hb' : b.tag ≠ .none ∧ b.tag ≠ .list ∧ b.tag ≠ .catalog := by
      rw [← tag_eq_of_equal same]
      simp [tag]
    rw [matchesPattern_eq_equal hb']
    exact same

theorem matchesPattern_self {a : Value} (aDistinct : a.distinctKeys = true) (noNaN : a.hasNaN = false) :
    a.matchesPattern a = true :=
  matchesPattern_of_equal aDistinct aDistinct ((equal_self_iff aDistinct).mpr noNaN)

theorem equal_of_matchesPattern_of_matchesPattern {a b : Value} (aDistinct : a.distinctKeys = true)
    (bDistinct : b.distinctKeys = true) (ab : a.matchesPattern b = true)
    (ba : b.matchesPattern a = true) : a.equal b = true := by
  induction a using Value.inductionOn generalizing b with
  | none =>
    rw [none_matchesPattern_iff.mp ab]
    rfl
  | list xs ih =>
    cases b with
    | none => simp at ba
    | list ys =>
      obtain ⟨_, hx, hxy⟩ := matchesPattern_list_right.mp ab
      obtain ⟨_, hy, hyx⟩ := matchesPattern_list_right.mp ba
      cases hx
      cases hy
      rw [distinctKeys_list] at aDistinct bDistinct
      have hboth := List.Forall₂.mp (fun _ _ h₁ h₂ => And.intro h₁ h₂) hxy hyx.flip
      exact equal_list_iff.mpr (forall₂_imp_of_mem
        (fun x hx y hy h => ih x hx (aDistinct x hx) (bDistinct y hy) h.1 h.2) hboth)
    | _ => simp [matchesPattern, equal] at ab
  | catalog a ih =>
    cases b with
    | none => simp at ba
    | catalog b =>
      obtain ⟨_, hx, ab⟩ := matchesPattern_catalog_right.mp ab
      obtain ⟨_, hy, ba⟩ := matchesPattern_catalog_right.mp ba
      cases hx
      cases hy
      rw [distinctKeys_catalog] at aDistinct bDistinct
      have hab' := Catalog.keys_subset_of_lookup fun e he => (ab e he).imp fun _ h => h.1
      have hba' := Catalog.keys_subset_of_lookup fun e he => (ba e he).imp fun _ h => h.1
      rw [equal_catalog_iff aDistinct.1 bDistinct.1]
      refine ⟨fun k => ⟨fun hk => hba' hk, fun hk => hab' hk⟩, ?_⟩
      intro k v w hv hw
      have hva := Catalog.mem_of_lookup hv
      obtain ⟨w', hw', hmatch⟩ := ba (k, v) hva
      cases hw.symm.trans hw'
      obtain ⟨v', hv', hmatch'⟩ := ab (k, w) (Catalog.mem_of_lookup hw)
      cases hv.symm.trans hv'
      exact ih _ hva (aDistinct.2 _ hva) (bDistinct.2 _ (Catalog.mem_of_lookup hw)) hmatch' hmatch
    | _ => simp [matchesPattern, equal] at ab
  | _ =>
    cases b with
    | none => simp at ba
    | list ys => simp [matchesPattern, equal] at ab
    | catalog b => simp [matchesPattern, equal] at ab
    | _ => simpa [matchesPattern] using ab

end Value

/-- Matching, as `$doesMatch` answers it, is a partial order up to value equality on the values
whose catalogs are maps: reflexive where no `NaN` occurs, transitive, antisymmetric up to
equality and holding between equal values, with `none` on top. -/
theorem matching_is_partial_order_up_to_equality :
    (∀ a b : Value,
      invoke Intrinsic.doesMatch.index [a, b] = .ok (.boolean (a.matchesPattern b))) ∧
    (∀ a : Value.Mapped, a.value.hasNaN = false → a.value.matchesPattern a.value = true) ∧
    (∀ a b c : Value,
      a.matchesPattern b = true → b.matchesPattern c = true → a.matchesPattern c = true) ∧
    (∀ a b : Value.Mapped, a.value.matchesPattern b.value = true →
      b.value.matchesPattern a.value = true → a.value.equal b.value = true) ∧
    (∀ a b : Value.Mapped, a.value.equal b.value = true → a.value.matchesPattern b.value = true) ∧
    (∀ a : Value, a.matchesPattern .none = true) ∧
    (∀ b : Value, Value.none.matchesPattern b = true ↔ b = .none) :=
  ⟨fun _ _ => rfl, fun a => Value.matchesPattern_self a.distinct,
    fun _ _ _ => Value.matchesPattern_trans,
    fun a b => Value.equal_of_matchesPattern_of_matchesPattern a.distinct b.distinct,
    fun a b => Value.matchesPattern_of_equal a.distinct b.distinct, Value.matchesPattern_none,
    fun _ => Value.none_matchesPattern_iff⟩

/-- An exception matches the pattern of its kind, which does not match it back: the two are
not equal. -/
theorem exception_matches_its_kind :
    (Value.catalog [(⟨"exception"⟩, .symbol ⟨"missingDocument"⟩), (⟨"text"⟩, .text "gone")]).matchesPattern
        (.catalog [(⟨"exception"⟩, .symbol ⟨"missingDocument"⟩)]) = true ∧
      (Value.catalog [(⟨"exception"⟩, .symbol ⟨"missingDocument"⟩)]).matchesPattern
        (.catalog [(⟨"exception"⟩, .symbol ⟨"missingDocument"⟩), (⟨"text"⟩, .text "gone")]) = false := by
  have matched : (Value.catalog [(⟨"exception"⟩, .symbol ⟨"missingDocument"⟩),
      (⟨"text"⟩, .text "gone")]).matchesPattern
        (.catalog [(⟨"exception"⟩, .symbol ⟨"missingDocument"⟩)]) = true := by decide
  refine ⟨matched, ?_⟩
  -- matching back would make the two equal, and they differ in length
  cases back : (Value.catalog [(⟨"exception"⟩, .symbol ⟨"missingDocument"⟩)]).matchesPattern
      (.catalog [(⟨"exception"⟩, .symbol ⟨"missingDocument"⟩), (⟨"text"⟩, .text "gone")])
  · rfl
  · have same := matching_is_partial_order_up_to_equality.2.2.2.1
      ⟨.catalog [(⟨"exception"⟩, .symbol ⟨"missingDocument"⟩), (⟨"text"⟩, .text "gone")], by decide⟩
      ⟨.catalog [(⟨"exception"⟩, .symbol ⟨"missingDocument"⟩)], by decide⟩ matched back
    exact absurd same (by decide)

end TaskMachine
