import Mathlib
import TaskMachine.Proofs.Assembly.Canonical
import TaskMachine.Fault

/-! # Assembled words say what their lines say

A line of assembly spells an instruction by a small grammar (`Spelling`): keywords, and
operands that are written numbers, label names or symbols.  A written number reads as its
value, which must lie in `1..=2047`; a label reads as its address; a symbol as whatever
index the resolver gives it, again in `1..=2047` (`Reads`).

Every line the assembler accepts spells the instruction it assembles to (`parseLine_spells`),
with the label table of the first pass, which holds exactly the source's labels at the
address one past the instruction lines before each (`lookup_iff_labelAt`).  So when every
label's address fits in an operand, every word of the output decodes back to the
instruction its line spells (`assembled_words_read_back`).

Label addresses are not range-checked: a label after 2047 instructions stands for 2048 or
more, and the operand field keeps only its low eleven bits.  A handler push to such a label
assembles to a word that does not decode (`late_label_assembles_undecodable`). -/

set_option autoImplicit false

namespace TaskMachine.Assembly

/-- How an operand token reads: a written number as its value, in `1..=2047`; any other token
as what `named` makes of it. -/
inductive Reads (named : String → Nat → Prop) : String → Nat → Prop
  | number {t : String} {n : Nat} : startsWithDigit t = true → unsignedValue? t = some n →
      1 ≤ n → n ≤ maxOperand → Reads named t n
  | name {t : String} {n : Nat} : startsWithDigit t = false → named t n → Reads named t n

/-- What a resolver may make of a symbolic table index: any index in `1..=2047`. -/
def InRange (_ : String) (n : Nat) : Prop :=
  1 ≤ n ∧ n ≤ maxOperand

/-- The lines that spell an instruction, where `labelAt` says what address a label name
stands for: `Spelling labelAt i tokens` when `tokens` is a way of writing `i`. -/
inductive Spelling (labelAt : String → Nat → Prop) : Instruction → List String → Prop
  | skip : Spelling labelAt .skip ["SKIP", "INSTRUCTION"]
  | jump {a : String} {n : Nat} (c : Condition) :
      Reads labelAt a n → Spelling labelAt (.jump n c) (["JUMP", "TO", a] ++ c.words)
  | pushHandler {a : String} {n : Nat} :
      Reads labelAt a n → Spelling labelAt (.push .handler n) ["PUSH", "HANDLER", a]
  | push {s : PushSource} {o : String} {n : Nat} : s ≠ .handler →
      Reads InRange o n → Spelling labelAt (.push s n) ["PUSH", s.keyword, o]
  | pull (t : PullTarget) : Spelling labelAt (.pull t) ["PULL", t.keyword]
  | load (s : Storage) {o : String} {n : Nat} :
      Reads InRange o n → Spelling labelAt (.load s n) ["LOAD", s.keyword, o]
  | save (s : Storage) {o : String} {n : Nat} :
      Reads InRange o n → Spelling labelAt (.save s n) ["SAVE", s.keyword, o]
  | drop (s : Storage) {o : String} {n : Nat} :
      Reads InRange o n → Spelling labelAt (.drop s n) ["DROP", s.keyword, o]
  | call {name : String} {k : Nat} :
      Intrinsic.indexOf? name = some k → Spelling labelAt (.call k 0) ["CALL", name]
  | callWith {name count plural : String} {k n : Nat} : Intrinsic.indexOf? name = some k →
      unsignedValue? count = some n → n ≤ 3 → (plural = "ARGUMENT" ∨ plural = "ARGUMENTS") →
      Spelling labelAt (.call k n) ["CALL", name, "WITH", count, plural]
  | send {m : String} {n : Nat} (t : SendTarget) :
      Reads InRange m n → Spelling labelAt (.send n t) (["SEND", m] ++ t.words)

theorem Reads.mono {P Q : String → Nat → Prop} (implies : ∀ t n, P t n → Q t n) {t : String}
    {n : Nat} : Reads P t n → Reads Q t n
  | .number hdigit hvalue h1 h2 => .number hdigit hvalue h1 h2
  | .name hdigit hname => .name hdigit (implies _ _ hname)

theorem Reads.bounds {P : String → Nat → Prop} (bounded : ∀ t n, P t n → 1 ≤ n ∧ n ≤ maxOperand)
    {t : String} {n : Nat} : Reads P t n → 1 ≤ n ∧ n ≤ maxOperand
  | .number _ _ h1 h2 => ⟨h1, h2⟩
  | .name _ hname => bounded _ _ hname

theorem Spelling.mono {P Q : String → Nat → Prop} (implies : ∀ t n, P t n → Q t n)
    {i : Instruction} {tokens : List String} : Spelling P i tokens → Spelling Q i tokens
  | .skip => .skip
  | .jump c hr => .jump c (hr.mono implies)
  | .pushHandler hr => .pushHandler (hr.mono implies)
  | .push hs hr => .push hs hr
  | .pull t => .pull t
  | .load s hr => .load s hr
  | .save s hr => .save s hr
  | .drop s hr => .drop s hr
  | .call hk => .call hk
  | .callWith hk hn hle hplural => .callWith hk hn hle hplural
  | .send t hr => .send t hr

theorem Intrinsic.indexOf?_bounds {name : String} {k : Nat}
    (found : Intrinsic.indexOf? name = some k) : 1 ≤ k ∧ k ≤ Intrinsic.count := by
  unfold Intrinsic.indexOf? at found
  obtain ⟨x, -, rfl⟩ := Option.map_eq_some_iff.mp found
  cases x <;> decide

theorem Spelling.fits {P : String → Nat → Prop}
    (bounded : ∀ t n, P t n → 1 ≤ n ∧ n ≤ maxOperand) {i : Instruction} {tokens : List String} :
    Spelling P i tokens → i.Fits
  | .skip | .pull _ => trivial
  | .jump _ hr | .pushHandler hr => hr.bounds bounded
  | .push _ hr | .load _ hr | .save _ hr | .drop _ hr | .send _ hr => hr.bounds fun _ _ h => h
  | .call hk => ⟨(Intrinsic.indexOf?_bounds hk).1, (Intrinsic.indexOf?_bounds hk).2, by omega⟩
  | .callWith hk _ hle _ => ⟨(Intrinsic.indexOf?_bounds hk).1, (Intrinsic.indexOf?_bounds hk).2, hle⟩

/-! ## The assembling monad -/

section Monad

variable {σ α β : Type} {s s' : σ}

theorem run_bind_eq_ok {x : Assembling σ α} {f : α → Assembling σ β} {b : β}
    (ran : (x >>= f).run s = .ok (b, s')) :
    ∃ a s₁, x.run s = .ok (a, s₁) ∧ (f a).run s₁ = .ok (b, s') := by
  simp only [StateT.run_bind] at ran
  rcases hx : x.run s with e | ⟨a, s₁⟩
  · simp [hx, bind, Except.bind] at ran
  · exact ⟨a, s₁, rfl, by simpa [hx, bind, Except.bind] using ran⟩

theorem run_pure_eq_ok {a b : α} (ran : (pure a : Assembling σ α).run s = .ok (b, s')) :
    a = b ∧ s = s' := by
  have hpure : (pure a : Assembling σ α).run s = .ok (a, s) := rfl
  rw [hpure] at ran
  simpa using ran

theorem run_throw_ne_ok {e : AssembleError} {b : α} :
    (throw e : Assembling σ α).run s ≠ .ok (b, s') := by
  simp [StateT.run, throw, throwThe, MonadExceptOf.throw, StateT.lift, bind, Except.bind]

theorem run_get_eq_ok {a : σ} (ran : (get : Assembling σ σ).run s = .ok (a, s')) :
    a = s ∧ s' = s := by
  have hget : (get : Assembling σ σ).run s = .ok (s, s) := rfl
  rw [hget] at ran
  simp only [Except.ok.injEq, Prod.mk.injEq] at ran
  exact ⟨ran.1.symm, ran.2.symm⟩

theorem run_set_eq_ok {t : σ} {u : PUnit} (ran : (set t : Assembling σ PUnit).run s = .ok (u, s')) :
    s' = t := by
  have hset : (set t : Assembling σ PUnit).run s = .ok (PUnit.unit, t) := rfl
  rw [hset] at ran
  simp only [Except.ok.injEq, Prod.mk.injEq] at ran
  exact ran.2.symm

theorem operand_eq_ok {x : Assembling σ α} {mk : α → β} {b : β}
    (ran : (do return mk (← x)).run s = .ok (b, s')) :
    ∃ a, x.run s = .ok (a, s') ∧ b = mk a := by
  obtain ⟨a, s₁, hx, hpure⟩ := run_bind_eq_ok ran
  obtain ⟨rfl, rfl⟩ := run_pure_eq_ok hpure
  exact ⟨a, hx, rfl⟩

end Monad

/-! ## Operands the assembler accepts -/

section Operands

variable {σ : Type} {s s' : σ} {line : Nat} {t : String} {n : Nat}

theorem number_eq_ok (ran : (number line t : Assembling σ Nat).run s = .ok (n, s')) :
    unsignedValue? t = some n ∧ 1 ≤ n ∧ n ≤ maxOperand ∧ s' = s := by
  unfold number at ran
  split at ran
  · next m hm =>
    split at ran
    · next hrange =>
      obtain ⟨rfl, rfl⟩ := run_pure_eq_ok ran
      simp only [Bool.and_eq_true, decide_eq_true_eq] at hrange
      exact ⟨hm, hrange.1, hrange.2, rfl⟩
    · exact absurd ran run_throw_ne_ok
  · exact absurd ran run_throw_ne_ok

theorem index_eq_ok {resolve : σ → Option Nat × σ}
    (ran : (index line t resolve).run s = .ok (n, s')) :
    1 ≤ n ∧ n ≤ maxOperand ∧
      ((startsWithDigit t = true ∧ unsignedValue? t = some n ∧ s' = s) ∨
        (startsWithDigit t = false ∧ resolve s = (some n, s'))) := by
  unfold index at ran
  split at ran
  · next hdigit =>
    obtain ⟨hv, h1, h2, rfl⟩ := number_eq_ok ran
    exact ⟨h1, h2, .inl ⟨hdigit, hv, rfl⟩⟩
  · next hdigit =>
    obtain ⟨st, s₁, hget, ran⟩ := run_bind_eq_ok ran
    obtain ⟨hst, -⟩ := run_get_eq_ok hget
    rcases hr : resolve st with ⟨found, s₂⟩
    simp only [hr] at ran
    obtain ⟨_, s₃, hset, ran⟩ := run_bind_eq_ok ran
    have hs₃ := run_set_eq_ok hset
    split at ran
    · split at ran
      · next hrange =>
        obtain ⟨hn, hs'⟩ := run_pure_eq_ok ran
        simp only [Bool.and_eq_true, decide_eq_true_eq] at hrange
        refine ⟨hn ▸ hrange.1, hn ▸ hrange.2, .inr ⟨by simpa using hdigit, ?_⟩⟩
        rw [← hst, hr, hn, ← hs', hs₃]
      · exact absurd ran run_throw_ne_ok
    · exact absurd ran run_throw_ne_ok

theorem index_reads {resolve : σ → Option Nat × σ}
    (ran : (index line t resolve).run s = .ok (n, s')) : Reads InRange t n := by
  obtain ⟨h1, h2, ⟨hdigit, hv, -⟩ | ⟨hdigit, -⟩⟩ := index_eq_ok ran
  · exact .number hdigit hv h1 h2
  · exact .name hdigit ⟨h1, h2⟩

theorem literalIndex_reads {r : Resolver σ}
    (ran : (literalIndex r line t).run s = .ok (n, s')) : Reads InRange t n :=
  index_reads ran

theorem address_reads {labels : Labels} (ran : (address labels line t).run s = .ok (n, s')) :
    Reads (fun name address => labels.lookup name = some address) t n := by
  unfold address at ran
  split at ran
  · next hdigit =>
    obtain ⟨hv, h1, h2, -⟩ := number_eq_ok ran
    exact .number hdigit hv h1 h2
  · next hdigit =>
    split at ran
    · next a ha =>
      obtain ⟨rfl, -⟩ := run_pure_eq_ok ran
      exact .name (by simpa using hdigit) ha
    · exact absurd ran run_throw_ne_ok

theorem address_keeps {labels : Labels} (ran : (address labels line t).run s = .ok (n, s')) :
    s' = s := by
  unfold address at ran
  split at ran
  · exact (number_eq_ok ran).2.2.2
  · split at ran
    · exact (run_pure_eq_ok ran).2.symm
    · exact absurd ran run_throw_ne_ok

theorem address_label {labels : Labels} {a : Nat} (notDigit : startsWithDigit t = false)
    (found : labels.lookup t = some a) : (address labels line t : Assembling σ Nat) = pure a := by
  simp [address, notDigit, found]

theorem callOf_eq_ok {name count : String} {i : Instruction}
    (ran : (callOf line name count : Assembling σ Instruction).run s = .ok (i, s')) :
    ∃ k n, Intrinsic.indexOf? name = some k ∧ unsignedValue? count = some n ∧ n ≤ 3 ∧
      i = .call k n ∧ s' = s := by
  unfold callOf at ran
  split at ran
  · exact absurd ran run_throw_ne_ok
  · next k hk =>
    split at ran
    · next m hm =>
      split at ran
      · next hle =>
        obtain ⟨rfl, rfl⟩ := run_pure_eq_ok ran
        exact ⟨k, m, hk, hm, hle, rfl, rfl⟩
      · exact absurd ran run_throw_ne_ok
    · exact absurd ran run_throw_ne_ok

end Operands

/-! ## What a line asks of the resolver -/

/-- What the assembler asks the resolver for an operand `text` that names an entry of table
`k`: the literal between the backquotes, or the symbol the text spells. -/
def Resolver.query {σ : Type} (r : Resolver σ) : Table → String → σ → Option Nat × σ
  | .literal, text => fun s =>
    match backquoted? text with
    | some inner => r.literal inner s
    | none => (none, s)
  | .constant, text => r.constant (Symbol.ofText text)
  | .argument, text => r.argument (Symbol.ofText text)
  | .variable, text => r.slot (Symbol.ofText text)
  | .message, text => r.message (Symbol.ofText text)

/-- The table an instruction's operand is an entry of, with the operand's text on the line,
for the lines whose operand goes to the resolver unless it is a written number. -/
def namedOperand : Instruction → List String → Option (Table × String)
  | .push .literal _, [_, _, o] => some (.literal, o)
  | .push .constant _, [_, _, o] => some (.constant, o)
  | .push .argument _, [_, _, o] => some (.argument, o)
  | .load _ _, [_, _, o] | .save _ _, [_, _, o] | .drop _ _, [_, _, o] => some (.variable, o)
  | .send _ _, _ :: o :: _ => some (.message, o)
  | _, _ => none

/-- How an accepted line moves the resolver's state from `s` to `s'`: a line whose operand is
a name asked the resolver for it in state `s`, which answered the instruction's operand and
moved to `s'`; every other line leaves the state as it was. -/
inductive Asked {σ : Type} (r : Resolver σ) (s : σ) : Instruction → List String → σ → Prop
  | named {i : Instruction} {tokens : List String} {k : Table} {o : String} {s' : σ} :
      namedOperand i tokens = some (k, o) → startsWithDigit o = false →
      r.query k o s = (some i.operand, s') → Asked r s i tokens s'
  | unnamed {i : Instruction} {tokens : List String} :
      (∀ k o, namedOperand i tokens = some (k, o) → startsWithDigit o = true) →
      Asked r s i tokens s

section Asked

variable {σ : Type} {r : Resolver σ} {s s' : σ} {i : Instruction} {tokens : List String}

theorem Asked.keep (unnamed : namedOperand i tokens = none) : Asked r s i tokens s :=
  .unnamed fun k o hk => by
    rw [unnamed] at hk
    cases hk

theorem Asked.of_index {line : Nat} {k : Table} {o : String}
    (named : namedOperand i tokens = some (k, o))
    (ran : (index line o (r.query k o)).run s = .ok (i.operand, s')) : Asked r s i tokens s' := by
  obtain ⟨-, -, ⟨hdigit, -, rfl⟩ | ⟨hdigit, hq⟩⟩ := index_eq_ok ran
  · refine .unnamed fun k' o' hk' => ?_
    rw [named] at hk'
    cases hk'
    exact hdigit
  · exact .named named hdigit hq

end Asked

theorem Spelling.fits_of_namedOperand {P : String → Nat → Prop} {i : Instruction}
    {tokens : List String} {k : Table} {o : String} (spelling : Spelling P i tokens)
    (named : namedOperand i tokens = some (k, o)) :
    i.Fits ∧ 1 ≤ i.operand ∧ i.operand ≤ maxOperand := by
  cases spelling with
  | push _ hr | load _ hr | save _ hr | drop _ hr | send _ hr =>
    have hb := hr.bounds fun _ _ h => h
    exact ⟨hb, hb⟩
  | jump c _ => cases c <;> simp [namedOperand] at named
  | _ => simp [namedOperand] at named

theorem parseLine_inversion {σ : Type} {r : Resolver σ} {labels : Labels} {line : Nat}
    {tokens : List String} {i : Instruction} {s s' : σ}
    (parsed : (parseLine r labels line tokens).run s = .ok (i, s')) :
    Spelling (fun name address => labels.lookup name = some address) i tokens ∧
      Asked r s i tokens s' := by
  unfold parseLine at parsed
  split at parsed <;> dsimp only at parsed
  · obtain ⟨rfl, rfl⟩ := run_pure_eq_ok parsed
    exact ⟨.skip, .keep rfl⟩
  · obtain ⟨n, hx, rfl⟩ := operand_eq_ok parsed
    obtain rfl := address_keeps hx
    exact ⟨.jump .always (address_reads hx), .keep rfl⟩
  · split at parsed
    · next condition hcondition =>
      obtain ⟨n, hx, rfl⟩ := operand_eq_ok parsed
      obtain rfl := address_keeps hx
      split at hcondition <;> cases hcondition <;>
        exact ⟨.jump _ (address_reads hx), .keep rfl⟩
    · exact absurd parsed run_throw_ne_ok
  · obtain ⟨n, hx, rfl⟩ := operand_eq_ok parsed
    obtain rfl := address_keeps hx
    exact ⟨.pushHandler (address_reads hx), .keep rfl⟩
  · obtain ⟨n, hx, rfl⟩ := operand_eq_ok parsed
    exact ⟨.push (by decide) (literalIndex_reads hx), .of_index rfl hx⟩
  · obtain ⟨n, hx, rfl⟩ := operand_eq_ok parsed
    exact ⟨.push (by decide) (index_reads hx), .of_index rfl hx⟩
  · obtain ⟨n, hx, rfl⟩ := operand_eq_ok parsed
    exact ⟨.push (by decide) (index_reads hx), .of_index rfl hx⟩
  iterate 4
    obtain ⟨rfl, rfl⟩ := run_pure_eq_ok parsed
    exact ⟨.pull _, .keep rfl⟩
  · split at parsed
    · next storage hstorage =>
      obtain ⟨n, hx, rfl⟩ := operand_eq_ok parsed
      split at hstorage <;> cases hstorage <;> exact ⟨.load _ (index_reads hx), .of_index rfl hx⟩
    · exact absurd parsed run_throw_ne_ok
  · split at parsed
    · next storage hstorage =>
      obtain ⟨n, hx, rfl⟩ := operand_eq_ok parsed
      split at hstorage <;> cases hstorage <;> exact ⟨.save _ (index_reads hx), .of_index rfl hx⟩
    · exact absurd parsed run_throw_ne_ok
  · split at parsed
    · next storage hstorage =>
      obtain ⟨n, hx, rfl⟩ := operand_eq_ok parsed
      split at hstorage <;> cases hstorage <;> exact ⟨.drop _ (index_reads hx), .of_index rfl hx⟩
    · exact absurd parsed run_throw_ne_ok
  · obtain ⟨k, n, hk, hn, -, rfl, rfl⟩ := callOf_eq_ok parsed
    obtain rfl : n = 0 := by
      rw [show unsignedValue? "0" = some 0 by decide] at hn
      exact (Option.some.inj hn).symm
    exact ⟨.call hk, .keep rfl⟩
  · obtain ⟨k, n, hk, hn, hle, rfl, rfl⟩ := callOf_eq_ok parsed
    exact ⟨.callWith hk hn hle (.inl rfl), .keep rfl⟩
  · obtain ⟨k, n, hk, hn, hle, rfl, rfl⟩ := callOf_eq_ok parsed
    exact ⟨.callWith hk hn hle (.inr rfl), .keep rfl⟩
  iterate 4
    obtain ⟨n, hx, rfl⟩ := operand_eq_ok parsed
    exact ⟨.send _ (index_reads hx), .of_index rfl hx⟩
  · exact absurd parsed run_throw_ne_ok

theorem parseLine_spells {σ : Type} {r : Resolver σ} {labels : Labels} {line : Nat}
    {tokens : List String} {i : Instruction} {s s' : σ}
    (parsed : (parseLine r labels line tokens).run s = .ok (i, s')) :
    Spelling (fun name address => labels.lookup name = some address) i tokens :=
  (parseLine_inversion parsed).1

theorem parseLine_asked {σ : Type} {r : Resolver σ} {labels : Labels} {line : Nat}
    {tokens : List String} {i : Instruction} {s s' : σ}
    (parsed : (parseLine r labels line tokens).run s = .ok (i, s')) : Asked r s i tokens s' :=
  (parseLine_inversion parsed).2

/-! ## The second pass -/

/-- One answer of the resolver: the state it moves to when asked for some operand. -/
def Resolver.Answers {σ : Type} (r : Resolver σ) (s s' : σ) : Prop :=
  ∃ k o n, r.query k o s = (some n, s')

theorem Asked.answers {σ : Type} {r : Resolver σ} {s s' : σ} {i : Instruction}
    {tokens : List String} (asked : Asked r s i tokens s') : Relation.ReflTransGen r.Answers s s' := by
  cases asked with
  | named _ _ hq => exact .single ⟨_, _, _, hq⟩
  | unnamed _ => exact .refl

theorem mapM_run_states {σ α β : Type} {f : α → Assembling σ β} (R : σ → σ → Prop)
    (steps : ∀ x s y s', (f x).run s = .ok (y, s') → Relation.ReflTransGen R s s') :
    ∀ {xs : List α} {ys : List β} {s s' : σ}, (xs.mapM f).run s = .ok (ys, s') →
      Relation.ReflTransGen R s s' ∧
        List.Forall₂ (fun x y => ∃ s₁ s₂, Relation.ReflTransGen R s s₁ ∧
          (f x).run s₁ = .ok (y, s₂) ∧ Relation.ReflTransGen R s₂ s') xs ys
  | [], ys, s, s', h => by
    obtain ⟨rfl, rfl⟩ := run_pure_eq_ok h
    exact ⟨.refl, .nil⟩
  | x :: xs, ys, s, s', h => by
    rw [List.mapM_cons] at h
    obtain ⟨y, s₁, hx, h⟩ := run_bind_eq_ok h
    obtain ⟨rest, s₂, hxs, h⟩ := run_bind_eq_ok h
    obtain ⟨rfl, rfl⟩ := run_pure_eq_ok h
    have hfirst := steps x s y s₁ hx
    obtain ⟨hrest, hall⟩ := mapM_run_states R steps hxs
    refine ⟨hfirst.trans hrest, .cons ⟨s, s₁, .refl, hx, hrest⟩ ?_⟩
    exact hall.imp fun _ _ ⟨t₁, t₂, h₁, hrun, h₂⟩ => ⟨t₁, t₂, hfirst.trans h₁, hrun, h₂⟩

theorem assembleWith_asked {σ : Type} {r : Resolver σ} {source : String} {start final : σ}
    {words : List Word} (assembled : assembleWith r source start = .ok (words, final)) :
    Relation.ReflTransGen r.Answers start final ∧
    ∃ labels lines, collectLines (sourceLines source) 1 [] [] = .ok (labels, lines) ∧
      List.Forall₂ (fun (l : Nat × List String) w => ∃ i s₁ s₂,
        Relation.ReflTransGen r.Answers start s₁ ∧
        (parseLine r labels l.1 l.2).run s₁ = .ok (i, s₂) ∧
        Relation.ReflTransGen r.Answers s₂ final ∧ w = i.encode) lines words := by
  unfold assembleWith at assembled
  rcases hcollect : collectLines (sourceLines source) 1 [] [] with e | ⟨labels, lines⟩
  · simp [hcollect, bind, Except.bind] at assembled
  · simp only [hcollect, bind, Except.bind] at assembled
    -- a line moves the state only by the answer to its operand
    obtain ⟨hwhole, hlines⟩ := mapM_run_states r.Answers (fun l s w s' hw => by
      obtain ⟨i, hp, -⟩ := operand_eq_ok hw
      exact (parseLine_asked hp).answers) assembled
    refine ⟨hwhole, labels, lines, rfl, hlines.imp fun l w ⟨s₁, s₂, h₁, hw, h₂⟩ => ?_⟩
    obtain ⟨i, hp, rfl⟩ := operand_eq_ok hw
    exact ⟨i, s₁, s₂, h₁, hp, h₂, rfl⟩

theorem assembleWith_eq_ok {σ : Type} {r : Resolver σ} {source : String} {start final : σ}
    {words : List Word} (assembled : assembleWith r source start = .ok (words, final)) :
    ∃ labels lines, collectLines (sourceLines source) 1 [] [] = .ok (labels, lines) ∧
      List.Forall₂ (fun (l : Nat × List String) w => ∃ i s₁ s₂,
        (parseLine r labels l.1 l.2).run s₁ = .ok (i, s₂) ∧ w = i.encode) lines words := by
  obtain ⟨-, labels, lines, hcollect, hlines⟩ := assembleWith_asked assembled
  exact ⟨labels, lines, hcollect,
    hlines.imp fun _ _ ⟨i, s₁, s₂, _, hp, _, hw⟩ => ⟨i, s₁, s₂, hp, hw⟩⟩

theorem map_encode_of_decoded {ws : List Word} {is : List Instruction}
    (decoded : List.Forall₂ (fun w i => decode w = .ok i) ws is) :
    is.map Instruction.encode = ws ∧ ∀ i ∈ is, i.Fits := by
  induction decoded with
  | nil => exact ⟨rfl, by simp⟩
  | cons hwi _ ih =>
    refine ⟨by rw [List.map_cons, encode_of_decode hwi, ih.1], ?_⟩
    intro i hi
    rcases List.mem_cons.mp hi with rfl | hi
    · exact fits_of_decode hwi
    · exact ih.2 i hi

/-! ## Assembly against the canonical text -/

/-- The assembler and the canonical text agree, as long as every label stands for an address
an operand can hold.  Each word that a source assembles to, with any resolver, belongs to
one instruction line of the source, in order; it decodes, re-encodes to itself, and decodes
to an instruction that its line spells, where a written number stands for its value and a
label for the position of the first instruction after its definition.  The other way
round, the canonical texts of any words that decode, one per line, assemble to exactly those
words. -/
theorem assembled_words_read_back {σ : Type} (r : Resolver σ) (source : String)
    (start final : σ) (words : List Word) (assembled : assembleWith r source start = .ok (words, final))
    (labelsFit : ∀ name address, LabelAt source name address → address ≤ maxOperand) :
    List.Forall₂ (fun w tokens => ∃ i, decode w = .ok i ∧ i.encode = w ∧
        Spelling (LabelAt source) i tokens) words (instructionTokens (sourceLines source)) ∧
      ∀ (ws : List Word) (is : List Instruction),
        List.Forall₂ (fun w i => decode w = .ok i) ws is →
          assemble ("\n".intercalate (is.map Instruction.text)) = .ok ws := by
  obtain ⟨labels, lines, hcollect, hparse⟩ := assembleWith_eq_ok assembled
  have hline : ∀ (l : Nat × List String) w, (∃ i s₁ s₂,
      (parseLine r labels l.1 l.2).run s₁ = .ok (i, s₂) ∧ w = i.encode) →
      ∃ i, decode w = .ok i ∧ i.encode = w ∧ Spelling (LabelAt source) i l.2 := by
    rintro l w ⟨i, s₁, s₂, hp, rfl⟩
    have hspelling : Spelling (LabelAt source) i l.2 :=
      (parseLine_spells hp).mono fun t n ht => (lookup_iff_labelAt hcollect t n).mp ht
    have hfits : i.Fits := hspelling.fits fun t n ht => ⟨ht.pos, labelsFit t n ht⟩
    exact ⟨i, decode_encode hfits, rfl, hspelling⟩
  have htokens : lines.map Prod.snd = instructionTokens (sourceLines source) := by
    simpa using collectLines_tokens hcollect
  refine ⟨?_, fun ws is hdecoded => ?_⟩
  · rw [← htokens, List.forall₂_map_right_iff]
    exact List.Forall₂.flip (hparse.imp hline)
  · obtain ⟨hwords, hfits⟩ := map_encode_of_decoded hdecoded
    rw [← hwords]
    exact assemble_texts hfits

def loopSource : String :=
  "\n".intercalate ["START:", "JUMP TO START"]

theorem loopSource_reads_back :
    assembleWith Resolver.numeric loopSource () =
        .ok ([(Instruction.jump 1 .always).encode], ()) ∧
      (∀ name address, LabelAt loopSource name address → address ≤ maxOperand) ∧
      List.Forall₂ (fun w tokens => ∃ i, decode w = .ok i ∧ i.encode = w ∧
          Spelling (LabelAt loopSource) i tokens) [(Instruction.jump 1 .always).encode]
          (instructionTokens (sourceLines loopSource)) ∧
        ∀ (ws : List Word) (is : List Instruction),
          List.Forall₂ (fun w i => decode w = .ok i) ws is →
            assemble ("\n".intercalate (is.map Instruction.text)) = .ok ws := by
  have hlines : sourceLines loopSource = ["START:", "JUMP TO START"] :=
    sourceLines_intercalate (by decide)
  have hstart : readLine "START:" = .label "START" := by
    rw [show "START:" = " ".intercalate ["START:"] from rfl, readLine_intercalate (by decide)]
    decide
  have hjump : readLine "JUMP TO START" = .instruction ["JUMP", "TO", "START"] := by
    rw [show "JUMP TO START" = " ".intercalate ["JUMP", "TO", "START"] from rfl,
      readLine_intercalate (by decide)]
    decide
  have htokens : instructionTokens (sourceLines loopSource) = [["JUMP", "TO", "START"]] := by
    rw [hlines, instructionTokens_cons, instructionTokens_cons, hstart, hjump]
    rfl
  have hnames : labelNames (sourceLines loopSource) = ["START"] := by
    rw [hlines, labelNames_cons, labelNames_cons, hstart, hjump]
    rfl
  obtain ⟨labels, lines, hcollect⟩ : ∃ labels lines,
      collectLines (sourceLines loopSource) 1 [] [] = .ok (labels, lines) :=
    collectLines_ok 1 [] (by rw [hnames]; decide) (by simp)
  have hL : labels.lookup "START" = some 1 :=
    (lookup_iff_labelAt hcollect "START" 1).mpr ⟨[], _, _, hlines, hstart, rfl⟩
  have hword : ∀ tokens ∈ instructionTokens (sourceLines loopSource), ∀ line,
      (do return (← parseLine Resolver.numeric labels line tokens).encode :
        Assembling Unit Word) = pure (Instruction.jump 1 .always).encode := by
    intro tokens htok line
    rw [htokens] at htok
    rw [List.mem_singleton.mp htok]
    have hparse : parseLine Resolver.numeric labels line ["JUMP", "TO", "START"] =
        (address labels line "START" >>= fun a => pure (.jump a .always)) := rfl
    rw [hparse, address_label (by decide) hL]
    rfl
  have hassemble : assembleWith Resolver.numeric loopSource () =
      .ok ([(Instruction.jump 1 .always).encode], ()) := by
    rw [assembleWith_of_tokens () _ hcollect hword, htokens]
    rfl
  have hfit : ∀ name address, LabelAt loopSource name address → address ≤ maxOperand :=
    fun _ _ h => Nat.le_trans (LabelAt.le_length h) (by rw [htokens]; decide)
  exact ⟨hassemble, hfit,
    assembled_words_read_back Resolver.numeric loopSource () () _ hassemble hfit⟩

/-! ## A label past the operand range -/

/-- A handler push to a label defined after 2047 instruction lines. -/
def lateLabelSource : String :=
  "\n".intercalate (List.replicate 2047 "SKIP INSTRUCTION" ++ ["L:", "PUSH HANDLER L"])

/-- The label of a late definition stands for 2048, past every operand; the handler push to
it assembles all the same, to a word whose operand bits are zero, which no longer decodes. -/
theorem late_label_assembles_undecodable :
    LabelAt lateLabelSource "L" 2048 ∧
      assemble lateLabelSource = .ok (List.replicate 2047 0 ++ [8192]) ∧
      decode 8192 = .error (.zeroOperand 8192 .push) := by
  have hskip : readLine "SKIP INSTRUCTION" = .instruction ["SKIP", "INSTRUCTION"] := by
    rw [show "SKIP INSTRUCTION" = " ".intercalate ["SKIP", "INSTRUCTION"] from rfl,
      readLine_intercalate (by decide)]
    decide
  have hlabel : readLine "L:" = .label "L" := by
    rw [show "L:" = " ".intercalate ["L:"] from rfl, readLine_intercalate (by decide)]
    decide
  have hpush : readLine "PUSH HANDLER L" = .instruction ["PUSH", "HANDLER", "L"] := by
    rw [show "PUSH HANDLER L" = " ".intercalate ["PUSH", "HANDLER", "L"] from rfl,
      readLine_intercalate (by decide)]
    decide
  have hlines : sourceLines lateLabelSource =
      List.replicate 2047 "SKIP INSTRUCTION" ++ ["L:", "PUSH HANDLER L"] := by
    refine sourceLines_intercalate fun l hl => ?_
    rcases List.mem_append.mp hl with hl | hl
    · rw [List.eq_of_mem_replicate hl]
      decide
    · simp only [List.mem_cons, List.not_mem_nil, or_false] at hl
      rcases hl with rfl | rfl <;> decide
  have htokens : instructionTokens (sourceLines lateLabelSource) =
      List.replicate 2047 ["SKIP", "INSTRUCTION"] ++ [["PUSH", "HANDLER", "L"]] := by
    rw [hlines, instructionTokens_append, instructionTokens_replicate hskip,
      instructionTokens_cons, instructionTokens_cons, hlabel, hpush]
    rfl
  have hnames : labelNames (sourceLines lateLabelSource) = ["L"] := by
    rw [hlines, labelNames_append, labelNames_replicate hskip, labelNames_cons, labelNames_cons,
      hlabel, hpush]
    rfl
  have hlate : LabelAt lateLabelSource "L" 2048 :=
    ⟨_, _, _, hlines, hlabel, by rw [instructionTokens_replicate hskip, List.length_replicate]⟩
  obtain ⟨labels, lines, hcollect⟩ : ∃ labels lines,
      collectLines (sourceLines lateLabelSource) 1 [] [] = .ok (labels, lines) :=
    collectLines_ok 1 [] (by rw [hnames]; decide) (by simp)
  have hL : labels.lookup "L" = some 2048 := (lookup_iff_labelAt hcollect "L" 2048).mpr hlate
  have hword : ∀ tokens ∈ instructionTokens (sourceLines lateLabelSource), ∀ line,
      (do return (← parseLine Resolver.numeric labels line tokens).encode :
        Assembling Unit Word) = pure (if tokens = ["SKIP", "INSTRUCTION"] then 0 else 8192) := by
    intro tokens htok line
    rw [htokens] at htok
    rcases List.mem_append.mp htok with htok | htok
    · rw [List.eq_of_mem_replicate htok]
      rfl
    · rw [List.mem_singleton.mp htok]
      have hparse : parseLine Resolver.numeric labels line ["PUSH", "HANDLER", "L"] =
          (address labels line "L" >>= fun a => pure (.push .handler a)) := rfl
      rw [hparse, address_label (by decide) hL]
      rfl
  refine ⟨hlate, ?_, by decide⟩
  rw [assemble, assembleWith_of_tokens () _ hcollect hword, htokens, List.map_append,
    List.map_replicate, if_pos rfl, List.map_singleton, if_neg (by decide)]
  rfl

end TaskMachine.Assembly
