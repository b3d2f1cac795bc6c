import Mathlib
import TaskMachine.Proofs.Machine.Reachable
import TaskMachine.Proofs.Task.Stacks

/-! # Metering

Every instruction a task runs costs it one token.  No instruction touches a task's id, tokens
or budget (`Task.meter`, `cycle_meter`): the clock step charges the token after the
instruction, and only for one that ran to its end without a fault (`Processor.executes`).  A
step on a processor that has faulted, on a task that is not active, or on a task with no
token left charges nothing.

So a clock step keeps the budget and takes one token exactly when it executes an instruction
(`stepClock_meter`), and any number of steps take as many tokens as they execute
instructions (`steps_meter`).  Every step that answers that the task is still active spent a
token and left one, so `run` stops after at most `max tokens 1` steps (`run_stopsAfter`).
The step that spends the last token abandons the task with `$resourceExhausted`, whatever
the instruction did, unless the instruction had itself abandoned the task
(`stepClock_last_token`).  `clock_meters_tokens` gathers these. -/

set_option autoImplicit false

namespace TaskMachine

namespace Task

/-- What no instruction changes in a task: its id, its tokens and its budget. -/
def meter (t : Task) : TaskId × Nat × Nat := (t.id, t.tokens, t.budget)

variable {t t' : Task}

@[simp]
theorem meter_modifyFrame (g : Frame → Frame) : (t.modifyFrame g).meter = t.meter := by
  simp [meter]

@[simp]
theorem meter_finish (state : TaskState) (v : Value) : (t.finish state v).meter = t.meter := by
  unfold finish
  split <;> rfl

theorem meter_of_moveTo_finish {state : TaskState} {v : Value}
    (movedTo : (t.moveTo state).map (fun t => t.finish state v) = .ok t') : t'.meter = t.meter := by
  cases hmove : t.moveTo state with
  | error e =>
      rw [hmove] at movedTo
      cases movedTo
  | ok moved =>
      rw [hmove] at movedTo
      obtain ⟨-, rfl⟩ := moveTo_eq_ok.mp hmove
      simp only [Except.map, Except.ok.injEq] at movedTo
      subst movedTo
      exact meter_finish _ _

theorem meter_waitOn {bag : Name} (waited : t.waitOn bag = .ok t') : t'.meter = t.meter := by
  unfold waitOn at waited
  cases hmove : t.moveTo .waiting with
  | error e =>
      rw [hmove] at waited
      cases waited
  | ok moved =>
      rw [hmove] at waited
      obtain ⟨-, rfl⟩ := moveTo_eq_ok.mp hmove
      simp only [Except.map, Except.ok.injEq] at waited
      subst waited
      rfl

theorem meter_unwindFrames (e : Value) :
    ∀ (frames : List Frame) (t : Task), (t.unwindFrames e frames).1.meter = t.meter
  | [], t => by
      unfold unwindFrames
      split
      · next t' habandon => exact meter_of_moveTo_finish habandon
      · rfl
  | f :: below, t => by
      unfold unwindFrames
      split
      · rfl
      · exact meter_unwindFrames e below _

theorem meter_raise (t : Task) (e : Value) : (t.raise e).1.meter = t.meter :=
  meter_unwindFrames e _ t

theorem meter_exhaust : t.exhaust.meter = t.meter := by
  unfold exhaust
  split
  · rfl
  · exact meter_finish _ _

theorem meter_consumeToken : t.consumeToken.meter = (t.id, t.tokens - 1, t.budget) := by
  unfold consumeToken
  dsimp only
  split
  · exact meter_finish _ _
  · rfl

theorem tokens_ne_zero_of_consumeToken (active : t.consumeToken.state = .active) :
    t.consumeToken.tokens ≠ 0 := by
  unfold consumeToken at active ⊢
  dsimp only at active ⊢
  split at active
  · simp [finish] at active
  · next hkeep =>
      rw [if_neg hkeep]
      intro hzero
      exact hkeep ⟨hzero, by rw [active]; decide⟩

end Task

namespace Exec

def meterDiscipline (c : Config) (m : TaskId × Nat × Nat) : Discipline c where
  P s := s.task.meter = m
  W s := s.task.meter = m
  Q s := s.task.meter = m
  R s := s.task.meter = m
  raised h := h
  write h := h
  faulted h := h
  repository _ h := h
  pop h _ hpop _ := by
    obtain ⟨-, rfl⟩ := Task.popComponent_eq_some.mp hpop
    exact h
  push _ h _ := h
  pushHandler _ h _ := (Task.meter_modifyFrame _).trans h
  popHandler h _ _ := (Task.meter_modifyFrame _).trans h
  setVariable h _ _ := (Task.meter_modifyFrame _).trans h
  advance h _ := (Task.meter_modifyFrame _).trans h
  jump _ h _ _ := (Task.meter_modifyFrame _).trans h
  call h _ _ _ := h
  wait h hw := (Task.meter_waitOn hw).trans h
  ret _ h _ _ := (Task.meter_modifyFrame _).trans h
  complete _ h _ _ hc := (Task.meter_of_moveTo_finish hc).trans h
  completeFault _ h _ _ _ := h

end Exec

theorem cycle_meter (c : Config) (s : MachineState) :
    (cycle c s).1.task.meter = s.task.meter :=
  @Exec.Discipline.cycle_spec c (Exec.meterDiscipline c s.task.meter)
    (fun x => x.task.meter = s.task.meter) id
    (fun h _ _ => (Task.meter_modifyFrame _).trans h)
    (fun e h => (Task.meter_raise _ e).trans h) s rfl

namespace Processor

/-- Whether the clock step executes an instruction: the processor has not faulted, its task is
active with a token left, and the instruction runs without a fault. -/
def executes (p : Processor) : Bool :=
  match p.fault, p.task with
  | none, some t =>
    t.state == .active && t.tokens != 0 && (cycle p.config ⟨t, p.repository⟩).2.isNone
  | _, _ => false

theorem executes_eq_true {p : Processor} :
    p.executes = true ↔ p.fault = none ∧ ∃ t, p.task = some t ∧ t.state = .active ∧
      t.tokens ≠ 0 ∧ (cycle p.config ⟨t, p.repository⟩).2 = none := by
  unfold executes
  rcases p with ⟨c, r, _ | t, _ | e⟩ <;> simp [Option.isNone_iff_eq_none, and_assoc]

theorem stepClock_of_executes {p : Processor} (executing : p.executes = true) :
    ∃ t, p.task = some t ∧ t.tokens ≠ 0 ∧
      p.stepClock =
        ({ p with
            task := some (cycle p.config ⟨t, p.repository⟩).1.task.consumeToken
            repository := (cycle p.config ⟨t, p.repository⟩).1.repository },
          .ok ((cycle p.config ⟨t, p.repository⟩).1.task.consumeToken.state == .active)) := by
  obtain ⟨hfault, t, ht, hactive, htokens, hcycle⟩ := executes_eq_true.mp executing
  refine ⟨t, ht, htokens, ?_⟩
  unfold stepClock
  rw [hfault, ht]
  simp only [hactive, ne_eq, not_true_eq_false, if_false, htokens]
  rcases hc : cycle p.config ⟨t, p.repository⟩ with ⟨s, _ | e⟩
  · rfl
  · rw [hc] at hcycle
    cases hcycle

theorem stepClock_of_not_executes {p : Processor} (notExecuting : p.executes = false) :
    (p.stepClock.1.task = p.task ∨
      ∃ t, p.task = some t ∧ (p.stepClock.1.task = some t.exhaust ∨
        p.stepClock.1.task = some (cycle p.config ⟨t, p.repository⟩).1.task)) ∧
    p.stepClock.2 ≠ .ok true := by
  unfold stepClock
  split
  · exact ⟨.inl rfl, by simp⟩
  · next hfault =>
      split
      · exact ⟨.inl rfl, by simp⟩
      · next t ht =>
          split
          · exact ⟨.inl rfl, by simp⟩
          · next hactive =>
              split
              · exact ⟨.inr ⟨t, ht, .inl rfl⟩, by simp⟩
              · next htokens =>
                  split
                  · next s hc =>
                      have : p.executes = true := executes_eq_true.mpr
                        ⟨hfault, t, ht, Classical.not_not.mp hactive, htokens, by rw [hc]⟩
                      rw [notExecuting] at this
                      cases this
                  · next s e hc => exact ⟨.inr ⟨t, ht, .inr (by rw [hc])⟩, by simp⟩

theorem stepClock_meter (p : Processor) {t : Task} (current : p.task = some t) :
    ∃ t', p.stepClock.1.task = some t' ∧ t'.id = t.id ∧ t'.budget = t.budget ∧
      t'.tokens + (if p.executes then 1 else 0) = t.tokens := by
  cases hexec : p.executes with
  | true =>
      obtain ⟨t₀, ht₀, htokens, hstep⟩ := stepClock_of_executes hexec
      rw [current, Option.some.injEq] at ht₀
      subst ht₀
      have kept := cycle_meter p.config ⟨t, p.repository⟩
      have charged := @Task.meter_consumeToken (cycle p.config ⟨t, p.repository⟩).1.task
      simp only [Task.meter, Prod.mk.injEq] at kept charged
      obtain ⟨hid, htok, hbudget⟩ := kept
      obtain ⟨hid', htok', hbudget'⟩ := charged
      refine ⟨_, by rw [hstep], hid'.trans hid, hbudget'.trans hbudget, ?_⟩
      simp only [if_true]
      omega
  | false =>
      obtain ⟨same | ⟨t₀, ht₀, hex | hfault⟩, -⟩ := stepClock_of_not_executes hexec
      · exact ⟨t, same.trans current, rfl, rfl, by simp⟩
      · rw [current, Option.some.injEq] at ht₀
        subst ht₀
        have kept := @Task.meter_exhaust t
        simp only [Task.meter, Prod.mk.injEq] at kept
        exact ⟨_, hex, kept.1, kept.2.2, by simp [kept.2.1]⟩
      · rw [current, Option.some.injEq] at ht₀
        subst ht₀
        have kept := cycle_meter p.config ⟨t, p.repository⟩
        simp only [Task.meter, Prod.mk.injEq] at kept
        exact ⟨_, hfault, kept.1, kept.2.2, by simp [kept.2.1]⟩

theorem stepClock_ok_true {p : Processor} (continues : p.stepClock.2 = .ok true) :
    p.executes = true ∧ ∃ t, p.stepClock.1.task = some t ∧ t.state = .active ∧ t.tokens ≠ 0 := by
  cases hexec : p.executes with
  | false => exact absurd continues (stepClock_of_not_executes hexec).2
  | true =>
      obtain ⟨t, -, -, hstep⟩ := stepClock_of_executes hexec
      rw [hstep] at continues ⊢
      have hactive : (cycle p.config ⟨t, p.repository⟩).1.task.consumeToken.state = .active := by
        simpa using continues
      exact ⟨rfl, _, rfl, hactive, Task.tokens_ne_zero_of_consumeToken hactive⟩

def steps (p : Processor) : Nat → Processor
  | 0 => p
  | n + 1 => p.stepClock.1.steps n

/-- How many of the first `n` clock steps execute an instruction. -/
def executedIn (p : Processor) : Nat → Nat
  | 0 => 0
  | n + 1 => (if p.executes then 1 else 0) + p.stepClock.1.executedIn n

theorem steps_succ' (p : Processor) (n : Nat) : p.steps (n + 1) = (p.steps n).stepClock.1 := by
  induction n generalizing p with
  | zero => rfl
  | succ n ih => exact ih p.stepClock.1

theorem steps_meter (p : Processor) {t : Task} (current : p.task = some t) (n : Nat) :
    ∃ t', (p.steps n).task = some t' ∧ t'.id = t.id ∧ t'.budget = t.budget ∧
      t'.tokens + p.executedIn n = t.tokens := by
  induction n generalizing p t with
  | zero => exact ⟨t, current, rfl, rfl, rfl⟩
  | succ n ih =>
      obtain ⟨t₁, h₁, hid₁, hbudget₁, htokens₁⟩ := stepClock_meter p current
      obtain ⟨t₂, h₂, hid₂, hbudget₂, htokens₂⟩ := ih p.stepClock.1 h₁
      refine ⟨t₂, h₂, hid₂.trans hid₁, hbudget₂.trans hbudget₁, ?_⟩
      simp only [executedIn]
      omega

theorem Created.tokens_used {p : Processor} (created : p.Created) (n : Nat) :
    ∃ t, (p.steps n).task = some t ∧ t.budget - t.tokens = p.executedIn n := by
  obtain ⟨id, account, tokens, _, _, _, _, f, -, htask⟩ := created.task_eq
  obtain ⟨t, ht, -, hbudget, htokens⟩ := steps_meter p htask n
  refine ⟨t, ht, ?_⟩
  have hfull : (Task.start id account tokens f).budget = (Task.start id account tokens f).tokens :=
    rfl
  omega

/-- `run` makes `k` clock steps: each one before the last answers that the task is still
active, and the last one does not. -/
def StopsAfter (p : Processor) (k : Nat) : Prop :=
  0 < k ∧ (∀ i, i + 1 < k → (p.steps i).stepClock.2 = .ok true) ∧
    (p.steps (k - 1)).stepClock.2 ≠ .ok true

theorem runFor_of_stopsAfter {p : Processor} {k n : Nat} (stops : p.StopsAfter k) (enough : k ≤ n) :
    p.runFor n = (p.steps k, ((p.steps (k - 1)).stepClock.2).bind fun _ => (p.steps k).state) := by
  induction k generalizing p n with
  | zero => exact absurd stops.1 (Nat.lt_irrefl 0)
  | succ k ih =>
      obtain ⟨m, rfl⟩ : ∃ m, n = m + 1 := ⟨n - 1, by omega⟩
      obtain ⟨-, hbefore, hlast⟩ := stops
      unfold runFor
      cases k with
      | zero =>
          simp only [Nat.zero_add, Nat.sub_self, steps] at hlast ⊢
          rcases hstep : p.stepClock with ⟨q, e | _ | _⟩
          · rfl
          · rfl
          · rw [hstep] at hlast
            exact absurd rfl hlast
      | succ k =>
          have hfirst : p.stepClock.2 = .ok true := hbefore 0 (by omega)
          rcases hstep : p.stepClock with ⟨q, r⟩
          rw [hstep] at hfirst
          simp only at hfirst
          subst hfirst
          have hq : q = p.stepClock.1 := by rw [hstep]
          subst hq
          exact ih ⟨by omega, fun i hi => hbefore (i + 1) (by omega), hlast⟩ (by omega)

theorem exists_stopsAfter (p : Processor) {t : Task} (current : p.task = some t) :
    ∃ k, k ≤ max t.tokens 1 ∧ p.StopsAfter k := by
  induction hn : t.tokens using Nat.strong_induction_on generalizing p t with
  | _ n ih =>
      by_cases hgo : p.stepClock.2 = .ok true
      · obtain ⟨hexec, t', ht', -, hleft⟩ := stepClock_ok_true hgo
        obtain ⟨t₁, h₁, -, -, hspent⟩ := stepClock_meter p current
        rw [ht', Option.some.injEq] at h₁
        subst h₁
        rw [hexec, if_pos rfl] at hspent
        obtain ⟨k, hk, hstop⟩ := ih t'.tokens (by omega) p.stepClock.1 ht' rfl
        refine ⟨k + 1, by omega, by omega, fun i hi => ?_, ?_⟩
        · cases i with
          | zero => exact hgo
          | succ i => exact hstop.2.1 i (by omega)
        · have hsame : k + 1 - 1 = (k - 1) + 1 := by have := hstop.1; omega
          rw [hsame]
          exact hstop.2.2
      · exact ⟨1, by omega, by omega, fun i hi => by omega, hgo⟩

theorem run_stopsAfter (p : Processor) {t : Task} (current : p.task = some t) :
    ∃ k, k ≤ max t.tokens 1 ∧ p.StopsAfter k ∧
      p.run = (p.steps k, ((p.steps (k - 1)).stepClock.2).bind fun _ => (p.steps k).state) := by
  obtain ⟨k, hk, hstop⟩ := exists_stopsAfter p current
  refine ⟨k, hk, hstop, ?_⟩
  unfold run
  rw [current]
  exact runFor_of_stopsAfter hstop (by simp; omega)

theorem stepClock_last_token (p : Processor) {t : Task} (current : p.task = some t)
    (executing : p.executes = true) (lastToken : t.tokens = 1) :
    ∃ t', p.stepClock.1.task = some t' ∧ t'.tokens = 0 ∧ t'.state = .abandoned ∧
      if (cycle p.config ⟨t, p.repository⟩).1.task.state = .abandoned then
        t' = { (cycle p.config ⟨t, p.repository⟩).1.task with tokens := 0 }
      else t'.frames = [] ∧ t'.components = [] ∧ t'.wait = none ∧ t'.result = none ∧
        t'.exception = some (Value.exception .resourceExhausted
          ("task " ++ t.id.display ++ " used all " ++ Decimal.natText t.budget ++ " tokens")) := by
  obtain ⟨t₀, ht₀, -, hstep⟩ := stepClock_of_executes executing
  rw [current, Option.some.injEq] at ht₀
  subst ht₀
  have kept := cycle_meter p.config ⟨t, p.repository⟩
  simp only [Task.meter, Prod.mk.injEq] at kept
  obtain ⟨hid, htokens, hbudget⟩ := kept
  rw [hstep]
  refine ⟨_, rfl, ?_⟩
  generalize (cycle p.config ⟨t, p.repository⟩).1.task = u at hid htokens hbudget ⊢
  unfold Task.consumeToken
  by_cases habandoned : u.state = .abandoned
  · -- the instruction abandoned the task: only the token goes
    simp [habandoned, htokens, lastToken]
  · simp [habandoned, htokens, lastToken, Task.finish, Task.exhaustion, hid, hbudget]

end Processor

/-- Metering by the clock.  A clock step keeps the budget and takes one token exactly when it
executes an instruction, which it answers; over any number of steps the tokens fall by the
number of instructions executed, so a task that `newTask` started has used exactly that many.
`run` stops after at most `max tokens 1` steps.  The step that spends the last token abandons
the task with `$resourceExhausted`, overriding whatever its instruction did, a completion
included, unless the instruction abandoned the task itself. -/
theorem clock_meters_tokens :
    (∀ (p : Processor) (t : Task), p.task = some t →
      ∃ t', p.stepClock.1.task = some t' ∧ t'.budget = t.budget ∧
        t'.tokens + (if p.executes then 1 else 0) = t.tokens ∧
        (p.executes = true → ∃ active, p.stepClock.2 = .ok active)) ∧
    (∀ (p : Processor) (t : Task) (n : Nat), p.task = some t →
      ∃ t', (p.steps n).task = some t' ∧ t'.budget = t.budget ∧
        t'.tokens + p.executedIn n = t.tokens) ∧
    (∀ p : Processor, p.Created → ∀ n,
      ∃ t, (p.steps n).task = some t ∧ t.budget - t.tokens = p.executedIn n) ∧
    (∀ (p : Processor) (t : Task), p.task = some t →
      ∃ k, k ≤ max t.tokens 1 ∧ p.StopsAfter k ∧
        p.run = (p.steps k, ((p.steps (k - 1)).stepClock.2).bind fun _ => (p.steps k).state)) ∧
    (∀ (p : Processor) (t : Task), p.task = some t → p.executes = true → t.tokens = 1 →
      ∃ t', p.stepClock.1.task = some t' ∧ t'.tokens = 0 ∧ t'.state = .abandoned ∧
        if (cycle p.config ⟨t, p.repository⟩).1.task.state = .abandoned then
          t' = { (cycle p.config ⟨t, p.repository⟩).1.task with tokens := 0 }
        else t'.frames = [] ∧ t'.components = [] ∧ t'.wait = none ∧ t'.result = none ∧
          t'.exception = some (Value.exception .resourceExhausted
            ("task " ++ t.id.display ++ " used all " ++ Decimal.natText t.budget ++ " tokens"))) := by
  refine ⟨fun p t ht => ?_, fun p t n ht => ?_, fun p hp n => hp.tokens_used n,
    fun p t ht => p.run_stopsAfter ht, fun p t ht hexec hlast => p.stepClock_last_token ht hexec hlast⟩
  · obtain ⟨t', h', -, hbudget, htokens⟩ := p.stepClock_meter ht
    refine ⟨t', h', hbudget, htokens, fun hexec => ?_⟩
    obtain ⟨_, -, -, hstep⟩ := Processor.stepClock_of_executes hexec
    exact ⟨_, by rw [hstep]⟩
  · obtain ⟨t', h', -, hbudget, htokens⟩ := p.steps_meter ht n
    exact ⟨t', h', hbudget, htokens⟩

/-- A task with its last token whose one frame returns `none` (`PULL RESULT`, the word
`0x5000`): the instruction completes the task, and the charge abandons it. -/
def lastTokenTask : Task :=
  ⟨⟨0⟩, Name.root, 1, 1, [⟨.none, ⟨"run"⟩, [], [], [], [], [], [], ⟨[0x5000]⟩, 1, 0, 0⟩],
    [.none], .active, none, none, none, none⟩

theorem last_token_overrides_completion :
    (Processor.mk Config.default Repository.empty (some lastTokenTask) none).executes = true ∧
    (cycle Config.default ⟨lastTokenTask, Repository.empty⟩).1.task.state = .completed ∧
    ∃ t', (Processor.mk Config.default Repository.empty (some lastTokenTask) none).stepClock.1.task =
        some t' ∧ t'.tokens = 0 ∧ t'.state = .abandoned ∧
      if (cycle Config.default ⟨lastTokenTask, Repository.empty⟩).1.task.state = .abandoned then
        t' = { (cycle Config.default ⟨lastTokenTask, Repository.empty⟩).1.task with tokens := 0 }
      else t'.frames = [] ∧ t'.components = [] ∧ t'.wait = none ∧ t'.result = none ∧
        t'.exception = some (Value.exception .resourceExhausted
          ("task " ++ lastTokenTask.id.display ++ " used all " ++
            Decimal.natText lastTokenTask.budget ++ " tokens")) :=
  ⟨rfl, rfl, clock_meters_tokens.2.2.2.2 _ lastTokenTask rfl rfl rfl⟩

end TaskMachine
