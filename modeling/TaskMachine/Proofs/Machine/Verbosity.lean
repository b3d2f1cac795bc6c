import Mathlib
import TaskMachine.Proofs.Machine.Reachable
import TaskMachine.Proofs.Machine.Send

/-! # Verbosity only adds address faults

A configuration's verbosity is read by the machine in one place that changes what it does:
`Exec.checkAddress`, which from level 2 on (`Config.validates`) faults on a jump or handler
target outside the current frame's code.  Logging and tracing change no state, so they are
not modelled at all, and the snapshot validation of `loadTask` is not a step.

So two processors that differ only in verbosity (`Processor.withVerbosity`) answer every clock
step and every resume alike when both check targets or neither does.  When only one of them
checks, they still answer alike up to the first clock step whose instruction leaves the
code (`Processor.LeavesCode`): a handler push, or a jump its condition takes, to a target
past the frame's bytecode.  There the checking one faults with `invalidAddress` and the
other goes on: `verbosity_changes_only_address_checks`. -/

set_option autoImplicit false

namespace TaskMachine

/-- Whether a jump on `condition` is taken over the components `components` of a frame whose
part of the stack starts at `base`: always, or by the component on top of that part. -/
def Condition.TakenIn (condition : Condition) (base : Nat) (components : List Value) : Prop :=
  match condition with
  | .always => True
  | .onNone => base < components.length ∧ components.getLast? = some .none
  | .onTrue => base < components.length ∧ components.getLast? = some (.boolean true)
  | .onFalse => base < components.length ∧ components.getLast? = some (.boolean false)

/-- Whether instruction `i`, run in frame `f` of task `t`, moves to or records a target past
the frame's code: a handler push, or a jump its condition takes. -/
def Instruction.LeavesCode (i : Instruction) (f : Frame) (t : Task) : Prop :=
  match i with
  | .jump target condition =>
    f.bytecode.length < target ∧ condition.TakenIn f.base t.components
  | .push .handler target => f.bytecode.length < target
  | _ => False

/-- Whether the next instruction of `t` leaves the code of its frame. -/
def Task.LeavesCode (t : Task) : Prop :=
  ∃ f w i, t.frame? = some f ∧ f.peek? = some w ∧ decode w = .ok i ∧ i.LeavesCode f t

theorem decode_jump_ne_zero {w : Word} {address : Nat} {condition : Condition}
    (decoded : decode w = .ok (.jump address condition)) : address ≠ 0 := by
  simp only [decode] at decoded
  split at decoded <;> split_ifs at decoded <;> cases decoded
  assumption

theorem decode_push_ne_zero {w : Word} {source : PushSource} {operand : Nat}
    (decoded : decode w = .ok (.push source operand)) : operand ≠ 0 := by
  simp only [decode] at decoded
  split at decoded <;> split_ifs at decoded <;> cases decoded
  assumption

namespace Exec

/-- Whether a jump on `condition` is taken, popping the condition as `execJump` does. -/
def jumpTaken (condition : Condition) : Exec Bool :=
  match condition with
  | .always => pure true
  | .onNone => do
    match ← pop with
    | .none => pure true
    | _ => pure false
  | .onTrue | .onFalse => do
    match ← pop with
    | .boolean b => pure (b == (condition == .onTrue))
    | other => raise .invalidArgument ("jump condition " ++ other.display ++ " is not a boolean")

theorem execJump_eq_bind (c : Config) (address : Nat) (condition : Condition) :
    execJump c address condition =
      jumpTaken condition >>= fun taken => if taken then jumpTo c address else advance := by
  cases condition <;> simp only [execJump, jumpTaken, bind_assoc, pure_bind]
  all_goals
    congr 1
    funext v
    cases v <;> rfl

theorem execPush_handler_eq_bind (c : Config) (address : Nat) :
    execPush c .handler address =
      checkAddress c address >>= fun _ =>
        modifyFrame (·.pushHandler address) >>= fun _ => advance := rfl

theorem jumpTo_eq_bind (c : Config) (address : Nat) :
    jumpTo c address = checkAddress c address >>= fun _ => modifyFrame (·.jumpTo address) := rfl

section Runs

variable {β : Type} {s : MachineState} {f : Frame}

theorem run_modifyFrame (inFrame : s.task.frame? = some f) (g : Frame → Frame) :
    (modifyFrame g).run s = .ok () { s with task := s.task.modifyFrame g } := by
  simp [modifyFrame, frame, task, modifyTask, inFrame]

theorem run_checkAddress (c : Config) (target : Nat) (inFrame : s.task.frame? = some f) :
    (checkAddress c target).run s =
      if c.validates && (target = 0 || f.bytecode.length < target) then
        .error (.fault (.invalidAddress f.address target f.bytecode.length)) s
      else .ok () s := by
  simp only [checkAddress, run_bind, run_frame inFrame]
  split <;> rfl

theorem run_checkAddress_of_le (c : Config) {target : Nat} (inFrame : s.task.frame? = some f)
    (nonzero : target ≠ 0) (inCode : target ≤ f.bytecode.length) :
    (checkAddress c target).run s = .ok () s := by
  rw [run_checkAddress c target inFrame]
  simp [nonzero, Nat.not_lt.mpr inCode]

theorem run_checkAddress_of_not_validates {c : Config} (unchecked : c.validates = false)
    (target : Nat) (inFrame : s.task.frame? = some f) :
    (checkAddress c target).run s = .ok () s := by
  simp [run_checkAddress c target inFrame, unchecked]

theorem run_checkAddress_of_lt {c : Config} (validating : c.validates = true) {target : Nat}
    (inFrame : s.task.frame? = some f) (beyond : f.bytecode.length < target) :
    (checkAddress c target).run s =
      .error (.fault (.invalidAddress f.address target f.bytecode.length)) s := by
  simp [run_checkAddress c target inFrame, validating, beyond]

theorem of_run_pop_ok (inFrame : s.task.frame? = some f) {v : Value} {s' : MachineState}
    (ran : pop.run s = .ok v s') :
    ∃ below, s.task.components = below ++ [v] ∧ f.base ≤ below.length ∧
      s' = { s with task := { s.task with components := below } } := by
  rcases List.eq_nil_or_concat s.task.components with hnil | ⟨l, y, hly⟩
  · simp [pop, frame, task, inFrame, Task.popComponent, hnil, run_fault] at ran
  · rw [List.concat_eq_append] at hly
    rw [run_pop inFrame hly] at ran
    split_ifs at ran with hlt
    cases ran
    exact ⟨l, hly, Nat.le_of_not_lt hlt, rfl⟩

theorem of_run_pop (inFrame : s.task.frame? = some f) {x : Value} {s' : MachineState}
    (ran : pop.run s = .ok x s') :
    f.base < s.task.components.length ∧ s.task.components.getLast? = some x ∧
      s'.task.frame? = some f := by
  obtain ⟨below, hc, hb, rfl⟩ := of_run_pop_ok inFrame ran
  exact ⟨by simp [hc]; omega, by simp [hc], inFrame⟩

theorem run_pop_of_lt (inFrame : s.task.frame? = some f) (aboveBase : f.base < s.task.components.length) :
    ∃ x s', s.task.components.getLast? = some x ∧ pop.run s = .ok x s' := by
  obtain ⟨l, y, hly⟩ := (List.eq_nil_or_concat s.task.components).resolve_left
    (List.ne_nil_of_length_pos (Nat.zero_lt_of_lt aboveBase))
  rw [List.concat_eq_append] at hly
  have hle : ¬ l.length < f.base := by simp [hly] at aboveBase; omega
  exact ⟨y, _, by simp [hly], by rw [run_pop inFrame hly, if_neg hle]⟩

theorem of_run_jumpTaken (inFrame : s.task.frame? = some f) {condition : Condition} {taken : Bool}
    {s' : MachineState} (ran : (jumpTaken condition).run s = .ok taken s') :
    s'.task.frame? = some f ∧ (taken = true → condition.TakenIn f.base s.task.components) := by
  cases condition with
  | always =>
    cases ran
    exact ⟨inFrame, fun _ => trivial⟩
  | onNone | onTrue | onFalse =>
    simp only [jumpTaken, run_bind] at ran
    split at ran
    · next x s'' hpop =>
      obtain ⟨hlt, htop, hf'⟩ := of_run_pop inFrame hpop
      split at ran <;> cases ran
      all_goals exact ⟨hf', by simp_all [Condition.TakenIn]⟩
    · cases ran

theorem run_jumpTaken_of_takenIn (inFrame : s.task.frame? = some f) {condition : Condition}
    (taken : condition.TakenIn f.base s.task.components) :
    ∃ s', (jumpTaken condition).run s = .ok true s' := by
  cases condition with
  | always => exact ⟨s, rfl⟩
  | onNone | onTrue | onFalse =>
    obtain ⟨hlt, htop⟩ := taken
    obtain ⟨x, s', hx, hpop⟩ := run_pop_of_lt inFrame hlt
    obtain rfl := Option.some.inj (hx.symm.trans htop)
    simp only [jumpTaken, run_bind, hpop]
    exact ⟨s', rfl⟩

end Runs

section Verbosity

variable {c : Config} {v : Verbosity} {s : MachineState} {f : Frame} {i : Instruction}

theorem checkAddress_withVerbosity (sameValidation : v.validates = c.validates) (target : Nat) :
    checkAddress { c with verbosity := v } target = checkAddress c target := by
  have hc : ({ c with verbosity := v } : Config).validates = c.validates := sameValidation
  simp only [checkAddress, hc]

theorem execute_withVerbosity (sameValidation : v.validates = c.validates) (i : Instruction) :
    execute { c with verbosity := v } i = execute c i := by
  cases i with
  | jump address condition =>
    simp only [execute, execJump_eq_bind, jumpTo_eq_bind, checkAddress_withVerbosity sameValidation]
  | push source operand =>
    cases source
    · simp only [execute, execPush_handler_eq_bind, checkAddress_withVerbosity sameValidation]
    all_goals rfl
  | _ => rfl

theorem run_execute_of_not_leavesCode (unchecked : v.validates = false) (inFrame : s.task.frame? = some f)
    {w : Word} (decoded : decode w = .ok i) (staysInCode : ¬ i.LeavesCode f s.task) :
    (execute { c with verbosity := v } i).run s = (execute c i).run s := by
  have hv' : ({ c with verbosity := v } : Config).validates = false := unchecked
  cases i with
  | jump address condition =>
    -- decoding rules out a zero target, which the check would refuse even inside the code
    have hz := decode_jump_ne_zero decoded
    simp only [execute, execJump_eq_bind, run_bind]
    cases hj : (jumpTaken condition).run s with
    | ok taken s' =>
      obtain ⟨hf', htaken⟩ := of_run_jumpTaken inFrame hj
      cases taken with
      | false => rfl
      | true =>
        have hle : address ≤ f.bytecode.length := by
          by_contra hlt
          exact staysInCode ⟨Nat.lt_of_not_le hlt, htaken rfl⟩
        simp only [if_true, jumpTo_eq_bind, run_bind, run_checkAddress_of_not_validates hv' _ hf',
          run_checkAddress_of_le c hf' hz hle]
    | error e s' => rfl
  | push source operand =>
    cases source
    · have hle : operand ≤ f.bytecode.length := Nat.le_of_not_lt staysInCode
      simp only [execute, execPush_handler_eq_bind, run_bind,
        run_checkAddress_of_not_validates hv' _ inFrame, run_checkAddress_of_le c inFrame (decode_push_ne_zero decoded) hle]
    all_goals rfl
  | _ => rfl

theorem run_execute_of_leavesCode (validating : c.validates = true) (unchecked : v.validates = false)
    (inFrame : s.task.frame? = some f) (leaves : i.LeavesCode f s.task) :
    (∃ target s', f.bytecode.length < target ∧
      (execute c i).run s = .error (.fault (.invalidAddress f.address target f.bytecode.length)) s') ∧
    ∃ s', (execute { c with verbosity := v } i).run s = .ok () s' := by
  have hv' : ({ c with verbosity := v } : Config).validates = false := unchecked
  cases i with
  | jump address condition =>
    obtain ⟨hlt, htaken⟩ := leaves
    obtain ⟨s', hj⟩ := run_jumpTaken_of_takenIn inFrame htaken
    have hf' := (of_run_jumpTaken inFrame hj).1
    simp only [execute, execJump_eq_bind, run_bind, hj, if_true, jumpTo_eq_bind,
      run_checkAddress_of_lt validating hf' hlt, run_checkAddress_of_not_validates hv' _ hf',
      run_modifyFrame hf']
    exact ⟨⟨address, s', hlt, rfl⟩, _, rfl⟩
  | push source operand =>
    cases source
    · have hf' := Task.frame?_modifyFrame inFrame (·.pushHandler operand)
      simp only [execute, execPush_handler_eq_bind, run_bind, run_checkAddress_of_lt validating inFrame leaves,
        run_checkAddress_of_not_validates hv' _ inFrame, run_modifyFrame inFrame, advance]
      exact ⟨⟨operand, s, leaves, rfl⟩, _, run_modifyFrame hf' _⟩
    all_goals exact leaves.elim
  | _ => exact leaves.elim

/-- The state a cycle runs its instruction in: the fetched word recorded in the frame. -/
def fetched (s : MachineState) (w : Word) : MachineState :=
  ⟨s.task.modifyFrame fun f => { f with instruction := w }, s.repository⟩

theorem run_fetchAndExecute (c : Config) {w : Word} (inFrame : s.task.frame? = some f)
    (peeked : f.peek? = some w) (decoded : decode w = .ok i) :
    (fetchAndExecute c).run s = (execute c i).run (fetched s w) :=
  fetchAndExecute_run c inFrame peeked decoded

theorem run_fetchAndExecute_congr {c c' : Config}
    (agree : ∀ f w i, s.task.frame? = some f → f.peek? = some w → decode w = .ok i →
      (execute c' i).run (fetched s w) = (execute c i).run (fetched s w)) :
    (fetchAndExecute c').run s = (fetchAndExecute c).run s := by
  obtain ⟨u, r⟩ := s
  cases hf : u.frame? with
  | none => simp [fetchAndExecute, frame, task, hf, run_fault]
  | some f =>
    cases hw : f.peek? with
    | none => simp [fetchAndExecute, frame, task, hf, hw]
    | some w =>
      cases hi : decode w with
      | error e => simp [fetchAndExecute, frame, task, modifyFrame, modifyTask, hf, hw, hi]
      | ok i =>
        rw [run_fetchAndExecute c hf hw hi, run_fetchAndExecute c' hf hw hi]
        exact agree f w i hf hw hi

end Verbosity

end Exec

section Cycle

variable {c : Config} {v : Verbosity} {s : MachineState}

theorem Instruction.leavesCode_fetched {i : Instruction} {f : Frame} {t : Task} (w : Word) :
    i.LeavesCode { f with instruction := w } (t.modifyFrame fun f => { f with instruction := w }) ↔
      i.LeavesCode f t := by
  simp only [Instruction.LeavesCode, Task.modifyFrame_components]

theorem cycle_congr {c' : Config} (agree : (Exec.fetchAndExecute c').run s = (Exec.fetchAndExecute c).run s) :
    cycle c' s = cycle c s := by
  unfold cycle
  rw [agree]

theorem cycle_withVerbosity (sameValidation : v.validates = c.validates) (s : MachineState) :
    cycle { c with verbosity := v } s = cycle c s := by
  apply cycle_congr
  simp only [Exec.fetchAndExecute, Exec.execute_withVerbosity sameValidation]

theorem cycle_withVerbosity_of_not_leavesCode (unchecked : v.validates = false)
    (staysInCode : ¬ s.task.LeavesCode) : cycle { c with verbosity := v } s = cycle c s := by
  apply cycle_congr
  apply Exec.run_fetchAndExecute_congr
  intro f w i hf hw hi
  apply Exec.run_execute_of_not_leavesCode unchecked (Task.frame?_modifyFrame hf _) hi
  simp only [Exec.fetched, Instruction.leavesCode_fetched]
  exact fun hl => staysInCode ⟨f, w, i, hf, hw, hi, hl⟩

theorem cycle_of_leavesCode (validating : c.validates = true) (unchecked : v.validates = false)
    (leaves : s.task.LeavesCode) :
    (∃ address target length, length < target ∧
      (cycle c s).2 = some (.invalidAddress address target length)) ∧
    (cycle { c with verbosity := v } s).2 = none := by
  obtain ⟨f, w, i, hf, hw, hi, hl⟩ := leaves
  have hf' := Task.frame?_modifyFrame hf fun f => { f with instruction := w }
  rw [← Instruction.leavesCode_fetched w] at hl
  obtain ⟨⟨target, s', hlt, hrun⟩, s'', hrun'⟩ :=
    Exec.run_execute_of_leavesCode (v := v) (s := Exec.fetched s w) validating unchecked hf' hl
  unfold cycle
  rw [Exec.run_fetchAndExecute _ hf hw hi, Exec.run_fetchAndExecute _ hf hw hi]
  exact ⟨⟨_, target, _, hlt, by rw [hrun]⟩, by rw [hrun']⟩

end Cycle

/-- A call that drives a task: a clock step, or a delivery to a waiting task. -/
inductive Tick where
  | step
  | resume
  deriving DecidableEq, Repr

namespace Processor

def withVerbosity (p : Processor) (v : Verbosity) : Processor :=
  { p with config := { p.config with verbosity := v } }

/-- Whether the next clock step runs an instruction that leaves the code: no fault is held,
and the task is active, has tokens left and stands at such an instruction. -/
def LeavesCode (p : Processor) : Prop :=
  p.fault = none ∧ ∃ t, p.task = some t ∧ t.state = .active ∧ t.tokens ≠ 0 ∧ t.LeavesCode

def tick (p : Processor) : Tick → Processor × Except ExecutionError Bool
  | .step => p.stepClock
  | .resume => p.resume

/-- The processor after a sequence of calls, with the answer to each. -/
def ticks (p : Processor) : List Tick → Processor × List (Except ExecutionError Bool)
  | [] => (p, [])
  | k :: ks => (((p.tick k).1.ticks ks).1, (p.tick k).2 :: ((p.tick k).1.ticks ks).2)

variable {p : Processor} {v : Verbosity}

theorem tick_config (p : Processor) (k : Tick) : (p.tick k).1.config = p.config := by
  cases k
  · exact stepClock_config p
  · exact resume_config p

theorem stepClock_withVerbosity_of_cycle
    (agree : p.fault = none → ∀ t, p.task = some t → t.state = .active → t.tokens ≠ 0 →
      cycle { p.config with verbosity := v } ⟨t, p.repository⟩ = cycle p.config ⟨t, p.repository⟩) :
    (p.withVerbosity v).stepClock = (p.stepClock.1.withVerbosity v, p.stepClock.2) := by
  obtain ⟨config, repository, task, fault⟩ := p
  rcases fault with _ | e
  · rcases task with _ | t
    · rfl
    · by_cases hactive : t.state = .active
      · by_cases htokens : t.tokens = 0
        · simp [stepClock, withVerbosity, hactive, htokens]
        · have hcycle := agree rfl t rfl hactive htokens
          simp only [stepClock, withVerbosity, hactive, htokens, ne_eq, not_true_eq_false,
            if_false] at hcycle ⊢
          rw [hcycle]
          rcases cycle config ⟨t, repository⟩ with ⟨s, _ | e⟩ <;> rfl
      · simp [stepClock, withVerbosity, hactive]
  · rfl

theorem resume_withVerbosity (p : Processor) (v : Verbosity) :
    (p.withVerbosity v).resume = (p.resume.1.withVerbosity v, p.resume.2) := by
  obtain ⟨config, repository, task, fault⟩ := p
  rcases task with _ | t
  · rfl
  · cases hw : t.wait with
    | none => simp [resume, withVerbosity, hw]
    | some bag =>
      cases hr : repository.retrieve bag with
      | mk r m =>
        cases m with
        | none => simp [resume, withVerbosity, hw, hr]
        | some m =>
          cases hm : t.resume m with
          | mk t' e => cases e <;> simp [resume, withVerbosity, hw, hr, hm]

theorem tick_withVerbosity (sameValidation : v.validates = p.config.validates) (k : Tick) :
    (p.withVerbosity v).tick k = ((p.tick k).1.withVerbosity v, (p.tick k).2) := by
  cases k
  · exact stepClock_withVerbosity_of_cycle fun _ t _ _ _ => cycle_withVerbosity sameValidation _
  · exact resume_withVerbosity p v

theorem tick_withVerbosity_of_not_leavesCode (unchecked : v.validates = false) {k : Tick}
    (staysInCode : ¬ (k = .step ∧ p.LeavesCode)) :
    (p.withVerbosity v).tick k = ((p.tick k).1.withVerbosity v, (p.tick k).2) := by
  cases k
  · exact stepClock_withVerbosity_of_cycle fun hf t ht hactive htokens =>
      cycle_withVerbosity_of_not_leavesCode unchecked fun hl => staysInCode ⟨rfl, hf, t, ht, hactive, htokens, hl⟩
  · exact resume_withVerbosity p v

theorem stepClock_of_leavesCode (validating : p.config.validates = true) (unchecked : v.validates = false)
    (leaves : p.LeavesCode) :
    (∃ address target length, length < target ∧
      p.stepClock.2 = .error (.invalidAddress address target length)) ∧
    ∃ active, (p.withVerbosity v).stepClock.2 = .ok active := by
  obtain ⟨hf, t, ht, hactive, htokens, hl⟩ := leaves
  obtain ⟨⟨address, target, length, hlt, hfault⟩, hnone⟩ :=
    cycle_of_leavesCode (s := ⟨t, p.repository⟩) (v := v) validating unchecked hl
  constructor
  · refine ⟨address, target, length, hlt, ?_⟩
    rcases hcycle : cycle p.config ⟨t, p.repository⟩ with ⟨s, e⟩
    rw [hcycle] at hfault
    cases hfault
    simp [stepClock, hf, ht, hactive, htokens, hcycle]
  · rcases hcycle : cycle { p.config with verbosity := v } ⟨t, p.repository⟩ with ⟨s, e⟩
    rw [hcycle] at hnone
    cases hnone
    simp [stepClock, withVerbosity, hf, ht, hactive, htokens, hcycle]

theorem ticks_withVerbosity (sameValidation : v.validates = p.config.validates) (ks : List Tick) :
    (p.withVerbosity v).ticks ks = ((p.ticks ks).1.withVerbosity v, (p.ticks ks).2) := by
  induction ks generalizing p with
  | nil => rfl
  | cons k ks ih =>
    have hk : v.validates = (p.tick k).1.config.validates := by rw [tick_config]; exact sameValidation
    simp only [ticks, tick_withVerbosity sameValidation k, ih hk]

theorem ticks_withVerbosity_of_validates (validating : p.config.validates = true)
    (unchecked : v.validates = false) (ks : List Tick) :
    (p.withVerbosity v).ticks ks = ((p.ticks ks).1.withVerbosity v, (p.ticks ks).2) ∨
    ∃ pre post, ks = pre ++ .step :: post ∧
      (p.withVerbosity v).ticks pre = ((p.ticks pre).1.withVerbosity v, (p.ticks pre).2) ∧
      (p.ticks pre).1.LeavesCode ∧
      (∃ address target length, length < target ∧
        (p.ticks pre).1.stepClock.2 = .error (.invalidAddress address target length)) ∧
      ∃ active, ((p.ticks pre).1.withVerbosity v).stepClock.2 = .ok active := by
  induction ks generalizing p with
  | nil => exact .inl rfl
  | cons k ks ih =>
    by_cases hleaves : k = .step ∧ p.LeavesCode
    · -- the first call already parts them
      obtain ⟨rfl, hl⟩ := hleaves
      exact .inr ⟨[], ks, rfl, rfl, hl, stepClock_of_leavesCode validating unchecked hl⟩
    · have htick := tick_withVerbosity_of_not_leavesCode unchecked hleaves
      have hc' : (p.tick k).1.config.validates = true := by rw [tick_config]; exact validating
      rcases ih hc' with same | ⟨pre, post, rfl, hsame, hl, hfault, hok⟩
      · exact .inl (by simp only [ticks, htick, same])
      · exact .inr ⟨k :: pre, post, rfl, by simp only [ticks, htick, hsame], hl, hfault, hok⟩

end Processor

/-- Two processors that differ only in verbosity answer every sequence of clock steps and
resumes alike when both check targets or neither does.  When only `p` checks them, they
answer alike all the way, or up to a clock step whose instruction leaves the code: there `p`
faults with `invalidAddress` on a target past the code, and the other answers. -/
theorem verbosity_changes_only_address_checks (p : Processor) (v : Verbosity) (ks : List Tick) :
    (v.validates = p.config.validates →
      (p.withVerbosity v).ticks ks = ((p.ticks ks).1.withVerbosity v, (p.ticks ks).2)) ∧
    (p.config.validates = true → v.validates = false →
      (p.withVerbosity v).ticks ks = ((p.ticks ks).1.withVerbosity v, (p.ticks ks).2) ∨
      ∃ pre post, ks = pre ++ .step :: post ∧
        (p.withVerbosity v).ticks pre = ((p.ticks pre).1.withVerbosity v, (p.ticks pre).2) ∧
        (p.ticks pre).1.LeavesCode ∧
        (∃ address target length, length < target ∧
          (p.ticks pre).1.stepClock.2 = .error (.invalidAddress address target length)) ∧
        ∃ active, ((p.ticks pre).1.withVerbosity v).stepClock.2 = .ok active) :=
  ⟨fun h => Processor.ticks_withVerbosity h ks,
    fun hc hv => Processor.ticks_withVerbosity_of_validates hc hv ks⟩

/-- A processor at verbosity 2 whose task's only instruction jumps to address 5. -/
def leapingProcessor : Processor :=
  ⟨{ Config.default with verbosity := Verbosity.validating }, Repository.empty,
    some (Task.start ⟨0⟩ Name.root 5
      ⟨.none, ⟨"run"⟩, [], [], [], [], [], [], ⟨[5]⟩, 1, 0, 0⟩), none⟩

/-- At verbosity 3 the leaping processor runs as at 2; at 0 it runs alike, or alike up to the
jump, which faults at 2 only. -/
theorem leaping_processor_parts_at_the_jump :
    (leapingProcessor.withVerbosity ⟨3, by decide⟩).ticks [.step, .resume] =
        ((leapingProcessor.ticks [.step, .resume]).1.withVerbosity ⟨3, by decide⟩,
          (leapingProcessor.ticks [.step, .resume]).2) ∧
      ((leapingProcessor.withVerbosity ⟨0, by decide⟩).ticks [.step] =
          ((leapingProcessor.ticks [.step]).1.withVerbosity ⟨0, by decide⟩,
            (leapingProcessor.ticks [.step]).2) ∨
        ∃ pre post, [Tick.step] = pre ++ .step :: post ∧
          (leapingProcessor.withVerbosity ⟨0, by decide⟩).ticks pre =
            ((leapingProcessor.ticks pre).1.withVerbosity ⟨0, by decide⟩,
              (leapingProcessor.ticks pre).2) ∧
          (leapingProcessor.ticks pre).1.LeavesCode ∧
          (∃ address target length, length < target ∧
            (leapingProcessor.ticks pre).1.stepClock.2 =
              .error (.invalidAddress address target length)) ∧
          ∃ active,
            ((leapingProcessor.ticks pre).1.withVerbosity ⟨0, by decide⟩).stepClock.2 = .ok active) :=
  ⟨(verbosity_changes_only_address_checks leapingProcessor ⟨3, by decide⟩ _).1 rfl,
    (verbosity_changes_only_address_checks leapingProcessor ⟨0, by decide⟩ _).2 rfl rfl⟩

example : leapingProcessor.stepClock.2 = .error (.invalidAddress 1 5 1) ∧
    (leapingProcessor.withVerbosity ⟨0, by decide⟩).stepClock.2 = .ok true := ⟨rfl, rfl⟩

end TaskMachine
