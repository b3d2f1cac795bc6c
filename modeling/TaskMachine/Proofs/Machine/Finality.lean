import Mathlib
import TaskMachine.Proofs.Machine.Soundness
import TaskMachine.Proofs.Machine.Metering

/-! # Finished tasks stay finished, and faults stick

A task ends completed or abandoned, and from then on nothing changes it: each transition of
the task refuses to leave a final state (`Task.final_refuses`), and the processor's steps,
runs and resumes leave the task as it is (`Processor.Call.keeps_final`).  A waiting task is
left alone by steps and runs in the same way, until a resume finds its message
(`Processor.waiting_waits`).

A fault stops an instruction before its last move, and so never reaches the task's
outcome: a faulting step leaves the task active, with no result or exception, and with its
tokens (`Processor.stepClock_halts_running`).  Every instruction reads its operands, and
may fault, before it moves on, starts to wait or completes; the triples `Exec.*_running`
say so, one per instruction.  The processor keeps the fault and answers it to every later
step without changing anything, until another task comes in (`Processor.Stuck`).

The processor looks at its fault before its task.  A task ended from outside after a fault
is final, and its steps still answer the old fault (`fault_outlives_final_task`). -/

open Std.Do

set_option autoImplicit false
set_option mvcgen.warning false

namespace TaskMachine

namespace Task

/-- A running task: active, with neither a result nor an exception. -/
def Running (t : Task) : Prop :=
  t.state = .active ∧ t.result = none ∧ t.exception = none

variable {t : Task}

@[simp]
theorem running_modifyFrame (g : Frame → Frame) : (t.modifyFrame g).Running ↔ t.Running := by
  simp [Running]

@[simp]
theorem running_pushComponent (v : Value) : (t.pushComponent v).Running ↔ t.Running :=
  Iff.rfl

@[simp]
theorem running_dropFrame (f : Frame) : (t.dropFrame f).Running ↔ t.Running :=
  Iff.rfl

theorem Live.running (live : t.Live) : t.Running :=
  ⟨live.active, live.idle.2.2⟩

theorem unwindFrames_snd (e : Value) :
    ∀ (frames : List Frame) (t : Task), t.state = .active → (t.unwindFrames e frames).2 = none
  | [], t, h => by simp [unwindFrames, abandon, moveTo, h, TaskState.canMoveTo, Except.map]
  | f :: below, t, h => by
      unfold unwindFrames
      split
      · rfl
      · exact unwindFrames_snd e below _ h

theorem raise_snd_of_active (active : t.state = .active) (e : Value) : (t.raise e).2 = none :=
  unwindFrames_snd e _ t active

theorem final_refuses (final : t.state.isTerminal = true) (next : TaskState) (bag : Name)
    (v : Value) :
    t.moveTo next = .error (.invalidTransition t.state next) ∧
      t.waitOn bag = .error (.invalidTransition t.state .waiting) ∧
      t.complete v = .error (.invalidTransition t.state .completed) ∧
      t.abandon v = .error (.invalidTransition t.state .abandoned) ∧
      t.resume v = (t, some (.invalidTransition t.state .active)) ∧
      t.exhaust = t := by
  have refused : ∀ s, t.moveTo s = .error (.invalidTransition t.state s) := fun s => by
    simp [moveTo, TaskState.canMoveTo_of_terminal _ s final]
  refine ⟨refused next, ?_, ?_, ?_, ?_, ?_⟩
  · simp [waitOn, refused, Except.map]
  · simp [complete, refused, Except.map]
  · simp [abandon, refused, Except.map]
  · simp [resume, refused]
  · simp [exhaust, final]

/-- A transition made on a task from outside, through one of the task's own operations.  A
refused one changes nothing, and is none. -/
inductive Transition (t : Task) : Task → Prop
  | moveTo {next : TaskState} {t' : Task} : t.moveTo next = .ok t' → Transition t t'
  | waitOn {bag : Name} {t' : Task} : t.waitOn bag = .ok t' → Transition t t'
  | complete {v : Value} {t' : Task} : t.complete v = .ok t' → Transition t t'
  | abandon {v : Value} {t' : Task} : t.abandon v = .ok t' → Transition t t'
  | resume (v : Value) : Transition t (t.resume v).1
  | exhaust : Transition t t.exhaust

theorem Transition.eq_of_final {t' : Task} (move : t.Transition t')
    (final : t.state.isTerminal = true) : t' = t := by
  have ⟨hmove, hwait, hcomplete, habandon, _, hexhaust⟩ :=
    final_refuses final .active Name.root .none
  cases move with
  | moveTo hm =>
      rename_i next
      rw [(final_refuses final next Name.root .none).1] at hm
      cases hm
  | waitOn hw =>
      rename_i bag
      rw [(final_refuses final .active bag .none).2.1] at hw
      cases hw
  | complete hc =>
      rename_i v
      rw [(final_refuses final .active Name.root v).2.2.1] at hc
      cases hc
  | abandon ha =>
      rename_i v
      rw [(final_refuses final .active Name.root v).2.2.2.1] at ha
      cases ha
  | resume v => rw [(final_refuses final .active Name.root v).2.2.2.2.1]
  | exhaust => exact hexhaust

end Task

namespace Exec

/-! ## A fault stops an instruction while it reads -/

theorem pop_running :
    ⦃fun s => ⌜s.task.Running⌝⦄ pop
      ⦃post⟨fun _ s => ⌜s.task.Running⌝, fun _ s => ⌜s.task.Running⌝⟩⦄ := by
  mvcgen [pop, frame, task, modifyTask, fault] with
    grind [Task.popComponent, Task.Running]

theorem popMany_running (n : Nat) :
    ⦃fun s => ⌜s.task.Running⌝⦄ popMany n
      ⦃post⟨fun _ s => ⌜s.task.Running⌝, fun _ s => ⌜s.task.Running⌝⟩⦄ := by
  induction n with
  | zero => mvcgen [popMany]
  | succ n ih =>
      have hpop := pop_running
      mvcgen [popMany, hpop, ih]

theorem push_running (c : Config) (v : Value) :
    ⦃fun s => ⌜s.task.Running⌝⦄ Exec.push c v
      ⦃post⟨fun _ s => ⌜s.task.Running⌝, fun _ s => ⌜s.task.Running⌝⟩⦄ := by
  mvcgen [Exec.push, task, modifyTask, raise]

theorem advance_running :
    ⦃fun s => ⌜s.task.Running⌝⦄ Exec.advance
      ⦃post⟨fun _ s => ⌜s.task.Running⌝, fun _ s => ⌜s.task.Running⌝⟩⦄ := by
  mvcgen [Exec.advance, modifyFrame, frame, task, modifyTask, fault] with
    simp_all +zetaDelta

theorem jumpTo_running (c : Config) (target : Nat) :
    ⦃fun s => ⌜s.task.Running⌝⦄ Exec.jumpTo c target
      ⦃post⟨fun _ s => ⌜s.task.Running⌝, fun _ s => ⌜s.task.Running⌝⟩⦄ := by
  mvcgen [Exec.jumpTo, checkAddress, modifyFrame, frame, task, modifyTask, fault] with
    simp_all +zetaDelta

theorem execJump_running (c : Config) (address : Nat) (condition : Condition) :
    ⦃fun s => ⌜s.task.Running⌝⦄ execJump c address condition
      ⦃post⟨fun _ _ => ⌜True⌝, fun _ s => ⌜s.task.Running⌝⟩⦄ := by
  have hpop := pop_running
  have hjump := jumpTo_running c
  have hadvance := advance_running
  mvcgen [execJump, hpop, hjump, hadvance, raise]

theorem execPush_running (c : Config) (source : PushSource) (operand : Nat) :
    ⦃fun s => ⌜s.task.Running⌝⦄ execPush c source operand
      ⦃post⟨fun _ _ => ⌜True⌝, fun _ s => ⌜s.task.Running⌝⟩⦄ := by
  have hpush := push_running c
  have hadvance := advance_running
  mvcgen [execPush, hpush, hadvance, checkAddress, modifyFrame, frame, task, modifyTask, orFault,
    fault] with
    simp_all +zetaDelta

theorem execPull_running (target : PullTarget) :
    ⦃fun s => ⌜s.task.Running⌝⦄ execPull target
      ⦃post⟨fun _ _ => ⌜True⌝, fun _ s => ⌜s.task.Running⌝⟩⦄ := by
  have hpop := pop_running
  have hadvance := advance_running
  cases target with
  | handler =>
      mvcgen [execPull, hadvance, modifyFrame, frame, task, modifyTask, orFault, fault]
      all_goals simp_all +zetaDelta
  | component =>
      mvcgen [execPull, hpop, hadvance]
  | result =>
      -- a refused completion faults on the task with its frame dropped, which still runs
      mvcgen [execPull, hpop, frame, task, modifyTask, orFault, fault]
  | exception =>
      mvcgen [execPull, hpop]

theorem execLoad_running (c : Config) (storage : Storage) (slot : Nat) :
    ⦃fun s => ⌜s.task.Running⌝⦄ execLoad c storage slot
      ⦃post⟨fun _ _ => ⌜True⌝, fun _ s => ⌜s.task.Running⌝⟩⦄ := by
  have hpush := push_running c
  have hadvance := advance_running
  mvcgen [execLoad, hpush, hadvance, nameIn, missing, modifyRepository, frame, task, modifyTask,
    orFault, raise, fault]

theorem execSave_running (storage : Storage) (slot : Nat) :
    ⦃fun s => ⌜s.task.Running⌝⦄ execSave storage slot
      ⦃post⟨fun _ _ => ⌜True⌝, fun _ s => ⌜s.task.Running⌝⟩⦄ := by
  have hpop := pop_running
  have hadvance := advance_running
  mvcgen [execSave, hpop, hadvance, nameIn, modifyRepository, modifyFrame, frame, task, modifyTask,
    orFault, raise, fault] with
    simp_all +zetaDelta

theorem execDrop_running (storage : Storage) (slot : Nat) :
    ⦃fun s => ⌜s.task.Running⌝⦄ execDrop storage slot
      ⦃post⟨fun _ _ => ⌜True⌝, fun _ s => ⌜s.task.Running⌝⟩⦄ := by
  have hadvance := advance_running
  mvcgen [execDrop, hadvance, nameIn, missing, modifyRepository, modifyFrame, frame, task,
    modifyTask, orFault, raise, fault] with
    simp_all +zetaDelta

theorem execCall_running (c : Config) (intrinsic arguments : Nat) :
    ⦃fun s => ⌜s.task.Running⌝⦄ execCall c intrinsic arguments
      ⦃post⟨fun _ _ => ⌜True⌝, fun _ s => ⌜s.task.Running⌝⟩⦄ := by
  have hpopMany := popMany_running
  have hpush := push_running c
  have hadvance := advance_running
  mvcgen [execCall, hpopMany, hpush, hadvance, raise]

theorem execSend_running (c : Config) (message : Nat) (target : SendTarget) :
    ⦃fun s => ⌜s.task.Running⌝⦄ execSend c message target
      ⦃post⟨fun _ _ => ⌜True⌝, fun _ s => ⌜s.task.Running⌝⟩⦄ := by
  have hpop := pop_running
  mvcgen [execSend, sendArguments, resolveReceiver, startCallee, hpop, missing, frame, task,
    modifyTask, orFault, raise, fault]

theorem execute_running (c : Config) (i : Instruction) :
    ⦃fun s => ⌜s.task.Running⌝⦄ execute c i
      ⦃post⟨fun _ _ => ⌜True⌝, fun _ s => ⌜s.task.Running⌝⟩⦄ := by
  have hadvance := advance_running
  have hjump := execJump_running c
  have hpush := execPush_running c
  have hpull := execPull_running
  have hload := execLoad_running c
  have hsave := execSave_running
  have hdrop := execDrop_running
  have hcall := execCall_running c
  have hsend := execSend_running c
  mvcgen [execute, hadvance, hjump, hpush, hpull, hload, hsave, hdrop, hcall, hsend]

theorem fetchAndExecute_running (c : Config) :
    ⦃fun s => ⌜s.task.Running⌝⦄ fetchAndExecute c
      ⦃post⟨fun _ _ => ⌜True⌝, fun _ s => ⌜s.task.Running⌝⟩⦄ := by
  have hexecute := execute_running c
  mvcgen [fetchAndExecute, hexecute, modifyFrame, frame, task, modifyTask, fault] with
    simp_all +zetaDelta

end Exec

theorem cycle_running_of_fault {c : Config} {s : MachineState} (running : s.task.Running)
    {e : ExecutionError} (faulted : (cycle c s).2 = some e) : (cycle c s).1.task.Running := by
  have run := EStateM.of_wp_run_eq rfl (fun r : EStateM.Result Interrupt MachineState Unit =>
    match r with
    | .ok _ _ => True
    | .error _ s' => s'.task.Running)
    (by simpa using Exec.fetchAndExecute_running c s running)
  delta cycle at faulted ⊢
  generalize (Exec.fetchAndExecute c).run s = r at run faulted ⊢
  cases r with
  | ok _ s' => cases faulted
  | error i s' =>
      cases i with
      | fault e => exact run
      | raise v =>
          rw [Task.raise_snd_of_active run.1 v] at faulted
          cases faulted

namespace Processor

variable {p q : Processor} {t : Task} {e : ExecutionError}

/-- What a step answers when it runs nothing: the fault the processor holds, or else that
the task is not active. -/
def idle (p : Processor) : Except ExecutionError Bool :=
  match p.fault with
  | some e => .error e
  | none => .ok false

theorem idle_ne_ok_true (p : Processor) : p.idle ≠ .ok true := by
  unfold idle
  split <;> simp

theorem stepClock_of_not_active (current : p.task = some t) (notActive : t.state ≠ .active) :
    p.stepClock = (p, p.idle) := by
  unfold stepClock idle
  cases p.fault with
  | some e => rfl
  | none => simp [current, notActive]

theorem runFor_of_stepClock_self {r : Except ExecutionError Bool} (stays : p.stepClock = (p, r))
    (stops : r ≠ .ok true) (limit : Nat) : (p.runFor limit).1 = p := by
  cases limit with
  | zero => rfl
  | succ n =>
      simp only [runFor, stays]
      split <;> simp_all

theorem run_of_stepClock_self {r : Except ExecutionError Bool} (stays : p.stepClock = (p, r))
    (stops : r ≠ .ok true) : p.run.1 = p :=
  runFor_of_stepClock_self stays stops _

theorem resume_fault (p : Processor) : p.resume.1.fault = p.fault := by
  unfold resume
  split
  · rfl
  · split
    · rfl
    · split
      · rfl
      · split <;> rfl

theorem resume_of_final (current : p.task = some t) (final : t.state.isTerminal = true) :
    p.resume.1.task = some t := by
  rcases resume_task p with same | ⟨t₀, m, ht₀, hresume⟩
  · rw [same, current]
  · rw [current, Option.some.injEq] at ht₀
    subst ht₀
    rw [hresume, (Task.final_refuses final .active Name.root m).2.2.2.2.1]

/-- A call a driver makes on a processor: a clock step, a bounded or a full run, a resume, a
transition made on its task from outside, or a change of the repository by someone else. -/
inductive Call : Processor → Processor → Prop
  | step (p : Processor) : Call p p.stepClock.1
  | runFor (p : Processor) (limit : Nat) : Call p (p.runFor limit).1
  | run (p : Processor) : Call p p.run.1
  | resume (p : Processor) : Call p p.resume.1
  | transition {p : Processor} {t t' : Task} :
      p.task = some t → t.Transition t' → Call p { p with task := some t' }
  | repository (p : Processor) (r : Repository) : Call p { p with repository := r }

theorem Call.keeps_final (call : Call p q) (current : p.task = some t)
    (final : t.state.isTerminal = true) : q.task = some t ∧ q.fault = p.fault := by
  have hstill : t.state ≠ .active := by
    intro hs
    rw [hs] at final
    cases final
  have hstep := stepClock_of_not_active current hstill
  cases call with
  | step => rw [hstep]; exact ⟨current, rfl⟩
  | runFor => rw [runFor_of_stepClock_self hstep (idle_ne_ok_true p)]; exact ⟨current, rfl⟩
  | run => rw [run_of_stepClock_self hstep (idle_ne_ok_true p)]; exact ⟨current, rfl⟩
  | resume => exact ⟨resume_of_final current final, resume_fault p⟩
  | transition ht' move =>
      rw [current, Option.some.injEq] at ht'
      subst ht'
      exact ⟨by rw [move.eq_of_final final], rfl⟩
  | repository r => exact ⟨current, rfl⟩

theorem final_stays (current : p.task = some t) (final : t.state.isTerminal = true)
    (calls : Relation.ReflTransGen Call p q) :
    q.task = some t ∧ q.stepClock = (q, p.idle) := by
  have kept : q.task = some t ∧ q.fault = p.fault := by
    induction calls with
    | refl => exact ⟨current, rfl⟩
    | tail _ call ih =>
        have ⟨hq, hf⟩ := call.keeps_final ih.1 final
        exact ⟨hq, hf.trans ih.2⟩
  have hstill : t.state ≠ .active := by
    intro hs
    rw [hs] at final
    cases final
  refine ⟨kept.1, ?_⟩
  rw [stepClock_of_not_active kept.1 hstill]
  simp only [idle, kept.2]

theorem waiting_waits (current : p.task = some t) (waiting : t.state = .waiting) :
    p.stepClock = (p, p.idle) ∧ (∀ limit, (p.runFor limit).1 = p) ∧ p.run.1 = p ∧
      (p.resume.1 = p ∨ ∃ bag m r, t.wait = some bag ∧ p.repository.retrieve bag = (r, some m) ∧
        p.resume.1 = { p with task := some (t.resume m).1, repository := r }) := by
  have hstill : t.state ≠ .active := by rw [waiting]; decide
  have hstep := stepClock_of_not_active current hstill
  refine ⟨hstep, runFor_of_stepClock_self hstep (idle_ne_ok_true p),
    run_of_stepClock_self hstep (idle_ne_ok_true p), ?_⟩
  unfold resume
  rw [current]
  dsimp only
  cases hbag : t.wait with
  | none => exact .inl rfl
  | some bag =>
      dsimp only
      rcases hr : p.repository.retrieve bag with ⟨r, _ | m⟩
      · exact .inl rfl
      · right
        refine ⟨bag, m, r, rfl, hr, ?_⟩
        dsimp only
        split <;> next t' e' heq => simp [heq]

theorem stepClock_halts_running (sound : p.Sound) (current : p.task = some t) (noFault : p.fault = none)
    (faulted : p.stepClock.2 = .error e) :
    ∃ t', p.stepClock.1.task = some t' ∧ t'.Running ∧ t'.tokens = t.tokens ∧
      p.stepClock.1.fault = some e := by
  have hactive : t.state = .active := by
    by_contra hs
    rw [stepClock_of_not_active current hs] at faulted
    simp [idle, noFault] at faulted
  have htokens : t.tokens ≠ 0 := by
    intro hzero
    simp [stepClock, noFault, current, hactive, hzero] at faulted
  have hrunning : t.Running := Task.Live.running ⟨sound t current, hactive⟩
  rcases hc : cycle p.config ⟨t, p.repository⟩ with ⟨s, _ | e'⟩
  · simp [stepClock, noFault, current, hactive, htokens, hc] at faulted
  · have hstep : p.stepClock =
        (⟨p.config, s.repository, some s.task, some e'⟩, .error e') := by
      simp [stepClock, noFault, current, hactive, htokens, hc]
    rw [hstep] at faulted ⊢
    cases faulted
    have halted := cycle_running_of_fault (c := p.config) (s := ⟨t, p.repository⟩) hrunning
      (e := e) (by rw [hc])
    have kept := cycle_meter p.config ⟨t, p.repository⟩
    rw [hc] at halted kept
    simp only [Task.meter, Prod.mk.injEq] at kept
    exact ⟨s.task, rfl, halted, kept.2.1, rfl⟩

/-- A processor whose step answers `e` and changes nothing: it holds the fault `e`, or it has
no task, which `e` says. -/
def Stuck (e : ExecutionError) (p : Processor) : Prop :=
  p.fault = some e ∨ (p.fault = none ∧ p.task = none ∧ e = .noTask)

theorem Stuck.stepClock (stuck : p.Stuck e) : p.stepClock = (p, .error e) := by
  rcases stuck with hf | ⟨hf, ht, rfl⟩
  · simp [Processor.stepClock, hf]
  · simp [Processor.stepClock, hf, ht]

theorem stuck_of_stepClock (faulted : p.stepClock.2 = .error e) : p.stepClock.1.Stuck e := by
  unfold stepClock at faulted ⊢
  split
  · next e' hf =>
      simp only [hf] at faulted
      cases faulted
      exact .inl hf
  · next hf =>
      simp only [hf] at faulted
      split
      · next ht =>
          simp only [ht] at faulted
          cases faulted
          exact .inr ⟨hf, ht, rfl⟩
      · next t ht =>
          simp only [ht] at faulted
          split
          · simp_all
          · split
            · simp_all
            · split
              · simp_all
              · next s e' hc =>
                  have he' : e' = e := by simp_all
                  exact .inl (congrArg some he')

theorem Stuck.call (stuck : p.Stuck e) (call : Call p q) : q.Stuck e := by
  have hstep := stuck.stepClock
  have herror : (Except.error e : Except ExecutionError Bool) ≠ .ok true := by simp
  cases call with
  | step => rwa [hstep]
  | runFor => rwa [runFor_of_stepClock_self hstep herror]
  | run => rwa [run_of_stepClock_self hstep herror]
  | resume =>
      rcases stuck with hf | ⟨hf, ht, rfl⟩
      · exact .inl ((resume_fault p).trans hf)
      · have hsame : p.resume.1 = p := by simp [resume, ht]
        rw [hsame]
        exact .inr ⟨hf, ht, rfl⟩
  | transition ht' _ =>
      rcases stuck with hf | ⟨hf, ht, rfl⟩
      · exact .inl hf
      · rw [ht] at ht'
        cases ht'
  | repository r => exact stuck

theorem fault_sticks (faulted : p.stepClock.2 = .error e)
    (calls : Relation.ReflTransGen Call p.stepClock.1 q) : q.stepClock = (q, .error e) := by
  have stuck : q.Stuck e := by
    induction calls with
    | refl => exact stuck_of_stepClock faulted
    | tail _ call ih => exact ih.call call
  exact stuck.stepClock

end Processor

/-- Final states absorb and faults stick.  A final task refuses every transition, and stays
as it is through every call, each step answering what it answered when the task became
final: that the task is not active, or the fault the processor held from before.  A waiting
task is left as it is until a resume delivers its message.  A step that faults leaves its task
running, with its tokens, and from then on every step answers that fault and changes nothing
until another task comes in. -/
theorem final_tasks_and_faults_stay :
    (∀ t : Task, t.state.isTerminal = true → ∀ (next : TaskState) (bag : Name) (v : Value),
      t.moveTo next = .error (.invalidTransition t.state next) ∧
        t.waitOn bag = .error (.invalidTransition t.state .waiting) ∧
        t.complete v = .error (.invalidTransition t.state .completed) ∧
        t.abandon v = .error (.invalidTransition t.state .abandoned) ∧
        t.resume v = (t, some (.invalidTransition t.state .active)) ∧
        t.exhaust = t) ∧
    (∀ (p q : Processor) (t : Task), p.task = some t → t.state.isTerminal = true →
      Relation.ReflTransGen Processor.Call p q → q.task = some t ∧ q.stepClock = (q, p.idle)) ∧
    (∀ (p : Processor) (t : Task), p.task = some t → t.state = .waiting →
      p.stepClock = (p, p.idle) ∧ (∀ limit, (p.runFor limit).1 = p) ∧ p.run.1 = p ∧
        (p.resume.1 = p ∨ ∃ bag m r, t.wait = some bag ∧ p.repository.retrieve bag = (r, some m) ∧
          p.resume.1 = { p with task := some (t.resume m).1, repository := r })) ∧
    (∀ (p : Processor) (t : Task) (e : ExecutionError), p.Sound → p.task = some t →
      p.fault = none → p.stepClock.2 = .error e →
      ∃ t', p.stepClock.1.task = some t' ∧ t'.Running ∧ t'.tokens = t.tokens ∧
        p.stepClock.1.fault = some e) ∧
    (∀ (p q : Processor) (e : ExecutionError), p.stepClock.2 = .error e →
      Relation.ReflTransGen Processor.Call p.stepClock.1 q → q.stepClock = (q, .error e)) :=
  ⟨fun _ h => Task.final_refuses h, fun _ _ _ ht h calls => Processor.final_stays ht h calls,
    fun _ _ ht hw => Processor.waiting_waits ht hw,
    fun _ _ _ hp ht hf he => Processor.stepClock_halts_running hp ht hf he,
    fun _ _ _ he calls => Processor.fault_sticks he calls⟩

/-- A task whose one frame has no code: its first step runs off the end. -/
def codelessTask : Task :=
  Task.start ⟨0⟩ Name.root 5 ⟨.none, ⟨"run"⟩, [], [], [], [], [], [], ⟨[]⟩, 1, 0, 0⟩

def codelessProcessor : Processor :=
  ⟨Config.default, Repository.empty, some codelessTask, none⟩

/-- The first step faults and leaves the task running with its five tokens; the task then
exhausted from outside is final, and the next step still answers the fault. -/
theorem codeless_task_halts :
    codelessProcessor.Sound ∧ codelessProcessor.stepClock.2 = .error (.ranOffBytecode 1 0) ∧
      (∃ t', codelessProcessor.stepClock.1.task = some t' ∧ t'.Running ∧ t'.tokens = 5 ∧
        codelessProcessor.stepClock.1.fault = some (.ranOffBytecode 1 0)) ∧
      { codelessProcessor.stepClock.1 with task := some codelessTask.exhaust }.stepClock =
        ({ codelessProcessor.stepClock.1 with task := some codelessTask.exhaust },
          .error (.ranOffBytecode 1 0)) :=
  have hsound : codelessProcessor.Sound := fun t ht => by
    cases ht
    exact Task.sound_start rfl
  have hfault : codelessProcessor.stepClock.2 = .error (.ranOffBytecode 1 0) := rfl
  have hexhausted : Relation.ReflTransGen Processor.Call codelessProcessor.stepClock.1
      { codelessProcessor.stepClock.1 with task := some codelessTask.exhaust } :=
    .single (.transition rfl .exhaust)
  ⟨hsound, hfault,
    final_tasks_and_faults_stay.2.2.2.1 _ codelessTask _ hsound rfl rfl hfault,
    final_tasks_and_faults_stay.2.2.2.2 _ _ _ hfault hexhausted⟩

/-- After a fault, a task abandoned from outside is final, and its step answers the old
fault, not that the task is not active. -/
theorem fault_outlives_final_task :
    codelessTask.exhaust.state = .abandoned ∧
      { codelessProcessor.stepClock.1 with task := some codelessTask.exhaust }.stepClock.2 =
        .error (.ranOffBytecode 1 0) :=
  ⟨rfl, rfl⟩

end TaskMachine
