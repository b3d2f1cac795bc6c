import Mathlib
import TaskMachine.Machine.Processor

/-! # What one instruction can do to the machine

An instruction first reads: it looks at its frame and its tables, pops components of its
own frame and may change the repository.  Then it writes at most once to the task (a push
or a change of its frame), and ends with one final move: it moves on or jumps, starts a
callee, returns to its caller or completes, or starts to wait.  It can stop before its end,
with an exception only while it is still reading, and with a fault at any point.

`Exec.Discipline c` lists these moves with the guards the code puts on them, over four
predicates on machine states: `P` while reading, `W` after the write, `Q` at the end or at
a fault, and `R` where an exception is raised.  `Discipline.execute_spec` says that every
instruction of the set keeps a discipline, and `Discipline.cycle_spec` lifts that to an
instruction cycle with its fetch and the unwinding of a raised exception.  Each invariant of
the machine is then a discipline, and proves only the moves; `Discipline.both` keeps two at
once, for an invariant that leans on another.

The proofs hand `mvcgen` the specs they build on as local facts (`have hpop := D.pop_spec`),
which it reads by their statements alone. -/

open Std.Do

set_option autoImplicit false
set_option mvcgen.warning false

namespace TaskMachine

/-- The task with its current frame `f` dropped and its components cut to `f`'s base. -/
def Task.dropFrame (t : Task) (f : Frame) : Task :=
  { t with frames := t.frames.dropLast }.truncateComponents f.base

/-- A target that `checkAddress` lets through: when targets are checked, it is an address
of the current frame's code. -/
def Config.TargetOk (c : Config) (s : MachineState) (target : Nat) : Prop :=
  ∀ f, s.task.frame? = some f → c.validates = true → target ≠ 0 ∧ target ≤ f.bytecode.length

namespace Exec

/-- Predicates on the stages of an instruction, kept by every move it can make there. -/
structure Discipline (c : Config) where
  P : MachineState → Prop
  W : MachineState → Prop
  Q : MachineState → Prop
  R : MachineState → Prop
  raised : ∀ {s}, P s → R s
  write : ∀ {s}, P s → W s
  faulted : ∀ {s}, W s → Q s
  repository : ∀ {s} r, P s → P { s with repository := r }
  pop : ∀ {s f v t}, P s → s.task.frame? = some f → s.task.popComponent = some (v, t) →
    ¬s.task.components.length ≤ f.base → P { s with task := t }
  push : ∀ {s} v, P s → ¬c.maxComponents ≤ s.task.components.length →
    W { s with task := s.task.pushComponent v }
  pushHandler : ∀ {s} h, P s → c.TargetOk s h →
    W { s with task := s.task.modifyFrame (·.pushHandler h) }
  popHandler : ∀ {s f h g}, P s → s.task.frame? = some f → f.popHandler = .ok (h, g) →
    W { s with task := s.task.modifyFrame fun _ => g }
  setVariable : ∀ {s f i v g}, P s → s.task.frame? = some f → f.setVariable i v = .ok g →
    W { s with task := s.task.modifyFrame fun _ => g }
  advance : ∀ {s f}, W s → s.task.frame? = some f →
    Q { s with task := s.task.modifyFrame Frame.advance }
  jump : ∀ {s f} target, P s → s.task.frame? = some f → c.TargetOk s target →
    Q { s with task := s.task.modifyFrame (·.jumpTo target) }
  call : ∀ {s compiled receiver m arguments f}, P s → ¬c.maxContexts ≤ s.task.frames.length →
    s.repository.type? receiver.typeName = some compiled →
    Frame.activate compiled receiver m arguments s.task.components.length = .ok f →
    Q { s with task := { s.task with frames := s.task.frames ++ [f] } }
  wait : ∀ {s bag t}, P s → s.task.waitOn bag = .ok t → Q { s with task := t }
  ret : ∀ {s f g} v, P s → s.task.frame? = some f → (s.task.dropFrame f).frame? = some g →
    Q { s with task := ((s.task.dropFrame f).modifyFrame Frame.advance).pushComponent v }
  complete : ∀ {s f t} v, P s → s.task.frame? = some f → (s.task.dropFrame f).frame? = none →
    (s.task.dropFrame f).complete v = .ok t → Q { s with task := t }
  completeFault : ∀ {s f e} v, P s → s.task.frame? = some f →
    (s.task.dropFrame f).frame? = none → (s.task.dropFrame f).complete v = .error e →
    Q { s with task := s.task.dropFrame f }

namespace Discipline

variable {c : Config} (D : Discipline c)

/-- Where an interrupted instruction may stop: at `R` with an exception, at `Q` with a fault. -/
def stop : Interrupt → MachineState → Prop
  | .raise _ => D.R
  | .fault _ => D.Q

@[simp]
theorem stop_fault (e : ExecutionError) (s : MachineState) : D.stop (.fault e) s = D.Q s := rfl

@[simp]
theorem stop_raise (v : Value) (s : MachineState) : D.stop (.raise v) s = D.R s := rfl

theorem stop_of_P {s : MachineState} (pre : D.P s) (e : Interrupt) : D.stop e s := by
  cases e with
  | raise v => exact D.raised pre
  | fault e => exact D.faulted (D.write pre)

theorem stop_of_W {s : MachineState} (holds : D.W s) (e : ExecutionError) :
    D.stop (.fault e) s :=
  D.faulted holds

theorem pop_spec :
    ⦃fun s => ⌜D.P s⌝⦄ Exec.pop ⦃post⟨fun _ s => ⌜D.P s⌝, fun e s => ⌜D.stop e s⌝⟩⦄ := by
  mvcgen [Exec.pop, frame, task, modifyTask, fault] with
    grind [stop_of_P, Discipline.pop]

theorem popMany_spec (n : Nat) :
    ⦃fun s => ⌜D.P s⌝⦄ popMany n ⦃post⟨fun _ s => ⌜D.P s⌝, fun e s => ⌜D.stop e s⌝⟩⦄ := by
  induction n with
  | zero => mvcgen [popMany]
  | succ n ih =>
      have hpop := D.pop_spec
      mvcgen [popMany, hpop, ih]

theorem push_spec (v : Value) :
    ⦃fun s => ⌜D.P s⌝⦄ Exec.push c v ⦃post⟨fun _ s => ⌜D.W s⌝, fun e s => ⌜D.stop e s⌝⟩⦄ := by
  mvcgen [Exec.push, task, modifyTask, raise] with
    grind [stop_of_P, Discipline.push]

theorem modifyRepository_spec (g : Repository → Repository) :
    ⦃fun s => ⌜D.P s⌝⦄ modifyRepository g
      ⦃post⟨fun _ s => ⌜D.P s⌝, fun e s => ⌜D.stop e s⌝⟩⦄ := by
  mvcgen [modifyRepository] with
    grind [Discipline.repository]

theorem advance_spec :
    ⦃fun s => ⌜D.W s⌝⦄ Exec.advance ⦃post⟨fun _ s => ⌜D.Q s⌝, fun e s => ⌜D.stop e s⌝⟩⦄ := by
  mvcgen [Exec.advance, modifyFrame, frame, task, modifyTask, fault] with
    grind [stop_of_W, Discipline.advance]

theorem targetOk_of_check {s : MachineState} {f : Frame} {target : Nat}
    (inFrame : s.task.frame? = some f)
    (passed : ¬(c.validates && (decide (target = 0) || decide (f.bytecode.length < target))) = true) :
    c.TargetOk s target := by
  intro g hg hv
  rw [inFrame] at hg
  cases hg
  simp_all

theorem checkAddress_spec (target : Nat) :
    ⦃fun s => ⌜D.P s⌝⦄ checkAddress c target
      ⦃post⟨fun _ s => ⌜D.P s ∧ c.TargetOk s target⌝, fun e s => ⌜D.stop e s⌝⟩⦄ := by
  mvcgen [checkAddress, frame, task, fault] with
    grind [stop_of_P, targetOk_of_check]

theorem jumpTo_spec (target : Nat) :
    ⦃fun s => ⌜D.P s⌝⦄ Exec.jumpTo c target
      ⦃post⟨fun _ s => ⌜D.Q s⌝, fun e s => ⌜D.stop e s⌝⟩⦄ := by
  have hcheck := D.checkAddress_spec
  mvcgen [Exec.jumpTo, hcheck, modifyFrame, frame, task, modifyTask, fault] with
    grind [stop_of_P, Discipline.jump]

theorem execJump_spec (address : Nat) (condition : Condition) :
    ⦃fun s => ⌜D.P s⌝⦄ execJump c address condition
      ⦃post⟨fun _ s => ⌜D.Q s⌝, fun e s => ⌜D.stop e s⌝⟩⦄ := by
  have hpop := D.pop_spec
  have hjump := D.jumpTo_spec
  have hadvance := D.advance_spec
  mvcgen [execJump, hpop, hjump, hadvance, raise] with
    grind [stop_of_P, Discipline.write]

theorem execPush_spec (source : PushSource) (operand : Nat) :
    ⦃fun s => ⌜D.P s⌝⦄ execPush c source operand
      ⦃post⟨fun _ s => ⌜D.Q s⌝, fun e s => ⌜D.stop e s⌝⟩⦄ := by
  have hcheck := D.checkAddress_spec
  have hpush := D.push_spec
  have hadvance := D.advance_spec
  mvcgen [execPush, hcheck, hpush, hadvance, modifyFrame, frame, task, modifyTask, orFault,
    fault] with
    grind [stop_of_P, Discipline.pushHandler]

theorem execPull_spec (target : PullTarget) :
    ⦃fun s => ⌜D.P s⌝⦄ execPull target ⦃post⟨fun _ s => ⌜D.Q s⌝, fun e s => ⌜D.stop e s⌝⟩⦄ := by
  have hpop := D.pop_spec
  have hadvance := D.advance_spec
  cases target with
  | handler =>
      mvcgen [execPull, hadvance, modifyFrame, frame, task, modifyTask, orFault, fault]
      all_goals grind [stop_of_P, Discipline.popHandler]
  | component =>
      mvcgen [execPull, hpop, hadvance]
      all_goals grind [Discipline.write]
  | result =>
      -- the four ways out: no frame, back into the caller, completion, a refused completion
      mvcgen [execPull, hpop, frame, task, modifyTask, orFault, fault]
      · exact D.stop_of_P ‹_› _
      · rename_i v s hP f hf _ g hg _
        exact @Discipline.ret c D s f g v hP hf hg
      · rename_i v s hP f hf _ hnone _ t ht _
        exact @Discipline.complete c D s f t v hP hf hnone ht
      · rename_i v s hP f hf _ hnone _ e he
        exact @Discipline.completeFault c D s f e v hP hf hnone he
  | exception =>
      mvcgen [execPull, hpop]
      all_goals grind [stop_of_P]

theorem execLoad_spec (storage : Storage) (slot : Nat) :
    ⦃fun s => ⌜D.P s⌝⦄ execLoad c storage slot
      ⦃post⟨fun _ s => ⌜D.Q s⌝, fun e s => ⌜D.stop e s⌝⟩⦄ := by
  have hpush := D.push_spec
  have hadvance := D.advance_spec
  have hrepository := D.modifyRepository_spec
  mvcgen [execLoad, hpush, hadvance, hrepository, nameIn, missing, frame, task, modifyTask,
    orFault, raise, fault] with
    grind [stop_of_P, Discipline.wait]

theorem execSave_spec (storage : Storage) (slot : Nat) :
    ⦃fun s => ⌜D.P s⌝⦄ execSave storage slot
      ⦃post⟨fun _ s => ⌜D.Q s⌝, fun e s => ⌜D.stop e s⌝⟩⦄ := by
  have hpop := D.pop_spec
  have hadvance := D.advance_spec
  have hrepository := D.modifyRepository_spec
  mvcgen [execSave, hpop, hadvance, hrepository, nameIn, modifyFrame, frame, task, modifyTask,
    orFault, raise, fault] with
    grind [stop_of_P, Discipline.write, Discipline.setVariable]

theorem execDrop_spec (storage : Storage) (slot : Nat) :
    ⦃fun s => ⌜D.P s⌝⦄ execDrop storage slot
      ⦃post⟨fun _ s => ⌜D.Q s⌝, fun e s => ⌜D.stop e s⌝⟩⦄ := by
  have hadvance := D.advance_spec
  have hrepository := D.modifyRepository_spec
  mvcgen [execDrop, hadvance, hrepository, nameIn, missing, modifyFrame, frame, task,
    modifyTask, orFault, raise, fault] with
    grind [stop_of_P, Discipline.write, Discipline.setVariable]

theorem execCall_spec (intrinsic arguments : Nat) :
    ⦃fun s => ⌜D.P s⌝⦄ execCall c intrinsic arguments
      ⦃post⟨fun _ s => ⌜D.Q s⌝, fun e s => ⌜D.stop e s⌝⟩⦄ := by
  have hpopMany := D.popMany_spec
  have hpush := D.push_spec
  have hadvance := D.advance_spec
  mvcgen [execCall, hpopMany, hpush, hadvance, raise] with
    grind [stop_of_P]

theorem execSend_spec (message : Nat) (target : SendTarget) :
    ⦃fun s => ⌜D.P s⌝⦄ execSend c message target
      ⦃post⟨fun _ s => ⌜D.Q s⌝, fun e s => ⌜D.stop e s⌝⟩⦄ := by
  have hpop := D.pop_spec
  mvcgen [execSend, sendArguments, resolveReceiver, startCallee, hpop, missing, frame, task,
    modifyTask, orFault, raise, fault] with
    grind [stop_of_P, Discipline.call]

theorem execute_spec (i : Instruction) :
    ⦃fun s => ⌜D.P s⌝⦄ execute c i ⦃post⟨fun _ s => ⌜D.Q s⌝, fun e s => ⌜D.stop e s⌝⟩⦄ := by
  have hadvance := D.advance_spec
  have hjump := D.execJump_spec
  have hpush := D.execPush_spec
  have hpull := D.execPull_spec
  have hload := D.execLoad_spec
  have hsave := D.execSave_spec
  have hdrop := D.execDrop_spec
  have hcall := D.execCall_spec
  have hsend := D.execSend_spec
  mvcgen [execute, hadvance, hjump, hpush, hpull, hload, hsave, hdrop, hcall, hsend] with
    grind [Discipline.write]

/-- Two disciplines kept at once: an invariant may lean on another one. -/
def both (E : Discipline c) : Discipline c where
  P s := D.P s ∧ E.P s
  W s := D.W s ∧ E.W s
  Q s := D.Q s ∧ E.Q s
  R s := D.R s ∧ E.R s
  raised h := ⟨D.raised h.1, E.raised h.2⟩
  write h := ⟨D.write h.1, E.write h.2⟩
  faulted h := ⟨D.faulted h.1, E.faulted h.2⟩
  repository r h := ⟨D.repository r h.1, E.repository r h.2⟩
  pop h hf hpop hlen := ⟨D.pop h.1 hf hpop hlen, E.pop h.2 hf hpop hlen⟩
  push v h hlen := ⟨D.push v h.1 hlen, E.push v h.2 hlen⟩
  pushHandler a h hok := ⟨D.pushHandler a h.1 hok, E.pushHandler a h.2 hok⟩
  popHandler h hf hp := ⟨D.popHandler h.1 hf hp, E.popHandler h.2 hf hp⟩
  setVariable h hf hs := ⟨D.setVariable h.1 hf hs, E.setVariable h.2 hf hs⟩
  advance h hf := ⟨D.advance h.1 hf, E.advance h.2 hf⟩
  jump target h hf hok := ⟨D.jump target h.1 hf hok, E.jump target h.2 hf hok⟩
  call h hdepth htype hact := ⟨D.call h.1 hdepth htype hact, E.call h.2 hdepth htype hact⟩
  wait h hw := ⟨D.wait h.1 hw, E.wait h.2 hw⟩
  ret v h hf hg := ⟨D.ret v h.1 hf hg, E.ret v h.2 hf hg⟩
  complete v h hf hnone hc := ⟨D.complete v h.1 hf hnone hc, E.complete v h.2 hf hnone hc⟩
  completeFault v h hf hnone hc :=
    ⟨D.completeFault v h.1 hf hnone hc, E.completeFault v h.2 hf hnone hc⟩

theorem run_spec {α : Type} {Start : MachineState → Prop} {x : Exec α}
    (spec : ⦃fun s => ⌜Start s⌝⦄ x ⦃post⟨fun _ s => ⌜D.Q s⌝, fun e s => ⌜D.stop e s⌝⟩⦄)
    {s : MachineState} (start : Start s) :
    match x.run s with
    | .ok _ s' => D.Q s'
    | .error e s' => D.stop e s' := by
  exact EStateM.of_wp_run_eq rfl (fun r : EStateM.Result Interrupt MachineState α =>
    match r with
    | .ok _ s' => D.Q s'
    | .error e s' => D.stop e s') (by simpa using spec s start)

theorem fetchAndExecute_spec (Start : MachineState → Prop) (stops : ∀ {s}, Start s → D.Q s)
    (fetches : ∀ {s f w}, Start s → s.task.frame? = some f → f.peek? = some w →
      D.P { s with task := s.task.modifyFrame fun f => { f with instruction := w } }) :
    ⦃fun s => ⌜Start s⌝⦄ fetchAndExecute c
      ⦃post⟨fun _ s => ⌜D.Q s⌝, fun e s => ⌜D.stop e s⌝⟩⦄ := by
  have hexecute := D.execute_spec
  mvcgen [fetchAndExecute, hexecute, modifyFrame, frame, task, modifyTask, fault] with
    grind [stop_of_P, stop_fault]

theorem cycle_spec {Start : MachineState → Prop} (stops : ∀ {s}, Start s → D.Q s)
    (fetches : ∀ {s f w}, Start s → s.task.frame? = some f → f.peek? = some w →
      D.P { s with task := s.task.modifyFrame fun f => { f with instruction := w } })
    (unwinds : ∀ {s} e, D.R s → D.Q { s with task := (s.task.raise e).1 })
    {s : MachineState} (start : Start s) : D.Q (cycle c s).1 := by
  have run := D.run_spec (D.fetchAndExecute_spec Start stops fetches) start
  delta cycle
  generalize (Exec.fetchAndExecute c).run s = r at run ⊢
  cases r with
  | ok _ s' => exact run
  | error e s' =>
      cases e with
      | fault e => exact run
      | raise v => exact unwinds v run

end Discipline

end Exec

end TaskMachine
