import Mathlib
import TaskMachine.Proofs.Machine.Reachable
import TaskMachine.Proofs.Task.Stacks

/-! # Stack limits

A configuration bounds the component stack by `maxComponents` and the call stack by
`maxContexts`.  Only two places check them: a push (`Exec.push`) raises `$stackOverflow` on a
full component stack, and a `SEND` raises it when the call stack is full.  Every other push
goes unchecked: a return pushes its result, an unwinding pushes the exception, and a resume
pushes the message the task waited for.

The depth limit holds on every run (`DepthBounded.move`): only a `SEND` adds a frame, after
its check.  The component limit needs more than the two checks: a frame is based on the
components left after the `SEND` popped its receiver, so every base is below the limit, and a
return or an unwinding cuts the stack to a base before it pushes one value
(`Task.WithinComponentLimit`, `cycle_withinComponentLimit`).  A resume is different: it
pushes the message onto whatever the task had when it started to wait, so a task that waited
with a full stack overfills it (`Processor.ResumesOntoFull`).  The component limit holds on
every run without such a resume, and nowhere else is it broken
(`limits_hold_until_resumed_onto_full_stack`). -/

open Std.Do

set_option autoImplicit false
set_option mvcgen.warning false

namespace TaskMachine

/-- A task within the component limit of a configuration: at most `maxComponents`
components, and every frame based below the limit, so that a value pushed right over a
frame's base still fits. -/
def Task.WithinComponentLimit (c : Config) (t : Task) : Prop :=
  t.components.length ≤ c.maxComponents ∧ ∀ f ∈ t.frames, f.base < c.maxComponents

namespace Task

variable {t t' : Task} {bag : Name}

theorem waitOn_eq_ok : t.waitOn bag = .ok t' ↔
    t.state.canMoveTo .waiting = true ∧ t' = { t with state := .waiting, wait := some bag } := by
  unfold waitOn
  cases hmove : t.moveTo .waiting with
  | error e =>
      have hcan : t.state.canMoveTo .waiting = false := by
        unfold moveTo at hmove
        split at hmove
        · cases hmove
        · next hno => simpa using hno
      simp [Except.map, hcan]
  | ok moved =>
      obtain ⟨hcan, rfl⟩ := moveTo_eq_ok.mp hmove
      simp [Except.map, hcan, eq_comm]

theorem length_resume (reply : Value) : (t.resume reply).1.frames.length = t.frames.length := by
  unfold resume
  split
  · rfl
  · next moved hmove =>
      obtain ⟨-, rfl⟩ := moveTo_eq_ok.mp hmove
      dsimp only
      split <;> simp

theorem components_resume (waiting : t.state = .waiting) (reply : Value) :
    (t.resume reply).1.components = t.components ++ [reply] := by
  unfold resume
  rw [show t.moveTo .active = .ok { t with state := .active } from
    moveTo_eq_ok.mpr ⟨by simp [waiting, TaskState.canMoveTo], rfl⟩]
  dsimp only
  split <;> simp

theorem state_resume (waiting : t.state = .waiting) (reply : Value) :
    (t.resume reply).1.state = .active := by
  unfold resume
  rw [show t.moveTo .active = .ok { t with state := .active } from
    moveTo_eq_ok.mpr ⟨by simp [waiting, TaskState.canMoveTo], rfl⟩]
  dsimp only
  split <;> simp

end Task

namespace Task.WithinComponentLimit

variable {c : Config} {t t' : Task} {f : Frame}

theorem of_frames_nil (noFrames : t.frames = []) (noComponents : t.components = []) :
    t.WithinComponentLimit c := by
  simp [WithinComponentLimit, noFrames, noComponents]

theorem popComponent (within : t.WithinComponentLimit c) :
    ({ t with components := t.components.dropLast } : Task).WithinComponentLimit c := by
  obtain ⟨hlen, hbases⟩ := within
  exact ⟨by simp only [List.length_dropLast]; omega, hbases⟩

theorem pushComponent (within : t.WithinComponentLimit c)
    (belowLimit : t.components.length < c.maxComponents) (v : Value) :
    (t.pushComponent v).WithinComponentLimit c := by
  obtain ⟨-, hbases⟩ := within
  exact ⟨by simp only [Task.pushComponent, List.length_append, List.length_singleton]; omega,
    hbases⟩

theorem modifyFrame (within : t.WithinComponentLimit c) (inFrame : t.frame? = some f) {g : Frame → Frame}
    (keepsBase : (g f).base = f.base) : (t.modifyFrame g).WithinComponentLimit c := by
  obtain ⟨hlen, hbases⟩ := within
  obtain ⟨below, hb⟩ := frame?_eq_some.mp inFrame
  rw [modifyFrame_of_frames hb]
  refine ⟨hlen, fun x hx => ?_⟩
  rcases List.mem_append.mp hx with hx | hx
  · exact hbases x (by rw [hb]; exact List.mem_append_left _ hx)
  · rw [List.mem_singleton.mp hx, keepsBase]
    exact hbases f (List.mem_of_getLast? inFrame)

theorem modifyFrame_of_base (within : t.WithinComponentLimit c) {g : Frame → Frame}
    (keepsBase : ∀ f, (g f).base = f.base) : (t.modifyFrame g).WithinComponentLimit c := by
  cases hf : t.frame? with
  | none => rwa [modifyFrame_of_frame?_none hf]
  | some f => exact within.modifyFrame hf (keepsBase f)

theorem call (within : t.WithinComponentLimit c) {g : Frame} (baseBelow : g.base < c.maxComponents) :
    ({ t with frames := t.frames ++ [g] } : Task).WithinComponentLimit c := by
  obtain ⟨hlen, hbases⟩ := within
  refine ⟨hlen, fun x hx => ?_⟩
  rcases List.mem_append.mp hx with hx | hx
  · exact hbases x hx
  · rw [List.mem_singleton.mp hx]
    exact baseBelow

theorem dropFrame (within : t.WithinComponentLimit c) (inFrame : t.frame? = some f) :
    (t.dropFrame f).WithinComponentLimit c ∧
      (t.dropFrame f).components.length < c.maxComponents := by
  obtain ⟨-, hbases⟩ := within
  have hbase := hbases f (List.mem_of_getLast? inFrame)
  have hcut : (t.dropFrame f).components.length < c.maxComponents := by
    simp only [dropFrame_components, List.length_take]
    omega
  exact ⟨⟨hcut.le, fun x hx => hbases x (List.dropLast_subset _ hx)⟩, hcut⟩

theorem finish (state : TaskState) (v : Value) : (t.finish state v).WithinComponentLimit c :=
  of_frames_nil (frames_finish ..) (by unfold Task.finish; split <;> rfl)

theorem of_moveTo_finish {state : TaskState} {v : Value}
    (movedTo : (t.moveTo state).map (fun t => t.finish state v) = .ok t') :
    t'.WithinComponentLimit c := by
  cases hmove : t.moveTo state with
  | error e =>
      rw [hmove] at movedTo
      cases movedTo
  | ok moved =>
      rw [hmove] at movedTo
      simp only [Except.map, Except.ok.injEq] at movedTo
      subst movedTo
      exact finish state v

theorem complete {v : Value} (completed : t.complete v = .ok t') : t'.WithinComponentLimit c :=
  of_moveTo_finish completed

theorem waitOn (within : t.WithinComponentLimit c) {bag : Name} (waited : t.waitOn bag = .ok t') :
    t'.WithinComponentLimit c := by
  obtain ⟨-, rfl⟩ := waitOn_eq_ok.mp waited
  exact within

theorem returnTo (within : t.WithinComponentLimit c) (inFrame : t.frame? = some f) (v : Value) :
    ((({ t with frames := t.frames.dropLast } : Task).truncateComponents f.base).modifyFrame
      Frame.advance |>.pushComponent v).WithinComponentLimit c := by
  obtain ⟨dropped, hroom⟩ := within.dropFrame inFrame
  have hkeep : ∀ g : Frame, g.advance.base = g.base := fun _ => rfl
  exact (dropped.modifyFrame_of_base hkeep).pushComponent
    (by rw [modifyFrame_components]; exact hroom) v

theorem returnLast (within : t.WithinComponentLimit c) (inFrame : t.frame? = some f) :
    (({ t with frames := t.frames.dropLast } : Task).truncateComponents f.base).WithinComponentLimit
      c :=
  (within.dropFrame inFrame).1

theorem unwindFrames (e : Value) :
    ∀ (frames : List Frame) (t : Task), t.WithinComponentLimit c → frames.reverse = t.frames →
      (t.unwindFrames e frames).1.WithinComponentLimit c
  | [], t, h, _ => by
      unfold Task.unwindFrames
      split
      · next t' habandon => exact of_moveTo_finish habandon
      · exact h
  | g :: below, t, h, hframes => by
      obtain ⟨-, hbases⟩ := h
      have hbelow : ∀ x ∈ below.reverse, x ∈ t.frames := by
        intro x hx
        rw [← hframes]
        simp only [List.reverse_cons, List.mem_append]
        exact .inl hx
      have hg : g.base < c.maxComponents := hbases g (by rw [← hframes]; simp)
      unfold Task.unwindFrames
      split
      · -- caught by `g`: the stack is cut to its base and the exception pushed
        refine ⟨by simp only [List.length_append, List.length_take, List.length_singleton]; omega,
          fun x hx => ?_⟩
        rcases List.mem_append.mp hx with hx | hx
        · exact hbases x (hbelow x hx)
        · rw [List.mem_singleton.mp hx]
          exact hg
      · exact unwindFrames e below _ ⟨by simp only [List.length_take]; omega,
          fun x hx => hbases x (hbelow x hx)⟩ rfl

theorem raise (within : t.WithinComponentLimit c) (e : Value) : (t.raise e).1.WithinComponentLimit c :=
  unwindFrames e _ t within (List.reverse_reverse _)

theorem consumeToken (within : t.WithinComponentLimit c) : t.consumeToken.WithinComponentLimit c := by
  unfold Task.consumeToken
  dsimp only
  split
  · exact finish _ _
  · exact within

theorem exhaust (within : t.WithinComponentLimit c) : t.exhaust.WithinComponentLimit c := by
  unfold Task.exhaust
  split
  · exact within
  · exact finish _ _

theorem resume (within : t.WithinComponentLimit c) (belowLimit : t.components.length < c.maxComponents)
    (reply : Value) : (t.resume reply).1.WithinComponentLimit c := by
  unfold Task.resume
  split
  · exact within
  · next moved hmove =>
      obtain ⟨-, rfl⟩ := moveTo_eq_ok.mp hmove
      have pushed : Task.WithinComponentLimit c
          { t with state := .active, wait := none, components := t.components ++ [reply] } :=
        within.pushComponent belowLimit reply
      dsimp only
      have hkeep : ∀ g : Frame, g.advance.base = g.base := fun _ => rfl
      split
      · exact pushed.modifyFrame_of_base hkeep
      · exact pushed

end Task.WithinComponentLimit

namespace Exec

variable (c : Config)

theorem pop_limit :
    ⦃fun s => ⌜s.task.WithinComponentLimit c⌝⦄ pop
      ⦃post⟨fun _ s => ⌜s.task.WithinComponentLimit c ∧
          s.task.components.length < c.maxComponents⌝,
        fun _ s => ⌜s.task.WithinComponentLimit c⌝⟩⦄ := by
  mvcgen [pop, frame, task, modifyTask, fault] with
    grind [Task.WithinComponentLimit, Task.popComponent]

theorem popMany_limit (n : Nat) :
    ⦃fun s => ⌜s.task.WithinComponentLimit c⌝⦄ popMany n
      ⦃post⟨fun _ s => ⌜s.task.WithinComponentLimit c⌝,
        fun _ s => ⌜s.task.WithinComponentLimit c⌝⟩⦄ := by
  induction n with
  | zero => mvcgen [popMany]
  | succ n ih =>
      have hpop := pop_limit c
      mvcgen [popMany, hpop, ih]
      all_goals simp_all

theorem push_limit (v : Value) :
    ⦃fun s => ⌜s.task.WithinComponentLimit c⌝⦄ Exec.push c v
      ⦃post⟨fun _ s => ⌜s.task.WithinComponentLimit c⌝,
        fun _ s => ⌜s.task.WithinComponentLimit c⌝⟩⦄ := by
  mvcgen [Exec.push, task, modifyTask, raise] with
    grind [Task.WithinComponentLimit.pushComponent]

theorem advance_limit :
    ⦃fun s => ⌜s.task.WithinComponentLimit c⌝⦄ Exec.advance
      ⦃post⟨fun _ s => ⌜s.task.WithinComponentLimit c⌝,
        fun _ s => ⌜s.task.WithinComponentLimit c⌝⟩⦄ := by
  mvcgen [Exec.advance, modifyFrame, frame, task, modifyTask, fault] with
    grind [Task.WithinComponentLimit.modifyFrame_of_base, Frame.advance]

theorem jumpTo_limit (target : Nat) :
    ⦃fun s => ⌜s.task.WithinComponentLimit c⌝⦄ Exec.jumpTo c target
      ⦃post⟨fun _ s => ⌜s.task.WithinComponentLimit c⌝,
        fun _ s => ⌜s.task.WithinComponentLimit c⌝⟩⦄ := by
  mvcgen [Exec.jumpTo, checkAddress, modifyFrame, frame, task, modifyTask, fault] with
    grind [Task.WithinComponentLimit.modifyFrame_of_base, Frame.jumpTo]

theorem execJump_limit (address : Nat) (condition : Condition) :
    ⦃fun s => ⌜s.task.WithinComponentLimit c⌝⦄ execJump c address condition
      ⦃post⟨fun _ s => ⌜s.task.WithinComponentLimit c⌝,
        fun _ s => ⌜s.task.WithinComponentLimit c⌝⟩⦄ := by
  have hpop := pop_limit c
  have hjump := jumpTo_limit c
  have hadvance := advance_limit c
  mvcgen [execJump, hpop, hjump, hadvance, raise] with
    simp_all

theorem execPush_limit (source : PushSource) (operand : Nat) :
    ⦃fun s => ⌜s.task.WithinComponentLimit c⌝⦄ execPush c source operand
      ⦃post⟨fun _ s => ⌜s.task.WithinComponentLimit c⌝,
        fun _ s => ⌜s.task.WithinComponentLimit c⌝⟩⦄ := by
  have hpush := push_limit c
  have hadvance := advance_limit c
  mvcgen [execPush, hpush, hadvance, checkAddress, modifyFrame, frame, task, modifyTask, orFault,
    fault] with
    grind [Task.WithinComponentLimit.modifyFrame_of_base, Frame.pushHandler]

theorem execPull_limit (target : PullTarget) :
    ⦃fun s => ⌜s.task.WithinComponentLimit c⌝⦄ execPull target
      ⦃post⟨fun _ s => ⌜s.task.WithinComponentLimit c⌝,
        fun _ s => ⌜s.task.WithinComponentLimit c⌝⟩⦄ := by
  have hpop := pop_limit c
  have hadvance := advance_limit c
  cases target with
  | handler =>
      mvcgen [execPull, hadvance, modifyFrame, frame, task, modifyTask, orFault, fault]
      all_goals grind [Task.WithinComponentLimit.modifyFrame, Frame.base_of_popHandler]
  | component =>
      mvcgen [execPull, hpop, hadvance]
      all_goals simp_all
  | result =>
      -- the popped result lands right over the returning frame's base
      mvcgen [execPull, hpop, frame, task, modifyTask, orFault, fault]
      all_goals grind [Task.WithinComponentLimit.returnTo, Task.WithinComponentLimit.returnLast,
        Task.WithinComponentLimit.complete]
  | exception =>
      mvcgen [execPull, hpop]
      all_goals simp_all

theorem execLoad_limit (storage : Storage) (slot : Nat) :
    ⦃fun s => ⌜s.task.WithinComponentLimit c⌝⦄ execLoad c storage slot
      ⦃post⟨fun _ s => ⌜s.task.WithinComponentLimit c⌝,
        fun _ s => ⌜s.task.WithinComponentLimit c⌝⟩⦄ := by
  have hpush := push_limit c
  have hadvance := advance_limit c
  mvcgen [execLoad, hpush, hadvance, nameIn, missing, modifyRepository, frame, task, modifyTask,
    orFault, raise, fault] with
    grind [Task.WithinComponentLimit.waitOn]

theorem execSave_limit (storage : Storage) (slot : Nat) :
    ⦃fun s => ⌜s.task.WithinComponentLimit c⌝⦄ execSave storage slot
      ⦃post⟨fun _ s => ⌜s.task.WithinComponentLimit c⌝,
        fun _ s => ⌜s.task.WithinComponentLimit c⌝⟩⦄ := by
  have hpop := pop_limit c
  have hadvance := advance_limit c
  mvcgen [execSave, hpop, hadvance, nameIn, modifyRepository, modifyFrame, frame, task, modifyTask,
    orFault, raise, fault] with
    grind [Task.WithinComponentLimit.modifyFrame, Frame.base_of_setVariable]

theorem execDrop_limit (storage : Storage) (slot : Nat) :
    ⦃fun s => ⌜s.task.WithinComponentLimit c⌝⦄ execDrop storage slot
      ⦃post⟨fun _ s => ⌜s.task.WithinComponentLimit c⌝,
        fun _ s => ⌜s.task.WithinComponentLimit c⌝⟩⦄ := by
  have hadvance := advance_limit c
  mvcgen [execDrop, hadvance, nameIn, missing, modifyRepository, modifyFrame, frame, task,
    modifyTask, orFault, raise, fault] with
    grind [Task.WithinComponentLimit.modifyFrame, Frame.base_of_setVariable]

theorem execCall_limit (intrinsic arguments : Nat) :
    ⦃fun s => ⌜s.task.WithinComponentLimit c⌝⦄ execCall c intrinsic arguments
      ⦃post⟨fun _ s => ⌜s.task.WithinComponentLimit c⌝,
        fun _ s => ⌜s.task.WithinComponentLimit c⌝⟩⦄ := by
  have hpopMany := popMany_limit c
  have hpush := push_limit c
  have hadvance := advance_limit c
  mvcgen [execCall, hpopMany, hpush, hadvance, raise]

theorem execSend_limit (message : Nat) (target : SendTarget) :
    ⦃fun s => ⌜s.task.WithinComponentLimit c⌝⦄ execSend c message target
      ⦃post⟨fun _ s => ⌜s.task.WithinComponentLimit c⌝,
        fun _ s => ⌜s.task.WithinComponentLimit c⌝⟩⦄ := by
  have hpop := pop_limit c
  mvcgen [execSend, sendArguments, resolveReceiver, startCallee, hpop, missing, frame, task,
    modifyTask, orFault, raise, fault] with
    grind [Task.WithinComponentLimit.call, Frame.base_of_activate]

theorem execute_limit (i : Instruction) :
    ⦃fun s => ⌜s.task.WithinComponentLimit c⌝⦄ execute c i
      ⦃post⟨fun _ s => ⌜s.task.WithinComponentLimit c⌝,
        fun _ s => ⌜s.task.WithinComponentLimit c⌝⟩⦄ := by
  have hadvance := advance_limit c
  have hjump := execJump_limit c
  have hpush := execPush_limit c
  have hpull := execPull_limit c
  have hload := execLoad_limit c
  have hsave := execSave_limit c
  have hdrop := execDrop_limit c
  have hcall := execCall_limit c
  have hsend := execSend_limit c
  mvcgen [execute, hadvance, hjump, hpush, hpull, hload, hsave, hdrop, hcall, hsend]

theorem fetchAndExecute_limit :
    ⦃fun s => ⌜s.task.WithinComponentLimit c⌝⦄ fetchAndExecute c
      ⦃post⟨fun _ s => ⌜s.task.WithinComponentLimit c⌝,
        fun _ s => ⌜s.task.WithinComponentLimit c⌝⟩⦄ := by
  have hexecute := execute_limit c
  mvcgen [fetchAndExecute, hexecute, modifyFrame, frame, task, modifyTask, fault] with
    grind [Task.WithinComponentLimit.modifyFrame_of_base]

/-- No move of an instruction takes a task deeper than the depth limit: only a send adds a
frame, and only below the limit. -/
def depthDiscipline (c : Config) : Discipline c where
  P s := s.task.frames.length ≤ c.maxContexts
  W s := s.task.frames.length ≤ c.maxContexts
  Q s := s.task.frames.length ≤ c.maxContexts
  R s := s.task.frames.length ≤ c.maxContexts
  raised h := h
  write h := h
  faulted h := h
  repository _ h := h
  pop h _ hpop _ := by
    obtain ⟨-, rfl⟩ := Task.popComponent_eq_some.mp hpop
    exact h
  push _ h _ := h
  pushHandler _ h _ := (Task.length_modifyFrame _).trans_le h
  popHandler h _ _ := (Task.length_modifyFrame _).trans_le h
  setVariable h _ _ := (Task.length_modifyFrame _).trans_le h
  advance h _ := (Task.length_modifyFrame _).trans_le h
  jump _ h _ _ := (Task.length_modifyFrame _).trans_le h
  call _ hdepth _ _ := by
    simp only [List.length_append, List.length_singleton]
    omega
  wait h hw := by
    obtain ⟨-, rfl⟩ := Task.waitOn_eq_ok.mp hw
    exact h
  ret _ h _ _ := by
    simp only [Task.pushComponent, Task.length_modifyFrame, Task.dropFrame_frames,
      List.length_dropLast]
    omega
  complete _ _ _ _ hc := by
    rw [Task.frames_of_moveTo_finish hc]
    exact Nat.zero_le _
  completeFault _ h _ _ _ := by
    simp only [Task.dropFrame_frames, List.length_dropLast]
    omega

end Exec

variable {c : Config} {s : MachineState}

theorem cycle_withinComponentLimit (within : s.task.WithinComponentLimit c) :
    (cycle c s).1.task.WithinComponentLimit c := by
  have run := EStateM.of_wp_run_eq rfl (fun r : EStateM.Result Interrupt MachineState Unit =>
    match r with
    | .ok _ s' => s'.task.WithinComponentLimit c
    | .error _ s' => s'.task.WithinComponentLimit c)
    (by simpa using Exec.fetchAndExecute_limit c s within)
  delta cycle
  generalize (Exec.fetchAndExecute c).run s = r at run ⊢
  cases r with
  | ok _ s' => exact run
  | error e s' =>
      cases e with
      | fault e => exact run
      | raise v => exact run.raise v

theorem cycle_depth (shallow : s.task.frames.length ≤ c.maxContexts) :
    (cycle c s).1.task.frames.length ≤ c.maxContexts :=
  @Exec.Discipline.cycle_spec c (Exec.depthDiscipline c)
    (fun x => x.task.frames.length ≤ c.maxContexts) id
    (fun h _ _ => (Task.length_modifyFrame _).trans_le h)
    (fun e h => (Task.length_raise_le _ e).trans h) s shallow

theorem Config.limits_pos_of_validate (validated : c.validate = .ok ()) :
    0 < c.maxComponents ∧ 0 < c.maxContexts := by
  unfold Config.validate at validated
  split at validated
  · cases validated
  · split at validated
    · cases validated
    · split at validated
      · cases validated
      · omega

namespace Processor

variable {p q : Processor}

/-- A processor whose task is within its configuration's component limit. -/
def ComponentsBounded (p : Processor) : Prop :=
  ∀ t, p.task = some t → t.WithinComponentLimit p.config

/-- A processor whose task is no deeper than its configuration allows. -/
def DepthBounded (p : Processor) : Prop :=
  ∀ t, p.task = some t → t.frames.length ≤ p.config.maxContexts

/-- A resume that would deliver a message to a task whose component stack is full. -/
def ResumesOntoFull (p : Processor) : Prop :=
  ∃ t bag, p.task = some t ∧ t.wait = some bag ∧ (p.repository.retrieve bag).2.isSome ∧
    p.config.maxComponents ≤ t.components.length

def CheckedMove (p q : Processor) : Prop :=
  Move p q ∧ (q = p.resume.1 → ¬p.ResumesOntoFull)

theorem resume_delivers (p : Processor) :
    p.resume.1.task = p.task ∨
      ∃ t bag r m, p.task = some t ∧ t.wait = some bag ∧ p.repository.retrieve bag = (r, some m) ∧
        p.resume.1.task = some (t.resume m).1 := by
  unfold resume
  split
  · exact .inl rfl
  · next t ht =>
      split
      · exact .inl rfl
      · next bag hwait =>
          split
          · exact .inl rfl
          · next r m hretrieve =>
              split <;> next t' e heq =>
                exact .inr ⟨t, bag, r, m, ht, hwait, hretrieve, by rw [heq]⟩

theorem resume_task_of_retrieve {t : Task} {bag : Name} {r : Repository} {m : Value}
    (current : p.task = some t) (waitsOn : t.wait = some bag)
    (retrieved : p.repository.retrieve bag = (r, some m)) :
    p.resume.1.task = some (t.resume m).1 := by
  unfold resume
  simp only [current, waitsOn, retrieved]
  split <;> next t' e heq => rw [heq]

theorem Created.bounded (created : p.Created) (validated : p.config.validate = .ok ()) :
    p.ComponentsBounded ∧ p.DepthBounded := by
  obtain ⟨id, account, tokens, compiled, target, message, arguments, f, hact, htask⟩ :=
    created.task_eq
  have hpos := Config.limits_pos_of_validate validated
  have hbase : f.base = 0 := Frame.base_of_activate hact
  constructor
  · intro t ht
    rw [htask] at ht
    cases ht
    refine ⟨by simp [Task.start], fun g hg => ?_⟩
    simp only [Task.start, List.mem_singleton] at hg
    rw [hg, hbase]
    exact hpos.1
  · intro t ht
    rw [htask] at ht
    cases ht
    simpa [Task.start, Nat.one_le_iff_ne_zero, Nat.pos_iff_ne_zero] using hpos.2

theorem ComponentsBounded.stepClock (bounded : p.ComponentsBounded) : p.stepClock.1.ComponentsBounded := by
  intro u hu
  rw [stepClock_config]
  rcases stepClock_task p with same | ⟨t, ht, hex⟩ | ⟨t, ht, -, hcharge | hfault⟩
  · exact bounded u (same ▸ hu)
  · rw [hex] at hu
    cases hu
    exact (bounded t ht).exhaust
  · rw [hcharge] at hu
    cases hu
    exact (cycle_withinComponentLimit (bounded t ht)).consumeToken
  · rw [hfault] at hu
    cases hu
    exact cycle_withinComponentLimit (bounded t ht)

theorem ComponentsBounded.resume (bounded : p.ComponentsBounded) (notFull : ¬p.ResumesOntoFull) :
    p.resume.1.ComponentsBounded := by
  intro u hu
  rw [resume_config]
  rcases resume_delivers p with same | ⟨t, bag, r, m, ht, hwait, hretrieve, hresume⟩
  · exact bounded u (same ▸ hu)
  · rw [hresume] at hu
    cases hu
    have hroom : t.components.length < p.config.maxComponents := by
      refine Nat.lt_of_not_le fun hle => notFull ⟨t, bag, ht, hwait, ?_, hle⟩
      rw [hretrieve]
      rfl
    exact (bounded t ht).resume hroom m

theorem ComponentsBounded.move (bounded : p.ComponentsBounded) (move : CheckedMove p q) :
    q.ComponentsBounded := by
  obtain ⟨move, hfull⟩ := move
  cases move with
  | step => exact bounded.stepClock
  | resume => exact bounded.resume (hfull rfl)
  | abandon v ht ha =>
      intro u hu
      cases hu
      exact Task.WithinComponentLimit.of_moveTo_finish ha
  | exhaust ht =>
      intro u hu
      cases hu
      exact (bounded _ ht).exhaust
  | repository r => exact bounded

theorem DepthBounded.move (bounded : p.DepthBounded) (move : Move p q) : q.DepthBounded := by
  intro u hu
  rw [move.config_eq]
  rcases move.task_cases hu with same | ⟨t, ht, rfl | ⟨-, rfl | rfl⟩ | ⟨m, rfl⟩ | ⟨v, ha⟩⟩
  · exact bounded u same
  · exact Task.length_exhaust_le.trans (bounded t ht)
  · exact Task.length_consumeToken_le.trans (cycle_depth (bounded t ht))
  · exact cycle_depth (bounded t ht)
  · rw [Task.length_resume]
    exact bounded t ht
  · rw [Task.frames_of_moveTo_finish ha]
    exact Nat.zero_le _

end Processor

theorem Processor.resume_overfills {p : Processor} {t : Task} (overfull : p.ResumesOntoFull)
    (current : p.task = some t) (waiting : t.state = .waiting) :
    ∃ t', p.resume.1.task = some t' ∧ t'.state = .active ∧
      t'.components.length = t.components.length + 1 ∧
      p.config.maxComponents < t'.components.length := by
  obtain ⟨t₀, bag, ht₀, hwait, hsome, hfull⟩ := overfull
  rw [current] at ht₀
  cases ht₀
  obtain ⟨r, m, hretrieve⟩ : ∃ r m, p.repository.retrieve bag = (r, some m) := by
    cases overfull : p.repository.retrieve bag with
    | mk r m =>
        rw [overfull] at hsome
        cases m with
        | none => cases hsome
        | some m => exact ⟨r, m, rfl⟩
  have hlen : (t.resume m).1.components.length = t.components.length + 1 := by
    rw [Task.components_resume waiting, List.length_append, List.length_singleton]
  exact ⟨(t.resume m).1, resume_task_of_retrieve current hwait hretrieve, Task.state_resume waiting m,
    hlen, by omega⟩

open Processor in
/-- From a task started under a valid configuration, the call stack never grows past
`maxContexts`, and the component stack never grows past `maxComponents` on a run without a
resume onto a full stack.  The first move that takes the component stack past the limit is
such a resume, and such a resume of a waiting task always does. -/
theorem limits_hold_until_resumed_onto_full_stack {p : Processor} (created : p.Created)
    (validated : p.config.validate = .ok ()) :
    (∀ q : Processor, Relation.ReflTransGen Move p q →
      ∀ t : Task, q.task = some t → t.frames.length ≤ q.config.maxContexts) ∧
    (∀ q : Processor, Relation.ReflTransGen CheckedMove p q →
      ∀ t : Task, q.task = some t → t.components.length ≤ q.config.maxComponents) ∧
    (∀ q q' : Processor, Relation.ReflTransGen CheckedMove p q → Move q q' →
      ∀ t' : Task, q'.task = some t' → q'.config.maxComponents < t'.components.length →
        q' = q.resume.1 ∧ q.ResumesOntoFull) ∧
    (∀ (q : Processor) (t : Task), q.ResumesOntoFull → q.task = some t → t.state = .waiting →
      ∃ t', q.resume.1.task = some t' ∧ t'.state = .active ∧
        t'.components.length = t.components.length + 1 ∧
        q.config.maxComponents < t'.components.length) := by
  have checked : ∀ q : Processor, Relation.ReflTransGen CheckedMove p q → q.ComponentsBounded := by
    intro q run
    induction run with
    | refl => exact (created.bounded validated).1
    | tail _ move ih => exact ih.move move
  refine ⟨fun q run => ?_, fun q run t ht => (checked q run t ht).1, ?_,
    fun q t h ht hstate => resume_overfills h ht hstate⟩
  · have bounded : q.DepthBounded := by
      induction run with
      | refl => exact (created.bounded validated).2
      | tail _ move ih => exact ih.move move
    exact bounded
  · intro q q' run move t' ht' hover
    by_contra hnot
    have hmove : CheckedMove q q' := ⟨move, fun hres hfull => hnot ⟨hres, hfull⟩⟩
    have hwithin := (checked q' (run.tail hmove) t' ht').1
    omega

def inbox : Name := ⟨["inbox"]⟩

/-- A method that waits for a message over one component of its own: `PUSH LITERAL 1` (the
bag's name), `SAVE VARIABLE 1`, `PUSH LITERAL 2` (`true`), `LOAD MESSAGE 1`, `PULL RESULT`. -/
def inboxMethod : Method :=
  ⟨[], [⟨"bag"⟩], [.name inbox, .boolean true], [], ⟨[0x2801, 0x8001, 0x2802, 0x6801, 0x5000]⟩⟩

/-- A repository whose type of `none` answers `run` with `inboxMethod`. -/
def inboxRepository : Repository :=
  ⟨[(Value.none.typeName, ⟨Value.none.typeName, [], [], [(⟨"run"⟩, inboxMethod)]⟩)], [], [], []⟩

/-- The frame that `newTask` activates for `run` on `none` in `inboxRepository`. -/
def inboxFrame : Frame :=
  ⟨.none, ⟨"run"⟩, [], [(⟨"bag"⟩, .none)], [], [.name inbox, .boolean true], [], [],
    inboxMethod.bytecode, 1, 0, 0⟩

/-- A processor that `newTask` has just given `run` on `none` in `inboxRepository`, with ten
tokens. -/
def inboxProcessor (c : Config) : Processor :=
  ⟨c, inboxRepository, some (Task.start ⟨0⟩ Name.root 10 inboxFrame), none⟩

theorem inboxProcessor_created (c : Config) : (inboxProcessor c).Created :=
  ⟨⟨c, inboxRepository, none, none⟩, ⟨0⟩, Name.root, 10, .none, ⟨"run"⟩, [], rfl⟩

def oneComponent : Config := ⟨Verbosity.validating, 1000, 1, 256⟩

/-- The bounds on a task that waits for a message under room for one component. -/
theorem inbox_task_bounds :
    (inboxProcessor oneComponent).Created ∧ (inboxProcessor oneComponent).config.validate = .ok () ∧
      ∀ q : Processor, Relation.ReflTransGen Processor.Move (inboxProcessor oneComponent) q →
        ∀ t : Task, q.task = some t → t.frames.length ≤ q.config.maxContexts :=
  ⟨inboxProcessor_created _, rfl,
    (limits_hold_until_resumed_onto_full_stack (inboxProcessor_created _) rfl).1⟩

/-- Under a valid configuration with room for one component, a task that waits with one
component on its stack holds two once a message arrives for it. -/
theorem resume_overfills_component_stack :
    (inboxProcessor oneComponent).Created ∧ oneComponent.validate = .ok () ∧
      ∃ q, Relation.ReflTransGen Processor.Move (inboxProcessor oneComponent) q ∧
        q.config.maxComponents = 1 ∧ (q.task.map fun t => t.components.length) = some 2 := by
  let waiting := (inboxProcessor oneComponent).stepClock.1.stepClock.1.stepClock.1.stepClock.1
  let posted : Processor :=
    { waiting with repository := waiting.repository.post inbox (.boolean false) }
  have run : Relation.ReflTransGen Processor.Move (inboxProcessor oneComponent) posted.resume.1 :=
    ((((((Relation.ReflTransGen.single (.step _)).tail (.step _)).tail (.step _)).tail
      (.step _)).tail (.repository _ _)).tail (.resume _))
  exact ⟨inboxProcessor_created _, rfl, posted.resume.1, run, by decide +kernel, by decide +kernel⟩

end TaskMachine
