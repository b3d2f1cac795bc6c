import Mathlib
import TaskMachine.Proofs.Machine.Soundness
import TaskMachine.Proofs.Task.Addresses

/-! # Addresses stay in the code

With targets checked (`Config.validates`), every move of an instruction keeps a task's
frames where `Task.Addressed` places them: that is `Exec.addressDiscipline`.  Unwinding
needs the task live, so `cycle_addressed` runs it together with `Exec.liveDiscipline`;
`Processor.Addressed.move` lifts it to every move of a processor.  `newTask` starts an
addressed task, and so does `loadTask`, with validation, on a snapshot whose callers stand at
an instruction.

So `checked_task_thaws_as_itself`: on a processor that checks targets, a task reached from
`newTask`, or from a snapshot whose callers stand at an instruction, has every frame in its
code or just past it and every handler in its code, and its snapshot thaws, unvalidated, as
the task itself.  Without the checks a jump leaves the
code, and a task loaded from a snapshot may hold a caller that is already past its code,
which the return moves further on (`unchecked_or_loaded_addresses_leave_code`). -/

set_option autoImplicit false

namespace TaskMachine

namespace Exec

/-- With targets checked, the moves of an instruction keep its task's frames placed. -/
def addressDiscipline (c : Config) (validating : c.validates = true) : Discipline c where
  P x := x.task.Fetched
  W x := x.task.Fetched
  Q x := x.task.Addressed
  R x := x.task.Fetched
  raised h := h
  write h := h
  faulted h := h.toAddressed
  repository _ h := h
  pop h _ hpop _ := by
    obtain ⟨-, rfl⟩ := Task.popComponent_eq_some.mp hpop
    exact h.of_frames_eq rfl h.active
  push v h _ := h.pushComponent v
  pushHandler := fun {s} a h hok => by
    cases hf : s.task.frame? with
    | none =>
        rw [Task.modifyFrame_of_frame?_none hf]
        exact h
    | some f =>
        exact h.modifyFrame hf (·.pushHandler (hok f hf validating)) rfl rfl
  popHandler h hf hp := by
    obtain ⟨-, rfl⟩ := Frame.popHandler_eq_ok.mp hp
    exact h.modifyFrame hf Frame.HandlersIn.dropLast rfl rfl
  setVariable h hf hs := by
    obtain rfl := Frame.setVariable_eq_ok hs
    exact h.modifyFrame hf id rfl rfl
  advance h hf := h.advance hf
  jump _ h hf hok := h.jump hf (hok _ hf validating)
  call h _ _ hact := by
    obtain ⟨-, -, -, -, -, -, -, hhandlers, haddress⟩ := Frame.activate_eq_ok hact
    exact h.call haddress hhandlers
  wait h hw := h.waitOn hw
  ret v h _ hg := ((h.dropFrame _).advance hg).pushComponent v
  complete _ _ _ _ validating := Task.addressed_of_moveTo_finish validating
  completeFault _ _ _ hnone _ := Task.addressed_of_frames_nil (List.getLast?_eq_none_iff.mp hnone)

end Exec

theorem cycle_addressed (c : Config) (validating : c.validates = true) {x : MachineState}
    (live : x.task.Live) (addressed : x.task.Addressed) : (cycle c x).1.task.Addressed := by
  let D := (Exec.liveDiscipline c).both (Exec.addressDiscipline c validating)
  have unwind : ∀ {y : MachineState} e, D.R y → D.Q { y with task := (y.task.raise e).1 } := by
    rintro y e ⟨ylive, yfetched⟩
    exact ⟨ylive.raise e, yfetched.unwind (ylive.unwind_raise e).1⟩
  have run := @Exec.Discipline.cycle_spec c D (fun y => y.task.Live ∧ y.task.Addressed)
    (fun addressed => ⟨addressed.1.toSound, addressed.2⟩)
    (fun addressed hf hw => ⟨addressed.1.modifyFrame hf rfl,
      (addressed.2.fetched addressed.1.active hf hw).modifyFrame hf id rfl rfl⟩)
    unwind x ⟨live, addressed⟩
  exact run.2

namespace Processor

/-- A processor whose task, if it has one, has its frames placed. -/
def Addressed (p : Processor) : Prop :=
  ∀ t, p.task = some t → t.Addressed

variable {p q : Processor}

theorem Addressed.move (validating : p.config.validates = true) (sound : p.Sound) (addressed : p.Addressed)
    (move : Move p q) : q.Addressed := by
  intro u hu
  rcases move.task_cases hu with same | ⟨t, ht, rfl | ⟨hactive, rfl | rfl⟩ | ⟨m, rfl⟩ | ⟨v, ha⟩⟩
  · exact addressed u same
  · exact (addressed t ht).exhaust
  · exact (@cycle_addressed p.config validating ⟨t, p.repository⟩ ⟨sound t ht, hactive⟩
      (addressed t ht)).consumeToken
  · exact @cycle_addressed p.config validating ⟨t, p.repository⟩ ⟨sound t ht, hactive⟩ (addressed t ht)
  · exact (addressed t ht).resume m
  · exact Task.addressed_of_moveTo_finish ha

theorem Addressed.of_created (created : p.Created) : p.Addressed := by
  obtain ⟨id, account, tokens, _, _, _, _, f, hact, htask⟩ := created.task_eq
  obtain ⟨-, -, -, -, -, -, -, hhandlers, haddress⟩ := Frame.activate_eq_ok hact
  intro t ht
  rw [htask] at ht
  cases ht
  exact Task.addressed_start haddress hhandlers

theorem Addressed.of_loaded (loaded : p.Loaded) (validating : p.config.validates = true)
    (atInstruction : ∀ t, p.task = some t → (∀ f ∈ t.frames.dropLast, f.address ≤ f.bytecode.length) ∧
      (t.state = .waiting → ∀ f, t.frame? = some f → f.address ≤ f.bytecode.length)) :
    p.Addressed := by
  obtain ⟨q, s, hload⟩ := loaded
  unfold loadTask at hload
  cases hthaw : s.thaw q.config.validates with
  | error e =>
      rw [hthaw] at hload
      cases hload
  | ok t =>
      rw [hthaw] at hload
      cases hload
      rw [show q.config.validates = true from validating] at hthaw
      intro t' ht'
      cases ht'
      exact Task.addressed_of_thaw hthaw (atInstruction t rfl).1 (atInstruction t rfl).2

theorem ReachableFrom.addressed {start : Processor → Prop}
    (starts : ∀ q, start q → q.Sound ∧ q.config.validates = true ∧ q.Addressed)
    (reachable : p.ReachableFrom start) : p.Sound ∧ p.config.validates = true ∧ p.Addressed :=
  ReachableFrom.induction (fun q => q.Sound ∧ q.config.validates = true ∧ q.Addressed) starts
    (fun _ _ ⟨hs, hc, h⟩ move => ⟨hs.move move, by rw [move.config_eq]; exact hc,
      h.move hc hs move⟩) reachable

end Processor

/-- On a processor that checks targets, a task reached from `newTask`, or from a snapshot
whose callers (and current frame, if it waits) stand at an instruction, has every frame in
its code or just past it and every handler in its code; while its addresses and bases fit in
32 bits, its snapshot thaws, unvalidated, as the task itself. -/
theorem checked_task_thaws_as_itself {p : Processor}
    (reachable : p.ReachableFrom fun q => q.config.validates = true ∧
      (q.Created ∨ q.Loaded ∧ ∀ t, q.task = some t →
        (∀ f ∈ t.frames.dropLast, f.address ≤ f.bytecode.length) ∧
        (t.state = .waiting → ∀ f, t.frame? = some f → f.address ≤ f.bytecode.length)))
    {t : Task} (current : p.task = some t) :
    (∀ f ∈ t.frames, (f.address ≠ 0 ∧ f.address ≤ f.bytecode.length + 1) ∧
      ∀ a ∈ f.handlers, a ≠ 0 ∧ a ≤ f.bytecode.length) ∧
    (t.FitsSnapshot → t.freeze.thaw false = .ok t) := by
  obtain ⟨sound, -, placed⟩ := reachable.addressed fun q start => by
    rcases start with ⟨checking, created | ⟨loaded, atInstruction⟩⟩
    · exact ⟨.of_created created, checking, .of_created created⟩
    · exact ⟨.of_loaded loaded, checking, .of_loaded loaded checking atInstruction⟩
  have addressed := placed t current
  exact ⟨fun f member => ⟨addressed.addressIn f member, addressed.handlers f member⟩,
    addressed.thaw_freeze (sound t current)⟩

/-- Verbosity 2, which checks jump and handler targets and validates loaded snapshots. -/
def Config.checking : Config := ⟨Verbosity.validating, 1000, 1024, 256⟩

/-- A repository whose type of `none` answers `run` by running `code`. -/
def runRepository (code : List Word) : Repository :=
  ⟨[(Value.none.typeName,
    ⟨Value.none.typeName, [], [], [(⟨"run"⟩, ⟨[], [], [], [], ⟨code⟩⟩)]⟩)], [], [], []⟩

def runFrame (code : List Word) : Frame :=
  ⟨.none, ⟨"run"⟩, [], [], [], [], [], [], ⟨code⟩, 1, 0, 0⟩

/-- A processor that `newTask` has just given `run` on `none`, with five tokens. -/
def runProcessor (c : Config) (code : List Word) : Processor :=
  ⟨c, runRepository code, some (Task.start ⟨0⟩ Name.root 5 (runFrame code)), none⟩

theorem runProcessor_created (c : Config) (code : List Word) : (runProcessor c code).Created :=
  ⟨⟨c, runRepository code, none, none⟩, ⟨0⟩, Name.root, 5, .none, ⟨"run"⟩, [], rfl⟩

theorem checked_run_thaws_as_itself :
    (runProcessor Config.checking [0x5000]).ReachableFrom
        (fun q => q.config.validates = true ∧
          (q.Created ∨ q.Loaded ∧ ∀ t, q.task = some t →
            (∀ f ∈ t.frames.dropLast, f.address ≤ f.bytecode.length) ∧
            (t.state = .waiting → ∀ f, t.frame? = some f → f.address ≤ f.bytecode.length))) ∧
      (runProcessor Config.checking [0x5000]).task =
        some (Task.start ⟨0⟩ Name.root 5 (runFrame [0x5000])) ∧
      (∀ f ∈ (Task.start ⟨0⟩ Name.root 5 (runFrame [0x5000])).frames,
          (f.address ≠ 0 ∧ f.address ≤ f.bytecode.length + 1) ∧
          ∀ a ∈ f.handlers, a ≠ 0 ∧ a ≤ f.bytecode.length) ∧
        ((Task.start ⟨0⟩ Name.root 5 (runFrame [0x5000])).FitsSnapshot →
          (Task.start ⟨0⟩ Name.root 5 (runFrame [0x5000])).freeze.thaw false =
            .ok (Task.start ⟨0⟩ Name.root 5 (runFrame [0x5000]))) :=
  have reachable : (runProcessor Config.checking [0x5000]).ReachableFrom
      (fun q => q.config.validates = true ∧
        (q.Created ∨ q.Loaded ∧ ∀ t, q.task = some t →
          (∀ f ∈ t.frames.dropLast, f.address ≤ f.bytecode.length) ∧
          (t.state = .waiting → ∀ f, t.frame? = some f → f.address ≤ f.bytecode.length))) :=
    ⟨_, ⟨rfl, .inl (runProcessor_created _ _)⟩, .refl⟩
  ⟨reachable, rfl, checked_task_thaws_as_itself reachable rfl⟩

/-- A task whose caller stands just past its one-word code, under a callee that pushes its
receiver and returns it (`PUSH ARGUMENT 1`, `PULL RESULT`). -/
def pastCallerTask : Task :=
  ⟨⟨7⟩, Name.root, 100, 100,
    [⟨.none, ⟨"run"⟩, [], [], [], [], [], [], ⟨[0]⟩, 2, 0, 0⟩,
      ⟨.none, ⟨"run"⟩, [], [], [], [], [], [], ⟨[0x3801, 0x5000]⟩, 1, 0, 0⟩],
    [], .active, none, none, none, none⟩

/-- Two tasks whose frames leave their code.  At verbosity 1 a started task jumps to
address 5 of its one-word code (`JUMP TO 5`); a task loaded at verbosity 2 returns into a
caller already past its code.  Neither snapshot thaws. -/
theorem unchecked_or_loaded_addresses_leave_code :
    Config.default.validates = false ∧
      (runProcessor Config.default [0x0005]).stepClock.1.Reachable ∧
      ((runProcessor Config.default [0x0005]).stepClock.1.task.map fun t =>
        (t.frames.map Frame.address, t.freeze.thaw false)) =
        some ([5], .error (.corrupt
          ("address " ++ Decimal.natText 5 ++ " outside 1..=" ++ Decimal.natText 2))) ∧
    Config.checking.validates = true ∧
      (Processor.mk Config.checking Repository.empty (some pastCallerTask)
        none).stepClock.1.stepClock.1.Reachable ∧
      ((Processor.mk Config.checking Repository.empty (some pastCallerTask)
        none).stepClock.1.stepClock.1.task.map fun t =>
          (t.frames.map Frame.address, t.freeze.thaw false)) =
        some ([3], .error (.corrupt
          ("address " ++ Decimal.natText 3 ++ " outside 1..=" ++ Decimal.natText 2))) := by
  have started : (runProcessor Config.default [0x0005]).Reachable :=
    ⟨_, .inl (runProcessor_created _ _), .refl⟩
  have loaded :
      (Processor.mk Config.checking Repository.empty (some pastCallerTask) none).Reachable :=
    ⟨_, .inr ⟨⟨Config.checking, Repository.empty, none, none⟩, pastCallerTask.freeze, rfl⟩,
      .refl⟩
  exact ⟨rfl, started.move (.step _), rfl, rfl, (loaded.move (.step _)).move (.step _), rfl⟩

end TaskMachine
