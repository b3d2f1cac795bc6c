import Mathlib
import TaskMachine.Proofs.Machine.Soundness

/-! # Raising an exception

An instruction raises only while it is still reading: after the fetch it has at most popped
components of its own frame and changed the repository.  `Exec.poppedDiscipline t` is the
discipline that says so of an instruction started on the task `t`, with `Exec.PoppedFrom t`
as its reading stage.

The components it popped never show once the exception is raised: the catching frame's
base is at most the current frame's, and with no handler the components are emptied
(`Task.Live.raise_take`).  So `cycle_raise_unwinds`: in a reachable active task, an
instruction that raises `e` leaves the task as `Task.Unwind` says of the task before it,
apart from the word the fetch recorded, and reports no fault. -/

set_option autoImplicit false

namespace TaskMachine

namespace Task

variable {t : Task} {f : Frame}

theorem Live.raise_take (live : t.Live) (inFrame : t.frame? = some f) {n : Nat} (aboveBase : f.base ≤ n)
    (e : Value) : ({ t with components := t.components.take n } : Task).raise e = t.raise e := by
  rcases exists_innermost_handler t.frames with
    hno | ⟨below, k, above, hk, hsplit, hlast, habove⟩
  · have hmove : t.state.canMoveTo .abandoned = true := by
      simp [live.active, TaskState.canMoveTo]
    rw [@raise_of_no_handler { t with components := t.components.take n } e hno hmove,
      raise_of_no_handler e hno hmove]
  · have hs := live.stacked
    rw [hsplit] at hs
    -- the catching frame is based no higher than the current one, which is at most `n`
    have hkf : k.base ≤ f.base := by
      obtain ⟨below', hb⟩ := frame?_eq_some.mp inFrame
      have hlast' := live.stacked
      rw [hb] at hlast'
      exact hlast'.le_last k (hb ▸ hsplit ▸ by simp)
    rw [@raise_of_handler { t with components := t.components.take n } e below above k hk
        hsplit hlast habove hs.base_le_of_above,
      raise_of_handler e hsplit hlast habove hs.base_le_of_above]
    simp only [List.take_take, Nat.min_eq_left (Nat.le_trans hkf aboveBase)]

end Task

namespace Exec

/-- An instruction started on `t` that is still reading: it has recorded the word `w` at the
current address and popped components of the current frame, down to a height `n` no lower
than the frame's base. -/
def PoppedFrom (t : Task) (s : MachineState) : Prop :=
  ∃ w n, t.frame?.bind Frame.peek? = some w ∧ (∀ f, t.frame? = some f → f.base ≤ n) ∧
    s.task = { t.modifyFrame (fun f => { f with instruction := w }) with
      components := t.components.take n }

namespace PoppedFrom

variable {t : Task} {s : MachineState}

theorem fetch (stacked : Stacked t.frames t.components) {f : Frame} {w : Word} (r : Repository)
    (inFrame : t.frame? = some f) (peeked : f.peek? = some w) :
    PoppedFrom t ⟨t.modifyFrame fun f => { f with instruction := w }, r⟩ := by
  obtain ⟨below, hb⟩ := Task.frame?_eq_some.mp inFrame
  refine ⟨w, t.components.length, by simp [inFrame, peeked], fun g hg => ?_, ?_⟩
  · rw [inFrame] at hg
    cases hg
    rw [hb] at stacked
    exact stacked.le_length f (by simp)
  · rw [Task.modifyFrame_of_frames hb]
    simp

theorem pop (poppedFrom : PoppedFrom t s) {f : Frame} {v : Value} {t' : Task}
    (inFrame : s.task.frame? = some f) (popped : s.task.popComponent = some (v, t'))
    (aboveBase : ¬s.task.components.length ≤ f.base) : PoppedFrom t { s with task := t' } := by
  obtain ⟨w, n, hw, hbase, htask⟩ := poppedFrom
  obtain ⟨-, rfl⟩ := Task.popComponent_eq_some.mp popped
  rw [htask] at inFrame aboveBase ⊢
  simp only [List.length_take] at aboveBase
  refine ⟨w, min n t.components.length - 1, hw, fun g hg => ?_, ?_⟩
  · -- the current frame is `t`'s with the fetched word, so it has `t`'s base
    have hcur : f = { g with instruction := w } := by
      have := Task.frame?_modifyFrame hg fun f => { f with instruction := w }
      exact Option.some.inj (inFrame.symm.trans this)
    rw [hcur] at aboveBase
    dsimp only at aboveBase
    omega
  · simp only [List.dropLast_eq_take, List.length_take, List.take_take]
    rw [Nat.min_eq_left (by omega)]

end PoppedFrom

/-- Until it writes, an instruction started on `t` only pops components of its frame and
changes the repository; it raises only from there. -/
def poppedDiscipline (c : Config) (t : Task) : Discipline c where
  P := PoppedFrom t
  W _ := True
  Q _ := True
  R := PoppedFrom t
  raised h := h
  write _ := trivial
  faulted _ := trivial
  repository _ h := h
  pop h hf hpop hlen := h.pop hf hpop hlen
  push _ _ _ := trivial
  pushHandler _ _ _ := trivial
  popHandler _ _ _ := trivial
  setVariable _ _ _ := trivial
  advance _ _ := trivial
  jump _ _ _ _ := trivial
  call _ _ _ _ := trivial
  wait _ _ := trivial
  ret _ _ _ _ := trivial
  complete _ _ _ _ _ := trivial
  completeFault _ _ _ _ _ := trivial

theorem poppedFrom_of_raise {c : Config} {t : Task} (live : t.Live) {r : Repository} {e : Value}
    {ms : MachineState} (raised : (fetchAndExecute c).run ⟨t, r⟩ = .error (.raise e) ms) :
    PoppedFrom t ms := by
  have run := (poppedDiscipline c t).run_spec
    ((poppedDiscipline c t).fetchAndExecute_spec (· = ⟨t, r⟩) (fun _ => trivial)
      fun hs hf hw => by
        subst hs
        exact PoppedFrom.fetch live.stacked r hf hw) rfl
  rw [raised] at run
  exact run

end Exec

theorem cycle_of_raise {c : Config} {s ms : MachineState} {e : Value}
    (raised : (Exec.fetchAndExecute c).run s = .error (.raise e) ms) :
    (cycle c s).1 = { ms with task := (ms.task.raise e).1 } ∧
      (cycle c s).2 = (ms.task.raise e).2 := by
  delta cycle
  rw [raised]
  dsimp only
  rcases ms.task.raise e with ⟨t', err⟩
  exact ⟨rfl, rfl⟩

/-- In a reachable active task, an instruction that raises `e` leaves the task as unwinding
`e` from the task before it gives, apart from the word the fetch recorded, and the raise
reports no fault. -/
theorem cycle_raise_unwinds {p : Processor} (reachable : p.Reachable) {t : Task}
    (current : p.task = some t) (active : t.state = .active) {e : Value} {ms : MachineState}
    (raised : (Exec.fetchAndExecute p.config).run ⟨t, p.repository⟩ = .error (.raise e) ms) :
    ∃ w, t.frame?.bind Frame.peek? = some w ∧
      (t.modifyFrame fun f => { f with instruction := w }).Unwind e
        (cycle p.config ⟨t, p.repository⟩).1.task ∧
      (cycle p.config ⟨t, p.repository⟩).2 = none := by
  have live : t.Live := ⟨reachable.sound t current, active⟩
  obtain ⟨w, n, hw, hbase, htask⟩ := Exec.poppedFrom_of_raise live raised
  obtain ⟨f, hf⟩ := live.exists_frame
  have fetched : (t.modifyFrame fun f => { f with instruction := w }).Live :=
    live.modifyFrame hf rfl
  have same : ms.task.raise e = (t.modifyFrame fun f => { f with instruction := w }).raise e := by
    have := fetched.raise_take (Task.frame?_modifyFrame hf _) (hbase f hf) e
    rwa [Task.modifyFrame_components, ← htask] at this
  have unwind := fetched.unwind_raise e
  obtain ⟨hstate, hfault⟩ := cycle_of_raise raised
  refine ⟨w, hw, ?_, ?_⟩
  · rw [hstate, same]
    exact unwind.1
  · rw [hfault, same]
    exact unwind.2

/-- A loaded task whose one frame has a handler at address 1 and runs `PULL EXCEPTION` there
(the word `0x5800`) with `none` on its components. -/
theorem pull_exception_unwinds :
    Processor.Reachable ⟨Config.default, Repository.empty,
      some ⟨⟨0⟩, Name.root, 5, 5, [⟨.none, ⟨"run"⟩, [], [], [], [], [], [1], ⟨[0x5800]⟩, 1, 0, 0⟩],
        [.none], .active, none, none, none, none⟩, none⟩ ∧
    (Exec.fetchAndExecute Config.default).run
      ⟨⟨⟨0⟩, Name.root, 5, 5, [⟨.none, ⟨"run"⟩, [], [], [], [], [], [1], ⟨[0x5800]⟩, 1, 0, 0⟩],
        [.none], .active, none, none, none, none⟩, Repository.empty⟩ =
      .error (.raise .none)
        ⟨⟨⟨0⟩, Name.root, 5, 5,
          [⟨.none, ⟨"run"⟩, [], [], [], [], [], [1], ⟨[0x5800]⟩, 1, 0x5800, 0⟩],
          [], .active, none, none, none, none⟩, Repository.empty⟩ ∧
    ∃ w, (⟨⟨0⟩, Name.root, 5, 5,
        [⟨.none, ⟨"run"⟩, [], [], [], [], [], [1], ⟨[0x5800]⟩, 1, 0, 0⟩],
        [.none], .active, none, none, none, none⟩ : Task).frame?.bind Frame.peek? = some w ∧
      ((⟨⟨0⟩, Name.root, 5, 5, [⟨.none, ⟨"run"⟩, [], [], [], [], [], [1], ⟨[0x5800]⟩, 1, 0, 0⟩],
          [.none], .active, none, none, none, none⟩ : Task).modifyFrame
          fun f => { f with instruction := w }).Unwind .none
        (cycle Config.default
          ⟨⟨⟨0⟩, Name.root, 5, 5,
            [⟨.none, ⟨"run"⟩, [], [], [], [], [], [1], ⟨[0x5800]⟩, 1, 0, 0⟩],
            [.none], .active, none, none, none, none⟩, Repository.empty⟩).1.task ∧
      (cycle Config.default
        ⟨⟨⟨0⟩, Name.root, 5, 5, [⟨.none, ⟨"run"⟩, [], [], [], [], [], [1], ⟨[0x5800]⟩, 1, 0, 0⟩],
          [.none], .active, none, none, none, none⟩, Repository.empty⟩).2 = none :=
  have reachable : Processor.Reachable ⟨Config.default, Repository.empty,
      some ⟨⟨0⟩, Name.root, 5, 5, [⟨.none, ⟨"run"⟩, [], [], [], [], [], [1], ⟨[0x5800]⟩, 1, 0, 0⟩],
        [.none], .active, none, none, none, none⟩, none⟩ :=
    ⟨_, .inr ⟨⟨Config.default, Repository.empty, none, none⟩,
      Task.freeze ⟨⟨0⟩, Name.root, 5, 5,
        [⟨.none, ⟨"run"⟩, [], [], [], [], [], [1], ⟨[0x5800]⟩, 1, 0, 0⟩],
        [.none], .active, none, none, none, none⟩, rfl⟩, .refl⟩
  ⟨reachable, rfl, cycle_raise_unwinds reachable rfl rfl rfl⟩

end TaskMachine
