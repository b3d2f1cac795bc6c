import Mathlib
import TaskMachine.Proofs.Machine.Reachable
import TaskMachine.Proofs.Task.Lifecycle

/-! # Tasks stay sound

Every task a processor reaches is sound (`Task.Sound`): started by `newTask` or thawed from
a snapshot, it stays sound through clock steps, faulting ones included, through resumes,
abandons, exhaustions and changes of the repository.  So thawing its snapshot rejects it
for nothing but a frame: `reachable_task_sound`.

An instruction runs in a live task.  `Exec.liveDiscipline` keeps the task live while the
instruction reads and writes and sound once it ends, and `Task.Live.raise` keeps it sound
through the unwinding of an exception; `cycle_sound` puts the two together. -/

set_option autoImplicit false

namespace TaskMachine

namespace Exec

/-- An instruction keeps its task live until its last move, which leaves it sound. -/
def liveDiscipline (c : Config) : Discipline c where
  P s := s.task.Live
  W s := s.task.Live
  Q s := s.task.Sound
  R s := s.task.Live
  raised h := h
  write h := h
  faulted h := h.toSound
  repository _ h := h
  pop h hf hpop hlen := by
    obtain ⟨-, rfl⟩ := Task.popComponent_eq_some.mp hpop
    exact h.popComponent hf (Nat.lt_of_not_le hlen)
  push v h _ := h.pushComponent v
  pushHandler _ h _ := by
    obtain ⟨f, hf⟩ := h.exists_frame
    exact h.modifyFrame hf rfl
  popHandler h hf hpop := h.modifyFrame hf (Frame.base_of_popHandler hpop)
  setVariable h hf hset := h.modifyFrame hf (Frame.base_of_setVariable hset)
  advance h hf := (h.modifyFrame hf rfl).toSound
  jump _ h hf _ := (h.modifyFrame hf rfl).toSound
  call h _ _ hact := (h.call (Frame.base_of_activate hact)).toSound
  wait h hw := h.waitOn hw
  ret v h hf hg := (((h.dropFrame hf hg).modifyFrame hg rfl).pushComponent v).toSound
  complete _ h _ _ hc := h.complete hc
  completeFault v h _ _ hc := absurd hc (h.dropFrame_complete_ne_error v _)

end Exec

theorem cycle_sound (c : Config) {s : MachineState} (live : s.task.Live) :
    (cycle c s).1.task.Sound :=
  @Exec.Discipline.cycle_spec c (Exec.liveDiscipline c) (fun s => s.task.Live)
    (fun live => live.toSound) (fun live hf _ => live.modifyFrame hf rfl) (fun e live => live.raise e) s live

namespace Processor

def Sound (p : Processor) : Prop :=
  ∀ t, p.task = some t → t.Sound

variable {p q : Processor}

theorem Sound.move (sound : p.Sound) (move : Move p q) : q.Sound := by
  intro u hu
  rcases move.task_cases hu with same | ⟨t, ht, rfl | ⟨hactive, rfl | rfl⟩ | ⟨m, rfl⟩ | ⟨v, ha⟩⟩
  · exact sound u same
  · exact (sound t ht).exhaust
  · exact (@cycle_sound p.config ⟨t, p.repository⟩ ⟨sound t ht, hactive⟩).consumeToken
  · exact @cycle_sound p.config ⟨t, p.repository⟩ ⟨sound t ht, hactive⟩
  · exact (sound t ht).resume m
  · exact Task.Sound.of_abandon (sound t ht).tokens_le ha

theorem Sound.of_created (created : p.Created) : p.Sound := by
  obtain ⟨id, account, tokens, _, _, _, _, f, hact, htask⟩ := created.task_eq
  intro t ht
  rw [htask] at ht
  cases ht
  exact Task.sound_start (Frame.base_of_activate hact)

theorem Sound.of_loaded (loaded : p.Loaded) : p.Sound := by
  obtain ⟨q, s, hload⟩ := loaded
  unfold loadTask at hload
  cases hthaw : s.thaw q.config.validates with
  | error e =>
      rw [hthaw] at hload
      cases hload
  | ok t =>
      rw [hthaw] at hload
      cases hload
      intro t' ht'
      cases ht'
      exact Snapshot.sound_of_thaw hthaw

theorem Reachable.sound (reachable : p.Reachable) : p.Sound :=
  ReachableFrom.induction Processor.Sound
    (fun _ hq => hq.elim Sound.of_created Sound.of_loaded) (fun _ _ h move => h.move move) reachable

end Processor

/-- Every task a processor reaches is sound, so thawing its snapshot checks nothing but the
frames it holds, cut to 32 bits; while their bases fit in 32 bits, nothing but each frame. -/
theorem reachable_task_sound {p : Processor} (reachable : p.Reachable) {t : Task}
    (current : p.task = some t) :
    t.Sound ∧ ∀ validate,
      t.freeze.thaw validate = t.narrow.thawFrames validate ∧
      ((∀ f ∈ t.frames, f.base < 2 ^ 32) →
        t.freeze.thaw validate =
          (t.narrow.frames.forM fun f => f.check validate).map fun _ => t.narrow) :=
  have sound := reachable.sound t current
  ⟨sound, fun validate =>
    ⟨thaw_freeze_of_sound sound validate, fun bases => thaw_freeze_of_bases_fit sound bases validate⟩⟩

/-- The task that `newTask` gives `run` on `none`, with five tokens and empty code. -/
def emptyRunTask : Task :=
  Task.start ⟨0⟩ Name.root 5 ⟨.none, ⟨"run"⟩, [], [], [], [], [], [], default, 1, 0, 0⟩

/-- `emptyRunTask` loaded from its own snapshot. -/
theorem loaded_task_sound :
    Processor.Reachable ⟨Config.default, Repository.empty, some emptyRunTask, none⟩ ∧
    emptyRunTask.Sound ∧ ∀ validate,
      emptyRunTask.freeze.thaw validate = emptyRunTask.narrow.thawFrames validate ∧
      ((∀ f ∈ emptyRunTask.frames, f.base < 2 ^ 32) →
        emptyRunTask.freeze.thaw validate =
          (emptyRunTask.narrow.frames.forM fun f => f.check validate).map
            fun _ => emptyRunTask.narrow) :=
  have reachable :
      Processor.Reachable ⟨Config.default, Repository.empty, some emptyRunTask, none⟩ :=
    ⟨_, .inr ⟨⟨Config.default, Repository.empty, none, none⟩, emptyRunTask.freeze, rfl⟩, .refl⟩
  ⟨reachable, reachable_task_sound reachable rfl⟩

end TaskMachine
