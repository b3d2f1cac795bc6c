import Mathlib
import TaskMachine.Proofs.Machine.Soundness
import TaskMachine.Proofs.Task.Calls

/-! # Running inside a call

`Exec.callDiscipline s` is the discipline of a task inside the call current in `s`: every
move of an instruction keeps it there, apart from a return from the callee's frame or a
completion, which take it out.  The unwinding of an exception needs the task live, so
`cycle_inCall` runs the discipline together with `Exec.liveDiscipline`.

On a processor, `Processor.RunAbove d` is a run of moves along which the task keeps more
than `d` frames.  Started inside a call with `d` frames below it, such a run never leaves
the call (`Processor.RunAbove.inCall`). -/

set_option autoImplicit false

namespace TaskMachine

namespace Exec

/-- Every move of an instruction keeps a task inside the call current in `s`, or takes it
out by a return or a completion. -/
def callDiscipline (c : Config) (s : Task) : Discipline c where
  P x := s.InCall x.task
  W x := s.InCall x.task
  Q x := s.InCall x.task ∨ s.LeftCall x.task
  R x := s.InCall x.task
  raised h := h
  write h := h
  faulted h := .inl h
  repository _ h := h
  pop h hf hpop hlen := by
    obtain ⟨-, rfl⟩ := Task.popComponent_eq_some.mp hpop
    exact h.popComponent hf (Nat.lt_of_not_le hlen)
  push v h _ := h.pushComponent v
  pushHandler _ h _ := by
    obtain ⟨f, hf⟩ := h.exists_frame
    exact h.modifyFrame hf rfl
  popHandler h hf hpop := h.modifyFrame hf (Frame.base_of_popHandler hpop)
  setVariable h hf hset := h.modifyFrame hf (Frame.base_of_setVariable hset)
  advance h hf := .inl (h.modifyFrame hf rfl)
  jump _ h hf _ := .inl (h.modifyFrame hf rfl)
  call h _ _ hact := .inl (h.call (Frame.base_of_activate hact))
  wait h hw := .inl (h.waitOn hw)
  ret v h hf hg := by
    rcases h.dropFrame hf with inside | left
    · exact .inl ((inside.modifyFrame hg rfl).pushComponent v)
    · exact .inr ((left.modifyFrame _).pushComponent v)
  complete _ _ _ _ hc := .inr (Task.leftCall_of_moveTo_finish hc)
  completeFault _ h hf _ _ := h.dropFrame hf

end Exec

theorem cycle_inCall (c : Config) {s : Task} {x : MachineState} (live : x.task.Live)
    (inCall : s.InCall x.task) : s.InCall (cycle c x).1.task ∨ s.LeftCall (cycle c x).1.task := by
  let D := (Exec.liveDiscipline c).both (Exec.callDiscipline c s)
  have unwind : ∀ {y : MachineState} e, D.R y → D.Q { y with task := (y.task.raise e).1 } := by
    rintro y e ⟨ylive, yin⟩
    exact ⟨ylive.raise e, yin.unwind (ylive.unwind_raise e).1⟩
  have run := @Exec.Discipline.cycle_spec c D (fun y => y.task.Live ∧ s.InCall y.task)
    (fun inCall => ⟨inCall.1.toSound, .inl inCall.2⟩)
    (fun inCall hf _ => ⟨inCall.1.modifyFrame hf rfl, inCall.2.modifyFrame hf rfl⟩) unwind x ⟨live, inCall⟩
  exact run.2

namespace Processor

variable {p q : Processor} {s : Task}

theorem inCall_move (sound : p.Sound) (inCall : ∀ u, p.task = some u → s.InCall u) (move : Move p q) :
    ∀ u, q.task = some u → s.InCall u ∨ s.LeftCall u := by
  intro u hu
  rcases move.task_cases hu with same | ⟨t, ht, rfl | ⟨hactive, rfl | rfl⟩ | ⟨m, rfl⟩ | ⟨v, ha⟩⟩
  · exact .inl (inCall u same)
  · exact (inCall t ht).exhaust
  · rcases @cycle_inCall p.config s ⟨t, p.repository⟩ ⟨sound t ht, hactive⟩ (inCall t ht) with
      inside | left
    · exact inside.consumeToken
    · exact .inr left.consumeToken
  · exact @cycle_inCall p.config s ⟨t, p.repository⟩ ⟨sound t ht, hactive⟩ (inCall t ht)
  · exact .inl ((inCall t ht).resume m)
  · exact .inr (Task.leftCall_of_moveTo_finish ha)

/-- A run of moves along which the task keeps more than `d` frames. -/
def RunAbove (d : Nat) : Processor → Processor → Prop :=
  Relation.ReflTransGen fun a b => Move a b ∧ ∃ u, b.task = some u ∧ d < u.frames.length

theorem RunAbove.inCall (isReachable : p.Reachable) (inCall : ∀ u, p.task = some u → s.InCall u)
    (run : RunAbove (s.frames.length - 1) p q) :
    q.Reachable ∧ ∀ u, q.task = some u → s.InCall u := by
  induction run with
  | refl => exact ⟨isReachable, inCall⟩
  | tail _ step ih =>
      obtain ⟨move, u', hu', hdeep⟩ := step
      obtain ⟨reachable, inside⟩ := ih
      refine ⟨reachable.move move, fun u hu => ?_⟩
      rcases inCall_move reachable.sound inside move u hu with h' | left
      · exact h'
      · rw [hu'] at hu
        cases hu
        unfold Task.LeftCall at left
        omega

end Processor

end TaskMachine
