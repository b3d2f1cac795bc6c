import Mathlib
import TaskMachine.Machine.Processor

/-! # Reachable processors

A processor gets its task from `newTask` or from `loadTask`.  After that it moves one step
at a time: a clock step, a resume, an abandon or an exhaustion of its task from outside,
or a change of its repository by someone else (a worker posting a message, say).
`Processor.ReachableFrom start` holds of the processors reached by such moves from one that
satisfies `start`, and `Processor.Reachable` of those reached from either way in.

`ReachableFrom.induction` is the induction principle every invariant of the machine
goes through, and `Move.config_eq` says that no move changes the configuration. -/

set_option autoImplicit false

namespace TaskMachine

namespace Processor

def Created (p : Processor) : Prop :=
  ∃ (q : Processor) (id : TaskId) (account : Name) (tokens : Nat) (target : Value)
    (message : Symbol) (arguments : List Value),
    q.newTask id account tokens target message arguments = .ok p

def Loaded (p : Processor) : Prop :=
  ∃ (q : Processor) (s : Snapshot), q.loadTask s = .ok p

inductive Move : Processor → Processor → Prop
  | step (p : Processor) : Move p p.stepClock.1
  | resume (p : Processor) : Move p p.resume.1
  | abandon {p : Processor} {t t' : Task} (v : Value) :
      p.task = some t → t.abandon v = .ok t' → Move p { p with task := some t' }
  | exhaust {p : Processor} {t : Task} :
      p.task = some t → Move p { p with task := some t.exhaust }
  | repository (p : Processor) (r : Repository) : Move p { p with repository := r }

/-- The processors reached by moves from one that satisfies `start`. -/
def ReachableFrom (start : Processor → Prop) (p : Processor) : Prop :=
  ∃ q, start q ∧ Relation.ReflTransGen Move q p

def Reachable (p : Processor) : Prop :=
  ReachableFrom (fun q => q.Created ∨ q.Loaded) p

theorem ReachableFrom.induction {start : Processor → Prop} (Inv : Processor → Prop)
    (initial : ∀ q, start q → Inv q) (step : ∀ p q, Inv p → Move p q → Inv q)
    {p : Processor} (reach : ReachableFrom start p) : Inv p := by
  obtain ⟨q, hq, steps⟩ := reach
  induction steps with
  | refl => exact initial q hq
  | tail _ move ih => exact step _ _ ih move

theorem ReachableFrom.move {start : Processor → Prop} {p q : Processor}
    (reach : ReachableFrom start p) (move : Move p q) : ReachableFrom start q := by
  obtain ⟨o, ho, steps⟩ := reach
  exact ⟨o, ho, steps.tail move⟩

theorem stepClock_task (p : Processor) :
    p.stepClock.1.task = p.task ∨
      (∃ t, p.task = some t ∧ p.stepClock.1.task = some t.exhaust) ∨
      ∃ t, p.task = some t ∧ t.state = .active ∧
        (p.stepClock.1.task = some (cycle p.config ⟨t, p.repository⟩).1.task.consumeToken ∨
          p.stepClock.1.task = some (cycle p.config ⟨t, p.repository⟩).1.task) := by
  unfold stepClock
  split
  · exact .inl rfl
  · split
    · exact .inl rfl
    · next t ht =>
        split
        · exact .inl rfl
        · next hactive =>
            have active : t.state = .active := Classical.not_not.mp hactive
            split
            · exact .inr (.inl ⟨t, ht, rfl⟩)
            · split
              · next x heq => exact .inr (.inr ⟨t, ht, active, .inl (by rw [heq])⟩)
              · next x e heq => exact .inr (.inr ⟨t, ht, active, .inr (by rw [heq])⟩)

theorem resume_task (p : Processor) :
    p.resume.1.task = p.task ∨
      ∃ t m, p.task = some t ∧ p.resume.1.task = some (t.resume m).1 := by
  unfold resume
  split
  · exact .inl rfl
  · next t ht =>
      split
      · exact .inl rfl
      · split
        · exact .inl rfl
        · next m _ =>
            split <;> next t' e heq => exact .inr ⟨t, m, ht, by rw [heq]⟩

theorem Move.task_cases {p q : Processor} (move : Move p q) {u : Task} (current : q.task = some u) :
    p.task = some u ∨
      ∃ t, p.task = some t ∧
        (u = t.exhaust ∨
          (t.state = .active ∧ (u = (cycle p.config ⟨t, p.repository⟩).1.task.consumeToken ∨
            u = (cycle p.config ⟨t, p.repository⟩).1.task)) ∨
          (∃ m, u = (t.resume m).1) ∨ ∃ v, t.abandon v = .ok u) := by
  cases move with
  | step =>
      rcases stepClock_task p with same | ⟨t, ht, hex⟩ | ⟨t, ht, hactive, hcharge | hfault⟩
      · exact .inl (same ▸ current)
      · rw [hex] at current
        cases current
        exact .inr ⟨t, ht, .inl rfl⟩
      · rw [hcharge] at current
        cases current
        exact .inr ⟨t, ht, .inr (.inl ⟨hactive, .inl rfl⟩)⟩
      · rw [hfault] at current
        cases current
        exact .inr ⟨t, ht, .inr (.inl ⟨hactive, .inr rfl⟩)⟩
  | resume =>
      rcases resume_task p with same | ⟨t, m, ht, hresume⟩
      · exact .inl (same ▸ current)
      · rw [hresume] at current
        cases current
        exact .inr ⟨t, ht, .inr (.inr (.inl ⟨m, rfl⟩))⟩
  | abandon v ht ha =>
      cases current
      exact .inr ⟨_, ht, .inr (.inr (.inr ⟨v, ha⟩))⟩
  | exhaust ht =>
      cases current
      exact .inr ⟨_, ht, .inl rfl⟩
  | repository r => exact .inl current

theorem Created.task_eq {p : Processor} (created : p.Created) :
    ∃ id account tokens compiled target message arguments f,
      Frame.activate compiled target message arguments 0 = .ok f ∧
        p.task = some (Task.start id account tokens f) := by
  obtain ⟨q, id, account, tokens, target, message, arguments, hnew⟩ := created
  unfold newTask at hnew
  dsimp only at hnew
  split at hnew
  · cases hnew
  · next compiled _ =>
      split at hnew
      · cases hnew
      · next f hact =>
          cases hnew
          exact ⟨id, account, tokens, compiled, target, message, arguments, f, hact, rfl⟩

theorem stepClock_config (p : Processor) : p.stepClock.1.config = p.config := by
  unfold stepClock
  split
  · rfl
  · split
    · rfl
    · split
      · rfl
      · split
        · rfl
        · split <;> rfl

theorem resume_config (p : Processor) : p.resume.1.config = p.config := by
  unfold resume
  split
  · rfl
  · split
    · rfl
    · split
      · rfl
      · split <;> rfl

theorem Move.config_eq {p q : Processor} (move : Move p q) : q.config = p.config := by
  cases move with
  | step => exact stepClock_config p
  | resume => exact resume_config p
  | abandon => rfl
  | exhaust => rfl
  | repository => rfl

theorem ReachableFrom.config_eq {start : Processor → Prop} {p : Processor}
    (reach : ReachableFrom start p) : ∃ q, start q ∧ q.config = p.config := by
  obtain ⟨q, hq, steps⟩ := reach
  refine ⟨q, hq, ?_⟩
  induction steps with
  | refl => rfl
  | tail _ move ih => exact ih.trans move.config_eq.symm

end Processor

end TaskMachine
