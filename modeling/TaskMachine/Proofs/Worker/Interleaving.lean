import Mathlib
import TaskMachine.Proofs.Worker.Pool

/-! # Interleaved calls hand back every task

However the workers of a pool interleave, `interleaved_calls_hand_back_every_task` says of
every pool reached from idle workers: the queue stays accounted, each task in flight is held
by exactly one worker, and every call any worker has made has one of the shapes of
`Call.Shaped`.  Each shape ends with exactly one enqueue, ack or fail of the task it took,
and none is refused: a finished task has its outcome posted to its reply bag just before
its ack, a failed snapshot is the one taken or, after a delivered message, the task resumed
with it, and a parked task goes back as it was taken, with its bag untouched.

The invariant is per worker and per task.  `Stage.Sound` says what the events of the call
under way tell of a worker's stage, and each action of a sound stage continues its call
soundly (`Stage.Sound.continues`) and moves the queue only as `Stage.Sound.act_queue` says:
a dequeue, nothing, or the hand-back of the task the worker holds.  `Pool.Holding` pairs the
tasks in flight with the workers that hold them. -/

set_option autoImplicit false

namespace TaskMachine


namespace Call

variable {taken s : Snapshot} {events : List Event}

theorem Opening.id_eq (opening : Opening taken s events) : s.task.id = taken.task.id := by
  rcases opening with ⟨-, rfl⟩ | ⟨m, -, rfl⟩
  · rfl
  · exact Task.id_resume _ _

theorem Ran.id_eq (ran : Ran taken s events) : s.task.id = taken.task.id := by
  obtain ⟨pre, k, hopen, -⟩ := ran
  exact hopen.id_eq

theorem Ran.opening (opening : Opening taken s events) : Ran taken s events :=
  ⟨events, 0, opening, by simp⟩

theorem Ran.step (ran : Ran taken s events) : Ran taken s (events ++ [.stepped]) := by
  obtain ⟨pre, k, hopen, rfl⟩ := ran
  exact ⟨pre, k + 1, hopen, by simp [List.replicate_succ']⟩

end Call

/-! ## The queue under the workers -/

namespace Queue

/-- An operation that hands the task `id` back: its enqueue, ack or fail. -/
def Op.HandsBack (id : TaskId) : Op → Prop
  | .enqueue s | .ack s | .fail s _ => s.task.id = id
  | .dequeue | .drainAcked | .drainFailed => False

variable {q : Queue} {s : Snapshot}

theorem inFlight_perform_of_handsBack {op : Op} {id : TaskId} (handsBack : op.HandsBack id)
    (member : id ∈ q.inFlight) : (q.perform op).inFlight = q.inFlight.erase id := by
  cases op with
  | enqueue s =>
    subst handsBack
    rfl
  | ack s =>
    subst handsBack
    simp only [perform, ack_eq_ok.mpr ⟨member, rfl⟩]
  | fail s reason =>
    subst handsBack
    simp only [perform, fail_eq_ok.mpr ⟨member, rfl⟩]
  | dequeue | drainAcked | drainFailed => exact handsBack.elim

theorem Accounted.nodup_inFlight (accounted : q.Accounted) : q.inFlight.Nodup :=
  accounted.nodup.sublist <| ((List.sublist_append_right _ _).trans (List.sublist_append_left _ _)).trans
    (List.sublist_append_left _ _)

theorem dequeue_of_none (empty : q.dequeue.2 = .ok none) : q.dequeue.1 = q := by
  cases hr : q.ready with
  | nil => rw [dequeue_of_empty hr]
  | cons bytes rest =>
    cases decoded : decodeTask q.codec bytes with
    | error e => simp [dequeue, hr, decoded] at empty
    | ok s' => simp [dequeue, hr, decoded] at empty

theorem Accounted.dequeue_of_some (accounted : q.Accounted) (dequeued : q.dequeue.2 = .ok (some s)) :
    s.task.id ∉ q.inFlight ∧ q.dequeue.1.inFlight = q.inFlight ++ [s.task.id] := by
  cases hr : q.ready with
  | nil => simp [dequeue_of_empty hr] at dequeued
  | cons bytes rest =>
    obtain ⟨s', carries⟩ := accounted.current bytes (by simp [hr])
    have hd := dequeue_of_current hr carries
    rw [hd] at dequeued
    obtain rfl : s' = s := by simpa using dequeued
    have hout : s'.task.id ∉ q.inFlight := by
      have hnodup := accounted.nodup
      simp only [ids, readySnapshots_cons hr (readTask_of_carries carries), List.map_cons,
        List.cons_append, List.nodup_cons, List.mem_append, not_or] at hnodup
      exact hnodup.1.1.1.2
    rw [hd]
    simp [hout]

end Queue

/-! ## One worker's call -/

namespace Stage

/-- What the events of the call under way say of the stage, and what its processor holds. -/
def Sound : Stage → List Event → Prop
  | .idle _, events => events = []
  | .resuming taken p, events =>
    events = [.dequeued (.ok (some taken))] ∧
      ∃ t, p.task = some t ∧ t.FitsSnapshot ∧ taken = t.freeze ∧ t.state = .waiting
  | .running taken s p _, events =>
    Call.Ran taken s events ∧ ∃ t, p.task = some t ∧ t.id = s.task.id
  | .posting taken t bag payload _, events =>
    ∃ s, Call.Ran taken s events ∧ t.id = s.task.id ∧
      (t.state = .completed ∨ t.state = .abandoned) ∧ t.replies = [.posted bag payload]
  | .acking taken t _, events =>
    ∃ (s : Snapshot) (pre : List Event), Call.Ran taken s pre ∧ events = pre ++ t.replies ∧ t.id = s.task.id ∧
      (t.state = .completed ∨ t.state = .abandoned)
  | .requeueing taken s outcome _, events =>
    (events = [.dequeued (.ok (some taken)), .resumed none (.ok false)] ∧ s = taken ∧
      s.version = snapshotVersion ∧ outcome = .parked taken.task.id) ∨
    ∃ (s₀ : Snapshot) (t : Task), Call.Ran taken s₀ events ∧ s = t.freeze ∧ t.id = s₀.task.id ∧
      (t.state = .active ∧ outcome = .requeued s₀.task.id ∨
        t.state = .waiting ∧ outcome = .waiting s₀.task.id)
  | .failing taken s _ _, events =>
    (events = [.dequeued (.ok (some taken))] ∧ s = taken) ∨
    (∃ (m : Option Value) (e : ExecutionError),
      events = [.dequeued (.ok (some taken)), .resumed m (.error e)] ∧ s = taken) ∨
    Call.Ran taken s events

variable {taken s : Snapshot} {p : Processor} {events : List Event}

theorem taken?_settle (r : Except ExecutionError TaskState) :
    (settle taken s p r).taken? = some taken := by
  unfold settle finishing
  repeat' split
  all_goals rfl

theorem taken?_enter (left : Nat) : (enter taken s p left).taken? = some taken := by
  cases left with
  | zero => exact taken?_settle _
  | succ left => rfl

theorem taken?_load (p : Processor) (s : Snapshot) : (load p s).taken? = some s := by
  unfold load
  split
  · rfl
  · split
    · rfl
    · exact taken?_enter _

theorem sound_finishing {t : Task} (ran : Call.Ran taken s events) (sameId : t.id = s.task.id)
    (finished : t.state = .completed ∨ t.state = .abandoned) :
    (finishing taken t p).Sound events := by
  unfold finishing
  split
  · next bag payload hreply hout => exact ⟨s, ran, sameId, finished, by simp [Task.replies, hreply, hout]⟩
  · next hnot =>
    refine ⟨s, events, ran, ?_, sameId, finished⟩
    unfold Task.replies
    split
    · next bag payload hreply hout => exact (hnot bag payload hreply hout).elim
    · simp

theorem sound_settle (ran : Call.Ran taken s events)
    (sameId : ∀ t, p.task = some t → t.id = s.task.id) (r : Except ExecutionError TaskState) :
    (settle taken s p r).Sound events := by
  cases r with
  | error e => exact .inr (.inr ran)
  | ok _ =>
    cases ht : p.task with
    | none =>
      simp only [settle, Processor.takeTask, ht]
      exact .inr (.inr ran)
    | some t =>
      have sameId := sameId t ht
      cases hstate : t.state with
      | completed | abandoned =>
        simp only [settle, Processor.takeTask, ht, hstate]
        exact sound_finishing ran sameId (by simp [hstate])
      | active =>
        simp only [settle, Processor.takeTask, ht, hstate, Sound]
        exact .inr ⟨s, t, ran, rfl, sameId, .inl ⟨hstate, rfl⟩⟩
      | waiting =>
        simp only [settle, Processor.takeTask, ht, hstate, Sound]
        exact .inr ⟨s, t, ran, rfl, sameId, .inr ⟨hstate, rfl⟩⟩

theorem sound_enter (ran : Call.Ran taken s events)
    (hasTask : ∃ t, p.task = some t ∧ t.id = s.task.id) (left : Nat) :
    (enter taken s p left).Sound events := by
  cases left with
  | zero =>
    obtain ⟨t, ht, hid⟩ := hasTask
    exact sound_settle ran (fun t' ht' => by rw [ht, Option.some.injEq] at ht'; rw [← ht', hid]) _
  | succ left => exact ⟨ran, hasTask⟩

theorem sound_load (p : Processor) (s : Snapshot) : (load p s).Sound [.dequeued (.ok (some s))] := by
  unfold load
  cases hload : p.loadTask s with
  | error e => exact .inl ⟨rfl, rfl⟩
  | ok p' =>
    obtain ⟨t, fits, rfl, rfl⟩ := Processor.loadTask_eq_ok hload
    dsimp only
    split
    · next hwait =>
      simp only [Option.map_some, Option.some.injEq] at hwait
      exact ⟨rfl, t, rfl, fits, rfl, hwait⟩
    · exact sound_enter (Call.Ran.opening (.inl ⟨rfl, rfl⟩)) ⟨t, rfl, rfl⟩ _

/-- What an action must leave of a sound stage whose call has had `events`: a sound stage to
go on from, and, when the action ends the call, a call of one of the shapes, answered without
error. -/
def Continues (events : List Event) (r : Result) : Prop :=
  (r.answer = none → r.stage.Sound (events ++ [r.event])) ∧
  ∀ answer, r.answer = some answer →
    r.stage.Sound [] ∧ ∃ o, answer = .ok o ∧ Call.Shaped (events ++ [r.event]) o

variable {t : Task} {left : Nat}

theorem act_idle (p : Processor) (σ : Shared) (accounted : σ.queue.Accounted) :
    Continues [] ((idle p).act σ) := by
  rcases hd : σ.queue.dequeue with ⟨q, e | (_ | s)⟩
  · exact absurd (congrArg Prod.snd hd) (accounted.dequeue_ne_error e)
  · simp only [act, hd]
    refine ⟨(fun h => by cases h), fun answer h => ?_⟩
    cases h
    exact ⟨rfl, _, rfl, .idle⟩
  · simp only [act, hd]
    exact ⟨fun _ => sound_load p s, fun _ h => by cases h⟩

theorem act_resuming (sound : (resuming taken p).Sound events) (σ : Shared) :
    Continues events ((resuming taken p).act σ) := by
  obtain ⟨rfl, t, ht, fits, rfl, hwait⟩ := sound
  have ht₁ : ({ p with repository := σ.repository } : Processor).task = some t := ht
  have same : t.freeze.task = t := Task.narrow_of_fits fits
  rcases Processor.resume_cases ht₁ hwait with
    ⟨hp, hm, hans⟩ | ⟨t', bag, m, r, ht', -, -, hm, hp, hans⟩
  · have hres : ({ p with repository := σ.repository } : Processor).resume =
        ({ p with repository := σ.repository }, .ok false) := Prod.ext hp hans
    simp only [act, hres, hm]
    exact ⟨fun _ => .inl ⟨rfl, rfl, rfl, rfl⟩, fun _ sound => by cases sound⟩
  · obtain rfl : t' = t := Option.some.inj (ht'.symm.trans ht₁)
    cases hdone : (t'.resume m).2 with
    | none =>
      rw [hdone] at hans
      have hres : ({ p with repository := σ.repository } : Processor).resume =
          ({ p with repository := r, task := some (t'.resume m).1 }, .ok true) := Prod.ext hp hans
      simp only [act, hres, hm, Option.map_some, Option.getD_some]
      refine ⟨fun _ => sound_enter (Call.Ran.opening (.inr ⟨m, rfl, by rw [same]⟩))
        ⟨(t'.resume m).1, rfl, rfl⟩ _,
        fun _ sound => by cases sound⟩
    | some e =>
      rw [hdone] at hans
      have hres : ({ p with repository := σ.repository } : Processor).resume =
          ({ p with repository := r, task := some (t'.resume m).1 }, .error e) := Prod.ext hp hans
      simp only [act, hres, hm]
      exact ⟨fun _ => .inr (.inl ⟨some m, e, rfl, rfl⟩), fun _ sound => by cases sound⟩

theorem act_running (sound : (running taken s p left).Sound events) (σ : Shared) :
    Continues events ((running taken s p left).act σ) := by
  obtain ⟨hran, t, ht, hid⟩ := sound
  have ht₁ : ({ p with repository := σ.repository } : Processor).task = some t := ht
  obtain ⟨t', ht', hid', -, -⟩ := Processor.stepClock_meter _ ht₁
  have hran' := hran.step
  rcases hstep : ({ p with repository := σ.repository } : Processor).stepClock with ⟨p', e | b⟩
  · simp only [act, hstep]
    exact ⟨fun _ => .inr (.inr hran'), fun _ sound => by cases sound⟩
  · rw [hstep] at ht'
    have htask : ∀ u, p'.task = some u → u.id = s.task.id := fun u hu => by
      rw [ht', Option.some.injEq] at hu
      rw [← hu, hid', hid]
    cases b
    · simp only [act, hstep]
      exact ⟨fun _ => sound_settle hran' htask _, fun _ sound => by cases sound⟩
    · simp only [act, hstep]
      exact ⟨fun _ => sound_enter hran' ⟨t', ht', hid'.trans hid⟩ _, fun _ sound => by cases sound⟩

theorem act_posting {bag : Name} {payload : Value} (sound : (posting taken t bag payload p).Sound events)
    (σ : Shared) : Continues events ((posting taken t bag payload p).act σ) := by
  obtain ⟨s, hran, hid, hfin, hreplies⟩ := sound
  exact ⟨fun _ => ⟨s, events, hran, by rw [hreplies]; rfl, hid, hfin⟩, fun _ sound => by cases sound⟩

theorem act_acking (sound : (acking taken t p).Sound events) (σ : Shared)
    (held : taken.task.id ∈ σ.queue.inFlight) : Continues events ((acking taken t p).act σ) := by
  obtain ⟨s, pre, hran, rfl, hid, hfin⟩ := sound
  have hin : t.freeze.task.id ∈ σ.queue.inFlight := by
    rw [Task.freeze_task, Task.narrow_id, hid, hran.id_eq]
    exact held
  have hack := Queue.ack_eq_ok.mpr ⟨hin, rfl⟩
  simp only [act, hack]
  refine ⟨(fun sound => by cases sound), fun answer sound => ?_⟩
  cases sound
  exact ⟨rfl, _, rfl, .finished t hran hid hfin⟩

theorem act_requeueing {outcome : Outcome} (sound : (requeueing taken s outcome p).Sound events)
    (σ : Shared) : Continues events ((requeueing taken s outcome p).act σ) := by
  refine ⟨(fun sound => by cases sound), fun answer hans => ?_⟩
  cases hans
  refine ⟨rfl, outcome, rfl, ?_⟩
  rcases sound with ⟨rfl, rfl, -, rfl⟩ | ⟨s₀, t, hran, rfl, hid, ⟨ha, rfl⟩ | ⟨hw, rfl⟩⟩
  · exact .parked s
  · exact .requeued t hran hid ha
  · exact .waiting t hran hid hw

theorem Sound.failing_id {reason : String} (sound : (failing taken s reason p).Sound events) :
    s.task.id = taken.task.id := by
  rcases sound with ⟨-, rfl⟩ | ⟨-, -, -, rfl⟩ | hran
  · rfl
  · rfl
  · exact hran.id_eq

theorem act_failing {reason : String} (sound : (failing taken s reason p).Sound events) (σ : Shared)
    (held : taken.task.id ∈ σ.queue.inFlight) :
    Continues events ((failing taken s reason p).act σ) := by
  have hin : s.task.id ∈ σ.queue.inFlight := sound.failing_id ▸ held
  have hfail : σ.queue.fail s reason = .ok _ := Queue.fail_eq_ok.mpr ⟨hin, rfl⟩
  simp only [act, hfail]
  refine ⟨(fun sound => by cases sound), fun answer hans => ?_⟩
  cases hans
  refine ⟨rfl, _, rfl, ?_⟩
  rcases sound with ⟨rfl, rfl⟩ | ⟨m, e, rfl, rfl⟩ | hran
  · exact .unloadable _ reason
  · exact .unresumable _ m e reason
  · exact .faulted reason hran

theorem Sound.continues {st : Stage} (sound : st.Sound events) (σ : Shared)
    (accounted : σ.queue.Accounted) (held : ∀ s, st.taken? = some s → s.task.id ∈ σ.queue.inFlight) :
    Continues events (st.act σ) := by
  cases st with
  | idle p =>
    obtain rfl : events = [] := sound
    exact act_idle p σ accounted
  | resuming => exact act_resuming sound σ
  | running => exact act_running sound σ
  | posting => exact act_posting sound σ
  | acking taken => exact act_acking sound σ (held taken rfl)
  | requeueing => exact act_requeueing sound σ
  | failing taken => exact act_failing sound σ (held taken rfl)

theorem act_effect (σ : Shared) (st : Stage) : (st.act σ).event.Effect σ (st.act σ).shared := by
  cases st with
  | idle p =>
    rcases hd : σ.queue.dequeue with ⟨q, e | (_ | s)⟩
    all_goals simp only [act, hd]; exact ⟨hd, rfl⟩
  | resuming taken p =>
    have hact : (act σ (resuming taken p)).event =
          .resumed ({ p with repository := σ.repository } : Processor).nextMessage
            ({ p with repository := σ.repository } : Processor).resume.2 ∧
        (act σ (resuming taken p)).shared =
          ⟨σ.queue, ({ p with repository := σ.repository } : Processor).resume.1.repository⟩ := by
      simp only [act]
      split <;> (rename_i hres; exact ⟨rfl, by rw [hres]⟩)
    rw [hact.1, hact.2]
    rcases Processor.resume_repository { p with repository := σ.repository } with
      ⟨hm, hr⟩ | ⟨bag, m, hm, hr⟩
    · rw [hm, hr]
      rfl
    · rw [hm]
      exact ⟨rfl, bag, hr⟩
  | running taken s p left =>
    simp only [act]
    split <;> rfl
  | posting => exact ⟨rfl, rfl⟩
  | acking taken t p =>
    simp only [act]
    split
    · next q hack => exact ⟨by simp [Queue.perform, hack], rfl⟩
    · next e hack => exact ⟨by simp [Queue.perform, hack], rfl⟩
  | requeueing => exact ⟨rfl, rfl⟩
  | failing taken s reason p =>
    simp only [act]
    split
    · next q hfail => exact ⟨by simp [Queue.perform, hfail], rfl⟩
    · next e hfail => exact ⟨by simp [Queue.perform, hfail], rfl⟩

theorem queue_of_handedBack (σ : Shared) (st : Stage) {op : Queue.Op}
    (handedBack : (st.act σ).event = .handedBack op) : (st.act σ).shared.queue = σ.queue.perform op := by
  have heffect := act_effect σ st
  rw [handedBack] at heffect
  exact heffect.1

theorem Sound.act_queue {st : Stage} (sound : st.Sound events) (σ : Shared) (accounted : σ.queue.Accounted)
    (held : ∀ s, st.taken? = some s → s.task.id ∈ σ.queue.inFlight) :
    (st.taken? = none ∧ (st.act σ).shared.queue = σ.queue.dequeue.1 ∧
      (σ.queue.dequeue.2 = .ok none ∧ (st.act σ).stage.taken? = none ∨
        ∃ s, σ.queue.dequeue.2 = .ok (some s) ∧ (st.act σ).stage.taken? = some s)) ∨
    (∃ s, st.taken? = some s ∧ (st.act σ).shared.queue = σ.queue ∧
      (st.act σ).stage.taken? = some s) ∨
    (∃ s op, st.taken? = some s ∧ (st.act σ).stage.taken? = none ∧ op.HandsBack s.task.id ∧
      op.Fits σ.queue ∧ (st.act σ).shared.queue = σ.queue.perform op) := by
  cases st with
  | idle p =>
    refine .inl ⟨rfl, ?_⟩
    rcases hd : σ.queue.dequeue with ⟨q, e | (_ | s)⟩
    · exact absurd (congrArg Prod.snd hd) (accounted.dequeue_ne_error e)
    · simp [act, hd, taken?]
    · simp [act, hd, taken?_load]
  | resuming taken p =>
    refine .inr (.inl ⟨taken, rfl, ?_⟩)
    simp only [act]
    split
    · exact ⟨rfl, taken?_enter _⟩
    · exact ⟨rfl, rfl⟩
    · exact ⟨rfl, rfl⟩
  | running taken s p left =>
    refine .inr (.inl ⟨taken, rfl, ?_⟩)
    simp only [act]
    split
    · exact ⟨rfl, rfl⟩
    · exact ⟨rfl, taken?_enter _⟩
    · exact ⟨rfl, taken?_settle _⟩
  | posting taken => exact .inr (.inl ⟨taken, rfl, rfl, rfl⟩)
  | acking taken t p =>
    obtain ⟨s, pre, hran, -, hid, -⟩ := sound
    have hback : ((acking taken t p).act σ).event = .handedBack (.ack t.freeze) ∧
        ((acking taken t p).act σ).stage.taken? = none := by
      simp only [act]
      split <;> exact ⟨rfl, rfl⟩
    exact .inr (.inr ⟨taken, .ack t.freeze, rfl, hback.2, hid.trans hran.id_eq, trivial,
      queue_of_handedBack σ _ hback.1⟩)
  | requeueing taken s outcome p =>
    have hback : s.task.id = taken.task.id ∧ s.version = snapshotVersion := by
      rcases sound with ⟨-, rfl, hv, -⟩ | ⟨s₀, t, hran, rfl, hid, -⟩
      · exact ⟨rfl, hv⟩
      · exact ⟨hid.trans hran.id_eq, rfl⟩
    exact .inr (.inr ⟨taken, .enqueue s, rfl, rfl, hback.1,
      ⟨hback.2, .inl (hback.1 ▸ held taken rfl)⟩, rfl⟩)
  | failing taken s reason p =>
    have hback : ((failing taken s reason p).act σ).event = .handedBack (.fail s reason) ∧
        ((failing taken s reason p).act σ).stage.taken? = none := by
      simp only [act]
      split <;> exact ⟨rfl, rfl⟩
    exact .inr (.inr ⟨taken, .fail s reason, rfl, hback.2, sound.failing_id, trivial,
      queue_of_handedBack σ _ hback.1⟩)

end Stage

/-! ## The pool -/

/-- A call as a worker records it, answered without error, shaped as one of the ways
`processNext` goes, and with each of its events having had its effect. -/
def Call.Recorded (call : List Entry × Except WorkerError Outcome) : Prop :=
  (∃ o, call.2 = .ok o ∧ Call.Shaped (call.1.map Entry.event) o) ∧
    ∀ e ∈ call.1, e.event.Effect e.before e.after

namespace Agent

/-- A worker whose stage fits the call under way, and whose logged events had their
effects. -/
structure Sound (a : Agent) : Prop where
  stage : a.stage.Sound (a.current.map Entry.event)
  current : ∀ e ∈ a.current, e.event.Effect e.before e.after
  calls : ∀ call ∈ a.calls, Call.Recorded call

variable {a : Agent} {σ : Shared}

theorem act_shared (a : Agent) (σ : Shared) : (a.act σ).1 = (a.stage.act σ).shared := by
  simp only [act]
  split <;> rfl

theorem act_stage (a : Agent) (σ : Shared) : (a.act σ).2.stage = (a.stage.act σ).stage := by
  simp only [act]
  split <;> rfl

theorem Sound.of_act (sound : a.Sound) (accounted : σ.queue.Accounted)
    (held : ∀ s, a.stage.taken? = some s → s.task.id ∈ σ.queue.inFlight) : (a.act σ).2.Sound := by
  obtain ⟨hnone, hsome⟩ := sound.stage.continues σ accounted held
  have heffect := Stage.act_effect σ a.stage
  simp only [Agent.act]
  split
  · next hans =>
    refine ⟨?_, ?_, sound.calls⟩
    · simpa using hnone hans
    · intro e he
      rcases List.mem_append.mp he with he | he
      · exact sound.current e he
      · rw [List.mem_singleton.mp he]
        exact heffect
  · next answer hans =>
    obtain ⟨hidle, o, rfl, hshape⟩ := hsome answer hans
    refine ⟨hidle, (fun _ he => nomatch he), ?_⟩
    intro call hcall
    rcases List.mem_append.mp hcall with hcall | hcall
    · exact sound.calls call hcall
    · rw [List.mem_singleton.mp hcall]
      refine ⟨⟨o, rfl, by simpa using hshape⟩, fun e he => ?_⟩
      rcases List.mem_append.mp he with he | he
      · exact sound.current e he
      · rw [List.mem_singleton.mp he]
        exact heffect

end Agent

namespace Pool

variable {n : Nat}

def held (P : Pool n) (i : Fin n) : Option TaskId :=
  (P.agents i).stage.taken?.map (·.task.id)

/-- Each task in flight is held by exactly one worker, and no worker holds another. -/
structure Holding (held : Fin n → Option TaskId) (inFlight : List TaskId) : Prop where
  mem : ∀ i a, held i = some a → a ∈ inFlight
  holder : ∀ a ∈ inFlight, ∃ i, held i = some a
  alone : ∀ i j a, held i = some a → held j = some a → i = j

namespace Holding

variable {held : Fin n → Option TaskId} {inFlight : List TaskId} {i : Fin n} {a : TaskId}

theorem take (holding : Holding held inFlight) (free : held i = none) (absent : a ∉ inFlight) :
    Holding (Function.update held i (some a)) (inFlight ++ [a]) where
  mem j b hj := by
    by_cases hji : j = i
    · subst hji
      rw [Function.update_self, Option.some.injEq] at hj
      simp [hj]
    · rw [Function.update_of_ne hji] at hj
      exact List.mem_append_left _ (holding.mem j b hj)
  holder b hb := by
    rcases List.mem_append.mp hb with hb | hb
    · obtain ⟨j, hj⟩ := holding.holder b hb
      have hji : j ≠ i := by
        rintro rfl
        rw [free] at hj
        cases hj
      exact ⟨j, by rw [Function.update_of_ne hji, hj]⟩
    · rw [List.mem_singleton.mp hb]
      exact ⟨i, Function.update_self _ _ _⟩
  alone j k b hj hk := by
    -- the task taken was in no other worker's hands, since it was not in flight
    have other : ∀ j, j ≠ i → Function.update held i (some a) j = some b → b ≠ a := by
      intro j hji hj hba
      rw [Function.update_of_ne hji] at hj
      exact absent (hba ▸ holding.mem j b hj)
    by_cases hji : j = i <;> by_cases hki : k = i
    · rw [hji, hki]
    · subst hji
      rw [Function.update_self, Option.some.injEq] at hj
      exact absurd hj.symm (other k hki hk)
    · subst hki
      rw [Function.update_self, Option.some.injEq] at hk
      exact absurd hk.symm (other j hji hj)
    · rw [Function.update_of_ne hji] at hj
      rw [Function.update_of_ne hki] at hk
      exact holding.alone j k b hj hk

theorem handBack (holding : Holding held inFlight) (distinct : inFlight.Nodup) (holds : held i = some a) :
    Holding (Function.update held i none) (inFlight.erase a) where
  mem j b hj := by
    have hji : j ≠ i := by
      rintro rfl
      rw [Function.update_self] at hj
      cases hj
    rw [Function.update_of_ne hji] at hj
    have hba : b ≠ a := fun hba => hji (holding.alone j i b hj (hba ▸ holds))
    exact (List.mem_erase_of_ne hba).mpr (holding.mem j b hj)
  holder b hb := by
    have hba : b ≠ a := fun hba => by
      subst hba
      exact (List.Nodup.not_mem_erase distinct) hb
    obtain ⟨j, hj⟩ := holding.holder b (List.mem_of_mem_erase hb)
    have hji : j ≠ i := by
      rintro rfl
      rw [holds, Option.some.injEq] at hj
      exact hba hj.symm
    exact ⟨j, by rw [Function.update_of_ne hji, hj]⟩
  alone j k b hj hk := by
    have hji : j ≠ i := by
      rintro rfl
      rw [Function.update_self] at hj
      cases hj
    have hki : k ≠ i := by
      rintro rfl
      rw [Function.update_self] at hk
      cases hk
    rw [Function.update_of_ne hji] at hj
    rw [Function.update_of_ne hki] at hk
    exact holding.alone j k b hj hk

end Holding

/-- What holds of every pool reached from a start over a codec that reads back what it
writes. -/
structure Inv (P : Pool n) : Prop where
  lossless : P.shared.queue.codec.Lossless
  accounted : P.shared.queue.Accounted
  holding : Holding P.held P.shared.queue.inFlight
  agents : ∀ i, (P.agents i).Sound

theorem Inv.start {P : Pool n} (start : P.Start) (lossless : P.shared.queue.codec.Lossless) :
    P.Inv := by
  obtain ⟨hq, hflight, hidle⟩ := start
  have hnone : ∀ i, P.held i = none := fun i => by
    obtain ⟨p, hp⟩ := hidle i
    simp [held, hp, Stage.taken?]
  refine ⟨lossless, hq, ⟨fun i a hi => ?_, fun a ha => ?_, fun i _ a hi _ => ?_⟩, fun i => ?_⟩
  · rw [hnone i] at hi
    cases hi
  · rw [hflight] at ha
    cases ha
  · rw [hnone i] at hi
    cases hi
  · obtain ⟨p, hp⟩ := hidle i
    rw [hp]
    exact ⟨rfl, (fun _ he => nomatch he), fun _ hc => nomatch hc⟩

theorem held_actBy (P : Pool n) (i : Fin n) :
    (P.actBy i).held =
      Function.update P.held i (((P.agents i).stage.act P.shared).stage.taken?.map (·.task.id)) := by
  funext j
  by_cases hji : j = i
  · subst hji
    simp [held, actBy, Agent.act_stage]
  · simp [held, actBy, Function.update_of_ne hji]

theorem Inv.act {P : Pool n} (inv : P.Inv) (i : Fin n) : (P.actBy i).Inv := by
  have hheld : ∀ s, (P.agents i).stage.taken? = some s → s.task.id ∈ P.shared.queue.inFlight :=
    fun s hs => inv.holding.mem i _ (by simp [held, hs])
  have hagents : ∀ j, ((P.actBy i).agents j).Sound := fun j => by
    by_cases hji : j = i
    · subst hji
      simp only [actBy, Function.update_self]
      exact (inv.agents j).of_act inv.accounted hheld
    · simp only [actBy, Function.update_of_ne hji]
      exact inv.agents j
  have hqueue : (P.actBy i).shared.queue = ((P.agents i).stage.act P.shared).shared.queue := by
    simp only [actBy, Agent.act_shared]
  have hfun := held_actBy P i
  have reads : ∀ op : Queue.Op, ∀ s ∈ op.enqueued, P.shared.queue.codec.ReadsBack s.toData :=
    fun _ s _ => inv.lossless s.toData
  have lossless : ∀ op : Queue.Op, (P.shared.queue.perform op).codec.Lossless := fun op => by
    rw [Queue.codec_perform]
    exact inv.lossless
  rcases (inv.agents i).stage.act_queue P.shared inv.accounted hheld with
    ⟨hnone, hq, ⟨hd, hnew⟩ | ⟨s, hd, hnew⟩⟩ | ⟨s, hs, hq, hnew⟩ |
      ⟨s, op, hs, hnew, hop, hfits, hq⟩
  · -- an empty queue: nothing changes hands
    have hsame : (P.actBy i).held = P.held := by
      rw [hfun, hnew]
      exact Function.update_eq_self_iff.mpr (by simp [held, hnone])
    rw [hq, Queue.dequeue_of_none hd] at hqueue
    exact ⟨hqueue ▸ inv.lossless, hqueue ▸ inv.accounted, hsame ▸ hqueue ▸ inv.holding, hagents⟩
  · -- the worker takes the snapshot handed out
    obtain ⟨hout, hflight⟩ := inv.accounted.dequeue_of_some hd
    rw [hq] at hqueue
    have hacc : (P.shared.queue.perform .dequeue).Accounted :=
      inv.accounted.perform trivial (reads .dequeue)
    refine ⟨hqueue ▸ lossless .dequeue, hqueue ▸ hacc, ?_, hagents⟩
    rw [hfun, hnew, hqueue, hflight]
    exact inv.holding.take (by simp [held, hnone]) hout
  · -- the worker goes on with its task
    have hsame : (P.actBy i).held = P.held := by
      rw [hfun, hnew]
      exact Function.update_eq_self_iff.mpr (by simp [held, hs])
    rw [hq] at hqueue
    exact ⟨hqueue ▸ inv.lossless, hqueue ▸ inv.accounted, hsame ▸ hqueue ▸ inv.holding, hagents⟩
  · -- the worker hands its task back
    rw [hq] at hqueue
    refine ⟨hqueue ▸ lossless op, hqueue ▸ inv.accounted.perform hfits (reads op), ?_, hagents⟩
    rw [hfun, hnew, hqueue, Queue.inFlight_perform_of_handsBack hop (hheld s hs)]
    exact inv.holding.handBack inv.accounted.nodup_inFlight (by simp [held, hs])

theorem Inv.step {P P' : Pool n} (inv : P.Inv) (stepped : Step P P') : P'.Inv := by
  cases stepped with
  | act i => exact inv.act i
  | enqueue s hv hfresh =>
    have hout : s.task.id ∉ P.shared.queue.inFlight := fun hin =>
      hfresh (by simp [Queue.ids, hin])
    have hflight : (P.shared.queue.enqueue s).inFlight = P.shared.queue.inFlight :=
      List.erase_of_not_mem hout
    have hacc : (P.shared.queue.perform (.enqueue s)).Accounted :=
      inv.accounted.perform ⟨hv, .inr hfresh⟩ fun _ _ => inv.lossless _
    refine ⟨inv.lossless, hacc, ?_, inv.agents⟩
    exact hflight ▸ inv.holding
  | repository r => exact ⟨inv.lossless, inv.accounted, inv.holding, inv.agents⟩
  | drainAcked =>
    have hacc : (P.shared.queue.perform .drainAcked).Accounted :=
      inv.accounted.perform trivial fun _ _ => inv.lossless _
    exact ⟨inv.lossless, hacc, inv.holding, inv.agents⟩
  | drainFailed =>
    have hacc : (P.shared.queue.perform .drainFailed).Accounted :=
      inv.accounted.perform trivial fun _ _ => inv.lossless _
    exact ⟨inv.lossless, hacc, inv.holding, inv.agents⟩

end Pool

/-- However the workers of a pool interleave, from idle workers over an accounted queue: the
queue stays accounted, so no task is in two places and none is acknowledged twice; each task
in flight is held by exactly one worker; and every call a worker has made was answered
without error, with one of the shapes of `Call.Shaped` and each of its events having had its
effect on the queue and the repository. -/
theorem interleaved_calls_hand_back_every_task {n : Nat} {P₀ P : Pool n} (start : P₀.Start)
    (lossless : P₀.shared.queue.codec.Lossless) (reach : Relation.ReflTransGen Pool.Step P₀ P) :
    P.shared.queue.Accounted ∧ Pool.Holding P.held P.shared.queue.inFlight ∧
      ∀ i, ∀ call ∈ (P.agents i).calls, Call.Recorded call := by
  have hinv : P.Inv := by
    induction reach with
    | refl => exact Pool.Inv.start start lossless
    | tail _ hstep ih => exact ih.step hstep
  exact ⟨hinv.accounted, hinv.holding, fun i => (hinv.agents i).calls⟩

/-- Two idle workers with default processors, over an empty queue written through
`Codec.tally` and an empty repository. -/
noncomputable def idlePair : Pool 2 :=
  ⟨⟨Queue.empty Codec.tally, Repository.empty⟩,
    fun _ => ⟨.idle ⟨Config.default, Repository.empty, none, none⟩, [], []⟩⟩

/-- The snapshot of a task completed with result `true`, to be reported to the root bag. -/
def finishedTaskSnapshot : Snapshot :=
  ⟨snapshotVersion, { (default : Task) with
    id := ⟨1⟩, state := .completed, replyTo := some Name.root, result := some (.boolean true) },
    fun _ member => absurd member List.not_mem_nil⟩

/-- The pair once the finished task is enqueued: the first worker takes it, the second finds
the queue empty, and the first steps the task, posts its result and acknowledges it. -/
noncomputable def pairRun : Pool 2 :=
  (((((⟨⟨(Queue.empty Codec.tally).enqueue finishedTaskSnapshot, Repository.empty⟩,
    idlePair.agents⟩ : Pool 2).actBy 0).actBy 1).actBy 0).actBy 0).actBy 0

theorem pair_run_hands_back_its_task :
    idlePair.Start ∧ idlePair.shared.queue.codec.Lossless ∧
      Relation.ReflTransGen Pool.Step idlePair pairRun ∧
      pairRun.shared.queue.Accounted ∧ Pool.Holding pairRun.held pairRun.shared.queue.inFlight ∧
      ∀ i, ∀ call ∈ (pairRun.agents i).calls, Call.Recorded call :=
  have hstart : idlePair.Start := ⟨⟨List.nodup_nil, fun _ h => nomatch h⟩, rfl, fun _ => ⟨_, rfl⟩⟩
  have henqueue : Pool.Step idlePair
      ⟨⟨(Queue.empty Codec.tally).enqueue finishedTaskSnapshot, Repository.empty⟩,
        idlePair.agents⟩ :=
    .enqueue idlePair finishedTaskSnapshot rfl
      (by simp [Queue.ids, Queue.readySnapshots, idlePair, Queue.empty])
  have hrun : Relation.ReflTransGen Pool.Step idlePair pairRun :=
    (((Relation.ReflTransGen.single henqueue).tail (.act _ 0)).tail (.act _ 1)).tail
      (.act _ 0) |>.tail (.act _ 0) |>.tail (.act _ 0)
  ⟨hstart, Codec.tally_lossless, hrun,
    interleaved_calls_hand_back_every_task hstart Codec.tally_lossless hrun⟩

end TaskMachine
