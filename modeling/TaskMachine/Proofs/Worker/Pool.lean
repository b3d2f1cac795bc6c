import Mathlib
import TaskMachine.Proofs.Queue.Accounting
import TaskMachine.Proofs.Worker.Quanta

/-! # A pool of workers over one queue and one repository

`Worker.processNext` takes a snapshot off the queue, may fetch a message from a bag, runs a
quantum of clock steps and hands the task back.  A pool runs many workers at once over one
queue and one repository, and what is atomic there is one operation on either of them: a
dequeue, the fetch of a message, one clock step, a post, and the enqueue, ack or fail that
hands a task back.  `Stage` says where a worker stands between two of them, and `Stage.act`
is its next one; a `Pool` of workers moves by any worker acting, by fresh tasks enqueued
from outside, and by outside changes to the repository.

Every worker logs the events of its calls (`Event`, with what each does to the shared state:
`Event.Effect`), and `Call.Shaped` lists the ways a call of `processNext` can go.  Run
alone, the actions of a call are `Worker.processNext` (`drive_idle`). -/


set_option autoImplicit false

namespace TaskMachine

/-- The queue and the repository that the workers of a pool share. -/
structure Shared where
  queue : Queue
  repository : Repository

/-- What one action of a worker did to the shared queue and repository. -/
inductive Event where
  | dequeued (answer : Except QueueError (Option Snapshot))
  /-- A resume: the message taken from the bag the task waits on, if any, and the answer. -/
  | resumed (message : Option Value) (answer : Except ExecutionError Bool)
  | stepped
  | posted (bag : Name) (payload : Value)
  | handedBack (op : Queue.Op)

def Event.Effect : Event → Shared → Shared → Prop
  | .dequeued answer, σ, σ' => σ.queue.dequeue = (σ'.queue, answer) ∧ σ'.repository = σ.repository
  | .resumed none _, σ, σ' => σ' = σ
  | .resumed (some m) _, σ, σ' =>
    σ'.queue = σ.queue ∧ ∃ bag, σ.repository.retrieve bag = (σ'.repository, some m)
  | .stepped, σ, σ' => σ'.queue = σ.queue
  | .posted bag payload, σ, σ' =>
    σ'.queue = σ.queue ∧ σ'.repository = σ.repository.post bag payload
  | .handedBack op, σ, σ' => σ'.queue = σ.queue.perform op ∧ σ'.repository = σ.repository

structure Entry where
  event : Event
  before : Shared
  after : Shared

/-- The message a resume of `p` takes from the bag its task waits on. -/
def Processor.nextMessage (p : Processor) : Option Value :=
  match p.task with
  | some t =>
    match t.wait with
    | some bag => (p.repository.retrieve bag).2
    | none => none
  | none => none

/-- The post that finishing `t` makes: its outcome to its reply bag, if it has both. -/
def Task.replies (t : Task) : List Event :=
  match t.replyTo, t.outcome with
  | some bag, some payload => [.posted bag payload]
  | _, _ => []

/-- Where a worker stands in a call of `processNext`, with its processor.  Every stage but
`idle` holds the snapshot `taken` off the queue; `s` is the snapshot the call fails with
if it must, and the one it hands back when it requeues. -/
inductive Stage where
  | idle (p : Processor)
  | resuming (taken : Snapshot) (p : Processor)
  | running (taken s : Snapshot) (p : Processor) (left : Nat)
  /-- The finished task `t` has `payload` to post to `bag` before its ack. -/
  | posting (taken : Snapshot) (t : Task) (bag : Name) (payload : Value) (p : Processor)
  | acking (taken : Snapshot) (t : Task) (p : Processor)
  | requeueing (taken s : Snapshot) (outcome : Outcome) (p : Processor)
  | failing (taken s : Snapshot) (reason : String) (p : Processor)

namespace Stage

def taken? : Stage → Option Snapshot
  | .idle _ => none
  | .resuming taken _ | .running taken _ _ _ | .posting taken _ _ _ _ | .acking taken _ _
  | .requeueing taken _ _ _ | .failing taken _ _ _ => some taken

/-- A finished task: its outcome is posted before its ack when it has a reply bag. -/
def finishing (taken : Snapshot) (t : Task) (p : Processor) : Stage :=
  match t.replyTo, t.outcome with
  | some bag, some payload => .posting taken t bag payload p
  | _, _ => .acking taken t p

/-- After a quantum that left `p` answering `answer`: the fault fails `s`, a finished task is
posted and acknowledged, and any other goes back on the queue. -/
def settle (taken s : Snapshot) (p : Processor) : Except ExecutionError TaskState → Stage
  | .error e => .failing taken s e.message p
  | .ok _ =>
    match p.takeTask with
    | (p, none) => .failing taken s ExecutionError.noTask.message p
    | (p, some t) =>
      match t.state with
      | .completed | .abandoned => finishing taken t p
      | .active => .requeueing taken t.freeze (.requeued s.task.id) p
      | .waiting => .requeueing taken t.freeze (.waiting s.task.id) p

/-- A quantum of `left` clock steps; with none left the task is settled at once. -/
def enter (taken s : Snapshot) (p : Processor) : Nat → Stage
  | 0 => settle taken s p p.state
  | left + 1 => .running taken s p left

/-- Where a call stands once it has taken `s`: an unloadable snapshot is failed, a waiting
task has its message fetched, and any other runs its quantum. -/
def load (p : Processor) (s : Snapshot) : Stage :=
  match p.loadTask s with
  | .error e => .failing s s e.message p
  | .ok p' =>
    if p'.task.map (·.state) = some .waiting then .resuming s p'
    else enter s s p' p'.config.quantum

/-- What an action answers: the shared state and the stage after it, its event, and the
outcome of the call when the action ends it. -/
structure Result where
  shared : Shared
  stage : Stage
  event : Event
  answer : Option (Except WorkerError Outcome)

/-- A worker's next action: one operation on the shared queue or repository, and what the
worker does on its own up to the next one.  Reading and writing the repository goes
through the processor, loaded with the shared repository first. -/
def act (σ : Shared) : Stage → Result
  | .idle p =>
    match σ.queue.dequeue with
    | (q, .error e) => ⟨⟨q, σ.repository⟩, .idle p, .dequeued (.error e), some (.error (.queue e))⟩
    | (q, .ok none) => ⟨⟨q, σ.repository⟩, .idle p, .dequeued (.ok none), some (.ok .idle)⟩
    | (q, .ok (some s)) => ⟨⟨q, σ.repository⟩, load p s, .dequeued (.ok (some s)), none⟩
  | .resuming taken p =>
    let p := { p with repository := σ.repository }
    let event := Event.resumed p.nextMessage p.resume.2
    match p.resume with
    | (p', .ok true) =>
      ⟨⟨σ.queue, p'.repository⟩,
        enter taken ((p'.task.map Task.freeze).getD taken) p' p'.config.quantum, event, none⟩
    | (p', .ok false) =>
      ⟨⟨σ.queue, p'.repository⟩, .requeueing taken taken (.parked taken.task.id) p'.takeTask.1,
        event, none⟩
    | (p', .error e) => ⟨⟨σ.queue, p'.repository⟩, .failing taken taken e.message p', event, none⟩
  | .running taken s p left =>
    match { p with repository := σ.repository }.stepClock with
    | (p', .error e) => ⟨⟨σ.queue, p'.repository⟩, .failing taken s e.message p', .stepped, none⟩
    | (p', .ok true) => ⟨⟨σ.queue, p'.repository⟩, enter taken s p' left, .stepped, none⟩
    | (p', .ok false) =>
      ⟨⟨σ.queue, p'.repository⟩, settle taken s p' p'.state, .stepped, none⟩
  | .posting taken t bag payload p =>
    ⟨⟨σ.queue, σ.repository.post bag payload⟩, .acking taken t p, .posted bag payload, none⟩
  | .acking _ t p =>
    match σ.queue.ack t.freeze with
    | .ok q =>
      ⟨⟨q, σ.repository⟩, .idle p, .handedBack (.ack t.freeze),
        some (.ok (if t.state = .completed then .completed t.id else .abandoned t.id))⟩
    | .error e => ⟨σ, .idle p, .handedBack (.ack t.freeze), some (.error (.queue e))⟩
  | .requeueing _ s outcome p =>
    ⟨⟨σ.queue.enqueue s, σ.repository⟩, .idle p, .handedBack (.enqueue s), some (.ok outcome)⟩
  | .failing _ s reason p =>
    match σ.queue.fail s reason with
    | .ok q =>
      ⟨⟨q, σ.repository⟩, .idle p.takeTask.1, .handedBack (.fail s reason),
        some (.ok (.failed s.task.id))⟩
    | .error e => ⟨σ, .idle p.takeTask.1, .handedBack (.fail s reason), some (.error (.queue e))⟩

end Stage

/-- A worker of a pool: its stage, the entries of the call under way, and the calls it has
made, each with its entries and its answer. -/
structure Agent where
  stage : Stage
  current : List Entry
  calls : List (List Entry × Except WorkerError Outcome)

def Agent.act (a : Agent) (σ : Shared) : Shared × Agent :=
  let r := a.stage.act σ
  let entry : Entry := ⟨r.event, σ, r.shared⟩
  match r.answer with
  | none => (r.shared, ⟨r.stage, a.current ++ [entry], a.calls⟩)
  | some answer => (r.shared, ⟨r.stage, [], a.calls ++ [(a.current ++ [entry], answer)]⟩)

structure Pool (n : Nat) where
  shared : Shared
  agents : Fin n → Agent

namespace Pool

variable {n : Nat}

def actBy (P : Pool n) (i : Fin n) : Pool n :=
  ⟨((P.agents i).act P.shared).1, Function.update P.agents i ((P.agents i).act P.shared).2⟩

/-- What can happen to a pool: a worker acts, a fresh task in the current format is
enqueued from outside, the repository is changed from outside, or the finished and
failed tasks are drained. -/
inductive Step : Pool n → Pool n → Prop
  | act (P : Pool n) (i : Fin n) : Step P (P.actBy i)
  | enqueue (P : Pool n) (s : Snapshot) :
      s.version = snapshotVersion → s.task.id ∉ P.shared.queue.ids →
      Step P ⟨⟨P.shared.queue.enqueue s, P.shared.repository⟩, P.agents⟩
  | repository (P : Pool n) (r : Repository) : Step P ⟨⟨P.shared.queue, r⟩, P.agents⟩
  | drainAcked (P : Pool n) :
      Step P ⟨⟨P.shared.queue.drainAcked.1, P.shared.repository⟩, P.agents⟩
  | drainFailed (P : Pool n) :
      Step P ⟨⟨P.shared.queue.drainFailed.1, P.shared.repository⟩, P.agents⟩

/-- A pool to start from: an accounted queue with nothing in flight, and idle workers that
have made no call. -/
def Start (P : Pool n) : Prop :=
  P.shared.queue.Accounted ∧ P.shared.queue.inFlight = [] ∧
    ∀ i, ∃ p, P.agents i = ⟨.idle p, [], []⟩

end Pool

/-- How a quantum opens: right after the dequeue of `taken`, failing with `taken` itself, or
after the message `m` was delivered to its waiting task, failing with the task resumed. -/
def Call.Opening (taken s : Snapshot) (events : List Event) : Prop :=
  (events = [.dequeued (.ok (some taken))] ∧ s = taken) ∨
  ∃ m, events = [.dequeued (.ok (some taken)), .resumed (some m) (.ok true)] ∧
    s = (taken.task.resume m).1.freeze

/-- The events of a call up to the end of a quantum: its opening and its clock steps. -/
def Call.Ran (taken s : Snapshot) (events : List Event) : Prop :=
  ∃ pre k, Call.Opening taken s pre ∧ events = pre ++ List.replicate k .stepped

/-- The events of a whole call of `processNext` and its outcome, by how it ends. -/
inductive Call.Shaped : List Event → Outcome → Prop
  | idle : Call.Shaped [.dequeued (.ok none)] .idle
  | unloadable (s : Snapshot) (reason : String) :
      Call.Shaped [.dequeued (.ok (some s)), .handedBack (.fail s reason)] (.failed s.task.id)
  | parked (s : Snapshot) :
      Call.Shaped [.dequeued (.ok (some s)), .resumed none (.ok false), .handedBack (.enqueue s)]
        (.parked s.task.id)
  | unresumable (s : Snapshot) (m : Option Value) (e : ExecutionError) (reason : String) :
      Call.Shaped [.dequeued (.ok (some s)), .resumed m (.error e), .handedBack (.fail s reason)]
        (.failed s.task.id)
  | faulted {taken s : Snapshot} {events : List Event} (reason : String) :
      Call.Ran taken s events →
      Call.Shaped (events ++ [.handedBack (.fail s reason)]) (.failed s.task.id)
  | requeued {taken s : Snapshot} {events : List Event} (t : Task) :
      Call.Ran taken s events → t.id = s.task.id → t.state = .active →
      Call.Shaped (events ++ [.handedBack (.enqueue t.freeze)]) (.requeued s.task.id)
  | waiting {taken s : Snapshot} {events : List Event} (t : Task) :
      Call.Ran taken s events → t.id = s.task.id → t.state = .waiting →
      Call.Shaped (events ++ [.handedBack (.enqueue t.freeze)]) (.waiting s.task.id)
  | finished {taken s : Snapshot} {events : List Event} (t : Task) :
      Call.Ran taken s events → t.id = s.task.id →
      t.state = .completed ∨ t.state = .abandoned →
      Call.Shaped (events ++ t.replies ++ [.handedBack (.ack t.freeze)])
        (if t.state = .completed then .completed t.id else .abandoned t.id)

/-! ## A call run alone -/

namespace Stage

/-- A worker's actions with nobody else acting, until its call ends or `fuel` actions are
spent. -/
def drive (σ : Shared) (st : Stage) : Nat → Shared × Stage × Option (Except WorkerError Outcome)
  | 0 => (σ, st, none)
  | fuel + 1 =>
    match (st.act σ).answer with
    | some answer => ((st.act σ).shared, (st.act σ).stage, some answer)
    | none => drive (st.act σ).shared (st.act σ).stage fuel

/-- A call run alone that ended as the worker's turn `turn` did: with its queue, its
repository and its answer, and idle on its processor. -/
def EndsAs (res : Shared × Stage × Option (Except WorkerError Outcome)) (turn : Turn) : Prop :=
  ∃ p, res = (⟨turn.1.queue, turn.1.processor.repository⟩, idle p, some turn.2) ∧
    { p with repository := turn.1.processor.repository } = turn.1.processor

end Stage

/-! ## The task and the processor along a call -/

theorem Task.id_resume (t : Task) (m : Value) : (t.resume m).1.id = t.id := by
  unfold Task.resume
  split
  · rfl
  · next moved hmove =>
    obtain ⟨-, rfl⟩ := Task.moveTo_eq_ok.mp hmove
    dsimp only
    split <;> simp

namespace Processor

variable {p p' : Processor}

theorem loadTask_eq_ok {s : Snapshot} (loaded : p.loadTask s = .ok p') :
    ∃ t, t.FitsSnapshot ∧ s = t.freeze ∧ p' = { p with task := some t, fault := none } := by
  unfold loadTask at loaded
  cases hthaw : s.thaw p.config.validates with
  | error e =>
    rw [hthaw] at loaded
    cases loaded
  | ok t =>
    rw [hthaw] at loaded
    cases loaded
    exact ⟨t, Snapshot.fits_of_thaw hthaw, Snapshot.eq_freeze_of_thaw hthaw, rfl⟩

theorem resume_cases {t₀ : Task} (current : p.task = some t₀) (waiting : t₀.state = .waiting) :
    (p.resume.1 = p ∧ p.nextMessage = none ∧ p.resume.2 = .ok false) ∨
    ∃ t bag m r, p.task = some t ∧ t.wait = some bag ∧ p.repository.retrieve bag = (r, some m) ∧
      p.nextMessage = some m ∧
      p.resume.1 = { p with task := some (t.resume m).1, repository := r } ∧
      p.resume.2 = match (t.resume m).2 with
        | none => .ok true
        | some e => .error e := by
  cases ht : p.task with
  | none => cases current.symm.trans ht
  | some t =>
    obtain rfl : t = t₀ := Option.some.inj (ht.symm.trans current)
    cases hw : t.wait with
    | none =>
      exact .inl ⟨by simp [resume, ht, hw], by simp [nextMessage, ht, hw],
        by simp [resume, ht, hw, waiting]⟩
    | some bag =>
      cases hr : p.repository.retrieve bag with
      | mk r m =>
        cases m with
        | none =>
          exact .inl ⟨by simp [resume, ht, hw, hr], by simp [nextMessage, ht, hw, hr],
            by simp [resume, ht, hw, hr]⟩
        | some m =>
          refine .inr ⟨t, bag, m, r, rfl, hw, hr, by simp [nextMessage, ht, hw, hr], ?_, ?_⟩
          · simp only [resume, ht, hw, hr]
            rcases t.resume m with ⟨t', _ | e⟩ <;> rfl
          · simp only [resume, ht, hw, hr]
            rcases t.resume m with ⟨t', _ | e⟩ <;> rfl

theorem resume_repository (p : Processor) :
    (p.nextMessage = none ∧ p.resume.1.repository = p.repository) ∨
    ∃ bag m, p.nextMessage = some m ∧ p.repository.retrieve bag = (p.resume.1.repository, some m) := by
  cases ht : p.task with
  | none => exact .inl ⟨by simp [nextMessage, ht], by simp [resume, ht]⟩
  | some t =>
    cases hw : t.wait with
    | none => exact .inl ⟨by simp [nextMessage, ht, hw], by simp [resume, ht, hw]⟩
    | some bag =>
      cases hr : p.repository.retrieve bag with
      | mk r m =>
        cases m with
        | none => exact .inl ⟨by simp [nextMessage, ht, hw, hr], by simp [resume, ht, hw, hr]⟩
        | some m =>
          refine .inr ⟨bag, m, by simp [nextMessage, ht, hw, hr], ?_⟩
          simp only [resume, ht, hw, hr]
          rcases t.resume m with ⟨t', _ | e⟩ <;> rfl

end Processor

/-! ## A call run alone is a turn -/

namespace Stage

variable {taken s : Snapshot} {p : Processor} {q : Queue}

theorem drive_of_none {σ σ' : Shared} {st st' : Stage} (shared : (st.act σ).shared = σ')
    (staged : (st.act σ).stage = st') (noAnswer : (st.act σ).answer = none) (fuel : Nat) :
    st.drive σ (fuel + 1) = st'.drive σ' fuel := by
  simp [drive, noAnswer, shared, staged]

theorem drive_of_act {σ σ' : Shared} {st st' : Stage} {e : Event}
    (acted : st.act σ = ⟨σ', st', e, none⟩) (fuel : Nat) : st.drive σ (fuel + 1) = st'.drive σ' fuel :=
  drive_of_none (by rw [acted]) (by rw [acted]) (by rw [acted]) fuel

theorem drive_of_some {σ σ' : Shared} {st st' : Stage} {e : Event}
    {answer : Except WorkerError Outcome} (acted : st.act σ = ⟨σ', st', e, some answer⟩) (fuel : Nat) :
    st.drive σ (fuel + 1) = (σ', st', some answer) := by
  simp [drive, acted]

theorem endsAs_failing (taken s : Snapshot) (p : Processor) (q : Queue) (reason : String)
    (fuel : Nat) :
    EndsAs ((failing taken s reason p).drive ⟨q, p.repository⟩ (fuel + 1))
      ((⟨p, q⟩ : Worker).failWith s reason) := by
  refine ⟨p.takeTask.1, ?_, ?_⟩ <;>
    cases hfail : q.fail s reason <;> simp [drive, act, hfail, Worker.failWith, Processor.takeTask]

theorem endsAs_finishing {t : Task} (fuel : Nat) :
    EndsAs ((finishing taken t p).drive ⟨q, p.repository⟩ (fuel + 2))
      ((⟨p, q⟩ : Worker).finish t) := by
  refine ⟨p, ?_, ?_⟩ <;> cases hreply : t.replyTo <;> cases hout : t.outcome <;>
    cases hack : q.ack t.freeze <;> simp [finishing, drive, act, Worker.finish, hreply, hout, hack]

theorem endsAs_settle (fuel : Nat) (state : TaskState) :
    EndsAs ((settle taken s p (.ok state)).drive ⟨q, p.repository⟩ (fuel + 2))
      ((⟨p, q⟩ : Worker).settle s) := by
  cases ht : p.task with
  | none =>
    simp only [settle, Worker.settle, Processor.takeTask, ht]
    exact endsAs_failing taken s _ q _ (fuel + 1)
  | some t =>
    cases hstate : t.state with
    | completed | abandoned =>
      simp only [settle, Worker.settle, Processor.takeTask, ht, hstate]
      exact endsAs_finishing fuel
    | active | waiting =>
      refine ⟨p.takeTask.1, ?_, ?_⟩ <;>
        simp [drive, act, settle, Worker.settle, Processor.takeTask, ht, hstate]

def quantumTurn (q : Queue) (s : Snapshot) : Processor × Except ExecutionError TaskState → Turn
  | (p, .error e) => (⟨p, q⟩ : Worker).failWith s e.message
  | (p, .ok _) => (⟨p, q⟩ : Worker).settle s

theorem runQuantum_eq (p : Processor) (q : Queue) (s : Snapshot) :
    (⟨p, q⟩ : Worker).runQuantum s = quantumTurn q s (p.runFor p.config.quantum) := by
  unfold Worker.runQuantum
  rcases p.runFor p.config.quantum with ⟨p', e | _⟩ <;> rfl

theorem endsAs_enter (taken s : Snapshot) (q : Queue) (n fuel : Nat) (p : Processor) :
    EndsAs ((enter taken s p n).drive ⟨q, p.repository⟩ (n + fuel + 2))
      (quantumTurn q s (p.runFor n)) := by
  induction n generalizing p with
  | zero =>
    cases hstate : p.state with
    | error e =>
      simp only [enter, settle, Processor.runFor, hstate, Nat.zero_add, quantumTurn]
      exact endsAs_failing taken s p q _ (fuel + 1)
    | ok state =>
      simp only [enter, Processor.runFor, hstate, Nat.zero_add, quantumTurn]
      exact endsAs_settle fuel state
  | succ n ih =>
    rw [show n + 1 + fuel + 2 = (n + fuel + 1) + 1 + 1 by omega]
    rcases hstep : p.stepClock with ⟨p', e | (_ | _)⟩
    · have hact : (running taken s p n).act ⟨q, p.repository⟩ =
          ⟨⟨q, p'.repository⟩, failing taken s e.message p', .stepped, none⟩ := by
        simp only [act, hstep]
      simp only [enter, drive_of_act hact, Processor.runFor, hstep, quantumTurn]
      exact endsAs_failing taken s p' q _ _
    · have hact : (running taken s p n).act ⟨q, p.repository⟩ =
          ⟨⟨q, p'.repository⟩, settle taken s p' p'.state, .stepped, none⟩ := by
        simp only [act, hstep]
      simp only [enter, drive_of_act hact, Processor.runFor, hstep]
      cases hstate : p'.state with
      | error e =>
        simp only [settle, quantumTurn]
        exact endsAs_failing taken s p' q _ _
      | ok state => exact endsAs_settle _ state
    · have hact : (running taken s p n).act ⟨q, p.repository⟩ =
          ⟨⟨q, p'.repository⟩, enter taken s p' n, .stepped, none⟩ := by
        simp only [act, hstep]
      simp only [enter, drive_of_act hact, Processor.runFor, hstep]
      have h := ih p'
      rwa [show n + fuel + 2 = n + fuel + 1 + 1 by omega] at h

theorem drive_idle (w : Worker) :
    EndsAs ((idle w.processor).drive ⟨w.queue, w.processor.repository⟩
      (w.processor.config.quantum + 4)) w.processNext := by
  obtain ⟨p, q₀⟩ := w
  rw [show p.config.quantum + 4 = p.config.quantum + 3 + 1 by omega]
  rcases hd : q₀.dequeue with ⟨q, e | (_ | s)⟩
  · refine ⟨p, ?_, ?_⟩
    · rw [drive_of_some (by simp only [act, hd]; rfl)]
      simp [Worker.processNext, hd]
    · simp [Worker.processNext, hd]
  · refine ⟨p, ?_, ?_⟩
    · rw [drive_of_some (by simp only [act, hd]; rfl)]
      simp [Worker.processNext, hd]
    · simp [Worker.processNext, hd]
  · rw [drive_of_act (by simp only [act, hd]; rfl)]
    simp only [Worker.processNext, hd]
    unfold load
    cases hload : p.loadTask s with
    | error e => exact endsAs_failing s s p q _ _
    | ok p' =>
      obtain ⟨t, -, rfl, rfl⟩ := Processor.loadTask_eq_ok hload
      simp only [Option.map_some, Option.some.injEq]
      by_cases hwait : t.state = .waiting
      · -- the message is fetched on the shared repository, which is the processor's own
        simp only [hwait, if_true]
        rcases hres : ({ p with task := some t, fault := none } : Processor).resume with
          ⟨p'', e | (_ | _)⟩
        · rw [drive_of_act (by simp only [act, hres]; rfl)]
          exact endsAs_failing _ _ p'' q _ _
        · rw [drive_of_act (by simp only [act, hres]; rfl)]
          refine ⟨p''.takeTask.1, ?_, rfl⟩
          rw [drive_of_some (by simp only [act]; rfl)]
          rfl
        · rw [drive_of_act (by simp only [act, hres]; rfl)]
          have hconfig : p''.config = p.config := by
            simpa [hres] using Processor.resume_config { p with task := some t, fault := none }
          have h := endsAs_enter t.freeze ((p''.task.map Task.freeze).getD t.freeze) q
            p''.config.quantum 0 p''
          rw [hconfig, Nat.add_zero] at h
          simp only [runQuantum_eq, hconfig]
          exact h
      · simp only [hwait, if_false, runQuantum_eq]
        exact endsAs_enter t.freeze t.freeze q p.config.quantum 1
          { p with task := some t, fault := none }

end Stage

end TaskMachine
