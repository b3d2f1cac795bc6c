import TaskMachine.Machine.Processor
import TaskMachine.Queue

/-!
# Workers and pools

A worker drains the task queue one quantum at a time with its processor. For each
snapshot it takes off the queue it:

- loads it, and fails it with the load error if it does not thaw;
- if the task waits, delivers the message it waits for; with the bag still empty the
  untouched snapshot goes back on the queue (the task is *parked*), and from here on the
  snapshot to fail the task with is the resumed one, since the message has left its bag;
- runs the task for at most a quantum of steps, and fails it with the fault if one
  happens;
- finishes a completed or abandoned task: its outcome is posted to its reply bag, if it
  has one, and the task acknowledged; an active or waiting task goes back on the queue.

`runUntilIdle` repeats this until the queue is empty or only parked tasks are left,
that is, until more tasks were parked in a row than are waiting in the queue.

A pool runs several workers over one queue and repository. Its tasks never share
state, so the outcomes do not depend on how the workers interleave; the pool here runs
them one after another.

Main statements: `Worker.processNext`, `runUntilIdle`, `runPool`.
-/

set_option autoImplicit false

namespace TaskMachine

inductive Outcome where
  | idle
  | completed (id : TaskId)
  | abandoned (id : TaskId)
  | requeued (id : TaskId)
  /-- Blocked on an empty bag during its quantum and went back on the queue. -/
  | waiting (id : TaskId)
  /-- Was waiting, and its message had not arrived; requeued untouched. -/
  | parked (id : TaskId)
  | failed (id : TaskId)
  deriving DecidableEq, Repr

inductive WorkerError where
  | queue (cause : QueueError)
  | config (cause : ConfigError)
  deriving DecidableEq, Repr

def WorkerError.message : WorkerError → String
  | .queue cause => cause.message
  | .config cause => cause.message

/-- A worker: a processor, empty between turns, and the queue it drains. -/
structure Worker where
  processor : Processor
  queue : Queue
  deriving Inhabited

/-- What a worker's turn answers: the worker after it, and its outcome. -/
abbrev Turn := Worker × Except WorkerError Outcome

namespace Worker

/-- A worker over a repository and a queue, once its configuration is valid. -/
def create (c : Config) (r : Repository) (q : Queue) : Except WorkerError Worker :=
  match Processor.create c r with
  | .ok p => .ok ⟨p, q⟩
  | .error e => .error (.config e)

def failWith (w : Worker) (s : Snapshot) (reason : String) : Turn :=
  let p := w.processor.takeTask.1
  match w.queue.fail s reason with
  | .ok q => (⟨p, q⟩, .ok (.failed s.task.id))
  | .error e => (⟨p, w.queue⟩, .error (.queue e))

/-- Posts a finished task's outcome to its reply bag and acknowledges it. -/
def finish (w : Worker) (t : Task) : Turn :=
  let r := match t.replyTo, t.outcome with
    | some bag, some payload => w.processor.repository.post bag payload
    | _, _ => w.processor.repository
  let p := { w.processor with repository := r }
  match w.queue.ack t.freeze with
  | .ok q => (⟨p, q⟩, .ok (if t.state = .completed then .completed t.id else .abandoned t.id))
  | .error e => (⟨p, w.queue⟩, .error (.queue e))

/-- Takes the task out after its quantum and settles it by its state. -/
def settle (w : Worker) (s : Snapshot) : Turn :=
  match w.processor.takeTask with
  | (p, none) => { w with processor := p }.failWith s ExecutionError.noTask.message
  | (p, some t) =>
    let w := { w with processor := p }
    match t.state with
    | .completed | .abandoned => w.finish t
    | .active => ({ w with queue := w.queue.enqueue t.freeze }, .ok (.requeued s.task.id))
    | .waiting => ({ w with queue := w.queue.enqueue t.freeze }, .ok (.waiting s.task.id))

/-- Runs the loaded task for a quantum; `s` is the snapshot to fail it with. -/
def runQuantum (w : Worker) (s : Snapshot) : Turn :=
  match w.processor.runFor w.processor.config.quantum with
  | (p, .error e) => { w with processor := p }.failWith s e.message
  | (p, .ok _) => { w with processor := p }.settle s

/-- One turn: takes the next snapshot off the queue and gives it one quantum. -/
def processNext (w : Worker) : Turn :=
  match w.queue.dequeue with
  | (q, .error e) => ({ w with queue := q }, .error (.queue e))
  | (q, .ok none) => ({ w with queue := q }, .ok .idle)
  | (q, .ok (some s)) =>
    let w := { w with queue := q }
    match w.processor.loadTask s with
    | .error e => w.failWith s e.message
    | .ok p =>
      if p.task.map (·.state) = some .waiting then
        match p.resume with
        | (p, .ok true) => { w with processor := p }.runQuantum ((p.task.map Task.freeze).getD s)
        | (p, .ok false) => (⟨p.takeTask.1, q.enqueue s⟩, .ok (.parked s.task.id))
        | (p, .error e) => { w with processor := p }.failWith s e.message
      else { w with processor := p }.runQuantum s

/-- Turns until the queue is empty, more tasks were parked in a row than are waiting, a
turn fails, or the fuel runs out; `parked` counts the parked turns just before, and
`earlier` holds the outcomes so far, the latest first. -/
def turnsFor (w : Worker) (parked : Nat) (earlier : List Outcome) :
    Nat → Worker × Except WorkerError (List Outcome)
  | 0 => (w, .ok earlier.reverse)
  | fuel + 1 =>
    match w.processNext with
    | (w, .error e) => (w, .error e)
    | (w, .ok .idle) => (w, .ok earlier.reverse)
    | (w, .ok o) =>
      let parked := match o with
        | .parked _ => parked + 1
        | _ => 0
      if w.queue.pending < parked then (w, .ok (o :: earlier).reverse)
      else w.turnsFor parked (o :: earlier) fuel

/-- Enough turns to drain the queue. A worker only ever puts back what it took, so
the queue never holds more than its `n` snapshots. A turn that neither parks nor ends
a task spends a token of one, so there are at most `Σ (tokens + 1)` such turns, and
between two of them at most `n + 1` parked ones; bytes that do not read as a snapshot end
the loop when they are reached. -/
def turnBound (q : Queue) : Nat :=
  ((q.readySnapshots.map fun s => s.task.tokens + 2).foldr (· + ·) 0) * (q.pending + 2) +
    q.pending + 1

/-- Turns until the queue is empty or only parked tasks are left: every outcome but the
last `idle`. -/
def runUntilIdle (w : Worker) : Worker × Except WorkerError (List Outcome) :=
  w.turnsFor 0 [] (turnBound w.queue)

/-- Runs `count` workers in turn, each until it is idle, collecting their outcomes. -/
def poolTurns (w : Worker) (outcomes : List Outcome) :
    Nat → Worker × Except WorkerError (List Outcome)
  | 0 => (w, .ok outcomes)
  | count + 1 =>
    match w.runUntilIdle with
    | (w, .error e) => (w, .error e)
    | (w, .ok os) => w.poolTurns (outcomes ++ os) count

/-- A pool of `count` workers with this worker's configuration, over its queue and
repository, run until each is idle. A pool needs a valid configuration and at least one
worker. -/
def runPool (w : Worker) (count : Nat) : Worker × Except WorkerError (List Outcome) :=
  match w.processor.config.validate with
  | .error e => (w, .error (.config e))
  | .ok () =>
    if count = 0 then (w, .error (.config (.invalid "workers must be > 0")))
    else w.poolTurns [] count

theorem processNext_empty (w : Worker) (noneReady : w.queue.ready = []) :
    w.processNext = (w, .ok .idle) := by
  simp [processNext, Queue.dequeue, noneReady]

end Worker

end TaskMachine
