import TaskMachine.Task.Wire

/-!
# The task queue

Workers share a queue of task snapshots. It hands out runnable snapshots first in,
first out, and keeps the ids of the tasks handed out and not yet returned (in flight).
A task comes back in one of three ways: requeued at the back, acknowledged when it
finished, or failed with a reason when it faulted. Acknowledged and failed snapshots are
kept, in order, until drained.

A snapshot waits on the ready line in its encoded form, written and read through the
queue's codec, and decoding refuses a format version other than 1. A snapshot of another
version is therefore lost when it is handed out: its bytes leave the ready line and the
queue reports the codec error. Acknowledging or failing a task that is not in flight is
refused.

Main statements: `Queue.dequeue`, `enqueue`, `ack`, `fail`.
-/

set_option autoImplicit false

namespace TaskMachine

structure FailedTask where
  snapshot : Snapshot
  reason : String
  deriving Inhabited

inductive QueueError where
  | codec (cause : WireError)
  | unknownTask (id : TaskId)
  deriving DecidableEq, Repr

def QueueError.message : QueueError → String
  | .codec cause => "snapshot codec: " ++ cause.message
  | .unknownTask id => "task " ++ id.display ++ " is not in flight"

structure Queue where
  codec : Codec
  ready : List (List UInt8)
  inFlight : List TaskId
  acked : List Snapshot
  failed : List FailedTask
  deriving Inhabited

namespace Queue

def empty (codec : Codec) : Queue := ⟨codec, [], [], [], []⟩

def pending (q : Queue) : Nat := q.ready.length

def inFlightCount (q : Queue) : Nat := q.inFlight.length

/-- Makes a snapshot runnable at the back; its task is no longer in flight. -/
def enqueue (q : Queue) (s : Snapshot) : Queue :=
  { q with inFlight := q.inFlight.erase s.task.id, ready := q.ready ++ [encodeTask q.codec s] }

/-- Hands out the next runnable snapshot and marks its task in flight. The queue
changes even when decoding refuses the snapshot, which is then gone. -/
def dequeue (q : Queue) : Queue × Except QueueError (Option Snapshot) :=
  match q.ready with
  | [] => (q, .ok none)
  | bytes :: rest =>
    let q := { q with ready := rest }
    match decodeTask q.codec bytes with
    | .error e => (q, .error (.codec e))
    | .ok s =>
      let id := s.task.id
      ({ q with inFlight := if id ∈ q.inFlight then q.inFlight else q.inFlight ++ [id] },
        .ok (some s))

/-- Takes a task out of flight, or refuses one that is not in flight. -/
def land (q : Queue) (id : TaskId) : Except QueueError Queue :=
  if id ∈ q.inFlight then .ok { q with inFlight := q.inFlight.erase id }
  else .error (.unknownTask id)

def ack (q : Queue) (s : Snapshot) : Except QueueError Queue :=
  (q.land s.task.id).map fun q => { q with acked := q.acked ++ [s] }

def fail (q : Queue) (s : Snapshot) (reason : String) : Except QueueError Queue :=
  (q.land s.task.id).map fun q => { q with failed := q.failed ++ [⟨s, reason⟩] }

/-- The snapshots the ready line holds, in order, leaving out bytes that do not read as one. -/
def readySnapshots (q : Queue) : List Snapshot :=
  q.ready.filterMap fun bytes => (readTask q.codec bytes).toOption

def drainAcked (q : Queue) : Queue × List Snapshot :=
  ({ q with acked := [] }, q.acked)

def drainFailed (q : Queue) : Queue × List FailedTask :=
  ({ q with failed := [] }, q.failed)

@[simp]
theorem pending_enqueue (q : Queue) (s : Snapshot) : (q.enqueue s).pending = q.pending + 1 := by
  simp [enqueue, pending]

end Queue

end TaskMachine
