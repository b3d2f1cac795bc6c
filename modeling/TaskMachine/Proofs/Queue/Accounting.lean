import Mathlib
import TaskMachine.Proofs.Task.Persistence
import TaskMachine.Queue

/-! # The queue keeps every task

The queue holds a task in one of four places: ready, in flight, acknowledged or failed;
`Queue.ids` lists the tasks of all four, those of the ready line as its bytes read.  Callers
give distinct tasks distinct ids: a snapshot they enqueue is of a task the queue does not
hold, or of one coming back from flight (`Queue.Op.Fits`).  Then no task is ever in two
places, or twice in one (`Queue.Accounted`), and every operation moves tasks between the
places without losing or copying one: an enqueue brings in its task, a drain takes out
exactly the records it returns, and nothing else changes which tasks are held
(`perform_ledger`).  Snapshots come out first in, first out, as they went in
(`perform_fifo`).  `queue_keeps_every_task` carries all of this over a whole sequence of
operations.

All of it needs the snapshots enqueued to be in the current format, and read back by the
codec as they were written.  The queue does not look at the version when a snapshot goes
in; decoding refuses it when it comes out, after its bytes have left the ready line, so the
refusal loses the task (`stale_snapshot_is_lost`). -/

set_option autoImplicit false

namespace TaskMachine

namespace Queue

/-- The ids of the tasks the queue holds: ready, in flight, acknowledged, failed. -/
def ids (q : Queue) : List TaskId :=
  q.readySnapshots.map (·.task.id) ++ q.inFlight ++ q.acked.map (·.task.id) ++
    q.failed.map (·.snapshot.task.id)

/-- Bytes written for a snapshot in the current format that the codec reads back. -/
def Carries (q : Queue) (bytes : List UInt8) (s : Snapshot) : Prop :=
  bytes = encodeTask q.codec s ∧ s.version = snapshotVersion ∧ q.codec.ReadsBack s.toData

/-- A queue that holds each task once and in one place, with its ready line carrying
snapshots in the current format. -/
structure Accounted (q : Queue) : Prop where
  nodup : q.ids.Nodup
  current : ∀ bytes ∈ q.ready, ∃ s, q.Carries bytes s

inductive Op where
  | enqueue (s : Snapshot)
  | dequeue
  | ack (s : Snapshot)
  | fail (s : Snapshot) (reason : String)
  | drainAcked
  | drainFailed

/-- The queue after an operation.  A refused ack or fail answers its error and leaves the
queue as it was. -/
def perform (q : Queue) : Op → Queue
  | .enqueue s => q.enqueue s
  | .dequeue => q.dequeue.1
  | .ack s =>
    match q.ack s with
    | .ok q' => q'
    | .error _ => q
  | .fail s reason =>
    match q.fail s reason with
    | .ok q' => q'
    | .error _ => q
  | .drainAcked => q.drainAcked.1
  | .drainFailed => q.drainFailed.1

namespace Op

/-- What callers promise of an operation: an enqueued snapshot is in the current format,
and its task is in flight or not held at all. -/
def Fits (q : Queue) : Op → Prop
  | .enqueue s => s.version = snapshotVersion ∧ (s.task.id ∈ q.inFlight ∨ s.task.id ∉ q.ids)
  | _ => True

instance decidableFits (q : Queue) : (op : Op) → Decidable (op.Fits q)
  | .enqueue _ => inferInstanceAs (Decidable (_ ∧ _))
  | .dequeue | .ack _ | .fail _ _ | .drainAcked | .drainFailed => isTrue trivial

/-- The task an operation brings in: that of an enqueued snapshot not in flight. -/
def entering (q : Queue) : Op → List TaskId
  | .enqueue s => if s.task.id ∈ q.inFlight then [] else [s.task.id]
  | _ => []

/-- The tasks an operation takes out for good: the records a drain returns. -/
def leaving (q : Queue) : Op → List TaskId
  | .drainAcked => q.acked.map (·.task.id)
  | .drainFailed => q.failed.map (·.snapshot.task.id)
  | _ => []

/-- The snapshot an operation hands out: the one a dequeue returns. -/
def handedOut (q : Queue) : Op → List Snapshot
  | .dequeue =>
    match q.dequeue.2 with
    | .ok (some s) => [s]
    | _ => []
  | _ => []

def enqueued : Op → List Snapshot
  | .enqueue s => [s]
  | _ => []

end Op

/-- Whether every operation of a sequence fits the queue it is made on. -/
def Admits (q : Queue) : List Op → Prop
  | [] => True
  | op :: ops => op.Fits q ∧ (q.perform op).Admits ops

instance decidableAdmits (q : Queue) : (ops : List Op) → Decidable (q.Admits ops)
  | [] => isTrue trivial
  | op :: ops =>
    have := decidableAdmits (q.perform op) ops
    inferInstanceAs (Decidable (_ ∧ _))

/-- What a sequence of operations did: the queue after it, the snapshots handed out, and
the tasks that came in and went out, each in order. -/
structure Trace where
  queue : Queue
  handedOut : List Snapshot
  entered : List TaskId
  left : List TaskId

def runOps (q : Queue) : List Op → Trace
  | [] => ⟨q, [], [], []⟩
  | op :: ops =>
    let r := (q.perform op).runOps ops
    ⟨r.queue, op.handedOut q ++ r.handedOut, op.entering q ++ r.entered,
      op.leaving q ++ r.left⟩

def enqueuedIn (ops : List Op) : List Snapshot := ops.flatMap Op.enqueued

/-! ## One operation -/

variable {q : Queue} {s : Snapshot} {bytes : List UInt8} {rest : List (List UInt8)}

theorem readTask_of_carries (carries : q.Carries bytes s) : readTask q.codec bytes = .ok s := by
  rw [carries.1]
  exact readTask_encodeTask q.codec s carries.2.2

theorem decodeTask_of_carries (carries : q.Carries bytes s) :
    decodeTask q.codec bytes = .ok s := by
  rw [carries.1, decodeTask_encodeTask q.codec s carries.2.2, Snapshot.decode,
    if_pos carries.2.1]
  rfl

theorem readySnapshots_cons (ready : q.ready = bytes :: rest)
    (read : readTask q.codec bytes = .ok s) :
    q.readySnapshots = s :: rest.filterMap fun bytes => (readTask q.codec bytes).toOption := by
  simp only [readySnapshots, ready, List.filterMap_cons, read, Except.toOption]

theorem readySnapshots_enqueue (reads : q.codec.ReadsBack s.toData) :
    (q.enqueue s).readySnapshots = q.readySnapshots ++ [s] := by
  simp only [readySnapshots, enqueue, List.filterMap_append, List.filterMap_cons,
    List.filterMap_nil, readTask_encodeTask _ _ reads, Except.toOption]

theorem dequeue_of_current (ready : q.ready = bytes :: rest) (carries : q.Carries bytes s) :
    q.dequeue =
      ({ q with ready := rest, inFlight := if s.task.id ∈ q.inFlight then q.inFlight
          else q.inFlight ++ [s.task.id] }, .ok (some s)) := by
  simp [dequeue, ready, decodeTask_of_carries carries]

theorem dequeue_of_empty (noneReady : q.ready = []) : q.dequeue = (q, .ok none) := by
  simp [dequeue, noneReady]

theorem ready_dequeue (ready : q.ready = bytes :: rest) : q.dequeue.1.ready = rest := by
  simp only [dequeue, ready]
  split <;> rfl

theorem Accounted.dequeue_ne_error (accounted : q.Accounted) (e : QueueError) : q.dequeue.2 ≠ .error e := by
  cases hr : q.ready with
  | nil => simp [dequeue_of_empty hr]
  | cons bytes rest =>
      obtain ⟨s, carries⟩ := accounted.current bytes (by simp [hr])
      rw [dequeue_of_current hr carries]
      simp

theorem land_eq_ok {id : TaskId} {q' : Queue} :
    q.land id = .ok q' ↔ id ∈ q.inFlight ∧ q' = { q with inFlight := q.inFlight.erase id } := by
  unfold land
  split <;> simp_all [eq_comm]

theorem map_land_eq_ok {id : TaskId} {record : Queue → Queue} {q' : Queue} :
    (q.land id).map record = .ok q' ↔
      id ∈ q.inFlight ∧ q' = record { q with inFlight := q.inFlight.erase id } := by
  cases hland : q.land id with
  | error e =>
      have hid : id ∉ q.inFlight := fun hid => by simp [land, hid] at hland
      simp [Except.map, hid]
  | ok landed =>
      obtain ⟨hid, rfl⟩ := land_eq_ok.mp hland
      simp [Except.map, hid, eq_comm]

theorem ack_eq_ok {q' : Queue} :
    q.ack s = .ok q' ↔ s.task.id ∈ q.inFlight ∧
      q' = { q with inFlight := q.inFlight.erase s.task.id, acked := q.acked ++ [s] } :=
  map_land_eq_ok

theorem fail_eq_ok {q' : Queue} {reason : String} :
    q.fail s reason = .ok q' ↔ s.task.id ∈ q.inFlight ∧
      q' = { q with inFlight := q.inFlight.erase s.task.id, failed := q.failed ++ [⟨s, reason⟩] } :=
  map_land_eq_ok

theorem count_ids (a : TaskId) :
    q.ids.count a = (q.readySnapshots.map (·.task.id)).count a + q.inFlight.count a +
      (q.acked.map (·.task.id)).count a + (q.failed.map (·.snapshot.task.id)).count a := by
  simp only [ids, List.count_append]

theorem count_erase_of_inFlight {id : TaskId} (member : id ∈ q.inFlight) (a : TaskId) :
    (q.inFlight.erase id).count a + (if id = a then 1 else 0) = q.inFlight.count a := by
  have hpos := List.count_pos_iff.mpr member
  by_cases ha : id = a
  · subst ha
    simp
    omega
  · simp [ha, List.count_erase]

theorem perm_ids_enqueue_of_inFlight (reads : q.codec.ReadsBack s.toData)
    (member : s.task.id ∈ q.inFlight) : List.Perm (q.enqueue s).ids q.ids := by
  rw [List.perm_iff_count]
  intro a
  have hland := count_erase_of_inFlight member a
  simp only [count_ids, readySnapshots_enqueue reads, List.map_append, List.map_cons,
    List.map_nil, List.count_append, List.count_singleton, beq_iff_eq]
  simp only [enqueue]
  omega

theorem perm_ids_enqueue_of_not_inFlight (reads : q.codec.ReadsBack s.toData)
    (absent : s.task.id ∉ q.inFlight) : List.Perm (q.enqueue s).ids (s.task.id :: q.ids) := by
  rw [List.perm_iff_count]
  intro a
  simp only [count_ids, List.count_cons, readySnapshots_enqueue reads, List.map_append,
    List.map_cons, List.map_nil, List.count_append, List.count_cons, List.count_nil, beq_iff_eq]
  simp only [enqueue, List.erase_of_not_mem absent]
  omega

theorem perm_ids_dequeue (accounted : q.Accounted) : List.Perm q.dequeue.1.ids q.ids := by
  cases hr : q.ready with
  | nil => simp [dequeue_of_empty hr]
  | cons bytes rest =>
      obtain ⟨s, carries⟩ := accounted.current bytes (by simp [hr])
      have snapshots := readySnapshots_cons hr (readTask_of_carries carries)
      have hfresh : s.task.id ∉ q.inFlight := by
        have hnodup := accounted.nodup
        simp only [ids, snapshots, List.map_cons, List.cons_append, List.append_assoc,
          List.nodup_cons, List.mem_append] at hnodup
        exact fun hin => hnodup.1 (.inr (.inl hin))
      rw [dequeue_of_current hr carries, if_neg hfresh, List.perm_iff_count]
      intro a
      simp only [count_ids, snapshots, List.map_cons, List.count_append, List.count_cons,
        List.count_nil, beq_iff_eq]
      simp only [readySnapshots]
      omega

theorem perm_ids_of_ack {q' : Queue} (acked : q.ack s = .ok q') : List.Perm q'.ids q.ids := by
  obtain ⟨hid, rfl⟩ := ack_eq_ok.mp acked
  rw [List.perm_iff_count]
  intro a
  have hland := count_erase_of_inFlight hid a
  simp only [count_ids, List.map_append, List.map_cons, List.map_nil, List.count_append,
    List.count_singleton, beq_iff_eq]
  simp only [readySnapshots]
  omega

theorem perm_ids_of_fail {q' : Queue} {reason : String} (failed : q.fail s reason = .ok q') :
    List.Perm q'.ids q.ids := by
  obtain ⟨hid, rfl⟩ := fail_eq_ok.mp failed
  rw [List.perm_iff_count]
  intro a
  have hland := count_erase_of_inFlight hid a
  simp only [count_ids, List.map_append, List.map_cons, List.map_nil, List.count_append,
    List.count_singleton, beq_iff_eq]
  simp only [readySnapshots]
  omega

theorem perm_ids_drainAcked :
    List.Perm (q.drainAcked.1.ids ++ q.acked.map (·.task.id)) q.ids := by
  rw [List.perm_iff_count]
  intro a
  simp only [count_ids, drainAcked, List.count_append, List.map_nil, List.count_nil]
  simp only [readySnapshots]
  omega

theorem perm_ids_drainFailed :
    List.Perm (q.drainFailed.1.ids ++ q.failed.map (·.snapshot.task.id)) q.ids := by
  rw [List.perm_iff_count]
  intro a
  simp only [count_ids, drainFailed, List.count_append, List.map_nil, List.count_nil]
  simp only [readySnapshots]
  omega

variable {op : Op}

theorem codec_perform (op : Op) : (q.perform op).codec = q.codec := by
  cases op with
  | dequeue =>
    simp only [perform, dequeue]
    split
    · rfl
    · split <;> rfl
  | ack s =>
    simp only [perform]
    split
    · next q' hack => rw [(ack_eq_ok.mp hack).2]
    · rfl
  | fail s reason =>
    simp only [perform]
    split
    · next q' hfail => rw [(fail_eq_ok.mp hfail).2]
    · rfl
  | _ => rfl

theorem ready_perform (op : Op) :
    ∃ k, (q.perform op).ready = q.ready.drop k ++ op.enqueued.map (encodeTask q.codec) := by
  cases op with
  | enqueue s => exact ⟨0, rfl⟩
  | dequeue =>
    cases hr : q.ready with
    | nil => exact ⟨0, by simp [perform, dequeue_of_empty hr, hr, Op.enqueued]⟩
    | cons bytes rest => exact ⟨1, by simp [perform, ready_dequeue hr, Op.enqueued]⟩
  | ack s =>
    refine ⟨0, ?_⟩
    simp only [perform, Op.enqueued, List.drop_zero, List.map_nil, List.append_nil]
    split
    · next q' hack => rw [(ack_eq_ok.mp hack).2]
    · rfl
  | fail s reason =>
    refine ⟨0, ?_⟩
    simp only [perform, Op.enqueued, List.drop_zero, List.map_nil, List.append_nil]
    split
    · next q' hfail => rw [(fail_eq_ok.mp hfail).2]
    · rfl
  | drainAcked => exact ⟨0, by simp [perform, drainAcked, Op.enqueued]⟩
  | drainFailed => exact ⟨0, by simp [perform, drainFailed, Op.enqueued]⟩

theorem perform_ledger (accounted : q.Accounted) (fits : op.Fits q)
    (reads : ∀ s ∈ op.enqueued, q.codec.ReadsBack s.toData) :
    List.Perm ((q.perform op).ids ++ op.leaving q) (q.ids ++ op.entering q) := by
  cases op with
  | enqueue s =>
      have read := reads s (by simp [Op.enqueued])
      simp only [perform, Op.leaving, Op.entering, List.append_nil]
      split
      · next hid => simpa using perm_ids_enqueue_of_inFlight read hid
      · next hid =>
          exact (perm_ids_enqueue_of_not_inFlight read hid).trans
            (List.perm_append_singleton _ _).symm
  | dequeue => simpa [perform, Op.leaving, Op.entering] using perm_ids_dequeue accounted
  | ack s =>
      simp only [perform, Op.leaving, Op.entering, List.append_nil]
      split
      · next q' hack => exact perm_ids_of_ack hack
      · exact List.Perm.refl _
  | fail s reason =>
      simp only [perform, Op.leaving, Op.entering, List.append_nil]
      split
      · next q' hfail => exact perm_ids_of_fail hfail
      · exact List.Perm.refl _
  | drainAcked => simpa [perform, Op.entering, Op.leaving] using perm_ids_drainAcked
  | drainFailed => simpa [perform, Op.entering, Op.leaving] using perm_ids_drainFailed

theorem nodup_entering (accounted : q.Accounted) (fits : op.Fits q) : (q.ids ++ op.entering q).Nodup := by
  cases op with
  | enqueue s =>
      simp only [Op.entering]
      split
      · simpa using accounted.nodup
      · next hid =>
          have hfresh : s.task.id ∉ q.ids := fits.2.resolve_left hid
          exact (List.perm_append_singleton _ _).nodup_iff.mpr (List.nodup_cons.mpr ⟨hfresh, accounted.nodup⟩)
  | _ => simpa [Op.entering] using accounted.nodup

theorem perform_fifo (accounted : q.Accounted) (op : Op)
    (reads : ∀ s ∈ op.enqueued, q.codec.ReadsBack s.toData) :
    op.handedOut q ++ (q.perform op).readySnapshots = q.readySnapshots ++ op.enqueued := by
  cases op with
  | enqueue s =>
      simp [Op.handedOut, perform, Op.enqueued, readySnapshots_enqueue (reads s (by simp [Op.enqueued]))]
  | dequeue =>
      cases hr : q.ready with
      | nil => simp [Op.handedOut, perform, dequeue_of_empty hr, readySnapshots, hr, Op.enqueued]
      | cons bytes rest =>
          obtain ⟨s, carries⟩ := accounted.current bytes (by simp [hr])
          rw [readySnapshots_cons hr (readTask_of_carries carries)]
          simp [Op.handedOut, perform, dequeue_of_current hr carries, readySnapshots, Op.enqueued]
  | ack s =>
      simp only [Op.handedOut, perform, Op.enqueued, List.nil_append, List.append_nil]
      split
      · next q' hack => rw [(ack_eq_ok.mp hack).2]; rfl
      · rfl
  | fail s reason =>
      simp only [Op.handedOut, perform, Op.enqueued, List.nil_append, List.append_nil]
      split
      · next q' hfail => rw [(fail_eq_ok.mp hfail).2]; rfl
      · rfl
  | drainAcked => simp [Op.handedOut, perform, drainAcked, readySnapshots, Op.enqueued]
  | drainFailed => simp [Op.handedOut, perform, drainFailed, readySnapshots, Op.enqueued]

theorem Accounted.perform (accounted : q.Accounted) (fits : op.Fits q)
    (reads : ∀ s ∈ op.enqueued, q.codec.ReadsBack s.toData) : (q.perform op).Accounted := by
  refine ⟨?_, fun bytes member => ?_⟩
  · have hnodup := ((perform_ledger accounted fits reads).nodup_iff).mpr (nodup_entering accounted fits)
    exact hnodup.sublist (List.sublist_append_left _ _)
  · -- ready bytes were ready before, or are those of the snapshot enqueued
    obtain ⟨k, ready⟩ := ready_perform (q := q) op
    have codec := codec_perform (q := q) op
    rw [ready, List.mem_append] at member
    rcases member with old | new
    · obtain ⟨s, carries⟩ := accounted.current bytes (List.mem_of_mem_drop old)
      exact ⟨s, by rwa [Carries, codec]⟩
    · obtain ⟨s, enqueued, rfl⟩ := List.mem_map.mp new
      cases op with
      | enqueue t =>
          simp only [Op.enqueued, List.mem_singleton] at enqueued
          subst enqueued
          exact ⟨s, by rw [Carries, codec]; exact ⟨rfl, fits.1, reads s (by simp [Op.enqueued])⟩⟩
      | _ => simp [Op.enqueued] at enqueued

/-! ## A run of operations -/

/-- Over every sequence of operations made as callers promise, with a codec that reads back
the snapshots enqueued, the queue keeps each task in exactly one place: the tasks held at
the end, with those drained on the way, are the tasks held at the start with those enqueued
anew, none twice.  The snapshots handed out, then those still ready, are those ready at the
start, then those enqueued, in order; and no dequeue is refused. -/
theorem queue_keeps_every_task (q : Queue) (ops : List Op) (accounted : q.Accounted)
    (admits : q.Admits ops) (reads : ∀ s ∈ enqueuedIn ops, q.codec.ReadsBack s.toData) :
    (q.runOps ops).queue.Accounted ∧
      List.Perm ((q.runOps ops).queue.ids ++ (q.runOps ops).left)
        (q.ids ++ (q.runOps ops).entered) ∧
      (q.runOps ops).handedOut ++ (q.runOps ops).queue.readySnapshots =
        q.readySnapshots ++ enqueuedIn ops ∧
      ∀ e, (q.runOps ops).queue.dequeue.2 ≠ .error e := by
  induction ops generalizing q with
  | nil => exact ⟨accounted, by simp [runOps], by simp [runOps, enqueuedIn], accounted.dequeue_ne_error⟩
  | cons op ops ih =>
      obtain ⟨hop, hrest⟩ := admits
      have first : ∀ s ∈ op.enqueued, q.codec.ReadsBack s.toData := fun s member =>
        reads s (List.mem_append_left _ member)
      have later : ∀ s ∈ enqueuedIn ops, (q.perform op).codec.ReadsBack s.toData :=
        fun s member => codec_perform (q := q) op ▸ reads s (List.mem_append_right _ member)
      obtain ⟨hacc, hledger, hfifo, hdeq⟩ := ih (q.perform op) (accounted.perform hop first) hrest later
      refine ⟨hacc, ?_, ?_, hdeq⟩
      · -- the first operation's ledger, then that of the rest, counted id by id
        have hfirst := perform_ledger accounted hop first
        rw [List.perm_iff_count] at hledger hfirst ⊢
        intro a
        have hr := hledger a
        have h1 := hfirst a
        simp only [runOps, List.count_append] at hr h1 ⊢
        omega
      · have hfirst := perform_fifo accounted op first
        simp only [runOps, enqueuedIn, List.flatMap_cons, List.append_assoc] at hfifo ⊢
        rw [hfifo, ← List.append_assoc, hfirst, List.append_assoc]

def finishedSnapshot (n : UInt64) : Snapshot :=
  ⟨snapshotVersion, { (default : Task) with id := ⟨n⟩, state := .completed },
    fun _ member => absurd member List.not_mem_nil⟩

/-- A codec that writes the data of a snapshot as the low byte of its task id, and reads a
byte back as the data of the finished snapshot of that task. -/
def finishedCodec : Codec :=
  ⟨fun d => [d.id.value.toUInt8], fun bytes => .ok (finishedSnapshot (bytes.headD 0).toUInt64).toData,
    id, .ok⟩

/-- Three tasks enqueued; the first acknowledged, the second failed, both records drained;
the third acknowledged. -/
def drainingRun : List Op :=
  [.enqueue (finishedSnapshot 1), .enqueue (finishedSnapshot 2), .enqueue (finishedSnapshot 3),
    .dequeue, .ack (finishedSnapshot 1), .dequeue, .fail (finishedSnapshot 2) "broken",
    .drainAcked, .drainFailed, .dequeue, .ack (finishedSnapshot 3), .drainAcked]

theorem draining_run_keeps_every_task :
    (empty finishedCodec).Accounted ∧ (empty finishedCodec).Admits drainingRun ∧
      (∀ s ∈ enqueuedIn drainingRun, (empty finishedCodec).codec.ReadsBack s.toData) ∧
      (((empty finishedCodec).runOps drainingRun).queue.Accounted ∧
        List.Perm (((empty finishedCodec).runOps drainingRun).queue.ids ++
            ((empty finishedCodec).runOps drainingRun).left)
          ((empty finishedCodec).ids ++ ((empty finishedCodec).runOps drainingRun).entered) ∧
        ((empty finishedCodec).runOps drainingRun).handedOut ++
            ((empty finishedCodec).runOps drainingRun).queue.readySnapshots =
          (empty finishedCodec).readySnapshots ++ enqueuedIn drainingRun ∧
        ∀ e, ((empty finishedCodec).runOps drainingRun).queue.dequeue.2 ≠ .error e) :=
  have hempty : (empty finishedCodec).Accounted := ⟨List.nodup_nil, fun _ h => nomatch h⟩
  have hrun : (empty finishedCodec).Admits drainingRun := by decide
  have reads : ∀ s ∈ enqueuedIn drainingRun, (empty finishedCodec).codec.ReadsBack s.toData := by
    simp only [enqueuedIn, drainingRun, List.flatMap_cons, List.flatMap_nil, Op.enqueued,
      List.append_nil, List.nil_append, List.cons_append, List.mem_cons, List.not_mem_nil,
      or_false, forall_eq_or_imp, forall_eq]
    exact ⟨⟨rfl, rfl⟩, ⟨rfl, rfl⟩, ⟨rfl, rfl⟩⟩
  ⟨hempty, hrun, reads, queue_keeps_every_task (empty finishedCodec) drainingRun hempty hrun reads⟩

def staleSnapshot : Snapshot := ⟨2, default, by decide⟩

/-- A codec that reads back the data of `staleSnapshot`, as bincode does, and compresses
nothing. -/
def staleCodec : Codec := ⟨fun _ => [], fun _ => .ok staleSnapshot.toData, id, .ok⟩

/-- A snapshot of format version 2, enqueued on an empty queue, is refused when dequeued,
and the refusal leaves the queue empty: the task it held is gone. -/
theorem stale_snapshot_is_lost :
    staleCodec.ReadsBack staleSnapshot.toData ∧
      ((empty staleCodec).enqueue staleSnapshot).ids = [(default : Task).id] ∧
      ((empty staleCodec).enqueue staleSnapshot).dequeue =
        (empty staleCodec, .error (.codec (.snapshot (.versionMismatch 2)))) :=
  ⟨⟨rfl, rfl⟩, rfl, rfl⟩

end Queue

end TaskMachine
