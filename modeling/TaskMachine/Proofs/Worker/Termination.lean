import Mathlib
import TaskMachine.Proofs.Worker.Pool

/-! # A worker's loop ends

`runUntilIdle` turns until the queue is empty, a turn fails, or more turns in a row have
parked their task than snapshots are ready.  `Worker.Loops` is that loop as the worker runs
it, with no fuel: the number of calls of `processNext` it makes and what it answers.

What each turn does to the ready line is all the argument needs (`processNext_eq_ok`): the
turn takes the first snapshot off, and puts back the same snapshot if it parked the task,
nothing if it ended or failed the task, and otherwise a snapshot of a task that ran at least
one instruction of its quantum and so spent a token (`Processor.runFor_spends`).  With a
codec that reads back what it writes, and `Queue.work` the ready snapshots' tokens plus one
each, a turn that does not park lowers the work, and one that parks keeps both the work and
the length of the line (`processNext_work`).  The measure `(work + 1) * (pending + 1)` less
the parked turns in a row then drops at every turn that does not stop the loop
(`processNext_measure`), so the loop ends (`exists_loops`), and the fuel that `runUntilIdle`
gives it is never less than the measure (`run_until_idle_terminates`). -/

set_option autoImplicit false

namespace TaskMachine

theorem Task.tokens_resume (t : Task) (m : Value) : (t.resume m).1.tokens = t.tokens := by
  unfold Task.resume
  split
  · rfl
  · next moved movedOk =>
    obtain ⟨-, rfl⟩ := Task.moveTo_eq_ok.mp movedOk
    dsimp only
    split <;> simp

def Outcome.parks : Outcome → Bool
  | .parked _ => true
  | _ => false

/-- What a turn with outcome `o` leaves in the queue `q` of a ready line that held `s` and
then `rest`, written with the codec `c`: `s` back at the end when it parked its task,
nothing more when it ended or failed it, and otherwise a snapshot of the task with fewer
tokens. -/
def Outcome.Leaves (o : Outcome) (c : Codec) (s : Snapshot) (rest : List (List UInt8))
    (q : Queue) : Prop :=
  q.codec = c ∧
    ((o.parks = true ∧ q.ready = rest ++ [encodeTask c s]) ∨
      (o.parks = false ∧ (q.ready = rest ∨
        ∃ s' : Snapshot, s'.task.tokens < s.task.tokens ∧ q.ready = rest ++ [encodeTask c s'])))

namespace Queue

/-- The turns that the ready snapshots can still take that spend a token or end a task: one
for each token left, and one more each. -/
def work (q : Queue) : Nat := (q.readySnapshots.map fun s => s.task.tokens + 1).sum

theorem sum_tokens_add_two (q : Queue) :
    (q.readySnapshots.map fun s => s.task.tokens + 2).sum = q.work + q.readySnapshots.length := by
  unfold work
  induction q.readySnapshots with
  | nil => rfl
  | cons s rest ih =>
    simp only [List.map_cons, List.sum_cons, List.length_cons, ih]
    omega

variable {q q' : Queue} {s : Snapshot}

theorem ready_of_dequeue (dequeued : q.dequeue = (q', .ok (some s))) :
    q'.codec = q.codec ∧ ∃ bytes, q.ready = bytes :: q'.ready ∧ readTask q.codec bytes = .ok s := by
  cases lined : q.ready with
  | nil => rw [dequeue_of_empty lined] at dequeued; cases dequeued
  | cons bytes rest =>
    cases decoded : decodeTask q.codec bytes with
    | error e => simp [dequeue, lined, decoded] at dequeued
    | ok s' =>
      simp only [dequeue, lined, decoded, Prod.mk.injEq, Except.ok.injEq, Option.some.injEq] at dequeued
      obtain ⟨rfl, rfl⟩ := dequeued
      exact ⟨rfl, bytes, rfl, readTask_of_decodeTask decoded⟩

end Queue

namespace Processor

theorem resume_eq_ok_true {p p' : Processor} {t : Task} (current : p.task = some t)
    (waiting : t.state = .waiting) (resumed : p.resume = (p', .ok true)) :
    ∃ t', p'.task = some t' ∧ t'.state = .active ∧ t'.tokens = t.tokens ∧
      p'.fault = p.fault ∧ p'.config = p.config := by
  rcases resume_cases current waiting with
    ⟨-, -, stays⟩ | ⟨t₀, bag, m, r, current₀, -, -, -, resumedAs, -⟩
  · rw [resumed] at stays
    cases stays
  · rw [current, Option.some.injEq] at current₀
    subst current₀
    rw [resumed] at resumedAs
    subst resumedAs
    exact ⟨_, rfl, Task.state_resume waiting m, Task.tokens_resume t m, rfl, rfl⟩

variable {p p' : Processor} {t t' : Task}

theorem runFor_config (p : Processor) (n : Nat) : (p.runFor n).1.config = p.config := by
  induction n generalizing p with
  | zero => rfl
  | succ n ih =>
    unfold runFor
    rcases stepped : p.stepClock with ⟨p₁, e | _ | _⟩
    · simpa [stepped] using stepClock_config p
    · simpa [stepped] using stepClock_config p
    · simp only
      rw [ih p₁]
      simpa [stepped] using stepClock_config p

theorem runFor_tokens_le (p : Processor) (n : Nat) (current : p.task = some t) :
    ∃ t', (p.runFor n).1.task = some t' ∧ t'.tokens ≤ t.tokens := by
  induction n generalizing p t with
  | zero => exact ⟨t, current, le_rfl⟩
  | succ n ih =>
    obtain ⟨t₁, first, -, -, charged⟩ := stepClock_meter p current
    unfold runFor
    rcases stepped : p.stepClock with ⟨p₁, e | _ | _⟩
    all_goals rw [stepped] at first
    · exact ⟨t₁, first, by omega⟩
    · exact ⟨t₁, first, by omega⟩
    · obtain ⟨t₂, rest, kept⟩ := ih p₁ first
      exact ⟨t₂, rest, by omega⟩

theorem stepClock_spends (noFault : p.fault = none) (current : p.task = some t)
    (notWaiting : t.state ≠ .waiting) {b : Bool} (stepped : p.stepClock.2 = .ok b)
    (currentAfter : p.stepClock.1.task = some t')
    (unfinished : t'.state = .active ∨ t'.state = .waiting) : t'.tokens < t.tokens := by
  by_cases active : t.state = .active
  · by_cases spent : t.tokens = 0
    · -- with no token left the step abandons the task
      have exhausts : p.stepClock = ({ p with task := some t.exhaust }, .ok false) := by
        simp [stepClock, noFault, current, active, spent]
      rw [exhausts, Option.some.injEq] at currentAfter
      subst currentAfter
      simp [Task.exhaust, active, TaskState.isTerminal, Task.finish] at unfinished
    · rcases cycled : cycle p.config ⟨t, p.repository⟩ with ⟨s, _ | e⟩
      · have executing : p.executes = true :=
          executes_eq_true.mpr ⟨noFault, t, current, active, spent, by rw [cycled]⟩
        obtain ⟨t₁, stepped₁, -, -, charged⟩ := stepClock_meter p current
        rw [currentAfter, Option.some.injEq] at stepped₁
        subst stepped₁
        simp only [executing, if_true] at charged
        omega
      · -- the instruction faulted, and the step answers the fault
        have faulted : p.stepClock.2 = .error e := by
          simp [stepClock, noFault, current, active, spent, cycled]
        rw [faulted] at stepped
        cases stepped
  · -- a task that neither runs nor waits has ended, and the step leaves it so
    have stays : p.stepClock = (p, .ok false) := by simp [stepClock, noFault, current, active]
    rw [stays, current, Option.some.injEq] at currentAfter
    subst currentAfter
    exact absurd unfinished (by simp [active, notWaiting])

theorem runFor_spends (noFault : p.fault = none) (current : p.task = some t)
    (notWaiting : t.state ≠ .waiting) {n : Nat} {st : TaskState}
    (ran : p.runFor (n + 1) = (p', .ok st)) (currentAfter : p'.task = some t')
    (unfinished : t'.state = .active ∨ t'.state = .waiting) : t'.tokens < t.tokens := by
  unfold runFor at ran
  rcases stepped : p.stepClock with ⟨p₁, e | _ | _⟩
  all_goals rw [stepped] at ran
  all_goals simp only at ran
  · cases ran
  · simp only [Prod.mk.injEq] at ran
    obtain ⟨rfl, -⟩ := ran
    exact stepClock_spends noFault current notWaiting (by rw [stepped])
      (by rw [stepped]; exact currentAfter) unfinished
  · have continues : p.stepClock.2 = .ok true := by rw [stepped]
    obtain ⟨-, t₁, first, active, -⟩ := stepClock_ok_true continues
    have spent := stepClock_spends noFault current notWaiting continues first (.inl active)
    rw [stepped] at first
    obtain ⟨t₂, rest, kept⟩ := runFor_tokens_le p₁ n first
    rw [ran, currentAfter, Option.some.injEq] at rest
    subst rest
    omega

end Processor

namespace Worker

variable {w w' : Worker} {o : Outcome}

theorem failWith_eq_ok {s : Snapshot} {reason : String} (failed : w.failWith s reason = (w', .ok o)) :
    o.parks = false ∧ w'.queue.ready = w.queue.ready ∧ w'.queue.codec = w.queue.codec ∧
      w'.processor.config = w.processor.config := by
  unfold failWith at failed
  split at failed
  · next q landed =>
    simp only [Prod.mk.injEq, Except.ok.injEq] at failed
    obtain ⟨rfl, rfl⟩ := failed
    obtain ⟨-, rfl⟩ := Queue.fail_eq_ok.mp landed
    exact ⟨rfl, rfl, rfl, rfl⟩
  · simp at failed

theorem finish_eq_ok {t : Task} (finished : w.finish t = (w', .ok o)) :
    o.parks = false ∧ w'.queue.ready = w.queue.ready ∧ w'.queue.codec = w.queue.codec ∧
      w'.processor.config = w.processor.config := by
  unfold finish at finished
  rcases acked : w.queue.ack t.freeze with e | q <;> simp only [acked] at finished
  · simp at finished
  · simp only [Prod.mk.injEq, Except.ok.injEq] at finished
    obtain ⟨rfl, rfl⟩ := finished
    obtain ⟨-, rfl⟩ := Queue.ack_eq_ok.mp acked
    refine ⟨?_, rfl, rfl, rfl⟩
    split <;> rfl

theorem settle_eq_ok {s : Snapshot} (settled : w.settle s = (w', .ok o)) :
    o.parks = false ∧ w'.processor.config = w.processor.config ∧ w'.queue.codec = w.queue.codec ∧
      (w'.queue.ready = w.queue.ready ∨
        ∃ t, w.processor.task = some t ∧ (t.state = .active ∨ t.state = .waiting) ∧
          w'.queue.ready = w.queue.ready ++ [encodeTask w.queue.codec t.freeze]) := by
  unfold settle at settled
  rcases current : w.processor.task with _ | t
  · simp only [Processor.takeTask, current] at settled
    obtain ⟨parks, ready, codec, config⟩ := failWith_eq_ok settled
    exact ⟨parks, config, codec, .inl ready⟩
  · simp only [Processor.takeTask, current] at settled
    cases state : t.state <;> simp only [state] at settled
    · simp only [Prod.mk.injEq, Except.ok.injEq] at settled
      obtain ⟨rfl, rfl⟩ := settled
      exact ⟨rfl, rfl, rfl, .inr ⟨t, rfl, .inl state, rfl⟩⟩
    · simp only [Prod.mk.injEq, Except.ok.injEq] at settled
      obtain ⟨rfl, rfl⟩ := settled
      exact ⟨rfl, rfl, rfl, .inr ⟨t, rfl, .inr state, rfl⟩⟩
    · obtain ⟨parks, ready, codec, config⟩ := finish_eq_ok settled
      exact ⟨parks, config, codec, .inl ready⟩
    · obtain ⟨parks, ready, codec, config⟩ := finish_eq_ok settled
      exact ⟨parks, config, codec, .inl ready⟩

theorem runQuantum_eq_ok {s : Snapshot} {t : Task} (positive : 0 < w.processor.config.quantum)
    (noFault : w.processor.fault = none) (current : w.processor.task = some t)
    (notWaiting : t.state ≠ .waiting) (runs : w.runQuantum s = (w', .ok o)) :
    o.parks = false ∧ w'.processor.config = w.processor.config ∧ w'.queue.codec = w.queue.codec ∧
      (w'.queue.ready = w.queue.ready ∨
        ∃ t' : Task, t'.tokens < t.tokens ∧
          w'.queue.ready = w.queue.ready ++ [encodeTask w.queue.codec t'.freeze]) := by
  have sameConfig := Processor.runFor_config w.processor w.processor.config.quantum
  unfold runQuantum at runs
  rcases quantumRan : w.processor.runFor w.processor.config.quantum with ⟨p, e | st⟩
  all_goals rw [quantumRan] at runs sameConfig
  all_goals simp only at runs sameConfig
  · obtain ⟨parks, ready, codec, config⟩ := failWith_eq_ok runs
    exact ⟨parks, config.trans sameConfig, codec, .inl ready⟩
  · obtain ⟨parks, config, codec, ready | ⟨t', currentAfter, unfinished, ready⟩⟩ := settle_eq_ok runs
    · exact ⟨parks, config.trans sameConfig, codec, .inl ready⟩
    · -- a task put back after its quantum ran at least one instruction of it
      obtain ⟨n, someSteps⟩ : ∃ n, w.processor.config.quantum = n + 1 :=
        ⟨_, (Nat.succ_pred_eq_of_pos positive).symm⟩
      rw [someSteps] at quantumRan
      exact ⟨parks, config.trans sameConfig, codec,
        .inr ⟨t', Processor.runFor_spends noFault current notWaiting quantumRan currentAfter unfinished, ready⟩⟩

theorem runQuantum_leaves {q : Queue} {p : Processor} {t : Task} {s' : Snapshot} (s : Snapshot)
    (ran : ({ w with queue := q, processor := p } : Worker).runQuantum s' = (w', .ok o))
    (positive : 0 < p.config.quantum) (noFault : p.fault = none) (current : p.task = some t)
    (notWaiting : t.state ≠ .waiting) (sameTokens : t.tokens = s.task.tokens) :
    w'.processor.config = p.config ∧ o.Leaves q.codec s q.ready w'.queue := by
  obtain ⟨parks, config, codec, ready | ⟨t', fewer, ready⟩⟩ := runQuantum_eq_ok positive noFault current notWaiting ran
  · exact ⟨config, codec, .inr ⟨parks, .inl ready⟩⟩
  · refine ⟨config, codec, .inr ⟨parks, .inr ⟨t'.freeze, ?_, ready⟩⟩⟩
    rw [← sameTokens, Task.freeze_task, Task.narrow_tokens]
    exact fewer

theorem processNext_eq_ok (positive : 0 < w.processor.config.quantum)
    (turned : w.processNext = (w', .ok o)) (notIdle : o ≠ .idle) :
    w'.processor.config = w.processor.config ∧
      ∃ bytes s rest, w.queue.ready = bytes :: rest ∧ readTask w.queue.codec bytes = .ok s ∧
        o.Leaves w.queue.codec s rest w'.queue := by
  unfold processNext at turned
  rcases dequeued : w.queue.dequeue with ⟨q, e | _ | s⟩
  all_goals rw [dequeued] at turned
  all_goals simp only at turned
  · cases turned
  · simp only [Prod.mk.injEq, Except.ok.injEq] at turned
    exact absurd turned.2.symm notIdle
  obtain ⟨codec, bytes, lined, read⟩ := Queue.ready_of_dequeue dequeued
  rcases loaded : w.processor.loadTask s with e | p
  all_goals rw [loaded] at turned
  all_goals simp only at turned
  · obtain ⟨parks, ready, codec', config⟩ := failWith_eq_ok turned
    exact ⟨config, bytes, s, q.ready, lined, read, codec'.trans codec, .inr ⟨parks, .inl ready⟩⟩
  obtain ⟨t₀, -, rfl, rfl⟩ := Processor.loadTask_eq_ok loaded
  by_cases waiting : t₀.state = .waiting
  · simp only [Option.map_some, waiting, if_true] at turned
    have sameConfig := Processor.resume_config { w.processor with task := some t₀, fault := none }
    rcases resumed : ({ w.processor with task := some t₀, fault := none } : Processor).resume with
      ⟨p', e | _ | _⟩
    all_goals rw [resumed] at turned sameConfig
    all_goals simp only at turned sameConfig
    · obtain ⟨parks, ready, codec', config⟩ := failWith_eq_ok turned
      exact ⟨config.trans sameConfig, bytes, _, q.ready, lined, read, codec'.trans codec,
        .inr ⟨parks, .inl ready⟩⟩
    · simp only [Prod.mk.injEq, Except.ok.injEq] at turned
      obtain ⟨rfl, rfl⟩ := turned
      exact ⟨sameConfig, bytes, _, q.ready, lined, read, codec, .inl ⟨rfl, by rw [← codec]; rfl⟩⟩
    · obtain ⟨t₁, current₁, active, sameTokens, noFault, -⟩ := Processor.resume_eq_ok_true rfl waiting resumed
      obtain ⟨config, leaves⟩ :=
        runQuantum_leaves t₀.freeze turned (by rwa [sameConfig]) noFault current₁ (by simp [active])
          (by rw [sameTokens]; rfl)
      rw [codec] at leaves
      exact ⟨config.trans sameConfig, bytes, _, q.ready, lined, read, leaves⟩
  · simp only [Option.map_some, Option.some.injEq, waiting, if_false] at turned
    obtain ⟨config, leaves⟩ := runQuantum_leaves t₀.freeze turned positive rfl rfl waiting rfl
    rw [codec] at leaves
    exact ⟨config, bytes, _, q.ready, lined, read, leaves⟩

theorem processNext_work (positive : 0 < w.processor.config.quantum) (lossless : w.queue.codec.Lossless)
    (turned : w.processNext = (w', .ok o)) (notIdle : o ≠ .idle) :
    w'.processor.config = w.processor.config ∧ w'.queue.codec = w.queue.codec ∧
      (o.parks = true → w'.queue.work = w.queue.work ∧ w'.queue.pending = w.queue.pending) ∧
      (o.parks = false →
        w'.queue.work < w.queue.work ∧ w'.queue.pending ≤ w.queue.pending) := by
  obtain ⟨config, bytes, s, rest, ready, read, codec, leaves⟩ := processNext_eq_ok positive turned notIdle
  have before : w.queue.work = s.task.tokens + 1 + Queue.work { w.queue with ready := rest } := by
    simp only [Queue.work, Queue.readySnapshots, ready, List.filterMap_cons, read,
      Except.toOption, List.map_cons, List.sum_cons]
  have back (s' : Snapshot) (after : w'.queue.ready = rest ++ [encodeTask w.queue.codec s']) :
      w'.queue.work = Queue.work { w.queue with ready := rest } + (s'.task.tokens + 1) := by
    simp only [Queue.work, Queue.readySnapshots, after, codec, List.filterMap_append,
      List.filterMap_cons, List.filterMap_nil, readTask_encodeTask _ _ (lossless _),
      Except.toOption, List.map_append, List.sum_append, List.map_cons, List.map_nil,
      List.sum_cons, List.sum_nil, Nat.add_zero]
  obtain ⟨parks, after⟩ | ⟨parks, after | ⟨s', fewer, after⟩⟩ := leaves
  · refine ⟨config, codec, fun _ => ⟨by rw [back s after, before]; omega, ?_⟩,
      fun h' => absurd parks (by simp [h'])⟩
    simp [Queue.pending, ready, after]
  · refine ⟨config, codec, fun h' => absurd parks (by simp [h']), fun _ => ⟨?_, ?_⟩⟩
    · have rest_work : w'.queue.work = Queue.work { w.queue with ready := rest } := by
        simp only [Queue.work, Queue.readySnapshots, after, codec]
      omega
    · simp [Queue.pending, ready, after]
  · refine ⟨config, codec, fun h' => absurd parks (by simp [h']), fun _ => ⟨?_, ?_⟩⟩
    · rw [back s' after, before]
      omega
    · simp [Queue.pending, ready, after]

def parkedAfter (parked : Nat) (o : Outcome) : Nat :=
  if o.parks then parked + 1 else 0

/-- The loop of `runUntilIdle` as the worker runs it, with no fuel: from `w`, after `parked`
parked turns in a row and the outcomes `earlier` (the latest first), the loop calls
`processNext` `n` times and answers `r`.  It stops at a turn that fails, at an idle turn, and
after a turn that leaves more parked turns in a row than snapshots ready. -/
inductive Loops : Worker → Nat → List Outcome → Nat →
    Worker × Except WorkerError (List Outcome) → Prop
  | failed {w w' : Worker} {parked : Nat} {earlier : List Outcome} {e : WorkerError} :
      w.processNext = (w', .error e) → Loops w parked earlier 1 (w', .error e)
  | idle {w w' : Worker} {parked : Nat} {earlier : List Outcome} :
      w.processNext = (w', .ok .idle) → Loops w parked earlier 1 (w', .ok earlier.reverse)
  | onlyParked {w w' : Worker} {parked : Nat} {earlier : List Outcome} {o : Outcome} :
      w.processNext = (w', .ok o) → o ≠ .idle → w'.queue.pending < parkedAfter parked o →
      Loops w parked earlier 1 (w', .ok (o :: earlier).reverse)
  | next {w w' : Worker} {parked : Nat} {earlier : List Outcome} {o : Outcome} {n : Nat}
      {r : Worker × Except WorkerError (List Outcome)} :
      w.processNext = (w', .ok o) → o ≠ .idle → parkedAfter parked o ≤ w'.queue.pending →
      Loops w' (parkedAfter parked o) (o :: earlier) n r → Loops w parked earlier (n + 1) r

theorem turnsFor_of_ok {parked : Nat} {earlier : List Outcome} {fuel : Nat}
    (turned : w.processNext = (w', .ok o)) (notIdle : o ≠ .idle) :
    w.turnsFor parked earlier (fuel + 1) =
      if w'.queue.pending < parkedAfter parked o then (w', .ok (o :: earlier).reverse)
      else w'.turnsFor (parkedAfter parked o) (o :: earlier) fuel := by
  cases o with
  | idle => exact absurd rfl notIdle
  | parked id => simp [turnsFor, turned, parkedAfter, Outcome.parks]
  | _ => simp [turnsFor, turned, parkedAfter, Outcome.parks]

theorem Loops.turnsFor {parked : Nat} {earlier : List Outcome} {n : Nat}
    {r : Worker × Except WorkerError (List Outcome)} (loops : w.Loops parked earlier n r) :
    ∀ fuel, n ≤ fuel → w.turnsFor parked earlier fuel = r := by
  induction loops with
  | failed turned =>
    rintro (_ | fuel) enough
    · omega
    · simp [Worker.turnsFor, turned]
  | idle turned =>
    rintro (_ | fuel) enough
    · omega
    · simp [Worker.turnsFor, turned]
  | onlyParked turned notIdle stops =>
    rintro (_ | fuel) enough
    · omega
    · rw [turnsFor_of_ok turned notIdle, if_pos stops]
  | next turned notIdle goesOn _ ih =>
    rintro (_ | fuel) enough
    · omega
    · rw [turnsFor_of_ok turned notIdle, if_neg (by omega), ih fuel (by omega)]

theorem processNext_measure {parked : Nat} (positive : 0 < w.processor.config.quantum)
    (lossless : w.queue.codec.Lossless) (turned : w.processNext = (w', .ok o)) (notIdle : o ≠ .idle)
    (fewParked : parked ≤ w.queue.pending) (goesOn : parkedAfter parked o ≤ w'.queue.pending) :
    w'.processor.config = w.processor.config ∧ w'.queue.codec = w.queue.codec ∧
      (w'.queue.work + 1) * (w'.queue.pending + 1) - parkedAfter parked o <
        (w.queue.work + 1) * (w.queue.pending + 1) - parked := by
  obtain ⟨sameConfig, sameCodec, parking, spending⟩ := processNext_work positive lossless turned notIdle
  refine ⟨sameConfig, sameCodec, ?_⟩
  have expand : (w.queue.work + 1) * (w.queue.pending + 1) =
      w.queue.work * (w.queue.pending + 1) + (w.queue.pending + 1) := by ring
  cases parks : o.parks
  · obtain ⟨lessWork, noLonger⟩ := spending parks
    have bounded : (w'.queue.work + 1) * (w'.queue.pending + 1) ≤
        w.queue.work * (w.queue.pending + 1) := Nat.mul_le_mul (by omega) (by omega)
    simp only [parkedAfter, parks]
    omega
  · obtain ⟨sameWork, samePending⟩ := parking parks
    simp only [parkedAfter, parks, if_true] at goesOn ⊢
    rw [samePending] at goesOn
    rw [sameWork, samePending]
    omega

theorem exists_loops (m : Nat) : ∀ (w : Worker) (parked : Nat) (earlier : List Outcome),
    (w.queue.work + 1) * (w.queue.pending + 1) - parked = m →
    0 < w.processor.config.quantum → w.queue.codec.Lossless → parked ≤ w.queue.pending →
    ∃ n r, n ≤ m ∧ w.Loops parked earlier n r := by
  induction m using Nat.strong_induction_on with
  | _ m ih =>
  intro w parked earlier measured positive lossless fewParked
  have atLeastOne : 1 ≤ m := by
    have : w.queue.pending + 1 ≤ (w.queue.work + 1) * (w.queue.pending + 1) :=
      Nat.le_mul_of_pos_left _ (by omega)
    omega
  rcases turned : w.processNext with ⟨w', e | o⟩
  · exact ⟨1, _, atLeastOne, .failed turned⟩
  by_cases isIdle : o = .idle
  · subst isIdle
    exact ⟨1, _, atLeastOne, .idle turned⟩
  by_cases stops : w'.queue.pending < parkedAfter parked o
  · exact ⟨1, _, atLeastOne, .onlyParked turned isIdle stops⟩
  obtain ⟨sameConfig, sameCodec, drops⟩ :=
    processNext_measure positive lossless turned isIdle fewParked (by omega)
  obtain ⟨n, r, within, loops⟩ := ih _ (measured ▸ drops) w' (parkedAfter parked o)
    (o :: earlier) rfl (by rwa [sameConfig]) (by rwa [sameCodec]) (by omega)
  exact ⟨n + 1, r, by omega, .next turned isIdle (by omega) loops⟩

/-- `runUntilIdle` stops by itself.  A worker whose configuration is valid, started on any
queue, calls `processNext` at most `(W + 1) * (n + 1)` times before the loop ends, where `n`
is the number of snapshots ready and `W` their tokens plus one each: a turn that requeues or
leaves its task waiting spent a token of it, one that completes, abandons or fails its task
takes it off the queue, and a streak of parked turns stops the loop once it is longer than
the line.  The fuel of `runUntilIdle` is never what stops it: it answers what the loop
answers.  The queue's codec reads back what it writes, as the wire format does: a codec
that does not could hand a requeued task back with its tokens restored. -/
theorem run_until_idle_terminates (w : Worker) (validated : w.processor.config.validate = .ok ())
    (lossless : w.queue.codec.Lossless) :
    ∃ n r, n ≤ (w.queue.work + 1) * (w.queue.pending + 1) ∧ w.Loops 0 [] n r ∧
      w.runUntilIdle = r := by
  obtain ⟨n, r, within, loops⟩ := exists_loops _ w 0 [] rfl
    (Config.quantum_pos_of_validate validated) lossless (Nat.zero_le _)
  refine ⟨n, r, by omega, loops, loops.turnsFor _ ?_⟩
  -- the fuel counts two per snapshot and token, and one more per snapshot
  have enoughFuel : (w.queue.work + 1) * (w.queue.pending + 1) ≤ turnBound w.queue := by
    rw [turnBound, ← List.sum_eq_foldr, Queue.sum_tokens_add_two]
    nlinarith
  omega

end Worker

/-- A worker over an empty repository with `pushingTask` alone on its queue, under a
configuration that validates. -/
theorem pushing_worker_stops :
    pushingWorker.processor.config.validate = .ok () ∧ pushingWorker.queue.codec.Lossless ∧
      ∃ n r, n ≤ (pushingWorker.queue.work + 1) * (pushingWorker.queue.pending + 1) ∧
        pushingWorker.Loops 0 [] n r ∧ pushingWorker.runUntilIdle = r :=
  ⟨rfl, Codec.tally_lossless, Worker.run_until_idle_terminates pushingWorker rfl Codec.tally_lossless⟩

end TaskMachine
