import Mathlib
import TaskMachine.Proofs.Machine.Resumption
import TaskMachine.Proofs.Machine.Send
import TaskMachine.Proofs.Task.Persistence
import TaskMachine.Worker

/-! # A run cut into quanta

A worker gives a task one quantum of clock steps at a time: it thaws the task's snapshot,
runs it with `runFor`, and freezes it back onto the queue, through the queue's codec, until
the task ends.  The cut changes nothing (`quanta_replay_uninterrupted_run`): over a
repository whose compiled code decodes and a codec that reads back what it writes, a task
that an uninterrupted `run` ends without a fault, and whose addresses and frame bases stay
within the 32 bits of a snapshot, is requeued once per full quantum and then finished
exactly as the run finishes it.

The two sides meet at `Processor.Boundary`, a processor between two quanta: loading the
frozen task gives it back, and the invariants of `Processor.Reachable` and
`Processor.Resumable` hold.  A quantum that does not end the run makes the same steps as the
run (`runFor_of_ok_true`) and stops at a boundary again (`Boundary.steps`): the run executes
an instruction from there, so the task stands at one and thaws as itself.  Induction on the
steps left then gives the turns of the worker (`Worker.turnsFor_lone`).  How many quanta a
run takes is counted by the instructions it executes (`EndsAfter.quanta`): all of its steps
execute one, except a single step that finds the task ended or out of tokens. -/

set_option autoImplicit false

namespace TaskMachine

theorem Config.quantum_pos_of_validate {c : Config} (validated : c.validate = .ok ()) :
    0 < c.quantum := by
  unfold Config.validate at validated
  split at validated
  · cases validated
  · omega

theorem Exec.run_frame_none {x : MachineState} (noFrame : x.task.frame? = none) :
    Exec.frame.run x = .error (.fault .emptyCallStack) x := by
  simp only [Exec.frame, Exec.run_bind, Exec.run_task, noFrame]
  rfl

theorem fetched_of_cycle {c : Config} {x : MachineState} (noFault : (cycle c x).2 = none) :
    ∃ f w, x.task.frame? = some f ∧ f.peek? = some w := by
  have faults : ∀ e, (Exec.fetchAndExecute c).run x = .error (.fault e) x → False :=
    fun e he => by simp [cycle, he] at noFault
  cases hf : x.task.frame? with
  | none =>
      exact (faults .emptyCallStack
        (by simp only [Exec.fetchAndExecute, Exec.run_bind, Exec.run_frame_none hf])).elim
  | some f =>
      cases hw : f.peek? with
      | none =>
          refine (faults (.ranOffBytecode f.address f.bytecode.length) ?_).elim
          simp only [Exec.fetchAndExecute, Exec.run_bind, Exec.run_frame hf, hw]
          rfl
      | some w => exact ⟨f, w, rfl, hw⟩

namespace Processor

variable {p : Processor}

theorem steps_add (p : Processor) (m n : Nat) : p.steps (m + n) = (p.steps m).steps n := by
  induction m generalizing p with
  | zero => simp [steps]
  | succ m ih => rw [Nat.succ_add]; exact ih p.stepClock.1

theorem steps_config (p : Processor) (n : Nat) : (p.steps n).config = p.config := by
  induction n generalizing p with
  | zero => rfl
  | succ n ih => exact (ih p.stepClock.1).trans (stepClock_config p)

theorem Reachable.steps (reachable : p.Reachable) (n : Nat) : (p.steps n).Reachable := by
  induction n generalizing p with
  | zero => exact reachable
  | succ n ih => exact ih (reachable.move (.step p))

theorem fault_of_stepClock_ok {b : Bool} (ticked : p.stepClock.2 = .ok b) :
    p.stepClock.1.fault = none := by
  rcases p with ⟨c, r, _ | t, _ | e⟩
  · cases ticked
  · cases ticked
  · -- only a faulting instruction sets the fault, and then the step answers it
    simp only [stepClock] at ticked ⊢
    split
    · rfl
    · split
      · rfl
      · split
        · rfl
        · simp_all
  · cases ticked

theorem executes_of_stepClock_ok {t : Task} {b : Bool} (noFault : p.fault = none)
    (current : p.task = some t) (active : t.state = .active) (hasTokens : t.tokens ≠ 0)
    (ticked : p.stepClock.2 = .ok b) : p.executes = true := by
  refine executes_eq_true.mpr ⟨noFault, t, current, active, hasTokens, ?_⟩
  unfold stepClock at ticked
  rw [noFault, current] at ticked
  simp only [active, ne_eq, not_true_eq_false, if_false, hasTokens] at ticked
  rcases hc : cycle p.config ⟨t, p.repository⟩ with ⟨s, _ | e⟩
  · rfl
  · rw [hc] at ticked
    cases ticked

theorem runFor_of_ok_true {n : Nat} (allContinue : ∀ i < n, (p.steps i).stepClock.2 = .ok true) :
    p.runFor n = (p.steps n, (p.steps n).state) := by
  induction n generalizing p with
  | zero => rfl
  | succ n ih =>
      have hfirst : p.stepClock.2 = .ok true := allContinue 0 (Nat.zero_lt_succ n)
      unfold runFor
      rcases hstep : p.stepClock with ⟨q, r⟩
      rw [hstep] at hfirst
      simp only at hfirst
      subst hfirst
      have hq : q = p.stepClock.1 := by rw [hstep]
      subst hq
      exact ih fun i hi => allContinue (i + 1) (by omega)

/-- The clock steps stop after `k` steps, the last one without a fault, leaving the task in
`st`. -/
def EndsAfter (p : Processor) (k : Nat) (st : TaskState) : Prop :=
  p.StopsAfter k ∧ (p.steps (k - 1)).stepClock.2 = .ok false ∧ (p.steps k).state = .ok st

variable {k : Nat} {st : TaskState}

theorem endsAfter_of_run {t : Task} {q : Processor} (current : p.task = some t)
    (ran : p.run = (q, .ok st)) :
    ∃ k, k ≤ max t.tokens 1 ∧ p.EndsAfter k st ∧ q = p.steps k := by
  obtain ⟨k, hk, hstop, hrun'⟩ := run_stopsAfter p current
  rw [ran, Prod.mk.injEq] at hrun'
  obtain ⟨rfl, hend⟩ := hrun'
  obtain ⟨b, hlast⟩ : ∃ b, (p.steps (k - 1)).stepClock.2 = .ok b := by
    rcases hstep : (p.steps (k - 1)).stepClock.2 with e | b
    · rw [hstep] at hend
      cases hend
    · exact ⟨b, rfl⟩
  have hfalse : b = false := by
    cases b
    · rfl
    · exact absurd hlast hstop.2.2
  subst hfalse
  rw [hlast] at hend
  exact ⟨k, hk, ⟨hstop, hlast, hend.symm⟩, rfl⟩

theorem EndsAfter.drop {n : Nat} (ends : p.EndsAfter k st) (before : n < k) :
    (p.steps n).EndsAfter (k - n) st := by
  obtain ⟨⟨-, hbefore, hlast⟩, hok, hstate⟩ := ends
  have hrest : ∀ i, (p.steps n).steps i = p.steps (n + i) := fun i => (steps_add p n i).symm
  refine ⟨⟨by omega, fun i hi => ?_, ?_⟩, ?_, ?_⟩
  · rw [hrest]
    exact hbefore (n + i) (by omega)
  · rw [hrest, show n + (k - n - 1) = k - 1 by omega]
    exact hlast
  · rw [hrest, show n + (k - n - 1) = k - 1 by omega]
    exact hok
  · rw [hrest, show n + (k - n) = k by omega]
    exact hstate

theorem EndsAfter.executes {i : Nat} (ends : p.EndsAfter k st) (atLeastTwo : 2 ≤ k) (before : i < k) :
    (p.steps i).executes = true := by
  obtain ⟨⟨-, hbefore, -⟩, hok, -⟩ := ends
  by_cases hlast : i + 1 < k
  · exact (stepClock_ok_true (hbefore i hlast)).1
  · obtain ⟨j, rfl⟩ : ∃ j, i = j + 1 := ⟨i - 1, by omega⟩
    have hprev := hbefore j (by omega)
    obtain ⟨-, t, ht, hactive, htokens⟩ := stepClock_ok_true hprev
    rw [← steps_succ'] at ht
    have hfault := fault_of_stepClock_ok hprev
    rw [← steps_succ'] at hfault
    rw [show k - 1 = j + 1 by omega] at hok
    exact executes_of_stepClock_ok hfault ht hactive htokens hok

theorem executedIn_of_executes {n : Nat} (allExecute : ∀ i < n, (p.steps i).executes = true) :
    p.executedIn n = n := by
  induction n generalizing p with
  | zero => rfl
  | succ n ih =>
      have hfirst : p.executes = true := allExecute 0 (Nat.zero_lt_succ n)
      simp only [executedIn, hfirst, if_true]
      rw [ih fun i hi => allExecute (i + 1) (by omega)]
      omega

theorem EndsAfter.executedIn (ends : p.EndsAfter k st) :
    p.executedIn k = k ∨ (k = 1 ∧ p.executedIn k = 0) := by
  by_cases hk : 2 ≤ k
  · exact .inl (executedIn_of_executes fun i hi => ends.executes hk hi)
  · have hone : k = 1 := by have := ends.1.1; omega
    subst hone
    cases hexec : p.executes <;> simp [Processor.executedIn, hexec]

theorem EndsAfter.quanta {q : Nat} (ends : p.EndsAfter k st) (positive : 0 < q) :
    max 1 ((p.executedIn k + q - 1) / q) - 1 = (k - 1) / q := by
  rcases ends.executedIn with hall | ⟨rfl, hnone⟩
  · have hk := ends.1.1
    rw [hall, show k + q - 1 = k - 1 + q by omega, Nat.add_div_right _ positive,
      max_eq_right (Nat.le_add_left 1 _), Nat.add_sub_cancel]
  · rw [hnone, Nat.zero_add, Nat.div_eq_of_lt (by omega : q - 1 < q), Nat.sub_self, Nat.zero_div]
    rfl

theorem EndsAfter.state_ne_waiting {t : Task} (ends : p.EndsAfter k st) (noFault : p.fault = none)
    (current : p.task = some t) (notWaiting : st ≠ .waiting) : t.state ≠ .waiting := by
  intro hwait
  have hstep : p.stepClock = (p, .ok false) := by simp [stepClock, noFault, current, hwait]
  have hk : k = 1 := by
    by_contra hne
    have hfirst := ends.1.2.1 0 (by have := ends.1.1; omega)
    simp [steps, hstep] at hfirst
  subst hk
  have hstate := ends.2.2
  simp [steps, hstep, state, current, hwait] at hstate
  exact notWaiting hstate.symm

theorem atInstruction_of_executes {t : Task} (executing : p.executes = true) (current : p.task = some t) :
    ∀ f, t.frame? = some f → f.AddressIn 0 := by
  obtain ⟨-, t', ht', -, -, hcycle⟩ := executes_eq_true.mp executing
  rw [current, Option.some.injEq] at ht'
  subst ht'
  obtain ⟨f, w, hf, hw⟩ := fetched_of_cycle hcycle
  intro g hg
  rw [show (⟨t, p.repository⟩ : MachineState).task = t from rfl, hg, Option.some.injEq] at hf
  subst hf
  exact Frame.addressIn_of_peek hw

/-- A processor between two quanta of a worker: loading the frozen task `t` gives it back,
it was reached by moves, and the code of its repository decodes. -/
structure Boundary (c : Config) (p : Processor) (t : Task) : Prop where
  config : p.config = c
  fault : p.fault = none
  task : p.task = some t
  thaws : t.freeze.thaw c.validates = .ok t
  reachable : p.Reachable
  resumable : p.Resumable
  code : p.repository.CodeDecodes

theorem Boundary.eq {c : Config} {t : Task} (boundary : p.Boundary c t) :
    p = ⟨c, p.repository, some t, none⟩ := by
  obtain ⟨config, fault, task, -⟩ := boundary
  cases p
  simp_all

theorem Boundary.of_loadTask {c : Config} {r : Repository} {s : Snapshot}
    (decodes : r.CodeDecodes) (loads : (⟨c, r, none, none⟩ : Processor).loadTask s = .ok p) :
    ∃ t, s = t.freeze ∧ p = ⟨c, r, some t, none⟩ ∧ p.Boundary c t := by
  have loaded : p.Loaded := ⟨_, s, loads⟩
  unfold loadTask at loads
  cases hthaw : s.thaw c.validates with
  | error e =>
      rw [hthaw] at loads
      cases loads
  | ok t =>
      rw [hthaw] at loads
      cases loads
      have hs := Snapshot.eq_freeze_of_thaw hthaw
      refine ⟨t, hs, rfl, rfl, rfl, rfl, hs ▸ hthaw, ⟨_, .inr loaded, .refl⟩, ?_, decodes⟩
      rintro t' ⟨⟩
      exact Task.Resumable.of_thaw hthaw

theorem Boundary.steps {c : Config} {t : Task} {n : Nat} (boundary : p.Boundary c t)
    (ends : p.EndsAfter k st) (fits : ∀ n t, (p.steps n).task = some t → t.FitsSnapshot)
    (before : n < k) (positive : 0 < n) :
    ∃ t', (p.steps n).task = some t' ∧ t'.state = .active ∧ t'.id = t.id ∧
      (p.steps n).Boundary c t' := by
  have hprev : (p.steps (n - 1)).stepClock.2 = .ok true := ends.1.2.1 (n - 1) (by omega)
  have hsucc : p.steps n = (p.steps (n - 1)).stepClock.1 := by
    rw [← steps_succ', Nat.sub_add_cancel positive]
  obtain ⟨-, t', ht', hactive, -⟩ := stepClock_ok_true hprev
  rw [← hsucc] at ht'
  have hfault := fault_of_stepClock_ok hprev
  rw [← hsucc] at hfault
  obtain ⟨t'', ht'', hid, -⟩ := steps_meter p boundary.task n
  rw [ht', Option.some.injEq] at ht''
  subst ht''
  have hconfig : (p.steps n).config = c := (steps_config p n).trans boundary.config
  have reachable := boundary.reachable.steps n
  obtain ⟨resumable, htypes⟩ := Resumable.steps boundary.reachable boundary.code boundary.resumable n
  have hexec := ends.executes (by omega) before
  have hthaw := (resumable t' ht').thaw_freeze (reachable.sound t' ht') (fits n t' ht')
    (atInstruction_of_executes hexec ht')
  rw [hconfig] at hthaw
  exact ⟨t', ht', hactive, hid,
    ⟨hconfig, hfault, ht', hthaw, reachable, resumable, boundary.code.of_types_eq htypes⟩⟩

end Processor

/-- The repository after a finished task's outcome is posted to its reply bag, if it has one. -/
def Task.postOutcome (t : Task) (r : Repository) : Repository :=
  match t.replyTo, t.outcome with
  | some bag, some v => r.post bag v
  | _, _ => r

namespace Worker

/-- A worker with an idle processor over `r` whose queue holds only the snapshot of `t`,
written through `codec`. -/
def lone (codec : Codec) (c : Config) (r : Repository) (t : Task) : Worker :=
  ⟨⟨c, r, none, none⟩, ⟨codec, [encodeTask codec t.freeze], [], [], []⟩⟩

variable {codec : Codec} {c : Config} {r : Repository} {t : Task}

theorem processNext_lone (reads : codec.ReadsBack t.freeze.toData)
    (thawed : t.freeze.thaw c.validates = .ok t) (notWaiting : t.state ≠ .waiting) :
    (lone codec c r t).processNext =
      (⟨⟨c, r, some t, none⟩, ⟨codec, [], [t.id], [], []⟩⟩ : Worker).runQuantum t.freeze := by
  simp [processNext, lone, Queue.dequeue, decodeTask_encodeTask _ _ reads, Snapshot.decode,
    Except.mapError, Processor.loadTask, thawed, notWaiting]

variable {p p' : Processor} {st : TaskState} {t' : Task} {id : TaskId}

theorem runQuantum_requeues (ran : p.runFor p.config.quantum = (p', .ok st))
    (sameConfig : p'.config = p.config) (current : p'.task = some t') (active : t'.state = .active)
    (sameId : t'.id = id) (s : Snapshot) :
    (⟨p, ⟨codec, [], [id], [], []⟩⟩ : Worker).runQuantum s =
      (lone codec p.config p'.repository t', .ok (.requeued s.task.id)) := by
  obtain ⟨c', r', task', fault'⟩ := p'
  simp only at sameConfig current
  subst sameConfig current sameId
  simp [runQuantum, ran, settle, Processor.takeTask, active, Queue.enqueue, lone]

theorem runQuantum_finishes (ran : p.runFor p.config.quantum = (p', .ok st))
    (sameConfig : p'.config = p.config) (current : p'.task = some t')
    (finished : t'.state = .completed ∨ t'.state = .abandoned) (sameId : t'.id = id) (s : Snapshot) :
    (⟨p, ⟨codec, [], [id], [], []⟩⟩ : Worker).runQuantum s =
      (⟨⟨p.config, t'.postOutcome p'.repository, none, none⟩, ⟨codec, [], [], [t'.freeze], []⟩⟩,
        .ok (if t'.state = .completed then .completed id else .abandoned id)) := by
  obtain ⟨c', r', task', fault'⟩ := p'
  simp only at sameConfig current
  subst sameConfig current sameId
  rcases finished with finished | finished <;>
    simp [runQuantum, ran, settle, Processor.takeTask, finished, finish, Queue.ack, Queue.land,
      Except.map] <;> rfl

theorem turnsFor_of_turn {w w' : Worker} {o : Outcome} (turned : w.processNext = (w', .ok o))
    (notIdle : o ≠ .idle) (notParked : ∀ id, o ≠ .parked id) (parked : Nat)
    (earlier : List Outcome) (fuel : Nat) :
    w.turnsFor parked earlier (fuel + 1) = w'.turnsFor 0 (o :: earlier) fuel := by
  cases o with
  | idle => exact absurd rfl notIdle
  | parked id => exact absurd rfl (notParked id)
  | _ => simp [turnsFor, turned]

theorem turnsFor_of_empty {w : Worker} (noneReady : w.queue.ready = []) (parked : Nat)
    (earlier : List Outcome) (fuel : Nat) :
    w.turnsFor parked earlier (fuel + 1) = (w, .ok earlier.reverse) := by
  simp [turnsFor, processNext_empty w noneReady]

variable {k : Nat}

theorem processNext_requeues (lossless : codec.Lossless) (positive : 0 < c.quantum)
    (boundary : p.Boundary c t) (ends : p.EndsAfter k st)
    (fits : ∀ n t, (p.steps n).task = some t → t.FitsSnapshot) (notWaiting : st ≠ .waiting)
    (longer : c.quantum < k) :
    ∃ t', t'.id = t.id ∧ (p.steps c.quantum).Boundary c t' ∧
      (lone codec c p.repository t).processNext =
        (lone codec c (p.steps c.quantum).repository t', .ok (.requeued t.id)) := by
  have hturn := processNext_lone (r := p.repository) (lossless _) boundary.thaws
    (ends.state_ne_waiting boundary.fault boundary.task notWaiting)
  rw [← boundary.eq] at hturn
  have hrun : p.runFor p.config.quantum = (p.steps c.quantum, (p.steps c.quantum).state) := by
    rw [boundary.config]
    exact Processor.runFor_of_ok_true fun i hi => ends.1.2.1 i (by omega)
  obtain ⟨t', ht', hactive, hid, hb'⟩ := boundary.steps ends fits longer positive
  have hstate : (p.steps c.quantum).state = .ok .active := by
    simp [Processor.state, ht', hactive]
  rw [hstate] at hrun
  rw [runQuantum_requeues hrun (Processor.steps_config p _) ht' hactive hid, boundary.config,
    Task.freeze_task, Task.narrow_id] at hturn
  exact ⟨t', hid, hb', hturn⟩

theorem processNext_finishes (lossless : codec.Lossless) (boundary : p.Boundary c t)
    (ends : p.EndsAfter k st) (finished : st = .completed ∨ st = .abandoned) (withinQuantum : k ≤ c.quantum) :
    ∃ tF, (p.steps k).task = some tF ∧
      (lone codec c p.repository t).processNext =
        (⟨⟨c, tF.postOutcome (p.steps k).repository, none, none⟩,
            ⟨codec, [], [], [tF.freeze], []⟩⟩,
          .ok (if st = .completed then .completed t.id else .abandoned t.id)) := by
  have hturn := processNext_lone (r := p.repository) (lossless _) boundary.thaws
    (ends.state_ne_waiting boundary.fault boundary.task (by rcases finished with rfl | rfl <;> decide))
  rw [← boundary.eq] at hturn
  have hrun : p.runFor p.config.quantum = (p.steps k, .ok st) := by
    rw [boundary.config, Processor.runFor_of_stopsAfter ends.1 withinQuantum, ends.2.1]
    exact congrArg _ ends.2.2
  obtain ⟨tF, htF, hid, -⟩ := Processor.steps_meter p boundary.task k
  have hstate : tF.state = st := by
    have h := ends.2.2
    simp only [Processor.state, htF, Except.ok.injEq] at h
    exact h
  rw [runQuantum_finishes hrun (Processor.steps_config p k) htF (hstate ▸ finished) hid, boundary.config,
    hstate] at hturn
  exact ⟨tF, htF, hturn⟩

theorem turnsFor_lone (lossless : codec.Lossless) (positive : 0 < c.quantum)
    (finished : st = .completed ∨ st = .abandoned) (k : Nat) :
    ∀ {p : Processor} {t : Task}, p.Boundary c t → p.EndsAfter k st →
    (∀ n t, (p.steps n).task = some t → t.FitsSnapshot) →
    ∀ (earlier : List Outcome) (fuel : Nat), (k - 1) / c.quantum + 1 < fuel →
    ∃ tF, (p.steps k).task = some tF ∧
      (lone codec c p.repository t).turnsFor 0 earlier fuel =
        (⟨⟨c, tF.postOutcome (p.steps k).repository, none, none⟩,
            ⟨codec, [], [], [tF.freeze], []⟩⟩,
          .ok (earlier.reverse ++ List.replicate ((k - 1) / c.quantum) (.requeued t.id) ++
            [if st = .completed then .completed t.id else .abandoned t.id])) := by
  -- induction on the steps left, which each requeueing turn cuts by a quantum
  induction k using Nat.strong_induction_on with
  | _ k ih =>
  intro p t hb hends fits earlier fuel hfuel
  obtain ⟨fuel, rfl⟩ := Nat.exists_eq_add_one_of_ne_zero (Nat.ne_zero_of_lt hfuel)
  by_cases hlast : k ≤ c.quantum
  · -- the last quantum, after which the queue is empty
    obtain ⟨tF, htF, hturn⟩ := processNext_finishes lossless hb hends finished hlast
    obtain ⟨fuel, rfl⟩ :=
      Nat.exists_eq_add_one_of_ne_zero (Nat.ne_zero_of_lt (Nat.lt_of_succ_lt_succ hfuel))
    refine ⟨tF, htF, ?_⟩
    rw [turnsFor_of_turn hturn (by split <;> simp) (by split <;> simp), turnsFor_of_empty rfl,
      Nat.div_eq_of_lt (by omega : k - 1 < c.quantum)]
    simp
  · -- a full quantum, after which the rest of the run starts at a boundary
    obtain ⟨t', hid, hb', hturn⟩ := processNext_requeues lossless positive hb hends fits
      (by rcases finished with rfl | rfl <;> decide) (by omega)
    have hdiv : (k - 1) / c.quantum = (k - c.quantum - 1) / c.quantum + 1 := by
      rw [← Nat.add_div_right _ positive]
      congr 1
      omega
    obtain ⟨tF, htF, hrest⟩ := ih (k - c.quantum) (by omega) hb' (hends.drop (by omega))
      (fun n t' current => fits (c.quantum + n) t' (by rwa [Processor.steps_add]))
      (.requeued t.id :: earlier) fuel (by omega)
    rw [← Processor.steps_add, Nat.add_sub_cancel' (by omega)] at htF hrest
    refine ⟨tF, htF, ?_⟩
    rw [turnsFor_of_turn hturn (by simp) (by simp), hrest, hid, hdiv]
    simp [List.replicate_succ]

end Worker

/-- Cutting a run into quanta changes nothing.  Take a snapshot that an idle processor loads,
over a repository whose compiled code decodes, such that running the loaded task without
interruption ends it, after `k` clock steps and `N` instructions, completed or abandoned and
without a fault, with every frame's address and base within 32 bits on the way.  A worker
given the snapshot alone on its queue, over a codec that reads back what it writes, then
turns `max 1 ⌈N/q⌉` times for its quantum `q`: it requeues the task after every turn but the
last, and the last finishes it as the run does.  The worker ends idle, with the run's final
repository and the outcome posted to the task's reply bag, nothing left on the queue, and
the run's final task acknowledged. -/
theorem quanta_replay_uninterrupted_run {codec : Codec} {c : Config} {r : Repository}
    {s : Snapshot} {w : Worker} {p₀ pF : Processor} {st : TaskState}
    (created : Worker.create c r ((Queue.empty codec).enqueue s) = .ok w) (lossless : codec.Lossless)
    (decodes : r.CodeDecodes) (loaded : (⟨c, r, none, none⟩ : Processor).loadTask s = .ok p₀)
    (ran : p₀.run = (pF, .ok st)) (finished : st = .completed ∨ st = .abandoned)
    (fits : ∀ n t, (p₀.steps n).task = some t → t.FitsSnapshot) :
    ∃ (k : Nat) (tF : Task), p₀.StopsAfter k ∧ pF = p₀.steps k ∧ pF.task = some tF ∧
      w.runUntilIdle =
        (⟨⟨c, tF.postOutcome pF.repository, none, none⟩, ⟨codec, [], [], [tF.freeze], []⟩⟩,
          .ok (List.replicate (max 1 ((p₀.executedIn k + c.quantum - 1) / c.quantum) - 1)
                (.requeued s.task.id) ++
              [if st = .completed then .completed s.task.id else .abandoned s.task.id])) := by
  unfold Worker.create Processor.create at created
  have hvalid : c.validate = .ok () := by
    cases hv : c.validate with
    | error e => simp [hv] at created
    | ok u => rfl
  simp only [hvalid, bind, Except.bind, pure, Except.pure, Except.ok.injEq] at created
  subst created
  have hq : 0 < c.quantum := Config.quantum_pos_of_validate hvalid
  obtain ⟨t, rfl, rfl, hb⟩ := Processor.Boundary.of_loadTask decodes loaded
  obtain ⟨k, hk, hends, rfl⟩ := Processor.endsAfter_of_run hb.task ran
  have hfuel : (k - 1) / c.quantum + 1 < Worker.turnBound (Worker.lone codec c r t).queue := by
    have hdiv := Nat.div_le_self (k - 1) c.quantum
    have read := readTask_encodeTask codec t.freeze (lossless _)
    simp only [Worker.turnBound, Worker.lone, Queue.readySnapshots, Queue.pending,
      List.filterMap_cons, List.filterMap_nil, read, Except.toOption, List.map_cons,
      List.map_nil, List.foldr_cons, List.foldr_nil, List.length_cons, List.length_nil,
      Task.freeze_task, Task.narrow_tokens]
    omega
  obtain ⟨tF, htF, hturns⟩ := Worker.turnsFor_lone lossless hq finished k hb hends fits [] _ hfuel
  refine ⟨k, tF, hends.1, rfl, htF, ?_⟩
  rw [hends.quanta hq]
  exact hturns

theorem Processor.steps_of_stopped {p : Processor} (stopped : p.stepClock.1 = p) (n : Nat) :
    p.steps n = p := by
  induction n with
  | zero => rfl
  | succ n ih => rw [Processor.steps_succ', ih, stopped]

/-- Verbosity 2, which validates loaded snapshots, and a quantum of two instructions. -/
def Config.pairQuantum : Config := ⟨Verbosity.validating, 2, 16, 16⟩

/-- A task that pushes its receiver four times and returns it (`PUSH ARGUMENT 1` four times,
`PULL RESULT`), replying to the bag `reply`. -/
def pushingTask : Task :=
  ⟨⟨9⟩, Name.root, 10, 10,
    [⟨.none, ⟨"run"⟩, [], [], [], [], [], [], ⟨[0x3801, 0x3801, 0x3801, 0x3801, 0x5000]⟩, 1, 0, 0⟩],
    [], .active, none, some ⟨["reply"]⟩, none, none⟩

def pushingProcessor : Processor := ⟨Config.pairQuantum, .empty, some pushingTask, none⟩

/-- A worker with `pushingTask` alone on its queue, written through `Codec.tally`. -/
noncomputable def pushingWorker : Worker :=
  ⟨⟨Config.pairQuantum, .empty, none, none⟩, (Queue.empty Codec.tally).enqueue pushingTask.freeze⟩

theorem pushingProcessor_fits (n : Nat) (t : Task) (current : (pushingProcessor.steps n).task = some t) :
    t.FitsSnapshot := by
  have early : ∀ n ≤ 5, ((pushingProcessor.steps n).task.all fun t => decide t.FitsSnapshot) =
      true := by decide +kernel
  have stopped : (pushingProcessor.steps 5).stepClock.1 = pushingProcessor.steps 5 := rfl
  obtain small | large := le_or_gt n 5
  · exact of_decide_eq_true ((Option.all_eq_true _ _).mp (early n small) t current)
  · rw [show n = 5 + (n - 5) by omega, Processor.steps_add,
      Processor.steps_of_stopped stopped] at current
    exact of_decide_eq_true ((Option.all_eq_true _ _).mp (early 5 le_rfl) t current)

theorem pushing_task_replayed_in_quanta :
    Worker.create Config.pairQuantum .empty ((Queue.empty Codec.tally).enqueue pushingTask.freeze) =
        .ok pushingWorker ∧
      Codec.tally.Lossless ∧ Repository.empty.CodeDecodes ∧
      (⟨Config.pairQuantum, .empty, none, none⟩ : Processor).loadTask pushingTask.freeze =
        .ok pushingProcessor ∧
      pushingProcessor.run = (pushingProcessor.run.1, .ok .completed) ∧
      (∀ n t, (pushingProcessor.steps n).task = some t → t.FitsSnapshot) ∧
      ∃ (k : Nat) (tF : Task), pushingProcessor.StopsAfter k ∧
        pushingProcessor.run.1 = pushingProcessor.steps k ∧ pushingProcessor.run.1.task = some tF ∧
        pushingWorker.runUntilIdle =
          (⟨⟨Config.pairQuantum, tF.postOutcome pushingProcessor.run.1.repository, none, none⟩,
              ⟨Codec.tally, [], [], [tF.freeze], []⟩⟩,
            .ok (List.replicate (max 1 ((pushingProcessor.executedIn k + 2 - 1) / 2) - 1)
                  (.requeued pushingTask.id) ++
                [if TaskState.completed = .completed then .completed pushingTask.id
                  else .abandoned pushingTask.id])) := by
  have hcode : Repository.empty.CodeDecodes := by
    intro n compiled h
    cases h
  have hrun : pushingProcessor.run = (pushingProcessor.run.1, .ok .completed) :=
    Prod.ext rfl (by decide +kernel)
  exact ⟨rfl, Codec.tally_lossless, hcode, rfl, hrun, pushingProcessor_fits,
    quanta_replay_uninterrupted_run (s := pushingTask.freeze) rfl Codec.tally_lossless hcode rfl
      hrun (.inl rfl) pushingProcessor_fits⟩

end TaskMachine
