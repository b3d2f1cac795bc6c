import Mathlib
import TaskMachine.Proofs.Machine.Verbosity
import TaskMachine.Proofs.Machine.Delivery

/-! # Stack effects of the instructions

Every instruction has a signature: how many components it pops (`Instruction.pops`) and how
many it pushes (`Instruction.pushes`).  An instruction that ends normally, without starting
a callee, returning or waiting, has taken that many components off the top of the stack,
all of them above its frame's base, and put that many on, and every component beneath is as
it was (`Exec.StackEffect`, `Exec.execute_stackEffect`).  A `CALL` puts on what its intrinsic returns for the
operands in the order they were pushed (`Exec.execCall_stackStep`), and a `SEND` that starts
its callee has popped the argument list from the top and the receiver beneath it, and bases
the callee on what is left (`Exec.of_run_execSend_ok`).

The proofs go through two judgements on runs: `Exec.Reads` for the effects that leave the
machine state as it was, and `Exec.Pushes n` for those that put `n` components on the stack
and change nothing else of its shape (editing the current frame, changing the repository).
Each instruction first reads, then pops, then pushes and moves on; the pops are the only
step that needs the current frame, and they come before any change to it.

An instruction with fewer components above its frame's base than it pops faults with
`componentUnderflow` (`Exec.execute_underflow`), but only once it has passed the checks it
makes before its first pop (`Instruction.ChecksBeforePop`): a `SAVE` to a bag, a draft or a
document reads the name in its variable first, and a `SEND` looks up its message and, with
arguments, checks that a component on top is a list.  A `SAVE DOCUMENT` through a variable
that holds `none` raises `$invalidArgument` on an empty stack, not the underflow
(`unnamed_document_save_raises_before_popping`).

`instructions_change_the_stack_by_their_signature` states all of it. -/

set_option autoImplicit false

namespace TaskMachine

namespace Instruction

/-- How many components an instruction pops when it ends normally: a conditional jump's
condition, the component every `PULL` but that of a handler takes, the value a `SAVE`
stores, a `CALL`'s operands, and a `SEND`'s receiver with its argument list above it. -/
def pops : Instruction → Nat
  | .jump _ .always => 0
  | .jump _ _ => 1
  | .pull .handler => 0
  | .pull _ => 1
  | .save _ _ => 1
  | .call _ arguments => arguments
  | .send _ target => if target.withArguments then 2 else 1
  | _ => 0

/-- How many components an instruction pushes when it ends normally: what a `PUSH` other
than of a handler and a `LOAD` read, and a `CALL`'s result. -/
def pushes : Instruction → Nat
  | .push .handler _ => 0
  | .push _ _ => 1
  | .load _ _ => 1
  | .call _ _ => 1
  | _ => 0

/-- What an instruction checks before its first pop, over the components `owned` above the
frame's base: a `SAVE` to a bag, a draft or a document, that its variable holds a name; a
`SEND`, that its message is in the table and, when it pops an argument list and there is a
component to pop, that the component is a list. -/
def ChecksBeforePop (f : Frame) (owned : List Value) : Instruction → Prop
  | .save .variable _ => True
  | .save _ slot => ∃ n, f.variableAt slot = .ok (.name n)
  | .send message target => (∃ m, f.messageAt message = .ok m) ∧
      (target.withArguments = true → ∀ top, owned.getLast? = some top → top.tag = .list)
  | _ => True

end Instruction

namespace Exec

/-- `s'` is `s` with `popped` taken off the top of the component stack and `pushed` put in
its place; the components beneath stay as they were, and hold at least `base` of them when
anything was popped; the task keeps as many frames and its state. -/
def StackStep (base : Nat) (popped pushed : List Value) (s s' : MachineState) : Prop :=
  ∃ below, s.task.components = below ++ popped ∧ (popped = [] ∨ base ≤ below.length) ∧
    s'.task.components = below ++ pushed ∧ s'.task.frames.length = s.task.frames.length ∧
    s'.task.state = s.task.state

/-- `i` ended normally from `s` at `s'` as its signature says: `i.pops` components taken off
the top of the stack, from above `base`, and `i.pushes` put on in their place. -/
def StackEffect (i : Instruction) (base : Nat) (s s' : MachineState) : Prop :=
  ∃ popped pushed, StackStep base popped pushed s s' ∧ popped.length = i.pops ∧
    pushed.length = i.pushes

/-- A run that, when it ends, has left the machine state as it was. -/
def Reads {α : Type} (x : Exec α) : Prop :=
  ∀ ⦃s a s'⦄, x.run s = .ok a s' → s' = s

/-- A run that, when it ends, has put `n` components on the stack, and changed neither the
components beneath them nor the number of frames or the task's state. -/
def Pushes {α : Type} (n : Nat) (x : Exec α) : Prop :=
  ∀ ⦃s a s'⦄, x.run s = .ok a s' → ∃ pushed, pushed.length = n ∧
    s'.task.components = s.task.components ++ pushed ∧
    s'.task.frames.length = s.task.frames.length ∧ s'.task.state = s.task.state

variable {α β : Type} {s s' : MachineState} {f : Frame}

section Runs

theorem run_bind_eq_ok {x : Exec α} {k : α → Exec β} {b : β} :
    (x >>= k).run s = .ok b s' ↔ ∃ a s₁, x.run s = .ok a s₁ ∧ (k a).run s₁ = .ok b s' := by
  rw [run_bind]
  constructor
  · intro h
    split at h
    · next a s₁ hx => exact ⟨a, s₁, hx, h⟩
    · cases h
  · rintro ⟨a, s₁, hx, h⟩
    rw [hx]
    exact h

theorem run_bind_of_ok {x : Exec α} {k : α → Exec β} {a : α} {s₁ : MachineState}
    (ran : x.run s = .ok a s₁) : (x >>= k).run s = (k a).run s₁ := by
  rw [run_bind, ran]

theorem run_bind_of_error {x : Exec α} {k : α → Exec β} {e : Interrupt} {s₁ : MachineState}
    (refused : x.run s = .error e s₁) : (x >>= k).run s = .error e s₁ := by
  rw [run_bind, refused]

end Runs

/-! ## Reading -/

namespace Reads

theorem bind {x : Exec α} {k : α → Exec β} (reads : Reads x) (continues : ∀ a, Reads (k a)) :
    Reads (x >>= k) := by
  intro s b s' h
  obtain ⟨a, s₁, h₁, h₂⟩ := run_bind_eq_ok.mp h
  exact (continues a h₂).trans (reads h₁)

theorem pure (a : α) : Reads (pure a : Exec α) := by
  intro s b s' h
  cases h
  rfl

theorem throw (e : Interrupt) : Reads (throw e : Exec α) := by
  intro s b s' h
  cases h

theorem raise (kind : ExceptionKind) (text : String) : Reads (raise kind text : Exec α) :=
  throw _

theorem get : Reads (get : Exec MachineState) := by
  intro s b s' h
  cases h
  rfl

theorem task : Reads task := by
  intro s b s' h
  cases h
  rfl

theorem orFault (e : Except ExecutionError α) : Reads (orFault e) := by
  cases e
  · exact throw _
  · exact pure _

theorem frame : Reads frame := by
  refine task.bind fun t => ?_
  split
  · exact pure _
  · exact throw _

theorem nameIn (slot : Nat) : Reads (nameIn slot) := by
  refine frame.bind fun fr => (orFault _).bind fun v => ?_
  split
  · exact pure _
  · exact raise _ _

theorem checkAddress (c : Config) (target : Nat) : Reads (checkAddress c target) := by
  refine frame.bind fun fr => ?_
  dsimp only
  split
  · exact throw _
  · exact pure _

end Reads

theorem of_run_frame_ok {g : Frame} (ran : frame.run s = .ok g s') : s.task.frame? = some g := by
  cases hf : s.task.frame? with
  | none => simp [frame, task, hf, run_fault] at ran
  | some f' =>
    rw [run_frame hf] at ran
    cases ran
    rfl

theorem of_run_orFault_ok {e : Except ExecutionError α} {a : α} (ran : (orFault e).run s = .ok a s') :
    e = .ok a := by
  cases e with
  | error e => cases ran
  | ok a' =>
    cases ran
    rfl

/-! ## Pushing -/

theorem of_run_push_ok {c : Config} {v : Value} {a : Unit} (pushOk : (push c v).run s = .ok a s') :
    s' = { s with task := s.task.pushComponent v } := by
  unfold push at pushOk
  obtain ⟨t, s₁, ht, pushOk⟩ := run_bind_eq_ok.mp pushOk
  cases ht
  split at pushOk
  · -- a full stack raises before anything is pushed
    obtain ⟨_, _, hraise, -⟩ := run_bind_eq_ok.mp pushOk
    cases hraise
  · cases pushOk
    rfl

namespace Pushes

theorem of_reads {x : Exec α} (reads : Reads x) : Pushes 0 x := by
  intro s a s' h
  obtain rfl := reads h
  exact ⟨[], rfl, by simp, rfl, rfl⟩

theorem bind {m n : Nat} {x : Exec α} {k : α → Exec β} (pushes : Pushes m x)
    (continues : ∀ a, Pushes n (k a)) : Pushes (m + n) (x >>= k) := by
  intro s b s' h
  obtain ⟨a, s₁, h₁, h₂⟩ := run_bind_eq_ok.mp h
  obtain ⟨first, hm, hc, hl, hs⟩ := pushes h₁
  obtain ⟨second, hn, hc', hl', hs'⟩ := continues a h₂
  refine ⟨first ++ second, by rw [List.length_append, hm, hn], ?_, hl'.trans hl, hs'.trans hs⟩
  rw [hc', hc, List.append_assoc]

theorem bind_keep {n : Nat} {x : Exec α} {k : α → Exec β} (pushes : Pushes n x)
    (continues : ∀ a, Pushes 0 (k a)) : Pushes n (x >>= k) :=
  pushes.bind continues

theorem keep_bind {n : Nat} {x : Exec α} {k : α → Exec β} (pushes : Pushes 0 x)
    (continues : ∀ a, Pushes n (k a)) : Pushes n (x >>= k) := by
  simpa using pushes.bind continues

theorem reads_bind {n : Nat} {x : Exec α} {k : α → Exec β} (reads : Reads x)
    (continues : ∀ a, Pushes n (k a)) : Pushes n (x >>= k) :=
  (of_reads reads).keep_bind continues

theorem throw {n : Nat} (e : Interrupt) : Pushes n (throw e : Exec α) := by
  intro s b s' h
  cases h

theorem raise {n : Nat} (kind : ExceptionKind) (text : String) :
    Pushes n (raise kind text : Exec α) :=
  throw _

theorem missing {n : Nat} (kind : String) (name : Name) : Pushes n (missing kind name : Exec α) :=
  raise _ _

theorem modifyRepository (g : Repository → Repository) : Pushes 0 (modifyRepository g) := by
  intro s a s' h
  cases h
  exact ⟨[], rfl, by simp, rfl, rfl⟩

theorem modifyFrame (g : Frame → Frame) : Pushes 0 (modifyFrame g) := by
  intro s a s' h
  cases hf : s.task.frame? with
  | none => simp [Exec.modifyFrame, Exec.frame, Exec.task, hf, run_fault] at h
  | some f' =>
    rw [run_modifyFrame hf] at h
    cases h
    exact ⟨[], rfl, by simp, by simp, by simp⟩

theorem advance : Pushes 0 advance := modifyFrame _

theorem jumpTo (c : Config) (target : Nat) : Pushes 0 (jumpTo c target) :=
  (of_reads (Reads.checkAddress c target)).keep_bind fun _ => modifyFrame _

theorem push (c : Config) (v : Value) : Pushes 1 (push c v) := by
  intro s a s' h
  obtain rfl := of_run_push_ok h
  exact ⟨[v], rfl, rfl, rfl, rfl⟩

end Pushes

/-! ## Popping -/

theorem of_run_popMany_ok (inFrame : s.task.frame? = some f) {n : Nat} {popped : List Value}
    (ran : (popMany n).run s = .ok popped s') :
    ∃ below, s.task.components = below ++ popped ∧ (popped = [] ∨ f.base ≤ below.length) ∧
      popped.length = n ∧ s' = { s with task := { s.task with components := below } } := by
  induction n generalizing s s' popped with
  | zero =>
    cases ran
    exact ⟨_, (List.append_nil _).symm, .inl rfl, rfl, rfl⟩
  | succ n ih =>
    obtain ⟨top, s₁, hpop, ran⟩ := run_bind_eq_ok.mp ran
    obtain ⟨l, hl, hb, hs₁⟩ := of_run_pop_ok inFrame hpop
    obtain ⟨rest, s₂, hrest, ran⟩ := run_bind_eq_ok.mp ran
    have hf₁ : s₁.task.frame? = some f := by
      rw [hs₁]
      exact inFrame
    obtain ⟨below, hbelow, hb', hlen, rfl⟩ := ih hf₁ hrest
    cases ran
    subst hs₁
    dsimp only at hbelow
    refine ⟨below, by rw [hl, hbelow, List.append_assoc], .inr ?_, by simp [hlen], rfl⟩
    rcases hb' with rfl | hb'
    · simpa [hbelow] using hb
    · exact hb'

/-! ## The instructions -/

namespace StackEffect

variable {i : Instruction} {a : α}

theorem of_pushes {x : Exec α} (base : Nat) (noPops : i.pops = 0) (pushes : Pushes i.pushes x)
    (ran : x.run s = .ok a s') : StackEffect i base s s' := by
  obtain ⟨pushed, hn, hc, hl, hs⟩ := pushes ran
  exact ⟨[], pushed, ⟨s.task.components, by simp, .inl rfl, hc, hl, hs⟩, noPops.symm, hn⟩

theorem of_pop_bind {k : Value → Exec α} (inFrame : s.task.frame? = some f) (onePop : i.pops = 1)
    (continues : ∀ v, Pushes i.pushes (k v)) (ran : (pop >>= k).run s = .ok a s') :
    StackEffect i f.base s s' := by
  obtain ⟨v, s₁, hpop, ran⟩ := run_bind_eq_ok.mp ran
  obtain ⟨below, hc, hb, rfl⟩ := of_run_pop_ok inFrame hpop
  obtain ⟨pushed, hn, hc', hl, hs⟩ := continues v ran
  exact ⟨[v], pushed, ⟨below, hc, .inr hb, hc', hl, hs⟩, onePop.symm, hn⟩

end StackEffect

variable {c : Config}

theorem execJump_stackEffect {address : Nat} {condition : Condition}
    (inFrame : s.task.frame? = some f) (ran : (execJump c address condition).run s = .ok () s') :
    StackEffect (.jump address condition) f.base s s' := by
  have hmove : ∀ taken : Bool, Pushes 0 (if taken then jumpTo c address else advance) := by
    intro taken
    cases taken
    · exact Pushes.advance
    · exact Pushes.jumpTo c address
  rw [execJump_eq_bind] at ran
  cases condition
  · exact .of_pushes f.base rfl ((Pushes.of_reads (Reads.pure true)).keep_bind hmove) ran
  all_goals
    rw [jumpTaken, bind_assoc] at ran
    refine .of_pop_bind inFrame rfl (fun v => Pushes.keep_bind ?_ hmove) ran
    split
    · exact Pushes.of_reads (Reads.pure _)
    · first
        | exact Pushes.of_reads (Reads.pure _)
        | exact Pushes.raise _ _

theorem execPush_pushes (source : PushSource) (operand : Nat) :
    Pushes (Instruction.push source operand).pushes (execPush c source operand) := by
  cases source
  · exact (Pushes.of_reads (Reads.checkAddress c operand)).keep_bind fun _ =>
      (Pushes.modifyFrame _).keep_bind fun _ => Pushes.advance
  all_goals
    exact Pushes.reads_bind Reads.frame fun fr => Pushes.reads_bind (Reads.orFault _) fun v =>
      (Pushes.push c v).bind_keep fun _ => Pushes.advance

theorem execDrop_pushes (storage : Storage) (slot : Nat) : Pushes 0 (execDrop storage slot) := by
  cases storage
  · exact Pushes.reads_bind Reads.frame fun fr => Pushes.reads_bind (Reads.orFault _) fun g =>
      (Pushes.modifyFrame _).keep_bind fun _ => Pushes.advance
  · exact Pushes.raise _ _
  all_goals
    refine Pushes.reads_bind (Reads.nameIn slot) fun n => Pushes.reads_bind Reads.get fun st => ?_
    split
    refine (Pushes.modifyRepository _).keep_bind fun _ => ?_
    split
    · exact (Pushes.missing _ _).bind_keep fun _ => Pushes.advance
    · exact Pushes.advance

theorem execSave_stackEffect {storage : Storage} {slot : Nat} (inFrame : s.task.frame? = some f)
    (ran : (execSave storage slot).run s = .ok () s') :
    StackEffect (.save storage slot) f.base s s' := by
  cases storage <;> simp only [execSave] at ran
  · exact .of_pop_bind inFrame rfl (fun v => Pushes.reads_bind Reads.frame fun fr =>
      Pushes.reads_bind (Reads.orFault _) fun g => (Pushes.modifyFrame _).keep_bind fun _ =>
        Pushes.advance) ran
  all_goals
    obtain ⟨n, s₁, hn, hsave⟩ := run_bind_eq_ok.mp ran
    obtain rfl := Reads.nameIn slot hn
    exact .of_pop_bind inFrame rfl (fun v => (Pushes.modifyRepository _).keep_bind fun _ =>
      Pushes.advance) hsave

theorem execPull_result_frames (inFrame : s.task.frame? = some f)
    (ran : (execPull .result).run s = .ok () s') : s'.task.frames.length < s.task.frames.length := by
  have hpos : 0 < s.task.frames.length :=
    List.length_pos_of_ne_nil fun hnil => by simp [Task.frame?, hnil] at inFrame
  simp only [execPull] at ran
  obtain ⟨v, s₁, hpop, hrest⟩ := run_bind_eq_ok.mp ran
  obtain ⟨below, -, -, rfl⟩ := of_run_pop_ok inFrame hpop
  obtain ⟨t, s₂, ht, hrest⟩ := run_bind_eq_ok.mp hrest
  cases ht
  split at hrest
  · next hnone =>
    simp only [Task.frame?] at hnone inFrame
    simp [hnone] at inFrame
  · next g hg =>
    split at hrest
    · -- back in the caller, which moves on with the result
      cases hrest
      simp [Task.truncateComponents, Task.pushComponent]
      omega
    · -- no caller: the task completes, with no frames left
      obtain ⟨_, s₃, hdrop, hrest⟩ := run_bind_eq_ok.mp hrest
      cases hdrop
      obtain ⟨done, s₄, hdone, hrest⟩ := run_bind_eq_ok.mp hrest
      cases hrest
      rw [Task.frames_of_moveTo_finish (of_run_orFault_ok hdone)]
      exact hpos

theorem execPull_stackEffect {target : PullTarget} (inFrame : s.task.frame? = some f)
    (ran : (execPull target).run s = .ok () s') :
    StackEffect (.pull target) f.base s s' ∨ s'.task.frames.length < s.task.frames.length := by
  cases target
  · refine .inl (.of_pushes f.base rfl ?_ ran)
    exact Pushes.reads_bind Reads.frame fun fr => Pushes.reads_bind (Reads.orFault _) fun _ =>
      (Pushes.modifyFrame _).keep_bind fun _ => Pushes.advance
  · exact .inl (.of_pop_bind inFrame rfl (fun _ => Pushes.advance) ran)
  · exact .inr (execPull_result_frames inFrame ran)
  · exact .inl (.of_pop_bind inFrame rfl (fun _ => Pushes.throw _) ran)

theorem execLoad_stackEffect {storage : Storage} {slot : Nat} (base : Nat)
    (ran : (execLoad c storage slot).run s = .ok () s') :
    StackEffect (.load storage slot) base s s' ∨
      (s.task.state = .active ∧ s'.task.state = .waiting) := by
  cases storage <;> simp only [execLoad] at ran
  · refine .inl (.of_pushes base rfl ?_ ran)
    exact Pushes.reads_bind Reads.frame fun fr => Pushes.reads_bind (Reads.orFault _) fun v =>
      (Pushes.push c v).bind_keep fun _ => Pushes.advance
  · obtain ⟨bag, s₁, hbag, hrest⟩ := run_bind_eq_ok.mp ran
    obtain rfl := Reads.nameIn slot hbag
    obtain ⟨st, s₂, hst, hrest⟩ := run_bind_eq_ok.mp hrest
    cases hst
    cases hmessage : (s₁.repository.retrieve bag).2 with
    | some m =>
      rw [hmessage] at hrest
      exact .inl (.of_pushes base rfl ((Pushes.modifyRepository _).keep_bind fun _ =>
        (Pushes.push c m).bind_keep fun _ => Pushes.advance) hrest)
    | none =>
      -- an empty bag: the task moves to waiting, which only an active task can
      rw [hmessage] at hrest
      obtain ⟨_, s₃, hrepo, hrest⟩ := run_bind_eq_ok.mp hrest
      cases hrepo
      obtain ⟨t, s₄, ht, hrest⟩ := run_bind_eq_ok.mp hrest
      cases ht
      obtain ⟨waiting, s₅, hwait, hrest⟩ := run_bind_eq_ok.mp hrest
      obtain ⟨hcan, rfl⟩ := Task.waitOn_eq_ok.mp (of_run_orFault_ok hwait)
      obtain ⟨_, s₆, hmodify, hrest⟩ := run_bind_eq_ok.mp hrest
      cases hmodify
      cases hrest
      refine .inr ⟨?_, rfl⟩
      revert hcan
      cases s₁.task.state <;> simp [TaskState.canMoveTo]
  all_goals
    refine .inl (.of_pushes base rfl ?_ ran)
    refine Pushes.reads_bind (Reads.nameIn slot) fun n => Pushes.reads_bind Reads.get fun st => ?_
    split
    · exact (Pushes.push c _).bind_keep fun _ => Pushes.advance
    · exact (Pushes.missing _ _).bind_keep fun _ => Pushes.advance

theorem execCall_stackStep {intrinsic arguments : Nat} (inFrame : s.task.frame? = some f)
    (ran : (execCall c intrinsic arguments).run s = .ok () s') :
    ∃ popped v, popped.length = arguments ∧ invoke intrinsic popped = .ok v ∧
      StackStep f.base popped [v] s s' := by
  obtain ⟨popped, s₁, hpop, hrest⟩ := run_bind_eq_ok.mp ran
  obtain ⟨below, hc, hb, hlen, rfl⟩ := of_run_popMany_ok inFrame hpop
  cases hinv : invoke intrinsic popped with
  | error e =>
    -- a refused call raises before anything is pushed
    simp only [hinv] at hrest
    split at hrest <;>
    · obtain ⟨_, _, hraise, -⟩ := run_bind_eq_ok.mp hrest
      cases hraise
  | ok v =>
    simp only [hinv] at hrest
    obtain ⟨_, s₂, hpush, hrest⟩ := run_bind_eq_ok.mp hrest
    obtain rfl := of_run_push_ok hpush
    obtain ⟨pushed, hn, hc', hl, hs⟩ := Pushes.advance hrest
    rw [List.length_eq_zero_iff] at hn
    subst hn
    exact ⟨popped, v, hlen, hinv, below, hc, hb, by simpa [Task.pushComponent] using hc', hl, hs⟩

theorem of_run_sendArguments_ok {target : SendTarget} {m : Symbol} {arguments : List Value}
    (inFrame : s.task.frame? = some f) (ran : (sendArguments target m).run s = .ok arguments s') :
    ∃ l, s.task.components = l ++ (if target.withArguments then [.list arguments] else []) ∧
      (target.withArguments = true → f.base ≤ l.length) ∧
      (target.withArguments = false → arguments = []) ∧
      s' = { s with task := { s.task with components := l } } := by
  unfold sendArguments at ran
  cases hwith : target.withArguments
  · simp only [hwith, Bool.false_eq_true, if_false] at ran
    cases ran
    exact ⟨_, (List.append_nil _).symm, nofun, fun _ => rfl, rfl⟩
  · simp only [hwith, if_true] at ran
    obtain ⟨v, s₁, hpop, hrest⟩ := run_bind_eq_ok.mp ran
    obtain ⟨l, hc, hb, rfl⟩ := of_run_pop_ok inFrame hpop
    split at hrest
    · cases hrest
      exact ⟨l, hc, fun _ => hb, nofun, rfl⟩
    · cases hrest

theorem of_run_execSend_ok {message : Nat} {target : SendTarget} (inFrame : s.task.frame? = some f)
    (ran : (execSend c message target).run s = .ok () s') :
    ∃ m below receiver arguments callee compiled g,
      f.messageAt message = .ok m ∧
      s.task.components = below ++ target.operands receiver arguments ∧ f.base ≤ below.length ∧
      (target.withArguments = false → arguments = []) ∧
      (if target.isDocument then ∃ n, receiver = .name n ∧ s.repository.document? n = some callee
        else callee = receiver) ∧
      s.repository.type? callee.typeName = some compiled ∧
      Frame.activate compiled callee m arguments below.length = .ok g ∧
      s' = ⟨{ s.task with frames := s.task.frames ++ [g], components := below }, s.repository⟩ := by
  obtain ⟨u, r⟩ := s
  obtain ⟨fr, s₁, hframe, hrest⟩ := run_bind_eq_ok.mp ran
  obtain rfl := Reads.frame hframe
  obtain rfl : f = fr := Option.some.inj (inFrame.symm.trans (of_run_frame_ok hframe))
  obtain ⟨m, s₂, hm, hrest⟩ := run_bind_eq_ok.mp hrest
  obtain rfl := Reads.orFault _ hm
  obtain ⟨arguments, s₃, hargs, hrest⟩ := run_bind_eq_ok.mp hrest
  obtain ⟨l, hl, -, hnone, hs₃⟩ := of_run_sendArguments_ok inFrame hargs
  obtain ⟨receiver, s₄, hpop, -⟩ := run_bind_eq_ok.mp hrest
  have hf₃ : s₃.task.frame? = some f := by
    rw [hs₃]
    exact inFrame
  obtain ⟨below, hbelow, hb, -⟩ := of_run_pop_ok hf₃ hpop
  have hcomp : u.components = below ++ target.operands receiver arguments := by
    rw [hl, show l = below ++ [receiver] by simpa [hs₃] using hbelow, SendTarget.operands]
    split <;> simp
  have hm' := of_run_orFault_ok hm
  have hrun := execSend_run c r inFrame hm' hcomp hnone
  rw [ran] at hrun
  obtain ⟨callee, compiled, g, hcallee, htype, hact, rfl⟩ := hrun
  exact ⟨m, below, receiver, arguments, callee, compiled, g, hm', hcomp,
    by simpa [hs₃] using hb, hnone, hcallee, htype, hact, rfl⟩

theorem execute_stackEffect {i : Instruction} (inFrame : s.task.frame? = some f)
    (ran : (execute c i).run s = .ok () s')
    (sameDepth : s'.task.frames.length = s.task.frames.length)
    (sameState : s'.task.state = s.task.state) : StackEffect i f.base s s' := by
  cases i with
  | skip => exact .of_pushes f.base rfl Pushes.advance ran
  | jump address condition => exact execJump_stackEffect inFrame ran
  | push source operand => exact .of_pushes f.base rfl (execPush_pushes source operand) ran
  | pull target =>
    refine (execPull_stackEffect inFrame ran).resolve_right ?_
    omega
  | load storage slot =>
    refine (execLoad_stackEffect f.base ran).resolve_right ?_
    rintro ⟨hactive, hwaiting⟩
    rw [hactive, hwaiting] at sameState
    cases sameState
  | save storage slot => exact execSave_stackEffect inFrame ran
  | drop storage slot => exact .of_pushes f.base rfl (execDrop_pushes storage slot) ran
  | call intrinsic arguments =>
    obtain ⟨popped, v, hlen, -, hstep⟩ := execCall_stackStep inFrame ran
    exact ⟨popped, [v], hstep, hlen, rfl⟩
  | send message target =>
    obtain ⟨m, below, receiver, arguments, callee, compiled, g, -, -, -, -, -, -, -, hs'⟩ :=
      of_run_execSend_ok inFrame ran
    rw [hs'] at sameDepth
    simp at sameDepth

/-! ## Too few operands -/

theorem run_pop_of_le (inFrame : s.task.frame? = some f) (atBase : s.task.components.length ≤ f.base) :
    pop.run s = .error (.fault (.componentUnderflow f.address)) s := by
  rcases List.eq_nil_or_concat s.task.components with hnil | ⟨l, y, hly⟩
  · simp [pop, frame, task, inFrame, Task.popComponent, hnil, run_fault]
  · rw [List.concat_eq_append] at hly
    rw [run_pop inFrame hly, if_pos (by simp [hly] at atBase; omega)]

theorem popMany_underflow (inFrame : s.task.frame? = some f) {n : Nat}
    (short : s.task.components.length - f.base < n) :
    ∃ s'', (popMany n).run s = .error (.fault (.componentUnderflow f.address)) s'' := by
  induction n generalizing s with
  | zero => omega
  | succ n ih =>
    by_cases hle : s.task.components.length ≤ f.base
    · exact ⟨s, run_bind_of_error (run_pop_of_le inFrame hle)⟩
    · obtain ⟨x, s₁, -, hpop⟩ := run_pop_of_lt inFrame (Nat.lt_of_not_le hle)
      obtain ⟨below, hc, -, hs₁⟩ := of_run_pop_ok inFrame hpop
      have hf₁ : s₁.task.frame? = some f := by
        rw [hs₁]
        exact inFrame
      have hlen : s.task.components.length = below.length + 1 := by simp [hc]
      obtain ⟨s'', hs''⟩ := ih hf₁ (by rw [hs₁]; dsimp only; omega)
      exact ⟨s'', by rw [popMany, run_bind_of_ok hpop, run_bind_of_error hs'']⟩

theorem execSend_underflow {message : Nat} {target : SendTarget} (inFrame : s.task.frame? = some f)
    (short : s.task.components.length - f.base < (Instruction.send message target).pops)
    (checksFirst : (Instruction.send message target).ChecksBeforePop f
      (s.task.components.drop f.base)) :
    ∃ s'', (execSend c message target).run s = .error (.fault (.componentUnderflow f.address)) s'' := by
  obtain ⟨⟨m, hm⟩, hlist⟩ := checksFirst
  have hread : (orFault (f.messageAt message)).run s = .ok m s := by
    rw [hm]
    rfl
  unfold execSend sendArguments
  rw [run_bind_of_ok (run_frame inFrame), run_bind_of_ok hread]
  cases hwith : target.withArguments
  · -- the receiver is all there is to pop, and it is missing
    simp only [Instruction.pops, hwith, Bool.false_eq_true, if_false] at short ⊢
    exact ⟨s, by rw [run_bind_of_ok (rfl : (pure [] : Exec (List Value)).run s = .ok [] s),
      run_bind_of_error (run_pop_of_le inFrame (by omega))]⟩
  · simp only [Instruction.pops, hwith, if_true] at short ⊢
    by_cases hle : s.task.components.length ≤ f.base
    · -- the argument list is missing
      exact ⟨s, run_bind_of_error (run_bind_of_error (run_pop_of_le inFrame hle))⟩
    · -- the argument list is the one component there, and the receiver is missing
      obtain ⟨x, s₁, -, hpop⟩ := run_pop_of_lt inFrame (Nat.lt_of_not_le hle)
      obtain ⟨below, hc, -, hs₁⟩ := of_run_pop_ok inFrame hpop
      have hlen : below.length = f.base := by
        simp [hc] at short hle
        omega
      have htop : (s.task.components.drop f.base).getLast? = some x := by
        rw [hc, List.drop_left' hlen]
        rfl
      obtain ⟨items, rfl⟩ : ∃ items, x = .list items := by
        have hx := hlist hwith x htop
        cases x <;> simp_all [Value.tag]
      have hf₁ : s₁.task.frame? = some f := by
        rw [hs₁]
        exact inFrame
      refine ⟨s₁, ?_⟩
      rw [run_bind, run_bind_of_ok hpop]
      exact run_bind_of_error (run_pop_of_le hf₁ (by simp [hs₁, hlen]))

theorem execute_underflow {i : Instruction} (inFrame : s.task.frame? = some f)
    (short : (s.task.components.drop f.base).length < i.pops)
    (checksFirst : i.ChecksBeforePop f (s.task.components.drop f.base)) :
    ∃ s'', (execute c i).run s = .error (.fault (.componentUnderflow f.address)) s'' := by
  rw [List.length_drop] at short
  have hfirst : ∀ {k : Value → Exec Unit}, s.task.components.length ≤ f.base →
      ∃ s'', (pop >>= k).run s = .error (.fault (.componentUnderflow f.address)) s'' :=
    fun hle => ⟨s, run_bind_of_error (run_pop_of_le inFrame hle)⟩
  cases i with
  | jump address condition =>
    cases condition
    · simp [Instruction.pops] at short
    all_goals
      rw [execute, execJump_eq_bind, jumpTaken, bind_assoc]
      exact hfirst (by simp [Instruction.pops] at short; omega)
  | pull target =>
    cases target
    · simp [Instruction.pops] at short
    all_goals exact hfirst (by simp [Instruction.pops] at short; omega)
  | save storage slot =>
    have hle : s.task.components.length ≤ f.base := by
      simp [Instruction.pops] at short
      omega
    cases storage
    · exact hfirst hle
    all_goals
      obtain ⟨n, hn⟩ := checksFirst
      exact ⟨s, by rw [execute, execSave, run_bind_of_ok (run_nameIn inFrame hn),
        run_bind_of_error (run_pop_of_le inFrame hle)]⟩
  | call intrinsic arguments =>
    obtain ⟨s'', hs''⟩ := popMany_underflow inFrame short
    exact ⟨s'', run_bind_of_error hs''⟩
  | send message target => exact execSend_underflow inFrame short checksFirst
  | _ => simp [Instruction.pops] at short

end Exec

open Exec in
/-- Every instruction changes the component stack by its signature.  One that ends normally,
without starting a callee, returning or waiting, has taken `i.pops` components off the top of
the stack, from above its frame's base, and put `i.pushes` on in their place, over components
that stay as they were.  A `CALL` puts on what its intrinsic returns for the operands in the
order they were pushed.  A `SEND` that ends has popped its argument list, when it passes one,
from the top and its receiver from beneath it, and based the callee on the components left.
With fewer components above the frame's base than it pops, an instruction faults with the
underflow at its address, once it has passed what it checks before its first pop. -/
theorem instructions_change_the_stack_by_their_signature (c : Config) :
    (∀ (i : Instruction) (s s' : MachineState) (f : Frame), s.task.frame? = some f →
      (execute c i).run s = .ok () s' →
      s'.task.frames.length = s.task.frames.length → s'.task.state = s.task.state →
      StackEffect i f.base s s') ∧
    (∀ (intrinsic arguments : Nat) (s s' : MachineState) (f : Frame), s.task.frame? = some f →
      (execute c (.call intrinsic arguments)).run s = .ok () s' →
      ∃ popped v, popped.length = arguments ∧ invoke intrinsic popped = .ok v ∧
        StackStep f.base popped [v] s s') ∧
    (∀ (message : Nat) (target : SendTarget) (s s' : MachineState) (f : Frame),
      s.task.frame? = some f → (execute c (.send message target)).run s = .ok () s' →
      ∃ m below receiver arguments callee compiled g,
        f.messageAt message = .ok m ∧
        s.task.components = below ++ target.operands receiver arguments ∧
        f.base ≤ below.length ∧ (target.withArguments = false → arguments = []) ∧
        (if target.isDocument then ∃ n, receiver = .name n ∧ s.repository.document? n = some callee
          else callee = receiver) ∧
        s.repository.type? callee.typeName = some compiled ∧
        Frame.activate compiled callee m arguments below.length = .ok g ∧
        s' = ⟨{ s.task with frames := s.task.frames ++ [g], components := below }, s.repository⟩) ∧
    (∀ (i : Instruction) (s : MachineState) (f : Frame), s.task.frame? = some f →
      (s.task.components.drop f.base).length < i.pops →
      i.ChecksBeforePop f (s.task.components.drop f.base) →
      ∃ s'', (execute c i).run s = .error (.fault (.componentUnderflow f.address)) s'') :=
  ⟨fun _ _ _ _ hf h hframes hstate => execute_stackEffect hf h hframes hstate,
    fun _ _ _ _ _ hf h => execCall_stackStep hf h,
    fun _ _ _ _ _ hf h => of_run_execSend_ok hf h,
    fun _ _ _ hf hneed hchecks => execute_underflow hf hneed hchecks⟩

/-- A frame at `SAVE DOCUMENT 1` (the word `38913`), whose one variable `v` holds `none`. -/
def unnamedSaveFrame : Frame :=
  ⟨.none, ⟨"run"⟩, [], [(⟨"v"⟩, .none)], [], [], [], [], ⟨[38913]⟩, 1, 0, 0⟩

/-- A task running `unnamedSaveFrame` with nothing on its stack. -/
def unnamedSaveState : MachineState :=
  ⟨⟨⟨0⟩, Name.root, 5, 5, [unnamedSaveFrame], [], .active, none, none, none, none⟩,
    Repository.empty⟩

/-- Saving a value from an empty stack into a variable faults with the underflow. -/
theorem saving_from_an_empty_stack_underflows :
    ∃ s'', (Exec.execute Config.default (.save .variable 1)).run unnamedSaveState =
      .error (.fault (.componentUnderflow 1)) s'' :=
  (instructions_change_the_stack_by_their_signature Config.default).2.2.2 _ _ unnamedSaveFrame
    rfl (by decide) trivial

/-- `SAVE DOCUMENT 1` with nothing to save reads its variable first: `none` is not a name, so
it raises `$invalidArgument` before it pops, and the cycle reports no underflow. -/
theorem unnamed_document_save_raises_before_popping :
    (unnamedSaveState.task.components.drop unnamedSaveFrame.base).length <
        (Instruction.save .document 1).pops ∧
      (Exec.execute Config.default (.save .document 1)).run unnamedSaveState =
        .error (.raise (Value.exception .invalidArgument
          ("variable " ++ Decimal.natText 1 ++ " holds " ++ Value.none.display ++ ", not a name")))
          unnamedSaveState ∧
      (cycle Config.default unnamedSaveState).2 = none :=
  ⟨by decide, rfl, rfl⟩

end TaskMachine
