import Mathlib
import TaskMachine.Proofs.Machine.Addresses
import TaskMachine.Proofs.Machine.Limits
import TaskMachine.Proofs.Machine.Metering

/-! # Tasks that thaw as themselves

A worker runs a task for one quantum, freezes it, and later thaws the snapshot to run the
next quantum.  Thawing checks every frame's addresses and, under a validating configuration,
its code; this module shows that the checks never fail on a task the processor itself ran.

The invariant is `Task.Resumable`: every caller frame is within its code or just past it, and
under validation every frame's code decodes and its handlers lie inside it.  Clock steps keep
it (`Processor.Resumable.steps`) as long as the repository's compiled methods decode, and the
repository's types are never written by a step (`cycle_types`).  At a quantum boundary the
current frame stands at an instruction, so `Task.Resumable.thaw_freeze` thaws the frozen task
back to itself. -/

open Std.Do

set_option autoImplicit false
set_option mvcgen.warning false

namespace TaskMachine

namespace Repository

variable (r : Repository) (n : Name) (v : Value)

@[simp] theorem types_post : (r.post n v).types = r.types := rfl

@[simp] theorem types_writeDraft : (r.writeDraft n v).types = r.types := rfl

@[simp] theorem types_writeDocument : (r.writeDocument n v).types = r.types := rfl

@[simp] theorem types_retrieve : (r.retrieve n).1.types = r.types := by
  unfold retrieve
  split <;> rfl

@[simp] theorem types_deleteDraft : (r.deleteDraft n).1.types = r.types := rfl

@[simp] theorem types_deleteDocument : (r.deleteDocument n).1.types = r.types := rfl

end Repository

namespace Exec

variable (c : Config) (T : Shelf CompiledType)

theorem pop_types :
    ⦃fun s => ⌜s.repository.types = T⌝⦄ pop
      ⦃post⟨fun _ s => ⌜s.repository.types = T⌝, fun _ s => ⌜s.repository.types = T⌝⟩⦄ := by
  mvcgen [pop, frame, task, modifyTask, fault]

theorem popMany_types (n : Nat) :
    ⦃fun s => ⌜s.repository.types = T⌝⦄ popMany n
      ⦃post⟨fun _ s => ⌜s.repository.types = T⌝, fun _ s => ⌜s.repository.types = T⌝⟩⦄ := by
  induction n with
  | zero => mvcgen [popMany]
  | succ n ih =>
      have hpop := pop_types T
      mvcgen [popMany, hpop, ih]

theorem push_types (v : Value) :
    ⦃fun s => ⌜s.repository.types = T⌝⦄ Exec.push c v
      ⦃post⟨fun _ s => ⌜s.repository.types = T⌝, fun _ s => ⌜s.repository.types = T⌝⟩⦄ := by
  mvcgen [Exec.push, task, modifyTask, raise]

theorem advance_types :
    ⦃fun s => ⌜s.repository.types = T⌝⦄ Exec.advance
      ⦃post⟨fun _ s => ⌜s.repository.types = T⌝, fun _ s => ⌜s.repository.types = T⌝⟩⦄ := by
  mvcgen [Exec.advance, modifyFrame, frame, task, modifyTask, fault]

theorem nameIn_types (slot : Nat) :
    ⦃fun s => ⌜s.repository.types = T⌝⦄ nameIn slot
      ⦃post⟨fun _ s => ⌜s.repository.types = T⌝, fun _ s => ⌜s.repository.types = T⌝⟩⦄ := by
  mvcgen [nameIn, frame, task, orFault, raise, fault]

theorem execute_types (i : Instruction) :
    ⦃fun s => ⌜s.repository.types = T⌝⦄ execute c i
      ⦃post⟨fun _ s => ⌜s.repository.types = T⌝, fun _ s => ⌜s.repository.types = T⌝⟩⦄ := by
  have hpop := pop_types T
  have hpopMany := popMany_types T
  have hpush := push_types c T
  have hadvance := advance_types T
  have hname := nameIn_types T
  cases i with
  | skip => mvcgen [execute, hadvance]
  | jump address condition =>
      mvcgen [execute, execJump, Exec.jumpTo, checkAddress, hpop, hadvance, modifyFrame, frame,
        task, modifyTask, raise, fault]
  | push source operand =>
      mvcgen [execute, execPush, hpush, hadvance, checkAddress, modifyFrame, frame, task,
        modifyTask, orFault, fault]
  | pull target =>
      mvcgen [execute, execPull, hpop, hadvance, modifyFrame, frame, task, modifyTask, orFault,
        fault]
  | load storage slot =>
      mvcgen [execute, execLoad, hpush, hadvance, hname, missing, modifyRepository, frame, task,
        modifyTask, orFault, raise, fault]
      all_goals grind [Repository.types_retrieve]
  | save storage slot =>
      mvcgen [execute, execSave, hpop, hadvance, hname, modifyRepository, modifyFrame, frame, task,
        modifyTask, orFault, raise, fault]
  | drop storage slot =>
      mvcgen [execute, execDrop, hadvance, hname, missing, modifyRepository, modifyFrame, frame,
        task, modifyTask, orFault, raise, fault]
  | call intrinsic arguments =>
      mvcgen [execute, execCall, hpopMany, hpush, hadvance, raise]
  | send message target =>
      mvcgen [execute, execSend, sendArguments, resolveReceiver, startCallee, hpop, missing, frame,
        task, modifyTask, orFault, raise, fault]

theorem fetchAndExecute_types :
    ⦃fun s => ⌜s.repository.types = T⌝⦄ fetchAndExecute c
      ⦃post⟨fun _ s => ⌜s.repository.types = T⌝, fun _ s => ⌜s.repository.types = T⌝⟩⦄ := by
  have hexecute := execute_types c T
  mvcgen [fetchAndExecute, hexecute, modifyFrame, frame, task, modifyTask, fault]

end Exec

theorem cycle_types (c : Config) (s : MachineState) :
    (cycle c s).1.repository.types = s.repository.types := by
  have run := EStateM.of_wp_run_eq rfl (fun r : EStateM.Result Interrupt MachineState Unit =>
    match r with
    | .ok _ s' => s'.repository.types = s.repository.types
    | .error _ s' => s'.repository.types = s.repository.types)
    (by simpa using Exec.fetchAndExecute_types c s.repository.types s rfl)
  delta cycle
  generalize (Exec.fetchAndExecute c).run s = r at run ⊢
  cases r with
  | ok _ s' => exact run
  | error e s' =>
      cases e with
      | fault e => exact run
      | raise v => exact run

def Bytecode.Decodes (b : Bytecode) : Prop :=
  ∀ w ∈ b.words, ∃ i, decode w = .ok i

/-- Every method of every type of the repository has code that decodes. -/
def Repository.CodeDecodes (r : Repository) : Prop :=
  ∀ n compiled, r.type? n = some compiled →
    ∀ message m, compiled.method? message = some m → m.bytecode.Decodes

theorem Repository.CodeDecodes.of_types_eq {r r' : Repository} (decodes : r.CodeDecodes)
    (sameTypes : r'.types = r.types) : r'.CodeDecodes := by
  intro n compiled hn
  exact decodes n compiled (by rw [Repository.type?, ← sameTypes]; exact hn)

theorem firstMalformed_eq_none_iff (address : Nat) (ws : List Word) :
    firstMalformed address ws = none ↔ ∀ w ∈ ws, ∃ i, decode w = .ok i := by
  induction ws generalizing address with
  | nil => simp [firstMalformed]
  | cons w rest ih =>
      unfold firstMalformed
      cases hw : decode w with
      | error e => simp [hw]
      | ok i => simp [hw, ih]

namespace Frame

variable {f : Frame}

/-- What thawing with validation checks of a frame beyond its address: its code decodes and
its handlers are addresses of the code. -/
def CodeChecked (f : Frame) : Prop :=
  f.bytecode.Decodes ∧ f.HandlersIn

theorem addressIn_of_check {validate : Bool} (checked : f.check validate = .ok ()) : f.AddressIn 1 := by
  cases validate with
  | false => exact check_false_eq_ok.mp checked
  | true => exact (addressIn_of_check_true checked).1

theorem codeChecked_of_check_true (checked : f.check true = .ok ()) : f.CodeChecked := by
  refine ⟨(firstMalformed_eq_none_iff 1 _).mp ?_, (addressIn_of_check_true checked).2⟩
  cases hw : firstMalformed 1 f.bytecode.words with
  | none => rfl
  | some bad =>
      obtain ⟨address, w, e⟩ := bad
      obtain ⟨hne, hle⟩ := (addressIn_of_check_true checked).1
      unfold check at checked
      simp [hne, Nat.not_lt.mpr hle, hw] at checked

theorem check_of {validate : Bool} (addressed : f.AddressIn 1)
    (codeChecked : validate = true → f.CodeChecked) : f.check validate = .ok () := by
  cases validate with
  | false => exact check_false_eq_ok.mpr addressed
  | true =>
      obtain ⟨hne, hle⟩ := addressed
      obtain ⟨hdecodes, hhandlers⟩ := codeChecked rfl
      have haddr : ¬(f.address = 0 ∨ f.bytecode.length + 1 < f.address) := by omega
      have hwords : firstMalformed 1 f.bytecode.words = none :=
        (firstMalformed_eq_none_iff 1 _).mpr hdecodes
      have hfind : f.handlers.find? (fun h => h = 0 || f.bytecode.length < h) = none := by
        refine List.find?_eq_none.mpr fun a addressed => ?_
        have := hhandlers a addressed
        simp only [Bool.or_eq_true, decide_eq_true_eq, not_or, Nat.not_lt]
        exact this
      unfold check
      simp [haddr, hwords, hfind]

end Frame

theorem forM_check_of {validate : Bool} {frames : List Frame}
    (allChecked : ∀ g ∈ frames, g.check validate = .ok ()) :
    frames.forM (fun g => g.check validate) = .ok () := by
  induction frames with
  | nil => rfl
  | cons g rest ih =>
      rw [List.forM, allChecked g List.mem_cons_self]
      exact ih fun g' hg' => allChecked g' (List.mem_cons_of_mem g hg')

/-- A task whose snapshot thaws as itself whenever its current frame stands at an
instruction: every caller is in its code or just past it, and when the configuration
validates snapshots, every frame's code decodes and its handlers are addresses of the code. -/
structure Task.Resumable (c : Config) (t : Task) : Prop where
  callers : ∀ f ∈ t.frames.dropLast, f.AddressIn 1
  checked : c.validates = true → ∀ f ∈ t.frames, f.CodeChecked

namespace Task.Resumable

variable {c : Config} {t t' : Task} {f : Frame}

theorem of_frames_nil (noFrames : t.frames = []) : t.Resumable c :=
  ⟨by simp [noFrames], fun _ => by simp [noFrames]⟩

theorem of_frames_eq (resumable : t.Resumable c) (sameFrames : t'.frames = t.frames) : t'.Resumable c :=
  ⟨sameFrames ▸ resumable.callers, sameFrames ▸ resumable.checked⟩

theorem modifyFrame (resumable : t.Resumable c) (inFrame : t.frame? = some f) {g : Frame → Frame}
    (keepsCode : c.validates = true → f.CodeChecked → (g f).CodeChecked) :
    (t.modifyFrame g).Resumable c := by
  obtain ⟨below, hb⟩ := frame?_eq_some.mp inFrame
  have hcallers := resumable.callers
  rw [hb, List.dropLast_concat] at hcallers
  rw [modifyFrame_of_frames hb]
  refine ⟨by simpa using hcallers, fun hv x hx => ?_⟩
  rcases List.mem_append.mp hx with hx | hx
  · exact resumable.checked hv x (by rw [hb]; exact List.mem_append_left _ hx)
  · rw [List.mem_singleton.mp hx]
    exact keepsCode hv (resumable.checked hv f (mem_of_frame? inFrame))

theorem modifyFrame_of_code (resumable : t.Resumable c) {g : Frame → Frame}
    (keepsCode : ∀ f, (g f).bytecode = f.bytecode ∧ (g f).handlers = f.handlers) :
    (t.modifyFrame g).Resumable c := by
  cases hf : t.frame? with
  | none => rwa [modifyFrame_of_frame?_none hf]
  | some f =>
      refine resumable.modifyFrame hf fun _ hchecked => ?_
      obtain ⟨hbytecode, hhandlers⟩ := keepsCode f
      obtain ⟨hdecodes, hin⟩ := hchecked
      refine ⟨hbytecode ▸ hdecodes, fun a ha => ?_⟩
      rw [hhandlers] at ha
      rw [hbytecode]
      exact hin a ha

theorem call (resumable : t.Resumable c) (addressed : ∀ f, t.frame? = some f → f.AddressIn 0) {g : Frame}
    (calleeChecked : c.validates = true → g.CodeChecked) :
    ({ t with frames := t.frames ++ [g] } : Task).Resumable c := by
  refine ⟨fun x hx => ?_, fun hv x hx => ?_⟩
  · simp only [List.dropLast_concat] at hx
    obtain ⟨below, f, hb⟩ := exists_frames_of_mem hx
    have hcallers := resumable.callers
    rw [hb, List.dropLast_concat] at hcallers
    rw [hb] at hx
    rcases List.mem_append.mp hx with hx | hx
    · exact hcallers x hx
    · rw [List.mem_singleton.mp hx]
      exact (addressed f (frame?_eq_some.mpr ⟨below, hb⟩)).mono (Nat.zero_le 1)
  · rcases List.mem_append.mp hx with hx | hx
    · exact resumable.checked hv x hx
    · rw [List.mem_singleton.mp hx]
      exact calleeChecked hv

theorem dropFrame (resumable : t.Resumable c) (f : Frame) : (t.dropFrame f).Resumable c :=
  ⟨fun x hx => resumable.callers x (List.dropLast_subset _ hx),
    fun hv x hx => resumable.checked hv x (List.dropLast_subset _ hx)⟩

theorem consumeToken (resumable : t.Resumable c) : t.consumeToken.Resumable c := by
  unfold Task.consumeToken
  dsimp only
  split
  · exact of_frames_nil (frames_finish ..)
  · exact resumable.of_frames_eq rfl

theorem exhaust (resumable : t.Resumable c) : t.exhaust.Resumable c := by
  unfold Task.exhaust
  split
  · exact resumable
  · exact of_frames_nil (frames_finish ..)

theorem unwind (resumable : t.Resumable c) {e : Value} (unwinds : t.Unwind e t') : t'.Resumable c := by
  cases unwinds with
  | caught below k above a hsplit _ _ =>
      have hbelow : ∀ x ∈ below, x ∈ t.frames.dropLast := by
        intro x hx
        rw [hsplit, List.dropLast_append_of_ne_nil (List.cons_ne_nil k above)]
        exact List.mem_append_left _ hx
      refine ⟨fun x hx => ?_, fun hv x hx => ?_⟩
      · simp only [List.dropLast_concat] at hx
        exact resumable.callers x (hbelow x hx)
      · rcases List.mem_append.mp hx with hx | hx
        · exact resumable.checked hv x (List.dropLast_subset _ (hbelow x hx))
        · rw [List.mem_singleton.mp hx]
          obtain ⟨hdecodes, hin⟩ := resumable.checked hv k (by rw [hsplit]; simp)
          exact ⟨hdecodes, hin.dropLast⟩
  | uncaught => exact of_frames_nil rfl

theorem addressIn (resumable : t.Resumable c) (addressed : ∀ f, t.frame? = some f → f.AddressIn 0) :
    ∀ g ∈ t.frames, g.AddressIn 1 := by
  intro g hg
  obtain ⟨below, f, hb⟩ := exists_frames_of_mem hg
  rw [hb, List.mem_append, List.mem_singleton] at hg
  rcases hg with hg | rfl
  · exact resumable.callers g (by rw [hb, List.dropLast_concat]; exact hg)
  · exact (addressed g (frame?_eq_some.mpr ⟨below, hb⟩)).mono (Nat.zero_le 1)

theorem thaw_freeze (resumable : t.Resumable c) (sound : t.Sound) (fits : t.FitsSnapshot)
    (atInstruction : ∀ f, t.frame? = some f → f.AddressIn 0) :
    t.freeze.thaw c.validates = .ok t := by
  rw [thaw_freeze_of_fits sound fits, forM_check_of fun g member =>
    Frame.check_of (resumable.addressIn atInstruction g member)
      fun validates => resumable.checked validates g member]
  rfl

theorem of_thaw {s : Snapshot} (thawed : s.thaw c.validates = .ok t) : t.Resumable c := by
  have checked := (Snapshot.checks_of_thaw thawed).2
  refine ⟨fun f hf => Frame.addressIn_of_check (checked f (List.dropLast_subset _ hf)),
    fun hv f hf => ?_⟩
  have hcheck := checked f hf
  rw [hv] at hcheck
  exact Frame.codeChecked_of_check_true hcheck

end Task.Resumable

theorem Frame.bytecode_of_activate {compiled : CompiledType} {target : Value} {message : Symbol}
    {arguments : List Value} {base : Nat} {f : Frame}
    (activated : activate compiled target message arguments base = .ok f) :
    ∃ m, compiled.method? message = some m ∧ f.bytecode = m.bytecode := by
  unfold activate at activated
  split at activated
  · cases activated
  · next m hm =>
      split at activated
      · cases activated
      · cases activated
        exact ⟨m, hm, rfl⟩

theorem Task.atInstruction_modifyFrame {t : Task} (addressed : ∀ f, t.frame? = some f → f.AddressIn 0)
    {g : Frame → Frame}
    (keepsPlace : ∀ f, t.frame? = some f → (g f).address = f.address ∧ (g f).bytecode = f.bytecode) :
    ∀ f, (t.modifyFrame g).frame? = some f → f.AddressIn 0 := by
  intro x hx
  cases hf : t.frame? with
  | none =>
      rw [Task.modifyFrame_of_frame?_none hf, hf] at hx
      cases hx
  | some f =>
      rw [Task.frame?_modifyFrame hf] at hx
      cases hx
      obtain ⟨haddress, hbytecode⟩ := keepsPlace f hf
      unfold Frame.AddressIn
      rw [haddress, hbytecode]
      exact addressed f hf

namespace Exec

/-- The moves of an instruction keep its task resumable, with the current frame at the
instruction it runs until the last move.  A callee runs code of the repository, so the end
of the instruction is resumable when the repository's code decodes. -/
def resumeDiscipline (c : Config) : Discipline c where
  P s := s.task.Resumable c ∧ ∀ f, s.task.frame? = some f → f.AddressIn 0
  W s := s.task.Resumable c ∧ ∀ f, s.task.frame? = some f → f.AddressIn 0
  Q s := s.repository.CodeDecodes → s.task.Resumable c
  R s := s.task.Resumable c
  raised h := h.1
  write h := h
  faulted h _ := h.1
  repository _ h := h
  pop h _ hpop _ := by
    obtain ⟨-, rfl⟩ := Task.popComponent_eq_some.mp hpop
    exact ⟨h.1.of_frames_eq rfl, fun f hf => h.2 f hf⟩
  push _ h _ := ⟨h.1.of_frames_eq rfl, fun f hf => h.2 f hf⟩
  pushHandler := fun {s} a h hok => by
    refine ⟨?_, Task.atInstruction_modifyFrame h.2 fun _ _ => ⟨rfl, rfl⟩⟩
    cases hf : s.task.frame? with
    | none =>
        rw [Task.modifyFrame_of_frame?_none hf]
        exact h.1
    | some f =>
        exact h.1.modifyFrame hf fun hv hchecked =>
          ⟨hchecked.1, hchecked.2.pushHandler (hok f hf hv)⟩
  popHandler h hf hp := by
    obtain ⟨-, rfl⟩ := Frame.popHandler_eq_ok.mp hp
    refine ⟨h.1.modifyFrame hf fun _ hchecked => ⟨hchecked.1, hchecked.2.dropLast⟩,
      Task.atInstruction_modifyFrame h.2 fun x hx => ?_⟩
    rw [hf] at hx
    cases hx
    exact ⟨rfl, rfl⟩
  setVariable h hf hs := by
    obtain rfl := Frame.setVariable_eq_ok hs
    refine ⟨h.1.modifyFrame hf fun _ hchecked => hchecked,
      Task.atInstruction_modifyFrame h.2 fun x hx => ?_⟩
    rw [hf] at hx
    cases hx
    exact ⟨rfl, rfl⟩
  advance h _ _ := h.1.modifyFrame_of_code fun _ => ⟨rfl, rfl⟩
  jump _ h _ _ _ := h.1.modifyFrame_of_code fun _ => ⟨rfl, rfl⟩
  call := fun {s compiled receiver m arguments f} h _ htype hact hcode => by
    obtain ⟨method, hmethod, hbytecode⟩ := Frame.bytecode_of_activate hact
    obtain ⟨-, -, -, -, -, -, -, hhandlers, -⟩ := Frame.activate_eq_ok hact
    refine h.1.call h.2 fun _ => ⟨?_, by simp [Frame.HandlersIn, hhandlers]⟩
    rw [hbytecode]
    exact hcode _ compiled htype _ method hmethod
  wait h hw _ := by
    obtain ⟨-, rfl⟩ := Task.waitOn_eq_ok.mp hw
    exact h.1.of_frames_eq rfl
  ret := fun {s f g} _ h _ _ _ => by
    have moved : ((s.task.dropFrame f).modifyFrame Frame.advance).Resumable c :=
      (h.1.dropFrame f).modifyFrame_of_code fun _ => ⟨rfl, rfl⟩
    exact moved.of_frames_eq rfl
  complete _ _ _ _ hc _ := Task.Resumable.of_frames_nil (Task.frames_of_moveTo_finish hc)
  completeFault _ h _ _ _ _ := h.1.dropFrame _

end Exec

theorem cycle_resumable (c : Config) {x : MachineState} (live : x.task.Live)
    (resumableBefore : x.task.Resumable c) (decodes : x.repository.CodeDecodes) :
    (cycle c x).1.task.Resumable c := by
  let D := (Exec.liveDiscipline c).both (Exec.resumeDiscipline c)
  have unwind : ∀ {y : MachineState} e, D.R y → D.Q { y with task := (y.task.raise e).1 } := by
    rintro y e ⟨ylive, yres⟩
    have resumable : y.task.Resumable c := yres
    exact ⟨ylive.raise e, fun _ => resumable.unwind (ylive.unwind_raise e).1⟩
  have fetch : ∀ {y : MachineState} {f : Frame} {w : Word}, y.task.Live ∧ y.task.Resumable c →
      y.task.frame? = some f → f.peek? = some w →
      D.P { y with task := y.task.modifyFrame fun f => { f with instruction := w } } := by
    intro y f w hy hf hw
    have fetched : ∀ g, (y.task.modifyFrame fun f => { f with instruction := w }).frame? =
        some g → g.AddressIn 0 := by
      intro g hg
      rw [Task.frame?_modifyFrame hf] at hg
      cases hg
      exact Frame.addressIn_of_peek hw
    exact ⟨hy.1.modifyFrame hf rfl, hy.2.modifyFrame_of_code fun _ => ⟨rfl, rfl⟩, fetched⟩
  have start : ∀ {y : MachineState}, y.task.Live ∧ y.task.Resumable c → D.Q y :=
    fun hy => ⟨hy.1.toSound, fun _ => hy.2⟩
  have run := @Exec.Discipline.cycle_spec c D (fun y => y.task.Live ∧ y.task.Resumable c)
    start fetch unwind x ⟨live, resumableBefore⟩
  have ended : (cycle c x).1.repository.CodeDecodes → (cycle c x).1.task.Resumable c := run.2
  exact ended (decodes.of_types_eq (cycle_types c x))

namespace Processor

/-- A processor whose task, if it has one, is resumable under its configuration. -/
def Resumable (p : Processor) : Prop :=
  ∀ t, p.task = some t → t.Resumable p.config

variable {p : Processor}

theorem stepClock_types (p : Processor) :
    p.stepClock.1.repository.types = p.repository.types := by
  unfold stepClock
  split
  · rfl
  · split
    · rfl
    · next t _ =>
        split
        · rfl
        · split
          · rfl
          · split <;> next s _ heq =>
              rw [← cycle_types p.config ⟨t, p.repository⟩, heq]

theorem Resumable.stepClock (sound : p.Sound) (decodes : p.repository.CodeDecodes)
    (resumable : p.Resumable) : p.stepClock.1.Resumable := by
  intro u hu
  rw [stepClock_config]
  rcases stepClock_task p with same | ⟨t, ht, hex⟩ | ⟨t, ht, hactive, hcharge | hfault⟩
  · exact resumable u (same ▸ hu)
  · rw [hex] at hu
    cases hu
    exact (resumable t ht).exhaust
  · rw [hcharge] at hu
    cases hu
    exact (cycle_resumable p.config ⟨sound t ht, hactive⟩ (resumable t ht) decodes).consumeToken
  · rw [hfault] at hu
    cases hu
    exact cycle_resumable p.config ⟨sound t ht, hactive⟩ (resumable t ht) decodes

theorem Resumable.steps (reachable : p.Reachable) (decodes : p.repository.CodeDecodes) (resumable : p.Resumable)
    (n : Nat) : (p.steps n).Resumable ∧ (p.steps n).repository.types = p.repository.types := by
  induction n generalizing p with
  | zero => exact ⟨resumable, rfl⟩
  | succ n ih =>
      have htypes := stepClock_types p
      obtain ⟨hres, hkept⟩ := ih (reachable.move (.step p)) (decodes.of_types_eq htypes)
        (resumable.stepClock reachable.sound decodes)
      exact ⟨hres, hkept.trans htypes⟩

end Processor

end TaskMachine
