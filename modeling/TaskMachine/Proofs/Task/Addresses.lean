import Mathlib
import TaskMachine.Proofs.Task.Lifecycle

/-! # Where frames stand in their code

A frame's address is the next instruction it runs.  Between instructions it lies in
`1..=len+1` of the frame's code, `len + 1` once the last instruction has moved on.  A caller
stands at the `SEND` that made its call and a waiting task at the `LOAD` that made it wait,
so both are at an instruction, in `1..=len`; so is every handler once targets are checked.
`Task.Addressed` says this of a task, and `Task.Fetched` of an active task whose current
frame has fetched an instruction.  Each change an instruction makes to a task keeps them,
given the target checks (`Fetched.jump`, `HandlersIn.pushHandler`).

A snapshot thaws when every frame's address lies in `1..=len+1`, so an addressed sound task
thaws as itself (`Task.Addressed.thaw_freeze`). -/

set_option autoImplicit false

namespace TaskMachine

namespace Frame

def AddressIn (f : Frame) (extra : Nat) : Prop :=
  f.address ≠ 0 ∧ f.address ≤ f.bytecode.length + extra

def HandlersIn (f : Frame) : Prop :=
  ∀ h ∈ f.handlers, h ≠ 0 ∧ h ≤ f.bytecode.length

variable {f : Frame}

theorem AddressIn.mono {m n : Nat} (addressed : f.AddressIn m) (le : m ≤ n) : f.AddressIn n := by
  obtain ⟨hne, hlen⟩ := addressed
  exact ⟨hne, by omega⟩

theorem addressIn_of_peek {w : Word} (peeked : f.peek? = some w) : f.AddressIn 0 := by
  unfold peek? Bytecode.get? at peeked
  split at peeked
  · cases peeked
  · next hne =>
      have hlt := (List.getElem?_eq_some_iff.mp peeked).1
      refine ⟨hne, ?_⟩
      unfold Bytecode.length
      omega

theorem AddressIn.advance (addressed : f.AddressIn 0) : f.advance.AddressIn 1 := by
  obtain ⟨-, hlen⟩ := addressed
  exact ⟨by simp [Frame.advance], by simp only [Frame.advance]; omega⟩

theorem HandlersIn.pushHandler (handlersIn : f.HandlersIn) {a : Nat}
    (inCode : a ≠ 0 ∧ a ≤ f.bytecode.length) : (f.pushHandler a).HandlersIn := by
  intro x hx
  rcases List.mem_append.mp hx with hx | hx
  · exact handlersIn x hx
  · rw [List.mem_singleton.mp hx]
    exact inCode

theorem HandlersIn.dropLast (handlersIn : f.HandlersIn) :
    ({ f with handlers := f.handlers.dropLast } : Frame).HandlersIn :=
  fun x hx => handlersIn x (List.dropLast_subset _ hx)

theorem check_false_eq_ok : f.check false = .ok () ↔ f.AddressIn 1 := by
  unfold check AddressIn
  by_cases h : f.address = 0 ∨ f.bytecode.length + 1 < f.address
  · rcases h with h | h
    · simp [h]
    · simp [h, Nat.not_le.mpr h]
  · simp only [not_or, Nat.not_lt] at h
    simp [h.1, h.2, Nat.not_lt.mpr h.2]

theorem forM_check_false {frames : List Frame} (addressed : ∀ g ∈ frames, g.AddressIn 1) :
    frames.forM (fun g => g.check false) = .ok () := by
  induction frames with
  | nil => rfl
  | cons g rest ih =>
      rw [List.forM, check_false_eq_ok.mpr (addressed g List.mem_cons_self)]
      exact ih fun g' hg' => addressed g' (List.mem_cons_of_mem g hg')

theorem addressIn_of_check_true (checked : f.check true = .ok ()) : f.AddressIn 1 ∧ f.HandlersIn := by
  unfold check at checked
  by_cases haddr : f.address = 0 ∨ f.bytecode.length + 1 < f.address
  · rcases haddr with haddr | haddr
    · simp [haddr] at checked
    · simp [haddr] at checked
  · simp only [not_or, Nat.not_lt] at haddr
    simp [haddr.1, Nat.not_lt.mpr haddr.2] at checked
    split at checked
    · cases checked
    · split at checked
      · cases checked
      · next hfind =>
          refine ⟨⟨haddr.1, by omega⟩, fun a ha => ?_⟩
          have := List.find?_eq_none.mp hfind a ha
          simp only [Bool.or_eq_true, decide_eq_true_eq, not_or, Nat.not_lt] at this
          exact this

theorem check_of_forM {frames : List Frame} {validate : Bool}
    (allChecked : frames.forM (fun g => g.check validate) = .ok ()) :
    ∀ g ∈ frames, g.check validate = .ok () := by
  induction frames with
  | nil => simp
  | cons g rest ih =>
      rw [List.forM] at allChecked
      cases hg : g.check validate with
      | error e =>
          rw [hg] at allChecked
          cases allChecked
      | ok u =>
          rw [hg] at allChecked
          intro g' hg'
          rcases List.mem_cons.mp hg' with rfl | hg'
          · exact hg
          · exact ih allChecked g' hg'

end Frame

theorem Snapshot.checks_of_thaw {s : Snapshot} {validate : Bool} {t : Task}
    (thawed : s.thaw validate = .ok t) :
    t = s.task ∧ ∀ f ∈ t.frames, f.check validate = .ok () := by
  obtain ⟨-, -, -, frames⟩ := Snapshot.of_thaw thawed
  obtain ⟨rfl, -, checked⟩ := Task.of_thawFrames frames
  exact ⟨rfl, Frame.check_of_forM checked⟩

namespace Task

variable {t t' : Task} {f : Frame}

theorem mem_of_frame? (inFrame : t.frame? = some f) : f ∈ t.frames :=
  List.mem_of_getLast? inFrame

theorem exists_frames_of_mem {g : Frame} (member : g ∈ t.frames) :
    ∃ below f, t.frames = below ++ [f] :=
  ⟨_, _, (List.dropLast_append_getLast (List.ne_nil_of_mem member)).symm⟩

/-- Where the frames of a task stand: every handler at an instruction, every caller at the
instruction that made its call, the current frame at an instruction or just past the last
one, and, in a waiting task, at the instruction that made it wait. -/
structure Addressed (t : Task) : Prop where
  handlers : ∀ f ∈ t.frames, f.HandlersIn
  callers : ∀ f ∈ t.frames.dropLast, f.AddressIn 0
  current : ∀ f, t.frame? = some f → f.AddressIn 1
  waiting : t.state = .waiting → ∀ f, t.frame? = some f → f.AddressIn 0

/-- An active addressed task whose current frame is at the instruction it runs. -/
structure Fetched (t : Task) : Prop extends Addressed t where
  active : t.state = .active
  atInstruction : ∀ f, t.frame? = some f → f.AddressIn 0

theorem addressed_iff_of_frames {below : List Frame} (split : t.frames = below ++ [f]) :
    t.Addressed ↔ (∀ g ∈ below ++ [f], g.HandlersIn) ∧ (∀ g ∈ below, g.AddressIn 0) ∧
      f.AddressIn 1 ∧ (t.state = .waiting → f.AddressIn 0) := by
  have hcur : t.frame? = some f := frame?_eq_some.mpr ⟨below, split⟩
  constructor
  · intro h
    refine ⟨split ▸ h.handlers, ?_, h.current f hcur, fun hw => h.waiting hw f hcur⟩
    have := h.callers
    rwa [split, List.dropLast_concat] at this
  · rintro ⟨hhandlers, hbelow, hf, hwait⟩
    refine ⟨split ▸ hhandlers, ?_, fun g hg => ?_, fun hw g hg => ?_⟩
    · rw [split, List.dropLast_concat]
      exact hbelow
    · rw [hcur] at hg
      cases hg
      exact hf
    · rw [hcur] at hg
      cases hg
      exact hwait hw

theorem addressed_of_frames_nil (noFrames : t.frames = []) : t.Addressed :=
  ⟨by simp [noFrames], by simp [noFrames], fun g hg => by simp [frame?, noFrames] at hg,
    fun _ g hg => by simp [frame?, noFrames] at hg⟩

theorem addressed_of_moveTo_finish {state : TaskState} {v : Value}
    (moved : (t.moveTo state).map (fun t => t.finish state v) = .ok t') : t'.Addressed :=
  addressed_of_frames_nil (frames_of_moveTo_finish moved)

theorem addressed_start {id : TaskId} {account : Name} {tokens : Nat} (atStart : f.address = 1)
    (noHandlers : f.handlers = []) : (Task.start id account tokens f).Addressed := by
  have hframes : (Task.start id account tokens f).frames = [] ++ [f] := rfl
  refine (addressed_iff_of_frames hframes).mpr ⟨?_, by simp, ?_, by simp [start]⟩
  · intro g hg
    rw [List.mem_singleton.mp hg]
    simp [Frame.HandlersIn, noHandlers]
  · simp [Frame.AddressIn, atStart]

theorem addressed_of_thaw {s : Snapshot} (thawed : s.thaw true = .ok t)
    (callersIn : ∀ f ∈ t.frames.dropLast, f.address ≤ f.bytecode.length)
    (waitingIn : t.state = .waiting → ∀ f, t.frame? = some f → f.address ≤ f.bytecode.length) :
    t.Addressed := by
  have checked (f : Frame) (hf : f ∈ t.frames) : f.AddressIn 1 ∧ f.HandlersIn :=
    Frame.addressIn_of_check_true ((Snapshot.checks_of_thaw thawed).2 f hf)
  exact ⟨fun f hf => (checked f hf).2,
    fun f hf => ⟨(checked f (List.dropLast_subset _ hf)).1.1, callersIn f hf⟩,
    fun f hf => (checked f (mem_of_frame? hf)).1,
    fun hw f hf => ⟨(checked f (mem_of_frame? hf)).1.1, waitingIn hw f hf⟩⟩

namespace Addressed

theorem of_frames_eq (addressed : t.Addressed) (sameFrames : t'.frames = t.frames)
    (stillWaiting : t'.state = .waiting → t.state = .waiting) : t'.Addressed where
  handlers := sameFrames ▸ addressed.handlers
  callers := sameFrames ▸ addressed.callers
  current g hg := addressed.current g (by rwa [frame?, sameFrames] at hg)
  waiting hw g hg := addressed.waiting (stillWaiting hw) g (by rwa [frame?, sameFrames] at hg)

theorem pushComponent (addressed : t.Addressed) (v : Value) : (t.pushComponent v).Addressed :=
  addressed.of_frames_eq rfl fun hw => hw

theorem addressIn (addressed : t.Addressed) : ∀ g ∈ t.frames, g.AddressIn 1 := by
  intro g hg
  obtain ⟨below, f, hb⟩ := exists_frames_of_mem hg
  rw [hb, List.mem_append, List.mem_singleton] at hg
  rcases hg with hg | rfl
  · exact (addressed.callers g (by rw [hb, List.dropLast_concat]; exact hg)).mono (Nat.zero_le 1)
  · exact addressed.current g (frame?_eq_some.mpr ⟨below, hb⟩)

theorem modifyFrame (addressed : t.Addressed) (inFrame : t.frame? = some f) {g : Frame → Frame}
    (handlersIn : (g f).HandlersIn) (addressedAfter : (g f).AddressIn 1)
    (waitingIn : t.state = .waiting → (g f).AddressIn 0) : (t.modifyFrame g).Addressed := by
  obtain ⟨below, hb⟩ := frame?_eq_some.mp inFrame
  obtain ⟨handlers, callers, -, -⟩ := (addressed_iff_of_frames hb).mp addressed
  rw [modifyFrame_of_frames hb]
  refine (addressed_iff_of_frames rfl).mpr ⟨fun x hx => ?_, callers, addressedAfter, waitingIn⟩
  rcases List.mem_append.mp hx with hx | hx
  · exact handlers x (List.mem_append_left _ hx)
  · rw [List.mem_singleton.mp hx]
    exact handlersIn

theorem fetched (addressed : t.Addressed) (isActive : t.state = .active) (inFrame : t.frame? = some f)
    {w : Word} (peeked : f.peek? = some w) : t.Fetched where
  toAddressed := addressed
  active := isActive
  atInstruction g hg := by
    rw [inFrame] at hg
    cases hg
    exact Frame.addressIn_of_peek peeked

theorem consumeToken (addressed : t.Addressed) : t.consumeToken.Addressed := by
  unfold Task.consumeToken
  dsimp only
  split
  · exact addressed_of_frames_nil (frames_finish ..)
  · exact addressed.of_frames_eq rfl fun hw => hw

theorem exhaust (addressed : t.Addressed) : t.exhaust.Addressed := by
  unfold Task.exhaust
  split
  · exact addressed
  · exact addressed_of_frames_nil (frames_finish ..)

theorem resume (addressed : t.Addressed) (reply : Value) : (t.resume reply).1.Addressed := by
  unfold Task.resume
  cases hmove : t.moveTo .active with
  | error e => exact addressed
  | ok moved =>
      obtain ⟨hcan, rfl⟩ := moveTo_eq_ok.mp hmove
      have hwaiting : t.state = .waiting := by
        revert hcan
        cases t.state <;> simp [TaskState.canMoveTo]
      have resumed : ({ t with
          state := .active, wait := none, components := t.components ++ [reply] } : Task).Addressed :=
        addressed.of_frames_eq rfl fun hw => by cases hw
      dsimp only
      split
      · next f hf =>
          have hat : f.AddressIn 0 := addressed.waiting hwaiting f hf
          exact resumed.modifyFrame hf (addressed.handlers f (mem_of_frame? hf)) hat.advance
            fun hw => by cases hw
      · exact resumed

end Addressed

namespace Fetched

theorem of_frames_eq (fetched : t.Fetched) (sameFrames : t'.frames = t.frames)
    (isActive : t'.state = .active) : t'.Fetched where
  toAddressed := fetched.toAddressed.of_frames_eq sameFrames fun hw => by rw [isActive] at hw; cases hw
  active := isActive
  atInstruction g hg := fetched.atInstruction g (by rwa [frame?, sameFrames] at hg)

theorem pushComponent (fetched : t.Fetched) (v : Value) : (t.pushComponent v).Fetched :=
  fetched.of_frames_eq rfl fetched.active

theorem addressIn (fetched : t.Fetched) : ∀ g ∈ t.frames, g.AddressIn 0 := by
  intro g hg
  obtain ⟨below, f, hb⟩ := exists_frames_of_mem hg
  rw [hb, List.mem_append, List.mem_singleton] at hg
  rcases hg with hg | rfl
  · exact fetched.callers g (by rw [hb, List.dropLast_concat]; exact hg)
  · exact fetched.atInstruction g (frame?_eq_some.mpr ⟨below, hb⟩)

theorem modifyFrame (fetched : t.Fetched) (inFrame : t.frame? = some f) {g : Frame → Frame}
    (keepsHandlers : f.HandlersIn → (g f).HandlersIn) (sameCode : (g f).bytecode = f.bytecode)
    (sameAddress : (g f).address = f.address) : (t.modifyFrame g).Fetched := by
  have hat : (g f).AddressIn 0 := by
    unfold Frame.AddressIn
    rw [sameCode, sameAddress]
    exact fetched.atInstruction f inFrame
  refine ⟨fetched.toAddressed.modifyFrame inFrame (keepsHandlers (fetched.handlers f (mem_of_frame? inFrame)))
    (hat.mono (Nat.zero_le 1)) fun _ => hat,
    (modifyFrame_state t g).trans fetched.active, fun x hx => ?_⟩
  rw [frame?_modifyFrame inFrame] at hx
  cases hx
  exact hat

theorem advance (fetched : t.Fetched) (inFrame : t.frame? = some f) :
    (t.modifyFrame Frame.advance).Addressed :=
  fetched.toAddressed.modifyFrame inFrame (fetched.handlers f (mem_of_frame? inFrame)) (fetched.atInstruction f inFrame).advance
    fun hw => by rw [fetched.active] at hw; cases hw

theorem jump (fetched : t.Fetched) (inFrame : t.frame? = some f) {target : Nat}
    (inCode : target ≠ 0 ∧ target ≤ f.bytecode.length) :
    (t.modifyFrame (·.jumpTo target)).Addressed :=
  fetched.toAddressed.modifyFrame inFrame (fetched.handlers f (mem_of_frame? inFrame))
    ⟨inCode.1, Nat.le_succ_of_le inCode.2⟩ fun hw => by rw [fetched.active] at hw; cases hw

theorem call (fetched : t.Fetched) {g : Frame} (atStart : g.address = 1) (noHandlers : g.handlers = []) :
    ({ t with frames := t.frames ++ [g] } : Task).Addressed := by
  refine (addressed_iff_of_frames rfl).mpr ⟨fun x hx => ?_, fetched.addressIn, ?_, ?_⟩
  · rcases List.mem_append.mp hx with hx | hx
    · exact fetched.handlers x hx
    · rw [List.mem_singleton.mp hx]
      simp [Frame.HandlersIn, noHandlers]
  · exact ⟨by omega, by omega⟩
  · exact fun hw => absurd (fetched.active.symm.trans hw) (by decide)

theorem waitOn (fetched : t.Fetched) {bag : Name} (waited : t.waitOn bag = .ok t') : t'.Addressed := by
  unfold Task.waitOn moveTo at waited
  rw [if_pos (by simp [fetched.active, TaskState.canMoveTo])] at waited
  simp only [Except.map, Except.ok.injEq] at waited
  subst waited
  exact ⟨fetched.handlers, fetched.callers, fun g hg => (fetched.atInstruction g hg).mono (Nat.zero_le 1),
    fun _ => fetched.atInstruction⟩

theorem dropFrame (fetched : t.Fetched) (f : Frame) : (t.dropFrame f).Fetched := by
  have hsub : ∀ x ∈ (t.dropFrame f).frames, x ∈ t.frames.dropLast := fun x hx => hx
  have hat : ∀ x, (t.dropFrame f).frame? = some x → x.AddressIn 0 := fun x hx =>
    fetched.callers x (hsub x (mem_of_frame? hx))
  refine ⟨⟨fun x hx => fetched.handlers x (List.dropLast_subset _ (hsub x hx)),
    fun x hx => fetched.callers x (List.dropLast_subset _ hx), fun x hx => (hat x hx).mono
      (Nat.zero_le 1), fun _ => hat⟩, fetched.active, hat⟩

theorem unwind (fetched : t.Fetched) {e : Value} (unwinds : t.Unwind e t') : t'.Addressed := by
  cases unwinds with
  | caught below k above a hsplit hk _ =>
      have hkin : k ∈ t.frames := by rw [hsplit]; simp
      have ha : a ≠ 0 ∧ a ≤ k.bytecode.length :=
        fetched.handlers k hkin a (List.mem_of_getLast? hk)
      refine (addressed_iff_of_frames rfl).mpr ⟨fun x hx => ?_, fun x hx => ?_, ?_, ?_⟩
      · rcases List.mem_append.mp hx with hx | hx
        · exact fetched.handlers x (by rw [hsplit]; simp [hx])
        · rw [List.mem_singleton.mp hx]
          exact (fetched.handlers k hkin).dropLast
      · exact fetched.addressIn x (by rw [hsplit]; simp [hx])
      · exact ⟨ha.1, Nat.le_succ_of_le ha.2⟩
      · exact fun hw => absurd (fetched.active.symm.trans hw) (by decide)
  | uncaught => exact addressed_of_frames_nil rfl

end Fetched

theorem Addressed.thaw_freeze (addressed : t.Addressed) (sound : t.Sound)
    (fits : t.FitsSnapshot) : t.freeze.thaw false = .ok t := by
  rw [thaw_freeze_of_fits sound fits false, Frame.forM_check_false addressed.addressIn]
  rfl

end Task

end TaskMachine
