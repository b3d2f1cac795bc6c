import Mathlib
import TaskMachine.Proofs.Task.Stacks

/-! # The lifecycle of a task

A task's state says what its stacks and its outcome are (`Task.Lifecycle`): an active or a
waiting task has frames and no outcome, and only a waiting one a wait; a finished task has
empty stacks, no wait and exactly the outcome of its state.  `Task.Sound` adds that no more
tokens are left than the budget and that the frames are stacked; it is what thawing a
snapshot checks before its frames (`fitsState_iff`, `firstBadBase_eq_none_iff`).
`Task.Live` is a sound task that is active, the kind an instruction runs in.

Each task operation keeps soundness under the guard the code puts on it.  The ones an
instruction makes from a live task are stated for `Live`, the others for `Sound`.
`thaw_freeze_of_sound` says that a sound task's snapshot is thawed after checking nothing
but its frames, and `sound_of_thaw` that a snapshot that thaws gives a sound task. -/

set_option autoImplicit false

namespace TaskMachine

namespace Task

/-- What a task's state says about its stacks, its wait and its outcome. -/
def Lifecycle (t : Task) : Prop :=
  match t.state with
  | .active => t.frames ≠ [] ∧ t.wait = none ∧ t.result = none ∧ t.exception = none
  | .waiting => t.frames ≠ [] ∧ t.wait ≠ none ∧ t.result = none ∧ t.exception = none
  | .completed =>
    t.frames = [] ∧ t.components = [] ∧ t.wait = none ∧ t.result ≠ none ∧ t.exception = none
  | .abandoned =>
    t.frames = [] ∧ t.components = [] ∧ t.wait = none ∧ t.result = none ∧ t.exception ≠ none

/-- The lifecycle, the token count and the frame bases of a task: what a snapshot must
satisfy before its frames are looked at. -/
structure Sound (t : Task) : Prop where
  lifecycle : t.Lifecycle
  tokens_le : t.tokens ≤ t.budget
  stacked : Stacked t.frames t.components

structure Live (t : Task) : Prop extends Sound t where
  active : t.state = .active

variable {t t' : Task} {f g : Frame}

theorem fitsState_iff (t : Task) : t.fitsState = true ↔ t.Lifecycle := by
  unfold fitsState Lifecycle
  cases t.state <;>
    simp [List.isEmpty_iff, Option.isNone_iff_eq_none, Option.isSome_iff_ne_none, and_assoc]

theorem lifecycle_of_active (active : t.state = .active) :
    t.Lifecycle ↔ t.frames ≠ [] ∧ t.wait = none ∧ t.result = none ∧ t.exception = none := by
  simp only [Lifecycle, active]

theorem Sound.finish_abandoned (withinBudget : t.tokens ≤ t.budget) (v : Value) :
    (t.finish .abandoned v).Sound :=
  ⟨by simp [Lifecycle, finish], withinBudget, Stacked.nil []⟩

theorem Sound.finish_completed (withinBudget : t.tokens ≤ t.budget) (noException : t.exception = none)
    (v : Value) : (t.finish .completed v).Sound :=
  ⟨by simp [Lifecycle, finish, noException], withinBudget, Stacked.nil []⟩

theorem Sound.of_abandon (withinBudget : t.tokens ≤ t.budget) {v : Value} (abandoned : t.abandon v = .ok t') :
    t'.Sound := by
  unfold abandon moveTo at abandoned
  split at abandoned
  · simp only [Except.map, Except.ok.injEq] at abandoned
    exact abandoned ▸ Sound.finish_abandoned withinBudget v
  · cases abandoned

theorem Sound.of_complete (withinBudget : t.tokens ≤ t.budget) (noException : t.exception = none) {v : Value}
    (completed : t.complete v = .ok t') : t'.Sound := by
  unfold complete moveTo at completed
  split at completed
  · simp only [Except.map, Except.ok.injEq] at completed
    exact completed ▸ Sound.finish_completed withinBudget noException v
  · cases completed

theorem complete_ne_error (active : t.state = .active) (v : Value) (e : ExecutionError) :
    t.complete v ≠ .error e := by
  simp [complete, moveTo, active, TaskState.canMoveTo, Except.map]

theorem Sound.exhaust (sound : t.Sound) : t.exhaust.Sound := by
  unfold Task.exhaust
  split
  · exact sound
  · exact Sound.finish_abandoned sound.tokens_le _

theorem Sound.consumeToken (sound : t.Sound) : t.consumeToken.Sound := by
  have spent : ({ t with tokens := t.tokens - 1 } : Task).Sound :=
    ⟨sound.lifecycle, Nat.le_trans (Nat.sub_le _ _) sound.tokens_le, sound.stacked⟩
  unfold Task.consumeToken
  dsimp only
  split
  · exact Sound.finish_abandoned spent.tokens_le _
  · exact spent

theorem sound_start {id : TaskId} {account : Name} {tokens : Nat} (atBottom : f.base = 0) :
    (Task.start id account tokens f).Sound := by
  refine ⟨by simp [Lifecycle, start], Nat.le_refl _, ⟨by simp [start], ?_⟩⟩
  simp [start, atBottom]

namespace Live

theorem idle (live : t.Live) :
    t.frames ≠ [] ∧ t.wait = none ∧ t.result = none ∧ t.exception = none :=
  (lifecycle_of_active live.active).mp live.lifecycle

theorem exists_frame (live : t.Live) : ∃ f, t.frame? = some f := by
  obtain ⟨f, hf⟩ := Option.ne_none_iff_exists'.mp (mt List.getLast?_eq_none_iff.mp live.idle.1)
  exact ⟨f, hf⟩

theorem withStacks (live : t.Live) {frames : List Frame} {components : List Value}
    (nonempty : frames ≠ []) (stacked : Stacked frames components) :
    ({ t with frames, components } : Task).Live := by
  have ⟨_, hw, hr, he⟩ := live.idle
  exact ⟨⟨by simp [Lifecycle, live.active, nonempty, hw, hr, he], live.tokens_le, stacked⟩, live.active⟩

theorem modifyFrame (live : t.Live) (inFrame : t.frame? = some f) {g : Frame → Frame}
    (keepsBase : (g f).base = f.base) : (t.modifyFrame g).Live := by
  obtain ⟨below, hb⟩ := frame?_eq_some.mp inFrame
  have hs := live.stacked
  rw [hb] at hs
  rw [modifyFrame_of_frames hb]
  exact live.withStacks (by simp) (hs.replaceLast keepsBase)

theorem pushComponent (live : t.Live) (v : Value) : (t.pushComponent v).Live :=
  live.withStacks live.idle.1 (live.stacked.push v)

theorem popComponent (live : t.Live) (inFrame : t.frame? = some f)
    (aboveBase : f.base < t.components.length) :
    ({ t with components := t.components.dropLast } : Task).Live := by
  obtain ⟨below, hb⟩ := frame?_eq_some.mp inFrame
  have hs := live.stacked
  rw [hb] at hs
  refine live.withStacks live.idle.1 ?_
  rw [hb]
  exact hs.pop aboveBase

theorem call (live : t.Live) (atTop : g.base = t.components.length) :
    ({ t with frames := t.frames ++ [g] } : Task).Live :=
  live.withStacks (by simp) (live.stacked.call atTop)

theorem dropFrame (live : t.Live) (inFrame : t.frame? = some f)
    (caller : (t.dropFrame f).frame? = some g) : (t.dropFrame f).Live := by
  obtain ⟨below, hb⟩ := frame?_eq_some.mp inFrame
  have hs := live.stacked
  rw [hb] at hs
  have hne : t.frames.dropLast ≠ [] := by
    intro hnil
    simp [frame?, hnil] at caller
  refine live.withStacks hne ?_
  rw [hb, List.dropLast_concat]
  exact hs.drop

theorem complete (live : t.Live) {v : Value} (completed : (t.dropFrame f).complete v = .ok t') :
    t'.Sound :=
  @Sound.of_complete (t.dropFrame f) t' live.tokens_le live.idle.2.2.2 v completed

theorem dropFrame_complete_ne_error (live : t.Live) (v : Value) (e : ExecutionError) :
    (t.dropFrame f).complete v ≠ .error e :=
  @complete_ne_error (t.dropFrame f) live.active v e

theorem waitOn (live : t.Live) {bag : Name} (waited : t.waitOn bag = .ok t') : t'.Sound := by
  unfold Task.waitOn moveTo at waited
  rw [if_pos (by simp [live.active, TaskState.canMoveTo])] at waited
  simp only [Except.map, Except.ok.injEq] at waited
  subst waited
  obtain ⟨hne, _, hr, he⟩ := live.idle
  exact ⟨by simp [Lifecycle, hne, hr, he], live.tokens_le, live.stacked⟩

theorem unwind_raise (live : t.Live) (e : Value) :
    t.Unwind e (t.raise e).1 ∧ (t.raise e).2 = none :=
  Task.unwind_raise live.stacked (by simp [live.active, TaskState.canMoveTo]) e

theorem raise (live : t.Live) (e : Value) : (t.raise e).1.Sound := by
  have unwind := (live.unwind_raise e).1
  generalize (t.raise e).1 = t' at unwind
  cases unwind with
  | caught below k above _ hsplit _ _ =>
      have hs := live.stacked
      rw [hsplit] at hs
      refine (live.withStacks (by simp) (hs.caught ?_ e)).toSound
      rfl
  | uncaught => exact ⟨by simp [Lifecycle], live.tokens_le, Stacked.nil []⟩

end Live

theorem Sound.resume (sound : t.Sound) (reply : Value) : (t.resume reply).1.Sound := by
  unfold Task.resume
  cases hmove : t.moveTo .active with
  | error e => exact sound
  | ok moved =>
      obtain ⟨hcan, rfl⟩ := moveTo_eq_ok.mp hmove
      have hwaiting : t.state = .waiting := by
        revert hcan
        cases t.state <;> simp [TaskState.canMoveTo]
      obtain ⟨hne, _, hr, he⟩ : t.frames ≠ [] ∧ t.wait ≠ none ∧ t.result = none ∧
          t.exception = none := by
        simpa only [Lifecycle, hwaiting] using sound.lifecycle
      have live : ({ t with
          state := .active, wait := none, components := t.components ++ [reply] } : Task).Live :=
        ⟨⟨by simp [Lifecycle, hne, hr, he], sound.tokens_le, sound.stacked.push reply⟩, rfl⟩
      dsimp only
      split
      · next f hf => exact (live.modifyFrame hf rfl).toSound
      · exact live.toSound

end Task

/-! ## Thawing -/

theorem firstBadBase_eq_none_iff (height previous : Nat) (frames : List Frame) :
    firstBadBase height previous frames = none ↔
      (previous :: frames.map Frame.base).Pairwise (· ≤ ·) ∧
        ∀ f ∈ frames, f.base ≤ height := by
  induction frames generalizing previous with
  | nil => simp [firstBadBase]
  | cons f rest ih =>
      rw [List.map_cons, List.pairwise_cons_cons_iff_of_trans, List.forall_mem_cons]
      simp only [firstBadBase, Bool.or_eq_true, decide_eq_true_eq]
      split
      · next bad =>
          simp only [reduceCtorEq, false_iff]
          rintro ⟨⟨hprev, -⟩, hheight, -⟩
          omega
      · next good =>
          rw [ih]
          constructor
          · rintro ⟨hs, hle⟩
            exact ⟨⟨by omega, hs⟩, by omega, hle⟩
          · rintro ⟨⟨-, hs⟩, -, hle⟩
            exact ⟨hs, hle⟩

theorem firstBadBase_zero_eq_none_iff (frames : List Frame) (components : List Value) :
    firstBadBase components.length 0 frames = none ↔ Stacked frames components := by
  rw [firstBadBase_eq_none_iff]
  constructor
  · rintro ⟨hs, hle⟩
    exact ⟨(List.pairwise_cons.mp hs).2, hle⟩
  · rintro ⟨hs, hle⟩
    exact ⟨List.pairwise_cons.mpr ⟨by simp, hs⟩, hle⟩

namespace Task

theorem fitsState_narrow (t : Task) : t.narrow.fitsState = t.fitsState := by
  simp [fitsState, narrow]

theorem stacked_narrow {t : Task} (stacked : Stacked t.frames t.components)
    (bases : ∀ f ∈ t.frames, f.base < 2 ^ 32) : Stacked t.narrow.frames t.narrow.components := by
  have same : t.narrow.frames.map Frame.base = t.frames.map Frame.base := by
    rw [narrow, List.map_map]
    refine List.map_congr_left fun f member => ?_
    simpa [Frame.narrow] using Nat.mod_eq_of_lt (bases f member)
  refine ⟨same ▸ stacked.sorted, fun g member => ?_⟩
  obtain ⟨f, original, rfl⟩ := List.mem_map.mp member
  simpa [Frame.narrow, narrow] using (Nat.mod_le _ _).trans (stacked.le_length f original)

theorem thawFrames_of_stacked {t : Task} (stacked : Stacked t.frames t.components)
    (validate : Bool) :
    t.thawFrames validate = (t.frames.forM fun f => f.check validate).map fun _ => t := by
  unfold thawFrames
  rw [(firstBadBase_zero_eq_none_iff _ _).mpr stacked]
  cases t.frames.forM fun f => f.check validate <;> rfl

theorem of_thawFrames {t t' : Task} {validate : Bool} (thawed : t.thawFrames validate = .ok t') :
    t' = t ∧ Stacked t.frames t.components ∧
      (t.frames.forM fun f => f.check validate) = .ok () := by
  unfold thawFrames at thawed
  split at thawed
  · cases thawed
  · next bases =>
    cases checked : t.frames.forM fun f => f.check validate <;> rw [checked] at thawed <;>
      cases thawed
    exact ⟨rfl, (firstBadBase_zero_eq_none_iff _ _).mp bases, rfl⟩

end Task

theorem thaw_freeze_of_sound {t : Task} (sound : t.Sound) (validate : Bool) :
    t.freeze.thaw validate = t.narrow.thawFrames validate := by
  have lifecycle : t.narrow.fitsState = true := by
    rw [Task.fitsState_narrow, Task.fitsState_iff]
    exact sound.lifecycle
  have tokens : ¬t.narrow.budget < t.narrow.tokens := Nat.not_lt.mpr sound.tokens_le
  unfold Snapshot.thaw
  dsimp only [Task.freeze_task]
  rw [if_neg (not_not_intro (Task.freeze_version t)), if_neg tokens, lifecycle]
  rfl

theorem thaw_freeze_of_bases_fit {t : Task} (sound : t.Sound)
    (bases : ∀ f ∈ t.frames, f.base < 2 ^ 32) (validate : Bool) :
    t.freeze.thaw validate =
      (t.narrow.frames.forM fun f => f.check validate).map fun _ => t.narrow := by
  rw [thaw_freeze_of_sound sound, Task.thawFrames_of_stacked (Task.stacked_narrow sound.stacked bases)]

theorem thaw_freeze_of_fits {t : Task} (sound : t.Sound) (fits : t.FitsSnapshot)
    (validate : Bool) :
    t.freeze.thaw validate = (t.frames.forM fun f => f.check validate).map fun _ => t := by
  rw [thaw_freeze_of_sound sound, Task.narrow_of_fits fits,
    Task.thawFrames_of_stacked sound.stacked]

theorem Snapshot.of_thaw {s : Snapshot} {validate : Bool} {t : Task}
    (thawed : s.thaw validate = .ok t) :
    s.version = snapshotVersion ∧ s.task.tokens ≤ s.task.budget ∧ s.task.Lifecycle ∧
      s.task.thawFrames validate = .ok t := by
  unfold Snapshot.thaw at thawed
  dsimp only at thawed
  split at thawed
  · cases thawed
  rename_i version
  split at thawed
  · cases thawed
  rename_i tokens
  split at thawed
  · cases thawed
  rename_i lifecycle
  exact ⟨not_not.mp version, Nat.not_lt.mp tokens,
    (Task.fitsState_iff _).mp (by simpa using lifecycle), thawed⟩

theorem Snapshot.sound_of_thaw {s : Snapshot} {validate : Bool} {t : Task}
    (thawed : s.thaw validate = .ok t) : t.Sound := by
  obtain ⟨-, tokens, lifecycle, frames⟩ := Snapshot.of_thaw thawed
  obtain ⟨rfl, stacked, -⟩ := Task.of_thawFrames frames
  exact ⟨lifecycle, tokens, stacked⟩

end TaskMachine
