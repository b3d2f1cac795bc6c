import Mathlib
import TaskMachine.Proofs.Task.Lifecycle

/-! # Inside a call

A send starts a frame over the components it leaves, and until that frame returns the task
runs inside the call: the frames below it and the components under it stay as they were.
`Task.InCall s u` says that the task `u` is still inside the call current in `s`, with the
identity of `s`; `CallFrames n` describes the frames of a call over `n` components.

Every change an instruction or the processor makes keeps a task inside the call or takes it
out (`Task.LeftCall`: no more frames than the ones below the call).  Pops stop at the
current frame's base, and a frame dropped by a return or an exception takes with it only
components above its own base, which is never below the call's. -/

set_option autoImplicit false

namespace TaskMachine

/-- The frames of a call over `n` components: the callee's own, based at `n`, then frames
based no lower. -/
def CallFrames (n : Nat) : List Frame → Prop
  | [] => False
  | g :: rest => g.base = n ∧ ∀ h ∈ rest, n ≤ h.base

namespace CallFrames

variable {n : Nat} {frames : List Frame} {f : Frame}

theorem ne_nil (calls : CallFrames n frames) : frames ≠ [] := by
  rintro rfl
  exact calls

theorem le_base (calls : CallFrames n frames) : ∀ f ∈ frames, n ≤ f.base := by
  cases frames with
  | nil => exact calls.elim
  | cons g rest =>
      obtain ⟨hg, hrest⟩ := calls
      intro f hf
      rcases List.mem_cons.mp hf with rfl | hf
      · exact hg.ge
      · exact hrest f hf

theorem concat (calls : CallFrames n frames) (aboveBase : n ≤ f.base) : CallFrames n (frames ++ [f]) := by
  cases frames with
  | nil => exact calls.elim
  | cons g rest =>
      obtain ⟨hg, hrest⟩ := calls
      refine ⟨hg, fun k hk => ?_⟩
      rcases List.mem_append.mp hk with hk | hk
      · exact hrest k hk
      · rw [List.mem_singleton.mp hk]
        exact aboveBase

theorem cut {mid above : List Frame} {k k' : Frame} (calls : CallFrames n (mid ++ k :: above))
    (sameBase : k'.base = k.base) : CallFrames n (mid ++ [k']) := by
  cases mid with
  | nil => exact ⟨sameBase.trans calls.1, by simp⟩
  | cons g mid =>
      obtain ⟨hg, hrest⟩ := calls
      refine ⟨hg, fun j hj => ?_⟩
      rcases List.mem_append.mp hj with hj | hj
      · exact hrest j (List.mem_append_left _ hj)
      · rw [List.mem_singleton.mp hj, sameBase]
        exact hrest k (by simp)

theorem dropLast (calls : CallFrames n (frames ++ [f])) (nonempty : frames ≠ []) : CallFrames n frames := by
  cases frames with
  | nil => exact absurd rfl nonempty
  | cons g rest => exact ⟨calls.1, fun k hk => calls.2 k (List.mem_append_left _ hk)⟩

end CallFrames

namespace Task

/-- The task `u` runs inside the call current in `s`: it has the identity of `s`, the frames
below the current one of `s`, then the frames of a call over the components of `s`, and
those components at the bottom of its own. -/
structure InCall (s u : Task) : Prop where
  id_eq : u.id = s.id
  account_eq : u.account = s.account
  budget_eq : u.budget = s.budget
  replyTo_eq : u.replyTo = s.replyTo
  frames_eq : ∃ above, u.frames = s.frames.dropLast ++ above ∧
    CallFrames s.components.length above
  components_eq : ∃ above, u.components = s.components ++ above

/-- The task `u` has left the call current in `s`: it has no more frames than the ones
below the call. -/
def LeftCall (s u : Task) : Prop :=
  u.frames.length ≤ s.frames.length - 1

theorem leftCall_of_frames_nil {s u : Task} (noFrames : u.frames = []) : s.LeftCall u := by
  simp [LeftCall, noFrames]

theorem leftCall_finish {s u : Task} (state : TaskState) (v : Value) :
    s.LeftCall (u.finish state v) :=
  leftCall_of_frames_nil (frames_finish u state v)

theorem leftCall_of_moveTo_finish {s u u' : Task} {state : TaskState} {v : Value}
    (moved : (u.moveTo state).map (fun t => t.finish state v) = .ok u') : s.LeftCall u' :=
  leftCall_of_frames_nil (frames_of_moveTo_finish moved)

theorem inCall_self {s : Task} {g : Frame} (inFrame : s.frame? = some g)
    (atTop : g.base = s.components.length) : s.InCall s := by
  obtain ⟨below, hb⟩ := frame?_eq_some.mp inFrame
  refine ⟨rfl, rfl, rfl, rfl, ⟨[g], ?_, atTop, by simp⟩, [], by simp⟩
  rw [hb, List.dropLast_concat]

namespace InCall

variable {s u : Task} {f : Frame}

theorem eq_of_stacks (inCall : s.InCall u) (sameState : u.state = s.state) (sameWait : u.wait = s.wait)
    (sameResult : u.result = s.result) (sameException : u.exception = s.exception) :
    u = { s with frames := u.frames, components := u.components, tokens := u.tokens } := by
  obtain ⟨hid, haccount, hbudget, hreplyTo, -, -⟩ := inCall
  cases u
  cases s
  simp_all

theorem callee_only (inCall : s.InCall u) (nonempty : s.frames ≠ [])
    (sameDepth : u.frames.length = s.frames.length) :
    ∃ g, u.frames = s.frames.dropLast ++ [g] ∧ g.base = s.components.length := by
  obtain ⟨above, hframes, hcall⟩ := inCall.frames_eq
  have hone : above.length = 1 := by
    have hsum := congrArg List.length hframes
    have hpos : s.frames.length ≠ 0 := by simpa using nonempty
    rw [List.length_append, List.length_dropLast, sameDepth] at hsum
    omega
  obtain ⟨g, rfl⟩ := List.length_eq_one_iff.mp hone
  exact ⟨g, hframes, hcall.1⟩

theorem of_same (inCall : s.InCall u) {u' : Task} (sameId : u'.id = u.id) (sameAccount : u'.account = u.account)
    (sameBudget : u'.budget = u.budget) (sameReply : u'.replyTo = u.replyTo) (sameFrames : u'.frames = u.frames)
    (sameComponents : u'.components = u.components) : s.InCall u' :=
  ⟨sameId.trans inCall.id_eq, sameAccount.trans inCall.account_eq, sameBudget.trans inCall.budget_eq, sameReply.trans inCall.replyTo_eq,
    sameFrames ▸ inCall.frames_eq, sameComponents ▸ inCall.components_eq⟩

theorem le_base (inCall : s.InCall u) (inFrame : u.frame? = some f) : s.components.length ≤ f.base := by
  obtain ⟨above, hframes, hcall⟩ := inCall.frames_eq
  have hlast : above.getLast? = some f := by
    rw [← List.getLast?_append_of_ne_nil s.frames.dropLast hcall.ne_nil, ← hframes]
    exact inFrame
  exact hcall.le_base f (List.mem_of_getLast? hlast)

theorem exists_frame (inCall : s.InCall u) : ∃ f, u.frame? = some f := by
  obtain ⟨above, hframes, hcall⟩ := inCall.frames_eq
  obtain ⟨f, hf⟩ := Option.ne_none_iff_exists'.mp (mt List.getLast?_eq_none_iff.mp hcall.ne_nil)
  refine ⟨f, ?_⟩
  rw [frame?, hframes, List.getLast?_append_of_ne_nil _ hcall.ne_nil]
  exact hf

theorem pushComponent (inCall : s.InCall u) (v : Value) : s.InCall (u.pushComponent v) := by
  obtain ⟨above, hc⟩ := inCall.components_eq
  refine ⟨inCall.id_eq, inCall.account_eq, inCall.budget_eq, inCall.replyTo_eq, inCall.frames_eq, above ++ [v], ?_⟩
  simp [Task.pushComponent, hc]

theorem popComponent (inCall : s.InCall u) (inFrame : u.frame? = some f)
    (aboveBase : f.base < u.components.length) :
    s.InCall { u with components := u.components.dropLast } := by
  obtain ⟨above, hc⟩ := inCall.components_eq
  have hbase := inCall.le_base inFrame
  have hne : above ≠ [] := by
    rintro rfl
    rw [hc, List.append_nil] at aboveBase
    omega
  refine ⟨inCall.id_eq, inCall.account_eq, inCall.budget_eq, inCall.replyTo_eq, inCall.frames_eq, above.dropLast, ?_⟩
  simp only [hc, List.dropLast_append_of_ne_nil hne]

theorem modifyFrame (inCall : s.InCall u) (inFrame : u.frame? = some f) {g : Frame → Frame}
    (keepsBase : (g f).base = f.base) : s.InCall (u.modifyFrame g) := by
  obtain ⟨above, hframes, hcall⟩ := inCall.frames_eq
  obtain ⟨mid, hmid⟩ : ∃ mid, above = mid ++ [f] := by
    apply List.getLast?_eq_some_iff.mp
    rw [← List.getLast?_append_of_ne_nil s.frames.dropLast hcall.ne_nil, ← hframes]
    exact inFrame
  have hlast : u.frames = (s.frames.dropLast ++ mid) ++ [f] := by
    rw [hframes, hmid, List.append_assoc]
  rw [hmid] at hcall
  refine ⟨by simp [inCall.id_eq], by simp [inCall.account_eq], by simp [inCall.budget_eq],
    by simp [inCall.replyTo_eq], ⟨mid ++ [g f], ?_, hcall.cut keepsBase⟩, by simpa using inCall.components_eq⟩
  rw [modifyFrame_of_frames hlast, List.append_assoc]

theorem call (inCall : s.InCall u) (atTop : f.base = u.components.length) :
    s.InCall { u with frames := u.frames ++ [f] } := by
  obtain ⟨above, hframes, hcall⟩ := inCall.frames_eq
  obtain ⟨top, hc⟩ := inCall.components_eq
  have hle : s.components.length ≤ f.base := by
    rw [atTop, hc, List.length_append]
    omega
  refine ⟨inCall.id_eq, inCall.account_eq, inCall.budget_eq, inCall.replyTo_eq, ⟨above ++ [f], ?_, hcall.concat hle⟩,
    inCall.components_eq⟩
  simp [hframes]

theorem dropFrame (inCall : s.InCall u) (inFrame : u.frame? = some f) :
    s.InCall (u.dropFrame f) ∨ s.LeftCall (u.dropFrame f) := by
  obtain ⟨above, hframes, hcall⟩ := inCall.frames_eq
  obtain ⟨top, hc⟩ := inCall.components_eq
  have hbase := inCall.le_base inFrame
  obtain ⟨mid, hmid⟩ : ∃ mid, above = mid ++ [f] := by
    apply List.getLast?_eq_some_iff.mp
    rw [← List.getLast?_append_of_ne_nil s.frames.dropLast hcall.ne_nil, ← hframes]
    exact inFrame
  have hdrop : (u.dropFrame f).frames = s.frames.dropLast ++ mid := by
    rw [dropFrame_frames, hframes, hmid, ← List.append_assoc, List.dropLast_concat]
  by_cases hne : mid = []
  · -- the callee's frame itself: back to the frames below the call
    right
    unfold LeftCall
    rw [hdrop, hne, List.append_nil, List.length_dropLast]
  · left
    rw [hmid] at hcall
    refine ⟨inCall.id_eq, inCall.account_eq, inCall.budget_eq, inCall.replyTo_eq, ⟨mid, hdrop, hcall.dropLast hne⟩,
      top.take (f.base - s.components.length), ?_⟩
    rw [dropFrame_components, hc, List.take_append, List.take_of_length_le hbase]

theorem waitOn (inCall : s.InCall u) {bag : Name} {u' : Task} (waited : u.waitOn bag = .ok u') :
    s.InCall u' := by
  unfold Task.waitOn at waited
  cases hmove : u.moveTo .waiting with
  | error e =>
      rw [hmove] at waited
      cases waited
  | ok moved =>
      rw [hmove] at waited
      obtain ⟨-, rfl⟩ := moveTo_eq_ok.mp hmove
      simp only [Except.map, Except.ok.injEq] at waited
      subst waited
      exact inCall.of_same rfl rfl rfl rfl rfl rfl

theorem unwind (inCall : s.InCall u) {e : Value} {u' : Task} (unwinds : u.Unwind e u') :
    s.InCall u' ∨ s.LeftCall u' := by
  cases unwinds with
  | uncaught _ =>
      right
      exact leftCall_of_frames_nil rfl
  | caught below k above addr hsplit _ _ =>
      obtain ⟨callFrames, hframes, hcall⟩ := inCall.frames_eq
      obtain ⟨top, hc⟩ := inCall.components_eq
      rw [hframes] at hsplit
      have inside : ∀ mid, below = s.frames.dropLast ++ mid → callFrames = mid ++ k :: above →
          s.InCall { u with
            frames := below ++ [{ k with handlers := k.handlers.dropLast, address := addr }]
            components := u.components.take k.base ++ [e] } := by
        intro mid hbelow hmid
        have hbase : s.components.length ≤ k.base := hcall.le_base k (by simp [hmid])
        rw [hmid] at hcall
        refine ⟨inCall.id_eq, inCall.account_eq, inCall.budget_eq, inCall.replyTo_eq,
          ⟨mid ++ [{ k with handlers := k.handlers.dropLast, address := addr }], ?_,
            hcall.cut rfl⟩,
          top.take (k.base - s.components.length) ++ [e], ?_⟩
        · simp [hbelow]
        · simp only [hc, List.take_append, List.take_of_length_le hbase, List.append_assoc]
      rcases List.append_eq_append_iff.mp hsplit with ⟨mid, hbelow, hmid⟩ | ⟨mid, hD, hka⟩
      · exact .inl (inside mid hbelow hmid)
      · cases mid with
        | nil => exact .inl (inside [] (by simpa using hD.symm) (by simpa using hka.symm))
        | cons k' mid =>
            right
            have hlen : s.frames.dropLast.length = below.length + 1 + mid.length := by
              rw [hD]
              simp only [List.length_append, List.length_cons]
              omega
            unfold LeftCall
            rw [List.length_dropLast] at hlen
            simp only [List.length_append, List.length_singleton]
            omega

theorem consumeToken (inCall : s.InCall u) : s.InCall u.consumeToken ∨ s.LeftCall u.consumeToken := by
  unfold Task.consumeToken
  dsimp only
  split
  · exact .inr (leftCall_finish _ _)
  · exact .inl (inCall.of_same rfl rfl rfl rfl rfl rfl)

theorem exhaust (inCall : s.InCall u) : s.InCall u.exhaust ∨ s.LeftCall u.exhaust := by
  unfold Task.exhaust
  split
  · exact .inl inCall
  · exact .inr (leftCall_finish _ _)

theorem resume (inCall : s.InCall u) (reply : Value) : s.InCall (u.resume reply).1 := by
  unfold Task.resume
  cases hmove : u.moveTo .active with
  | error e => exact inCall
  | ok moved =>
      obtain ⟨-, rfl⟩ := moveTo_eq_ok.mp hmove
      have pushed : s.InCall { u with
          state := .active, wait := none, components := u.components ++ [reply] } :=
        (inCall.pushComponent reply).of_same rfl rfl rfl rfl rfl rfl
      dsimp only
      split
      · next f hf => exact pushed.modifyFrame hf rfl
      · exact pushed

end InCall

namespace LeftCall

variable {s u : Task}

theorem modifyFrame (left : s.LeftCall u) (g : Frame → Frame) : s.LeftCall (u.modifyFrame g) := by
  unfold LeftCall at left ⊢
  rwa [length_modifyFrame]

theorem pushComponent (left : s.LeftCall u) (v : Value) : s.LeftCall (u.pushComponent v) := left

theorem consumeToken (left : s.LeftCall u) : s.LeftCall u.consumeToken := by
  unfold Task.consumeToken
  dsimp only
  split
  · exact leftCall_finish _ _
  · exact left

end LeftCall

end Task

end TaskMachine
