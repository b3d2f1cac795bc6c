import Mathlib
import TaskMachine.Proofs.Machine.Discipline

/-! # The call stack and the component stack of a task

What the task operations do to the two stacks, stated once so that the invariants never
unfold them: changing the current frame, popping a component, dropping a frame, and moving
between states.  Most are read off the definitions.

The one with an argument is unwinding.  `Task.raise` walks the frames from the current one
outwards, cutting the components to each frame's base, until a frame has a handler.
`raise_of_handler` and `raise_of_no_handler` give the task it ends with in closed form:
the frames below the catching frame are untouched, the components are cut to the catching
frame's base (the frames above it start no lower, so their cuts leave nothing else), and
the exception is on top; with no handler anywhere the task is abandoned with empty stacks.
`exists_innermost_handler` says that one of the two cases always applies, and
`unwind_raise` puts them together: a task with stacked frames that may be abandoned raises as
`Task.Unwind` says, the relation that reads the outcome off the frames, and never faults. -/

set_option autoImplicit false

namespace TaskMachine

namespace Frame

theorem popHandler_eq_ok {f g : Frame} {h : Nat} :
    f.popHandler = .ok (h, g) ↔
      f.handlers.getLast? = some h ∧ g = { f with handlers := f.handlers.dropLast } := by
  unfold popHandler
  split <;> simp_all [eq_comm]

theorem base_of_popHandler {f g : Frame} {h : Nat} (popped : f.popHandler = .ok (h, g)) :
    g.base = f.base := by
  rw [(popHandler_eq_ok.mp popped).2]

theorem setVariable_eq_ok {f g : Frame} {i : Nat} {v : Value} (set : f.setVariable i v = .ok g) :
    g = { f with locals := f.locals.modify (i - 1) fun e => (e.1, v) } := by
  unfold setVariable at set
  split at set
  · cases set
    rfl
  · cases set

theorem base_of_setVariable {f g : Frame} {i : Nat} {v : Value}
    (set : f.setVariable i v = .ok g) : g.base = f.base := by
  rw [setVariable_eq_ok set]

theorem activate_eq_ok {t : CompiledType} {target : Value} {message : Symbol}
    {arguments : List Value} {base : Nat} {f : Frame}
    (activated : activate t target message arguments base = .ok f) :
    ∃ method, t.method? message = some method ∧
      arguments.length ≤ method.parameters.length ∧ f.target = target ∧ f.message = message ∧
      f.arguments =
        arguments ++ List.replicate (method.parameters.length - arguments.length) .none ∧
      f.base = base ∧ f.handlers = [] ∧ f.address = 1 := by
  unfold activate at activated
  split at activated
  · cases activated
  · next method hmethod =>
      split at activated
      · cases activated
      · next hfit =>
          cases activated
          exact ⟨method, hmethod, Nat.le_of_not_lt hfit, rfl, rfl, rfl, rfl, rfl, rfl⟩

theorem base_of_activate {t : CompiledType} {target : Value} {message : Symbol}
    {arguments : List Value} {base : Nat} {f : Frame}
    (activated : activate t target message arguments base = .ok f) : f.base = base := by
  obtain ⟨_, _, _, _, _, _, hbase, _⟩ := activate_eq_ok activated
  exact hbase

end Frame

/-! ## Stacked frames

Each frame owns the components from its base up: the bases rise from the bottom frame to
the current one, and none is above the component count.  The lemmas below say which
changes of the two stacks keep that. -/

/-- Frame bases that rise from the bottom frame to the current one, none above the number
of components. -/
structure Stacked (frames : List Frame) (components : List Value) : Prop where
  sorted : (frames.map Frame.base).Pairwise (· ≤ ·)
  le_length : ∀ f ∈ frames, f.base ≤ components.length

namespace Stacked

variable {frames below above : List Frame} {components : List Value} {f g k : Frame}

theorem nil (components : List Value) : Stacked [] components :=
  ⟨List.Pairwise.nil, by simp⟩

theorem base_le_of_below (stacked : Stacked (below ++ k :: above) components) :
    ∀ g ∈ below, g.base ≤ k.base := by
  have hs := stacked.sorted
  simp only [List.map_append, List.map_cons, List.pairwise_append, List.mem_map,
    List.mem_cons] at hs
  intro g hg
  exact hs.2.2 _ ⟨g, hg, rfl⟩ _ (.inl rfl)

theorem base_le_of_above (stacked : Stacked (below ++ k :: above) components) :
    ∀ g ∈ above, k.base ≤ g.base := by
  have hs := stacked.sorted
  simp only [List.map_append, List.map_cons, List.pairwise_append, List.pairwise_cons,
    List.mem_map] at hs
  intro g hg
  exact hs.2.1.1 _ ⟨g, hg, rfl⟩

theorem base_le_last (stacked : Stacked (below ++ [f]) components) : ∀ g ∈ below, g.base ≤ f.base :=
  @base_le_of_below below [] components f stacked

theorem le_last (stacked : Stacked (below ++ [f]) components) : ∀ g ∈ below ++ [f], g.base ≤ f.base := by
  intro g hg
  rcases List.mem_append.mp hg with hg | hg
  · exact stacked.base_le_last g hg
  · rw [List.mem_singleton.mp hg]

theorem below_sorted (stacked : Stacked (below ++ above) components) :
    (below.map Frame.base).Pairwise (· ≤ ·) := by
  have hs := stacked.sorted
  rw [List.map_append, List.pairwise_append] at hs
  exact hs.1

theorem push (stacked : Stacked frames components) (v : Value) :
    Stacked frames (components ++ [v]) := by
  refine ⟨stacked.sorted, fun f hf => ?_⟩
  have := stacked.le_length f hf
  simp only [List.length_append, List.length_singleton]
  omega

theorem replaceLast (stacked : Stacked (below ++ [f]) components) (sameBase : g.base = f.base) :
    Stacked (below ++ [g]) components := by
  refine ⟨by simpa [sameBase] using stacked.sorted, fun x hx => ?_⟩
  rcases List.mem_append.mp hx with hx | hx
  · exact stacked.le_length x (List.mem_append_left _ hx)
  · rw [List.mem_singleton.mp hx, sameBase]
    exact stacked.le_length f (by simp)

theorem pop (stacked : Stacked (below ++ [f]) components) (aboveBase : f.base < components.length) :
    Stacked (below ++ [f]) components.dropLast := by
  refine ⟨stacked.sorted, fun x hx => ?_⟩
  have hx : x.base ≤ f.base := by
    rcases List.mem_append.mp hx with hx | hx
    · exact stacked.base_le_last x hx
    · rw [List.mem_singleton.mp hx]
  simp only [List.length_dropLast]
  omega

theorem call (stacked : Stacked frames components) (atTop : g.base = components.length) :
    Stacked (frames ++ [g]) components := by
  refine ⟨?_, fun x hx => ?_⟩
  · simp only [List.map_append, List.map_cons, List.map_nil, List.pairwise_append,
      List.pairwise_singleton, List.mem_map, List.mem_singleton, true_and]
    refine ⟨stacked.sorted, ?_⟩
    rintro _ ⟨x, hx, rfl⟩ _ rfl
    exact atTop ▸ stacked.le_length x hx
  · rcases List.mem_append.mp hx with hx | hx
    · exact stacked.le_length x hx
    · rw [List.mem_singleton.mp hx, atTop]

theorem drop (stacked : Stacked (below ++ [f]) components) :
    Stacked below (components.take f.base) := by
  have hf : f.base ≤ components.length := stacked.le_length f (by simp)
  refine ⟨stacked.below_sorted, fun x hx => ?_⟩
  rw [List.length_take, Nat.min_eq_left hf]
  exact stacked.base_le_last x hx

theorem caught {k' : Frame} (stacked : Stacked (below ++ k :: above) components)
    (sameBase : k'.base = k.base) (e : Value) :
    Stacked (below ++ [k']) (components.take k.base ++ [e]) := by
  have hbelow : Stacked (below ++ [k]) (components.take k.base) := by
    refine ⟨?_, fun x hx => ?_⟩
    · have hsub : List.Sublist (below ++ [k]) (below ++ k :: above) :=
        ((List.nil_sublist above).cons_cons k).append_left below
      exact stacked.sorted.sublist (hsub.map _)
    · have sameBase : k.base ≤ components.length := stacked.le_length k (by simp)
      rw [List.length_take, Nat.min_eq_left sameBase]
      rcases List.mem_append.mp hx with hx | hx
      · exact stacked.base_le_of_below x hx
      · rw [List.mem_singleton.mp hx]
  exact (hbelow.replaceLast sameBase).push e

end Stacked

namespace Task

variable {t : Task} {f : Frame}

theorem frame?_eq_some {t : Task} {f : Frame} :
    t.frame? = some f ↔ ∃ below, t.frames = below ++ [f] :=
  List.getLast?_eq_some_iff

theorem modifyFrame_of_frames {below : List Frame} (split : t.frames = below ++ [f])
    (g : Frame → Frame) : t.modifyFrame g = { t with frames := below ++ [g f] } := by
  simp [modifyFrame, split]

@[simp]
theorem modifyFrame_of_frame?_none (noFrame : t.frame? = none) (g : Frame → Frame) :
    t.modifyFrame g = t := by
  simp only [frame?] at noFrame
  simp [modifyFrame, noFrame]

section FieldsOfModifyFrame

variable (t : Task) (g : Frame → Frame)

@[simp] theorem modifyFrame_id : (t.modifyFrame g).id = t.id := by
  unfold modifyFrame; split <;> rfl
@[simp] theorem modifyFrame_account : (t.modifyFrame g).account = t.account := by
  unfold modifyFrame; split <;> rfl
@[simp] theorem modifyFrame_tokens : (t.modifyFrame g).tokens = t.tokens := by
  unfold modifyFrame; split <;> rfl
@[simp] theorem modifyFrame_budget : (t.modifyFrame g).budget = t.budget := by
  unfold modifyFrame; split <;> rfl
@[simp] theorem modifyFrame_components : (t.modifyFrame g).components = t.components := by
  unfold modifyFrame; split <;> rfl
@[simp] theorem modifyFrame_state : (t.modifyFrame g).state = t.state := by
  unfold modifyFrame; split <;> rfl
@[simp] theorem modifyFrame_wait : (t.modifyFrame g).wait = t.wait := by
  unfold modifyFrame; split <;> rfl
@[simp] theorem modifyFrame_replyTo : (t.modifyFrame g).replyTo = t.replyTo := by
  unfold modifyFrame; split <;> rfl
@[simp] theorem modifyFrame_result : (t.modifyFrame g).result = t.result := by
  unfold modifyFrame; split <;> rfl
@[simp] theorem modifyFrame_exception : (t.modifyFrame g).exception = t.exception := by
  unfold modifyFrame; split <;> rfl

end FieldsOfModifyFrame

theorem frame?_modifyFrame (inFrame : t.frame? = some f) (g : Frame → Frame) :
    (t.modifyFrame g).frame? = some (g f) := by
  obtain ⟨below, hb⟩ := frame?_eq_some.mp inFrame
  simp [modifyFrame_of_frames hb, frame?]

@[simp]
theorem length_modifyFrame (g : Frame → Frame) :
    (t.modifyFrame g).frames.length = t.frames.length := by
  cases h : t.frame? with
  | none => rw [modifyFrame_of_frame?_none h]
  | some f =>
      obtain ⟨below, hb⟩ := frame?_eq_some.mp h
      simp [modifyFrame_of_frames hb, hb]

theorem popComponent_eq_some {v : Value} {t' : Task} :
    t.popComponent = some (v, t') ↔
      t.components.getLast? = some v ∧ t' = { t with components := t.components.dropLast } := by
  simp [popComponent, eq_comm]

section FieldsOfDropFrame

variable (t : Task) (f : Frame)

@[simp] theorem dropFrame_frames : (t.dropFrame f).frames = t.frames.dropLast := rfl
@[simp] theorem dropFrame_components :
    (t.dropFrame f).components = t.components.take f.base := rfl
@[simp] theorem dropFrame_state : (t.dropFrame f).state = t.state := rfl
@[simp] theorem dropFrame_wait : (t.dropFrame f).wait = t.wait := rfl
@[simp] theorem dropFrame_result : (t.dropFrame f).result = t.result := rfl
@[simp] theorem dropFrame_exception : (t.dropFrame f).exception = t.exception := rfl
@[simp] theorem dropFrame_tokens : (t.dropFrame f).tokens = t.tokens := rfl
@[simp] theorem dropFrame_budget : (t.dropFrame f).budget = t.budget := rfl

end FieldsOfDropFrame

theorem moveTo_eq_ok {s : TaskState} {t' : Task} :
    t.moveTo s = .ok t' ↔ t.state.canMoveTo s = true ∧ t' = { t with state := s } := by
  unfold moveTo
  split
  · next h => simp [h, eq_comm]
  · next h => simp [h]

/-! ## Unwinding -/

theorem exists_innermost_handler (frames : List Frame) :
    (∀ g ∈ frames, g.handlers = []) ∨
      ∃ below k above h, frames = below ++ k :: above ∧ k.handlers.getLast? = some h ∧
        ∀ g ∈ above, g.handlers = [] := by
  induction frames with
  | nil => simp
  | cons x rest ih =>
      rcases ih with none | ⟨below, k, above, h, hsplit, hk, habove⟩
      · cases hx : x.handlers.getLast? with
        | none =>
            left
            intro g hg
            rcases List.mem_cons.mp hg with rfl | hg
            · simpa using hx
            · exact none g hg
        | some h => exact .inr ⟨[], x, rest, h, rfl, hx, none⟩
      · exact .inr ⟨x :: below, k, above, h, by simp [hsplit], hk, habove⟩

theorem take_foldl_take {α : Type} (frames : List Frame) (l : List α) {n : Nat}
    (aboveAll : ∀ g ∈ frames, n ≤ g.base) :
    (frames.foldl (fun cs g => cs.take g.base) l).take n = l.take n := by
  induction frames generalizing l with
  | nil => rfl
  | cons g rest ih =>
      simp only [List.foldl_cons]
      rw [ih (l.take g.base) fun g' hg' => aboveAll g' (List.mem_cons_of_mem g hg'), List.take_take,
        Nat.min_eq_left (aboveAll g List.mem_cons_self)]

theorem unwindFrames_skip (e : Value) (above rest : List Frame) (t : Task)
    (split : t.frames = (above ++ rest).reverse) (noHandlers : ∀ g ∈ above, g.handlers = []) :
    t.unwindFrames e (above ++ rest) =
      Task.unwindFrames e
        { t with
          frames := rest.reverse
          components := above.foldl (fun cs g => cs.take g.base) t.components } rest := by
  induction above generalizing t with
  | nil =>
      simp only [List.nil_append] at split
      simp [← split]
  | cons g above ih =>
      have hg : g.handlers.getLast? = none := by simp [noHandlers g List.mem_cons_self]
      rw [List.cons_append, unwindFrames, hg]
      exact ih _ (by simp) fun g' hg' => noHandlers g' (List.mem_cons_of_mem g hg')

theorem raise_of_handler (e : Value) {below above : List Frame} {k : Frame} {h : Nat}
    (split : t.frames = below ++ k :: above) (handler : k.handlers.getLast? = some h)
    (noHandlers : ∀ g ∈ above, g.handlers = []) (higher : ∀ g ∈ above, k.base ≤ g.base) :
    t.raise e =
      ({ t with
          frames := below ++ [{ k with handlers := k.handlers.dropLast, address := h }]
          components := t.components.take k.base ++ [e] }, none) := by
  have hrev : t.frames.reverse = above.reverse ++ k :: below.reverse := by simp [split]
  unfold raise
  rw [hrev, unwindFrames_skip e above.reverse (k :: below.reverse) t (by simp [split])
    (by simpa using noHandlers)]
  simp only [unwindFrames, handler, List.reverse_reverse]
  rw [take_foldl_take _ _ (by simpa using higher)]

theorem raise_of_no_handler (e : Value) (noHandlers : ∀ g ∈ t.frames, g.handlers = [])
    (canAbandon : t.state.canMoveTo .abandoned = true) :
    t.raise e =
      ({ t with
          state := .abandoned, frames := [], components := [], wait := none, result := none
          exception := some e }, none) := by
  have hsplit : t.frames.reverse = t.frames.reverse ++ [] := by simp
  unfold raise
  rw [hsplit, unwindFrames_skip e t.frames.reverse [] t (by simp) (by simpa using noHandlers)]
  simp [unwindFrames, abandon, moveTo, canAbandon, finish, Except.map]

theorem frames_finish (t : Task) (state : TaskState) (v : Value) : (t.finish state v).frames = [] := by
  unfold finish
  split <;> rfl

theorem frames_of_moveTo_finish {t' : Task} {state : TaskState} {v : Value}
    (movedTo : (t.moveTo state).map (fun t => t.finish state v) = .ok t') : t'.frames = [] := by
  cases hmove : t.moveTo state with
  | error e =>
      rw [hmove] at movedTo
      cases movedTo
  | ok moved =>
      rw [hmove] at movedTo
      simp only [Except.map, Except.ok.injEq] at movedTo
      subst movedTo
      exact frames_finish _ _ _

theorem length_unwindFrames (e : Value) :
    ∀ (frames : List Frame) (t : Task), t.frames.length ≤ frames.length →
      (t.unwindFrames e frames).1.frames.length ≤ frames.length
  | [], t, h => by
      unfold unwindFrames
      split
      · next t' habandon => rw [frames_of_moveTo_finish habandon]
      · exact h
  | g :: below, t, _ => by
      unfold unwindFrames
      split
      · simp
      · exact (length_unwindFrames e below _ (by simp)).trans (Nat.le_succ _)

theorem consumeToken_of_ne_nil (hasFrames : t.consumeToken.frames ≠ []) :
    t.consumeToken = { t with tokens := t.tokens - 1 } := by
  unfold consumeToken at hasFrames ⊢
  dsimp only at hasFrames ⊢
  by_cases hlast : t.tokens - 1 = 0 ∧ t.state ≠ .abandoned
  · rw [if_pos hlast, frames_finish] at hasFrames
    exact absurd rfl hasFrames
  · rw [if_neg hlast]

theorem length_consumeToken_le : t.consumeToken.frames.length ≤ t.frames.length := by
  by_cases h : t.consumeToken.frames = []
  · rw [h]
    exact Nat.zero_le _
  · rw [consumeToken_of_ne_nil h]

theorem length_exhaust_le : t.exhaust.frames.length ≤ t.frames.length := by
  unfold exhaust
  split
  · exact Nat.le_refl _
  · rw [frames_finish]
    exact Nat.zero_le _

theorem length_raise_le (t : Task) (e : Value) : (t.raise e).1.frames.length ≤ t.frames.length := by
  have := length_unwindFrames e t.frames.reverse t (by simp)
  rwa [List.length_reverse] at this

end Task

/-- Raising `e` in `t` gives the task of the second argument.  The innermost frame `k` with a
handler catches it: the frames above `k` are dropped, `k` drops its last handler and jumps to
it, and the components are cut to `k`'s base with `e` pushed.  With no handler anywhere the
task is abandoned with `e` and empty stacks. -/
inductive Task.Unwind (t : Task) (e : Value) : Task → Prop
  | caught (below : List Frame) (k : Frame) (above : List Frame) (h : Nat) :
      t.frames = below ++ k :: above → k.handlers.getLast? = some h →
      (∀ g ∈ above, g.handlers = []) →
      Task.Unwind t e { t with
        frames := below ++ [{ k with handlers := k.handlers.dropLast, address := h }]
        components := t.components.take k.base ++ [e] }
  | uncaught : (∀ g ∈ t.frames, g.handlers = []) →
      Task.Unwind t e { t with
        state := .abandoned, frames := [], components := [], wait := none, result := none
        exception := some e }

theorem split_at_innermost_handler {below below' above above' : List Frame} {k k' : Frame}
    (splitAt : below ++ k :: above = below' ++ k' :: above')
    (handles : k.handlers ≠ []) (handles' : k'.handlers ≠ [])
    (noHandlers : ∀ g ∈ above, g.handlers = []) (noHandlers' : ∀ g ∈ above', g.handlers = []) :
    below = below' ∧ k = k' ∧ above = above' := by
  induction below generalizing below' with
  | nil =>
      cases below' with
      | nil => simpa using splitAt
      | cons x rest =>
          -- `k'` would lie above `k`, where no frame has handlers
          simp only [List.nil_append, List.cons_append, List.cons.injEq] at splitAt
          exact absurd (noHandlers k' (splitAt.2 ▸ by simp)) handles'
  | cons x rest ih =>
      cases below' with
      | nil =>
          simp only [List.nil_append, List.cons_append, List.cons.injEq] at splitAt
          exact absurd (noHandlers' k (splitAt.2 ▸ by simp)) handles
      | cons y rest' =>
          simp only [List.cons_append, List.cons.injEq] at splitAt
          obtain ⟨rfl, hrest⟩ := splitAt
          obtain ⟨rfl, rfl, rfl⟩ := ih hrest
          exact ⟨rfl, rfl, rfl⟩

theorem Task.Unwind.unique {t t₁ t₂ : Task} {e : Value} (unwinds₁ : t.Unwind e t₁)
    (unwinds₂ : t.Unwind e t₂) : t₁ = t₂ := by
  have handlers_ne {k : Frame} {h : Nat} (hk : k.handlers.getLast? = some h) :
      k.handlers ≠ [] := by
    rintro hnil
    simp [hnil] at hk
  cases unwinds₁ with
  | caught below k above h hsplit hk habove =>
      cases unwinds₂ with
      | caught below' k' above' h' hsplit' hk' habove' =>
          obtain ⟨rfl, rfl, rfl⟩ := split_at_innermost_handler (hsplit.symm.trans hsplit')
            (handlers_ne hk) (handlers_ne hk') habove habove'
          rw [hk] at hk'
          cases hk'
          rfl
      | uncaught hno => exact absurd (hno k (hsplit ▸ by simp)) (handlers_ne hk)
  | uncaught hno =>
      cases unwinds₂ with
      | caught below k above h hsplit hk _ =>
          exact absurd (hno k (hsplit ▸ by simp)) (handlers_ne hk)
      | uncaught => rfl

theorem Task.unwind_raise {t : Task} (stacked : Stacked t.frames t.components)
    (canAbandon : t.state.canMoveTo .abandoned = true) (e : Value) :
    t.Unwind e (t.raise e).1 ∧ (t.raise e).2 = none := by
  rcases exists_innermost_handler t.frames with
    hno | ⟨below, k, above, h, hsplit, hlast, habove⟩
  · rw [raise_of_no_handler e hno canAbandon]
    exact ⟨.uncaught hno, rfl⟩
  · rw [hsplit] at stacked
    rw [raise_of_handler e hsplit hlast habove stacked.base_le_of_above]
    exact ⟨.caught below k above h hsplit hlast habove, rfl⟩

end TaskMachine
