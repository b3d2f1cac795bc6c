import Mathlib
import TaskMachine.Proofs.Machine.Calls

/-! # A send is one step for its caller

The runs of the instructions a call is made of, computed from the state they start in:
`Exec.execSend_run` says what a `SEND` does, `Exec.execPull_result_run` what `PULL RESULT`
does when there is a caller to return to.  Both go through the run lemmas of the effects
they are made of, with `Exec.run_bind` to go from one effect to the next; `cycle_send` and
`cycle_pullResult` lift them to instruction cycles.

`send_acts_as_one_step` puts them together with the isolation of a call
(`Processor.RunAbove.inCall`): the step of a send that starts a callee is followed by steps
that never touch the caller's frames or the components under the call, and the callee's
`PULL RESULT` returns into the caller as the send left it (`Task.InCall.cycle_return`). -/

set_option autoImplicit false

namespace TaskMachine

/-- The components a send pops: the receiver, and above it the argument list when the send
passes one. -/
def SendTarget.operands (target : SendTarget) (receiver : Value) (arguments : List Value) :
    List Value :=
  if target.withArguments then [receiver, .list arguments] else [receiver]

namespace Exec

section Runs

variable {α β : Type} (s : MachineState)

theorem run_bind (x : Exec α) (k : α → Exec β) :
    (x >>= k).run s = match x.run s with
      | .ok a s' => (k a).run s'
      | .error e s' => .error e s' := by
  simp only [EStateM.run, bind, EStateM.bind]
  cases x s <;> rfl

theorem run_get : (get : Exec MachineState).run s = .ok s s := rfl

theorem run_task : task.run s = .ok s.task s := rfl

theorem run_modifyTask (g : Task → Task) :
    (modifyTask g).run s = .ok () { s with task := g s.task } := rfl

theorem run_fault (e : ExecutionError) : (fault e : Exec α).run s = .error (.fault e) s := rfl

theorem run_orFault_ok (a : α) : (orFault (.ok a)).run s = .ok a s := rfl

variable {s}

theorem run_frame {f : Frame} (inFrame : s.task.frame? = some f) : frame.run s = .ok f s := by
  simp [frame, task, inFrame]

theorem run_pop {f : Frame} {l : List Value} {v : Value} (inFrame : s.task.frame? = some f)
    (stack : s.task.components = l ++ [v]) :
    pop.run s = if l.length < f.base then .error (.fault (.componentUnderflow f.address)) s
      else .ok v { s with task := { s.task with components := l } } := by
  by_cases hlt : l.length < f.base
  · simp [pop, frame, task, inFrame, Task.popComponent, stack, hlt, run_fault]
  · simp [pop, frame, task, modifyTask, inFrame, Task.popComponent, stack, hlt]

end Runs

section Stages

variable (s : MachineState)

theorem sendArguments_run (m : Symbol) {f : Frame} {target : SendTarget} {l arguments : List Value}
    (inFrame : s.task.frame? = some f)
    (stack : s.task.components = l ++ if target.withArguments then [.list arguments] else [])
    (noArguments : target.withArguments = false → arguments = []) :
    match (sendArguments target m).run s with
    | .ok a x => a = arguments ∧ x = { s with task := { s.task with components := l } }
    | .error _ x => x = s := by
  unfold sendArguments
  cases hw : target.withArguments with
  | false =>
      simp only [hw, Bool.false_eq_true, if_false, List.append_nil] at stack
      subst stack
      rw [if_neg Bool.false_ne_true]
      exact ⟨(noArguments hw).symm, rfl⟩
  | true =>
      simp only [hw, if_true] at stack
      rw [if_pos rfl, run_bind, run_pop inFrame stack]
      by_cases hlt : l.length < f.base
      · rw [if_pos hlt]
      · rw [if_neg hlt]
        exact ⟨rfl, rfl⟩

theorem resolveReceiver_run (target : SendTarget) (receiver : Value) :
    match (resolveReceiver target receiver).run s with
    | .ok callee x => x = s ∧
        if target.isDocument then ∃ n, receiver = .name n ∧ s.repository.document? n = some callee
        else callee = receiver
    | .error _ x => x = s := by
  unfold resolveReceiver
  cases hd : target.isDocument with
  | false => exact ⟨rfl, rfl⟩
  | true =>
      rw [if_pos rfl]
      cases receiver with
      | name n =>
          simp only [run_bind, run_get]
          cases hdoc : s.repository.document? n with
          | none => rfl
          | some v => exact ⟨rfl, n, rfl, hdoc⟩
      | _ => rfl

theorem startCallee_run (c : Config) (receiver : Value) (m : Symbol) (arguments : List Value) :
    match (startCallee c receiver m arguments).run s with
    | .ok _ x => ∃ compiled g, s.repository.type? receiver.typeName = some compiled ∧
        Frame.activate compiled receiver m arguments s.task.components.length = .ok g ∧
        x = { s with task := { s.task with frames := s.task.frames ++ [g] } }
    | .error _ x => x = s := by
  unfold startCallee
  simp only [run_bind, run_get]
  cases htype : s.repository.type? receiver.typeName with
  | none => rfl
  | some compiled =>
      simp only [run_bind, run_task]
      by_cases hdepth : c.maxContexts ≤ s.task.frames.length
      · simp only [hdepth, if_true, run_bind]
        rfl
      · simp only [hdepth, if_false]
        cases hact : Frame.activate compiled receiver m arguments s.task.components.length with
        | error e => rfl
        | ok g => exact ⟨compiled, g, rfl, hact, rfl⟩

end Stages

theorem execSend_run (c : Config) (r : Repository) {u : Task} {f : Frame} {message : Nat}
    {target : SendTarget} {m : Symbol} {below : List Value} {receiver : Value}
    {arguments : List Value} (inFrame : u.frame? = some f) (messageFound : f.messageAt message = .ok m)
    (stack : u.components = below ++ target.operands receiver arguments)
    (noArguments : target.withArguments = false → arguments = []) :
    match (execSend c message target).run ⟨u, r⟩ with
    | .ok _ x => ∃ callee compiled g,
        (if target.isDocument then ∃ n, receiver = .name n ∧ r.document? n = some callee
          else callee = receiver) ∧
        r.type? callee.typeName = some compiled ∧
        Frame.activate compiled callee m arguments below.length = .ok g ∧
        x = ⟨{ u with frames := u.frames ++ [g], components := below }, r⟩
    | .error _ x => x.task.frames = u.frames ∧ x.repository = r := by
  have hc : u.components =
      (below ++ [receiver]) ++ if target.withArguments then [.list arguments] else [] := by
    rw [stack, SendTarget.operands]
    split <;> simp
  have args := sendArguments_run ⟨u, r⟩ m inFrame hc noArguments
  unfold execSend
  simp only [run_bind, @run_frame ⟨u, r⟩ f inFrame, messageFound, run_orFault_ok]
  rcases hA : (sendArguments target m).run ⟨u, r⟩ with ⟨a, x⟩ | ⟨e, x⟩
  · rw [hA] at args
    obtain ⟨ha, rfl⟩ := args
    subst a
    dsimp only
    rw [@run_pop _ f below receiver inFrame rfl]
    by_cases hlt : below.length < f.base
    · rw [if_pos hlt]
      exact ⟨rfl, rfl⟩
    · rw [if_neg hlt]
      dsimp only
      have resolved := resolveReceiver_run ⟨{ u with components := below }, r⟩ target receiver
      rcases hR : (resolveReceiver target receiver).run ⟨{ u with components := below }, r⟩ with
        ⟨callee, y⟩ | ⟨e, y⟩
      · rw [hR] at resolved
        obtain ⟨rfl, hcallee⟩ := resolved
        dsimp only
        have started := startCallee_run ⟨{ u with components := below }, r⟩ c callee m arguments
        rcases hS : (startCallee c callee m arguments).run ⟨{ u with components := below }, r⟩ with
          ⟨_, z⟩ | ⟨e, z⟩
        · rw [hS] at started
          obtain ⟨compiled, g, htype, hact, rfl⟩ := started
          exact ⟨callee, compiled, g, hcallee, htype, hact, rfl⟩
        · rw [hS] at started
          subst started
          exact ⟨rfl, rfl⟩
      · rw [hR] at resolved
        subst resolved
        exact ⟨rfl, rfl⟩
  · rw [hA] at args
    subst args
    exact ⟨rfl, rfl⟩

theorem fetchAndExecute_run (c : Config) {u : Task} {r : Repository} {f : Frame} {w : Word}
    {i : Instruction} (inFrame : u.frame? = some f) (peeked : f.peek? = some w) (decoded : decode w = .ok i) :
    (fetchAndExecute c).run ⟨u, r⟩ =
      (execute c i).run ⟨u.modifyFrame fun f => { f with instruction := w }, r⟩ := by
  simp [fetchAndExecute, frame, task, modifyFrame, modifyTask, inFrame, peeked, decoded]

theorem execPull_result_run (r : Repository) {u : Task} {g : Frame} {l : List Value} {v : Value}
    (inFrame : u.frame? = some g) (stack : u.components = l ++ [v]) (aboveBase : g.base ≤ l.length)
    (hasCaller : u.frames.dropLast ≠ []) :
    (execPull .result).run ⟨u, r⟩ =
      .ok () ⟨((({ u with components := l } : Task).dropFrame g).modifyFrame Frame.advance).pushComponent v, r⟩ := by
  obtain ⟨g₀, hg₀⟩ := Option.ne_none_iff_exists'.mp (mt List.getLast?_eq_none_iff.mp hasCaller)
  unfold execPull
  have hlast : u.frames.getLast? = some g := inFrame
  simp only [run_bind, @run_pop ⟨u, r⟩ g l v inFrame stack, if_neg (Nat.not_lt.mpr aboveBase)]
  simp [run_task, Task.frame?, hlast, Task.truncateComponents, hg₀, run_modifyTask, Task.dropFrame]

end Exec

theorem cycle_send (c : Config) (r : Repository) {t : Task} {f : Frame} {w : Word}
    {message : Nat} {target : SendTarget} {m : Symbol} {below : List Value} {receiver : Value}
    {arguments : List Value} (inFrame : t.frame? = some f) (peeked : f.peek? = some w)
    (decoded : decode w = .ok (.send message target)) (messageFound : f.messageAt message = .ok m)
    (stack : t.components = below ++ target.operands receiver arguments)
    (noArguments : target.withArguments = false → arguments = []) :
    (∃ callee compiled g,
      (if target.isDocument then ∃ n, receiver = .name n ∧ r.document? n = some callee
        else callee = receiver) ∧
      r.type? callee.typeName = some compiled ∧
      Frame.activate compiled callee m arguments below.length = .ok g ∧
      cycle c ⟨t, r⟩ = (⟨{ t.modifyFrame fun f => { f with instruction := w } with
        frames := t.frames.dropLast ++ [{ f with instruction := w }, g]
        components := below }, r⟩, none)) ∨
    (cycle c ⟨t, r⟩).1.task.frames.length ≤ t.frames.length := by
  obtain ⟨D, hD⟩ := Task.frame?_eq_some.mp inFrame
  have hfetched : (t.modifyFrame fun f => { f with instruction := w }).frame? =
      some { f with instruction := w } := Task.frame?_modifyFrame inFrame _
  have hframes : (t.modifyFrame fun f => { f with instruction := w }).frames =
      t.frames.dropLast ++ [{ f with instruction := w }] := by
    rw [Task.modifyFrame_of_frames hD, hD, List.dropLast_concat]
  have run := Exec.execSend_run c r hfetched messageFound (by rw [Task.modifyFrame_components, stack]) noArguments
  delta cycle
  rw [Exec.fetchAndExecute_run c inFrame peeked decoded,
    show Exec.execute c (.send message target) = Exec.execSend c message target from rfl]
  rcases hR : (Exec.execSend c message target).run
      ⟨t.modifyFrame fun f => { f with instruction := w }, r⟩ with ⟨_, x⟩ | ⟨e, x⟩
  · rw [hR] at run
    obtain ⟨callee, compiled, g, hcallee, htype, hact, rfl⟩ := run
    refine .inl ⟨callee, compiled, g, hcallee, htype, hact, ?_⟩
    simp [hframes]
  · rw [hR] at run
    obtain ⟨hx, -⟩ := run
    right
    cases e with
    | raise v =>
        dsimp only
        calc (x.task.raise v).1.frames.length ≤ x.task.frames.length := Task.length_raise_le _ _
          _ = t.frames.length := by rw [hx, Task.length_modifyFrame]
    | fault e =>
        dsimp only
        rw [hx, Task.length_modifyFrame]

theorem cycle_pullResult (c : Config) (r : Repository) {u : Task} {below : List Frame} {g : Frame}
    {w : Word} {l : List Value} {v : Value} (callers : u.frames = below ++ [g])
    (hasCaller : below ≠ []) (peeked : g.peek? = some w) (decoded : decode w = .ok (.pull .result))
    (stack : u.components = l ++ [v]) (aboveBase : g.base ≤ l.length) :
    cycle c ⟨u, r⟩ =
      (⟨(({ u with frames := below, components := l.take g.base } : Task).modifyFrame
        Frame.advance).pushComponent v, r⟩, none) := by
  have hg : u.frame? = some g := Task.frame?_eq_some.mpr ⟨below, callers⟩
  have hfetched : (u.modifyFrame fun f => { f with instruction := w }).frame? =
      some { g with instruction := w } := Task.frame?_modifyFrame hg _
  have hfr : (u.modifyFrame fun f => { f with instruction := w }).frames =
      below ++ [{ g with instruction := w }] := by
    rw [Task.modifyFrame_of_frames callers]
  have run := Exec.execPull_result_run r hfetched (by rw [Task.modifyFrame_components, stack]) aboveBase
    (by rw [hfr, List.dropLast_concat]; exact hasCaller)
  delta cycle
  rw [Exec.fetchAndExecute_run c hg peeked decoded,
    show Exec.execute c (.pull .result) = Exec.execPull .result from rfl, run]
  simp [Task.dropFrame, Task.truncateComponents, hfr]

theorem stepClock_send {p : Processor} {t : Task} (current : p.task = some t) {f : Frame} {w : Word}
    {message : Nat} {target : SendTarget} {m : Symbol} {c : List Value} {receiver : Value}
    {arguments : List Value} (inFrame : t.frame? = some f) (peeked : f.peek? = some w)
    (decoded : decode w = .ok (.send message target)) (messageFound : f.messageAt message = .ok m)
    (stack : t.components = c ++ target.operands receiver arguments)
    (noArguments : target.withArguments = false → arguments = []) {s' : Task}
    (called : p.stepClock.1.task = some s') (deeper : s'.frames.length = t.frames.length + 1) :
    ∃ callee compiled g,
      (if target.isDocument then ∃ n, receiver = .name n ∧ p.repository.document? n = some callee
        else callee = receiver) ∧
      p.repository.type? callee.typeName = some compiled ∧
      Frame.activate compiled callee m arguments c.length = .ok g ∧
      s' = { t.modifyFrame fun f => { f with instruction := w } with
        frames := t.frames.dropLast ++ [{ f with instruction := w }, g]
        components := c
        tokens := s'.tokens } := by
  rcases Processor.stepClock_task p with same | ⟨t₁, ht₁, hex⟩ | ⟨t₁, ht₁, -, hcharge | hfault⟩
  · -- the step ran nothing
    rw [same, current, Option.some.injEq] at called
    subst called
    omega
  · -- the task was exhausted
    rw [current, Option.some.injEq] at ht₁
    subst ht₁
    rw [hex, Option.some.injEq] at called
    subst called
    have hle := @Task.length_exhaust_le t
    omega
  · rw [current, Option.some.injEq] at ht₁
    subst ht₁
    rw [hcharge, Option.some.injEq] at called
    subst called
    rcases cycle_send p.config p.repository inFrame peeked decoded messageFound stack noArguments with
      ⟨callee, compiled, g, hcallee, htype, hact, hcycle⟩ | hshort
    · refine ⟨callee, compiled, g, hcallee, htype, hact, ?_⟩
      have hne : (cycle p.config ⟨t, p.repository⟩).1.task.consumeToken.frames ≠ [] := by
        intro hnil
        rw [hnil] at deeper
        simp at deeper
      rw [Task.consumeToken_of_ne_nil hne, hcycle]
    · have hle := @Task.length_consumeToken_le (cycle p.config ⟨t, p.repository⟩).1.task
      omega
  · rw [current, Option.some.injEq] at ht₁
    subst ht₁
    rw [hfault, Option.some.injEq] at called
    subst called
    rcases cycle_send p.config p.repository inFrame peeked decoded messageFound stack noArguments with
      ⟨callee, compiled, g, hcallee, htype, hact, hcycle⟩ | hshort
    · refine ⟨callee, compiled, g, hcallee, htype, hact, ?_⟩
      rw [hcycle]
    · omega

theorem Task.InCall.cycle_return (c : Config) (r : Repository) {s u : Task} (inCall : s.InCall u)
    (live : s.Live) (liveAfter : u.Live) {below : List Frame} {k : Frame}
    (caller : s.frames.dropLast = below ++ [k]) (sameDepth : u.frames.length = s.frames.length)
    {g : Frame} {w : Word} (inFrame : u.frame? = some g) (peeked : g.peek? = some w)
    (decoded : decode w = .ok (.pull .result)) {v : Value} (last : u.components.getLast? = some v)
    (longer : s.components.length < u.components.length) :
    cycle c ⟨u, r⟩ =
      (⟨{ s with
          frames := below ++ [k.advance]
          components := s.components ++ [v]
          tokens := u.tokens }, r⟩, none) := by
  obtain ⟨callee, hframes, hbase⟩ := inCall.callee_only live.idle.1 sameDepth
  have hcallee : g = callee := by
    rw [Task.frame?, hframes] at inFrame
    simpa using inFrame.symm
  subst hcallee
  obtain ⟨top, hc⟩ := inCall.components_eq
  obtain ⟨l, hl⟩ := List.getLast?_eq_some_iff.mp last
  have hcl : s.components.length ≤ l.length := by
    rw [hl, List.length_append, List.length_singleton] at longer
    omega
  have htake : l.take s.components.length = s.components := by
    have same := congrArg (List.take s.components.length) (hc.symm.trans hl)
    rwa [List.take_left, List.take_append_of_le_length hcl, eq_comm] at same
  have hsame := inCall.eq_of_stacks (by rw [liveAfter.active, live.active]) (by rw [liveAfter.idle.2.1, live.idle.2.1])
    (by rw [liveAfter.idle.2.2.1, live.idle.2.2.1]) (by rw [liveAfter.idle.2.2.2, live.idle.2.2.2])
  rw [cycle_pullResult c r hframes (by rw [caller]; simp) peeked decoded hl (by rw [hbase]; exact hcl)]
  have hadvance :
      ({ u with frames := s.frames.dropLast, components := l.take g.base } : Task).modifyFrame
        Frame.advance = { u with frames := below ++ [k.advance], components := l.take g.base } :=
    Task.modifyFrame_of_frames caller Frame.advance
  rw [hadvance, hbase, htake]
  conv_lhs => rw [hsame]
  rfl

/-- A `SEND` in a reachable active task, at a depth of `t.frames.length` with `c` below its
operands, that starts a callee, is one step for the caller.  The step leaves the caller's
frames as they were, apart from the recorded word, with the callee on top bound to the
resolved receiver and the padded arguments over `c`.  Every later run that stays above the
caller's depth keeps the caller's frames and `c` under everything, and when the callee's
frame runs `PULL RESULT` with `v` on top, the cycle returns into the caller: the task is the
one right after the send with the callee dropped, the caller moved on and `v` on `c`. -/
theorem send_acts_as_one_step {p : Processor} (reachable : p.Reachable) {t : Task}
    (current : p.task = some t) (active : t.state = .active) {f : Frame} {w : Word} {message : Nat}
    {target : SendTarget} (inFrame : t.frame? = some f) (peeked : f.peek? = some w)
    (decoded : decode w = .ok (.send message target)) {m : Symbol}
    (messageFound : f.messageAt message = .ok m) {c : List Value} {receiver : Value}
    {arguments : List Value} (stack : t.components = c ++ target.operands receiver arguments)
    (noArguments : target.withArguments = false → arguments = []) {s' : Task}
    (called : p.stepClock.1.task = some s') (deeper : s'.frames.length = t.frames.length + 1) :
    (∃ callee compiled method g,
      (if target.isDocument then ∃ n, receiver = .name n ∧ p.repository.document? n = some callee
        else callee = receiver) ∧
      p.repository.type? callee.typeName = some compiled ∧ compiled.method? m = some method ∧
      s'.frames = t.frames.dropLast ++ [{ f with instruction := w }, g] ∧
      g.target = callee ∧ g.message = m ∧
      g.arguments = arguments ++ List.replicate (method.parameters.length - arguments.length) .none ∧
      g.base = c.length) ∧
    s'.components = c ∧
    ∀ q, p.stepClock.1.RunAbove t.frames.length q → ∀ u, q.task = some u →
      (u.frames.take t.frames.length = s'.frames.take t.frames.length ∧
        u.components.take c.length = c) ∧
      (u.state = .active → u.frames.length = t.frames.length + 1 →
        ∀ g w', u.frame? = some g → g.peek? = some w' → decode w' = .ok (.pull .result) →
        ∀ v, u.components.getLast? = some v → c.length < u.components.length →
        cycle q.config ⟨u, q.repository⟩ =
          (⟨{ s' with
              frames := t.frames.dropLast ++ [({ f with instruction := w }).advance]
              components := c ++ [v]
              tokens := u.tokens }, q.repository⟩, none)) := by
  have tlive : t.Live := ⟨reachable.sound t current, active⟩
  obtain ⟨callee, compiled, g, hcallee, htype, hact, hs'eq⟩ :=
    stepClock_send current inFrame peeked decoded messageFound stack noArguments called deeper
  obtain ⟨method, hmethod, -, htarget, hmessage, harguments, hbase, -⟩ := Frame.activate_eq_ok hact
  have hframes : s'.frames = t.frames.dropLast ++ [{ f with instruction := w }, g] := by
    rw [hs'eq]
  have hcomps : s'.components = c := by
    rw [hs'eq]
  have hbelow : s'.frames.dropLast = t.frames.dropLast ++ [{ f with instruction := w }] := by
    rw [hframes, show t.frames.dropLast ++ [{ f with instruction := w }, g] =
      (t.frames.dropLast ++ [{ f with instruction := w }]) ++ [g] by simp, List.dropLast_concat]
  have hdepth : s'.frames.dropLast.length = t.frames.length := by
    have hpos : t.frames.length ≠ 0 := by simpa using tlive.idle.1
    rw [hbelow, List.length_append, List.length_dropLast, List.length_singleton]
    omega
  have inside : s'.InCall s' := by
    refine Task.inCall_self (g := g) ?_ (by rw [hbase, hcomps])
    rw [Task.frame?, hframes]
    simp
  refine ⟨⟨callee, compiled, method, g, hcallee, htype, hmethod, hframes, htarget, hmessage,
    harguments, hbase⟩, hcomps, ?_⟩
  have stepped : p.stepClock.1.Reachable := reachable.move (.step p)
  intro q run u hu
  have hrun : p.stepClock.1.RunAbove (s'.frames.length - 1) q := by
    rw [← List.length_dropLast, hdepth]
    exact run
  obtain ⟨qreach, hinside⟩ := Processor.RunAbove.inCall stepped
    (fun u hu => by
      rw [called, Option.some.injEq] at hu
      subst hu
      exact inside) hrun
  have hin := hinside u hu
  obtain ⟨above, hufr, -⟩ := hin.frames_eq
  obtain ⟨top, huc⟩ := hin.components_eq
  rw [hcomps] at huc
  refine ⟨⟨?_, ?_⟩, ?_⟩
  · -- the caller's frames are the ones below the call
    rw [hufr, ← hdepth, List.take_left, List.length_dropLast]
    exact List.dropLast_eq_take
  · rw [huc, List.take_left]
  · intro hactive' hlen g' w' hg' hw' hpull v hv hlt
    have s'live : s'.Live := ⟨stepped.sound s' called, by rw [hs'eq]; simpa using active⟩
    have ulive : u.Live := ⟨qreach.sound u hu, hactive'⟩
    have back := hin.cycle_return q.config q.repository s'live ulive hbelow (by omega) hg' hw' hpull
      hv (by rwa [hcomps])
    rwa [hcomps] at back

/-- A frame about to send `go` to `none`: the word `0xE001` at its first address. -/
def sendingFrame : Frame :=
  ⟨.none, ⟨"run"⟩, [], [], [], [], [⟨"go"⟩], [], ⟨[0xE001]⟩, 1, 0, 0⟩

/-- A task running `sendingFrame` with the receiver `none` on its components. -/
def sendingTask : Task :=
  ⟨⟨0⟩, Name.root, 5, 5, [sendingFrame], [.none], .active, none, none, none, none⟩

/-- A processor whose repository answers `go` on the type of `none` by `PULL RESULT`
(`0x5000`), running `sendingTask`. -/
def sendingProcessor : Processor :=
  ⟨Config.default,
    ⟨[(Value.none.typeName,
      ⟨Value.none.typeName, [], [], [(⟨"go"⟩, ⟨[], [], [], [], ⟨[0x5000]⟩⟩)]⟩)], [], [], []⟩,
    some sendingTask, none⟩

def sentTask : Task :=
  ⟨⟨0⟩, Name.root, 4, 5,
    [{ sendingFrame with instruction := 0xE001 }, ⟨.none, ⟨"go"⟩, [], [], [], [], [], [], ⟨[0x5000]⟩, 1, 0, 0⟩],
    [], .active, none, none, none, none⟩

theorem sending_task_acts_as_one_step :
    sendingProcessor.Reachable ∧ sendingProcessor.stepClock.1.task = some sentTask ∧
    (∃ callee compiled method g,
      (if SendTarget.component.isDocument then
          ∃ n, Value.none = .name n ∧ sendingProcessor.repository.document? n = some callee
        else callee = .none) ∧
      sendingProcessor.repository.type? callee.typeName = some compiled ∧
      compiled.method? ⟨"go"⟩ = some method ∧
      sentTask.frames = sendingTask.frames.dropLast ++ [{ sendingFrame with instruction := 0xE001 }, g] ∧
      g.target = callee ∧ g.message = ⟨"go"⟩ ∧
      g.arguments = [] ++ List.replicate (method.parameters.length - ([] : List Value).length) .none ∧
      g.base = ([] : List Value).length) ∧
    sentTask.components = [] ∧
    ∀ q, sendingProcessor.stepClock.1.RunAbove sendingTask.frames.length q → ∀ u, q.task = some u →
      (u.frames.take sendingTask.frames.length = sentTask.frames.take sendingTask.frames.length ∧
        u.components.take ([] : List Value).length = []) ∧
      (u.state = .active → u.frames.length = sendingTask.frames.length + 1 →
        ∀ g w', u.frame? = some g → g.peek? = some w' → decode w' = .ok (.pull .result) →
        ∀ v, u.components.getLast? = some v → ([] : List Value).length < u.components.length →
        cycle q.config ⟨u, q.repository⟩ =
          (⟨{ sentTask with
              frames := sendingTask.frames.dropLast ++
                [({ sendingFrame with instruction := 0xE001 }).advance]
              components := [] ++ [v]
              tokens := u.tokens }, q.repository⟩, none)) :=
  have reachable : sendingProcessor.Reachable :=
    ⟨_, .inr ⟨⟨Config.default, sendingProcessor.repository, none, none⟩, sendingTask.freeze, rfl⟩,
      .refl⟩
  ⟨reachable, rfl, send_acts_as_one_step reachable rfl rfl rfl rfl
    (show decode 0xE001 = .ok (.send 1 .component) by decide) rfl rfl (fun _ => rfl) rfl rfl⟩

end TaskMachine
