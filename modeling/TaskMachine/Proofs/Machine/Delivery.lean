import Mathlib
import TaskMachine.Proofs.Machine.Limits
import TaskMachine.Proofs.Machine.Send
import TaskMachine.Proofs.Machine.Metering

/-! # Delivering a message

`LOAD MESSAGE` takes the first message of a bag.  When the bag holds one, the instruction takes
it out and pushes it through the checked `Exec.push`, then moves on.  When the bag is empty the
task waits on it without moving on, and a later resume delivers the message: it takes it out,
pushes it without a check and moves the frame on.  The runs of the two ways are
`Exec.execLoad_message_of_some` and `Exec.execLoad_message_of_empty`, lifted to cycles and
clock steps below.

Below the component limit both ways end in the same processor, token and bag included
(`load_message_delivers_alike`).  At the limit they part (`full_stack_splits_delivery`): the
instruction has already taken the message out of the bag when its push raises
`$stackOverflow`, so the task is abandoned and the message lost, while the resume pushes it
past the limit. -/

set_option autoImplicit false

namespace TaskMachine

namespace Repository

variable {r : Repository} {b : Name} {v : Value}

theorem bag_put (r : Repository) (b : Name) (l : List Value) :
    ({ r with bags := r.bags.put b l } : Repository).bag b = l := by
  simp [bag, Shelf.put, Shelf.get?]

theorem bag_retrieve_post_of_empty (empty : r.bag b = []) : ((r.post b v).retrieve b).1.bag b = [] := by
  simp only [retrieve, bag_post, empty, List.nil_append]
  exact bag_put _ _ _

theorem retrieve_of_empty (empty : r.bag b = []) : r.retrieve b = (r, none) := by
  simp [retrieve, empty]

end Repository

namespace Exec

variable {s : MachineState} {f : Frame} {slot : Nat} {b : Name}

theorem run_nameIn (inFrame : s.task.frame? = some f) (named : f.variableAt slot = .ok (.name b)) :
    (nameIn slot).run s = .ok b s := by
  simp [nameIn, run_frame inFrame, named, run_orFault_ok]

theorem execLoad_message_of_some (c : Config) (inFrame : s.task.frame? = some f)
    (named : f.variableAt slot = .ok (.name b)) {r : Repository} {m : Value}
    (retrieved : s.repository.retrieve b = (r, some m))
    (belowLimit : s.task.components.length < c.maxComponents) :
    (execLoad c .message slot).run s =
      .ok () ⟨(s.task.pushComponent m).modifyFrame Frame.advance, r⟩ := by
  unfold execLoad
  have hpushed : (s.task.pushComponent m).frame? = some f := inFrame
  simp [run_nameIn inFrame named, retrieved, modifyRepository, Exec.push, task, advance, modifyFrame,
    frame, modifyTask, Nat.not_le.mpr belowLimit, hpushed]

theorem execLoad_message_of_empty (c : Config) (inFrame : s.task.frame? = some f)
    (named : f.variableAt slot = .ok (.name b)) (empty : s.repository.bag b = [])
    {t' : Task} (waited : s.task.waitOn b = .ok t') :
    (execLoad c .message slot).run s = .ok () ⟨t', s.repository⟩ := by
  unfold execLoad
  simp [run_nameIn inFrame named, Repository.retrieve_of_empty empty, modifyRepository, task, modifyTask,
    waited, run_orFault_ok]

end Exec

theorem Task.consumeToken_of_two_le {t : Task} (twoTokens : 2 ≤ t.tokens) :
    t.consumeToken = { t with tokens := t.tokens - 1 } := by
  unfold Task.consumeToken
  dsimp only
  rw [if_neg fun hlast => absurd hlast.1 (by omega)]

section Cycles

variable (c : Config) {t : Task} {r : Repository} {f : Frame} {w : Word} {slot : Nat} {b : Name}

theorem cycle_loadMessage_of_some (inFrame : t.frame? = some f) (peeked : f.peek? = some w)
    (decoded : decode w = .ok (.load .message slot)) (named : f.variableAt slot = .ok (.name b))
    {r' : Repository} {m : Value} (retrieved : r.retrieve b = (r', some m))
    (belowLimit : t.components.length < c.maxComponents) :
    cycle c ⟨t, r⟩ =
      (⟨((t.modifyFrame fun f => { f with instruction := w }).pushComponent m).modifyFrame
        Frame.advance, r'⟩, none) := by
  have hfetched : (t.modifyFrame fun f => { f with instruction := w }).frame? =
      some { f with instruction := w } := Task.frame?_modifyFrame inFrame _
  have hname : ({ f with instruction := w } : Frame).variableAt slot = .ok (.name b) := named
  delta cycle
  rw [Exec.fetchAndExecute_run c inFrame peeked decoded,
    show Exec.execute c (.load .message slot) = Exec.execLoad c .message slot from rfl,
    Exec.execLoad_message_of_some c hfetched hname retrieved (by rwa [Task.modifyFrame_components])]

theorem cycle_loadMessage_of_empty (inFrame : t.frame? = some f) (peeked : f.peek? = some w)
    (decoded : decode w = .ok (.load .message slot)) (named : f.variableAt slot = .ok (.name b))
    (empty : r.bag b = []) (active : t.state = .active) :
    cycle c ⟨t, r⟩ =
      (⟨{ t.modifyFrame fun f => { f with instruction := w } with
          state := .waiting, wait := some b }, r⟩, none) := by
  have hfetched : (t.modifyFrame fun f => { f with instruction := w }).frame? =
      some { f with instruction := w } := Task.frame?_modifyFrame inFrame _
  have hwait : (t.modifyFrame fun f => { f with instruction := w }).waitOn b =
      .ok { t.modifyFrame fun f => { f with instruction := w } with
        state := .waiting, wait := some b } :=
    Task.waitOn_eq_ok.mpr ⟨by simp [active, TaskState.canMoveTo], rfl⟩
  have hname : ({ f with instruction := w } : Frame).variableAt slot = .ok (.name b) := named
  delta cycle
  rw [Exec.fetchAndExecute_run c inFrame peeked decoded,
    show Exec.execute c (.load .message slot) = Exec.execLoad c .message slot from rfl,
    Exec.execLoad_message_of_empty c hfetched hname empty hwait]

end Cycles

namespace Processor

variable {p : Processor} {t : Task}

theorem stepClock_of_cycle (current : p.task = some t) (noFault : p.fault = none)
    (active : t.state = .active) (hasTokens : t.tokens ≠ 0) {s : MachineState}
    (cycled : cycle p.config ⟨t, p.repository⟩ = (s, none)) :
    p.stepClock = ({ p with task := some s.task.consumeToken, repository := s.repository },
      .ok (s.task.consumeToken.state == .active)) := by
  obtain ⟨t', ht', -, hstep⟩ := stepClock_of_executes
    (executes_eq_true.mpr ⟨noFault, t, current, active, hasTokens, by rw [cycled]⟩)
  rw [current] at ht'
  cases ht'
  rw [hstep, cycled]

theorem resume_of_waiting {bag : Name} {r : Repository} {m : Value} (current : p.task = some t)
    (waiting : t.state = .waiting) (waitsOn : t.wait = some bag) (hasFrames : t.frames ≠ [])
    (retrieved : p.repository.retrieve bag = (r, some m)) :
    p.resume = ({ p with
        task := some (({ t with
          state := .active, wait := none, components := t.components ++ [m] } : Task).modifyFrame
            Frame.advance)
        repository := r }, .ok true) := by
  obtain ⟨f, hf⟩ := Option.ne_none_iff_exists'.mp (mt List.getLast?_eq_none_iff.mp hasFrames)
  have hmove : t.moveTo .active = .ok { t with state := .active } :=
    Task.moveTo_eq_ok.mpr ⟨by simp [waiting, TaskState.canMoveTo], rfl⟩
  have hframe : ({ t with
      state := .active, wait := none, components := t.components ++ [m] } : Task).frame? =
      some f := hf
  unfold resume Task.resume
  simp [current, waitsOn, retrieved, hmove, hframe]

end Processor

open Processor in
/-- Below the component limit, `LOAD MESSAGE` ends the same way whether the message is in the
bag when the instruction runs, or arrives while the task waits on the empty bag and a resume
delivers it.  Either way the message is pushed, the frame moves past the instruction with its
word recorded, one token is spent, and the message leaves the bag exactly once. -/
theorem load_message_delivers_alike {p : Processor} {t : Task} (current : p.task = some t)
    (noFault : p.fault = none) (active : t.state = .active) (noWait : t.wait = none)
    (twoTokens : 2 ≤ t.tokens) {f : Frame} {w : Word} {slot : Nat} {b : Name}
    (inFrame : t.frame? = some f) (peeked : f.peek? = some w)
    (decoded : decode w = .ok (.load .message slot)) (named : f.variableAt slot = .ok (.name b))
    (empty : p.repository.bag b = []) (belowLimit : t.components.length < p.config.maxComponents)
    (m : Value) :
    ({ p.stepClock.1 with repository := p.stepClock.1.repository.post b m }).resume =
        ({ p with repository := p.repository.post b m }).stepClock ∧
      p.stepClock = ({ p with
          task := some { t.modifyFrame (fun f => { f with instruction := w }) with
            tokens := t.tokens - 1, state := .waiting, wait := some b } }, .ok false) ∧
      ({ p with repository := p.repository.post b m }).stepClock = ({ p with
          task := some { ((t.modifyFrame fun f => { f with instruction := w }).pushComponent
            m).modifyFrame Frame.advance with tokens := t.tokens - 1 }
          repository := ((p.repository.post b m).retrieve b).1 }, .ok true) ∧
      ((p.repository.post b m).retrieve b).1.bag b = [] := by
  have hretrieve : (p.repository.post b m).retrieve b =
      (((p.repository.post b m).retrieve b).1, some m) := by
    rw [← Repository.retrieve_post_empty _ _ _ empty]
  have hparked : p.stepClock = ({ p with
      task := some { t.modifyFrame (fun f => { f with instruction := w }) with
        tokens := t.tokens - 1, state := .waiting, wait := some b } }, .ok false) := by
    rw [stepClock_of_cycle current noFault active (by omega)
      (cycle_loadMessage_of_empty p.config inFrame peeked decoded named empty active),
      Task.consumeToken_of_two_le (by simpa using twoTokens)]
    simp
  have hnow : ({ p with repository := p.repository.post b m }).stepClock = ({ p with
      task := some { ((t.modifyFrame fun f => { f with instruction := w }).pushComponent
        m).modifyFrame Frame.advance with tokens := t.tokens - 1 }
      repository := ((p.repository.post b m).retrieve b).1 }, .ok true) := by
    have ht' : ({ p with repository := p.repository.post b m } : Processor).task = some t := current
    rw [stepClock_of_cycle ht' noFault active (by omega)
      (cycle_loadMessage_of_some p.config inFrame peeked decoded named hretrieve belowLimit),
      Task.consumeToken_of_two_le (by simpa [Task.pushComponent] using twoTokens)]
    simp [Task.pushComponent, active]
  refine ⟨?_, hparked, hnow, Repository.bag_retrieve_post_of_empty empty⟩
  obtain ⟨below, hbelow⟩ := Task.frame?_eq_some.mp inFrame
  rw [hparked, hnow, resume_of_waiting rfl rfl rfl
    (by rw [Task.modifyFrame_of_frames hbelow]; simp) hretrieve]
  simp [Task.modifyFrame, Task.pushComponent, hbelow, active, noWait]

/-- The task of `inboxProcessor` after its first three instructions: the bag's name saved in
its variable, one component on its stack, and `LOAD MESSAGE` next. -/
def readyTask : Task :=
  ⟨⟨0⟩, Name.root, 7, 10,
    [{ inboxFrame with locals := [(⟨"bag"⟩, .name inbox)], address := 4, instruction := 0x2802 }],
    [.boolean true], .active, none, none, none, none⟩

/-- A message for `inbox` is delivered alike to `readyTask` with room for a thousand
components. -/
theorem ready_task_delivered_alike :
    ({ (Processor.mk Config.default inboxRepository (some readyTask) none).stepClock.1 with
        repository := (Processor.mk Config.default inboxRepository (some readyTask)
          none).stepClock.1.repository.post inbox (.boolean false) }).resume =
      ({ Processor.mk Config.default inboxRepository (some readyTask) none with
        repository := inboxRepository.post inbox (.boolean false) }).stepClock :=
  (load_message_delivers_alike rfl rfl rfl rfl (by decide) rfl rfl rfl rfl rfl (by decide) _).1

def inboxReady (c : Config) : Processor :=
  (inboxProcessor c).stepClock.1.stepClock.1.stepClock.1

/-- With room for one component, a started task reaches `LOAD MESSAGE` with one component on
its stack.  If the message is already in the bag, the instruction takes it out and its push
overflows: the task is abandoned and the message is gone.  If it arrives while the task
waits, the resume pushes it past the limit and the task goes on. -/
theorem full_stack_splits_delivery :
    (inboxReady oneComponent).Reachable ∧
      ((inboxReady oneComponent).task.map fun t : Task => (t.state, t.components.length, t.tokens)) =
        some (.active, 1, 7) ∧
      (({ inboxReady oneComponent with
          repository := (inboxReady oneComponent).repository.post inbox (.boolean false)
        }).stepClock.1.task.map Task.state) = some .abandoned ∧
      ({ inboxReady oneComponent with
          repository := (inboxReady oneComponent).repository.post inbox (.boolean false)
        }).stepClock.1.repository.bagLength inbox = 0 ∧
      (({ (inboxReady oneComponent).stepClock.1 with
          repository := (inboxReady oneComponent).stepClock.1.repository.post inbox (.boolean false)
        }).resume.1.task.map fun t : Task => (t.state, t.components.length)) = some (.active, 2) := by
  refine ⟨⟨_, .inl (inboxProcessor_created _),
    ((Relation.ReflTransGen.single (.step _)).tail (.step _)).tail (.step _)⟩, ?_⟩
  decide +kernel

end TaskMachine
