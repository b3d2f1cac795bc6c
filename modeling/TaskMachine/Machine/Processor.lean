import TaskMachine.Machine.Step
import TaskMachine.Task.Snapshot

/-!
# The processor

A processor runs one task at a time over a repository, under a configuration. Its clock
step runs one instruction of an active task that has tokens left and charges one token
for it; a task with no tokens left is abandoned instead, and a task that is not active is
left alone. A fault stops the task where it stands and sticks to the processor: every
later step reports it again until another task is loaded.

Main statements: `Processor.stepClock`, `runFor`, `run`, `resume`, `newTask`, `loadTask`.
-/

set_option autoImplicit false

namespace TaskMachine

/-- A processor with its configuration, repository, task and sticky fault. -/
structure Processor where
  config : Config
  repository : Repository
  task : Option Task
  fault : Option ExecutionError
  deriving Inhabited

namespace Processor

/-- A processor without a task, once its configuration is valid. -/
def create (c : Config) (r : Repository) : Except ConfigError Processor := do
  c.validate
  return ⟨c, r, none, none⟩

def state (p : Processor) : Except ExecutionError TaskState :=
  match p.task with
  | some t => .ok t.state
  | none => .error .noTask

def stepClock (p : Processor) : Processor × Except ExecutionError Bool :=
  match p.fault with
  | some e => (p, .error e)
  | none =>
    match p.task with
    | none => (p, .error .noTask)
    | some t =>
      if t.state ≠ .active then (p, .ok false)
      else if t.tokens = 0 then ({ p with task := some t.exhaust }, .ok false)
      else
        match cycle p.config ⟨t, p.repository⟩ with
        | (s, none) =>
          let t := s.task.consumeToken
          ({ p with task := some t, repository := s.repository }, .ok (t.state == .active))
        | (s, some e) =>
          ({ p with task := some s.task, repository := s.repository, fault := some e }, .error e)

/-- Steps at most `limit` times, stopping when the task is no longer active or faults. -/
def runFor (p : Processor) : Nat → Processor × Except ExecutionError TaskState
  | 0 => (p, p.state)
  | limit + 1 =>
    match p.stepClock with
    | (p', .error e) => (p', .error e)
    | (p', .ok true) => p'.runFor limit
    | (p', .ok false) => (p', p'.state)

/-- Steps until the task is no longer active or faults. Every step that leaves the task
active spends one of its tokens, so one more step than it has tokens always suffices. -/
def run (p : Processor) : Processor × Except ExecutionError TaskState :=
  p.runFor (((p.task.map (·.tokens)).getD 0) + 1)

/-- Delivers the next message of the bag a waiting task waits on; whether the task is
active afterwards, and `false` while the bag is empty. -/
def resume (p : Processor) : Processor × Except ExecutionError Bool :=
  match p.task with
  | none => (p, .error .noTask)
  | some t =>
    match t.wait with
    | none => (p, .ok (t.state == .active))
    | some bag =>
      match p.repository.retrieve bag with
      | (_, none) => (p, .ok false)
      | (r, some m) =>
        match t.resume m with
        | (t', none) => ({ p with task := some t', repository := r }, .ok true)
        | (t', some e) => ({ p with task := some t', repository := r }, .error e)

/-- Starts a task of the given identity: `message` sent to `target`, whose type must be in
the repository. On success the fault is cleared. -/
def newTask (p : Processor) (id : TaskId) (account : Name) (tokens : Nat) (target : Value)
    (message : Symbol) (arguments : List Value) : Except ExecutionError Processor := do
  let typeName := target.typeName
  match p.repository.type? typeName with
  | none => throw (.activation (.unknownType typeName))
  | some compiled =>
    match Frame.activate compiled target message arguments 0 with
    | .error e => throw (.activation e)
    | .ok f => return { p with task := some (Task.start id account tokens f), fault := none }

/-- Loads a task from a snapshot, validated when the configuration validates. On success
the fault is cleared. -/
def loadTask (p : Processor) (s : Snapshot) : Except SnapshotError Processor := do
  let t ← s.thaw p.config.validates
  return { p with task := some t, fault := none }

def takeTask (p : Processor) : Processor × Option Task :=
  ({ p with task := none, fault := none }, p.task)

/-- The instruction at the current frame's address, when there is one and it decodes. -/
def nextInstruction (p : Processor) : Option Instruction :=
  match p.task.bind Task.frame? |>.bind Frame.peek? with
  | some w => (decode w).toOption
  | none => none

end Processor

end TaskMachine
