import TaskMachine.Frame
import TaskMachine.TaskId

/-!
# Tasks

A task is a running computation owned by an account: a call stack of frames (the
current one last), one component stack shared by its frames, a token budget and the
tokens left, its state, the bag it waits on, the bag its outcome is posted to, and its
result or exception once it ends.

Every executed instruction costs a token. Spending the last one abandons the task with a
`$resourceExhausted` exception, even a task that has just completed. Ending a task empties
its stacks and clears its wait; completing sets the result, abandoning clears it and sets
the exception.

Main statements: `Task.moveTo`, `complete`, `abandon`, `waitOn`, `resume`, `consumeToken`,
`exhaust`.
-/

set_option autoImplicit false

namespace TaskMachine

structure Task where
  id : TaskId
  account : Name
  tokens : Nat
  budget : Nat
  frames : List Frame
  components : List Value
  state : TaskState
  wait : Option Name
  replyTo : Option Name
  result : Option Value
  exception : Option Value
  deriving Inhabited

namespace Task

/-- A new active task of one frame, with all of its budget left. -/
def start (id : TaskId) (account : Name) (tokens : Nat) (frame : Frame) : Task :=
  ⟨id, account, tokens, tokens, [frame], [], .active, none, none, none, none⟩

def outcome (t : Task) : Option Value :=
  t.result <|> t.exception

def frame? (t : Task) : Option Frame :=
  t.frames.getLast?

/-- The task with its current frame changed by `f`; nothing changes without frames. -/
def modifyFrame (t : Task) (f : Frame → Frame) : Task :=
  match t.frames.getLast? with
  | some frame => { t with frames := t.frames.dropLast ++ [f frame] }
  | none => t

def exhaustion (t : Task) : Value :=
  Value.exception .resourceExhausted
    ("task " ++ t.id.display ++ " used all " ++ Decimal.natText t.budget ++ " tokens")

/-- Ends a task: stacks emptied, no wait, and the payload as result or exception. -/
def finish (t : Task) (state : TaskState) (payload : Value) : Task :=
  let t := { t with state, frames := [], components := [], wait := none }
  match state with
  | .completed => { t with result := some payload }
  | _ => { t with result := none, exception := some payload }

def moveTo (t : Task) (next : TaskState) : Except ExecutionError Task :=
  if t.state.canMoveTo next then .ok { t with state := next }
  else .error (.invalidTransition t.state next)

def complete (t : Task) (result : Value) : Except ExecutionError Task :=
  (t.moveTo .completed).map fun t => t.finish .completed result

def abandon (t : Task) (exception : Value) : Except ExecutionError Task :=
  (t.moveTo .abandoned).map fun t => t.finish .abandoned exception

def waitOn (t : Task) (bag : Name) : Except ExecutionError Task :=
  (t.moveTo .waiting).map fun t => { t with wait := some bag }

/-- Resumes a waiting task with the message it waited for: the message goes on the
component stack and the current frame moves past the instruction that waited. Without a
frame the task is left active with the message and the fault is reported. -/
def resume (t : Task) (reply : Value) : Task × Option ExecutionError :=
  match t.moveTo .active with
  | .error e => (t, some e)
  | .ok t =>
    let t := { t with wait := none, components := t.components ++ [reply] }
    match t.frame? with
    | some _ => (t.modifyFrame Frame.advance, none)
    | none => (t, some .emptyCallStack)

/-- Spends one token; the last one abandons the task unless it is abandoned already. -/
def consumeToken (t : Task) : Task :=
  let t := { t with tokens := t.tokens - 1 }
  if t.tokens = 0 ∧ t.state ≠ .abandoned then t.finish .abandoned t.exhaustion else t

def exhaust (t : Task) : Task :=
  if t.state.isTerminal then t else t.finish .abandoned t.exhaustion

def pushComponent (t : Task) (v : Value) : Task :=
  { t with components := t.components ++ [v] }

def popComponent (t : Task) : Option (Value × Task) :=
  t.components.getLast?.map fun v => (v, { t with components := t.components.dropLast })

def truncateComponents (t : Task) (height : Nat) : Task :=
  { t with components := t.components.take height }

end Task

end TaskMachine
