import TaskMachine.Task.Basic
import TaskMachine.Repository
import TaskMachine.Config

/-!
# Running one instruction: the effects

An instruction changes the task and the repository. It ends normally, raises an
exception value that the task's handlers may catch, or faults; either way the changes it
made before it stopped remain. `Exec` is that: a state of task and repository, and an
interrupt that keeps the state at the point where it arose.

The effects here are the ones every instruction uses: the current frame (a fault without
one), popping a component (a fault below the frame's base), pushing one (an exception at
the component limit), jumping (a fault outside the code when targets are checked), and
reading a name out of a variable.

Main statements: `pop`, `push`, `jumpTo`, `nameIn`, and `Task.raise`, which unwinds to
the innermost handler.
-/

set_option autoImplicit false

namespace TaskMachine

structure MachineState where
  task : Task
  repository : Repository
  deriving Inhabited

inductive Interrupt where
  | raise (exception : Value)
  | fault (error : ExecutionError)

abbrev Exec := EStateM Interrupt MachineState

namespace Exec

def fault {α : Type} (e : ExecutionError) : Exec α := throw (.fault e)

def raise {α : Type} (kind : ExceptionKind) (text : String) : Exec α :=
  throw (.raise (Value.exception kind text))

def orFault {α : Type} : Except ExecutionError α → Exec α
  | .ok a => pure a
  | .error e => fault e

def task : Exec Task := do return (← get).task

def modifyTask (f : Task → Task) : Exec Unit :=
  modify fun s => { s with task := f s.task }

def modifyRepository (f : Repository → Repository) : Exec Unit :=
  modify fun s => { s with repository := f s.repository }

def frame : Exec Frame := do
  match (← task).frame? with
  | some f => pure f
  | none => fault .emptyCallStack

def modifyFrame (f : Frame → Frame) : Exec Unit := do
  let _ ← frame
  modifyTask fun t => t.modifyFrame f

def advance : Exec Unit := modifyFrame Frame.advance

/-- When targets are checked, a fault for a target outside the current frame's code. -/
def checkAddress (c : Config) (target : Nat) : Exec Unit := do
  let f ← frame
  let len := f.bytecode.length
  if c.validates && (target = 0 || len < target) then
    fault (.invalidAddress f.address target len)

def jumpTo (c : Config) (target : Nat) : Exec Unit := do
  checkAddress c target
  modifyFrame fun f => f.jumpTo target

/-- Pops the top component; a fault when that would go below the frame's base. -/
def pop : Exec Value := do
  let f ← frame
  let t ← task
  match t.popComponent with
  | some (v, t') =>
    if t.components.length ≤ f.base then fault (.componentUnderflow f.address)
    else do
      modifyTask fun _ => t'
      pure v
  | none => fault (.componentUnderflow f.address)

/-- Pushes a component; a `$stackOverflow` exception at the limit. -/
def push (c : Config) (v : Value) : Exec Unit := do
  if c.maxComponents ≤ (← task).components.length then
    raise .stackOverflow
      ("component stack is limited to " ++ Decimal.natText c.maxComponents ++ " values")
  modifyTask fun t => t.pushComponent v

/-- The name held by a variable; a fault for a bad index and an `$invalidArgument`
exception for a value that is not a name. -/
def nameIn (slot : Nat) : Exec Name := do
  match ← orFault ((← frame).variableAt slot) with
  | .name n => pure n
  | other =>
    raise .invalidArgument
      ("variable " ++ Decimal.natText slot ++ " holds " ++ other.display ++ ", not a name")

end Exec

/-- Unwinds frames, the current one first, to the innermost one with a handler: it jumps
to its last handler with the exception on its component stack cut to its base. Every
frame above it is dropped with its components. With no handler anywhere the task is
abandoned with the exception. -/
def Task.unwindFrames (exception : Value) (t : Task) : List Frame → Task × Option ExecutionError
  | [] =>
    match t.abandon exception with
    | .ok t' => (t', none)
    | .error e => (t, some e)
  | f :: below =>
    match f.handlers.getLast? with
    | some h =>
      ({ t with
          frames := below.reverse ++ [{ f with handlers := f.handlers.dropLast, address := h }]
          components := t.components.take f.base ++ [exception] }, none)
    | none =>
      Task.unwindFrames exception
        { t with frames := below.reverse, components := t.components.take f.base } below

def Task.raise (t : Task) (exception : Value) : Task × Option ExecutionError :=
  t.unwindFrames exception t.frames.reverse

end TaskMachine
