/-!
# Task states

A task is active while it runs, waiting while it expects a message, and ends completed
with a result or abandoned with an exception. The moves are: an active task may wait,
complete or be abandoned, and a waiting one may become active again or be abandoned.
Completed and abandoned are final.

Main statements: `TaskState.canMoveTo` and `canMoveTo_of_terminal`, nothing leaves a final
state.
-/

set_option autoImplicit false

namespace TaskMachine

inductive TaskState where
  | active
  | waiting
  | completed
  | abandoned
  deriving DecidableEq, Repr, Inhabited

namespace TaskState

def label : TaskState → String
  | .active => "Active"
  | .waiting => "Waiting"
  | .completed => "Completed"
  | .abandoned => "Abandoned"

def isTerminal : TaskState → Bool
  | .completed | .abandoned => true
  | _ => false

def canMoveTo : TaskState → TaskState → Bool
  | .active, .waiting | .active, .completed | .active, .abandoned => true
  | .waiting, .active | .waiting, .abandoned => true
  | _, _ => false

theorem canMoveTo_of_terminal (s t : TaskState) (terminal : s.isTerminal = true) :
    s.canMoveTo t = false := by
  cases s <;> cases t <;> simp_all [isTerminal, canMoveTo]

end TaskState

end TaskMachine
