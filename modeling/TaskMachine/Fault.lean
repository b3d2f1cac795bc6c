import TaskMachine.Task.State
import TaskMachine.Instruction.Decode
import TaskMachine.Value.Display

/-!
# Execution faults

A fault is an error of the machine itself, as opposed to an exception that the running
code can catch: a table index past its table, running off the code, a malformed word,
a jump outside the code (when targets are checked), an empty handler or call stack, a
component stack popped below its frame, a move between task states that is not allowed,
no task at all, or a frame that cannot be activated.

Main statements: `ExecutionError.message` and `ActivationError.message`.
-/

set_option autoImplicit false

namespace TaskMachine

inductive Table where
  | argument
  | constant
  | literal
  | message
  | variable
  deriving DecidableEq, Repr

def Table.label : Table → String
  | .argument => "argument"
  | .constant => "constant"
  | .literal => "literal"
  | .message => "message"
  | .variable => "variable"

inductive ActivationError where
  | unknownType (name : Name)
  | unknownMessage (typeName : Name) (message : Symbol)
  | tooManyArguments (message : Symbol) (expected found : Nat)
  deriving DecidableEq, Repr

def ActivationError.message : ActivationError → String
  | .unknownType n => "no compiled type named " ++ n.display
  | .unknownMessage t m => "type " ++ t.display ++ " does not define " ++ m.display
  | .tooManyArguments m e f =>
    m.display ++ " takes " ++ Decimal.natText e ++ " argument(s) but " ++ Decimal.natText f ++
      " were given"

inductive ExecutionError where
  | invalidIndex (table : Table) (index length : Nat)
  | ranOffBytecode (address length : Nat)
  | malformed (address : Nat) (word : Word) (cause : DecodeError)
  | invalidAddress (address target length : Nat)
  | emptyHandlerStack (address : Nat)
  | componentUnderflow (address : Nat)
  | emptyCallStack
  | invalidTransition (source target : TaskState)
  | noTask
  | activation (cause : ActivationError)
  deriving DecidableEq, Repr

def ExecutionError.message : ExecutionError → String
  | .invalidIndex t i n =>
    t.label ++ " index " ++ Decimal.natText i ++ " out of range (table has " ++
      Decimal.natText n ++ " entries)"
  | .ranOffBytecode a n =>
    "fetch at address " ++ Decimal.natText a ++ " ran off the end of " ++ Decimal.natText n ++
      " instructions"
  | .malformed a _ cause => "malformed instruction at address " ++ Decimal.natText a ++ ": " ++
      cause.message
  | .invalidAddress a target n =>
    "address " ++ Decimal.natText target ++ " at " ++ Decimal.natText a ++ " is outside 1..=" ++
      Decimal.natText n
  | .emptyHandlerStack a => "handler stack is empty at address " ++ Decimal.natText a
  | .componentUnderflow a => "component stack underflow at address " ++ Decimal.natText a
  | .emptyCallStack => "call stack is empty"
  | .invalidTransition s t =>
    "invalid task transition from " ++ s.label ++ " to " ++ t.label
  | .noTask => "no task is loaded"
  | .activation cause => cause.message

end TaskMachine
