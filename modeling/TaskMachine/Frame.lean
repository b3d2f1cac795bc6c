import TaskMachine.Compiled.Type
import TaskMachine.Fault

/-!
# Frames

A frame is one activation of a method: the receiver (the target) and the message, the
arguments, the method's variables and tables, the handler addresses pushed so far, the
code with the address of the next instruction and the last word fetched, and the height
of the component stack when the frame began (its base), below which it may not pop.

Tables count from 1. Argument 1 is the target and argument `i + 1` is the `i`-th
argument; a frame starts with as many arguments as the method has parameters, the
missing ones `none`, and every variable `none` (a variable named twice has one slot).

Main statements: `Frame.activate`, the table lookups, and `setVariable`.
-/

set_option autoImplicit false

namespace TaskMachine

structure Frame where
  target : Value
  message : Symbol
  arguments : List Value
  locals : List (Symbol × Value)
  constants : List Value
  literals : List Value
  messages : List Symbol
  handlers : List Nat
  bytecode : Bytecode
  address : Nat
  instruction : Word
  base : Nat
  deriving Inhabited

namespace Frame

/-- The frame that runs `message` on `target` with `arguments`, over a component stack of
height `base`. More arguments than parameters are refused; fewer are padded with `none`. -/
def activate (t : CompiledType) (target : Value) (message : Symbol) (arguments : List Value)
    (base : Nat) : Except ActivationError Frame :=
  match t.method? message with
  | none => .error (.unknownMessage t.name message)
  | some m =>
    if m.parameters.length < arguments.length then
      .error (.tooManyArguments message m.parameters.length arguments.length)
    else
      .ok { target, message
            arguments := arguments ++ List.replicate (m.parameters.length - arguments.length) .none
            locals := Catalog.ofEntries (m.variableNames.map fun v => (v, .none))
            constants := t.constants
            literals := m.literals
            messages := m.messages
            handlers := []
            bytecode := m.bytecode
            address := 1
            instruction := 0
            base }

/-- The word at the frame's address, if the address is inside the code. -/
def peek? (f : Frame) : Option Word :=
  f.bytecode.get? f.address

def advance (f : Frame) : Frame :=
  { f with address := f.address + 1 }

def jumpTo (f : Frame) (address : Nat) : Frame :=
  { f with address }

/-- The 1-based entry of a table, or the fault naming the table. -/
def entry {α : Type} (table : Table) (entries : List α) (i : Nat) : Except ExecutionError α :=
  match (if i = 0 then none else entries[i - 1]?) with
  | some v => .ok v
  | none => .error (.invalidIndex table i entries.length)

def argument (f : Frame) (i : Nat) : Except ExecutionError Value :=
  if i = 1 then .ok f.target
  else match (if i < 2 then none else f.arguments[i - 2]?) with
    | some v => .ok v
    | none => .error (.invalidIndex .argument i (f.arguments.length + 1))

def constant (f : Frame) (i : Nat) : Except ExecutionError Value :=
  entry .constant f.constants i

def literal (f : Frame) (i : Nat) : Except ExecutionError Value :=
  entry .literal f.literals i

def messageAt (f : Frame) (i : Nat) : Except ExecutionError Symbol :=
  entry .message f.messages i

def variableAt (f : Frame) (i : Nat) : Except ExecutionError Value :=
  (entry .variable f.locals i).map (·.2)

def setVariable (f : Frame) (i : Nat) (v : Value) : Except ExecutionError Frame :=
  if 1 ≤ i ∧ i ≤ f.locals.length then
    .ok { f with locals := f.locals.modify (i - 1) fun e => (e.1, v) }
  else .error (.invalidIndex .variable i f.locals.length)

def pushHandler (f : Frame) (address : Nat) : Frame :=
  { f with handlers := f.handlers ++ [address] }

/-- The innermost handler and the frame without it, or the fault of an empty stack. -/
def popHandler (f : Frame) : Except ExecutionError (Nat × Frame) :=
  match f.handlers.getLast? with
  | some h => .ok (h, { f with handlers := f.handlers.dropLast })
  | none => .error (.emptyHandlerStack f.address)

end Frame

end TaskMachine
