import TaskMachine.Bytecode
import TaskMachine.Value.Basic

/-!
# Compiled types

A compiled type is what a message sent to its instances runs: a name, a table of named
constants shared by its methods, and its methods keyed by message in definition order.
A method lists its parameter names, its variable names, the literals and message symbols
its code refers to by index, and the code.

Main statements: `CompiledType.method?`, and `CompiledType.withMethod`, which puts a
method in the place of an earlier one of the same message or after the others.
-/

set_option autoImplicit false

namespace TaskMachine

structure Method where
  parameters : List Symbol
  variableNames : List Symbol
  literals : List Value
  messages : List Symbol
  bytecode : Bytecode
  deriving Inhabited

structure CompiledType where
  name : Name
  constantNames : List Symbol
  constants : List Value
  methods : List (Symbol × Method)
  deriving Inhabited

namespace CompiledType

def empty (name : Name) : CompiledType := ⟨name, [], [], []⟩

def method? (t : CompiledType) (message : Symbol) : Option Method :=
  t.methods.lookup message

/-- The type with a method for a message: in place if the message has one, else last. -/
def withMethod (t : CompiledType) (message : Symbol) (m : Method) : CompiledType :=
  if t.methods.any (·.1 == message) then
    { t with methods := t.methods.map fun e => if e.1 == message then (message, m) else e }
  else { t with methods := t.methods ++ [(message, m)] }

/-- The type with a constant: its value replaced if the name is defined, else appended. -/
def withConstant (t : CompiledType) (name : Symbol) (v : Value) : CompiledType :=
  match t.constantNames.idxOf? name with
  | some i => { t with constants := t.constants.set i v }
  | none => { t with constantNames := t.constantNames ++ [name], constants := t.constants ++ [v] }

end CompiledType

end TaskMachine
