import TaskMachine.Value.Basic
import TaskMachine.Decimal.Shortest
import TaskMachine.Text.Quoted

/-!
# Written form of values, their types, and exceptions

How a value is written in messages: `none`, `true`, `false`, a number as its shortest
positional text, a text quoted and escaped, a symbol with its `$`, a name as its path,
a list as `[a, b]` and a catalog as `[$k: v]`, the empty catalog as `[:]`.

Every value has a type name: a catalog whose `type` entry is a name is an instance of
that type, and every other value is an instance of the built-in type of its kind,
`/tessera/types/<Kind>`. An exception is a catalog `[$exception: $kind, $text: "…"]`.

Main statements: `Value.display`, `Value.typeName`, `Value.exception`.
-/

set_option autoImplicit false

namespace TaskMachine

namespace Value

mutual

def display : Value → String
  | .none => "none"
  | .boolean b => if b then "true" else "false"
  | .number x => Decimal.numberText x
  | .text s => Text.quote s
  | .symbol s => s.display
  | .name n => n.display
  | .list items => "[" ++ displayItems items ++ "]"
  | .catalog [] => "[:]"
  | .catalog (e :: es) => "[" ++ displayEntries (e :: es) ++ "]"

def displayItems : List Value → String
  | [] => ""
  | [x] => display x
  | x :: y :: rest => display x ++ ", " ++ displayItems (y :: rest)

def displayEntries : List (Symbol × Value) → String
  | [] => ""
  | [(k, v)] => k.display ++ ": " ++ display v
  | (k, v) :: e :: rest => k.display ++ ": " ++ display v ++ ", " ++ displayEntries (e :: rest)

end

end Value

def Tag.typeName (t : Tag) : Name :=
  ⟨["tessera", "types", t.label]⟩

inductive ExceptionKind where
  | resourceExhausted
  | unresolvedTarget
  | unknownCapability
  | invalidArgument
  | missingDocument
  | stackOverflow
  deriving DecidableEq, Repr, Inhabited

def ExceptionKind.symbol : ExceptionKind → Symbol
  | .resourceExhausted => ⟨"resourceExhausted"⟩
  | .unresolvedTarget => ⟨"unresolvedTarget"⟩
  | .unknownCapability => ⟨"unknownCapability"⟩
  | .invalidArgument => ⟨"invalidArgument"⟩
  | .missingDocument => ⟨"missingDocument"⟩
  | .stackOverflow => ⟨"stackOverflow"⟩

namespace Value

def typeName (v : Value) : Name :=
  match v.get? ⟨"type"⟩ with
  | some (.name n) => n
  | _ => v.tag.typeName

def exception (kind : ExceptionKind) (text : String) : Value :=
  .catalog [(⟨"exception"⟩, .symbol kind.symbol), (⟨"text"⟩, .text text)]

/-- The kind symbol of an exception, when the value is a catalog with a symbol under
`exception`. -/
def exceptionKind? (v : Value) : Option Symbol :=
  match v.get? ⟨"exception"⟩ with
  | some (.symbol s) => some s
  | _ => Option.none

end Value

end TaskMachine
