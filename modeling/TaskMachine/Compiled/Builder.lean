import TaskMachine.Compiled.Type
import TaskMachine.Assembly.Assemble
import TaskMachine.Assembly.Literal

/-!
# Building methods from source

A method is assembled with a resolver that fills its tables as the source names them.
A literal is parsed and interned by value equality, so equal literals share a slot (and
`NaN`, equal to nothing, always takes a new one). A constant is found by its position
among the type's constant names at the time; an argument is `$target` at index 1 or a
parameter at its position plus one; variables and messages are interned by name, and a
new one is appended. Indexes count from 1. A constant's or a parameter's index is its
position plus one or two taken as a 16-bit number, so past the first `2 ^ 16` names it
wraps around to a small index.

Main statements: `MethodTables.resolver`, `buildMethod`, `CompiledType.withSourceMethod`, and
`CompiledType.build`, which defines a type's constants and then assembles its methods.
-/

set_option autoImplicit false

namespace TaskMachine

structure MethodTables where
  parameters : List Symbol
  variableNames : List Symbol
  literals : List Value
  messages : List Symbol
  deriving Inhabited

namespace MethodTables

/-- The 1-based index of a symbol in a table, appending it when it is new. -/
def intern (table : List Symbol) (s : Symbol) : Nat × List Symbol :=
  match table.idxOf? s with
  | some i => (i + 1, table)
  | none => (table.length + 1, table ++ [s])

/-- The 1-based index of a value equal to `v`, appending `v` when there is none. -/
def internValue (table : List Value) (v : Value) : Nat × List Value :=
  match table.findIdx? (·.equal v) with
  | some i => (i + 1, table)
  | none => (table.length + 1, table ++ [v])

def addParameter (t : MethodTables) (p : Symbol) : MethodTables :=
  { t with parameters := (intern t.parameters p).2 }

/-- The resolver of a method of a type whose constants are named `constants`. -/
def resolver (constants : List Symbol) : Assembly.Resolver MethodTables where
  literal text t :=
    match Assembly.parseLiteral text with
    | some v =>
      let (i, literals) := internValue t.literals v
      (some i, { t with literals })
    | none => (none, t)
  constant name t := ((constants.idxOf? name).map fun i => (i + 1) % Nat.pow 2 16, t)
  argument name t :=
    if name.text = "target" then (some 1, t)
    else ((t.parameters.idxOf? name).map fun i => (i + 2) % Nat.pow 2 16, t)
  slot name t :=
    let (i, variableNames) := intern t.variableNames name
    (some i, { t with variableNames })
  message name t :=
    let (i, messages) := intern t.messages name
    (some i, { t with messages })

end MethodTables

def buildMethod (constants : List Symbol) (parameters : List Symbol) (source : String) :
    Except Assembly.AssembleError Method := do
  let start := parameters.foldl MethodTables.addParameter ⟨[], [], [], []⟩
  let (words, t) ← Assembly.assembleWith (MethodTables.resolver constants) source start
  return ⟨t.parameters, t.variableNames, t.literals, t.messages, ⟨words⟩⟩

/-- The type with a method assembled from source against its current constants. -/
def CompiledType.withSourceMethod (t : CompiledType) (message : Symbol)
    (parameters : List Symbol) (source : String) :
    Except Assembly.AssembleError CompiledType := do
  let m ← buildMethod t.constantNames parameters source
  return t.withMethod message m

/-- The type of a name with its constants defined in order, then its methods assembled from
source in order, the first assembly error ending the build. -/
def CompiledType.build (name : Name) (constants : List (Symbol × Value))
    (methods : List (Symbol × List Symbol × String)) :
    Except Assembly.AssembleError CompiledType :=
  methods.foldlM (fun t (message, parameters, source) => t.withSourceMethod message parameters source)
    (constants.foldl (fun t (constant, v) => t.withConstant constant v) (CompiledType.empty name))

end TaskMachine
