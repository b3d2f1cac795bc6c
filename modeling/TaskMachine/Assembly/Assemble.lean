import TaskMachine.Assembly.Source
import TaskMachine.Instruction.Basic
import TaskMachine.Intrinsic.Basic
import TaskMachine.Value.Ident
import TaskMachine.Decimal.Digits

/-!
# Assembling source text into words

Assembly goes in two passes. The first reads every line, numbers the instruction lines
and gives each label the address of the instruction after it; a label defined twice
stops assembly at once, before any instruction is read. The second pass reads the
instruction lines in order and stops at the first error.

An instruction line is the canonical text of an instruction, with two freedoms: an
address may be a label, and a table index may be symbolic (`$name`, or a literal in
backquotes for `PUSH LITERAL`), handed to a resolver that may keep state, such as
tables it fills as it goes. A written number must lie in `1..=2047`; an operand that
starts with a digit is always read as a number.

Main statements: `assemble`, `Resolver.numeric`, `AssembleError.message`.
-/

set_option autoImplicit false

namespace TaskMachine.Assembly

/-- Why a source text does not assemble; each error names its line. -/
inductive AssembleError where
  | unknownInstruction (line : Nat) (text : String)
  | unknownLabel (line : Nat) (label : String)
  | duplicateLabel (line : Nat) (label : String)
  | operandOutOfRange (line : Nat) (operand : String)
  | unresolvedOperand (line : Nat) (operand : String)
  | unknownIntrinsic (line : Nat) (name : String)
  deriving DecidableEq, Repr

def AssembleError.message : AssembleError → String
  | .unknownInstruction l t => linePrefix l ++ "unknown instruction `" ++ t ++ "`"
  | .unknownLabel l t => linePrefix l ++ "unknown label `" ++ t ++ "`"
  | .duplicateLabel l t => linePrefix l ++ "label `" ++ t ++ "` is already defined"
  | .operandOutOfRange l t =>
    linePrefix l ++ "operand `" ++ t ++ "` is out of range 1..=" ++ Decimal.natText maxOperand
  | .unresolvedOperand l t => linePrefix l ++ "cannot resolve operand `" ++ t ++ "`"
  | .unknownIntrinsic l t => linePrefix l ++ "unknown intrinsic `" ++ t ++ "`"
where
  linePrefix (l : Nat) : String := "line " ++ Decimal.natText l ++ ": "

/-- Turns symbolic operands into table indexes, with state of type `σ`. The literal is
the text between the backquotes; the others are symbols, `slot` naming a variable. `none` means unknown. -/
structure Resolver (σ : Type) where
  literal : String → σ → Option Nat × σ
  constant : Symbol → σ → Option Nat × σ
  argument : Symbol → σ → Option Nat × σ
  slot : Symbol → σ → Option Nat × σ
  message : Symbol → σ → Option Nat × σ

/-- The resolver that knows no symbol, for sources with numeric operands only. -/
def Resolver.numeric : Resolver Unit :=
  ⟨fun _ s => (none, s), fun _ s => (none, s), fun _ s => (none, s), fun _ s => (none, s),
    fun _ s => (none, s)⟩

abbrev Assembling (σ : Type) := StateT σ (Except AssembleError)

/-- An unsigned decimal: an optional `+` and at least one digit. -/
def unsignedValue? (text : String) : Option Nat :=
  let ds := match text.toList with
    | '+' :: rest => rest
    | cs => cs
  if !ds.isEmpty && ds.all Char.isDigit then
    some (ds.foldl (fun acc c => 10 * acc + (c.toNat - 0x30)) 0)
  else none

/-- Whether a token starts with an ASCII digit, and so is a number. -/
def startsWithDigit (text : String) : Bool :=
  match text.toList with
  | c :: _ => c.isDigit
  | [] => false

abbrev Labels := List (String × Nat)

section Operands

variable {σ : Type}

def number (line : Nat) (text : String) : Assembling σ Nat :=
  match unsignedValue? text with
  | some n => if 1 ≤ n && n ≤ maxOperand then pure n else throw (.operandOutOfRange line text)
  | none => throw (.operandOutOfRange line text)

def address (labels : Labels) (line : Nat) (text : String) : Assembling σ Nat :=
  if startsWithDigit text then number line text
  else match labels.lookup text with
    | some a => pure a
    | none => throw (.unknownLabel line text)

/-- A table index: a number, or what the resolver makes of the operand. -/
def index (line : Nat) (text : String) (resolve : σ → Option Nat × σ) : Assembling σ Nat := do
  if startsWithDigit text then number line text
  else
    let (found, s) := resolve (← get)
    set s
    match found with
    | some i => if 1 ≤ i && i ≤ maxOperand then pure i else throw (.operandOutOfRange line text)
    | none => throw (.unresolvedOperand line text)

/-- The text between the backquotes of a literal operand, if it is backquoted. -/
def backquoted? (text : String) : Option String :=
  match text.toList with
  | '`' :: rest =>
    match rest.reverse with
    | '`' :: inner => some (String.ofList inner.reverse)
    | _ => none
  | _ => none

/-- A literal operand: only a backquoted one reaches the resolver. -/
def literalIndex (r : Resolver σ) (line : Nat) (text : String) : Assembling σ Nat :=
  index line text fun s =>
    match backquoted? text with
    | some inner => r.literal inner s
    | none => (none, s)

/-- A call: the intrinsic by name, then the argument count, at most 3. -/
def callOf (line : Nat) (name count : String) : Assembling σ Instruction :=
  match Intrinsic.indexOf? name with
  | none => throw (.unknownIntrinsic line name)
  | some i =>
    match unsignedValue? count with
    | some n => if n ≤ 3 then pure (.call i n) else throw (.operandOutOfRange line count)
    | none => throw (.operandOutOfRange line count)

def parseLine (r : Resolver σ) (labels : Labels) (line : Nat) (tokens : List String) :
    Assembling σ Instruction :=
  let unknown : AssembleError := .unknownInstruction line (" ".intercalate tokens)
  let storageOf : String → Option Storage
    | "VARIABLE" => some .variable
    | "MESSAGE" => some .message
    | "DRAFT" => some .draft
    | "DOCUMENT" => some .document
    | _ => none
  let slot (text : String) := index line text (r.slot (Symbol.ofText text))
  let messageIndex (text : String) := index line text (r.message (Symbol.ofText text))
  match tokens with
  | ["SKIP", "INSTRUCTION"] => pure .skip
  | ["JUMP", "TO", a] => do return .jump (← address labels line a) .always
  | ["JUMP", "TO", a, "ON", c] =>
    let condition? : Option Condition := match c with
      | "NONE" => some .onNone
      | "TRUE" => some .onTrue
      | "FALSE" => some .onFalse
      | _ => none
    match condition? with
    | some condition => do return .jump (← address labels line a) condition
    | none => throw unknown
  | ["PUSH", "HANDLER", a] => do return .push .handler (← address labels line a)
  | ["PUSH", "LITERAL", o] => do return .push .literal (← literalIndex r line o)
  | ["PUSH", "CONSTANT", o] => do
    return .push .constant (← index line o (r.constant (Symbol.ofText o)))
  | ["PUSH", "ARGUMENT", o] => do
    return .push .argument (← index line o (r.argument (Symbol.ofText o)))
  | ["PULL", "HANDLER"] => pure (.pull .handler)
  | ["PULL", "COMPONENT"] => pure (.pull .component)
  | ["PULL", "RESULT"] => pure (.pull .result)
  | ["PULL", "EXCEPTION"] => pure (.pull .exception)
  | ["LOAD", s, o] =>
    match storageOf s with
    | some storage => do return .load storage (← slot o)
    | none => throw unknown
  | ["SAVE", s, o] =>
    match storageOf s with
    | some storage => do return .save storage (← slot o)
    | none => throw unknown
  | ["DROP", s, o] =>
    match storageOf s with
    | some storage => do return .drop storage (← slot o)
    | none => throw unknown
  | ["CALL", name] => callOf line name "0"
  | ["CALL", name, "WITH", count, "ARGUMENT"] => callOf line name count
  | ["CALL", name, "WITH", count, "ARGUMENTS"] => callOf line name count
  | ["SEND", m, "TO", "COMPONENT"] => do return .send (← messageIndex m) .component
  | ["SEND", m, "TO", "DOCUMENT"] => do return .send (← messageIndex m) .document
  | ["SEND", m, "TO", "COMPONENT", "WITH", "ARGUMENTS"] => do
    return .send (← messageIndex m) .componentWithArguments
  | ["SEND", m, "TO", "DOCUMENT", "WITH", "ARGUMENTS"] => do
    return .send (← messageIndex m) .documentWithArguments
  | _ => throw unknown

end Operands

/-- The first pass: the labels with their addresses, and the instruction lines with
their line numbers, or the first label defined twice. -/
def collectLines : List String → Nat → Labels → List (Nat × List String) →
    Except AssembleError (Labels × List (Nat × List String))
  | [], _, labels, found => .ok (labels, found.reverse)
  | raw :: rest, line, labels, found =>
    match classify (tokenize raw) with
    | .blank => collectLines rest (line + 1) labels found
    | .label name =>
      if (labels.lookup name).isSome then .error (.duplicateLabel line name)
      else collectLines rest (line + 1) ((name, found.length + 1) :: labels) found
    | .instruction tokens => collectLines rest (line + 1) labels ((line, tokens) :: found)

/-- Assembles a source text with a resolver from a starting state, giving the words and
the resolver's final state. -/
def assembleWith {σ : Type} (r : Resolver σ) (source : String) (start : σ) :
    Except AssembleError (List Word × σ) := do
  let (labels, lines) ← collectLines (sourceLines source) 1 [] []
  let words : Assembling σ (List Word) :=
    lines.mapM fun (line, tokens) => do return (← parseLine r labels line tokens).encode
  words.run start

/-- Assembles a source text whose operands are all numbers or labels. -/
def assemble (source : String) : Except AssembleError (List Word) :=
  (assembleWith Resolver.numeric source ()).map (·.1)

end TaskMachine.Assembly
