import TaskMachine.Machine.Exec
import TaskMachine.Intrinsic.Invoke
import TaskMachine.Instruction.Decode

/-!
# Running one instruction: the instruction set

What each instruction does, in the order in which its effects happen:

- `JUMP` pops its condition (none, or a boolean, else `$invalidArgument`), then jumps or
  moves on; `SKIP` moves on.
- `PUSH HANDLER` checks and records a handler address; the other `PUSH`es read a table
  entry and push it.
- `PULL HANDLER` drops a handler, `PULL COMPONENT` a component; `PULL RESULT` pops the
  result, drops the frame with its components and gives the result to the caller, which
  moves on, or completes the task; `PULL EXCEPTION` pops a value and raises it.
- `LOAD` pushes a variable, a document or draft named by a variable (`$missingDocument`
  if there is none), or the next message of the bag a variable names; an empty bag makes
  the task wait on the bag without moving on.
- `SAVE` pops into a variable, a document, a draft or a bag; `DROP` clears a variable or
  deletes a document or draft; messages are only removed by `LOAD`.
- `CALL` pops its operands and pushes what the intrinsic returns; a call the intrinsic
  refuses raises `$unknownCapability` or `$invalidArgument`.
- `SEND` pops an argument list if it has one, then the receiver (for a document target,
  the name of the document that is the receiver), finds the receiver's type and method,
  and starts a frame over the components left; the caller stays on the `SEND` until the
  callee returns.

A cycle fetches the word at the current address (a fault past the end), records it as
the frame's instruction, decodes it (a fault if malformed) and runs it; an exception it
raises unwinds the task.

Main statements: `execute` and `cycle`.
-/

set_option autoImplicit false

namespace TaskMachine

namespace Exec

def execJump (c : Config) (address : Nat) (condition : Condition) : Exec Unit := do
  let taken ← match condition with
    | .always => pure true
    | .onNone => do
      match ← pop with
      | .none => pure true
      | _ => pure false
    | .onTrue | .onFalse => do
      match ← pop with
      | .boolean b => pure (b == (condition == .onTrue))
      | other =>
        raise .invalidArgument ("jump condition " ++ other.display ++ " is not a boolean")
  if taken then jumpTo c address else advance

def execPush (c : Config) (source : PushSource) (operand : Nat) : Exec Unit := do
  match source with
  | .handler =>
    checkAddress c operand
    modifyFrame fun f => f.pushHandler operand
  | .literal => push c (← orFault ((← frame).literal operand))
  | .constant => push c (← orFault ((← frame).constant operand))
  | .argument => push c (← orFault ((← frame).argument operand))
  advance

def execPull (target : PullTarget) : Exec Unit := do
  match target with
  | .handler => do
    let (_, f) ← orFault (← frame).popHandler
    modifyFrame fun _ => f
    advance
  | .component => do
    let _ ← pop
    advance
  | .result => do
    let result ← pop
    let t ← task
    match t.frame? with
    | none => fault .emptyCallStack
    | some f =>
      let t := { t with frames := t.frames.dropLast }.truncateComponents f.base
      match t.frame? with
      | some _ => modifyTask fun _ => (t.modifyFrame Frame.advance).pushComponent result
      | none => do
        modifyTask fun _ => t
        let done ← orFault (t.complete result)
        modifyTask fun _ => done
  | .exception => do
    let exception ← pop
    throw (.raise exception)

def missing {α : Type} (kind : String) (n : Name) : Exec α :=
  raise .missingDocument ("no " ++ kind ++ " named " ++ n.display)

def execLoad (c : Config) (storage : Storage) (slot : Nat) : Exec Unit := do
  match storage with
  | .variable => push c (← orFault ((← frame).variableAt slot))
  | .message => do
    let bag ← nameIn slot
    let (repository, message) := (← get).repository.retrieve bag
    modifyRepository fun _ => repository
    match message with
    | some m => push c m
    | none => do
      let waiting ← orFault ((← task).waitOn bag)
      modifyTask fun _ => waiting
      return
  | .draft => do
    let n ← nameIn slot
    match (← get).repository.draft? n with
    | some v => push c v
    | none => missing "draft" n
  | .document => do
    let n ← nameIn slot
    match (← get).repository.document? n with
    | some v => push c v
    | none => missing "document" n
  advance

def execSave (storage : Storage) (slot : Nat) : Exec Unit := do
  match storage with
  | .variable => do
    let v ← pop
    let f ← orFault ((← frame).setVariable slot v)
    modifyFrame fun _ => f
  | .message => do
    let bag ← nameIn slot
    let v ← pop
    modifyRepository fun r => r.post bag v
  | .draft => do
    let n ← nameIn slot
    let v ← pop
    modifyRepository fun r => r.writeDraft n v
  | .document => do
    let n ← nameIn slot
    let v ← pop
    modifyRepository fun r => r.writeDocument n v
  advance

def execDrop (storage : Storage) (slot : Nat) : Exec Unit := do
  match storage with
  | .variable => do
    let f ← orFault ((← frame).setVariable slot .none)
    modifyFrame fun _ => f
  | .message => raise .invalidArgument "messages are only removed by LOAD MESSAGE"
  | .draft => do
    let n ← nameIn slot
    let (repository, found) := (← get).repository.deleteDraft n
    modifyRepository fun _ => repository
    if !found then missing "draft" n
  | .document => do
    let n ← nameIn slot
    let (repository, found) := (← get).repository.deleteDocument n
    modifyRepository fun _ => repository
    if !found then missing "document" n
  advance

/-- Pops `count` components, the last popped first in the result. -/
def popMany : Nat → Exec (List Value)
  | 0 => pure []
  | n + 1 => do
    let top ← pop
    let below ← popMany n
    pure (below ++ [top])

def execCall (c : Config) (intrinsic arguments : Nat) : Exec Unit := do
  let operands ← popMany arguments
  match invoke intrinsic operands with
  | .ok v => push c v
  | .error e =>
    match e with
    | .invalidArgument .. => raise .invalidArgument e.message
    | _ => raise .unknownCapability e.message
  advance

/-- The argument list of a send of `m`: popped when the send has one, else empty. -/
def sendArguments (target : SendTarget) (m : Symbol) : Exec (List Value) :=
  if target.withArguments then do
    match ← pop with
    | .list items => pure items
    | other =>
      raise .invalidArgument
        ("arguments to " ++ m.display ++ " must be a list, got " ++ other.display)
  else pure []

/-- The receiver of a send: the popped value, or the document it names. -/
def resolveReceiver (target : SendTarget) (receiver : Value) : Exec Value :=
  if target.isDocument then do
    match receiver with
    | .name n =>
      match (← get).repository.document? n with
      | some v => pure v
      | none => missing "document" n
    | other => raise .invalidArgument ("document target " ++ other.display ++ " is not a name")
  else pure receiver

/-- Starts a frame running `m` on a receiver, over the components left. -/
def startCallee (c : Config) (receiver : Value) (m : Symbol) (arguments : List Value) :
    Exec Unit := do
  let typeName := receiver.typeName
  match (← get).repository.type? typeName with
  | none => raise .unresolvedTarget (ActivationError.unknownType typeName).message
  | some compiled =>
    let t ← task
    if c.maxContexts ≤ t.frames.length then
      raise .stackOverflow
        ("call stack is limited to " ++ Decimal.natText c.maxContexts ++ " frames")
    match Frame.activate compiled receiver m arguments t.components.length with
    | .ok f => modifyTask fun t => { t with frames := t.frames ++ [f] }
    | .error e => raise .unresolvedTarget e.message

def execSend (c : Config) (message : Nat) (target : SendTarget) : Exec Unit := do
  let m ← orFault ((← frame).messageAt message)
  let arguments ← sendArguments target m
  let receiver ← resolveReceiver target (← pop)
  startCallee c receiver m arguments

def execute (c : Config) : Instruction → Exec Unit
  | .skip => advance
  | .jump address condition => execJump c address condition
  | .push source operand => execPush c source operand
  | .pull target => execPull target
  | .load storage slot => execLoad c storage slot
  | .save storage slot => execSave storage slot
  | .drop storage slot => execDrop storage slot
  | .call intrinsic arguments => execCall c intrinsic arguments
  | .send message target => execSend c message target

/-- Fetches and decodes the current instruction, recording its word, then runs it. -/
def fetchAndExecute (c : Config) : Exec Unit := do
  let f ← frame
  match f.peek? with
  | none => fault (.ranOffBytecode f.address f.bytecode.length)
  | some w =>
    modifyFrame fun f => { f with instruction := w }
    match decode w with
    | .error e => fault (.malformed f.address w e)
    | .ok i => execute c i

end Exec

/-- One instruction cycle on a machine state: the state after it, and its fault if it
had one. A raised exception unwinds the task. -/
def cycle (c : Config) (s : MachineState) : MachineState × Option ExecutionError :=
  match (Exec.fetchAndExecute c).run s with
  | .ok _ s' => (s', none)
  | .error (.fault e) s' => (s', some e)
  | .error (.raise exception) s' =>
    let (t, e) := s'.task.raise exception
    ({ s' with task := t }, e)

end TaskMachine
