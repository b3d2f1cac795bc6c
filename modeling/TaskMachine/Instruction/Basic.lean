/-!
# Instructions

An instruction is one 16-bit word: a 3-bit opcode (bits 15 to 13), a 2-bit modifier (bits
12 and 11) and an 11-bit operand (bits 10 to 0). Operands that are addresses or table
indexes count from 1; an operand of 0 only occurs in `SKIP INSTRUCTION` and in `PULL`.

| opcode | modifier chooses | operand |
|---|---|---|
| `JUMP` | always, on none, on true, on false | target address (0 with always: skip) |
| `PUSH` | handler, literal, constant, argument | address or table index |
| `PULL` | handler, component, result, exception | 0 |
| `LOAD` `SAVE` `DROP` | variable, message, draft, document | variable index |
| `CALL` | argument count 0 to 3 | intrinsic index |
| `SEND` | to a component or a document, with or without arguments | message index |

Main statement: `Instruction.encode`, the word of an instruction, with the fields in
their bits.
-/

set_option autoImplicit false

namespace TaskMachine

abbrev Word := UInt16

def maxOperand : Nat := 0x7ff

inductive Opcode where
  | jump
  | push
  | pull
  | load
  | save
  | drop
  | call
  | send
  deriving DecidableEq, Repr, Inhabited

inductive Condition where
  | always
  | onNone
  | onTrue
  | onFalse
  deriving DecidableEq, Repr, Inhabited

inductive PushSource where
  | handler
  | literal
  | constant
  | argument
  deriving DecidableEq, Repr, Inhabited

inductive PullTarget where
  | handler
  | component
  | result
  | exception
  deriving DecidableEq, Repr, Inhabited

/-- Where `LOAD`, `SAVE` and `DROP` act: a variable, a message bag named by a variable,
or a draft or document named by a variable. -/
inductive Storage where
  | variable
  | message
  | draft
  | document
  deriving DecidableEq, Repr, Inhabited

/-- Where `SEND` finds its receiver, and whether it passes an argument list. -/
inductive SendTarget where
  | component
  | componentWithArguments
  | document
  | documentWithArguments
  deriving DecidableEq, Repr, Inhabited

def SendTarget.withArguments : SendTarget → Bool
  | .componentWithArguments | .documentWithArguments => true
  | _ => false

def SendTarget.isDocument : SendTarget → Bool
  | .document | .documentWithArguments => true
  | _ => false

inductive Instruction where
  | skip
  | jump (address : Nat) (condition : Condition)
  | push (source : PushSource) (operand : Nat)
  | pull (target : PullTarget)
  | load (storage : Storage) (slot : Nat)
  | save (storage : Storage) (slot : Nat)
  | drop (storage : Storage) (slot : Nat)
  | call (intrinsic : Nat) (arguments : Nat)
  | send (message : Nat) (target : SendTarget)
  deriving DecidableEq, Repr, Inhabited

namespace Opcode

def code : Opcode → Nat
  | .jump => 0
  | .push => 1
  | .pull => 2
  | .load => 3
  | .save => 4
  | .drop => 5
  | .call => 6
  | .send => 7

def ofCode (n : Nat) : Opcode :=
  match n % 8 with
  | 0 => .jump
  | 1 => .push
  | 2 => .pull
  | 3 => .load
  | 4 => .save
  | 5 => .drop
  | 6 => .call
  | _ => .send

def keyword : Opcode → String
  | .jump => "JUMP"
  | .push => "PUSH"
  | .pull => "PULL"
  | .load => "LOAD"
  | .save => "SAVE"
  | .drop => "DROP"
  | .call => "CALL"
  | .send => "SEND"

end Opcode

def Condition.code : Condition → Nat
  | .always => 0
  | .onNone => 1
  | .onTrue => 2
  | .onFalse => 3

def Condition.ofCode (n : Nat) : Condition :=
  match n % 4 with
  | 0 => .always
  | 1 => .onNone
  | 2 => .onTrue
  | _ => .onFalse

def PushSource.code : PushSource → Nat
  | .handler => 0
  | .literal => 1
  | .constant => 2
  | .argument => 3

def PushSource.ofCode (n : Nat) : PushSource :=
  match n % 4 with
  | 0 => .handler
  | 1 => .literal
  | 2 => .constant
  | _ => .argument

def PullTarget.code : PullTarget → Nat
  | .handler => 0
  | .component => 1
  | .result => 2
  | .exception => 3

def PullTarget.ofCode (n : Nat) : PullTarget :=
  match n % 4 with
  | 0 => .handler
  | 1 => .component
  | 2 => .result
  | _ => .exception

def Storage.code : Storage → Nat
  | .variable => 0
  | .message => 1
  | .draft => 2
  | .document => 3

def Storage.ofCode (n : Nat) : Storage :=
  match n % 4 with
  | 0 => .variable
  | 1 => .message
  | 2 => .draft
  | _ => .document

def SendTarget.code : SendTarget → Nat
  | .component => 0
  | .componentWithArguments => 1
  | .document => 2
  | .documentWithArguments => 3

def SendTarget.ofCode (n : Nat) : SendTarget :=
  match n % 4 with
  | 0 => .component
  | 1 => .componentWithArguments
  | 2 => .document
  | _ => .documentWithArguments

namespace Instruction

def opcode : Instruction → Opcode
  | .skip | .jump .. => .jump
  | .push .. => .push
  | .pull _ => .pull
  | .load .. => .load
  | .save .. => .save
  | .drop .. => .drop
  | .call .. => .call
  | .send .. => .send

def modifier : Instruction → Nat
  | .skip => 0
  | .jump _ c => c.code
  | .push s _ => s.code
  | .pull t => t.code
  | .load s _ | .save s _ | .drop s _ => s.code
  | .call _ n => n % 4
  | .send _ t => t.code

def operand : Instruction → Nat
  | .skip | .pull _ => 0
  | .jump a _ => a
  | .push _ n => n
  | .load _ n | .save _ n | .drop _ n => n
  | .call i _ => i
  | .send m _ => m

/-- The word of an instruction; an operand is cut to eleven bits. -/
def encode (i : Instruction) : Word :=
  (i.opcode.code * Nat.pow 2 13 + i.modifier * Nat.pow 2 11 + i.operand % Nat.pow 2 11).toUInt16

end Instruction

end TaskMachine
