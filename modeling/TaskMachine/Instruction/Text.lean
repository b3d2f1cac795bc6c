import TaskMachine.Instruction.Basic
import TaskMachine.Intrinsic.Basic
import TaskMachine.Decimal.Digits

/-!
# The text of an instruction

Each instruction has one canonical text, which the assembler reads back:
`SKIP INSTRUCTION`, `JUMP TO 5 ON TRUE`, `PUSH LITERAL 2`, `PULL RESULT`,
`SAVE DRAFT 1`, `CALL $sum WITH 2 ARGUMENTS`, `SEND 3 TO DOCUMENT WITH ARGUMENTS`. Its
mnemonic is the first two words.

Main statements: `Instruction.text` and `Instruction.mnemonic`.
-/

set_option autoImplicit false

namespace TaskMachine

def Condition.suffix : Condition → String
  | .always => ""
  | .onNone => " ON NONE"
  | .onTrue => " ON TRUE"
  | .onFalse => " ON FALSE"

def PushSource.keyword : PushSource → String
  | .handler => "HANDLER"
  | .literal => "LITERAL"
  | .constant => "CONSTANT"
  | .argument => "ARGUMENT"

def PullTarget.keyword : PullTarget → String
  | .handler => "HANDLER"
  | .component => "COMPONENT"
  | .result => "RESULT"
  | .exception => "EXCEPTION"

def Storage.keyword : Storage → String
  | .variable => "VARIABLE"
  | .message => "MESSAGE"
  | .draft => "DRAFT"
  | .document => "DOCUMENT"

def SendTarget.suffix : SendTarget → String
  | .component => "TO COMPONENT"
  | .componentWithArguments => "TO COMPONENT WITH ARGUMENTS"
  | .document => "TO DOCUMENT"
  | .documentWithArguments => "TO DOCUMENT WITH ARGUMENTS"

namespace Instruction

def argumentsSuffix : Nat → String
  | 0 => ""
  | 1 => " WITH 1 ARGUMENT"
  | n => " WITH " ++ Decimal.natText n ++ " ARGUMENTS"

def text : Instruction → String
  | .skip => "SKIP INSTRUCTION"
  | .jump a c => "JUMP TO " ++ Decimal.natText a ++ c.suffix
  | .push s n => "PUSH " ++ s.keyword ++ " " ++ Decimal.natText n
  | .pull t => "PULL " ++ t.keyword
  | .load s n => "LOAD " ++ s.keyword ++ " " ++ Decimal.natText n
  | .save s n => "SAVE " ++ s.keyword ++ " " ++ Decimal.natText n
  | .drop s n => "DROP " ++ s.keyword ++ " " ++ Decimal.natText n
  | .call i n =>
    let callee := match Intrinsic.ofIndex? i with
      | some intrinsic => intrinsic.name
      | none => Decimal.natText i
    "CALL " ++ callee ++ argumentsSuffix n
  | .send m t => "SEND " ++ Decimal.natText m ++ " " ++ t.suffix

def mnemonic (i : Instruction) : String :=
  " ".intercalate ((i.text.splitOn " ").take 2)

end Instruction

end TaskMachine
