import TaskMachine.Instruction.Decode
import TaskMachine.Instruction.Text

/-!
# Listings

A listing shows words as text, one line per word: the 1-based address right-aligned in
four columns, a colon, a space and the instruction's canonical text. A word that does not
decode makes the whole listing fail with its decode error.

Main statement: `listing`.
-/

set_option autoImplicit false

namespace TaskMachine.Assembly

def alignRight (width : Nat) (s : String) : String :=
  String.ofList (List.replicate (width - s.length) ' ') ++ s

def listingLine (address : Nat) (i : Instruction) : String :=
  alignRight 4 (Decimal.natText address) ++ ": " ++ i.text ++ "\n"

def listingFrom : Nat → List Word → Except DecodeError String
  | _, [] => .ok ""
  | address, w :: rest => do
    let i ← decode w
    let tail ← listingFrom (address + 1) rest
    return listingLine address i ++ tail

def listing (words : List Word) : Except DecodeError String :=
  listingFrom 1 words

end TaskMachine.Assembly
