import TaskMachine.Value.Basic
import TaskMachine.Decimal.Read
import TaskMachine.Text.Blank

/-!
# Literal values in assembly source

The text between the backquotes of a `PUSH LITERAL` operand, without its outer blanks,
denotes a value: `none`, `true` and `false`; a text when it starts and ends with a double
quote, taken as it is between them without unescaping; a symbol when it starts with `$`
and is longer than that one character; a name when it starts with `/`; otherwise a
number in the decimal grammar, or no value at all.

Main statement: `parseLiteral`.
-/

set_option autoImplicit false

namespace TaskMachine.Assembly

def parseLiteral (s : String) : Option Value :=
  let cs := Text.trimBlanks s.toList
  let text := String.ofList cs
  if text = "none" then some .none
  else if text = "true" then some (.boolean true)
  else if text = "false" then some (.boolean false)
  else match cs with
    | '"' :: rest =>
      match rest.reverse with
      | '"' :: inner => some (.text (String.ofList inner.reverse))
      | _ => literalTail cs text
    | _ => literalTail cs text
where
  literalTail (cs : List Char) (text : String) : Option Value :=
    match cs with
    | '$' :: _ :: _ => some (.symbol (Symbol.ofText text))
    | '/' :: _ => some (.name (Name.parse text))
    | _ => (Decimal.readNumber? text).map Value.number

end TaskMachine.Assembly
