import TaskMachine.Text.Hex
import TaskMachine.Text.Printable
import TaskMachine.Text.GraphemeExtend

/-!
# Quoted text

A text is shown between double quotes. The quote and the backslash are preceded by a
backslash; NUL, tab, carriage return and line feed are written `\0`, `\t`, `\r`, `\n`;
a grapheme extender or an unprintable character is written `\u{hex}` with lower-case hex
digits and no padding; every other character stands as it is. The single quote is not
escaped.

Main statements: `quote` and `escapeChar`; `escapeChars_append` says quoting works character
by character.
-/

set_option autoImplicit false

namespace TaskMachine.Text

def unicodeEscape (c : Char) : List Char :=
  ['\\', 'u', '\x7b'] ++ (Hex.lower 1 c.toNat).toList ++ ['\x7d']

def escapeChar (c : Char) : List Char :=
  if c = '\x00' then ['\\', '0']
  else if c = '\t' then ['\\', 't']
  else if c = '\r' then ['\\', 'r']
  else if c = '\n' then ['\\', 'n']
  else if c = '\\' then ['\\', '\\']
  else if c = '"' then ['\\', '"']
  else if GraphemeExtend.isGraphemeExtend c then unicodeEscape c
  else if Printable.isPrintable c then [c]
  else unicodeEscape c

/-- The escaped characters of a text, without the surrounding quotes. -/
def escapeChars (cs : List Char) : List Char :=
  cs.flatMap escapeChar

/-- A text between double quotes, escaped character by character. -/
def quote (s : String) : String :=
  String.ofList ('"' :: escapeChars s.toList ++ ['"'])

theorem escapeChars_append (a b : List Char) :
    escapeChars (a ++ b) = escapeChars a ++ escapeChars b := by
  simp [escapeChars]

end TaskMachine.Text
