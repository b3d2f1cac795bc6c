/-!
# Blank characters

The characters with the Unicode property `White_Space`: tab, line feed, vertical tab,
form feed, carriage return, space, next line, no-break space, ogham space mark, the
spaces from en quad to hair space, line and paragraph separators, narrow no-break
space, medium mathematical space and ideographic space. Source text is trimmed and split
at these.

Main statements: `isBlank`, `trimBlanks`, and `isBlank_of_isWhitespace`, which says that
every ASCII blank is one.
-/

set_option autoImplicit false

namespace TaskMachine.Text

def isBlank (c : Char) : Bool :=
  let n := c.toNat
  (0x09 ≤ n && n ≤ 0x0d) || n = 0x20 || n = 0x85 || n = 0xa0 || n = 0x1680 ||
    (0x2000 ≤ n && n ≤ 0x200a) || n = 0x2028 || n = 0x2029 || n = 0x202f || n = 0x205f ||
    n = 0x3000

def dropBlanks (cs : List Char) : List Char :=
  cs.dropWhile isBlank

def trimBlanks (cs : List Char) : List Char :=
  (dropBlanks (dropBlanks cs).reverse).reverse

theorem isBlank_of_isWhitespace (c : Char) (whitespace : c.isWhitespace = true) : isBlank c = true := by
  simp only [Char.isWhitespace, Bool.or_eq_true, decide_eq_true_eq] at whitespace
  simp only [isBlank, Bool.or_eq_true, Bool.and_eq_true, decide_eq_true_eq]
  rcases whitespace with ((whitespace | whitespace) | whitespace) | whitespace <;> subst whitespace <;> decide

end TaskMachine.Text
