import TaskMachine.Hash.Fnv

/-!
# Symbols and names

A symbol names a message, a variable or a catalog key; it is written with a leading `$`
that is not part of it. A name addresses a document, a type or a bag: a path of segments
written `/a/b`, and `/` when it has none.

Reading a name splits its text at every `/` and drops the empty pieces, so `/a//b/` and
`a/b` are one name. Appending a segment keeps it as given, even with a `/` inside, so not
every name reads back from its text.

Main statements: `Name.parse`, `Name.display`, `Name.stableHash` (the FNV-1a hash of the
segments, each after a `/`).
-/

set_option autoImplicit false

namespace TaskMachine

structure Symbol where
  text : String
  deriving DecidableEq, Hashable, Repr, Inhabited

namespace Symbol

/-- The symbol of a text, with one leading `$` removed if there is one. -/
def ofText (s : String) : Symbol :=
  match s.toList with
  | '$' :: rest => ⟨String.ofList rest⟩
  | _ => ⟨s⟩

def display (s : Symbol) : String :=
  "$" ++ s.text

end Symbol

structure Name where
  segments : List String
  deriving DecidableEq, Hashable, Repr, Inhabited

namespace Name

def root : Name := ⟨[]⟩

/-- Reads a name: the pieces between slashes, empty pieces dropped. -/
def parse (s : String) : Name :=
  ⟨((s.toList.splitOn '/').filter (!·.isEmpty)).map String.ofList⟩

def isEmpty (n : Name) : Bool :=
  n.segments.isEmpty

def append (n : Name) (segment : String) : Name :=
  ⟨n.segments ++ [segment]⟩

/-- The written form: each segment after a `/`, or `/` alone for the empty name. -/
def display (n : Name) : String :=
  if n.segments.isEmpty then "/" else String.join (n.segments.map ("/" ++ ·))

def stableHash (n : Name) : UInt64 :=
  Fnv.hashSegments n.segments

end Name

end TaskMachine
