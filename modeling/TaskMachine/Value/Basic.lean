import TaskMachine.Value.Ident

/-!
# Values

The values a task computes with: none, booleans, numbers (binary64), texts, symbols,
names, lists, and catalogs. A catalog is a list of entries in insertion order whose keys
are distinct symbols; writing a key that is present replaces its value in place, and a
new key goes at the end.

Equality of values is the machine's own: numbers compare as doubles (`NaN` differs from
itself and `0 = -0`), lists position by position, and catalogs as maps, so two catalogs
are equal when they have as many entries and each key of one maps to an equal value in
the other, whatever the order.

Main statements: `Value.equal`, `Catalog.insert`, `Catalog.ofEntries`.
-/

set_option autoImplicit false

namespace TaskMachine

inductive Value where
  | none
  | boolean (b : Bool)
  | number (x : Float)
  | text (s : String)
  | symbol (s : Symbol)
  | name (n : Name)
  | list (items : List Value)
  | catalog (entries : List (Symbol × Value))
  deriving Inhabited

abbrev Catalog := List (Symbol × Value)

inductive Tag where
  | none
  | boolean
  | number
  | text
  | symbol
  | name
  | list
  | catalog
  deriving DecidableEq, Repr, Inhabited

def Tag.label : Tag → String
  | .none => "None"
  | .boolean => "Boolean"
  | .number => "Number"
  | .text => "Text"
  | .symbol => "Symbol"
  | .name => "Name"
  | .list => "List"
  | .catalog => "Catalog"

namespace Catalog

def get? (c : Catalog) (key : Symbol) : Option Value :=
  c.lookup key

/-- Stores a value under a key: in place if the key is present, else as a new last entry. -/
def insert (c : Catalog) (key : Symbol) (v : Value) : Catalog :=
  if c.any (·.1 == key) then c.map fun e => if e.1 == key then (key, v) else e
  else c ++ [(key, v)]

/-- The catalog of a list of entries written one after another: a repeated key keeps the
place of its first entry and the value of its last. -/
def ofEntries (entries : List (Symbol × Value)) : Catalog :=
  entries.foldl (fun c e => c.insert e.1 e.2) []

end Catalog

namespace Value

def tag : Value → Tag
  | .none => .none
  | .boolean _ => .boolean
  | .number _ => .number
  | .text _ => .text
  | .symbol _ => .symbol
  | .name _ => .name
  | .list _ => .list
  | .catalog _ => .catalog

mutual

def equal : Value → Value → Bool
  | .none, .none => true
  | .boolean a, .boolean b => a == b
  | .number a, .number b => a == b
  | .text a, .text b => a == b
  | .symbol a, .symbol b => a == b
  | .name a, .name b => a == b
  | .list a, .list b => equalItems a b
  | .catalog a, .catalog b => a.length == b.length && entriesWithin a b
  | _, _ => false

def equalItems : List Value → List Value → Bool
  | [], [] => true
  | x :: xs, y :: ys => equal x y && equalItems xs ys
  | _, _ => false

/-- Every entry of the first catalog has its key in the second, with an equal value. -/
def entriesWithin : List (Symbol × Value) → Catalog → Bool
  | [], _ => true
  | (key, v) :: rest, other =>
    (match other.lookup key with
      | some w => equal v w
      | Option.none => false) && entriesWithin rest other

end

instance : BEq Value := ⟨equal⟩

/-- The entry of a catalog value under a key; other values have no entries. -/
def get? (v : Value) (key : Symbol) : Option Value :=
  match v with
  | .catalog entries => Catalog.get? entries key
  | _ => Option.none

end Value

end TaskMachine
