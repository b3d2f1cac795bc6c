/-!
# The intrinsic catalogue

The native capabilities that `CALL` reaches, numbered from 1 in the alphabetical order of
their names: `$addItem` is 1 and `$sum` is 18. Index 0 names none. A name is looked up
with or without its `$`, but only one `$` is removed.

Main statements: `Intrinsic.ofIndex?`, `Intrinsic.indexOf?`, and `ofIndex?_index`, which
says the numbering reads back.
-/

set_option autoImplicit false

namespace TaskMachine

inductive Intrinsic where
  | addItem
  | and
  | catalog
  | concatenation
  | difference
  | doesMatch
  | getItem
  | getValue
  | isEmpty
  | isEqual
  | list
  | negative
  | not
  | or
  | product
  | setValue
  | size
  | sum
  deriving DecidableEq, Repr, Inhabited

namespace Intrinsic

def all : List Intrinsic :=
  [.addItem, .and, .catalog, .concatenation, .difference, .doesMatch, .getItem, .getValue,
    .isEmpty, .isEqual, .list, .negative, .not, .or, .product, .setValue, .size, .sum]

def name : Intrinsic → String
  | .addItem => "$addItem"
  | .and => "$and"
  | .catalog => "$catalog"
  | .concatenation => "$concatenation"
  | .difference => "$difference"
  | .doesMatch => "$doesMatch"
  | .getItem => "$getItem"
  | .getValue => "$getValue"
  | .isEmpty => "$isEmpty"
  | .isEqual => "$isEqual"
  | .list => "$list"
  | .negative => "$negative"
  | .not => "$not"
  | .or => "$or"
  | .product => "$product"
  | .setValue => "$setValue"
  | .size => "$size"
  | .sum => "$sum"

def index : Intrinsic → Nat
  | .addItem => 1
  | .and => 2
  | .catalog => 3
  | .concatenation => 4
  | .difference => 5
  | .doesMatch => 6
  | .getItem => 7
  | .getValue => 8
  | .isEmpty => 9
  | .isEqual => 10
  | .list => 11
  | .negative => 12
  | .not => 13
  | .or => 14
  | .product => 15
  | .setValue => 16
  | .size => 17
  | .sum => 18

def count : Nat := 18

def ofIndex? (i : Nat) : Option Intrinsic :=
  all.find? (·.index == i)

def bareName (s : String) : List Char :=
  match s.toList with
  | '$' :: rest => rest
  | cs => cs

/-- The index of the intrinsic a name denotes, written with or without its `$`. -/
def indexOf? (s : String) : Option Nat :=
  (all.find? fun i => bareName i.name == bareName s).map index

theorem ofIndex?_index (i : Intrinsic) : ofIndex? i.index = some i := by
  cases i <;> rfl

end Intrinsic

end TaskMachine
