import TaskMachine.Intrinsic.Basic
import TaskMachine.Intrinsic.Pattern
import TaskMachine.Value.Display
import TaskMachine.Decimal.Binary64

/-!
# Invoking an intrinsic

An intrinsic is defined for a kind of receiver, its first operand, and a number of
operands; some accept any receiver. A call names the intrinsic by index and passes the
operands bottom to top. The implementation for the receiver's kind is taken if there is
one, else the one for any receiver; with neither the call fails as undefined for that
receiver and count.

The implementations build new values and never change their operands:

- `$list`, `$catalog` with no operand make empty ones;
- `$addItem`, `$getItem` (1-based, an integral number) on lists; `$getValue`, `$setValue`
  (symbol keys) on catalogs; `$size` and `$isEmpty` on lists, catalogs and texts;
- `$concatenation` joins two texts or two lists;
- `$isEqual` is value equality and `$doesMatch` pattern matching, for any receiver;
- `$not`, `$and`, `$or` on booleans, the last two deciding on the first operand when it
  settles the answer, without looking at the second;
- `$negative`, `$sum`, `$difference`, `$product` on numbers, in binary64 arithmetic.

Main statements: `Intrinsic.implementation?` and `invoke`.
-/

set_option autoImplicit false

namespace TaskMachine

inductive IntrinsicError where
  | unknownIndex (index : Nat)
  /-- The intrinsic has no implementation for this receiver kind and operand count. -/
  | unknown (name : String) (receiver : Tag) (arity : Nat)
  | invalidArgument (name : String) (reason : String)
  deriving Repr, DecidableEq

def IntrinsicError.message : IntrinsicError → String
  | .unknownIndex i => "no intrinsic at index " ++ Decimal.natText i
  | .unknown name receiver arity =>
    name ++ " is not defined for " ++ receiver.label ++ " with " ++ Decimal.natText arity ++
      " operand(s)"
  | .invalidArgument name reason => name ++ ": " ++ reason

/-- The position an integral number denotes within `1..=length`, or `none` when it is
fractional, not finite, or out of that range. -/
def itemPosition (x : Float) (length : Nat) : Option Nat :=
  match Binary64.parts x with
  | .finite false mantissa exponent =>
    let scale := Nat.pow 2 (-exponent).toNat
    if mantissa % scale = 0 then
      let n := mantissa / scale * Nat.pow 2 exponent.toNat
      if 1 ≤ n && n ≤ length then some n else none
    else none
  | _ => none

namespace Intrinsic

def asNumber (v : Value) : Except String Float :=
  match v with
  | .number x => .ok x
  | other => .error ("expected a number, found " ++ other.tag.label)

def asBoolean (v : Value) : Except String Bool :=
  match v with
  | .boolean b => .ok b
  | other => .error ("expected a boolean, found " ++ other.tag.label)

def asKey (v : Value) : Except String Symbol :=
  match v with
  | .symbol s => .ok s
  | other => .error ("expected a symbol key, found " ++ other.tag.label)

def itemAt (items : List Value) (index : Value) : Except String Value := do
  let x ← asNumber index
  match itemPosition x items.length with
  | some n => .ok (items.getD (n - 1) .none)
  | none =>
    .error ("index " ++ Decimal.numberText x ++ " out of range 1..=" ++
      Decimal.natText items.length)

def arithmetic (op : Float → Float → Float) (a b : Value) : Except String Value := do
  let x ← asNumber a
  let y ← asNumber b
  pure (.number (op x y))

/-- The implementation of an intrinsic for the shape of its operands, or `none` when it
has none for that receiver kind and count. An `error` carries the refusal's reason. -/
def implementation? : Intrinsic → List Value → Option (Except String Value)
  | .list, [] => some (.ok (.list []))
  | .catalog, [] => some (.ok (.catalog []))
  | .addItem, [.list items, x] => some (.ok (.list (items ++ [x])))
  | .getItem, [.list items, i] => some (itemAt items i)
  | .getValue, [.catalog entries, k] =>
    some (do let key ← asKey k; pure ((Catalog.get? entries key).getD .none))
  | .setValue, [.catalog entries, k, v] =>
    some (do let key ← asKey k; pure (.catalog (Catalog.insert entries key v)))
  | .size, [.list items] => some (.ok (.number (Float.ofNat items.length)))
  | .size, [.catalog entries] => some (.ok (.number (Float.ofNat entries.length)))
  | .size, [.text s] => some (.ok (.number (Float.ofNat s.length)))
  | .isEmpty, [.list items] => some (.ok (.boolean items.isEmpty))
  | .isEmpty, [.catalog entries] => some (.ok (.boolean entries.isEmpty))
  | .isEmpty, [.text s] => some (.ok (.boolean s.isEmpty))
  | .concatenation, [.text s, tail] =>
    some (match tail with
      | .text t => .ok (.text (s ++ t))
      | _ => .error "cannot join text with a non-text value")
  | .concatenation, [.list items, tail] =>
    some (match tail with
      | .list more => .ok (.list (items ++ more))
      | _ => .error "cannot join a list with a non-list value")
  | .isEqual, [a, b] => some (.ok (.boolean (a.equal b)))
  | .doesMatch, [v, pattern] => some (.ok (.boolean (v.matchesPattern pattern)))
  | .not, [.boolean b] => some (.ok (.boolean !b))
  | .and, [.boolean a, b] =>
    some (if a then (asBoolean b).map .boolean else .ok (.boolean false))
  | .or, [.boolean a, b] =>
    some (if a then .ok (.boolean true) else (asBoolean b).map .boolean)
  | .negative, [.number x] => some (.ok (.number (-x)))
  | .sum, [a@(.number _), b] => some (arithmetic (· + ·) a b)
  | .difference, [a@(.number _), b] => some (arithmetic (· - ·) a b)
  | .product, [a@(.number _), b] => some (arithmetic (· * ·) a b)
  | _, _ => none

def call (i : Intrinsic) (args : List Value) : Except IntrinsicError Value :=
  match implementation? i args with
  | some (.ok v) => .ok v
  | some (.error reason) => .error (.invalidArgument i.name reason)
  | none => .error (.unknown i.name ((args.head?.map Value.tag).getD .none) args.length)

end Intrinsic

/-- Calls the intrinsic at an index on its operands, bottom to top. -/
def invoke (index : Nat) (args : List Value) : Except IntrinsicError Value :=
  match Intrinsic.ofIndex? index with
  | some i => i.call args
  | none => .error (.unknownIndex index)

end TaskMachine
