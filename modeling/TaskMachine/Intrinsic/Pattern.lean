import TaskMachine.Value.Basic

/-!
# Matching a value against a pattern

`none` as a pattern matches every value. A catalog pattern matches a catalog that holds
each of the pattern's keys with a value matching the pattern's; other entries are free.
A list pattern matches a list of the same length, item by item. Any other pattern
matches exactly the values equal to it.

Main statement: `Value.matchesPattern`.
-/

set_option autoImplicit false

namespace TaskMachine

namespace Value

mutual

def matchesPattern : Value → Value → Bool
  | _, .none => true
  | .catalog actual, .catalog expected => entriesMatch actual expected
  | .list actual, .list expected => itemsMatch actual expected
  | v, pattern => v.equal pattern

/-- Every key of the pattern entries is in `actual` with a matching value. -/
def entriesMatch (actual : Catalog) : List (Symbol × Value) → Bool
  | [] => true
  | (key, pattern) :: rest =>
    (match actual.lookup key with
      | some v => matchesPattern v pattern
      | Option.none => false) && entriesMatch actual rest

def itemsMatch : List Value → List Value → Bool
  | [], [] => true
  | v :: vs, pattern :: patterns => matchesPattern v pattern && itemsMatch vs patterns
  | _, _ => false

end

end Value

end TaskMachine
