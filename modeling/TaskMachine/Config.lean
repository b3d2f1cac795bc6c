import TaskMachine.Decimal.Digits

/-!
# Machine configuration

A configuration sets how much the machine checks and how far it may go: a verbosity from
0 to 3, the number of instructions a worker runs a task for before putting it back, the
largest component stack and the deepest call stack. At verbosity 2 and above jump and
handler targets are checked and loaded snapshots are validated; 1 and above log failures
and 3 traces every instruction, neither of which changes a result.

Main statements: `Verbosity.ofLevel?`, `Config.validate`, and `Config.default`, which
passes validation.
-/

set_option autoImplicit false

namespace TaskMachine

structure Verbosity where
  level : Nat
  le_three : level ≤ 3
  deriving DecidableEq

inductive ConfigError where
  | invalidVerbosity (level : Nat)
  | invalid (reason : String)
  deriving DecidableEq, Repr

def ConfigError.message : ConfigError → String
  | .invalidVerbosity v => "verbosity must be between 0 and 3, got " ++ Decimal.natText v
  | .invalid reason => "invalid configuration: " ++ reason

namespace Verbosity

def ofLevel? (level : Nat) : Except ConfigError Verbosity :=
  if h : level ≤ 3 then .ok ⟨level, h⟩ else .error (.invalidVerbosity level)

def logsFailures (v : Verbosity) : Bool := 1 ≤ v.level

def validates (v : Verbosity) : Bool := 2 ≤ v.level

def traces (v : Verbosity) : Bool := 3 ≤ v.level

/-- Level 2, the least that checks jump and handler targets and validates snapshots. -/
def validating : Verbosity := ⟨2, by decide⟩

end Verbosity

structure Config where
  verbosity : Verbosity
  quantum : Nat
  maxComponents : Nat
  maxContexts : Nat
  deriving DecidableEq

namespace Config

/-- Verbosity 1, a quantum of 1000 instructions, 1024 components and 256 frames. -/
def default : Config := ⟨⟨1, by decide⟩, 1000, 1024, 256⟩

/-- Every limit must be positive; the quantum is checked first, then the component and
the frame limits. -/
def validate (c : Config) : Except ConfigError Unit :=
  if c.quantum = 0 then .error (.invalid "quantum must be > 0")
  else if c.maxComponents = 0 then .error (.invalid "max_components must be > 0")
  else if c.maxContexts = 0 then .error (.invalid "max_contexts must be > 0")
  else .ok ()

/-- Whether jump and handler targets are checked and loaded snapshots validated. -/
def validates (c : Config) : Bool := c.verbosity.validates

instance : Inhabited Config := ⟨default⟩

theorem validate_default : default.validate = .ok () := rfl

end Config

end TaskMachine
