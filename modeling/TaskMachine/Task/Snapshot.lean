import TaskMachine.Task.Basic

/-!
# Snapshots of tasks

A snapshot is a task's whole state at rest, with a format version. The format keeps a
frame's address and component base in 32 bits (`Frame.FitsSnapshot`), so freezing a task
cuts both to their low 32 bits (`Frame.narrow`); a task whose addresses and bases fit
freezes as it is. Thawing checks a snapshot before it becomes a task again, in this
order: the version is 1; no more tokens are left than the budget; the stacks and the
outcome fit the state (an active or waiting task has frames and no outcome, only a
waiting one a wait; a finished one has empty stacks, no wait and exactly the outcome of
its state); frame bases never decrease and never exceed the component count; and each
frame's address lies in `1..=len+1`. Validation adds that every word decodes and every
handler lies in `1..=len`.

Two snapshots are the same, `Snapshot.same`, when their fields agree and their values
are equal as the machine compares values; `NaN` anywhere makes a snapshot differ from
itself.

Main statements: `Frame.narrow`, `Task.freeze`, `Snapshot.decode`, `Snapshot.thaw`,
`Snapshot.same`.
-/

set_option autoImplicit false

namespace TaskMachine

def snapshotVersion : Nat := 1

/-- A frame as a snapshot keeps it: its address and component base cut to 32 bits. -/
def Frame.narrow (f : Frame) : Frame :=
  { f with address := f.address.toUInt32.toNat, base := f.base.toUInt32.toNat }

/-- Whether a frame's address and component base fit the 32 bits of a snapshot. -/
def Frame.FitsSnapshot (f : Frame) : Prop := f.address < UInt32.size ∧ f.base < UInt32.size

instance (f : Frame) : Decidable f.FitsSnapshot := inferInstanceAs (Decidable (_ ∧ _))

def Task.FitsSnapshot (t : Task) : Prop := ∀ f ∈ t.frames, f.FitsSnapshot

instance (t : Task) : Decidable t.FitsSnapshot :=
  inferInstanceAs (Decidable (∀ f ∈ t.frames, f.FitsSnapshot))

def Task.narrow (t : Task) : Task := { t with frames := t.frames.map Frame.narrow }

section Narrow

variable (t : Task)

@[simp] theorem Task.narrow_frames : t.narrow.frames = t.frames.map Frame.narrow := rfl
@[simp] theorem Task.narrow_id : t.narrow.id = t.id := rfl
@[simp] theorem Task.narrow_account : t.narrow.account = t.account := rfl
@[simp] theorem Task.narrow_tokens : t.narrow.tokens = t.tokens := rfl
@[simp] theorem Task.narrow_budget : t.narrow.budget = t.budget := rfl
@[simp] theorem Task.narrow_components : t.narrow.components = t.components := rfl
@[simp] theorem Task.narrow_state : t.narrow.state = t.state := rfl
@[simp] theorem Task.narrow_wait : t.narrow.wait = t.wait := rfl
@[simp] theorem Task.narrow_replyTo : t.narrow.replyTo = t.replyTo := rfl
@[simp] theorem Task.narrow_result : t.narrow.result = t.result := rfl
@[simp] theorem Task.narrow_exception : t.narrow.exception = t.exception := rfl

end Narrow

theorem Frame.fitsSnapshot_narrow (f : Frame) : f.narrow.FitsSnapshot :=
  ⟨UInt32.toNat_lt _, UInt32.toNat_lt _⟩

theorem Task.fitsSnapshot_narrow (t : Task) : t.narrow.FitsSnapshot := by
  intro g member
  obtain ⟨f, -, rfl⟩ := List.mem_map.mp member
  exact f.fitsSnapshot_narrow

/-- A task at rest, each frame's address and component base in 32 bits. -/
@[ext]
structure Snapshot where
  version : Nat
  task : Task
  fits : task.FitsSnapshot

instance : Inhabited Snapshot := ⟨⟨0, (default : Task).narrow, Task.fitsSnapshot_narrow _⟩⟩

inductive SnapshotError where
  | versionMismatch (found : Nat)
  | corrupt (reason : String)
  deriving DecidableEq, Repr

def SnapshotError.message : SnapshotError → String
  | .versionMismatch found =>
    "snapshot version " ++ Decimal.natText found ++ " is not supported (expected " ++
      Decimal.natText snapshotVersion ++ ")"
  | .corrupt reason => "corrupt snapshot: " ++ reason

def Task.freeze (t : Task) : Snapshot := ⟨snapshotVersion, t.narrow, t.fitsSnapshot_narrow⟩

@[simp]
theorem Task.freeze_version (t : Task) : t.freeze.version = snapshotVersion := rfl

@[simp]
theorem Task.freeze_task (t : Task) : t.freeze.task = t.narrow := rfl

theorem Frame.narrow_of_fits {f : Frame} (fits : f.FitsSnapshot) : f.narrow = f := by
  have address : f.address.toUInt32.toNat = f.address := by simpa using Nat.mod_eq_of_lt fits.1
  have base : f.base.toUInt32.toNat = f.base := by simpa using Nat.mod_eq_of_lt fits.2
  simp only [Frame.narrow, address, base]

theorem Task.narrow_of_fits {t : Task} (fits : t.FitsSnapshot) : t.narrow = t := by
  have frames : t.frames.map Frame.narrow = t.frames :=
    (List.map_congr_left fun f member => Frame.narrow_of_fits (fits f member)).trans
      (List.map_id _)
  simp only [Task.narrow, frames]

/-- A snapshot read back from its encoding. The encoding keeps every field, and reading
refuses a format version other than 1, before any other check. -/
def Snapshot.decode (s : Snapshot) : Except SnapshotError Snapshot :=
  if s.version = snapshotVersion then .ok s else .error (.versionMismatch s.version)

theorem decode_freeze (t : Task) : t.freeze.decode = .ok t.freeze := rfl

def Task.fitsState (t : Task) : Bool :=
  let noOutcome := t.result.isNone && t.exception.isNone
  let unwound := t.frames.isEmpty && t.components.isEmpty && t.wait.isNone
  match t.state with
  | .active => !t.frames.isEmpty && t.wait.isNone && noOutcome
  | .waiting => !t.frames.isEmpty && t.wait.isSome && noOutcome
  | .completed => unwound && t.result.isSome && t.exception.isNone
  | .abandoned => unwound && t.result.isNone && t.exception.isSome

/-- The first frame base, from the bottom, that is below the one before it or above the
component count. -/
def firstBadBase (height : Nat) : Nat → List Frame → Option Nat
  | _, [] => none
  | previous, f :: rest =>
    if f.base < previous || height < f.base then some f.base else firstBadBase height f.base rest

/-- The first word of code that does not decode, with its address. -/
def firstMalformed : Nat → List Word → Option (Nat × Word × DecodeError)
  | _, [] => none
  | address, w :: rest =>
    match decode w with
    | .error e => some (address, w, e)
    | .ok _ => firstMalformed (address + 1) rest

def Frame.check (f : Frame) (validate : Bool) : Except SnapshotError Unit :=
  let len := f.bytecode.length
  if f.address = 0 || len + 1 < f.address then
    .error (.corrupt ("address " ++ Decimal.natText f.address ++ " outside 1..=" ++
      Decimal.natText (len + 1)))
  else if !validate then .ok ()
  else match firstMalformed 1 f.bytecode.words with
    | some (address, w, e) =>
      .error (.corrupt ("word " ++ Decimal.natText w.toNat ++ " at address " ++
        Decimal.natText address ++ ": " ++ e.message))
    | none =>
      match f.handlers.find? (fun h => h = 0 || len < h) with
      | some h =>
        .error (.corrupt ("handler address " ++ Decimal.natText h ++ " outside 1..=" ++
          Decimal.natText len))
      | none => .ok ()

/-- The checks of thawing that come after the version, the tokens and the lifecycle: the
frame bases, then each frame. -/
def Task.thawFrames (t : Task) (validate : Bool) : Except SnapshotError Task := do
  match firstBadBase t.components.length 0 t.frames with
  | some b => throw (.corrupt ("component base " ++ Decimal.natText b ++ " out of order"))
  | none => pure ()
  t.frames.forM fun f => f.check validate
  return t

/-- The task of a snapshot, after the checks of the module comment. -/
def Snapshot.thaw (s : Snapshot) (validate : Bool) : Except SnapshotError Task := do
  let t := s.task
  if s.version ≠ snapshotVersion then throw (.versionMismatch s.version)
  if t.budget < t.tokens then
    throw (.corrupt (Decimal.natText t.tokens ++ " tokens left of a " ++
      Decimal.natText t.budget ++ " token budget"))
  if !t.fitsState then
    throw (.corrupt ("stacks and outcome do not match state " ++ t.state.label))
  t.thawFrames validate

def optionEqual : Option Value → Option Value → Bool
  | some a, some b => a.equal b
  | none, none => true
  | _, _ => false

/-- Two variable maps with the same names and equal values, in any order. -/
def localsEqual (a b : List (Symbol × Value)) : Bool :=
  a.length == b.length && Value.entriesWithin a b

def Frame.same (f g : Frame) : Bool :=
  f.target.equal g.target && f.message == g.message &&
    Value.equalItems f.arguments g.arguments && localsEqual f.locals g.locals &&
    Value.equalItems f.constants g.constants && Value.equalItems f.literals g.literals &&
    f.messages == g.messages && f.handlers == g.handlers && f.bytecode == g.bytecode &&
    f.instruction == g.instruction && f.address == g.address && f.base == g.base

def framesSame : List Frame → List Frame → Bool
  | [], [] => true
  | f :: fs, g :: gs => f.same g && framesSame fs gs
  | _, _ => false

/-- Two snapshots alike field by field, values compared as values. -/
def Snapshot.same (s r : Snapshot) : Bool :=
  let a := s.task
  let b := r.task
  s.version == r.version && a.id == b.id && a.account == b.account && a.tokens == b.tokens &&
    a.budget == b.budget && a.state == b.state && a.wait == b.wait && a.replyTo == b.replyTo &&
    Value.equalItems a.components b.components && framesSame a.frames b.frames &&
    optionEqual a.result b.result && optionEqual a.exception b.exception

end TaskMachine
