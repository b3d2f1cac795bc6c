import TaskMachine.Task.Snapshot

/-!
# The wire form of snapshots

A snapshot travels and rests as bytes. Writing it puts it in the serde data model, which
bincode serializes and zstd compresses; reading undoes the three steps in reverse and then
refuses a format version other than 1.

The data model holds every field of the snapshot as it is, except the code of each frame,
which it holds as bytes: two per word, high byte first. A frame's address and component
base are 32-bit words there, as in the snapshot. Reading the bytes back refuses an odd
count, and bincode reports that refusal as a deserialization error.

bincode and zstd are not part of this library. A `Codec` takes them as parameters, and
what the wire form relies on is what they are documented to do: each reads back what it
wrote. Neither can fail to write these types, so writing is total.

Main statements: `encodeTask`, `readTask`, `decodeTask`.
-/

set_option autoImplicit false

namespace TaskMachine

structure FrameData where
  target : Value
  message : Symbol
  arguments : List Value
  locals : List (Symbol × Value)
  constants : List Value
  literals : List Value
  messages : List Symbol
  handlers : List Nat
  code : List UInt8
  address : UInt32
  instruction : Word
  base : UInt32

/-- A snapshot in the serde data model, frames from the caller to the current one. -/
structure SnapshotData where
  version : Nat
  id : TaskId
  account : Name
  tokens : Nat
  budget : Nat
  state : TaskState
  wait : Option Name
  replyTo : Option Name
  components : List Value
  contexts : List FrameData
  result : Option Value
  exception : Option Value

/-- A frame as the data model holds it, its address and base in 32 bits. -/
def Frame.toData (f : Frame) : FrameData :=
  ⟨f.target, f.message, f.arguments, f.locals, f.constants, f.literals, f.messages,
    f.handlers, f.bytecode.toBytes, f.address.toUInt32, f.instruction, f.base.toUInt32⟩

/-- The frame of its data, refused when its code bytes are not whole words. -/
def FrameData.toFrame? (d : FrameData) : Except TruncatedBytecode {f : Frame // f.FitsSnapshot} :=
  (Bytecode.ofBytes? d.code).map fun b =>
    ⟨⟨d.target, d.message, d.arguments, d.locals, d.constants, d.literals, d.messages,
      d.handlers, b, d.address.toNat, d.instruction, d.base.toNat⟩,
      d.address.toNat_lt, d.base.toNat_lt⟩

def Snapshot.toData (s : Snapshot) : SnapshotData :=
  let t := s.task
  ⟨s.version, t.id, t.account, t.tokens, t.budget, t.state, t.wait, t.replyTo, t.components,
    t.frames.map Frame.toData, t.result, t.exception⟩

/-- The snapshot of its data, refused at the first frame whose code is not whole words. -/
def SnapshotData.toSnapshot? (d : SnapshotData) : Except TruncatedBytecode Snapshot := do
  let frames ← d.contexts.mapM FrameData.toFrame?
  return ⟨d.version, ⟨d.id, d.account, d.tokens, d.budget, frames.map Subtype.val, d.components,
    d.state, d.wait, d.replyTo, d.result, d.exception⟩, fun _ member =>
      (List.mem_map.mp member).elim fun g ⟨_, same⟩ => same ▸ g.2⟩

/-- bincode over the data model of snapshots, and zstd over bytes. -/
structure Codec where
  serialize : SnapshotData → List UInt8
  deserialize : List UInt8 → Except String SnapshotData
  compress : List UInt8 → List UInt8
  decompress : List UInt8 → Except String (List UInt8)
  deriving Inhabited

inductive WireError where
  | decompression (reason : String)
  | deserialization (reason : String)
  | snapshot (cause : SnapshotError)
  deriving DecidableEq, Repr

def WireError.message : WireError → String
  | .decompression reason => "Decompression error: " ++ reason
  | .deserialization reason => "Deserialization error: " ++ reason
  | .snapshot cause => cause.message

def encodeTask (c : Codec) (s : Snapshot) : List UInt8 :=
  c.compress (c.serialize s.toData)

/-- The snapshot that bytes hold, of whatever format version, refused when they do not
decompress or deserialize. -/
def readTask (c : Codec) (bytes : List UInt8) : Except WireError Snapshot := do
  let raw ← (c.decompress bytes).mapError .decompression
  let data ← (c.deserialize raw).mapError .deserialization
  data.toSnapshot?.mapError fun e => .deserialization e.message

/-- The snapshot that bytes hold, refused when they do not decompress or deserialize, or
when the snapshot is of another format version. -/
def decodeTask (c : Codec) (bytes : List UInt8) : Except WireError Snapshot := do
  let s ← readTask c bytes
  if s.version ≠ snapshotVersion then throw (.snapshot (.versionMismatch s.version))
  return s

end TaskMachine
