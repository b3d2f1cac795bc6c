import Mathlib
import TaskMachine.Task.Wire
import TaskMachine.Proofs.Task.Addresses

/-! # Snapshots persist as they were written

A snapshot goes to bytes through the serde data model, bincode and zstd, and comes back
through the same three steps in reverse.  Given that bincode and zstd read back what they
wrote (`Codec.ReadsBack`), the only steps of its own that the wire form adds are the bytes
of each frame's code and the version gate, and both undo exactly what writing did: code
reads back from its bytes as itself (`ofBytes?_toBytes`), so the data model gives the
snapshot back (`toSnapshot?_toData`), and reading then answers what `Snapshot.decode`
answers, which is what the queue assumes of its encoded line (`decodeTask_encodeTask`).

The other way round, bytes of even count are the bytes of the code they read as
(`toBytes_of_ofBytes?`), and an odd count is refused with that count.  A snapshot that
thaws, validated or not, is the snapshot of the task it thaws to (`eq_freeze_of_thaw`).
`persisted_forms_round_trip` gathers the three round trips. -/

set_option autoImplicit false

namespace TaskMachine

namespace Bytecode

theorem wordBytes_pair (high low : UInt8) :
    wordBytes (high.toNat * 256 + low.toNat).toUInt16 = [high, low] := by
  have hh := high.toNat_lt
  have hl := low.toNat_lt
  have hw : (high.toNat * 256 + low.toNat).toUInt16.toNat = high.toNat * 256 + low.toNat := by
    simp only [Nat.toUInt16_eq, UInt16.toNat_ofNat']
    omega
  simp only [wordBytes, hw, List.cons.injEq, and_true]
  constructor
  · rw [show (high.toNat * 256 + low.toNat) / 256 = high.toNat by omega]
    exact UInt8.ofNat_toNat
  · rw [show (high.toNat * 256 + low.toNat) % 256 = low.toNat by omega]
    exact UInt8.ofNat_toNat

theorem toBytes_wordsOfBytes (x : List UInt8) (even : x.length % 2 = 0) :
    (wordsOfBytes x).flatMap wordBytes = x := by
  fun_induction wordsOfBytes x with
  | case1 high low rest ih =>
    simp only [List.length_cons] at even
    rw [List.flatMap_cons, wordBytes_pair, ih (by omega)]
    rfl
  | case2 x hx =>
    -- the bytes left over hold no whole word: none, or a single one of odd count
    rcases x with _ | ⟨b, _ | ⟨c, rest⟩⟩
    · rfl
    · simp at even
    · exact absurd rfl (hx b c rest)

theorem toBytes_of_ofBytes? {x : List UInt8} {b : Bytecode} (read : ofBytes? x = .ok b) :
    b.toBytes = x := by
  unfold ofBytes? at read
  split at read
  · next heven =>
    cases read
    exact toBytes_wordsOfBytes x heven
  · cases read

theorem ofBytes?_of_odd {x : List UInt8} (odd : x.length % 2 = 1) :
    ofBytes? x = .error ⟨x.length⟩ := by
  simp [ofBytes?, odd]

theorem ofBytes?_map_toBytes (x : List UInt8) :
    (ofBytes? x).map toBytes = if x.length % 2 = 0 then .ok x else .error ⟨x.length⟩ := by
  split
  · next heven =>
    have hb : ofBytes? x = .ok ⟨wordsOfBytes x⟩ := by simp [ofBytes?, heven]
    rw [hb]
    exact congrArg Except.ok (toBytes_of_ofBytes? hb)
  · next hodd =>
    rw [ofBytes?_of_odd (by omega)]
    rfl

end Bytecode

theorem FrameData.toFrame?_toData (f : Frame) :
    f.toData.toFrame? = .ok ⟨f.narrow, f.fitsSnapshot_narrow⟩ := by
  simp only [Frame.toData, FrameData.toFrame?, Bytecode.ofBytes?_toBytes]
  rfl

theorem mapM_toFrame?_toData (frames : List Frame) :
    (frames.map Frame.toData).mapM FrameData.toFrame? =
      .ok (frames.map fun f => ⟨f.narrow, f.fitsSnapshot_narrow⟩) := by
  induction frames with
  | nil => rfl
  | cons f rest ih =>
    simp only [List.map_cons, List.mapM_cons, FrameData.toFrame?_toData, ih]
    rfl

theorem SnapshotData.toSnapshot?_toData (s : Snapshot) : s.toData.toSnapshot? = .ok s := by
  have frames : (s.task.frames.map fun f => (⟨f.narrow, f.fitsSnapshot_narrow⟩ :
      {f : Frame // f.FitsSnapshot})).map Subtype.val = s.task.frames := by
    rw [List.map_map]
    exact congrArg Task.frames (Task.narrow_of_fits s.fits)
  simp only [Snapshot.toData, SnapshotData.toSnapshot?, mapM_toFrame?_toData]
  exact congrArg Except.ok (Snapshot.ext rfl (by simp only [frames]))

/-- What bincode and zstd are documented to do, at the data of one snapshot: the
deserializer reads back what the serializer wrote, and decompression gives back what
compression took. -/
structure Codec.ReadsBack (c : Codec) (d : SnapshotData) : Prop where
  data : c.deserialize (c.serialize d) = .ok d
  bytes : c.decompress (c.compress (c.serialize d)) = .ok (c.serialize d)

def Codec.Lossless (c : Codec) : Prop := ∀ d, c.ReadsBack d

theorem readTask_encodeTask (c : Codec) (s : Snapshot) (reads : c.ReadsBack s.toData) :
    readTask c (encodeTask c s) = .ok s := by
  simp only [readTask, encodeTask, reads.bytes, Except.mapError, bind, Except.bind, reads.data,
    SnapshotData.toSnapshot?_toData]

theorem decodeTask_encodeTask (c : Codec) (s : Snapshot) (readsBack : c.ReadsBack s.toData) :
    decodeTask c (encodeTask c s) = s.decode.mapError .snapshot := by
  rw [decodeTask, readTask_encodeTask c s readsBack]
  by_cases current : s.version = snapshotVersion <;>
    simp [bind, Except.bind, Snapshot.decode, current, Except.mapError] <;> rfl

theorem readTask_of_decodeTask {c : Codec} {bytes : List UInt8} {s : Snapshot}
    (decoded : decodeTask c bytes = .ok s) : readTask c bytes = .ok s := by
  unfold decodeTask at decoded
  cases read : readTask c bytes with
  | error e => simp [read, bind, Except.bind] at decoded
  | ok s' =>
    simp only [read, bind, Except.bind] at decoded
    split at decoded
    · cases decoded
    · cases decoded
      rfl

theorem Snapshot.eq_freeze_of_thaw {s : Snapshot} {validate : Bool} {t : Task}
    (thawed : s.thaw validate = .ok t) : s = t.freeze := by
  obtain ⟨version, -, -, frames⟩ := Snapshot.of_thaw thawed
  obtain ⟨rfl, -, -⟩ := Task.of_thawFrames frames
  exact Snapshot.ext version (Task.narrow_of_fits s.fits).symm

theorem Snapshot.fits_of_thaw {s : Snapshot} {validate : Bool} {t : Task}
    (thawed : s.thaw validate = .ok t) : t.FitsSnapshot := by
  obtain ⟨-, -, -, frames⟩ := Snapshot.of_thaw thawed
  obtain ⟨rfl, -, -⟩ := Task.of_thawFrames frames
  exact s.fits

/-- Persistence loses nothing.  Bytes written for a snapshot read back as the snapshot
itself, or, for a snapshot of another format version, as the version mismatch that names
its version; code reads back from its bytes as itself, and bytes of even count from the
code they read as, while an odd count is refused with that count; and a snapshot that
thaws, with or without validation, freezes back to itself, each frame of it as it was.
Equality here is structural: values are compared as they are stored, and catalogs with
their entries in order. -/
theorem persisted_forms_round_trip (c : Codec) (s : Snapshot) (readsBack : c.ReadsBack s.toData) :
    decodeTask c (encodeTask c s) =
        (if s.version = snapshotVersion then .ok s
        else .error (.snapshot (.versionMismatch s.version))) ∧
      (∀ b : Bytecode, Bytecode.ofBytes? b.toBytes = .ok b) ∧
      (∀ x : List UInt8, (Bytecode.ofBytes? x).map Bytecode.toBytes =
        if x.length % 2 = 0 then .ok x else .error ⟨x.length⟩) ∧
      (∀ (r : Snapshot) (validate : Bool) (t : Task), r.thaw validate = .ok t →
        t.freeze = r ∧ ∀ f ∈ t.frames, f.check validate = .ok ()) := by
  refine ⟨?_, Bytecode.ofBytes?_toBytes, Bytecode.ofBytes?_map_toBytes, ?_⟩
  · rw [decodeTask_encodeTask c s readsBack, Snapshot.decode]
    split <;> rfl
  · intro r validate t hthaw
    exact ⟨(Snapshot.eq_freeze_of_thaw hthaw).symm, (Snapshot.checks_of_thaw hthaw).2⟩

/-! ## A codec that reads back everything

The data of snapshots can be numbered, one number each: every leaf of it is of a countable
type, and a value is numbered from its tag and the numbers of its parts.  Writing data as
a run of zero bytes as long as its number, and reading back the data of that number,
gives a codec that reads back everything it writes (`Codec.tally_lossless`), so the
queue's hypotheses on its codec can all hold at once. -/

section Tally

instance countableFloat : Countable Float :=
  Function.Injective.countable (f := fun x : Float => x.toModel.toBits) (by
    rintro ⟨⟨a, _⟩⟩ ⟨⟨b, _⟩⟩ same
    cases same
    rfl)

instance countableString : Countable String :=
  Function.Injective.countable (f := fun s : String => s.toList.map Char.toNat) fun _ _ same =>
    String.toList_injective
      (List.map_injective_iff.mpr (fun _ _ code => Char.ext (UInt32.toNat_inj.mp code)) same)

instance : Countable Symbol :=
  Function.Injective.countable (f := Symbol.text) (by rintro ⟨_⟩ ⟨_⟩ same; cases same; rfl)

instance : Countable Name :=
  Function.Injective.countable (f := Name.segments) (by rintro ⟨_⟩ ⟨_⟩ same; cases same; rfl)

instance : Countable TaskId :=
  Function.Injective.countable (f := TaskId.value) (by rintro ⟨_⟩ ⟨_⟩ same; cases same; rfl)

instance : Countable TaskState :=
  Function.Injective.countable (f := fun state : TaskState => state.label) (by
    intro a b same
    cases a <;> cases b <;> simp_all [TaskState.label])

/-- A number for each element of a countable type, different for different elements. -/
noncomputable def serialNumber {α : Type} [Countable α] : α → ℕ :=
  (Countable.exists_injective_nat α).choose

theorem serialNumber_injective {α : Type} [Countable α] :
    Function.Injective (serialNumber : α → ℕ) :=
  (Countable.exists_injective_nat α).choose_spec

mutual
/-- A number for each value: its tag paired with the number of its contents. -/
noncomputable def Value.serial : Value → ℕ
  | .none => Nat.pair 0 0
  | .boolean b => Nat.pair 1 (serialNumber b)
  | .number x => Nat.pair 2 (serialNumber x)
  | .text s => Nat.pair 3 (serialNumber s)
  | .symbol s => Nat.pair 4 (serialNumber s)
  | .name n => Nat.pair 5 (serialNumber n)
  | .list items => Nat.pair 6 (Value.listSerial items)
  | .catalog entries => Nat.pair 7 (Value.entriesSerial entries)
noncomputable def Value.listSerial : List Value → ℕ
  | [] => 0
  | v :: rest => Nat.pair v.serial (Value.listSerial rest) + 1
noncomputable def Value.entriesSerial : List (Symbol × Value) → ℕ
  | [] => 0
  | (k, v) :: rest => Nat.pair (Nat.pair (serialNumber k) v.serial) (Value.entriesSerial rest) + 1
end

theorem Value.serial_injective : Function.Injective Value.serial := by
  intro a
  -- one motive per nested type: values, lists of values, catalogs and their entries
  induction a using Value.rec
    (motive_2 := fun xs => ∀ ys, Value.listSerial xs = Value.listSerial ys → xs = ys)
    (motive_3 := fun es => ∀ fs, Value.entriesSerial es = Value.entriesSerial fs → es = fs)
    (motive_4 := fun e => ∀ f : Symbol × Value,
      Nat.pair (serialNumber e.1) e.2.serial = Nat.pair (serialNumber f.1) f.2.serial → e = f)
  case none | boolean | number | text | symbol | name =>
    intro b same
    cases b <;> simp_all [Value.serial, Nat.pair_eq_pair, serialNumber_injective.eq_iff]
  case list items below =>
    intro b same
    cases b <;> simp only [Value.serial, Nat.pair_eq_pair] at same <;> try omega
    rw [below _ same.2]
  case catalog entries below =>
    intro b same
    cases b <;> simp only [Value.serial, Nat.pair_eq_pair] at same <;> try omega
    rw [below _ same.2]
  next ys same =>
    cases ys
    · rfl
    · simp [Value.listSerial] at same
  next head tail first rest ys same =>
    cases ys with
    | nil => simp [Value.listSerial] at same
    | cons y ys =>
      simp only [Value.listSerial, Nat.add_right_cancel_iff, Nat.pair_eq_pair] at same
      rw [first same.1, rest _ same.2]
  next ys same =>
    cases ys
    · rfl
    · simp [Value.entriesSerial] at same
  next head tail first rest ys same =>
    cases ys with
    | nil => simp [Value.entriesSerial] at same
    | cons y ys =>
      simp only [Value.entriesSerial, Nat.add_right_cancel_iff] at same
      rw [first y (Nat.pair_eq_pair.mp same).1, rest _ (Nat.pair_eq_pair.mp same).2]
  next k v below f same =>
    obtain ⟨k', v'⟩ := f
    obtain ⟨key, value⟩ := Nat.pair_eq_pair.mp same
    exact Prod.ext (serialNumber_injective key) (below value)

instance : Countable Value := Value.serial_injective.countable

instance : Countable FrameData :=
  Function.Injective.countable (f := fun d : FrameData => (d.target, d.message, d.arguments,
      d.locals, d.constants, d.literals, d.messages, d.handlers, d.code, d.address,
      d.instruction, d.base)) (by
    rintro ⟨⟩ ⟨⟩ same
    simp only [Prod.mk.injEq] at same
    obtain ⟨rfl, rfl, rfl, rfl, rfl, rfl, rfl, rfl, rfl, rfl, rfl, rfl⟩ := same
    rfl)

instance : Countable SnapshotData :=
  Function.Injective.countable (f := fun d : SnapshotData => (d.version, d.id, d.account,
      d.tokens, d.budget, d.state, d.wait, d.replyTo, d.components, d.contexts, d.result,
      d.exception)) (by
    rintro ⟨⟩ ⟨⟩ same
    simp only [Prod.mk.injEq] at same
    obtain ⟨rfl, rfl, rfl, rfl, rfl, rfl, rfl, rfl, rfl, rfl, rfl, rfl⟩ := same
    rfl)

instance : Nonempty SnapshotData := ⟨(default : Snapshot).toData⟩

/-- A codec that writes data as a run of zero bytes as long as its number, reads the data
of a run's length back, and compresses nothing. -/
noncomputable def Codec.tally : Codec where
  serialize d := List.replicate (serialNumber d) 0
  deserialize bytes := .ok (Function.invFun serialNumber bytes.length)
  compress := id
  decompress := .ok

theorem Codec.tally_lossless : Codec.tally.Lossless := fun d =>
  ⟨by simp [Codec.tally, Function.leftInverse_invFun serialNumber_injective d], rfl⟩

end Tally

/-- A waiting task of one frame, as the codec's own test writes it: two components, a
variable, a constant, a message, a handler, and two words of code. -/
def inboxSnapshot : Snapshot :=
  ⟨snapshotVersion, ⟨⟨42⟩, Name.parse "/acme/accounts/alice", 10, 12,
    [⟨.none, Symbol.ofText "run", [], [(Symbol.ofText "bag", .boolean true)],
      [.text "three"], [], [Symbol.ofText "next"], [2], ⟨[0x2001, 0x5000]⟩, 2, 0x2001, 0⟩],
    [.text "one", .text "two"], .waiting, some (Name.parse "/acme/bags/inbox"), none, none,
    none⟩, by decide⟩

/-- A codec that reads back the data of `inboxSnapshot`, as bincode does, and compresses
nothing. -/
def inboxCodec : Codec :=
  ⟨fun _ => [], fun _ => .ok inboxSnapshot.toData, id, .ok⟩

theorem inbox_snapshot_round_trips :
    inboxCodec.ReadsBack inboxSnapshot.toData ∧
      decodeTask inboxCodec (encodeTask inboxCodec inboxSnapshot) = .ok inboxSnapshot := by
  have hc : inboxCodec.ReadsBack inboxSnapshot.toData := ⟨rfl, rfl⟩
  refine ⟨hc, ?_⟩
  have h := (persisted_forms_round_trip inboxCodec inboxSnapshot hc).1
  rw [h]
  rfl

end TaskMachine
