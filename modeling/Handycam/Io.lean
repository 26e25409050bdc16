import Mathlib.Data.List.Basic

/-!
# Output streams

The parts of `std::io` that the program writes through. An operation on a
stream of type `W` is an `EStateM IoError W`: when it fails, the stream keeps
what was done before the failure. Two streams are given:

* **`Vec`** — bytes in memory, written at the end;
* **`Cursor`** — bytes in memory with a position, as a seekable file.
-/

namespace Handycam

/-- An I/O error, as far as the program looks at it. -/
inductive IoError where
  /-- `ErrorKind::InvalidInput` with its message -/
  | invalidInput (message : String)
  /-- `ErrorKind::BrokenPipe` -/
  | brokenPipe
  /-- any other error of the operating system -/
  | other (message : String)
  deriving DecidableEq

/-- `std::io::Write`. -/
class Write (W : Type) where
  /-- write all the bytes -/
  writeAll : List UInt8 → EStateM IoError W Unit
  /-- hand buffered bytes on -/
  flush : EStateM IoError W Unit

/-- `std::io::SeekFrom`, the two forms in use. -/
inductive SeekFrom where
  /-- from the start of the stream -/
  | start (offset : UInt64)
  /-- the end of the stream -/
  | streamEnd

/-- `std::io::Seek`. -/
class Seek (W : Type) where
  /-- move, and return the new position -/
  seek : SeekFrom → EStateM IoError W UInt64
  /-- the position -/
  streamPosition : EStateM IoError W UInt64

/-! ## Bytes in memory -/

/-- `Vec<u8>` as a stream. -/
abbrev Vec : Type := List UInt8

/-- A vector with given contents. -/
abbrev Vec.of (bytes : List UInt8) : Vec := bytes

instance : Write Vec where
  writeAll bytes := modify (· ++ bytes)
  flush := pure ()

@[simp] theorem writeAll_vec (bytes : List UInt8) (vec : Vec) :
    (Write.writeAll bytes).run vec = .ok () (vec ++ bytes) := rfl

@[simp] theorem flush_vec (vec : Vec) : Write.flush.run vec = .ok () vec := rfl

/-- Run a writer of bytes in memory on an empty vector; its result, and the
bytes. -/
def collect {W α : Type} (writer : EStateM IoError Vec α) : EStateM IoError W (α × List UInt8) :=
  fun w =>
    match writer.run [] with
    | .ok a vec => .ok (a, vec) w
    | .error error _ => .error error w

/-! ## Appending -/

/-- A stream in a state `stream bytes` takes what is written at its end. -/
def Appending {W : Type} [Write W] (stream : List UInt8 → W) : Prop :=
  ∀ before more, (Write.writeAll more).run (stream before) = .ok () (stream (before ++ more))

/-- A stream that also tells where its end is. -/
structure Faultless {W : Type} [Write W] [Seek W] (stream : List UInt8 → W) : Prop where
  /-- it takes what is written -/
  writeAll : Appending stream
  /-- its position is its length -/
  streamPosition : ∀ bytes : List UInt8, Seek.streamPosition.run (stream bytes) =
    .ok (UInt64.ofNat bytes.length) (stream bytes)

/-- An operation that succeeds, and writes given bytes and no others. -/
def Appends {W : Type} (stream : List UInt8 → W) (writer : EStateM IoError W Unit)
    (bytes : List UInt8) : Prop :=
  ∀ before, writer.run (stream before) = .ok () (stream (before ++ bytes))

section Appends

variable {W : Type} {stream : List UInt8 → W} {bytes more : List UInt8}

theorem appending_vec : Appending Vec.of := fun _ _ => rfl

theorem Appending.writeAll [Write W] (h : Appending stream) (bytes : List UInt8) :
    Appends stream (Write.writeAll bytes) bytes := fun before => h before bytes

theorem Appends.seq {first second : EStateM IoError W Unit} (hfirst : Appends stream first bytes)
    (hsecond : Appends stream second more) :
    Appends stream (do first; second) (bytes ++ more) := by
  intro before
  rw [EStateM.run_bind, hfirst before]
  exact (hsecond (before ++ bytes)).trans (by rw [List.append_assoc])

/-- What an operation writes on an empty vector is what is collected. -/
theorem run_collect {α : Type} {writer : EStateM IoError Vec α} {a : α}
    (h : writer.run [] = .ok a bytes) (w : W) : (collect writer).run w = .ok (a, bytes) w := by
  rw [EStateM.run, collect, h]

theorem Appends.collect {writer : EStateM IoError Vec Unit}
    {next : Unit × List UInt8 → EStateM IoError W Unit} (hwriter : Appends Vec.of writer bytes)
    (hnext : Appends stream (next ((), bytes)) more) :
    Appends stream (collect writer >>= next) more := by
  intro before
  rw [EStateM.run_bind, run_collect (hwriter [])]
  exact hnext before

end Appends

/-! ## A seekable file -/

/-- `Cursor<Vec<u8>>`. -/
structure Cursor where
  /-- the contents -/
  bytes : List UInt8
  /-- where the next byte goes -/
  position : ℕ
  deriving DecidableEq

namespace Cursor

/-- Overwrite at the position; a gap before it is filled with zeros. -/
def write (cursor : Cursor) (bytes : List UInt8) : Cursor where
  bytes :=
    cursor.bytes.take cursor.position ++
      List.replicate (cursor.position - cursor.bytes.length) 0 ++ bytes ++
      cursor.bytes.drop (cursor.position + bytes.length)
  position := cursor.position + bytes.length

instance : Write Cursor where
  writeAll bytes := modify (·.write bytes)
  flush := pure ()

/-- The position that a `SeekFrom` names. -/
def target (cursor : Cursor) : SeekFrom → ℕ
  | .start offset => offset.toNat
  | .streamEnd => cursor.bytes.length

instance : Seek Cursor where
  seek whence := do
    modify fun cursor => { cursor with position := cursor.target whence }
    return UInt64.ofNat (← get).position
  streamPosition := do return UInt64.ofNat (← get).position

/-- A file whose position is at its end. -/
def atEnd (bytes : List UInt8) : Cursor := ⟨bytes, bytes.length⟩

@[simp] theorem write_atEnd (bytes more : List UInt8) :
    (atEnd bytes).write more = atEnd (bytes ++ more) := by
  simp [write, atEnd]

theorem faultless_atEnd : Faultless atEnd where
  writeAll bytes more := congrArg (EStateM.Result.ok ()) (write_atEnd bytes more)
  streamPosition _ := rfl

end Cursor

end Handycam
