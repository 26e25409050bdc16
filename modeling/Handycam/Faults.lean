import Mathlib
import Handycam.Flush

/-!
# Flushes that fail

A flush goes to the end, back to the duration, writes it, and goes to the end
again. Only the last of these steps takes the position out of the header, so
that a flush that stops before it leaves the writer inside its own file: the
next packet is not appended, but overwrites what is there.

* **the file** — a cursor, one of whose operations fails;
* **the flush** — where each of its steps leaves the position;
* **the writes after it** — which of them still append.
-/

namespace Handycam

open Ebml

namespace Cursor

variable {cursor : Cursor}

/-- Inside a file there is no gap to fill. -/
theorem write_inside (hinside : cursor.position ≤ cursor.bytes.length) (bytes : List UInt8) :
    cursor.write bytes =
      ⟨cursor.bytes.take cursor.position ++ bytes ++
        cursor.bytes.drop (cursor.position + bytes.length), cursor.position + bytes.length⟩ := by
  rw [write, Nat.sub_eq_zero_of_le hinside, List.replicate_zero, List.append_nil]

theorem write_nil (hinside : cursor.position ≤ cursor.bytes.length) : cursor.write [] = cursor := by
  rw [write_inside hinside, List.append_nil, List.length_nil, Nat.add_zero, List.take_append_drop]

theorem length_write (hinside : cursor.position ≤ cursor.bytes.length) (bytes : List UInt8) :
    (cursor.write bytes).bytes.length = max cursor.bytes.length (cursor.position + bytes.length) := by
  simp only [write_inside hinside, List.length_append, List.length_take, List.length_drop]
  omega

/-- Two writes are one. -/
theorem write_write (hinside : cursor.position ≤ cursor.bytes.length) (first second : List UInt8) :
    (cursor.write first).write second = cursor.write (first ++ second) := by
  have hlength := length_write hinside first
  have htake : (cursor.bytes.take cursor.position ++ first).length =
      cursor.position + first.length := by
    rw [List.length_append, List.length_take, Nat.min_eq_left hinside]
  have hwithin : (cursor.write first).position ≤ (cursor.write first).bytes.length := by
    rw [hlength]
    exact le_max_right _ _
  have hdrop : (cursor.bytes.take cursor.position ++ first ++
      cursor.bytes.drop (cursor.position + first.length)).drop
        (cursor.position + first.length + second.length) =
      cursor.bytes.drop (cursor.position + first.length + second.length) := by
    rw [← htake, List.drop_append, List.drop_of_length_le (Nat.le_add_right _ _), List.nil_append,
      List.drop_drop, htake, Nat.add_sub_cancel_left]
  rw [write_inside hwithin, write_inside hinside, write_inside hinside]
  dsimp only
  rw [hdrop, List.take_left' htake, List.length_append, Nat.add_assoc, List.append_assoc _ first]

end Cursor

/-! ## A file with a fault -/

/-- A fault of a file. -/
structure Fault where
  /-- how many operations succeed before the one that fails -/
  after : ℕ
  /-- how many bytes that one takes, of those it should write -/
  part : ℕ
  deriving DecidableEq

/-- A file in memory, one of whose operations may fail. -/
structure FaultyFile where
  /-- the contents and the position -/
  cursor : Cursor
  /-- the fault that is still to come -/
  fault : Option Fault
  deriving DecidableEq

namespace FaultyFile

/-- A file without a fault. -/
def sound (cursor : Cursor) : FaultyFile := ⟨cursor, none⟩

/-- The error of the operation that fails. -/
def deviceError : IoError := .other "Input/output error"

/-- An operation of a file. When the fault is due, it fails, and leaves the
cursor as `broken` says. -/
def operate {α : Type} (operation : EStateM IoError Cursor α) (broken : ℕ → Cursor → Cursor) :
    EStateM IoError FaultyFile α := fun file =>
  let proceed (fault : Option Fault) : EStateM.Result IoError FaultyFile α :=
    match operation.run file.cursor with
    | .ok a cursor => .ok a ⟨cursor, fault⟩
    | .error error cursor => .error error ⟨cursor, fault⟩
  match file.fault with
  | none => proceed none
  | some ⟨0, part⟩ => .error deviceError (sound (broken part file.cursor))
  | some ⟨after + 1, part⟩ => proceed (some ⟨after, part⟩)

/-- A write that fails has not taken its last byte. -/
instance : Write FaultyFile where
  writeAll bytes := operate (Write.writeAll bytes) fun part cursor =>
    cursor.write (bytes.dropLast.take part)
  flush := operate Write.flush fun _ => id

instance : Seek FaultyFile where
  seek whence := operate (Seek.seek whence) fun _ => id
  streamPosition := operate Seek.streamPosition fun _ => id

theorem seekable_sound : Seekable sound where
  writeAll _ _ := rfl
  flush _ := rfl
  seek _ _ := rfl
  streamPosition _ := rfl

section Steps

variable (cursor : Cursor) (after part : ℕ)

theorem run_seek_fault (whence : SeekFrom) :
    (Seek.seek whence).run (⟨cursor, some ⟨0, part⟩⟩ : FaultyFile) =
      .error deviceError (sound cursor) := rfl

theorem run_seek_succ (whence : SeekFrom) :
    (Seek.seek whence).run (⟨cursor, some ⟨after + 1, part⟩⟩ : FaultyFile) =
      .ok (UInt64.ofNat (cursor.target whence))
        ⟨{ cursor with position := cursor.target whence }, some ⟨after, part⟩⟩ := rfl

theorem run_writeAll_fault (bytes : List UInt8) :
    (Write.writeAll bytes).run (⟨cursor, some ⟨0, part⟩⟩ : FaultyFile) =
      .error deviceError (sound (cursor.write (bytes.dropLast.take part))) := rfl

theorem run_writeAll_succ (bytes : List UInt8) :
    (Write.writeAll bytes).run (⟨cursor, some ⟨after + 1, part⟩⟩ : FaultyFile) =
      .ok () ⟨cursor.write bytes, some ⟨after, part⟩⟩ := rfl

theorem run_flush_fault :
    Write.flush.run (⟨cursor, some ⟨0, part⟩⟩ : FaultyFile) =
      .error deviceError (sound cursor) := rfl

theorem run_flush_succ :
    Write.flush.run (⟨cursor, some ⟨after + 1, part⟩⟩ : FaultyFile) =
      .ok () ⟨cursor, some ⟨after, part⟩⟩ := rfl

end Steps

/-! ## A patch with a fault -/

section Patch

variable {before old new tail : List UInt8} {offset : UInt64} (part : ℕ)

/-- A seek that fails before the position has left the end leaves it there. -/
theorem run_patch_early {fault : Fault} (bytes : List UInt8) (hearly : fault.after < 2) :
    (patch offset new).run (⟨Cursor.atEnd bytes, some fault⟩ : FaultyFile) =
      .error deviceError (sound (Cursor.atEnd bytes)) := by
  obtain ⟨after, part⟩ := fault
  match after, hearly with
  | 0, _ => rw [patch, EStateM.run_bind, run_seek_fault]
  | 1, _ =>
    rw [patch, EStateM.run_bind, run_seek_succ]
    simp only [EStateM.run_bind, run_seek_fault]
    rfl

/-- The write of the payload, and the seek after it, leave the position at most
at the end of the payload when they fail. -/
theorem run_patch_late {fault : Fault} (hlate : fault.after = 2 ∨ fault.after = 3)
    (hoffset : offset.toNat = before.length) (hnew : new.length = old.length) :
    ∃ payload count, payload.length = old.length ∧ count ≤ old.length ∧
      (patch offset new).run
          (⟨Cursor.atEnd (before ++ old ++ tail), some fault⟩ : FaultyFile) =
        .error deviceError (sound ⟨before ++ payload ++ tail, before.length + count⟩) := by
  obtain ⟨after, part⟩ := fault
  obtain hafter | hafter := hlate <;> dsimp only at hafter <;> subst hafter
  · -- some of the payload is written, and the old one is kept from there on
    have hcount : (new.dropLast.take part).length ≤ old.length := by
      rw [List.length_take, List.length_dropLast, hnew]
      omega
    generalize hwritten : new.dropLast.take part = written at hcount
    have hsplit : before ++ old ++ tail =
        before ++ old.take written.length ++ (old.drop written.length ++ tail) := by
      rw [List.append_assoc, List.append_assoc, ← List.append_assoc (old.take _),
        List.take_append_drop]
    have hlength : written.length = (old.take written.length).length := by
      rw [List.length_take, Nat.min_eq_left hcount]
    refine ⟨written ++ old.drop written.length, written.length, ?_, hcount, ?_⟩
    · rw [List.length_append, List.length_drop]
      omega
    · simp only [patch, EStateM.run_bind, run_seek_succ, run_writeAll_fault, hwritten,
        Cursor.atEnd, Cursor.target, hoffset]
      rw [hsplit, Cursor.write_middle hlength]
      simp only [List.append_assoc]
  · refine ⟨new, new.length, hnew, hnew.le, ?_⟩
    simp only [patch, EStateM.run_bind, run_seek_succ, run_writeAll_succ, run_seek_fault,
      Cursor.atEnd, Cursor.target, hoffset, Cursor.write_middle hnew]

/-- A later fault does not reach the patch. -/
theorem run_patch_after (after : ℕ) (hoffset : offset.toNat = before.length)
    (hnew : new.length = old.length) (hsize : (before ++ old ++ tail).length < 2 ^ 64) :
    (patch offset new).run
        (⟨Cursor.atEnd (before ++ old ++ tail), some ⟨after + 4, part⟩⟩ : FaultyFile) =
      .ok () ⟨Cursor.atEnd (before ++ new ++ tail), some ⟨after, part⟩⟩ := by
  have hend : (UInt64.ofNat (before ++ old ++ tail).length).toNat =
      (before ++ new ++ tail).length := by
    rw [UInt64.toNat_ofNat_of_lt' hsize]
    simp only [List.length_append, hnew]
  simp only [patch, EStateM.run_bind, EStateM.run_pure, run_seek_succ, run_writeAll_succ,
    Cursor.atEnd, Cursor.target, hoffset, Cursor.write_middle hnew, hend]

end Patch

end FaultyFile

/-! ## A flush with a fault -/

namespace WriterCall

open FaultyFile

/-- A writer whose file has a fault. -/
def armed (fault : Fault) (writer : MatroskaWriter FaultyFile) : MatroskaWriter FaultyFile :=
  { writer with output := { writer.output with fault := some fault } }

/-- A flush during which a fault may become due. -/
def faultyFlush (fault : Fault) (writer : MatroskaWriter FaultyFile) :
    MatroskaWriter FaultyFile × Except MatroskaError Unit :=
  perform (armed fault writer) .flush

section Flush

variable {audioFormat : AudioFormat} {duration : List UInt8} {accepted : List MediaCall}
  {fault : Fault}

theorem run_onOutput_error {W : Type} {operation : EStateM IoError W Unit}
    {writer : MatroskaWriter W} {error : IoError} {output : W}
    (hrun : operation.run writer.output = .error error output) :
    (MatroskaWriter.onOutput operation).run writer =
      .error (.io error) { writer with output := output } := by
  rw [EStateM.run, MatroskaWriter.onOutput, hrun]

section Perform

variable {W : Type} [Write W] [Seek W] (writer : MatroskaWriter W) {output flushed : W}
  {error : IoError}

/-- A flush fails as its patch does. -/
theorem perform_flush_error
    (hrun : (patch writer.durationOffset (durationBytes writer.maximumEndUs)).run writer.output =
      .error error output) :
    perform writer .flush = ({ writer with output := output }, .error (.io error)) := by
  rw [perform, MatroskaWriter.flush, EStateM.run_bind, run_writeDuration_eq,
    run_onOutput_error hrun]

/-- After the patch, the flush of the output may fail. -/
theorem perform_flush_unflushed
    (hrun : (patch writer.durationOffset (durationBytes writer.maximumEndUs)).run writer.output =
      .ok () output)
    (hflush : Write.flush.run output = .error error flushed) :
    perform writer .flush = ({ writer with output := flushed }, .error (.io error)) := by
  have hlast : (MatroskaWriter.onOutput Write.flush).run { writer with output := output } = _ :=
    run_onOutput_error hflush
  rw [perform, MatroskaWriter.flush, EStateM.run_bind, run_writeDuration_eq, run_onOutput hrun]
  dsimp only
  rw [hlast]

/-- When neither fails, the flush has succeeded. -/
theorem perform_flush_flushed
    (hrun : (patch writer.durationOffset (durationBytes writer.maximumEndUs)).run writer.output =
      .ok () output)
    (hflush : Write.flush.run output = .ok () flushed) :
    perform writer .flush = ({ writer with output := flushed }, .ok ()) := by
  have hlast : (MatroskaWriter.onOutput Write.flush).run { writer with output := output } = _ :=
    run_onOutput hflush
  rw [perform, MatroskaWriter.flush, EStateM.run_bind, run_writeDuration_eq, run_onOutput hrun]
  dsimp only
  rw [hlast]

end Perform

/-- The file of a writer, around its duration. -/
theorem output_writerWith (hduration : duration.length = 8) :
    (writerWith sound audioFormat duration accepted).output =
      sound (Cursor.atEnd (beforeDuration ++ duration ++
        afterDuration audioFormat (accepted.map MediaCall.tree))) := by
  rw [← forestBytes_fileWith hduration]
  rfl

/-- A flush that fails early has done nothing. -/
theorem faultyFlush_early (hearly : fault.after < 2) :
    faultyFlush fault (writerWith sound audioFormat duration accepted) =
      (writerWith sound audioFormat duration accepted, .error (.io deviceError)) :=
  perform_flush_error (armed fault (writerWith sound audioFormat duration accepted))
    (run_patch_early _ hearly)

/-- A flush that fails late leaves the position inside the file. -/
theorem faultyFlush_late (hlate : fault.after = 2 ∨ fault.after = 3)
    (hduration : duration.length = 8) :
    ∃ payload position, payload.length = 8 ∧ position < fileSize audioFormat accepted ∧
      faultyFlush fault (writerWith sound audioFormat duration accepted) =
        (writerAt sound audioFormat payload accepted position, .error (.io deviceError)) := by
  have hnew := (length_durationBytes (maximumEnd accepted)).trans hduration.symm
  obtain ⟨payload, count, hpayload, hcount, hrun⟩ := @run_patch_late _ _ _
    (afterDuration audioFormat (accepted.map MediaCall.tree)) _ _ hlate toNat_durationOffset hnew
  rw [hduration] at hpayload hcount
  rw [← forestBytes_fileWith hpayload] at hrun
  have hrest : 0 < (afterDuration audioFormat (accepted.map MediaCall.tree)).length := by
    have happ : 0 < (stringTree 0x4d80 "handycam").bytes.length := by decide
    simp only [afterDuration, List.length_append]
    omega
  have hsize : fileSize audioFormat accepted = beforeDuration.length + 8 +
      (afterDuration audioFormat (accepted.map MediaCall.tree)).length := by
    rw [← length_fileWith hpayload, forestBytes_fileWith hpayload, List.length_append,
      List.length_append, hpayload]
  refine ⟨payload, beforeDuration.length + count, hpayload, by omega, ?_⟩
  rw [faultyFlush, armed, output_writerWith hduration]
  exact perform_flush_error _ hrun

/-- After the patch, only the flush of the output is left to fail. -/
theorem run_patch_writerWith (after part : ℕ) (hduration : duration.length = 8)
    (hsize : fileSize audioFormat accepted < 2 ^ 64) :
    (patch (UInt64.ofNat beforeInfo.length + durationInInfo)
        (durationBytes (maximumEnd accepted))).run
        (⟨Cursor.atEnd (forestBytes (fileWith duration audioFormat
          (accepted.map MediaCall.tree))), some ⟨after + 4, part⟩⟩ : FaultyFile) =
      .ok () ⟨Cursor.atEnd (forestBytes (fileWith (durationBytes (maximumEnd accepted)) audioFormat
        (accepted.map MediaCall.tree))), some ⟨after, part⟩⟩ := by
  have hnew := (length_durationBytes (maximumEnd accepted)).trans hduration.symm
  rw [← length_fileWith hduration, forestBytes_fileWith hduration] at hsize
  rw [forestBytes_fileWith hduration, forestBytes_fileWith (length_durationBytes _)]
  exact run_patch_after part after toNat_durationOffset hnew hsize

/-- When that fails, the file is complete all the same. -/
theorem faultyFlush_last (hlast : fault.after = 4) (hduration : duration.length = 8)
    (hsize : fileSize audioFormat accepted < 2 ^ 64) :
    faultyFlush fault (writerWith sound audioFormat duration accepted) =
      (writerWith sound audioFormat (durationBytes (maximumEnd accepted)) accepted,
        .error (.io deviceError)) := by
  obtain ⟨after, part⟩ := fault
  obtain rfl : after = 4 := hlast
  exact perform_flush_unflushed (armed _ (writerWith sound audioFormat duration accepted))
    (run_patch_writerWith 0 part hduration hsize) (run_flush_fault _ part)

/-- A fault that is due later does not show. -/
theorem faultyFlush_done (hdone : 5 ≤ fault.after) (hduration : duration.length = 8)
    (hsize : fileSize audioFormat accepted < 2 ^ 64) :
    (faultyFlush fault (writerWith sound audioFormat duration accepted)).2 = .ok () := by
  obtain ⟨after, part⟩ := fault
  obtain ⟨later, rfl⟩ : ∃ later, after = later + 1 + 4 := ⟨after - 5, by dsimp only at hdone; omega⟩
  have hflush := perform_flush_flushed
    (armed ⟨later + 1 + 4, part⟩ (writerWith sound audioFormat duration accepted))
    (run_patch_writerWith (later + 1) part hduration hsize) (run_flush_succ _ later part)
  rw [faultyFlush, hflush]

end Flush

/-! ## The writes after it -/

/-- Every packet that a writer takes among some later calls is appended: the
file is then the one it was, apart from the duration, and the packet after all
that was accepted. -/
def Kept (audioFormat : AudioFormat) (accepted : List MediaCall)
    (writer : MatroskaWriter FaultyFile) (later : List WriterCall) : Prop :=
  ∀ past call rest, later = past ++ .write call :: rest →
    (perform (Mealy.final perform writer past) (.write call)).2 = .ok () →
    ∃ duration, duration.length = 8 ∧
      (perform (Mealy.final perform writer past) (.write call)).1.output.cursor.bytes =
        forestBytes (fileWith duration audioFormat
          ((accepted ++ written audioFormat past ++ [call]).map MediaCall.tree))

/-- A flush comes before any packet that the writer accepts. -/
def FlushedFirst (audioFormat : AudioFormat) (later : List WriterCall) : Prop :=
  ∀ past call rest, later = past ++ .write call :: rest → call.Accepted audioFormat →
    .flush ∈ past

section Later

variable {audioFormat : AudioFormat} {duration : List UInt8} {accepted : List MediaCall}
  {writer : MatroskaWriter FaultyFile} {later : List WriterCall}

/-- One call, and those after it. -/
theorem kept_cons {call : WriterCall} : Kept audioFormat accepted writer (call :: later) ↔
    (∀ packet, call = .write packet → (perform writer call).2 = .ok () →
      ∃ duration, duration.length = 8 ∧ (perform writer call).1.output.cursor.bytes =
        forestBytes (fileWith duration audioFormat ((accepted ++ [packet]).map MediaCall.tree))) ∧
      Kept audioFormat (accepted ++ written audioFormat [call]) (perform writer call).1 later := by
  constructor
  · intro h
    refine ⟨?_, ?_⟩
    · rintro packet rfl hok
      obtain ⟨duration, hduration, hbytes⟩ := h [] packet later rfl hok
      refine ⟨duration, hduration, ?_⟩
      rwa [show written audioFormat [] = [] from rfl, List.append_nil] at hbytes
    · rintro past packet rest rfl hok
      obtain ⟨duration, hduration, hbytes⟩ := h (call :: past) packet rest rfl hok
      refine ⟨duration, hduration, ?_⟩
      rwa [written_cons, ← List.append_assoc] at hbytes
  · rintro ⟨hfirst, hrest⟩ past packet rest hsplit hok
    cases past with
    | nil =>
      obtain ⟨rfl, rfl⟩ := List.cons.inj hsplit
      obtain ⟨duration, hduration, hbytes⟩ := hfirst packet rfl hok
      refine ⟨duration, hduration, ?_⟩
      rwa [show written audioFormat [] = [] from rfl, List.append_nil]
    | cons first past =>
      obtain ⟨rfl, rfl⟩ := List.cons.inj hsplit
      obtain ⟨duration, hduration, hbytes⟩ := hrest past packet rest rfl hok
      refine ⟨duration, hduration, ?_⟩
      rwa [written_cons, ← List.append_assoc]

theorem flushedFirst_write {packet : MediaCall} :
    FlushedFirst audioFormat (.write packet :: later) ↔
      ¬ packet.Accepted audioFormat ∧ FlushedFirst audioFormat later := by
  constructor
  · intro h
    refine ⟨fun haccepted => ?_, ?_⟩
    · exact List.not_mem_nil (h [] packet later rfl haccepted)
    · rintro past call rest rfl haccepted
      exact (List.mem_cons.mp (h (.write packet :: past) call rest rfl haccepted)).resolve_left
        (by simp)
  · rintro ⟨hrejected, hrest⟩ past call rest hsplit haccepted
    cases past with
    | nil =>
      obtain ⟨hcall, -⟩ := List.cons.inj hsplit
      obtain rfl := WriterCall.write.inj hcall
      exact absurd haccepted hrejected
    | cons first past =>
      obtain ⟨-, rfl⟩ := List.cons.inj hsplit
      exact List.mem_cons_of_mem _ (hrest past call rest rfl haccepted)

theorem flushedFirst_flush : FlushedFirst audioFormat (.flush :: later) := by
  intro past call rest hsplit haccepted
  cases past with
  | nil => cases (List.cons.inj hsplit).1
  | cons first past =>
    obtain ⟨rfl, -⟩ := List.cons.inj hsplit
    exact List.mem_cons_self

/-- A writer at the end of its file stays there. -/
theorem kept_writerWith (hduration : duration.length = 8)
    (hlimit : ∀ call, .write call ∈ later → call.BelowLimit)
    (hsize : fileSize audioFormat (accepted ++ written audioFormat later) < 2 ^ 64) :
    Kept audioFormat accepted (writerWith sound audioFormat duration accepted) later := by
  rintro past packet rest rfl hok
  have hpast : ∀ call, .write call ∈ past → call.BelowLimit := fun call hcall =>
    hlimit call (List.mem_append_left _ hcall)
  have hpacket : packet.BelowLimit := hlimit packet (by simp)
  have hshorter : fileSize audioFormat (accepted ++ written audioFormat past) < 2 ^ 64 := by
    rw [written_append, ← List.append_assoc] at hsize
    exact (fileSize_le_append _ _).trans_lt hsize
  rw [final_calls seekable_sound hduration hpast hshorter] at hok ⊢
  by_cases haccepted : packet.Accepted audioFormat
  · have hkept : MediaCall.acceptedCalls audioFormat [packet] = [packet] := by
      simp [MediaCall.acceptedCalls, haccepted]
    refine ⟨durationAfter audioFormat duration accepted past, length_durationAfter hduration past,
      ?_⟩
    rw [perform_write seekable_sound hpacket, hkept]
    rfl
  · have hcall : packet.perform (writerWith sound audioFormat
        (durationAfter audioFormat duration accepted past)
        (accepted ++ written audioFormat past)) = _ :=
      MediaCall.perform_rejected hpacket haccepted
    rw [perform, hcall] at hok
    cases hok

/-- A packet that is written inside the file overwrites what is there, so that
the file does not grow by the packet. -/
theorem perform_write_inside {position : ℕ} {packet : MediaCall} (hduration : duration.length = 8)
    (hinside : position < fileSize audioFormat accepted) (hlimit : packet.BelowLimit)
    (haccepted : packet.Accepted audioFormat) :
    (perform (writerAt sound audioFormat duration accepted position) (.write packet)).2 = .ok () ∧
      (perform (writerAt sound audioFormat duration accepted position)
        (.write packet)).1.output.cursor.bytes.length <
          fileSize audioFormat accepted + packet.tree.bytes.length := by
  have hlength := @length_fileWith audioFormat _ accepted hduration
  generalize hfile : forestBytes (fileWith duration audioFormat (accepted.map MediaCall.tree)) =
    bytes at hlength
  have hwithin : (⟨bytes, position⟩ : Cursor).position ≤ bytes.length := by
    rw [hlength]
    exact hinside.le
  -- from here on the file is a stream, of which the packet overwrites a part
  have hstream : Appending fun more => sound ((⟨bytes, position⟩ : Cursor).write more) := by
    intro before more
    rw [seekable_sound.writeAll, Cursor.write_write hwithin]
  have houtput : (writerAt sound audioFormat duration accepted position).output =
      sound ((⟨bytes, position⟩ : Cursor).write []) := by
    rw [Cursor.write_nil hwithin, ← hfile]
    rfl
  have hcall : packet.perform (writerAt sound audioFormat duration accepted position) = _ :=
    MediaCall.perform_accepted hstream houtput hlimit haccepted
  rw [perform, hcall]
  refine ⟨rfl, ?_⟩
  have hpacket : 0 < packet.tree.bytes.length :=
    Nat.zero_lt_of_lt (length_lt_elementBytes 0x1f43b675 true _)
  change ((⟨bytes, position⟩ : Cursor).write packet.tree.bytes).bytes.length < _
  rw [Cursor.length_write hwithin, hlength]
  exact max_lt (Nat.lt_add_of_pos_right hpacket) (Nat.add_lt_add_right hinside _)

theorem perform_flush_writerAt (hduration : duration.length = 8)
    (hsize : fileSize audioFormat accepted < 2 ^ 64) (position : ℕ) :
    perform (writerAt sound audioFormat duration accepted position) .flush =
      (writerWith sound audioFormat (durationBytes (maximumEnd accepted)) accepted, .ok ()) := by
  rw [perform, run_flush_writerAt seekable_sound hduration hsize position]

/-- A writer inside its file keeps it only until it accepts a packet; a flush
brings it back to the end. -/
theorem kept_writerAt {position : ℕ} (hduration : duration.length = 8)
    (hinside : position < fileSize audioFormat accepted)
    (hlimit : ∀ call, .write call ∈ later → call.BelowLimit)
    (hsize : fileSize audioFormat (accepted ++ written audioFormat later) < 2 ^ 64) :
    Kept audioFormat accepted (writerAt sound audioFormat duration accepted position) later ↔
      FlushedFirst audioFormat later := by
  induction later with
  | nil =>
    refine iff_of_true ?_ ?_
    · intro past call rest hsplit
      simp at hsplit
    · intro past call rest hsplit
      simp at hsplit
  | cons call later ih =>
    have hrest := fun packet hpacket => hlimit packet (List.mem_cons_of_mem _ hpacket)
    have hshorter : fileSize audioFormat accepted < 2 ^ 64 :=
      (fileSize_le_append _ _).trans_lt hsize
    cases call with
    | flush =>
      refine iff_of_true (kept_cons.mpr ⟨?_, ?_⟩) flushedFirst_flush
      · intro packet hpacket
        cases hpacket
      · have hsame : accepted ++ written audioFormat [.flush] = accepted := List.append_nil _
        rw [perform_flush_writerAt hduration hshorter position, hsame]
        exact kept_writerWith (length_durationBytes _) hrest hsize
    | write packet =>
      have hpacket := hlimit packet List.mem_cons_self
      rw [flushedFirst_write, kept_cons]
      by_cases haccepted : packet.Accepted audioFormat
      · -- the packet overwrites what is there, so that the file is too short
        obtain ⟨hok, hshort⟩ := perform_write_inside hduration hinside hpacket haccepted
        refine iff_of_false ?_ fun h => h.1 haccepted
        rintro ⟨hkept, -⟩
        obtain ⟨payload, hpayload, hbytes⟩ := hkept packet rfl hok
        rw [hbytes, length_fileWith hpayload, fileSize, fileSize, List.map_append,
          forestBytes_append] at hshort
        simp [forestBytes] at hshort
        omega
      · -- a refused packet leaves the position
        have hcall : perform (writerAt sound audioFormat duration accepted position)
            (.write packet) = (writerAt sound audioFormat duration accepted position, .error _) :=
          MediaCall.perform_rejected hpacket haccepted
        have hdropped : written audioFormat [.write packet] = [] := by
          simp [written, write?, MediaCall.acceptedCalls, haccepted]
        rw [written_cons, hdropped, List.nil_append] at hsize
        rw [hcall, hdropped, List.append_nil, ih hrest hsize]
        refine and_congr_left fun _ => iff_of_true ?_ haccepted
        intro other hother hok
        cases hok

end Later

/-- **Which failed flushes keep the file.** For every state that writes and
flushes reach, and every fault that makes a flush of it fail: all packets that
the writer takes afterwards are appended, and nothing before them but the
duration changes, if and only if the flush failed neither in the write of the
duration nor in the seek after it, or a flush that succeeds comes before the
first of the packets. -/
theorem faultyFlush_kept_iff (audioFormat : AudioFormat) :
    ∃ writer, MatroskaWriter.new (sound (Cursor.atEnd [])) audioFormat = .ok writer ∧
      ∀ (calls later : List WriterCall) (fault : Fault) (error : MatroskaError),
        Fit audioFormat (calls ++ later) →
        (faultyFlush fault (Mealy.final perform writer calls)).2 = .error error →
        (Kept audioFormat (written audioFormat calls)
            (faultyFlush fault (Mealy.final perform writer calls)).1 later ↔
          (fault.after ≠ 2 ∧ fault.after ≠ 3) ∨ FlushedFirst audioFormat later) := by
  refine ⟨_, new_eq_writerWith seekable_sound audioFormat, ?_⟩
  intro calls later fault error hfit hfailed
  have hcalls := hfit.of_append
  have hlimit : ∀ call, .write call ∈ later → call.BelowLimit := fun call hcall =>
    hfit.1 call (List.mem_append_right _ hcall)
  have hsize := hfit.2
  rw [written_append] at hsize
  rw [final_eq_writerAfter seekable_sound hcalls, writerAfter] at hfailed ⊢
  have hduration := @length_durationAfter audioFormat _ [] length_emptyDuration calls
  generalize durationAfter audioFormat emptyDuration [] calls = duration at hfailed hduration ⊢
  by_cases hlate : fault.after = 2 ∨ fault.after = 3
  · -- the output is left inside the file
    obtain ⟨payload, position, hpayload, hinside, hflush⟩ :=
      @faultyFlush_late audioFormat _ (written audioFormat calls) _ hlate hduration
    rw [hflush, kept_writerAt hpayload hinside hlimit hsize]
    exact (or_iff_right (by omega)).symm
  · -- the output is at the end, before the duration is written or after the last seek
    refine iff_of_true ?_ (.inl (by omega))
    by_cases hearly : fault.after < 2
    · rw [faultyFlush_early hearly]
      exact kept_writerWith hduration hlimit hsize
    · by_cases hlast : fault.after = 4
      · rw [faultyFlush_last hlast hduration hcalls.2]
        exact kept_writerWith (length_durationBytes _) hlimit hsize
      · rw [faultyFlush_done (by omega) hduration hcalls.2] at hfailed
        cases hfailed

/-- A frame. -/
def sampleFrame : MediaCall := MediaCall.sampleCalls.head (by decide)

theorem fit_sampleFrames : Fit MediaCall.sampleFormat [.write sampleFrame, .write sampleFrame] := by
  refine ⟨?_, by decide +kernel⟩
  intro call hcall
  obtain rfl : call = sampleFrame := by simpa using hcall
  exact MediaCall.belowLimit_of_length (by decide)

theorem final_sampleFrame :
    Mealy.final perform (writerWith sound MediaCall.sampleFormat emptyDuration [])
        [.write sampleFrame] =
      writerWith sound MediaCall.sampleFormat emptyDuration [sampleFrame] :=
  perform_write seekable_sound (fit_sampleFrames.1 sampleFrame List.mem_cons_self)

theorem faultyFlush_kept_iff_frames :
    ∃ writer, MatroskaWriter.new (sound (Cursor.atEnd [])) MediaCall.sampleFormat = .ok writer ∧
      Kept MediaCall.sampleFormat [sampleFrame]
        (faultyFlush ⟨1, 0⟩ (Mealy.final perform writer [.write sampleFrame])).1
        [.write sampleFrame] := by
  obtain ⟨writer, hnew, hkept⟩ := faultyFlush_kept_iff MediaCall.sampleFormat
  refine ⟨writer, hnew, ?_⟩
  have hwriter := (new_eq_writerWith seekable_sound MediaCall.sampleFormat).symm.trans hnew
  obtain rfl := Except.ok.inj hwriter
  refine (hkept [.write sampleFrame] [.write sampleFrame] ⟨1, 0⟩ (.io deviceError)
    fit_sampleFrames ?_).mpr (.inl (by decide))
  rw [final_sampleFrame, faultyFlush_early (by decide)]

/-- A frame, a flush whose last seek fails, and a frame that is written over
the header. -/
theorem faultyFlush_overwrites :
    ∃ writer, MatroskaWriter.new (sound (Cursor.atEnd [])) MediaCall.sampleFormat = .ok writer ∧
      ∃ failed error,
        faultyFlush ⟨3, 0⟩ (Mealy.final perform writer [.write sampleFrame]) =
          (failed, .error error) ∧
        (perform failed (.write sampleFrame)).2 = .ok () ∧
        (perform failed (.write sampleFrame)).1.output.cursor.bytes.length <
          failed.output.cursor.bytes.length + sampleFrame.tree.bytes.length ∧
        ¬ Kept MediaCall.sampleFormat [sampleFrame] failed [.write sampleFrame] := by
  have hlimit := fit_sampleFrames.1 sampleFrame List.mem_cons_self
  obtain ⟨payload, position, hpayload, hinside, hflush⟩ :=
    @faultyFlush_late MediaCall.sampleFormat _ [sampleFrame] ⟨3, 0⟩ (.inr rfl) length_emptyDuration
  obtain ⟨hok, hshort⟩ := perform_write_inside hpayload hinside hlimit trivial
  refine ⟨_, new_eq_writerWith seekable_sound _, _, .io deviceError, ?_, hok, ?_, ?_⟩
  · rw [final_sampleFrame, hflush]
  · rw [← length_fileWith hpayload] at hshort
    exact hshort
  · rw [kept_writerAt hpayload hinside (fun _ hcall => fit_sampleFrames.1 _
      (List.mem_cons_of_mem _ hcall)) fit_sampleFrames.2]
    exact fun h => List.not_mem_nil (h [] sampleFrame [] rfl trivial)

end WriterCall

end Handycam
