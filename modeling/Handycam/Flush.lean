import Mathlib
import Handycam.Matroska

/-!
# Flushing a Matroska writer

`flush` goes back to the header and overwrites the payload of the duration
element. The offset was computed by hand before the element was written, so
what has to be shown is that the eight bytes are the right ones, and that
nothing else is touched, however writes and flushes follow each other.

* **the file** — the trees of a file with a given duration, and its bytes
  before and after the duration;
* **the step** — a flush of a writer over any seekable output without faults;
* **the run** — writes and flushes in any order.
-/

namespace Handycam

open Ebml

/-! ## A file with a duration -/

/-- The duration of a file that was never flushed. -/
def emptyDuration : List UInt8 := beBytes64 (0.0 : Float).toBits

/-- The payload of the duration element: milliseconds, as a floating-point
number. -/
def durationBytes (maximumEndUs : UInt64) : List UInt8 :=
  beBytes64 (maximumEndUs.toFloat / 1000.0).toBits

theorem length_emptyDuration : emptyDuration.length = 8 := length_bytesBE _ _

theorem length_durationBytes (maximumEndUs : UInt64) : (durationBytes maximumEndUs).length = 8 :=
  length_bytesBE _ _

/-- The elements of the segment information with a duration. -/
def infoFieldsWith (duration : List UInt8) : List Tree :=
  [uintTree 0x2ad7b1 1000000, .leaf 0x4489 duration, stringTree 0x4d80 "handycam",
    stringTree 0x5741 "handycam"]

/-- A file with a duration and clusters. -/
def fileWith (duration : List UInt8) (audioFormat : AudioFormat) (clusters : List Tree) :
    List Tree :=
  [headerTree, .master 0x18538067 false
    (.master 0x1549a966 true (infoFieldsWith duration) :: tracksTree audioFormat :: clusters)]

theorem fileWith_emptyDuration (audioFormat : AudioFormat) (clusters : List Tree) :
    fileWith emptyDuration audioFormat clusters = fileTrees audioFormat clusters := rfl

/-- The payload of the first data element with an ID. -/
def leafField (id : ℕ) (fields : List Tree) : Option (List UInt8) :=
  fields.findSome? fun
    | .leaf other payload => if other = id then some payload else none
    | .master .. => none

/-- The payload of the duration that a reader finds: in the segment, in its
information. -/
def readDuration (stream : List UInt8) : Option (List UInt8) := do
  match ← readForest isMaster stream with
  | [_, .master 0x18538067 _ children] => leafField 0x4489 (← masterField 0x1549a966 children)
  | _ => none

/-- The size of the segment information. -/
def infoSize : ℕ := (forestBytes infoFields).length

/-- The bytes of a file before the duration. -/
def beforeDuration : List UInt8 :=
  beforeInfo ++ (idBytes 0x1549a966 ++ sizeBytes infoSize ++
    ((uintTree 0x2ad7b1 1000000).bytes ++ (idBytes 0x4489 ++ sizeBytes 8)))

/-- The bytes of a file after the duration. -/
def afterDuration (audioFormat : AudioFormat) (clusters : List Tree) : List UInt8 :=
  (stringTree 0x4d80 "handycam").bytes ++ (stringTree 0x5741 "handycam").bytes ++
    (tracksTree audioFormat).bytes ++ forestBytes clusters

section File

variable {duration : List UInt8}

theorem length_infoFieldsWith (hduration : duration.length = 8) :
    (forestBytes (infoFieldsWith duration)).length = infoSize := by
  have hempty : (beBytes64 (0.0 : Float).toBits).length = 8 := length_bytesBE _ _
  simp only [infoSize, infoFields, infoFieldsWith, floatTree, forestBytes, Tree.bytes,
    elementBytes, List.length_append, hempty, hduration]

/-- The duration has its place. -/
theorem forestBytes_fileWith (hduration : duration.length = 8) (audioFormat : AudioFormat)
    (clusters : List Tree) :
    forestBytes (fileWith duration audioFormat clusters) =
      beforeDuration ++ duration ++ afterDuration audioFormat clusters := by
  have hsize := length_infoFieldsWith hduration
  rw [fileWith, forestBytes, forestBytes, forestBytes, Tree.bytes, elementBytes, forestBytes,
    forestBytes, Tree.bytes, elementBytes, hsize]
  simp [infoFieldsWith, forestBytes, beforeDuration, beforeInfo, afterDuration, Tree.bytes,
    elementBytes, hduration]

theorem short_infoFieldsWith (hduration : duration.length = 8) :
    (Tree.master 0x1549a966 true (infoFieldsWith duration)).Short isMaster 1024 := by
  have hleaf : (Tree.leaf 0x4489 duration).Short isMaster 64 :=
    (short_leaf (by decide) (by decide) hduration.le (by decide)).mono (by decide)
  have hfields : ∀ tree ∈ infoFieldsWith duration, tree.Short isMaster 64 := by
    simp only [infoFieldsWith, List.forall_mem_cons]
    exact ⟨short_uintTree (by decide) _, hleaf, short_stringTree (by decide) (by decide),
      short_stringTree (by decide) (by decide), List.forall_mem_nil _⟩
  exact short_master 4 (by decide) (by decide) rfl hfields (by decide) (by decide)

/-- A reader finds the duration. -/
theorem readDuration_fileWith (hduration : duration.length = 8) (audioFormat : AudioFormat)
    {clusters : List Tree}
    (hclusters : ∀ tree ∈ clusters, tree.Readable isMaster ∧ tree.element.sized = true) :
    readDuration (forestBytes (fileWith duration audioFormat clusters)) = some duration := by
  have hforest := readForest_forestBytes
    (readable_segment audioFormat (short_infoFieldsWith hduration) hclusters)
  rw [readDuration, fileWith, hforest]
  simp [masterField, leafField, infoFieldsWith, uintTree]

/-- The offset that the header returns is that of the duration. -/
theorem toNat_durationOffset :
    (UInt64.ofNat beforeInfo.length + durationInInfo).toNat = beforeDuration.length := by
  have hheader := short_headerTree.2.2
  have hsegment : (idBytes 0x18538067).length = 4 := by decide
  have hinfoId : (idBytes 0x1549a966).length = 4 := by decide
  have hdurationId : (idBytes 0x4489).length = 2 := by decide
  have hdurationSize : (sizeBytes 8).length = 1 := by decide
  have hinfoSize : (sizeBytes infoSize).length = Ebml.sizeWidth infoSize + 1 := length_bytesBE _ _
  have hwidth := (sizeWidth_spec short_infoTree.1.length_master).1
  have hscale : (uintTree 0x2ad7b1 1000000).bytes.length ≤ 64 :=
    (short_uintTree (by decide) 1000000).2.2
  have hbefore : beforeInfo.length ≤ 2048 := by
    simp only [beforeInfo, List.length_append, hsegment, unknownSize, List.length_cons,
      List.length_nil]
    omega
  have hlength : beforeDuration.length = beforeInfo.length + (4 + (Ebml.sizeWidth infoSize + 1) +
      ((uintTree 0x2ad7b1 1000000).bytes.length + 3)) := by
    simp only [beforeDuration, List.length_append, hinfoId, hdurationId, hdurationSize, hinfoSize]
  change Ebml.sizeWidth infoSize < 8 at hwidth
  change (UInt64.ofNat beforeInfo.length + (4 + UInt64.ofNat (Ebml.sizeWidth infoSize + 1) +
    (UInt64.ofNat (uintTree 0x2ad7b1 1000000).bytes.length + 3))).toNat = _
  rw [hlength]
  generalize beforeInfo.length = before at hbefore ⊢
  generalize (uintTree 0x2ad7b1 1000000).bytes.length = scale at hscale ⊢
  generalize Ebml.sizeWidth infoSize = width at hwidth ⊢
  simp only [UInt64.toNat_add, UInt64.toNat_ofNat']
  have hfour : (4 : UInt64).toNat = 4 := rfl
  have hthree : (3 : UInt64).toNat = 3 := rfl
  omega

end File

/-! ## Seekable outputs -/

/-- An output that behaves as a file in memory does, without faults. -/
structure Seekable {W : Type} [Write W] [Seek W] (file : Cursor → W) : Prop where
  /-- bytes are written at the position -/
  writeAll : ∀ cursor bytes,
    (Write.writeAll bytes).run (file cursor) = .ok () (file (cursor.write bytes))
  /-- a flush changes nothing that can be read -/
  flush : ∀ cursor, Write.flush.run (file cursor) = .ok () (file cursor)
  /-- the position moves -/
  seek : ∀ cursor whence, (Seek.seek whence).run (file cursor) =
    .ok (UInt64.ofNat (cursor.target whence))
      (file { cursor with position := cursor.target whence })
  /-- the position is known -/
  streamPosition : ∀ cursor : Cursor, Seek.streamPosition.run (file cursor) =
    .ok (UInt64.ofNat cursor.position) (file cursor)

theorem seekable_cursor : Seekable (id : Cursor → Cursor) where
  writeAll _ _ := rfl
  flush _ := rfl
  seek _ _ := rfl
  streamPosition _ := rfl

/-- A file whose position is at its end. -/
def endOf {W : Type} (file : Cursor → W) (bytes : List UInt8) : W := file (Cursor.atEnd bytes)

theorem Seekable.faultless {W : Type} [Write W] [Seek W] {file : Cursor → W} (h : Seekable file) :
    Faultless (endOf file) where
  writeAll bytes more := by
    rw [endOf, h.writeAll, Cursor.write_atEnd, endOf]
  streamPosition bytes := h.streamPosition (Cursor.atEnd bytes)

/-- Bytes in the middle are overwritten by as many others. -/
theorem Cursor.write_middle {before old new after : List UInt8} (h : new.length = old.length) :
    (⟨before ++ old ++ after, before.length⟩ : Cursor).write new =
      ⟨before ++ new ++ after, before.length + new.length⟩ := by
  have hbefore : (before ++ old ++ after).take before.length = before := by
    rw [List.append_assoc, List.take_left]
  have hafter : (before ++ old ++ after).drop (before.length + new.length) = after := by
    rw [h, ← List.length_append, List.drop_left]
  have hgap : before.length - (before ++ old ++ after).length = 0 := by
    simp only [List.length_append]
    omega
  simp only [Cursor.write, hbefore, hafter, hgap, List.replicate_zero, List.append_nil]

/-! ## A flush -/

/-- The end of the last packet. -/
def maximumEnd (accepted : List MediaCall) : UInt64 :=
  accepted.foldl (fun maximum call => max maximum call.endUs) 0

/-- A writer over a file with a duration, that has written some packets. -/
def writerWith {W : Type} (file : Cursor → W) (audioFormat : AudioFormat) (duration : List UInt8)
    (accepted : List MediaCall) : MatroskaWriter W where
  output := endOf file (forestBytes (fileWith duration audioFormat (accepted.map MediaCall.tree)))
  audioFormat := audioFormat
  durationOffset := UInt64.ofNat beforeInfo.length + durationInInfo
  maximumEndUs := maximumEnd accepted

/-- The size of a file. -/
def fileSize (audioFormat : AudioFormat) (accepted : List MediaCall) : ℕ :=
  (headerBytes audioFormat).length + (forestBytes (accepted.map MediaCall.tree)).length

theorem forestBytes_append (first second : List Tree) :
    forestBytes (first ++ second) = forestBytes first ++ forestBytes second := by
  rw [forestBytes_eq, forestBytes_eq, forestBytes_eq, List.flatMap_append]

/-- The segment has no size, so that a cluster can be appended. -/
theorem forestBytes_fileWith_concat (duration : List UInt8) (audioFormat : AudioFormat)
    (clusters : List Tree) (cluster : Tree) :
    forestBytes (fileWith duration audioFormat (clusters ++ [cluster])) =
      forestBytes (fileWith duration audioFormat clusters) ++ cluster.bytes := by
  simp [fileWith, forestBytes, Tree.bytes, elementBytes, forestBytes_append]

theorem maximumEnd_concat (accepted : List MediaCall) (call : MediaCall) :
    maximumEnd (accepted ++ [call]) = max (maximumEnd accepted) call.endUs := by
  rw [maximumEnd, List.foldl_append]
  rfl

theorem fileSize_le_append {audioFormat : AudioFormat} (accepted more : List MediaCall) :
    fileSize audioFormat accepted ≤ fileSize audioFormat (accepted ++ more) := by
  rw [fileSize, fileSize, List.map_append, forestBytes_append, List.length_append]
  omega

section Flush

variable {W : Type} [Write W] [Seek W] {file : Cursor → W} {audioFormat : AudioFormat}
  {duration : List UInt8} {accepted : List MediaCall}

theorem new_eq_writerWith (hfile : Seekable file) (audioFormat : AudioFormat) :
    MatroskaWriter.new (endOf file []) audioFormat =
      .ok (writerWith file audioFormat emptyDuration []) :=
  MediaCall.new_eq hfile.faultless audioFormat

theorem length_fileWith (hduration : duration.length = 8) :
    (forestBytes (fileWith duration audioFormat (accepted.map MediaCall.tree))).length =
      fileSize audioFormat accepted := by
  rw [forestBytes_fileWith hduration, fileSize, ← List.length_append, ← forestBytes_fileTrees,
    ← fileWith_emptyDuration, forestBytes_fileWith length_emptyDuration]
  simp only [List.length_append, hduration, length_emptyDuration]

/-- To the end, back to the duration, and to the end again. -/
def patch (durationOffset : UInt64) (payload : List UInt8) : EStateM IoError W Unit := do
  let streamEnd ← Seek.seek .streamEnd
  let _ ← Seek.seek (.start durationOffset)
  Write.writeAll payload
  let _ ← Seek.seek (.start streamEnd)

/-- The patch replaces as many bytes, wherever the position was before. -/
theorem run_patch (hfile : Seekable file) {cursor : Cursor} {before old new after : List UInt8}
    {offset : UInt64} (hbytes : cursor.bytes = before ++ old ++ after)
    (hoffset : offset.toNat = before.length) (hnew : new.length = old.length)
    (hsize : (before ++ old ++ after).length < 2 ^ 64) :
    (patch offset new).run (file cursor) = .ok () (endOf file (before ++ new ++ after)) := by
  have hend : (UInt64.ofNat (before ++ old ++ after).length).toNat =
      (before ++ new ++ after).length := by
    rw [UInt64.toNat_ofNat_of_lt' hsize]
    simp only [List.length_append, hnew]
  simp only [patch, EStateM.run_bind, EStateM.run_pure, endOf, Cursor.atEnd, hfile.seek,
    Cursor.target, hoffset, hfile.writeAll, hbytes, Cursor.write_middle hnew, hend]

omit [Write W] [Seek W] in
theorem run_get_bind {α : Type} (next : MatroskaWriter W → EStateM MatroskaError (MatroskaWriter W) α)
    (writer : MatroskaWriter W) :
    (get >>= next : EStateM MatroskaError (MatroskaWriter W) α).run writer =
      (next writer).run writer :=
  rfl

omit [Write W] [Seek W] in
/-- An operation on the output leaves the rest of the writer. -/
theorem run_onOutput {operation : EStateM IoError W Unit} {writer : MatroskaWriter W} {output : W}
    (hrun : operation.run writer.output = .ok () output) :
    (MatroskaWriter.onOutput operation).run writer = .ok () { writer with output := output } := by
  rw [EStateM.run, MatroskaWriter.onOutput, hrun]

theorem run_writeDuration_eq (writer : MatroskaWriter W) :
    MatroskaWriter.writeDuration.run writer = (MatroskaWriter.onOutput
      (patch writer.durationOffset (durationBytes writer.maximumEndUs))).run writer := by
  -- reading the two fields first keeps the kernel from running the operation
  rw [MatroskaWriter.writeDuration, run_get_bind, run_get_bind]
  rfl

/-- The duration goes to its place in the output, whatever else is in it. -/
theorem run_writeDuration (hfile : Seekable file) {writer : MatroskaWriter W} {cursor : Cursor}
    {before old after : List UInt8} (houtput : writer.output = file cursor)
    (hbytes : cursor.bytes = before ++ old ++ after)
    (hoffset : writer.durationOffset.toNat = before.length)
    (hlength : (durationBytes writer.maximumEndUs).length = old.length)
    (hsize : (before ++ old ++ after).length < 2 ^ 64) :
    MatroskaWriter.writeDuration.run writer =
      .ok () { writer with
        output := endOf file (before ++ durationBytes writer.maximumEndUs ++ after) } := by
  rw [run_writeDuration_eq]
  refine run_onOutput ?_
  rw [houtput]
  exact run_patch hfile hbytes hoffset hlength hsize

/-- A writer whose position may be anywhere in its file. -/
def writerAt {W : Type} (file : Cursor → W) (audioFormat : AudioFormat) (duration : List UInt8)
    (accepted : List MediaCall) (position : ℕ) : MatroskaWriter W :=
  { writerWith file audioFormat duration accepted with
    output := file
      ⟨forestBytes (fileWith duration audioFormat (accepted.map MediaCall.tree)), position⟩ }

/-- **A flush** fills in the duration, and leaves the position at the end, from
wherever it is. -/
theorem run_flush_writerAt (hfile : Seekable file) (hduration : duration.length = 8)
    (hsize : fileSize audioFormat accepted < 2 ^ 64) (position : ℕ) :
    MatroskaWriter.flush.run (writerAt file audioFormat duration accepted position) =
      .ok () (writerWith file audioFormat (durationBytes (maximumEnd accepted)) accepted) := by
  have hnew : (durationBytes (maximumEnd accepted)).length = duration.length := by
    rw [hduration, length_durationBytes]
  have hbytes := forestBytes_fileWith hduration audioFormat (accepted.map MediaCall.tree)
  have hflushed := forestBytes_fileWith (length_durationBytes (maximumEnd accepted)) audioFormat
    (accepted.map MediaCall.tree)
  rw [← length_fileWith hduration, hbytes] at hsize
  have houtput : (writerAt file audioFormat duration accepted position).output =
      file ⟨beforeDuration ++ duration ++
        afterDuration audioFormat (accepted.map MediaCall.tree), position⟩ := by
    rw [← hbytes]
    rfl
  have hwrite := run_writeDuration hfile houtput rfl toNat_durationOffset hnew hsize
  rw [MatroskaWriter.flush, EStateM.run_bind, hwrite, writerAt, writerWith, writerWith, hflushed]
  exact run_onOutput (hfile.flush _)

theorem run_flush (hfile : Seekable file) (hduration : duration.length = 8)
    (hsize : fileSize audioFormat accepted < 2 ^ 64) :
    MatroskaWriter.flush.run (writerWith file audioFormat duration accepted) =
      .ok () (writerWith file audioFormat (durationBytes (maximumEnd accepted)) accepted) :=
  run_flush_writerAt hfile hduration hsize _

end Flush

/-! ## Writes and flushes -/

/-- A call of the writer's user. -/
inductive WriterCall where
  /-- `write_video` or `write_audio` -/
  | write (call : MediaCall)
  /-- `flush` -/
  | flush
  deriving DecidableEq

namespace WriterCall

/-- The packet that is written, if any. -/
def write? : WriterCall → Option MediaCall
  | .write call => some call
  | .flush => none

/-- The packets that are written: a flush writes none, and a rejected call
neither. -/
def written (audioFormat : AudioFormat) (calls : List WriterCall) : List MediaCall :=
  MediaCall.acceptedCalls audioFormat (calls.filterMap write?)

/-- The calls without the flushes. -/
def writes (calls : List WriterCall) : List WriterCall := calls.filter (· ≠ .flush)

section Calls

variable {W : Type} {file : Cursor → W} {audioFormat : AudioFormat} {duration : List UInt8}
  {accepted : List MediaCall}

theorem written_append (first second : List WriterCall) :
    written audioFormat (first ++ second) =
      written audioFormat first ++ written audioFormat second := by
  rw [written, List.filterMap_append, MediaCall.acceptedCalls, List.filter_append]
  rfl

theorem written_cons (call : WriterCall) (calls : List WriterCall) :
    written audioFormat (call :: calls) = written audioFormat [call] ++ written audioFormat calls :=
  written_append [call] calls

theorem written_writes (calls : List WriterCall) :
    written audioFormat (writes calls) = written audioFormat calls := by
  induction calls with
  | nil => rfl
  | cons call calls ih =>
    cases call with
    | write call =>
      rw [written_cons (.write call) calls, ← ih]
      exact written_cons (.write call) (writes calls)
    | flush => exact ih

/-- The duration after some calls: that of the last flush. -/
def durationAfter (audioFormat : AudioFormat) (duration : List UInt8) (accepted : List MediaCall) :
    List WriterCall → List UInt8
  | [] => duration
  | .write call :: calls =>
    durationAfter audioFormat duration (accepted ++ MediaCall.acceptedCalls audioFormat [call]) calls
  | .flush :: calls =>
    durationAfter audioFormat (durationBytes (maximumEnd accepted)) accepted calls

theorem durationAfter_append (past rest : List WriterCall) :
    durationAfter audioFormat duration accepted (past ++ rest) =
      durationAfter audioFormat (durationAfter audioFormat duration accepted past)
        (accepted ++ written audioFormat past) rest := by
  induction past generalizing duration accepted with
  | nil => simp [durationAfter, written, MediaCall.acceptedCalls]
  | cons call past ih =>
    cases call with
    | write call =>
      rw [List.cons_append, durationAfter, ih, written_cons, durationAfter, ← List.append_assoc]
      rfl
    | flush => exact ih

/-- Writes leave the duration as it is. -/
theorem durationAfter_writes {calls : List WriterCall} (hwrites : .flush ∉ calls) :
    durationAfter audioFormat duration accepted calls = duration := by
  induction calls generalizing accepted with
  | nil => rfl
  | cons call calls ih =>
    rw [List.mem_cons, not_or] at hwrites
    cases call with
    | write call => exact ih hwrites.2
    | flush => exact absurd rfl hwrites.1

/-- After a flush the duration is that of what was written before it. -/
theorem durationAfter_flushed {past rest : List WriterCall} (hrest : .flush ∉ rest) :
    durationAfter audioFormat duration accepted (past ++ .flush :: rest) =
      durationBytes (maximumEnd (accepted ++ written audioFormat past)) := by
  rw [durationAfter_append, durationAfter, durationAfter_writes hrest]

theorem length_durationAfter (hduration : duration.length = 8) (calls : List WriterCall) :
    (durationAfter audioFormat duration accepted calls).length = 8 := by
  induction calls generalizing duration accepted with
  | nil => exact hduration
  | cons call calls ih =>
    cases call with
    | write call => exact ih hduration
    | flush => exact ih (length_durationBytes _)

/-- The calls whose packets fit into a file. -/
def Fit (audioFormat : AudioFormat) (calls : List WriterCall) : Prop :=
  (∀ call, .write call ∈ calls → call.BelowLimit) ∧
    fileSize audioFormat (written audioFormat calls) < 2 ^ 64

theorem Fit.of_append {past rest : List WriterCall} (h : Fit audioFormat (past ++ rest)) :
    Fit audioFormat past := by
  obtain ⟨hlimit, hsize⟩ := h
  rw [written_append] at hsize
  exact ⟨fun call hcall => hlimit call (List.mem_append_left _ hcall),
    (fileSize_le_append _ _).trans_lt hsize⟩

/-- The writer after some calls. -/
def writerAfter (file : Cursor → W) (audioFormat : AudioFormat) (calls : List WriterCall) :
    MatroskaWriter W :=
  writerWith file audioFormat (durationAfter audioFormat emptyDuration [] calls)
    (written audioFormat calls)

theorem output_writerAfter (calls : List WriterCall) :
    (writerAfter file audioFormat calls).output = endOf file (beforeDuration ++
      durationAfter audioFormat emptyDuration [] calls ++
      afterDuration audioFormat ((written audioFormat calls).map MediaCall.tree)) := by
  rw [← forestBytes_fileWith (length_durationAfter length_emptyDuration calls)]
  rfl

/-- A packet of a writer's calls is a readable cluster. -/
theorem readable_written {calls : List WriterCall}
    (hlimit : ∀ call, .write call ∈ calls → call.BelowLimit) :
    ∀ tree ∈ (written audioFormat calls).map MediaCall.tree,
      tree.Readable isMaster ∧ tree.element.sized = true := by
  intro tree htree
  obtain ⟨call, hcall, rfl⟩ := List.mem_map.mp htree
  obtain ⟨other, hother, hwrite⟩ := List.mem_filterMap.mp (List.mem_filter.mp hcall).1
  cases other with
  | write other =>
    obtain rfl := Option.some.inj hwrite
    exact ⟨readable_clusterTree (hlimit other hother), rfl⟩
  | flush => cases hwrite

theorem flush_not_mem_writes (calls : List WriterCall) : .flush ∉ writes calls := by
  intro hmem
  exact absurd rfl (of_decide_eq_true (List.mem_filter.mp hmem).2)

theorem Fit.writes {calls : List WriterCall} (h : Fit audioFormat calls) :
    Fit audioFormat (writes calls) := by
  refine ⟨fun call hcall => h.1 call (List.mem_of_mem_filter hcall), ?_⟩
  rw [written_writes]
  exact h.2

/-- The position is at the end after any calls, so that a packet is appended. -/
theorem writerAfter_write {past : List WriterCall} {call : MediaCall}
    (haccepted : call.Accepted audioFormat) :
    ∃ bytes, (writerAfter file audioFormat past).output = endOf file bytes ∧
      (writerAfter file audioFormat (past ++ [.write call])).output =
        endOf file (bytes ++ call.tree.bytes) := by
  refine ⟨_, output_writerAfter past, ?_⟩
  have hkept : written audioFormat [.write call] = [call] := by
    simp [written, write?, MediaCall.acceptedCalls, haccepted]
  have hsame : durationAfter audioFormat emptyDuration [] (past ++ [.write call]) =
      durationAfter audioFormat emptyDuration [] past := durationAfter_append past [.write call]
  rw [output_writerAfter, hsame, written_append, hkept, List.map_append, List.map_singleton,
    ← forestBytes_fileWith (length_durationAfter length_emptyDuration past),
    ← forestBytes_fileWith (length_durationAfter length_emptyDuration past),
    forestBytes_fileWith_concat]

theorem writerAfter_flush (past : List WriterCall) :
    writerAfter file audioFormat (past ++ [.flush]) =
      writerWith file audioFormat (durationBytes (maximumEnd (written audioFormat past)))
        (written audioFormat past) := by
  have hsame : written audioFormat (past ++ [.flush]) = written audioFormat past :=
    (written_append past [.flush]).trans (List.append_nil _)
  rw [writerAfter, durationAfter_flushed List.not_mem_nil, hsame, List.nil_append]

/-- A second flush finds what the first one left. -/
theorem writerAfter_flush_flush (past : List WriterCall) :
    writerAfter file audioFormat (past ++ [.flush] ++ [.flush]) =
      writerAfter file audioFormat (past ++ [.flush]) := by
  have hsame : written audioFormat (past ++ [.flush]) = written audioFormat past :=
    (written_append past [.flush]).trans (List.append_nil _)
  rw [writerAfter_flush, writerAfter_flush, hsame]

end Calls

section Perform

variable {W : Type} [Write W] [Seek W]

/-- A call whose error, if any, is handed to the caller. -/
def perform (writer : MatroskaWriter W) : WriterCall → MatroskaWriter W × Except MatroskaError Unit
  | .write call => call.perform writer
  | .flush =>
    match MatroskaWriter.flush.run writer with
    | .ok _ writer => (writer, .ok ())
    | .error error writer => (writer, .error error)

variable {file : Cursor → W} {audioFormat : AudioFormat} {duration : List UInt8}
  {accepted : List MediaCall}

theorem perform_write (hfile : Seekable file) {call : MediaCall} (hlimit : call.BelowLimit) :
    (perform (writerWith file audioFormat duration accepted) (.write call)).1 =
      writerWith file audioFormat duration
        (accepted ++ MediaCall.acceptedCalls audioFormat [call]) := by
  by_cases haccepted : call.Accepted audioFormat
  · have hcall : call.perform (writerWith file audioFormat duration accepted) = _ :=
      MediaCall.perform_accepted hfile.faultless.writeAll rfl hlimit haccepted
    have hkept : MediaCall.acceptedCalls audioFormat [call] = [call] := by
      simp [MediaCall.acceptedCalls, haccepted]
    rw [perform, hcall, hkept]
    simp only [writerWith, List.map_append, List.map_singleton, forestBytes_fileWith_concat,
      maximumEnd_concat]
  · have hcall : call.perform (writerWith file audioFormat duration accepted) = _ :=
      MediaCall.perform_rejected hlimit haccepted
    have hdropped : MediaCall.acceptedCalls audioFormat [call] = [] := by
      simp [MediaCall.acceptedCalls, haccepted]
    rw [perform, hcall, hdropped, List.append_nil]

theorem perform_flush (hfile : Seekable file) (hduration : duration.length = 8)
    (hsize : fileSize audioFormat accepted < 2 ^ 64) :
    perform (writerWith file audioFormat duration accepted) .flush =
      (writerWith file audioFormat (durationBytes (maximumEnd accepted)) accepted, .ok ()) := by
  rw [perform, run_flush hfile hduration hsize]

/-- What any calls leave. -/
theorem final_calls (hfile : Seekable file) (hduration : duration.length = 8)
    {calls : List WriterCall} (hlimit : ∀ call, .write call ∈ calls → call.BelowLimit)
    (hsize : fileSize audioFormat (accepted ++ written audioFormat calls) < 2 ^ 64) :
    Mealy.final perform (writerWith file audioFormat duration accepted) calls =
      writerWith file audioFormat (durationAfter audioFormat duration accepted calls)
        (accepted ++ written audioFormat calls) := by
  induction calls generalizing duration accepted with
  | nil => simp [durationAfter, written, MediaCall.acceptedCalls]
  | cons call calls ih =>
    have hrest := fun later hlater => hlimit later (List.mem_cons_of_mem _ hlater)
    cases call with
    | write call =>
      rw [written_cons, ← List.append_assoc] at hsize ⊢
      rw [Mealy.final_cons, perform_write hfile (hlimit call List.mem_cons_self)]
      exact ih hduration hrest hsize
    | flush =>
      have hshorter : fileSize audioFormat accepted ≤
          fileSize audioFormat (accepted ++ written audioFormat (.flush :: calls)) :=
        fileSize_le_append _ _
      rw [Mealy.final_cons, perform_flush hfile hduration (by omega)]
      exact ih (length_durationBytes _) hrest hsize

theorem final_eq_writerAfter (hfile : Seekable file) {calls : List WriterCall}
    (h : Fit audioFormat calls) :
    Mealy.final perform (writerWith file audioFormat emptyDuration []) calls =
      writerAfter file audioFormat calls :=
  final_calls hfile length_emptyDuration h.1 h.2

theorem perform_writerAfter_flush (hfile : Seekable file) {past : List WriterCall}
    (h : Fit audioFormat past) :
    perform (writerAfter file audioFormat past) .flush =
      (writerAfter file audioFormat (past ++ [.flush]), .ok ()) := by
  rw [writerAfter_flush]
  exact perform_flush hfile (length_durationAfter length_emptyDuration past) h.2

/-- **Flushing is transparent.** A writer over a seekable output that is empty
at first writes the same bytes with and without flushes, except for eight.
They are the payload of the duration that a reader finds, and after a flush
they hold the end of the last packet that was written before it. A flush leaves
the position at the end, and a second one changes nothing. Packets are below
the size that can be written, and positions have 64 bits. -/
theorem flush_transparent (hfile : Seekable file) (audioFormat : AudioFormat) :
    ∃ writer, MatroskaWriter.new (endOf file []) audioFormat = .ok writer ∧
      ∀ calls : List WriterCall, Fit audioFormat calls →
        (∃ before plain duration after,
          (Mealy.final perform writer (writes calls)).output =
            endOf file (before ++ plain ++ after) ∧
          (Mealy.final perform writer calls).output = endOf file (before ++ duration ++ after) ∧
          plain.length = 8 ∧ duration.length = 8 ∧
          (∀ payload : List UInt8, payload.length = 8 →
            readDuration (before ++ payload ++ after) = some payload) ∧
          ∀ past rest, calls = past ++ .flush :: rest → .flush ∉ rest →
            duration = durationBytes (maximumEnd (written audioFormat past))) ∧
        (∀ past, past ++ [.flush] <+: calls →
          (perform (Mealy.final perform writer past) .flush).2 = .ok () ∧
          Mealy.final perform writer (past ++ [.flush, .flush]) =
            Mealy.final perform writer (past ++ [.flush])) ∧
        ∀ past call, past ++ [.flush, .write call] <+: calls → call.Accepted audioFormat →
          ∃ bytes, (Mealy.final perform writer (past ++ [.flush])).output = endOf file bytes ∧
            (Mealy.final perform writer (past ++ [.flush, .write call])).output =
              endOf file (bytes ++ call.tree.bytes) := by
  refine ⟨_, new_eq_writerWith hfile audioFormat, ?_⟩
  intro calls hfit
  refine ⟨?_, ?_, ?_⟩
  · refine ⟨beforeDuration, emptyDuration, durationAfter audioFormat emptyDuration [] calls,
      afterDuration audioFormat ((written audioFormat calls).map MediaCall.tree), ?_, ?_,
      length_emptyDuration, length_durationAfter length_emptyDuration calls, ?_, ?_⟩
    · rw [final_eq_writerAfter hfile hfit.writes, output_writerAfter, written_writes,
        durationAfter_writes (flush_not_mem_writes calls)]
    · rw [final_eq_writerAfter hfile hfit, output_writerAfter]
    · intro payload hpayload
      rw [← forestBytes_fileWith hpayload]
      exact readDuration_fileWith hpayload audioFormat (readable_written hfit.1)
    · rintro past rest rfl hrest
      rw [durationAfter_flushed hrest, List.nil_append]
  · rintro past ⟨rest, rfl⟩
    have hflushed := hfit.of_append
    have hpast := hflushed.of_append
    have hsplit : past ++ [.flush, .flush] = past ++ [.flush] ++ [.flush] := by simp
    have hagain : Mealy.final perform (writerWith file audioFormat emptyDuration [])
        (past ++ [.flush] ++ [.flush]) =
          (perform (writerAfter file audioFormat (past ++ [.flush])) .flush).1 := by
      rw [Mealy.final_append, final_eq_writerAfter hfile hflushed]
      rfl
    rw [hsplit, hagain, final_eq_writerAfter hfile hpast, final_eq_writerAfter hfile hflushed,
      perform_writerAfter_flush hfile hpast, perform_writerAfter_flush hfile hflushed]
    exact ⟨rfl, writerAfter_flush_flush past⟩
  · rintro past call ⟨rest, rfl⟩ haccepted
    have hwritten := hfit.of_append
    have hsplit : past ++ [.flush, .write call] = (past ++ [.flush]) ++ [.write call] := by simp
    rw [hsplit] at hwritten ⊢
    rw [final_eq_writerAfter hfile hwritten.of_append, final_eq_writerAfter hfile hwritten]
    exact writerAfter_write haccepted

/-- The file that is handed back in the end has the end of the last packet as
its duration. -/
theorem intoInner_eq (hfile : Seekable file) {calls : List WriterCall}
    (h : Fit audioFormat calls) :
    ∃ bytes, (Mealy.final perform (writerWith file audioFormat emptyDuration [])
        calls).intoInner = .ok (endOf file bytes) ∧
      readDuration bytes = some (durationBytes (maximumEnd (written audioFormat calls))) := by
  have hlength := length_durationBytes (maximumEnd (written audioFormat calls))
  refine ⟨Ebml.forestBytes (fileWith (durationBytes (maximumEnd (written audioFormat calls)))
    audioFormat ((written audioFormat calls).map MediaCall.tree)), ?_,
    readDuration_fileWith hlength audioFormat (readable_written h.1)⟩
  rw [final_eq_writerAfter hfile h, MatroskaWriter.intoInner, writerAfter,
    run_flush hfile (length_durationAfter length_emptyDuration calls) h.2]
  rfl

end Perform

/-- A frame, a flush, two blocks, one of them too short, and another flush. -/
def sampleFlushes : List WriterCall :=
  (MediaCall.sampleCalls.take 1).map .write ++ [.flush] ++
    (MediaCall.sampleCalls.drop 1).map .write ++ [.flush]

theorem fit_sampleFlushes : Fit MediaCall.sampleFormat sampleFlushes := by
  refine ⟨?_, by decide +kernel⟩
  intro call hcall
  have hmem : call ∈ MediaCall.sampleCalls := by
    simp [sampleFlushes, MediaCall.sampleCalls] at hcall ⊢
    exact hcall
  have hshort : ∀ call ∈ MediaCall.sampleCalls, call.packet.length + 128 < sizeLimit := by decide
  exact MediaCall.belowLimit_of_length (hshort call hmem)

theorem flush_transparent_sample :
    ∃ writer before plain duration after,
      MatroskaWriter.new (endOf id [] : Cursor) MediaCall.sampleFormat = .ok writer ∧
      (Mealy.final perform writer (writes sampleFlushes)).output =
        Cursor.atEnd (before ++ plain ++ after) ∧
      (Mealy.final perform writer sampleFlushes).output =
        Cursor.atEnd (before ++ duration ++ after) ∧
      readDuration (before ++ duration ++ after) = some (durationBytes 80000) := by
  obtain ⟨writer, hnew, hcalls⟩ := flush_transparent seekable_cursor MediaCall.sampleFormat
  obtain ⟨⟨before, plain, duration, after, hplain, hflushed, -, hlength, hread, hlast⟩, -, -⟩ :=
    hcalls sampleFlushes fit_sampleFlushes
  refine ⟨writer, before, plain, duration, after, hnew, hplain, hflushed, ?_⟩
  have hend : maximumEnd (written MediaCall.sampleFormat (sampleFlushes.take 4)) = 80000 := by
    decide +kernel
  rw [hread duration hlength, hlast (sampleFlushes.take 4) [] (by decide) List.not_mem_nil, hend]

end WriterCall

end Handycam
