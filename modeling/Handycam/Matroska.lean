import Mathlib.Data.List.Find
import Handycam.Ebml
import Handycam.Io
import Handycam.Sync

/-!
# The Matroska writer

An incremental writer of one MJPEG and one PCM track. The header ends in a
segment of unknown size, and each packet is a cluster of its own, so that
nothing has to be buffered. `flush` goes back to the header and fills in the
duration.

* **the writer** — the functions of the crate, over any output that can be
  written and seeked;
* **the reader** — `readMatroska`, a reader of EBML that knows which IDs are
  masters, and looks at tracks, clusters and blocks;
* **the round trip** — `perform_readable`: what any series of calls leaves in
  the output is read back as one cluster for each accepted call.
-/

namespace Handycam

/-- `to_be_bytes` of a `u32`. -/
def beBytes32 (n : UInt32) : List UInt8 := Ebml.bytesBE 4 n.toNat

/-- `to_be_bytes` of a `u64`. -/
def beBytes64 (n : UInt64) : List UInt8 := Ebml.bytesBE 8 n.toNat

/-! ## Elements -/

section Elements

variable {W : Type} [Write W]

/-- The width of a size, one to eight bytes; all ones are kept free. -/
def sizeWidth (size : UInt64) : Except IoError ℕ :=
  match (List.range' 1 8).find? fun width => decide (size < (1 <<< UInt64.ofNat (7 * width)) - 1) with
  | some width => .ok width
  | none => .error (.invalidInput "EBML element is too large")

/-- Write a size in its least width. -/
def writeSize (size : UInt64) : EStateM IoError W Unit := do
  let width ← ofExcept (sizeWidth size)
  let encoded := size ||| 1 <<< UInt64.ofNat (7 * width)
  Write.writeAll ((beBytes64 encoded).drop (8 - width))

/-- Write an ID without its leading zeros. -/
def writeId (id : UInt32) : EStateM IoError W Unit :=
  let bytes := beBytes32 id
  Write.writeAll (bytes.drop ((bytes.findIdx? (· != 0)).getD 3))

/-- Write an element. -/
def element (id : UInt32) (payload : List UInt8) : EStateM IoError W Unit := do
  writeId id
  writeSize (UInt64.ofNat payload.length)
  Write.writeAll payload

/-- An element with a number, without its leading zeros. -/
def uintElement (id : UInt32) (value : UInt64) : EStateM IoError W Unit :=
  let bytes := beBytes64 value
  element id (bytes.drop ((bytes.findIdx? (· != 0)).getD 7))

/-- An element with a floating-point number. -/
def floatElement (id : UInt32) (value : Float) : EStateM IoError W Unit :=
  element id (beBytes64 value.toBits)

/-- The bytes of a string. -/
def stringBytes (value : String) : List UInt8 := value.toUTF8.data.toList

/-- An element with a string. -/
def stringElement (id : UInt32) (value : String) : EStateM IoError W Unit :=
  element id (stringBytes value)

end Elements

/-! ## The file -/

/-- Track number of the video. -/
def videoTrack : UInt8 := 1

/-- Track number of the audio. -/
def audioTrack : UInt8 := 2

section File

variable {W : Type} [Write W]

/-- The element that names the format. -/
def writeEbmlHeader : EStateM IoError W Unit := do
  let (_, ebml) ← collect do
    uintElement 0x4286 1
    uintElement 0x42f7 1
    uintElement 0x42f2 4
    uintElement 0x42f3 8
    stringElement 0x4282 "matroska"
    uintElement 0x4287 4
    uintElement 0x4285 2
  element 0x1a45dfa3 ebml

/-- Start a segment of unknown size. -/
def startSegment : EStateM IoError W Unit := do
  writeId 0x18538067
  Write.writeAll [0x01, 0xff, 0xff, 0xff, 0xff, 0xff, 0xff, 0xff]

/-- The elements of the segment information; the result is where the payload
of the duration is among them. -/
def writeInfoFields : EStateM IoError Vec UInt64 := do
  uintElement 0x2ad7b1 1000000
  let durationPayloadInInfo := UInt64.ofNat (← get).length + 3
  floatElement 0x4489 0.0
  stringElement 0x4d80 "handycam"
  stringElement 0x5741 "handycam"
  return durationPayloadInInfo

/-- The segment information; the result is the offset of the duration. -/
def writeInfo [Seek W] : EStateM IoError W UInt64 := do
  let (durationPayloadInInfo, info) ← collect writeInfoFields
  let infoStart ← Seek.streamPosition
  let infoHeaderSize := 4 + UInt64.ofNat (← ofExcept (sizeWidth (UInt64.ofNat info.length)))
  element 0x1549a966 info
  return infoStart + infoHeaderSize + durationPayloadInInfo

/-- The entry of the video track. -/
def writeVideoEntry : EStateM IoError W Unit := do
  uintElement 0xd7 videoTrack.toUInt64
  uintElement 0x73c5 videoTrack.toUInt64
  uintElement 0x83 1
  stringElement 0x86 "V_MJPEG"
  uintElement 0x23e383 40000000
  let (_, videoSettings) ← collect do
    uintElement 0xb0 (UInt64.ofNat width)
    uintElement 0xba (UInt64.ofNat height)
  element 0xe0 videoSettings

/-- The entry of the audio track. -/
def writeAudioEntry (audioFormat : AudioFormat) : EStateM IoError W Unit := do
  uintElement 0xd7 audioTrack.toUInt64
  uintElement 0x73c5 audioTrack.toUInt64
  uintElement 0x83 2
  stringElement 0x86 "A_PCM/INT/LIT"
  let (_, audioSettings) ← collect do
    floatElement 0xb5 audioFormat.sampleRateHz.toFloat
    uintElement 0x9f audioFormat.channels.toUInt64
    uintElement 0x6264 16
  element 0xe1 audioSettings

/-- The two tracks. -/
def writeTracks (audioFormat : AudioFormat) : EStateM IoError W Unit := do
  let (_, tracks) ← collect do
    let (_, video) ← collect writeVideoEntry
    element 0xae video
    let (_, audio) ← collect (writeAudioEntry audioFormat)
    element 0xae audio
  element 0x1654ae6b tracks

/-- Everything before the first cluster; the result is the offset of the
duration. -/
def writeHeader [Seek W] (audioFormat : AudioFormat) : EStateM IoError W UInt64 := do
  writeEbmlHeader
  startSegment
  let durationOffset ← writeInfo
  writeTracks audioFormat
  return durationOffset

/-- A cluster with one block: track, relative time zero, and a keyframe. -/
def writeCluster (ptsMs : UInt64) (track : UInt8) (data : List UInt8) :
    EStateM IoError W Unit := do
  let (_, cluster) ← collect do
    uintElement 0xe7 ptsMs
    let block := [0x80 ||| track] ++ Ebml.bytesBE 2 0 ++ [0x80] ++ data
    element 0xa3 block
  element 0x1f43b675 cluster

end File

/-! ## The writer -/

/-- Errors of the writer. -/
inductive MatroskaError where
  /-- the output failed -/
  | io (error : IoError)
  /-- "audio event format changed during capture" -/
  | audioFormatChanged
  /-- "PCM payload has {actual} bytes; expected {expected} from its format and sample count" -/
  | invalidPcmLength (expected actual : ℕ)
  deriving DecidableEq

/-- A writer in the middle of a file. -/
structure MatroskaWriter (W : Type) where
  /-- where the bytes go -/
  output : W
  /-- the format of the audio track -/
  audioFormat : AudioFormat
  /-- where the payload of the duration element is -/
  durationOffset : UInt64
  /-- the end of the last event so far -/
  maximumEndUs : UInt64

namespace MatroskaWriter

variable {W : Type}

/-- An operation on the output of a writer. -/
def onOutput {α : Type} (operation : EStateM IoError W α) :
    EStateM MatroskaError (MatroskaWriter W) α := fun writer =>
  match operation.run writer.output with
  | .ok a output => .ok a { writer with output := output }
  | .error error output => .error (.io error) { writer with output := output }

/-- A writer that has written its header. -/
def new [Write W] [Seek W] (output : W) (audioFormat : AudioFormat) :
    Except MatroskaError (MatroskaWriter W) :=
  match (writeHeader audioFormat).run output with
  | .ok durationOffset output => .ok ⟨output, audioFormat, durationOffset, 0⟩
  | .error error _ => .error (.io error)

variable [Write W]

/-- Write a packet, and remember where it ends. -/
def writePacket (track : UInt8) (data : List UInt8) (timing : MediaTiming) :
    EStateM MatroskaError (MatroskaWriter W) Unit := do
  onOutput (writeCluster (timing.ptsUs / 1000) track data)
  modify fun writer =>
    { writer with
      maximumEndUs := max writer.maximumEndUs (timing.ptsUs.saturatingAdd timing.durationUs) }

/-- Write a frame. -/
def writeVideo (event : TimedVideoFrame) (timing : MediaTiming) :
    EStateM MatroskaError (MatroskaWriter W) Unit :=
  writePacket videoTrack event.frame.jpeg timing

/-- Bytes of a sample. -/
def bytesPerSample : PcmEncoding → UInt64
  | .signed16LittleEndian => 2

/-- Write a PCM block, of the format and the length that it claims to have. -/
def writeAudio (event : TimedAudioChunk) (timing : MediaTiming) :
    EStateM MatroskaError (MatroskaWriter W) Unit := do
  if event.format ≠ (← get).audioFormat then
    throw .audioFormatChanged
  let expected := (event.chunk.sampleFrames.toUInt64.saturatingMul
    event.format.channels.toUInt64).saturatingMul (bytesPerSample event.format.encoding)
  if event.chunk.pcm.length ≠ expected.toNat then
    throw (.invalidPcmLength expected.toNat event.chunk.pcm.length)
  writePacket audioTrack event.chunk.pcm timing

variable [Seek W]

/-- Fill in the duration, and go back to the end. -/
def writeDuration : EStateM MatroskaError (MatroskaWriter W) Unit := do
  let durationOffset := (← get).durationOffset
  let maximumEndUs := (← get).maximumEndUs
  onOutput do
    let streamEnd ← Seek.seek .streamEnd
    let _ ← Seek.seek (.start durationOffset)
    let durationMs := maximumEndUs.toFloat / 1000.0
    Write.writeAll (beBytes64 durationMs.toBits)
    let _ ← Seek.seek (.start streamEnd)

/-- Bring the file up to date. -/
def flush : EStateM MatroskaError (MatroskaWriter W) Unit := do
  writeDuration
  onOutput Write.flush

/-- Bring the file up to date, and hand it back. -/
def intoInner (writer : MatroskaWriter W) : Except MatroskaError W :=
  match flush.run writer with
  | .ok _ writer => .ok writer.output
  | .error error _ => .error error

end MatroskaWriter

/-! ## The reader -/

/-- The elements of the file that hold elements. -/
def isMaster (id : ℕ) : Bool :=
  id ∈ [0x1a45dfa3, 0x18538067, 0x1549a966, 0x1654ae6b, 0xae, 0xe0, 0xe1, 0x1f43b675]

/-- A track of a file. -/
structure Track where
  /-- the number that its blocks carry -/
  number : ℕ
  /-- one for video, two for audio -/
  kind : ℕ
  /-- the channel count, of an audio track -/
  channels : Option ℕ
  deriving DecidableEq

/-- A block of a cluster. -/
structure Block where
  /-- its track -/
  track : ℕ
  /-- its time, from that of the cluster -/
  relativeTime : ℤ
  /-- nothing before it is needed to decode it -/
  keyframe : Bool
  /-- the packet -/
  data : List UInt8
  deriving DecidableEq

/-- A cluster with one block. -/
structure Cluster where
  /-- the time of the cluster, in milliseconds -/
  timecode : ℕ
  /-- its block -/
  block : Block
  deriving DecidableEq

/-- What a reader makes of a file. -/
structure MatroskaFile where
  /-- the tracks -/
  tracks : List Track
  /-- the clusters, in file order -/
  clusters : List Cluster
  deriving DecidableEq

/-- The number in the first element with an ID. -/
def uintField (id : ℕ) (fields : List Ebml.Tree) : Option ℕ :=
  fields.findSome? fun
    | .leaf other payload => if other = id then some (Ebml.valueBE payload) else none
    | .master .. => none

/-- The elements in the first master with an ID. -/
def masterField (id : ℕ) (fields : List Ebml.Tree) : Option (List Ebml.Tree) :=
  fields.findSome? fun
    | .leaf .. => none
    | .master other _ children => if other = id then some children else none

/-- Read a track entry. -/
def readTrack : Ebml.Tree → Option Track
  | .master 0xae true fields => do
    return {
      number := ← uintField 0xd7 fields
      kind := ← uintField 0x83 fields
      channels := (masterField 0xe1 fields).bind (uintField 0x9f) }
  | _ => none

/-- Read a simple block: the track number, two bytes of signed time, the flags
and the packet. -/
def readBlock (payload : List UInt8) : Option Block :=
  match Ebml.readVint payload with
  | some ((width, number), high :: low :: flags :: data) =>
    some {
      track := number - 2 ^ (7 * width)
      relativeTime := (Int16.ofNat (Ebml.valueBE [high, low])).toInt
      keyframe := flags &&& 0x80 != 0
      data := data }
  | _ => none

/-- Read a cluster that has a timecode and one simple block. -/
def readCluster : Ebml.Tree → Option Cluster
  | .master 0x1f43b675 true [.leaf 0xe7 timecode, .leaf 0xa3 block] => do
    return { timecode := Ebml.valueBE timecode, block := ← readBlock block }
  | _ => none

/-- Read a file: an EBML header, and a segment of unknown size with
information, tracks, and clusters. -/
def readMatroska (stream : List UInt8) : Option MatroskaFile := do
  match ← Ebml.readForest isMaster stream with
  | [.master 0x1a45dfa3 true _, .master 0x18538067 false
      (.master 0x1549a966 true _ :: .master 0x1654ae6b true tracks :: clusters)] =>
    return { tracks := ← tracks.mapM readTrack, clusters := ← clusters.mapM readCluster }
  | _ => none

/-! ## The file as a tree -/

/-- An element with a number. -/
def uintTree (id : ℕ) (value : UInt64) : Ebml.Tree := .leaf id (Ebml.minBytes value.toNat)

/-- An element with a floating-point number. -/
def floatTree (id : ℕ) (value : Float) : Ebml.Tree := .leaf id (beBytes64 value.toBits)

/-- An element with a string. -/
def stringTree (id : ℕ) (value : String) : Ebml.Tree := .leaf id (stringBytes value)

/-- The EBML header. -/
def headerTree : Ebml.Tree :=
  .master 0x1a45dfa3 true
    [uintTree 0x4286 1, uintTree 0x42f7 1, uintTree 0x42f2 4, uintTree 0x42f3 8,
      stringTree 0x4282 "matroska", uintTree 0x4287 4, uintTree 0x4285 2]

/-- The elements of the segment information, with no duration yet. -/
def infoFields : List Ebml.Tree :=
  [uintTree 0x2ad7b1 1000000, floatTree 0x4489 0.0, stringTree 0x4d80 "handycam",
    stringTree 0x5741 "handycam"]

/-- The segment information. -/
def infoTree : Ebml.Tree := .master 0x1549a966 true infoFields

/-- The elements of the video track. -/
def videoFields : List Ebml.Tree :=
  [uintTree 0xd7 1, uintTree 0x73c5 1, uintTree 0x83 1, stringTree 0x86 "V_MJPEG",
    uintTree 0x23e383 40000000,
    .master 0xe0 true [uintTree 0xb0 320, uintTree 0xba 240]]

/-- The elements of the audio track. -/
def audioFields (audioFormat : AudioFormat) : List Ebml.Tree :=
  [uintTree 0xd7 2, uintTree 0x73c5 2, uintTree 0x83 2, stringTree 0x86 "A_PCM/INT/LIT",
    .master 0xe1 true
      [floatTree 0xb5 audioFormat.sampleRateHz.toFloat,
        uintTree 0x9f audioFormat.channels.toUInt64, uintTree 0x6264 16]]

/-- The video track. -/
def videoTree : Ebml.Tree := .master 0xae true videoFields

/-- The audio track. -/
def audioTree (audioFormat : AudioFormat) : Ebml.Tree :=
  .master 0xae true (audioFields audioFormat)

/-- The tracks. -/
def tracksTree (audioFormat : AudioFormat) : Ebml.Tree :=
  .master 0x1654ae6b true [videoTree, audioTree audioFormat]

/-- The elements of a cluster: its time, and a block. -/
def clusterFields (ptsMs : UInt64) (track : UInt8) (data : List UInt8) : List Ebml.Tree :=
  [uintTree 0xe7 ptsMs, .leaf 0xa3 ((0x80 ||| track) :: 0 :: 0 :: 0x80 :: data)]

/-- A cluster. -/
def clusterTree (ptsMs : UInt64) (track : UInt8) (data : List UInt8) : Ebml.Tree :=
  .master 0x1f43b675 true (clusterFields ptsMs track data)

/-- A file with given clusters. -/
def fileTrees (audioFormat : AudioFormat) (clusters : List Ebml.Tree) : List Ebml.Tree :=
  [headerTree, .master 0x18538067 false (infoTree :: tracksTree audioFormat :: clusters)]

/-- The bytes of a file without clusters. -/
def headerBytes (audioFormat : AudioFormat) : List UInt8 :=
  Ebml.forestBytes (fileTrees audioFormat [])

theorem forestBytes_fileTrees (audioFormat : AudioFormat) (clusters : List Ebml.Tree) :
    Ebml.forestBytes (fileTrees audioFormat clusters) =
      headerBytes audioFormat ++ Ebml.forestBytes clusters := by
  simp [headerBytes, fileTrees, Ebml.forestBytes, Ebml.Tree.bytes, Ebml.elementBytes]

/-! ## Readable trees -/

section Trees

open Ebml

/-- What a number is written as has no leading zeros. -/
theorem drop_beBytes64 (value : UInt64) :
    (beBytes64 value).drop (((beBytes64 value).findIdx? (· != 0)).getD 7) =
      minBytes value.toNat :=
  drop_leadingZeros value.toNat_lt

theorem drop_beBytes32 (value : UInt32) :
    (beBytes32 value).drop (((beBytes32 value).findIdx? (· != 0)).getD 3) =
      minBytes value.toNat :=
  drop_leadingZeros value.toNat_lt

/-- A number has eight bytes at most. -/
theorem length_minBytes_le (value : UInt64) : (minBytes value.toNat).length ≤ 8 := by
  rw [← drop_beBytes64, List.length_drop, beBytes64, length_bytesBE]
  exact Nat.sub_le _ _

variable {id : ℕ}

theorem short_uintTree (hid : IsId id ∧ isMaster id = false) (value : UInt64) :
    (uintTree id value).Short isMaster 64 := by
  have hshort := short_leaf hid.1 hid.2 (length_minBytes_le value) (by decide)
  exact hshort.mono (by decide)

theorem short_floatTree (hid : IsId id ∧ isMaster id = false) (value : Float) :
    (floatTree id value).Short isMaster 64 := by
  have hlength : (beBytes64 value.toBits).length ≤ 8 := by simp [beBytes64]
  exact (short_leaf hid.1 hid.2 hlength (by decide)).mono (by decide)

theorem short_stringTree (hid : IsId id ∧ isMaster id = false) {value : String}
    (hvalue : value.toUTF8.size ≤ 16) : (stringTree id value).Short isMaster 64 := by
  have hlength : (stringBytes value).length ≤ 16 := hvalue
  exact (short_leaf hid.1 hid.2 hlength (by decide)).mono (by decide)

theorem short_headerTree : headerTree.Short isMaster 1024 := by
  have hfields : ∀ tree ∈ [uintTree 0x4286 1, uintTree 0x42f7 1, uintTree 0x42f2 4,
      uintTree 0x42f3 8, stringTree 0x4282 "matroska", uintTree 0x4287 4, uintTree 0x4285 2],
      tree.Short isMaster 64 := by
    simp only [List.forall_mem_cons]
    exact ⟨short_uintTree (by decide) _, short_uintTree (by decide) _, short_uintTree (by decide) _,
      short_uintTree (by decide) _, short_stringTree (by decide) (by decide),
      short_uintTree (by decide) _, short_uintTree (by decide) _, List.forall_mem_nil _⟩
  exact short_master 7 (by decide) (by decide) rfl hfields (by decide) (by decide)

theorem short_infoTree : infoTree.Short isMaster 1024 := by
  have hfields : ∀ tree ∈ infoFields, tree.Short isMaster 64 := by
    simp only [infoFields, List.forall_mem_cons]
    exact ⟨short_uintTree (by decide) _, short_floatTree (by decide) _,
      short_stringTree (by decide) (by decide), short_stringTree (by decide) (by decide),
      List.forall_mem_nil _⟩
  exact short_master 4 (by decide) (by decide) rfl hfields (by decide) (by decide)

theorem short_videoTree : videoTree.Short isMaster 4096 := by
  have hsettings : ∀ tree ∈ [uintTree 0xb0 320, uintTree 0xba 240], tree.Short isMaster 64 := by
    simp only [List.forall_mem_cons]
    exact ⟨short_uintTree (by decide) _, short_uintTree (by decide) _, List.forall_mem_nil _⟩
  have hfields : ∀ tree ∈ videoFields, tree.Short isMaster 256 := by
    simp only [videoFields, List.forall_mem_cons]
    exact ⟨(short_uintTree (by decide) _).mono (by decide),
      (short_uintTree (by decide) _).mono (by decide),
      (short_uintTree (by decide) _).mono (by decide),
      (short_stringTree (by decide) (by decide)).mono (by decide),
      (short_uintTree (by decide) _).mono (by decide),
      short_master 2 (by decide) (by decide) rfl hsettings (by decide) (by decide),
      List.forall_mem_nil _⟩
  exact short_master 6 (by decide) (by decide) rfl hfields (by decide) (by decide)

theorem short_audioTree (audioFormat : AudioFormat) :
    (audioTree audioFormat).Short isMaster 4096 := by
  have hsettings : ∀ tree ∈ [floatTree 0xb5 audioFormat.sampleRateHz.toFloat,
      uintTree 0x9f audioFormat.channels.toUInt64, uintTree 0x6264 16],
      tree.Short isMaster 64 := by
    simp only [List.forall_mem_cons]
    exact ⟨short_floatTree (by decide) _, short_uintTree (by decide) _,
      short_uintTree (by decide) _, List.forall_mem_nil _⟩
  have hfields : ∀ tree ∈ audioFields audioFormat, tree.Short isMaster 256 := by
    simp only [audioFields, List.forall_mem_cons]
    exact ⟨(short_uintTree (by decide) _).mono (by decide),
      (short_uintTree (by decide) _).mono (by decide),
      (short_uintTree (by decide) _).mono (by decide),
      (short_stringTree (by decide) (by decide)).mono (by decide),
      short_master 3 (by decide) (by decide) rfl hsettings (by decide) (by decide),
      List.forall_mem_nil _⟩
  exact short_master 5 (by decide) (by decide) rfl hfields (by decide) (by decide)

theorem short_tracksTree (audioFormat : AudioFormat) :
    (tracksTree audioFormat).Short isMaster 16384 := by
  have hfields : ∀ tree ∈ [videoTree, audioTree audioFormat], tree.Short isMaster 4096 := by
    simp only [List.forall_mem_cons]
    exact ⟨short_videoTree, short_audioTree audioFormat, List.forall_mem_nil _⟩
  exact short_master 2 (by decide) (by decide) rfl hfields (by decide) (by decide)

/-- A cluster is readable when its size can be written. -/
theorem readable_clusterTree {ptsMs : UInt64} {track : UInt8} {data : List UInt8}
    (hsize : (forestBytes (clusterFields ptsMs track data)).length < sizeLimit) :
    (clusterTree ptsMs track data).Readable isMaster := by
  have htime : (uintTree 0xe7 ptsMs).Short isMaster 64 := short_uintTree (by decide) ptsMs
  have hblock : (Tree.leaf 0xa3 ((0x80 ||| track) :: 0 :: 0 :: 0x80 :: data)).Readable isMaster := by
    rw [Tree.Readable]
    refine ⟨by decide, by decide, lt_of_le_of_lt ?_ hsize⟩
    have hlength := length_lt_elementBytes 0xa3 true ((0x80 ||| track) :: 0 :: 0 :: 0x80 :: data)
    simp only [clusterFields, forestBytes, Tree.bytes, List.length_append]
    omega
  have hfields : ∀ tree ∈ clusterFields ptsMs track data,
      tree.Readable isMaster ∧ tree.element.sized = true := by
    simp only [clusterFields, List.forall_mem_cons]
    exact ⟨⟨htime.1, htime.2.1⟩, ⟨hblock, rfl⟩, List.forall_mem_nil _⟩
  rw [clusterTree, Tree.Readable]
  exact ⟨by decide, by decide, fun _ => hsize, forestReadable_of_sized hfields⟩

/-- Readable information and clusters make a readable file. -/
theorem readable_segment (audioFormat : AudioFormat) {info : Tree} {clusters : List Tree}
    (hinfo : info.Short isMaster 1024)
    (hclusters : ∀ tree ∈ clusters, tree.Readable isMaster ∧ tree.element.sized = true) :
    ForestReadable isMaster
      [headerTree, .master 0x18538067 false (info :: tracksTree audioFormat :: clusters)] := by
  have htracks := short_tracksTree audioFormat
  have hchildren : ∀ tree ∈ info :: tracksTree audioFormat :: clusters,
      tree.Readable isMaster ∧ tree.element.sized = true := by
    simp only [List.forall_mem_cons]
    exact ⟨⟨hinfo.1, hinfo.2.1⟩, ⟨htracks.1, htracks.2.1⟩, hclusters⟩
  have hsegment : (Tree.master 0x18538067 false
      (info :: tracksTree audioFormat :: clusters)).Readable isMaster := by
    rw [Tree.Readable]
    refine ⟨by decide, by decide, ?_, forestReadable_of_sized hchildren⟩
    intro hsized
    cases hsized
  -- only the segment has no size, and it is the last
  rw [ForestReadable, ForestReadable, ForestReadable]
  refine ⟨short_headerTree.1, ?_, hsegment, fun _ => rfl, trivial⟩
  rintro ⟨id, children, hheader⟩
  cases hheader

theorem readable_fileTrees (audioFormat : AudioFormat) {clusters : List Tree}
    (hclusters : ∀ tree ∈ clusters, tree.Readable isMaster ∧ tree.element.sized = true) :
    ForestReadable isMaster (fileTrees audioFormat clusters) :=
  readable_segment audioFormat short_infoTree hclusters

end Trees

/-! ## What the functions write -/

section Writes

open Ebml

/-- The marker of a size does not leave the word. -/
theorem toNat_marker {width : ℕ} (hwidth : width < 8) :
    (1 <<< UInt64.ofNat (7 * (width + 1)) : UInt64).toNat = 2 ^ (7 * (width + 1)) := by
  have hshift : ∀ width ∈ List.range 8,
      (1 <<< UInt64.ofNat (7 * (width + 1)) : UInt64).toNat = 2 ^ (7 * (width + 1)) := by
    decide +kernel
  exact hshift width (List.mem_range.mpr hwidth)

/-- The first size that a width has no room for. -/
theorem toNat_marker_sub_one {width : ℕ} (hwidth : width < 8) :
    ((1 <<< UInt64.ofNat (7 * (width + 1)) : UInt64) - 1).toNat = 2 ^ (7 * (width + 1)) - 1 := by
  have hmarker := toNat_marker hwidth
  have hpos : 0 < 2 ^ (7 * (width + 1)) := Nat.pow_pos (by decide)
  have hone : (1 : UInt64) ≤ 1 <<< UInt64.ofNat (7 * (width + 1)) := by
    rw [UInt64.le_iff_toNat_le, hmarker]
    exact hpos
  rw [UInt64.toNat_sub_of_le _ _ hone, hmarker]
  rfl

/-- The code looks for a width where the format does. -/
theorem find?_sizeWidth (size : UInt64) :
    (List.range' 1 8).find? (fun width =>
      decide (size < (1 <<< UInt64.ofNat (7 * width)) - 1)) =
        ((List.range 8).find? fun width => decide (size.toNat < 2 ^ (7 * (width + 1)) - 1)).map
          (· + 1) := by
  have hrange : List.range' 1 8 = (List.range 8).map (· + 1) := by decide
  rw [hrange, List.find?_map]
  refine congrArg (Option.map (· + 1)) (List.find?_congr fun width hmem => ?_)
  have hmarker := toNat_marker_sub_one (List.mem_range.mp hmem)
  simp only [Function.comp_apply, UInt64.lt_iff_toNat_lt, hmarker]

theorem sizeWidth_eq_ok {size : UInt64} (h : size.toNat < sizeLimit) :
    Handycam.sizeWidth size = .ok (Ebml.sizeWidth size.toNat + 1) := by
  rw [Handycam.sizeWidth, find?_sizeWidth, Ebml.sizeWidth]
  rcases hfind : (List.range 8).find? fun width => decide (size.toNat < 2 ^ (7 * (width + 1)) - 1)
    with _ | width
  · exact absurd (decide_eq_true h) (List.find?_eq_none.mp hfind 7 (by decide))
  · rfl

/-- A size that no width has room for. -/
theorem sizeWidth_eq_error {size : UInt64} (h : sizeLimit ≤ size.toNat) :
    Handycam.sizeWidth size = .error (.invalidInput "EBML element is too large") := by
  have hnone : ((List.range 8).find? fun width =>
      decide (size.toNat < 2 ^ (7 * (width + 1)) - 1)) = none := by
    refine List.find?_eq_none.mpr fun width hmem => ?_
    have hpow : 2 ^ (7 * (width + 1)) ≤ 2 ^ 56 :=
      Nat.pow_le_pow_right (by decide) (by have := List.mem_range.mp hmem; omega)
    rw [decide_eq_true_eq, Nat.not_lt]
    exact (Nat.sub_le_sub_right hpow 1).trans h
  rw [Handycam.sizeWidth, find?_sizeWidth, hnone]
  rfl

theorem toNat_ofNat_size {size : ℕ} (h : size < sizeLimit) : (UInt64.ofNat size).toNat = size := by
  have hlimit : sizeLimit = 2 ^ 56 - 1 := rfl
  rw [UInt64.toNat_ofNat', Nat.mod_eq_of_lt]
  omega

/-- The widths of the code and of the format agree. -/
theorem sizeWidth_ofNat {size : ℕ} (h : size < sizeLimit) :
    Handycam.sizeWidth (UInt64.ofNat size) = .ok (Ebml.sizeWidth size + 1) := by
  have hsize := toNat_ofNat_size h
  rw [sizeWidth_eq_ok (hsize.symm ▸ h), hsize]

theorem appends_cons {W : Type} {stream : List UInt8 → W}
    {first rest : EStateM IoError W Unit} {tree : Tree} {forest : List Tree}
    (hfirst : Appends stream first tree.bytes) (hrest : Appends stream rest (forestBytes forest)) :
    Appends stream (do first; rest) (forestBytes (tree :: forest)) := by
  rw [forestBytes]
  exact hfirst.seq hrest

theorem appends_last {W : Type} {stream : List UInt8 → W} {last : EStateM IoError W Unit}
    {tree : Tree}
    (hlast : Appends stream last tree.bytes) : Appends stream last (forestBytes [tree]) := by
  rwa [forestBytes, forestBytes, List.append_nil]

variable {W : Type} [Write W] {stream : List UInt8 → W}

theorem appends_writeId (hstream : Appending stream) (id : UInt32) :
    Appends stream (writeId id) (idBytes id.toNat) := by
  rw [writeId, drop_beBytes32]
  exact hstream.writeAll _

/-- A size with its marker, as a word. -/
theorem toNat_marked {size : UInt64} {width : ℕ} (hwidth : width < 8)
    (h : size.toNat < 2 ^ (7 * (width + 1))) :
    (size ||| 1 <<< UInt64.ofNat (7 * (width + 1))).toNat = size.toNat + 2 ^ (7 * (width + 1)) := by
  rw [UInt64.toNat_or, toNat_marker hwidth, Nat.or_two_pow_eq_add_of_lt h]

/-- A size below the limit is written as the format says, to any output. -/
theorem writeSize_eq {size : UInt64} (h : size.toNat < sizeLimit) :
    (writeSize size : EStateM IoError W Unit) = Write.writeAll (sizeBytes size.toNat) := by
  obtain ⟨hwidth, hlt⟩ := sizeWidth_spec h
  have hmarked := toNat_marked hwidth (by omega : size.toNat < 2 ^ (7 * (Ebml.sizeWidth size.toNat + 1)))
  have hbytes : (beBytes64 (size |||
      1 <<< UInt64.ofNat (7 * (Ebml.sizeWidth size.toNat + 1)))).drop
        (8 - (Ebml.sizeWidth size.toNat + 1)) = sizeBytes size.toNat := by
    obtain ⟨extra, hextra⟩ : ∃ extra, 8 = Ebml.sizeWidth size.toNat + 1 + extra :=
      Nat.exists_eq_add_of_le hwidth
    rw [beBytes64, hmarked, sizeBytes, hextra, Nat.add_sub_cancel_left, drop_bytesBE]
  rw [writeSize, sizeWidth_eq_ok h]
  exact congrArg Write.writeAll hbytes

/-- Any other size is refused, and nothing is written. -/
theorem writeSize_refused {size : UInt64} (h : sizeLimit ≤ size.toNat) :
    (writeSize size : EStateM IoError W Unit) =
      throw (.invalidInput "EBML element is too large") := by
  rw [writeSize, sizeWidth_eq_error h]
  rfl

theorem appends_writeSize (hstream : Appending stream) {size : ℕ} (h : size < sizeLimit) :
    Appends stream (writeSize (UInt64.ofNat size)) (sizeBytes size) := by
  have hsize := toNat_ofNat_size h
  rw [writeSize_eq (hsize.symm ▸ h), hsize]
  exact hstream.writeAll _

/-- **Sizes.** A size is written exactly when it is below `2 ^ 56 - 1`: to any
output, in the least width that has room for it, and never as the reserved
pattern of a width. A reader finds it there, whatever follows, and no size is
written at the start of another. The marker and its sum with the size stay in
the word. -/
theorem writeSize_prefixCode (size : UInt64) :
    (size.toNat < 2 ^ 56 - 1 → ∃ width bytes,
      (1 ≤ width ∧ width ≤ 8 ∧ size.toNat < 2 ^ (7 * width) - 1 ∧
        ∀ narrower, 1 ≤ narrower → narrower < width → ¬ size.toNat < 2 ^ (7 * narrower) - 1) ∧
      Handycam.sizeWidth size = .ok width ∧ bytes.length = width ∧
      (∀ (V : Type) [Write V], (writeSize size : EStateM IoError V Unit) = Write.writeAll bytes) ∧
      (∀ reserved, 1 ≤ reserved → reserved ≤ 8 → bytes ≠ unknownBytes reserved) ∧
      (∀ rest, readSize (bytes ++ rest) = some (some size.toNat, rest)) ∧
      ∀ (other : UInt64) (otherBytes : Vec), (writeSize other).run [] = .ok () otherBytes →
        bytes <+: otherBytes → other = size) ∧
    (¬ size.toNat < 2 ^ 56 - 1 → ∀ (V : Type) [Write V], (writeSize size : EStateM IoError V Unit) =
      throw (.invalidInput "EBML element is too large")) ∧
    ∀ width, 1 ≤ width → width ≤ 8 →
      (1 <<< UInt64.ofNat (7 * width) : UInt64).toNat = 2 ^ (7 * width) ∧
      ((1 <<< UInt64.ofNat (7 * width) : UInt64) - 1).toNat = 2 ^ (7 * width) - 1 ∧
      (Handycam.sizeWidth size = .ok width →
        (size ||| 1 <<< UInt64.ofNat (7 * width)).toNat = size.toNat + 2 ^ (7 * width)) := by
  refine ⟨fun h => ?_, fun h V _ => writeSize_refused (Nat.not_lt.mp h), ?_⟩
  · obtain ⟨hwidth, hsize⟩ := sizeWidth_spec h
    refine ⟨Ebml.sizeWidth size.toNat + 1, sizeBytes size.toNat,
      ⟨Nat.le_add_left 1 _, hwidth, hsize, ?_⟩, sizeWidth_eq_ok h, length_bytesBE _ _,
      fun V _ => writeSize_eq h, ?_, fun rest => readSize_sizeBytes h rest, ?_⟩
    · intro narrower hone hnarrower
      obtain ⟨narrower, rfl⟩ := Nat.exists_eq_add_of_le' hone
      exact Nat.not_lt.mpr (le_of_lt_sizeWidth (by omega))
    · intro reserved hone hreserved
      obtain ⟨reserved, rfl⟩ := Nat.exists_eq_add_of_le' hone
      exact sizeBytes_ne_unknownBytes h hreserved
    · intro other otherBytes hother hinitial
      rcases Nat.lt_or_ge other.toNat sizeLimit with hlt | hge
      · rw [writeSize_eq hlt, writeAll_vec, List.nil_append] at hother
        obtain rfl := (EStateM.Result.ok.inj hother).2
        exact (UInt64.toNat_inj.mp (sizeBytes_prefixFree h hlt hinitial)).symm
      · rw [writeSize_refused hge] at hother
        cases hother
  · intro width hone hwidth
    obtain ⟨width, rfl⟩ := Nat.exists_eq_add_of_le' hone
    refine ⟨toNat_marker hwidth, toNat_marker_sub_one hwidth, fun hok => ?_⟩
    rcases Nat.lt_or_ge size.toNat sizeLimit with hlt | hge
    · rw [sizeWidth_eq_ok hlt] at hok
      obtain rfl : Ebml.sizeWidth size.toNat = width := Nat.succ.inj (Except.ok.inj hok)
      obtain ⟨-, hsize⟩ := sizeWidth_spec hlt
      exact toNat_marked hwidth (by omega)
    · rw [sizeWidth_eq_error hge] at hok
      cases hok

/-- An element of a payload that is not too large. -/
theorem appends_element (hstream : Appending stream) (id : UInt32) {payload : List UInt8}
    (h : payload.length < sizeLimit) :
    Appends stream (element id payload) (elementBytes id.toNat true payload) := by
  have hwrite := (appends_writeId hstream id).seq
    ((appends_writeSize hstream h).seq (hstream.writeAll payload))
  rwa [← List.append_assoc] at hwrite

theorem appends_uintElement (hstream : Appending stream) (id : UInt32) (value : UInt64) :
    Appends stream (uintElement id value) (uintTree id.toNat value).bytes := by
  rw [uintElement, drop_beBytes64, uintTree, Tree.bytes]
  exact appends_element hstream id ((length_minBytes_le value).trans_lt (by decide))

theorem appends_floatElement (hstream : Appending stream) (id : UInt32) (value : Float) :
    Appends stream (floatElement id value) (floatTree id.toNat value).bytes := by
  rw [floatElement, floatTree, Tree.bytes]
  exact appends_element hstream id (by simp [beBytes64, sizeLimit])

theorem appends_stringElement (hstream : Appending stream) (id : UInt32) {value : String}
    (h : value.toUTF8.size ≤ 16) :
    Appends stream (stringElement id value) (stringTree id.toNat value).bytes := by
  have hlength : (stringBytes value).length ≤ 16 := h
  rw [stringElement, stringTree, Tree.bytes]
  exact appends_element hstream id (hlength.trans_lt (by decide))

/-- Elements that are collected first, and then written as one. -/
theorem appends_master (hstream : Appending stream) (id : UInt32)
    {writer : EStateM IoError Vec Unit} {children : List Tree}
    (hwriter : Appends Vec.of writer (forestBytes children))
    (hchildren : (Tree.master id.toNat true children).Readable isMaster) :
    Appends stream (do let (_, bytes) ← collect writer; element id bytes)
      (Tree.master id.toNat true children).bytes := by
  rw [Tree.bytes]
  exact hwriter.collect (appends_element hstream id hchildren.length_master)

theorem appends_writeEbmlHeader (hstream : Appending stream) :
    Appends stream writeEbmlHeader headerTree.bytes := by
  refine appends_master hstream 0x1a45dfa3 ?_ short_headerTree.1
  refine appends_cons (appends_uintElement appending_vec 0x4286 1) ?_
  refine appends_cons (appends_uintElement appending_vec 0x42f7 1) ?_
  refine appends_cons (appends_uintElement appending_vec 0x42f2 4) ?_
  refine appends_cons (appends_uintElement appending_vec 0x42f3 8) ?_
  refine appends_cons (appends_stringElement appending_vec 0x4282 (by decide)) ?_
  refine appends_cons (appends_uintElement appending_vec 0x4287 4) ?_
  exact appends_last (appends_uintElement appending_vec 0x4285 2)

theorem appends_startSegment (hstream : Appending stream) :
    Appends stream startSegment (idBytes 0x18538067 ++ unknownSize) :=
  (appends_writeId hstream 0x18538067).seq (hstream.writeAll unknownSize)

theorem appends_writeVideoEntry : Appends Vec.of writeVideoEntry (forestBytes videoFields) := by
  have hvideo : videoTree.Readable isMaster := short_videoTree.1
  have hsettings := hvideo.children.mem (List.mem_of_getLast? rfl)
  refine appends_cons (appends_uintElement appending_vec 0xd7 1) ?_
  refine appends_cons (appends_uintElement appending_vec 0x73c5 1) ?_
  refine appends_cons (appends_uintElement appending_vec 0x83 1) ?_
  refine appends_cons (appends_stringElement appending_vec 0x86 (by decide)) ?_
  refine appends_cons (appends_uintElement appending_vec 0x23e383 40000000) ?_
  refine appends_last (appends_master appending_vec 0xe0 ?_ hsettings)
  refine appends_cons (appends_uintElement appending_vec 0xb0 320) ?_
  exact appends_last (appends_uintElement appending_vec 0xba 240)

theorem appends_writeAudioEntry (audioFormat : AudioFormat) :
    Appends Vec.of (writeAudioEntry audioFormat) (forestBytes (audioFields audioFormat)) := by
  have haudio : (audioTree audioFormat).Readable isMaster := (short_audioTree audioFormat).1
  have hsettings := haudio.children.mem (List.mem_of_getLast? rfl)
  refine appends_cons (appends_uintElement appending_vec 0xd7 2) ?_
  refine appends_cons (appends_uintElement appending_vec 0x73c5 2) ?_
  refine appends_cons (appends_uintElement appending_vec 0x83 2) ?_
  refine appends_cons (appends_stringElement appending_vec 0x86 (by decide)) ?_
  refine appends_last (appends_master appending_vec 0xe1 ?_ hsettings)
  refine appends_cons (appends_floatElement appending_vec 0xb5 _) ?_
  refine appends_cons (appends_uintElement appending_vec 0x9f _) ?_
  exact appends_last (appends_uintElement appending_vec 0x6264 16)

theorem run_writeInfoFields :
    writeInfoFields.run [] =
      .ok (UInt64.ofNat (uintTree 0x2ad7b1 1000000).bytes.length + 3)
        (forestBytes infoFields) := by
  have hscale : (uintElement 0x2ad7b1 1000000).run ([] : Vec) =
      .ok () (uintTree 0x2ad7b1 1000000).bytes := appends_uintElement appending_vec 0x2ad7b1 1000000 []
  have hduration : Appends Vec.of (floatElement 0x4489 0.0) (floatTree 0x4489 0.0).bytes :=
    appends_floatElement appending_vec 0x4489 0.0
  have hmuxer : Appends Vec.of (stringElement 0x4d80 "handycam")
      (stringTree 0x4d80 "handycam").bytes := appends_stringElement appending_vec 0x4d80 (by decide)
  have hwriter : Appends Vec.of (stringElement 0x5741 "handycam")
      (stringTree 0x5741 "handycam").bytes := appends_stringElement appending_vec 0x5741 (by decide)
  have hget : ∀ vec : Vec, (get : EStateM IoError Vec Vec).run vec = .ok vec vec := fun _ => rfl
  rw [writeInfoFields]
  simp only [EStateM.run_bind, EStateM.run_pure, hscale, hget, hduration _, hmuxer _, hwriter _]
  rw [infoFields, forestBytes, forestBytes, forestBytes, forestBytes, forestBytes]
  simp

/-- Where the payload of the duration is in the segment information. -/
def durationInInfo : UInt64 :=
  4 + UInt64.ofNat (Ebml.sizeWidth (forestBytes infoFields).length + 1) +
    (UInt64.ofNat (uintTree 0x2ad7b1 1000000).bytes.length + 3)

theorem run_writeInfo [Seek W] (hstream : Faultless stream) (before : List UInt8) :
    writeInfo.run (stream before) =
      .ok (UInt64.ofNat before.length + durationInInfo) (stream (before ++ infoTree.bytes)) := by
  have hinfo : infoTree.Readable isMaster := short_infoTree.1
  have helement : Appends stream (element 0x1549a966 (forestBytes infoFields)) infoTree.bytes :=
    appends_element hstream.writeAll 0x1549a966 hinfo.length_master
  have hcollect := run_collect run_writeInfoFields (stream before)
  have hwidth : ∀ width : ℕ, (ofExcept (.ok width) : EStateM IoError W ℕ).run (stream before) =
      .ok width (stream before) := fun _ => rfl
  rw [writeInfo]
  simp only [EStateM.run_bind, EStateM.run_pure, hcollect, hstream.streamPosition,
    sizeWidth_ofNat hinfo.length_master, hwidth, helement before]
  rw [UInt64.add_assoc, durationInInfo]

theorem appends_writeTracks (hstream : Appending stream) (audioFormat : AudioFormat) :
    Appends stream (writeTracks audioFormat) (tracksTree audioFormat).bytes := by
  have hvideo : videoTree.Readable isMaster := short_videoTree.1
  have haudio : (audioTree audioFormat).Readable isMaster := (short_audioTree audioFormat).1
  have hvideoElement : Appends Vec.of (element 0xae (forestBytes videoFields)) videoTree.bytes :=
    appends_element appending_vec 0xae hvideo.length_master
  have haudioElement : Appends Vec.of (element 0xae (forestBytes (audioFields audioFormat)))
      (audioTree audioFormat).bytes := appends_element appending_vec 0xae haudio.length_master
  have hentries : Appends Vec.of (do
      let (_, video) ← collect writeVideoEntry
      element 0xae video
      let (_, audio) ← collect (writeAudioEntry audioFormat)
      element 0xae audio) (forestBytes [videoTree, audioTree audioFormat]) :=
    appends_writeVideoEntry.collect (appends_cons hvideoElement
      ((appends_writeAudioEntry audioFormat).collect (appends_last haudioElement)))
  exact appends_master hstream 0x1654ae6b hentries (short_tracksTree audioFormat).1

/-- The bytes before the segment information. -/
def beforeInfo : List UInt8 := headerTree.bytes ++ (idBytes 0x18538067 ++ unknownSize)

/-- **The header** is that of a file without clusters. -/
theorem run_writeHeader [Seek W] (hstream : Faultless stream) (audioFormat : AudioFormat) :
    (writeHeader audioFormat).run (stream []) =
      .ok (UInt64.ofNat beforeInfo.length + durationInInfo)
        (stream (headerBytes audioFormat)) := by
  have hheader : writeEbmlHeader.run (stream []) = .ok () (stream headerTree.bytes) :=
    appends_writeEbmlHeader hstream.writeAll []
  have hsegment : startSegment.run (stream headerTree.bytes) = .ok () (stream beforeInfo) :=
    appends_startSegment hstream.writeAll headerTree.bytes
  have hinfo := run_writeInfo hstream beforeInfo
  have htracks := appends_writeTracks hstream.writeAll audioFormat
  have hbytes : headerBytes audioFormat =
      beforeInfo ++ infoTree.bytes ++ (tracksTree audioFormat).bytes := by
    rw [headerBytes, fileTrees, forestBytes, forestBytes, forestBytes, Tree.bytes, elementBytes,
      forestBytes, forestBytes, forestBytes]
    simp [beforeInfo]
  rw [writeHeader, hbytes]
  simp only [EStateM.run_bind, EStateM.run_pure, hheader, hsegment, hinfo, htracks _]

theorem appends_writeCluster (hstream : Appending stream) {ptsMs : UInt64} {track : UInt8}
    {data : List UInt8}
    (hsize : (forestBytes (clusterFields ptsMs track data)).length < sizeLimit) :
    Appends stream (writeCluster ptsMs track data) (clusterTree ptsMs track data).bytes := by
  have hcluster := readable_clusterTree hsize
  have hblock := hcluster.children.mem (List.mem_cons_of_mem _ (List.mem_singleton_self _))
  refine appends_master hstream 0x1f43b675 ?_ hcluster
  refine appends_cons (appends_uintElement appending_vec 0xe7 ptsMs) (appends_last ?_)
  exact appends_element appending_vec 0xa3 hblock.length_leaf

end Writes

/-! ## Calls -/

/-- A call of the writer's user. -/
inductive MediaCall where
  /-- `write_video` -/
  | video (event : TimedVideoFrame) (timing : MediaTiming)
  /-- `write_audio` -/
  | audio (event : TimedAudioChunk) (timing : MediaTiming)
  deriving DecidableEq

namespace MediaCall

/-- The time of the packet, in milliseconds. -/
def timecode : MediaCall → UInt64
  | .video _ timing => timing.ptsUs / 1000
  | .audio _ timing => timing.ptsUs / 1000

/-- The track of the packet. -/
def track : MediaCall → UInt8
  | .video .. => videoTrack
  | .audio .. => audioTrack

/-- The packet. -/
def packet : MediaCall → List UInt8
  | .video event _ => event.frame.jpeg
  | .audio event _ => event.chunk.pcm

/-- When the packet ends. -/
def endUs : MediaCall → UInt64
  | .video _ timing => timing.ptsUs.saturatingAdd timing.durationUs
  | .audio _ timing => timing.ptsUs.saturatingAdd timing.durationUs

/-- An audio call with the format of the file, and with as many bytes as its
sample frames have. -/
def Accepted (audioFormat : AudioFormat) : MediaCall → Prop
  | .video .. => True
  | .audio event _ => event.format = audioFormat ∧
      event.chunk.pcm.length = event.chunk.sampleFrames.toNat * event.format.channels.toNat * 2

instance (audioFormat : AudioFormat) : DecidablePred (Accepted audioFormat) := fun call =>
  match call with
  | .video .. => inferInstanceAs (Decidable True)
  | .audio .. => inferInstanceAs (Decidable (_ ∧ _))

/-- The cluster a call stands for. -/
def cluster (call : MediaCall) : Cluster where
  timecode := call.timecode.toNat
  block :=
    { track := call.track.toNat
      relativeTime := 0
      keyframe := true
      data := call.packet }

/-- The cluster that an accepted call writes. -/
def tree (call : MediaCall) : Ebml.Tree := clusterTree call.timecode call.track call.packet

/-- The size of that cluster can be written. -/
def BelowLimit (call : MediaCall) : Prop :=
  (Ebml.forestBytes (clusterFields call.timecode call.track call.packet)).length < Ebml.sizeLimit

variable {W : Type} [Write W]

/-- What a call runs. -/
def run : MediaCall → EStateM MatroskaError (MatroskaWriter W) Unit
  | .video event timing => MatroskaWriter.writeVideo event timing
  | .audio event timing => MatroskaWriter.writeAudio event timing

/-- A call whose error, if any, is handed to the caller. -/
def perform (writer : MatroskaWriter W) (call : MediaCall) :
    MatroskaWriter W × Except MatroskaError Unit :=
  match call.run.run writer with
  | .ok _ writer => (writer, .ok ())
  | .error error writer => (writer, .error error)

/-- The error of a rejected call. -/
def rejection (audioFormat : AudioFormat) : MediaCall → MatroskaError
  | .video .. => .audioFormatChanged
  | .audio event _ =>
    if event.format ≠ audioFormat then .audioFormatChanged
    else .invalidPcmLength (min (event.chunk.sampleFrames.toNat *
      event.format.channels.toNat * 2) (2 ^ 64 - 1)) event.chunk.pcm.length

section Perform

variable {stream : List UInt8 → W} {before : List UInt8} {writer : MatroskaWriter W}
  {call : MediaCall}

/-- The block of a cluster is no larger than the cluster. -/
theorem BelowLimit.packet (h : call.BelowLimit) : call.packet.length < Ebml.sizeLimit := by
  have hblock := (readable_clusterTree h).children.mem
    (List.mem_cons_of_mem _ (List.mem_singleton_self _))
  have hlength := hblock.length_leaf
  simp only [List.length_cons] at hlength
  omega

/-- All packets but absurdly long ones are below the limit. -/
theorem belowLimit_of_length (h : call.packet.length + 128 < Ebml.sizeLimit) :
    call.BelowLimit := by
  have htime : (uintTree 0xe7 call.timecode).Short isMaster 64 :=
    short_uintTree (by decide) call.timecode
  have htimeLength := htime.2.2
  have hblock : ((0x80 ||| call.track) :: 0 :: 0 :: 0x80 :: call.packet).length <
      Ebml.sizeLimit := by
    simp only [List.length_cons]
    omega
  have hlength := Ebml.length_elementBytes_le (by decide : Ebml.IsId 0xa3) hblock
  simp only [List.length_cons] at hlength
  simp only [BelowLimit, clusterFields, Ebml.forestBytes, Ebml.Tree.bytes, List.length_append,
    List.length_nil]
  omega

/-- The byte count that `write_audio` expects. -/
theorem toNat_expected (sampleFrames channels : UInt32) (encoding : PcmEncoding) :
    ((sampleFrames.toUInt64.saturatingMul channels.toUInt64).saturatingMul
        (MatroskaWriter.bytesPerSample encoding)).toNat =
      min (sampleFrames.toNat * channels.toNat * 2) (2 ^ 64 - 1) := by
  have htwo : (MatroskaWriter.bytesPerSample encoding).toNat = 2 := by cases encoding; rfl
  rw [UInt64.toNat_saturatingMul, UInt64.toNat_saturatingMul, htwo, UInt32.toNat_toUInt64,
    UInt32.toNat_toUInt64]
  omega

/-- A packet is written behind what is there. -/
theorem run_writePacket (hstream : Appending stream) (houtput : writer.output = stream before)
    {track : UInt8} {data : List UInt8} {timing : MediaTiming}
    (hsize : (Ebml.forestBytes (clusterFields (timing.ptsUs / 1000) track data)).length <
      Ebml.sizeLimit) :
    (MatroskaWriter.writePacket track data timing).run writer =
      .ok () { writer with
        output := stream (before ++ (clusterTree (timing.ptsUs / 1000) track data).bytes)
        maximumEndUs :=
          max writer.maximumEndUs (timing.ptsUs.saturatingAdd timing.durationUs) } := by
  have hcluster := appends_writeCluster hstream hsize before
  rw [← houtput] at hcluster
  have hon : (MatroskaWriter.onOutput (writeCluster (timing.ptsUs / 1000) track data)).run writer =
      .ok () { writer with
        output := stream (before ++ (clusterTree (timing.ptsUs / 1000) track data).bytes) } := by
    rw [EStateM.run, MatroskaWriter.onOutput, hcluster]
  rw [MatroskaWriter.writePacket, EStateM.run_bind, hon]
  rfl

/-- What `write_audio` checks before it writes the packet. -/
theorem run_writeAudio (event : TimedAudioChunk) (timing : MediaTiming)
    (writer : MatroskaWriter W) :
    (MatroskaWriter.writeAudio event timing).run writer =
      if event.format ≠ writer.audioFormat then .error .audioFormatChanged writer
      else if event.chunk.pcm.length ≠ min (event.chunk.sampleFrames.toNat *
          event.format.channels.toNat * 2) (2 ^ 64 - 1) then
        .error (rejection writer.audioFormat (.audio event timing)) writer
      else (MatroskaWriter.writePacket audioTrack event.chunk.pcm timing).run writer := by
  have hget : (get : EStateM MatroskaError (MatroskaWriter W) _).run writer = .ok writer writer :=
    rfl
  rw [MatroskaWriter.writeAudio, EStateM.run_bind, hget]
  simp only [toNat_expected, rejection]
  generalize min (event.chunk.sampleFrames.toNat * event.format.channels.toNat * 2) (2 ^ 64 - 1) =
    expected
  by_cases hformat : event.format = writer.audioFormat
  · by_cases hlength : event.chunk.pcm.length = expected
    · simp [hformat, hlength]
    · simp [hformat, hlength]
  · simp [hformat]

/-- An accepted call writes its cluster. -/
theorem perform_accepted (hstream : Appending stream) (houtput : writer.output = stream before)
    (hlimit : call.BelowLimit) (haccepted : call.Accepted writer.audioFormat) :
    call.perform writer =
      ({ writer with
          output := stream (before ++ call.tree.bytes)
          maximumEndUs := max writer.maximumEndUs call.endUs }, .ok ()) := by
  have hrun : call.run.run writer =
      .ok () { writer with
        output := stream (before ++ call.tree.bytes)
        maximumEndUs := max writer.maximumEndUs call.endUs } := by
    cases call with
    | video event timing => exact run_writePacket hstream houtput hlimit
    | audio event timing =>
      obtain ⟨hformat, hlength⟩ := haccepted
      have hshort := hlimit.packet
      have hlimit64 : Ebml.sizeLimit < 2 ^ 64 - 1 := by decide
      rw [run, run_writeAudio, if_neg (not_not.mpr hformat), if_neg]
      · exact run_writePacket hstream houtput hlimit
      · rw [packet] at hshort
        omega
  rw [perform, hrun]

/-- A rejected call changes nothing. -/
theorem perform_rejected (hlimit : call.BelowLimit)
    (hrejected : ¬ call.Accepted writer.audioFormat) :
    call.perform writer = (writer, .error (call.rejection writer.audioFormat)) := by
  cases call with
  | video event timing => exact absurd trivial hrejected
  | audio event timing =>
    have hshort := hlimit.packet
    have hlimit64 : Ebml.sizeLimit < 2 ^ 64 - 1 := by decide
    have hrun : (MediaCall.audio event timing).run.run writer =
        .error (rejection writer.audioFormat (.audio event timing)) writer := by
      rw [run, run_writeAudio]
      by_cases hformat : event.format = writer.audioFormat
      · rw [if_neg (not_not.mpr hformat), if_pos]
        intro hlength
        rw [packet] at hshort
        exact hrejected ⟨hformat, by omega⟩
      · rw [if_pos hformat, rejection, if_pos hformat]
    rw [perform, hrun]

end Perform

/-! ## Runs -/

section Run

variable {stream : List UInt8 → W} {before : List UInt8} {writer : MatroskaWriter W}

/-- The calls of a series that write something. -/
def acceptedCalls (audioFormat : AudioFormat) (calls : List MediaCall) : List MediaCall :=
  calls.filter fun call => decide (call.Accepted audioFormat)

/-- A series of calls writes the clusters of the accepted ones. -/
theorem final_perform (hstream : Appending stream) (houtput : writer.output = stream before)
    {calls : List MediaCall} (hlimit : ∀ call ∈ calls, call.BelowLimit) :
    (Mealy.final perform writer calls).audioFormat = writer.audioFormat ∧
      (Mealy.final perform writer calls).output = stream (before ++
        Ebml.forestBytes ((acceptedCalls writer.audioFormat calls).map tree)) := by
  induction calls generalizing writer before with
  | nil => simp [houtput, acceptedCalls, Ebml.forestBytes]
  | cons call calls ih =>
    have hcall := hlimit call (List.mem_cons_self ..)
    have hcalls : ∀ later ∈ calls, later.BelowLimit := fun later hmem =>
      hlimit later (List.mem_cons_of_mem _ hmem)
    by_cases haccepted : call.Accepted writer.audioFormat
    · have houtput' : MatroskaWriter.output { writer with
          output := stream (before ++ call.tree.bytes)
          maximumEndUs := max writer.maximumEndUs call.endUs } =
            stream (before ++ call.tree.bytes) := rfl
      have hrest := ih houtput' hcalls
      rw [Mealy.final_cons, perform_accepted hstream houtput hcall haccepted]
      simpa [acceptedCalls, haccepted, Ebml.forestBytes] using hrest
    · have hrest := ih houtput hcalls
      rw [Mealy.final_cons, perform_rejected hcall haccepted]
      simpa [acceptedCalls, haccepted] using hrest

/-- A track number is one byte of a variable-length integer. -/
theorem readVint_track (call : MediaCall) (rest : List UInt8) :
    Ebml.readVint ((0x80 ||| call.track) :: rest) = some ((1, 128 + call.track.toNat), rest) := by
  have htrack : call.track = videoTrack ∨ call.track = audioTrack := by
    cases call with
    | video => exact .inl rfl
    | audio => exact .inr rfl
  have hmarked : Ebml.Marked (0 + 1) (128 + call.track.toNat) := by
    rcases htrack with h | h <;> rw [h] <;> decide
  have hbyte : 0x80 ||| call.track = UInt8.ofNat ((128 + call.track.toNat) / 256 ^ 0) := by
    rcases htrack with h | h <;> rw [h] <;> decide
  rw [hbyte]
  exact Ebml.readVint_bytesBE (by decide) hmarked rest

/-- The cluster of a call is read back. -/
theorem readCluster_tree (call : MediaCall) : readCluster call.tree = some call.cluster := by
  have hblock : readBlock ((0x80 ||| call.track) :: 0 :: 0 :: 0x80 :: call.packet) =
      some call.cluster.block := by
    have htime : (Int16.ofNat (Ebml.valueBE [0, 0])).toInt = 0 := by decide
    rw [readBlock, readVint_track]
    simp [cluster, htime]
  rw [tree, clusterTree, clusterFields, uintTree, readCluster, hblock]
  simp [cluster]

theorem readTrack_videoTree : readTrack videoTree = some ⟨1, 1, none⟩ := by
  simp [readTrack, videoTree, videoFields, uintField, masterField, uintTree, stringTree]

theorem readTrack_audioTree (audioFormat : AudioFormat) :
    readTrack (audioTree audioFormat) = some ⟨2, 2, some audioFormat.channels.toNat⟩ := by
  simp [readTrack, audioTree, audioFields, uintField, masterField, uintTree, stringTree, floatTree]

/-- What a reader finds in a file of clusters. -/
theorem readMatroska_fileTrees (audioFormat : AudioFormat) {calls : List MediaCall}
    (hlimit : ∀ call ∈ calls, call.BelowLimit) :
    readMatroska (Ebml.forestBytes (fileTrees audioFormat (calls.map tree))) =
      some {
        tracks := [⟨1, 1, none⟩, ⟨2, 2, some audioFormat.channels.toNat⟩]
        clusters := calls.map cluster } := by
  have hreadable : ∀ child ∈ calls.map tree,
      child.Readable isMaster ∧ child.element.sized = true := by
    intro child hmem
    obtain ⟨call, hcall, rfl⟩ := List.mem_map.mp hmem
    exact ⟨readable_clusterTree (hlimit call hcall), rfl⟩
  have hforest := Ebml.readForest_forestBytes (readable_fileTrees audioFormat hreadable)
  have hclusters : (calls.map tree).mapM readCluster = some (calls.map cluster) := by
    rw [List.mapM_map]
    exact Ebml.mapM_eq_some fun call _ => readCluster_tree call
  rw [readMatroska, hforest]
  simp [fileTrees, headerTree, infoTree, tracksTree, readTrack_videoTree, readTrack_audioTree,
    hclusters]

/-- A writer that has written its header, and nothing else. -/
def freshWriter (stream : List UInt8 → W) (audioFormat : AudioFormat) : MatroskaWriter W where
  output := stream (headerBytes audioFormat)
  audioFormat := audioFormat
  durationOffset := UInt64.ofNat beforeInfo.length + durationInInfo
  maximumEndUs := 0

theorem new_eq [Seek W] (hstream : Faultless stream) (audioFormat : AudioFormat) :
    MatroskaWriter.new (stream []) audioFormat = .ok (freshWriter stream audioFormat) := by
  rw [MatroskaWriter.new, run_writeHeader hstream]
  rfl

/-- **Matroska writing is undone by EBML parsing.** A writer over an output
that is empty at first, and never fails, writes its header; whatever calls
follow, an EBML reader finds in the output a header, one segment of unknown
size with information and two tracks, and one cluster for each accepted call,
in order, with the packet passed in. A call is rejected only for its format or
its length, and then it leaves the writer as it was. -/
theorem perform_readable [Seek W] (hstream : Faultless stream) (audioFormat : AudioFormat) :
    ∃ writer, MatroskaWriter.new (stream []) audioFormat = .ok writer ∧
      ∀ calls : List MediaCall, (∀ call ∈ calls, call.BelowLimit) →
        (∃ bytes, (Mealy.final perform writer calls).output = stream bytes ∧
          readMatroska bytes = some {
            tracks := [⟨1, 1, none⟩, ⟨2, 2, some audioFormat.channels.toNat⟩]
            clusters := (acceptedCalls audioFormat calls).map cluster }) ∧
        ∀ past call, past ++ [call] <+: calls →
          (call.Accepted audioFormat → (perform (Mealy.final perform writer past) call).2 = .ok ()) ∧
          (¬ call.Accepted audioFormat → perform (Mealy.final perform writer past) call =
            (Mealy.final perform writer past, .error (call.rejection audioFormat))) := by
  refine ⟨freshWriter stream audioFormat, new_eq hstream audioFormat, ?_⟩
  intro calls hlimit
  have hheader : (freshWriter stream audioFormat).output = stream (headerBytes audioFormat) := rfl
  refine ⟨?_, ?_⟩
  · refine ⟨_, (final_perform hstream.writeAll hheader hlimit).2, ?_⟩
    rw [← forestBytes_fileTrees]
    refine readMatroska_fileTrees audioFormat fun call hmem => hlimit call ?_
    exact (List.mem_filter.mp hmem).1
  · intro past call hpre
    have hmem : ∀ earlier ∈ past ++ [call], earlier.BelowLimit := fun earlier hearlier =>
      hlimit earlier (hpre.subset hearlier)
    have hcall : call.BelowLimit := hmem call (by simp)
    have hpast : ∀ earlier ∈ past, earlier.BelowLimit := fun earlier hearlier =>
      hmem earlier (List.mem_append_left _ hearlier)
    obtain ⟨hformat, houtput⟩ := final_perform hstream.writeAll hheader hpast
    have hformat' : (Mealy.final perform (freshWriter stream audioFormat) past).audioFormat =
        audioFormat := hformat
    refine ⟨?_, ?_⟩
    · intro haccepted
      rw [← hformat'] at haccepted
      rw [perform_accepted hstream.writeAll houtput hcall haccepted]
    · intro hrejected
      rw [← hformat'] at hrejected
      rw [perform_rejected hcall hrejected, hformat']

/-- A format of two channels. -/
def sampleFormat : AudioFormat :=
  ⟨16000, 2, .signed16LittleEndian, sixteenKilohertz_ne, stereo_ne⟩

/-- A frame, and two blocks of one sample frame, one of them a byte short. -/
def sampleCalls : List MediaCall :=
  let timing : MediaTiming := ⟨40000, 40000, 0, false⟩
  let block (pcm : List UInt8) : TimedAudioChunk :=
    { observedStart := .fromMicros 0
      timestampAccuracy := .hardware
      format := sampleFormat
      chunk := ⟨pcm, 0, 1⟩
      sourceDiscontinuity := false }
  let frame : TimedVideoFrame :=
    { observedAt := .fromMicros 0
      frame := ⟨0, 0, 0, 40, 0, [0xff, 0xd8, 0xff, 0xd9]⟩
      sourceDiscontinuity := false }
  [.video frame timing, .audio (block [1, 2, 3]) timing, .audio (block [1, 2, 3, 4]) timing]

theorem perform_readable_sample :
    ∃ writer bytes, MatroskaWriter.new (Cursor.atEnd []) sampleFormat = .ok writer ∧
      (Mealy.final perform writer sampleCalls).output = Cursor.atEnd bytes ∧
      readMatroska bytes = some {
        tracks := [⟨1, 1, none⟩, ⟨2, 2, some 2⟩]
        clusters :=
          [⟨40, ⟨1, 0, true, [0xff, 0xd8, 0xff, 0xd9]⟩⟩, ⟨40, ⟨2, 0, true, [1, 2, 3, 4]⟩⟩] } := by
  obtain ⟨writer, hnew, hcalls⟩ := perform_readable Cursor.faultless_atEnd sampleFormat
  have hshort : ∀ call ∈ sampleCalls, call.packet.length + 128 < Ebml.sizeLimit := by decide
  have hlimit : ∀ call ∈ sampleCalls, call.BelowLimit := fun call hmem =>
    belowLimit_of_length (hshort call hmem)
  obtain ⟨⟨bytes, houtput, hread⟩, -⟩ := hcalls sampleCalls hlimit
  have hclusters : (acceptedCalls sampleFormat sampleCalls).map cluster =
      [⟨40, ⟨1, 0, true, [0xff, 0xd8, 0xff, 0xd9]⟩⟩, ⟨40, ⟨2, 0, true, [1, 2, 3, 4]⟩⟩] := by
    decide
  rw [hclusters] at hread
  exact ⟨writer, bytes, hnew, houtput, hread⟩

end Run

end MediaCall

end Handycam
