import Handycam.Jpeg
import Handycam.Mealy

/-!
# The cross-endpoint frame assembler

`StreamDecoder` receives the isochronous packets of the two camera endpoints in
completion order. An active packet on the boundary endpoint announces a frame;
the next video packet that starts with a record header opens a new record and
ends the one before it. `pushPacket` is the whole machine; `DecoderCall` and
`runCalls` are its use by a caller that may also `reset` it.

Counters and the unwrapped camera clock are `u64` and wrap, as the release
build of the crate does.
-/

namespace Handycam

/-- The two isochronous endpoints of the camera. -/
inductive Endpoint where
  /-- `0x81` -/
  | boundary
  /-- `0x82` -/
  | video
  deriving DecidableEq

/-- One isochronous packet. -/
structure EndpointPacket where
  /-- the endpoint it was received on -/
  endpoint : Endpoint
  /-- its payload -/
  data : List UInt8
  deriving DecidableEq

/-- A reconstructed frame. -/
structure CompressedFrame where
  /-- number of the frame since the last reset -/
  sequence : UInt64
  /-- the camera timestamp of the record -/
  timestamp11bitMs : UInt16
  /-- the camera timestamp, unwrapped since the last discarded record -/
  timestampUnwrappedMs : UInt64
  /-- camera time up to the next record -/
  timestampDeltaToNextMs : UInt16
  /-- the five undocumented header bits -/
  flags : UInt8
  /-- the complete image -/
  jpeg : List UInt8
  deriving DecidableEq

/-- The record whose entropy is being collected. -/
structure PendingRecord where
  /-- the 11-bit timestamp of its header -/
  timestamp : UInt16
  /-- its position on the unwrapped camera clock -/
  unwrappedTimestamp : UInt64
  /-- the flag bits of its header -/
  flags : UInt8
  /-- the bytes received so far, without the header -/
  entropy : List UInt8
  deriving DecidableEq

/-- Errors of the assembler. -/
inductive StreamDecodeError where
  /-- the record exceeded the configured maximum -/
  | recordTooLarge (maximum : ℕ)
  /-- the finished record gives no frame -/
  | frameConversion (error : FrameConversionError)
  deriving DecidableEq

/-- The state of the assembler. -/
structure StreamDecoder where
  /-- a boundary was announced and no header has consumed it yet -/
  boundaryPending : Bool
  /-- the open record -/
  current : Option PendingRecord
  /-- the next record to end is dropped -/
  discardFirstRecord : Bool
  /-- the number the next frame gets -/
  nextSequence : UInt64
  /-- the limit on a record's entropy -/
  maxRecordSize : ℕ
  deriving DecidableEq

/-- What `pushPacket` answers. -/
abbrev PushResult : Type := Except StreamDecodeError (Option CompressedFrame)

/-! ## Record headers -/

/-- A video packet that starts with a record header. -/
def isHeader (data : List UInt8) : Bool :=
  decide (8 ≤ data.length) && data.take 6 == List.replicate 6 0xff

/-- The 11-bit timestamp of a header. -/
def headerTimestamp (data : List UInt8) : UInt16 :=
  ((data.getD 6 0 &&& 0x07).toUInt16 <<< 8) ||| (data.getD 7 0).toUInt16

/-- The flag bits of a header. -/
def headerFlags (data : List UInt8) : UInt8 := data.getD 6 0 &&& 0xf8

/-- Bit 3 of the first byte, the boundary indication of the boundary endpoint. -/
def isActiveBoundary (data : List UInt8) : Bool :=
  data.head?.any fun byte => byte &&& 0x08 != 0

/-- `next.wrapping_sub(previous) & 0x07ff`. -/
def timestampDelta (previous next : UInt16) : UInt16 := (next - previous) &&& 0x07ff

namespace StreamDecoder

/-- `DEFAULT_MAX_RECORD_SIZE`. -/
def defaultMaxRecordSize : ℕ := 256 * 1024

/-- An assembler with a given record limit. -/
def withMaxRecordSize (maximum : ℕ) : StreamDecoder where
  boundaryPending := false
  current := none
  discardFirstRecord := true
  nextSequence := 0
  maxRecordSize := maximum

/-- The assembler the driver uses. -/
def new : StreamDecoder := withMaxRecordSize defaultMaxRecordSize

/-- Forget everything but the record limit. -/
def reset (decoder : StreamDecoder) : StreamDecoder :=
  { decoder with
    boundaryPending := false
    current := none
    discardFirstRecord := true
    nextSequence := 0 }

/-- The header branch of `push_video`: a record ends, and the one whose header
is `data` begins. -/
def acceptHeader (decoder : StreamDecoder) (data : List UInt8) : StreamDecoder × PushResult :=
  let timestamp := headerTimestamp data
  let flags := headerFlags data
  let finished := decoder.current
  let nextUnwrapped : UInt64 :=
    match finished with
    | none => 0
    | some record =>
      record.unwrappedTimestamp + (timestampDelta record.timestamp timestamp).toUInt64
  let opened : PendingRecord :=
    { timestamp := timestamp
      unwrappedTimestamp := if decoder.discardFirstRecord then 0 else nextUnwrapped
      flags := flags
      entropy := data.drop 8 }
  let decoder := { decoder with boundaryPending := false, current := some opened }
  match finished with
  | none => (decoder, .ok none)
  | some record =>
    if decoder.discardFirstRecord then
      ({ decoder with
          discardFirstRecord := false
          current := some { opened with unwrappedTimestamp := 0 } }, .ok none)
    else
      -- the next record is installed before the conversion can fail
      match reconstructJpeg record.entropy with
      | .error error => (decoder, .error (.frameConversion error))
      | .ok jpeg =>
        ({ decoder with nextSequence := decoder.nextSequence + 1 },
          .ok (some
            { sequence := decoder.nextSequence
              timestamp11bitMs := record.timestamp
              timestampUnwrappedMs := record.unwrappedTimestamp
              timestampDeltaToNextMs := timestampDelta record.timestamp timestamp
              flags := record.flags
              jpeg := jpeg }))

/-- The rest of `push_video`: the packet continues the open record, if any. -/
def continueRecord (decoder : StreamDecoder) (data : List UInt8) : StreamDecoder × PushResult :=
  match decoder.current with
  | none => (decoder, .ok none)
  | some record =>
    if decoder.maxRecordSize < record.entropy.length + data.length then
      ({ decoder with current := none, boundaryPending := false, discardFirstRecord := true },
        .error (.recordTooLarge decoder.maxRecordSize))
    else
      ({ decoder with current := some { record with entropy := record.entropy ++ data } }, .ok none)

/-- A packet of the video endpoint. -/
def pushVideo (decoder : StreamDecoder) (data : List UInt8) : StreamDecoder × PushResult :=
  if isHeader data && decoder.boundaryPending then
    decoder.acceptHeader data
  else
    decoder.continueRecord data

/-- A packet of either endpoint. -/
def pushPacket (decoder : StreamDecoder) (packet : EndpointPacket) :
    StreamDecoder × PushResult :=
  match packet.endpoint with
  | .boundary =>
    (if isActiveBoundary packet.data then { decoder with boundaryPending := true } else decoder,
      .ok none)
  | .video => decoder.pushVideo packet.data

end StreamDecoder

/-! ## What the branches do -/

namespace StreamDecoder

variable {decoder : StreamDecoder} {record : PendingRecord} {data : List UInt8}

/-- The record a header packet opens, at a given position of the camera clock. -/
def opened (data : List UInt8) (unwrapped : UInt64) : PendingRecord where
  timestamp := headerTimestamp data
  unwrappedTimestamp := unwrapped
  flags := headerFlags data
  entropy := data.drop 8

/-- The frame of a record that a header packet ends. -/
def finishedFrame (decoder : StreamDecoder) (record : PendingRecord) (data jpeg : List UInt8) :
    CompressedFrame where
  sequence := decoder.nextSequence
  timestamp11bitMs := record.timestamp
  timestampUnwrappedMs := record.unwrappedTimestamp
  timestampDeltaToNextMs := timestampDelta record.timestamp (headerTimestamp data)
  flags := record.flags
  jpeg := jpeg

/-- The camera clock at the header that ends a record. -/
def nextUnwrapped (record : PendingRecord) (data : List UInt8) : UInt64 :=
  record.unwrappedTimestamp + (timestampDelta record.timestamp (headerTimestamp data)).toUInt64

/-- With no open record a header only opens one, at clock zero. -/
theorem acceptHeader_none (hcurrent : decoder.current = none) :
    decoder.acceptHeader data =
      ({ decoder with boundaryPending := false, current := some (opened data 0) }, .ok none) := by
  simp [acceptHeader, opened, hcurrent]

/-- The first record is dropped, and the clock starts at the second. -/
theorem acceptHeader_discard (hcurrent : decoder.current = some record)
    (hdiscard : decoder.discardFirstRecord = true) :
    decoder.acceptHeader data =
      ({ decoder with
          boundaryPending := false
          current := some (opened data 0)
          discardFirstRecord := false }, .ok none) := by
  simp [acceptHeader, opened, hcurrent, hdiscard]

/-- A record without entropy is reported as an error; its successor is open. -/
theorem acceptHeader_error {error : FrameConversionError}
    (hcurrent : decoder.current = some record) (hdiscard : decoder.discardFirstRecord = false)
    (herror : reconstructJpeg record.entropy = .error error) :
    decoder.acceptHeader data =
      ({ decoder with
          boundaryPending := false
          current := some (opened data (nextUnwrapped record data)) },
        .error (.frameConversion error)) := by
  simp [acceptHeader, opened, nextUnwrapped, hcurrent, hdiscard, herror]

/-- A record with entropy becomes a frame; its successor is open. -/
theorem acceptHeader_frame {jpeg : List UInt8}
    (hcurrent : decoder.current = some record) (hdiscard : decoder.discardFirstRecord = false)
    (hjpeg : reconstructJpeg record.entropy = .ok jpeg) :
    decoder.acceptHeader data =
      ({ decoder with
          boundaryPending := false
          current := some (opened data (nextUnwrapped record data))
          nextSequence := decoder.nextSequence + 1 },
        .ok (some (finishedFrame decoder record data jpeg))) := by
  simp [acceptHeader, opened, nextUnwrapped, finishedFrame, hcurrent, hdiscard, hjpeg]

theorem pushPacket_boundary {packet : EndpointPacket} (h : packet.endpoint = .boundary) :
    decoder.pushPacket packet =
      ({ decoder with
          boundaryPending := isActiveBoundary packet.data || decoder.boundaryPending },
        .ok none) := by
  rw [pushPacket, h]
  by_cases hactive : isActiveBoundary packet.data <;> simp [hactive]

theorem pushPacket_header {packet : EndpointPacket} (h : packet.endpoint = .video)
    (hheader : isHeader packet.data = true) (hpending : decoder.boundaryPending = true) :
    decoder.pushPacket packet = decoder.acceptHeader packet.data := by
  rw [pushPacket, h]
  simp [pushVideo, hheader, hpending]

theorem pushPacket_continue {packet : EndpointPacket} (h : packet.endpoint = .video)
    (hnot : ¬ (isHeader packet.data && decoder.boundaryPending)) :
    decoder.pushPacket packet = decoder.continueRecord packet.data := by
  rw [pushPacket, h]
  simp only [pushVideo, if_neg hnot]

/-- A video packet that is taken for the header of a record. -/
def accepts (decoder : StreamDecoder) (packet : EndpointPacket) : Bool :=
  packet.endpoint == .video && (isHeader packet.data && decoder.boundaryPending)

/-- Everything a packet can do. -/
inductive PushCase (decoder : StreamDecoder) (packet : EndpointPacket) :
    StreamDecoder × PushResult → Prop
  /-- a packet of the boundary endpoint may announce a record -/
  | boundary (hboundary : packet.endpoint = .boundary) : PushCase decoder packet
      ({ decoder with
          boundaryPending := isActiveBoundary packet.data || decoder.boundaryPending },
        .ok none)
  /-- a video packet finds no record to continue -/
  | ignored (hvideo : packet.endpoint = .video) (hnot : decoder.accepts packet = false)
      (hcurrent : decoder.current = none) : PushCase decoder packet (decoder, .ok none)
  /-- a video packet would make the open record too large -/
  | refused (record : PendingRecord) (hvideo : packet.endpoint = .video)
      (hnot : decoder.accepts packet = false) (hcurrent : decoder.current = some record)
      (hlarge : decoder.maxRecordSize < record.entropy.length + packet.data.length) :
      PushCase decoder packet
        ({ withMaxRecordSize decoder.maxRecordSize with nextSequence := decoder.nextSequence },
          .error (.recordTooLarge decoder.maxRecordSize))
  /-- a video packet continues the open record -/
  | continued (record : PendingRecord) (hvideo : packet.endpoint = .video)
      (hnot : decoder.accepts packet = false) (hcurrent : decoder.current = some record)
      (hfits : record.entropy.length + packet.data.length ≤ decoder.maxRecordSize) :
      PushCase decoder packet
        ({ decoder with
            current := some { record with entropy := record.entropy ++ packet.data } }, .ok none)
  /-- a header opens a record, and none was open -/
  | opens (haccepts : decoder.accepts packet = true) (hcurrent : decoder.current = none) :
      PushCase decoder packet
        ({ decoder with boundaryPending := false, current := some (opened packet.data 0) },
          .ok none)
  /-- a header ends the first record -/
  | discards (record : PendingRecord) (haccepts : decoder.accepts packet = true)
      (hcurrent : decoder.current = some record) (hdiscard : decoder.discardFirstRecord = true) :
      PushCase decoder packet
        ({ decoder with
            boundaryPending := false
            current := some (opened packet.data 0)
            discardFirstRecord := false }, .ok none)
  /-- a header ends a record that gives no frame -/
  | malformed (record : PendingRecord) (error : FrameConversionError)
      (haccepts : decoder.accepts packet = true) (hcurrent : decoder.current = some record)
      (hdiscard : decoder.discardFirstRecord = false)
      (herror : reconstructJpeg record.entropy = .error error) :
      PushCase decoder packet
        ({ decoder with
            boundaryPending := false
            current := some (opened packet.data (nextUnwrapped record packet.data)) },
          .error (.frameConversion error))
  /-- a header ends a record, which becomes a frame -/
  | emits (record : PendingRecord) (jpeg : List UInt8)
      (haccepts : decoder.accepts packet = true) (hcurrent : decoder.current = some record)
      (hdiscard : decoder.discardFirstRecord = false)
      (hjpeg : reconstructJpeg record.entropy = .ok jpeg) :
      PushCase decoder packet
        ({ decoder with
            boundaryPending := false
            current := some (opened packet.data (nextUnwrapped record packet.data))
            nextSequence := decoder.nextSequence + 1 },
          .ok (some (finishedFrame decoder record packet.data jpeg)))

/-- A packet does one of these things. -/
theorem pushPacket_case (decoder : StreamDecoder) (packet : EndpointPacket) :
    PushCase decoder packet (decoder.pushPacket packet) := by
  rcases hend : packet.endpoint with _ | _
  · rw [pushPacket_boundary hend]
    exact .boundary hend
  · have haccepts : decoder.accepts packet = (isHeader packet.data && decoder.boundaryPending) := by
      simp [accepts, hend]
    by_cases hheader : (isHeader packet.data && decoder.boundaryPending) = true
    · rw [hheader] at haccepts
      obtain ⟨hshape, hpending⟩ := Bool.and_eq_true_iff.mp hheader
      rw [pushPacket_header hend hshape hpending]
      rcases hcurrent : decoder.current with _ | record
      · rw [acceptHeader_none hcurrent]
        exact .opens haccepts hcurrent
      · rcases hdiscard : decoder.discardFirstRecord with _ | _
        · rcases hjpeg : reconstructJpeg record.entropy with error | jpeg
          · rw [acceptHeader_error hcurrent hdiscard hjpeg]
            exact .malformed record error haccepts hcurrent hdiscard hjpeg
          · rw [acceptHeader_frame hcurrent hdiscard hjpeg]
            exact .emits record jpeg haccepts hcurrent hdiscard hjpeg
        · rw [acceptHeader_discard hcurrent hdiscard]
          exact .discards record haccepts hcurrent hdiscard
    · rw [Bool.not_eq_true] at hheader
      rw [hheader] at haccepts
      rw [pushPacket_continue hend (by simp [hheader]), continueRecord]
      rcases hcurrent : decoder.current with _ | record
      · exact .ignored hend haccepts hcurrent
      · by_cases hlarge : decoder.maxRecordSize < record.entropy.length + packet.data.length
        · simp only [if_pos hlarge]
          exact .refused record hend haccepts hcurrent hlarge
        · simp only [if_neg hlarge]
          exact .continued record hend haccepts hcurrent (Nat.not_lt.mp hlarge)

theorem pushPacket_accepts {packet : EndpointPacket} (h : decoder.accepts packet = true) :
    decoder.pushPacket packet = decoder.acceptHeader packet.data := by
  obtain ⟨hvideo, hheader⟩ := Bool.and_eq_true_iff.mp h
  obtain ⟨hshape, hpending⟩ := Bool.and_eq_true_iff.mp hheader
  exact pushPacket_header (by simpa using hvideo) hshape hpending

theorem pushPacket_not_accepts {packet : EndpointPacket} (hvideo : packet.endpoint = .video)
    (h : decoder.accepts packet = false) :
    decoder.pushPacket packet = decoder.continueRecord packet.data := by
  refine pushPacket_continue hvideo ?_
  simpa [accepts, hvideo] using h

/-- What a packet does is determined by its case. -/
theorem PushCase.eq {packet : EndpointPacket} {pushed : StreamDecoder × PushResult}
    (h : PushCase decoder packet pushed) : decoder.pushPacket packet = pushed := by
  cases h with
  | boundary hboundary => exact pushPacket_boundary hboundary
  | ignored hvideo hnot hcurrent =>
    rw [pushPacket_not_accepts hvideo hnot, continueRecord, hcurrent]
  | refused record hvideo hnot hcurrent hlarge =>
    rw [pushPacket_not_accepts hvideo hnot, continueRecord, hcurrent]
    exact if_pos hlarge
  | continued record hvideo hnot hcurrent hfits =>
    rw [pushPacket_not_accepts hvideo hnot, continueRecord, hcurrent]
    exact if_neg (Nat.not_lt.mpr hfits)
  | opens haccepts hcurrent =>
    rw [pushPacket_accepts haccepts, acceptHeader_none hcurrent]
  | discards record haccepts hcurrent hdiscard =>
    rw [pushPacket_accepts haccepts, acceptHeader_discard hcurrent hdiscard]
  | malformed record error haccepts hcurrent hdiscard herror =>
    rw [pushPacket_accepts haccepts, acceptHeader_error hcurrent hdiscard herror]
  | emits record jpeg haccepts hcurrent hdiscard hjpeg =>
    rw [pushPacket_accepts haccepts, acceptHeader_frame hcurrent hdiscard hjpeg]

end StreamDecoder

/-! ## Numbering

The frame counter and the unwrapped clock number the frames; they have no
influence on what becomes a frame. -/

/-- The assembler without its counter and its clock. -/
def StreamDecoder.unnumbered (decoder : StreamDecoder) : StreamDecoder :=
  { decoder with
    nextSequence := 0
    current := decoder.current.map fun record => { record with unwrappedTimestamp := 0 } }

/-- A result without the numbering of its frame. -/
def imageOf (result : PushResult) : Except StreamDecodeError (Option (List UInt8)) :=
  result.map (Option.map CompressedFrame.jpeg)

/-- What a packet does, and the image it gives, is no matter of numbering. -/
theorem StreamDecoder.pushPacket_forgets (decoder : StreamDecoder) (packet : EndpointPacket) :
    (decoder.unnumbered.pushPacket packet).1.unnumbered = (decoder.pushPacket packet).1.unnumbered ∧
      imageOf (decoder.unnumbered.pushPacket packet).2 = imageOf (decoder.pushPacket packet).2 := by
  have hcurrent : ∀ record, decoder.current = some record →
      decoder.unnumbered.current = some { record with unwrappedTimestamp := 0 } := by
    intro record hrecord
    rw [unnumbered, hrecord]
    rfl
  have hclosed : decoder.current = none → decoder.unnumbered.current = none := by
    intro hnone
    rw [unnumbered, hnone]
    rfl
  have hsame : decoder.unnumbered.accepts packet = decoder.accepts packet := rfl
  generalize hpushed : decoder.pushPacket packet = pushed
  have hcase := decoder.pushPacket_case packet
  rw [hpushed] at hcase
  -- without its numbering the assembler takes the same branch
  cases hcase with
  | boundary hboundary =>
    have hplain : decoder.unnumbered.pushPacket packet = _ := (PushCase.boundary hboundary).eq
    rw [hplain]
    exact ⟨by simp [unnumbered, Function.comp_def], rfl⟩
  | ignored hvideo hnot hnone =>
    have hplain : decoder.unnumbered.pushPacket packet = _ := (PushCase.ignored hvideo (hsame.trans hnot) (hclosed hnone)).eq
    rw [hplain]
    exact ⟨by simp [unnumbered, Function.comp_def], rfl⟩
  | refused record hvideo hnot hrecord hlarge =>
    have hplain : decoder.unnumbered.pushPacket packet = _ := (PushCase.refused _ hvideo (hsame.trans hnot) (hcurrent record hrecord) hlarge).eq
    rw [hplain]
    exact ⟨rfl, rfl⟩
  | continued record hvideo hnot hrecord hfits =>
    have hplain : decoder.unnumbered.pushPacket packet = _ := (PushCase.continued _ hvideo (hsame.trans hnot) (hcurrent record hrecord) hfits).eq
    rw [hplain]
    exact ⟨rfl, rfl⟩
  | opens haccepts hnone =>
    have hplain : decoder.unnumbered.pushPacket packet = _ := (PushCase.opens (hsame.trans haccepts) (hclosed hnone)).eq
    rw [hplain]
    exact ⟨rfl, rfl⟩
  | discards record haccepts hrecord hdiscard =>
    have hplain : decoder.unnumbered.pushPacket packet = _ := (PushCase.discards _ (hsame.trans haccepts) (hcurrent record hrecord) hdiscard).eq
    rw [hplain]
    exact ⟨rfl, rfl⟩
  | malformed record error haccepts hrecord hdiscard herror =>
    have hplain : decoder.unnumbered.pushPacket packet = _ := (PushCase.malformed _ error (hsame.trans haccepts) (hcurrent record hrecord) hdiscard herror).eq
    rw [hplain]
    exact ⟨rfl, rfl⟩
  | emits record jpeg haccepts hrecord hdiscard hjpeg =>
    have hplain : decoder.unnumbered.pushPacket packet = _ := (PushCase.emits _ jpeg (hsame.trans haccepts) (hcurrent record hrecord) hdiscard hjpeg).eq
    rw [hplain]
    exact ⟨rfl, rfl⟩

/-- Assemblers that differ in their numbering only give the same images. -/
theorem StreamDecoder.pushPacket_unnumbered {decoder other : StreamDecoder}
    (h : decoder.unnumbered = other.unnumbered) (packet : EndpointPacket) :
    (decoder.pushPacket packet).1.unnumbered = (other.pushPacket packet).1.unnumbered ∧
      imageOf (decoder.pushPacket packet).2 = imageOf (other.pushPacket packet).2 := by
  obtain ⟨hdecoder, hdecoderImage⟩ := pushPacket_forgets decoder packet
  obtain ⟨hother, hotherImage⟩ := pushPacket_forgets other packet
  rw [← hdecoder, ← hother, ← hdecoderImage, ← hotherImage, h]
  exact ⟨rfl, rfl⟩
/-! ## Calls

A user of the assembler pushes packets and resets it; a reset gives no result. -/

/-- One call of an assembler's user. -/
inductive DecoderCall where
  /-- `push_packet` -/
  | push (packet : EndpointPacket)
  /-- `reset` -/
  | reset

/-- The results of the `push_packet` calls, in order. -/
def runCalls : StreamDecoder → List DecoderCall → List PushResult
  | _, [] => []
  | decoder, .push packet :: calls =>
    (decoder.pushPacket packet).2 :: runCalls (decoder.pushPacket packet).1 calls
  | decoder, .reset :: calls => runCalls decoder.reset calls

/-- The packets before the first reset. -/
def firstStretch : List DecoderCall → List EndpointPacket
  | [] => []
  | .push packet :: calls => packet :: firstStretch calls
  | .reset :: _ => []

/-- The packets from each reset to the next. -/
def laterStretches : List DecoderCall → List (List EndpointPacket)
  | [] => []
  | .push _ :: calls => laterStretches calls
  | .reset :: calls => firstStretch calls :: laterStretches calls

/-- The reset-free stretches of a list of calls. -/
def stretches (calls : List DecoderCall) : List (List EndpointPacket) :=
  firstStretch calls :: laterStretches calls

/-- A reset leaves a fresh assembler with the same limit. -/
theorem StreamDecoder.reset_eq (decoder : StreamDecoder) :
    decoder.reset = withMaxRecordSize decoder.maxRecordSize := rfl

/-- No packet changes the limit. -/
@[simp] theorem StreamDecoder.pushPacket_maxRecordSize (decoder : StreamDecoder)
    (packet : EndpointPacket) :
    (decoder.pushPacket packet).1.maxRecordSize = decoder.maxRecordSize := by
  have hcase := pushPacket_case decoder packet
  generalize decoder.pushPacket packet = pushed at hcase ⊢
  cases hcase <;> rfl

/-- The results of a list of calls are those of its stretches, each after the
first on a fresh assembler. -/
theorem runCalls_eq (decoder : StreamDecoder) (calls : List DecoderCall) :
    runCalls decoder calls =
      Mealy.outputs StreamDecoder.pushPacket decoder (firstStretch calls) ++
        (laterStretches calls).flatMap (Mealy.outputs StreamDecoder.pushPacket
          (StreamDecoder.withMaxRecordSize decoder.maxRecordSize)) := by
  induction calls generalizing decoder with
  | nil => rfl
  | cons call calls ih =>
    cases call with
    | push packet =>
      rw [runCalls, ih, firstStretch, laterStretches, Mealy.outputs_cons,
        StreamDecoder.pushPacket_maxRecordSize, List.cons_append]
    | reset =>
      rw [runCalls, ih, firstStretch, laterStretches, StreamDecoder.reset_eq, List.flatMap_cons,
        Mealy.outputs_nil, List.nil_append]
      rfl

/-! ## Header arithmetic -/

theorem and_seven_lt (byte : UInt8) : (byte &&& 0x07).toNat < 8 := by
  rw [UInt8.toNat_and]
  exact Nat.lt_of_le_of_lt Nat.and_le_right (by decide)

/-- The timestamp as a number: three bits of one byte above all of the next. -/
theorem headerTimestamp_toNat (data : List UInt8) :
    (headerTimestamp data).toNat =
      (((data.getD 6 0).toNat &&& 0x07) <<< 8) ||| (data.getD 7 0).toNat := by
  have hhigh := and_seven_lt (data.getD 6 0)
  have hshift : (8 : UInt16).toNat % 16 = 8 := by decide
  have hmask : (0x07 : UInt8).toNat = 0x07 := by decide
  rw [headerTimestamp, UInt16.toNat_or, UInt16.toNat_shiftLeft, UInt8.toNat_toUInt16,
    UInt8.toNat_toUInt16, hshift, Nat.mod_eq_of_lt, UInt8.toNat_and, hmask]
  rw [Nat.shiftLeft_eq]
  omega

/-- The masked difference of two timestamps is their difference modulo 2048. -/
theorem timestampDelta_toNat (previous next : UInt16) :
    ((timestampDelta previous next).toNat : ℤ) = ((next.toNat : ℤ) - previous.toNat) % 2048 := by
  have hmask : (0x07ff : UInt16).toNat = 2 ^ 11 - 1 := by decide
  have hp := previous.toNat_lt
  have hn := next.toNat_lt
  rw [timestampDelta, UInt16.toNat_and, hmask, Nat.and_two_pow_sub_one_eq_mod, UInt16.toNat_sub]
  omega

theorem timestampDelta_lt (previous next : UInt16) :
    (timestampDelta previous next).toNat < 2048 := by
  have := timestampDelta_toNat previous next
  omega

/-! ## The camera clock

What a packet does to the position of the open record on the unwrapped camera
clock, when no error is reported. -/

/-- The position of the open record. -/
def StreamDecoder.openClock (decoder : StreamDecoder) : Option UInt64 :=
  decoder.current.map PendingRecord.unwrappedTimestamp

/-- How the clock moves with a packet: it stays, or it starts, or a frame is
emitted and it advances by less than 2048 ms. -/
inductive ClockMove (decoder next : StreamDecoder) : Option CompressedFrame → Prop where
  /-- nothing is opened -/
  | stays (hdiscard : next.discardFirstRecord = decoder.discardFirstRecord)
      (hclock : next.openClock = decoder.openClock) : ClockMove decoder next none
  /-- a record is opened at zero, and none is emitted -/
  | starts (hdiscard : decoder.discardFirstRecord = true ∨ decoder.current = none)
      (hnext : next.discardFirstRecord = true → decoder.discardFirstRecord = true)
      (hclock : next.openClock = some 0) : ClockMove decoder next none
  /-- a record is emitted, and its successor is opened -/
  | advances {frame : CompressedFrame} (hdiscard : decoder.discardFirstRecord = false)
      (hnext : next.discardFirstRecord = false)
      (hopen : decoder.openClock = some frame.timestampUnwrappedMs)
      (hclock : next.openClock =
        some (frame.timestampUnwrappedMs + frame.timestampDeltaToNextMs.toUInt64))
      (hdelta : frame.timestampDeltaToNextMs.toNat < 2048) : ClockMove decoder next (some frame)

/-- Every packet that is no error moves the clock in one of these ways. -/
theorem StreamDecoder.pushPacket_clockMove {decoder : StreamDecoder} {packet : EndpointPacket}
    {result : Option CompressedFrame} (h : (decoder.pushPacket packet).2 = .ok result) :
    ClockMove decoder (decoder.pushPacket packet).1 result := by
  revert h
  have hcase := pushPacket_case decoder packet
  generalize decoder.pushPacket packet = pushed at hcase ⊢
  intro h
  cases hcase with
  | boundary | ignored =>
    obtain rfl := Except.ok.inj h
    exact .stays rfl rfl
  | refused | malformed => cases h
  | continued record hvideo hnot hcurrent hfits =>
    obtain rfl := Except.ok.inj h
    refine .stays rfl ?_
    rw [openClock, openClock, hcurrent]
    rfl
  | opens haccepts hcurrent =>
    obtain rfl := Except.ok.inj h
    exact .starts (.inr hcurrent) id rfl
  | discards record haccepts hcurrent hdiscard =>
    obtain rfl := Except.ok.inj h
    exact .starts (.inl hdiscard) (fun hnext => by cases hnext) rfl
  | emits record jpeg haccepts hcurrent hdiscard hjpeg =>
    obtain rfl := Except.ok.inj h
    refine .advances hdiscard hdiscard ?_ rfl (timestampDelta_lt _ _)
    rw [openClock, hcurrent]
    rfl

/-! ## Synchronizing -/

namespace StreamDecoder

/-- With no record open the next one to end is the first. -/
def Synchronizing (decoder : StreamDecoder) : Prop :=
  decoder.current = none → decoder.discardFirstRecord = true

theorem pushPacket_synchronizing {decoder : StreamDecoder} (h : decoder.Synchronizing)
    (packet : EndpointPacket) : (decoder.pushPacket packet).1.Synchronizing := by
  have hcase := pushPacket_case decoder packet
  generalize decoder.pushPacket packet = pushed at hcase ⊢
  cases hcase with
  | boundary | ignored => exact h
  | refused => exact fun _ => rfl
  -- the others leave a record open
  | continued | opens | discards | malformed | emits => exact fun hnone => by cases hnone

end StreamDecoder

end Handycam
