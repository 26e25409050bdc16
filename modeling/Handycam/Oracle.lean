import Mathlib.Data.List.Sort
import Handycam.Recording
import Handycam.Segmentation

/-!
# The offline decoder

The tools that split a recording into records and wrap each as a JPEG image.
They see the payload of the video endpoint as one file and find the headers by
the offsets in the metadata; they know nothing of boundaries. On a capture in
which every header is announced, the frame assembler agrees with them.
-/

namespace Handycam

/-! ## Splitting -/

/-- What the splitter knows of a header. -/
structure SonyHeader where
  /-- offset of its packet in the video file -/
  offset : ℕ
  /-- length of its packet -/
  packetLength : ℕ
  /-- its 11-bit timestamp -/
  timestampMs : ℕ
  /-- number of its packet -/
  packetSequence : ℤ
  /-- USB frame of its packet, -1 when it is not known -/
  usbFrame : ℤ

/-- Why a recording cannot be split. -/
inductive SplitError where
  /-- "metadata line {line}: endpoint data range {offset}+{length} exceeds ep82.bin" -/
  | rangeExceeds (line : ℕ) (offset length : ℤ) (size : ℕ)
  /-- "no descriptor-start Sony headers found" -/
  | noHeaders
  /-- "metadata contains duplicate Sony header offsets" -/
  | duplicateOffsets
  deriving DecidableEq

/-- The header that a metadata row leads to, if any. -/
def headerOfRow (ep82 : List UInt8) (line : ℕ) (row : MetadataRow) :
    Except SplitError (Option SonyHeader) :=
  if row.endpoint ≠ some "0x82" then .ok none
  else
    let length := row.length.getD 0
    match row.dataOffset with
    | none => .ok none
    | some offset =>
      if length < 8 then .ok none
      else if offset < 0 ∨ (ep82.length : ℤ) < offset + length then
        .error (.rangeExceeds line offset length ep82.length)
      else
        let packet := ep82.drop offset.toNat
        if packet.take 6 ≠ List.replicate 6 0xff then .ok none
        else
          .ok (some
            { offset := offset.toNat
              packetLength := length.toNat
              timestampMs := (((packet.getD 6 0).toNat &&& 0x07) <<< 8) ||| (packet.getD 7 0).toNat
              packetSequence := row.packetSequence.getD (row.captureFrame.getD line)
              usbFrame := row.usbFrame.getD (-1) })

/-- The headers of the rows from line `line` on. -/
def collectHeaders (ep82 : List UInt8) : ℕ → List MetadataRow → Except SplitError (List SonyHeader)
  | _, [] => .ok []
  | line, row :: rows => do
    let header ← headerOfRow ep82 line row
    let headers ← collectHeaders ep82 (line + 1) rows
    return header.toList ++ headers

/-- The headers of a recording in the order of their offsets. -/
def loadHeaderOffsets (ep82 : List UInt8) (rows : List MetadataRow) :
    Except SplitError (List SonyHeader) := do
  let headers ← collectHeaders ep82 1 rows
  let headers := headers.mergeSort fun header other => decide (header.offset ≤ other.offset)
  if headers = [] then throw .noHeaders
  if ¬ (headers.map SonyHeader.offset).Nodup then throw .duplicateOffsets
  return headers

/-- One record of the splitter's manifest, and the file written for it. -/
structure SonyRecord where
  /-- `"index"` -/
  index : ℕ
  /-- `"data_offset"` -/
  dataOffset : ℕ
  /-- the file -/
  data : List UInt8
  /-- `"timestamp_ms"` -/
  timestampMs : ℕ
  /-- `"timestamp_delta_to_next_ms"` -/
  timestampDeltaToNextMs : Option ℕ
  /-- `"source_packet_length"` -/
  sourcePacketLength : ℕ
  /-- `"source_packet_sequence"` -/
  sourcePacketSequence : ℤ
  /-- `"source_usb_frame"` -/
  sourceUsbFrame : Option ℤ
  /-- `"bounded_by_next_header"` -/
  boundedByNextHeader : Bool

/-- The records of a file, from the one with index `index` on. -/
def splitRecords (ep82 : List UInt8) : ℕ → List SonyHeader → List SonyRecord
  | _, [] => []
  | index, header :: rest =>
    let next := rest.head?
    let stop := (next.map SonyHeader.offset).getD ep82.length
    { index := index
      dataOffset := header.offset
      data := (ep82.take stop).drop header.offset
      timestampMs := header.timestampMs
      timestampDeltaToNextMs := next.map fun next =>
        (((next.timestampMs : ℤ) - header.timestampMs) % 2048).toNat
      sourcePacketLength := header.packetLength
      sourcePacketSequence := header.packetSequence
      sourceUsbFrame := if 0 ≤ header.usbFrame then some header.usbFrame else none
      boundedByNextHeader := next.isSome } :: splitRecords ep82 (index + 1) rest

/-- The splitter. -/
def split (recording : Recording) : Except SplitError (List SonyRecord) := do
  let headers ← loadHeaderOffsets recording.ep82 recording.rows
  return splitRecords recording.ep82 1 headers

/-! ## Wrapping -/

/-- Why a record cannot be wrapped. -/
inductive WrapError where
  /-- "record does not contain an eight-byte Sony header" -/
  | noSonyHeader
  /-- "record has no entropy payload" -/
  | noEntropy
  deriving DecidableEq

/-- Wrap a record as a JPEG image under a given marker and table header. -/
def wrapRecord (record header : List UInt8) : Except WrapError (List UInt8) :=
  if record.length < 9 ∨ record.take 6 ≠ List.replicate 6 0xff then .error .noSonyHeader
  else
    let entropy := (record.drop 8).rdropWhile (· == 0)
    if entropy = [] then .error .noEntropy
    else
      let stuffedEntropy := entropy.flatMap fun byte => if byte = 0xff then [0xff, 0x00] else [byte]
      .ok (header ++ stuffedEntropy ++ [0xff, 0xd9])

/-- What comes of a record: its image, timestamp and delta, or why there is no
image. -/
abbrev RecordOutcome (ε : Type) : Type := Except ε (List UInt8 × ℕ × Option ℕ)

/-- What the wrapper makes of a record in the manifest. -/
def wrapOutcome (record : SonyRecord) : RecordOutcome WrapError :=
  (wrapRecord record.data jpegHeader).map fun jpeg =>
    (jpeg, record.timestampMs, record.timestampDeltaToNextMs)

/-- The outcomes of the records bounded by a next header; a capture without
headers has none. -/
def oracleOutcomes (recording : Recording) : List (RecordOutcome WrapError) :=
  match split recording with
  | .error _ => []
  | .ok records => (records.filter SonyRecord.boundedByNextHeader).map wrapOutcome

/-! ## The assembler's outcomes -/

/-- What the assembler reports about a record, if it reports one. -/
def reportOutcome : PushResult → Option (RecordOutcome StreamDecodeError)
  | .ok none => none
  | .ok (some frame) =>
    some (.ok (frame.jpeg, frame.timestamp11bitMs.toNat, some frame.timestampDeltaToNextMs.toNat))
  | .error error => some (.error error)

/-- The outcomes of the records that a fresh assembler reports on. -/
def assemblerOutcomes (maximum : ℕ) (packets : List EndpointPacket) :
    List (RecordOutcome StreamDecodeError) :=
  (Mealy.outputs StreamDecoder.pushPacket (StreamDecoder.withMaxRecordSize maximum)
    packets).filterMap reportOutcome

/-- Every header-shaped packet comes after an announced boundary, with no other
header-shaped packet in between. -/
def HeadersAnnounced (packets : List EndpointPacket) : Prop :=
  ∀ n < packets.length, packets[n]?.any EndpointPacket.looksLikeHeader →
    ∃ k < n, packets[k]?.any EndpointPacket.announces ∧
      ∀ j < n, k < j → ¬ packets[j]?.any EndpointPacket.looksLikeHeader

instance (packets : List EndpointPacket) : Decidable (HeadersAnnounced packets) :=
  inferInstanceAs (Decidable (∀ n < packets.length, _))

/-! ## The assembler by records -/

/-- The outcome of record `i`: the reconstruction of its entropy, with its
timestamp and delta. -/
def recordOutcome (packets : List EndpointPacket) (i : ℕ) : RecordOutcome StreamDecodeError :=
  ((reconstructJpeg (recordEntropy packets i)).mapError .frameConversion).map fun jpeg =>
    (jpeg, (headerTimestamp (headerData packets i)).toNat, some (recordDelta packets i))

theorem recordDelta_lt (packets : List EndpointPacket) (i : ℕ) : recordDelta packets i < 2048 := by
  rw [recordDelta]
  omega

/-- A report about a record is never empty. -/
theorem reportOutcome_recordReport (packets : List EndpointPacket) (i : ℕ) :
    reportOutcome (recordReport packets i) = some (recordOutcome packets i) := by
  have hdelta : (UInt16.ofNat (recordDelta packets i)).toNat = recordDelta packets i := by
    rw [UInt16.toNat_ofNat']
    exact Nat.mod_eq_of_lt (Nat.lt_trans (recordDelta_lt packets i) (by decide))
  rcases recordReport_cases packets i with ⟨hempty, h⟩ | ⟨-, jpeg, hjpeg, h⟩
  · have herror : reconstructJpeg (recordEntropy packets i) = .error .emptyEntropy :=
      reconstructJpeg_error.mpr ⟨rfl, hempty⟩
    rw [recordOutcome, h, herror]
    rfl
  · rw [recordOutcome, h, hjpeg]
    simp [reportOutcome, Except.mapError, Except.map, hdelta]

/-- The outcome of a record that a header ends does not change any more. -/
theorem recordOutcome_append {packets : List EndpointPacket} {i : ℕ} (more : List EndpointPacket)
    (h : i + 1 < (acceptedHeaders packets).length) :
    recordOutcome (packets ++ more) i = recordOutcome packets i := by
  apply Option.some.inj
  rw [← reportOutcome_recordReport, ← reportOutcome_recordReport, recordReport_append more h]

/-- The assembler reports on the records after the first that a header ends. -/
theorem filterMap_history (packets : List EndpointPacket) :
    (Mealy.history reportAt [] packets).filterMap reportOutcome =
      (List.range ((acceptedHeaders packets).length - 2)).map fun i =>
        recordOutcome packets (i + 1) := by
  induction packets using List.reverseRecOn with
  | nil => rfl
  | append_singleton packets packet ih =>
    have hold : (List.range ((acceptedHeaders packets).length - 2)).map (fun i =>
        recordOutcome (packets ++ [packet]) (i + 1)) =
          (List.range ((acceptedHeaders packets).length - 2)).map fun i =>
            recordOutcome packets (i + 1) := by
      refine List.map_congr_left fun i hi => ?_
      have := List.mem_range.mp hi
      exact recordOutcome_append [packet] (by omega)
    rw [Mealy.history_concat, List.filterMap_append, ih, List.nil_append, reportAt]
    by_cases h : packet.looksLikeHeader && boundarySince packets
    · rw [if_pos h, acceptedHeaders_accept h, List.length_append, List.length_singleton]
      rcases hm : (acceptedHeaders packets).length with _ | _ | i
      · rfl
      · rfl
      · rw [hm] at hold
        simp only [List.filterMap_cons, reportOutcome_recordReport, List.filterMap_nil]
        rw [show i + 2 + 1 - 2 = (i + 2 - 2) + 1 by omega, List.range_succ, List.map_append, hold]
        rfl
    · rw [if_neg h, acceptedHeaders_continue h, hold]
      simp [reportOutcome]

/-! ## The headers of a recording -/

section Recording

variable {completions past rest : List IsoCompletion} {completion : IsoCompletion}

/-- The packets of some completions. -/
def packetsOf (completions : List IsoCompletion) : List EndpointPacket :=
  completions.map IsoCompletion.packet

/-- The header of the completion at position `n`. -/
def headerAt (completions : List IsoCompletion) (n : ℕ) : SonyHeader where
  offset := (payloadFile .video (completions.take n)).length
  packetLength := ((completions[n]?.map IsoCompletion.payload).getD []).length
  timestampMs := (headerTimestamp ((completions[n]?.map IsoCompletion.payload).getD [])).toNat
  packetSequence := (completions[n]?.map IsoCompletion.captureFrame).getD 0
  usbFrame := (completions[n]?.map fun completion => completion.startFrame % 2048).getD 0

/-- A header-shaped packet has the eight bytes of a header. -/
theorem EndpointPacket.looksLikeHeader_iff {packet : EndpointPacket} :
    packet.looksLikeHeader = true ↔
      packet.endpoint = .video ∧ 8 ≤ packet.data.length ∧
        packet.data.take 6 = List.replicate 6 0xff := by
  simp [EndpointPacket.looksLikeHeader, isHeader]

/-- A row leads to a header exactly when its completion is header-shaped. -/
theorem headerOfRow_row (line : ℕ) :
    headerOfRow (payloadFile .video (past ++ completion :: rest)) line
        (completion.row (payloadFile completion.endpoint past).length) =
      .ok (if completion.packet.looksLikeHeader then
        some (headerAt (past ++ completion :: rest) past.length) else none) := by
  rcases hend : completion.endpoint with _ | _
  · simp [headerOfRow, IsoCompletion.row, Endpoint.name, hend, EndpointPacket.looksLikeHeader,
      IsoCompletion.packet]
  · have hslice : (payloadFile .video (past ++ completion :: rest)).drop
        (payloadFile .video past).length = completion.payload ++ payloadFile .video rest := by
      have := payloadFile_slice past rest completion
      rwa [hend] at this
    have hlength : (payloadFile .video past).length + completion.payload.length ≤
        (payloadFile .video (past ++ completion :: rest)).length := by
      simp [payloadFile, IsoCompletion.bytesOn, hend]
    have hat : (past ++ completion :: rest)[past.length]? = some completion := by simp
    have hshape : completion.packet.looksLikeHeader = true ↔
        8 ≤ completion.payload.length ∧ completion.payload.take 6 = List.replicate 6 0xff := by
      rw [EndpointPacket.looksLikeHeader_iff]
      exact and_iff_right hend
    rw [headerOfRow, if_neg (by simp [IsoCompletion.row, Endpoint.name, hend])]
    by_cases hshort : completion.payload.length < 8
    · -- too short for a header, or no payload at all
      rw [if_neg fun h => absurd (hshape.mp h).1 (by omega)]
      by_cases hempty : completion.payload = []
      · simp [IsoCompletion.row, hempty]
      · have hshortInt : (completion.payload.length : ℤ) < 8 := by omega
        simp only [IsoCompletion.row, if_neg hempty, Option.getD_some, if_pos hshortInt]
    · have hne : completion.payload ≠ [] := by
        rintro hnil
        rw [hnil] at hshort
        exact hshort (by decide)
      have htake : (completion.payload ++ payloadFile .video rest).take 6 =
          completion.payload.take 6 := List.take_append_of_le_length (by omega)
      have hget : ∀ i < 8, (completion.payload ++ payloadFile .video rest).getD i 0 =
          completion.payload.getD i 0 := fun i hi => List.getD_append _ _ _ _ (by omega)
      have hrange : ¬ (((payloadFile .video past).length : ℤ) < 0 ∨
          ((payloadFile .video (past ++ completion :: rest)).length : ℤ) <
            (payloadFile .video past).length + completion.payload.length) := by omega
      have hlong : ¬ (completion.payload.length : ℤ) < 8 := by omega
      simp only [IsoCompletion.row, if_neg hne, Option.getD_some, hend, if_neg hlong,
        if_neg hrange, Int.toNat_natCast, hslice, htake, hget 6 (by omega), hget 7 (by omega),
        ← headerTimestamp_toNat]
      by_cases hff : completion.payload.take 6 = List.replicate 6 0xff
      · rw [if_neg (not_not.mpr hff), if_pos (hshape.mpr ⟨by omega, hff⟩)]
        simp [headerAt]
      · rw [if_pos hff, if_neg fun h => hff (hshape.mp h).2]

theorem collectHeaders_append {ep82 : List UInt8} {line : ℕ} {rows more : List MetadataRow}
    {headers others : List SonyHeader} (hrows : collectHeaders ep82 line rows = .ok headers)
    (hmore : collectHeaders ep82 (line + rows.length) more = .ok others) :
    collectHeaders ep82 line (rows ++ more) = .ok (headers ++ others) := by
  induction rows generalizing line headers with
  | nil =>
    obtain rfl : [] = headers := by simpa [collectHeaders] using hrows
    exact hmore
  | cons row rows ih =>
    rw [List.length_cons, ← Nat.add_assoc, Nat.add_right_comm] at hmore
    rcases hrow : headerOfRow ep82 line row with error | header
    · simp [collectHeaders, hrow, bind, Except.bind] at hrows
    · rcases hrest : collectHeaders ep82 (line + 1) rows with error | found
      · simp [collectHeaders, hrow, hrest, bind, Except.bind] at hrows
      · obtain rfl : header.toList ++ found = headers := by
          simpa [collectHeaders, hrow, hrest, bind, Except.bind, pure, Except.pure] using hrows
        have hall := ih hrest hmore
        simp [collectHeaders, hrow, hall, bind, Except.bind, pure, Except.pure]

theorem packetsOf_concat :
    packetsOf (completions ++ [completion]) = packetsOf completions ++ [completion.packet] :=
  List.map_append

theorem getElem?_packetsOf (n : ℕ) :
    (packetsOf completions)[n]? = completions[n]?.map IsoCompletion.packet :=
  List.getElem?_map ..

/-- In a capture whose headers are announced, a boundary is pending at each. -/
theorem boundarySince_of_announced (hannounced : HeadersAnnounced (packetsOf completions))
    (hsplit : completions = past ++ completion :: rest)
    (hshape : completion.packet.looksLikeHeader = true) :
    boundarySince (packetsOf past) = true := by
  have hat : (packetsOf completions)[past.length]? = some completion.packet := by
    rw [getElem?_packetsOf, hsplit]
    simp
  have hbefore : ∀ j < past.length, (packetsOf completions)[j]? = (packetsOf past)[j]? := by
    intro j hj
    rw [getElem?_packetsOf, getElem?_packetsOf, hsplit, List.getElem?_append_left hj]
  have hlength : (packetsOf past).length = past.length := List.length_map _
  obtain ⟨k, hk, hannounces, hbetween⟩ := hannounced past.length
    (by simp [packetsOf, hsplit]) (by rw [hat]; exact hshape)
  rw [boundarySince_iff, hlength]
  refine ⟨k, hk, by rwa [hbefore k hk] at hannounces, fun j hkj hj hmem => ?_⟩
  have := ((mem_acceptedHeaders (packetsOf past) j).mp hmem).1
  rw [← hbefore j hj] at this
  exact hbetween j hj hkj this

/-- **The splitter finds the accepted headers.** -/
theorem collectHeaders_rows (hannounced : HeadersAnnounced (packetsOf completions))
    (hsplit : completions = past ++ rest) :
    collectHeaders (payloadFile .video completions) 1 (rowsFrom [] past) =
      .ok ((acceptedHeaders (packetsOf past)).map (headerAt completions)) := by
  induction past using List.reverseRecOn generalizing rest with
  | nil => rfl
  | append_singleton past completion ih =>
    have hsplit' : completions = past ++ completion :: rest := by simpa using hsplit
    have hlength : (packetsOf past).length = past.length := List.length_map _
    have hrow : headerOfRow (payloadFile .video completions) (1 + (rowsFrom [] past).length)
        (completion.row (payloadFile completion.endpoint past).length) =
          .ok (if completion.packet.looksLikeHeader then
            some (headerAt completions past.length) else none) := by
      rw [hsplit']
      exact headerOfRow_row _
    rw [rowsFrom_concat, List.nil_append, packetsOf_concat, acceptedHeaders_concat, List.map_append]
    refine collectHeaders_append (ih hsplit') ?_
    rw [collectHeaders, hrow, collectHeaders]
    by_cases hshape : completion.packet.looksLikeHeader
    · have hpending := boundarySince_of_announced hannounced hsplit' hshape
      simp [hshape, hpending, hlength, bind, Except.bind, pure, Except.pure]
    · simp [hshape, bind, Except.bind, pure, Except.pure]

/-! ## The records of a recording -/

theorem payloadFile_video (completions : List IsoCompletion) :
    payloadFile .video completions = (packetsOf completions).flatMap EndpointPacket.videoData := by
  rw [packetsOf, List.flatMap_map]
  rfl

/-- The bytes of the video file between two positions. -/
theorem payloadFile_between {p q : ℕ} (hpq : p ≤ q) (completions : List IsoCompletion) :
    ((payloadFile .video completions).take (headerAt completions q).offset).drop
        (headerAt completions p).offset =
      payloadFile .video ((completions.take q).drop p) := by
  have hfile : ∀ before after : List IsoCompletion, payloadFile .video (before ++ after) =
      payloadFile .video before ++ payloadFile .video after := fun _ _ => List.flatMap_append ..
  have hq : payloadFile .video completions = payloadFile .video (completions.take q) ++
      payloadFile .video (completions.drop q) := by rw [← hfile, List.take_append_drop]
  have hp : payloadFile .video (completions.take q) = payloadFile .video (completions.take p) ++
      payloadFile .video ((completions.take q).drop p) := by
    have htake : completions.take p = (completions.take q).take p := by
      rw [List.take_take, Nat.min_eq_left hpq]
    rw [← hfile, htake, List.take_append_drop]
  rw [headerAt, headerAt, hq, List.take_left, hp, List.drop_left]

/-- A header-shaped packet takes up its place in the video file. -/
theorem offset_lt {p q : ℕ} (hpq : p < q) (hq : q < completions.length)
    (hshape : (packetsOf completions)[p]?.any EndpointPacket.looksLikeHeader = true) :
    (headerAt completions p).offset < (headerAt completions q).offset := by
  have hp : p < completions.length := by omega
  have hsplit : completions.take q =
      completions.take p ++ completions[p] :: (completions.take q).drop (p + 1) := by
    have hlt : p < (completions.take q).length := by simp; omega
    have hget : (completions.take q)[p] = completions[p] := List.getElem_take
    have htake : completions.take p = (completions.take q).take p := by
      rw [List.take_take, Nat.min_eq_left hpq.le]
    rw [htake, ← hget, ← List.drop_eq_getElem_cons, List.take_append_drop]
  rw [getElem?_packetsOf, List.getElem?_eq_getElem hp] at hshape
  obtain ⟨hend, hlength, -⟩ := EndpointPacket.looksLikeHeader_iff.mp hshape
  have hbytes : completions[p].bytesOn .video = completions[p].payload := if_pos hend
  have hpos : 8 ≤ completions[p].payload.length := hlength
  rw [headerAt, headerAt, hsplit]
  simp only [payloadFile, List.flatMap_append, List.flatMap_cons, List.length_append, hbytes]
  omega

/-- The offsets of the headers increase. -/
theorem offsets_increasing (completions : List IsoCompletion) :
    ((acceptedHeaders (packetsOf completions)).map (headerAt completions)).Pairwise
      fun header other => header.offset < other.offset := by
  rw [List.pairwise_map]
  refine (acceptedHeaders_sorted (packetsOf completions)).imp_of_mem ?_
  intro p q hp hq hpq
  refine offset_lt hpq ?_ ((mem_acceptedHeaders _ p).mp hp).1
  simpa [packetsOf] using acceptedHeaders_lt hq

theorem loadHeaderOffsets_recording (hannounced : HeadersAnnounced (packetsOf completions)) :
    loadHeaderOffsets (recording completions).ep82 (recording completions).rows =
      if acceptedHeaders (packetsOf completions) = [] then .error .noHeaders
      else .ok ((acceptedHeaders (packetsOf completions)).map (headerAt completions)) := by
  have hcollect : collectHeaders (recording completions).ep82 1 (recording completions).rows =
      .ok ((acceptedHeaders (packetsOf completions)).map (headerAt completions)) :=
    collectHeaders_rows hannounced (List.append_nil _).symm
  have hincreasing := offsets_increasing completions
  have hsorted : ((acceptedHeaders (packetsOf completions)).map (headerAt completions)).mergeSort
      (fun header other => decide (header.offset ≤ other.offset)) =
        (acceptedHeaders (packetsOf completions)).map (headerAt completions) :=
    List.mergeSort_of_pairwise (hincreasing.imp fun h => by simpa using h.le)
  have hnodup : (((acceptedHeaders (packetsOf completions)).map (headerAt completions)).map
      SonyHeader.offset).Nodup := by
    rw [List.Nodup, List.pairwise_map]
    exact hincreasing.imp fun h => h.ne
  rw [loadHeaderOffsets, hcollect]
  simp only [bind, Except.bind, hsorted, List.map_eq_nil_iff]
  by_cases hnil : acceptedHeaders (packetsOf completions) = []
  · simp [hnil, throw, throwThe, MonadExceptOf.throw]
  · simp only [if_neg hnil, not_not.mpr hnodup, if_false]
    rfl

/-- The recording is split at the accepted headers. -/
theorem split_recording (hannounced : HeadersAnnounced (packetsOf completions)) :
    split (recording completions) =
      if acceptedHeaders (packetsOf completions) = [] then .error .noHeaders
      else .ok (splitRecords (payloadFile .video completions) 1
        ((acceptedHeaders (packetsOf completions)).map (headerAt completions))) := by
  rw [split, loadHeaderOffsets_recording hannounced]
  split <;> rfl

/-- The bytes between two headers. -/
def recordSlice (ep82 : List UInt8) (header next : SonyHeader) : List UInt8 :=
  (ep82.take next.offset).drop header.offset

/-- The outcome of the bytes between two headers. -/
def sliceOutcome (ep82 : List UInt8) (header next : SonyHeader) : RecordOutcome WrapError :=
  (wrapRecord (recordSlice ep82 header next) jpegHeader).map fun jpeg =>
    (jpeg, header.timestampMs, some (((next.timestampMs : ℤ) - header.timestampMs) % 2048).toNat)

/-- The bounded records are those between neighbouring headers. -/
theorem map_bounded {β : Type} (view : SonyRecord → β) (slice : SonyHeader → SonyHeader → β)
    {ep82 : List UInt8} (hview : ∀ index header next rest,
      (splitRecords ep82 index (header :: next :: rest)).head?.map view = some (slice header next))
    (index : ℕ) (headers : List SonyHeader) :
    ((splitRecords ep82 index headers).filter SonyRecord.boundedByNextHeader).map view =
      List.zipWith slice headers headers.tail := by
  induction headers generalizing index with
  | nil => rfl
  | cons header rest ih =>
    cases rest with
    | nil => rfl
    | cons next rest =>
      have hhead := hview index header next rest
      have hrest := ih (index + 1)
      rw [splitRecords, List.head?_cons, Option.map_some, Option.some_inj] at hhead
      rw [splitRecords]
      simp only [List.head?_cons, Option.isSome_some, List.filter_cons_of_pos, List.map_cons,
        List.tail_cons, List.zipWith_cons_cons, hrest, List.cons.injEq, and_true]
      exact hhead

theorem wrapRecord_eq (record header : List UInt8) :
    wrapRecord record header =
      if record.length < 9 ∨ record.take 6 ≠ List.replicate 6 0xff then .error .noSonyHeader
      else if trimPadding (record.drop 8) = [] then .error .noEntropy
      else .ok (header ++ Stuffing.stuff 0xff 0x00 (trimPadding (record.drop 8)) ++ [0xff, 0xd9]) :=
  rfl

section Wrapping

variable {record : List UInt8}

/-- Wrapping a record with its header is reconstructing its entropy, up to the
names of the errors. -/
theorem wrapRecord_mapError (hlength : 8 ≤ record.length)
    (hheader : record.take 6 = List.replicate 6 0xff) :
    (wrapRecord record jpegHeader).mapError (fun _ => .frameConversion .emptyEntropy) =
      (reconstructJpeg (record.drop 8)).mapError StreamDecodeError.frameConversion := by
  rw [wrapRecord_eq, reconstructJpeg_eq]
  by_cases hempty : trimPadding (record.drop 8) = []
  · rw [if_pos hempty, if_pos hempty]
    split <;> rfl
  · have hnine : ¬ record.length < 9 := by
      intro hlt
      refine hempty ?_
      rw [List.drop_eq_nil_of_le (by omega)]
      rfl
    rw [if_neg hempty, if_neg (not_or.mpr ⟨hnine, not_not.mpr hheader⟩), if_neg hempty]
    rfl

/-- A record that is only a header has no header for the wrapper. -/
theorem wrapRecord_noSonyHeader (hlength : 8 ≤ record.length)
    (hheader : record.take 6 = List.replicate 6 0xff) :
    wrapRecord record jpegHeader = .error .noSonyHeader ↔ record.length = 8 := by
  rw [wrapRecord_eq]
  by_cases hnine : record.length < 9
  · rw [if_pos (.inl hnine)]
    exact iff_of_true rfl (by omega)
  · rw [if_neg (not_or.mpr ⟨hnine, not_not.mpr hheader⟩)]
    refine iff_of_false ?_ (by omega)
    split <;> simp

/-- A longer one without entropy is refused for that. -/
theorem wrapRecord_noEntropy (hheader : record.take 6 = List.replicate 6 0xff) :
    wrapRecord record jpegHeader = .error .noEntropy ↔
      8 < record.length ∧ ∀ byte ∈ record.drop 8, byte = 0 := by
  rw [wrapRecord_eq, ← trimPadding_eq_nil]
  by_cases hnine : record.length < 9
  · rw [if_pos (.inl hnine)]
    exact iff_of_false (by simp) (by omega)
  · rw [if_neg (not_or.mpr ⟨hnine, not_not.mpr hheader⟩)]
    by_cases hempty : trimPadding (record.drop 8) = []
    · rw [if_pos hempty]
      exact iff_of_true rfl ⟨by omega, hempty⟩
    · rw [if_neg hempty]
      exact iff_of_false (by simp) fun h => hempty h.2

end Wrapping

theorem wrapOutcome_error {record : SonyRecord} {error : WrapError} :
    wrapOutcome record = .error error ↔ wrapRecord record.data jpegHeader = .error error := by
  rw [wrapOutcome]
  rcases wrapRecord record.data jpegHeader with other | jpeg <;> simp [Except.map]

/-- The splitter's record between two headers: the payload of the first, and
the video bytes up to the second. -/
theorem slice_eq {p q : ℕ} (hpq : p < q) (hq : q < completions.length)
    (hshape : (packetsOf completions)[p]?.any EndpointPacket.looksLikeHeader = true) :
    ∃ payload, (packetsOf completions)[p]? = some ⟨.video, payload⟩ ∧
      completions[p]?.map IsoCompletion.payload = some payload ∧
      8 ≤ payload.length ∧ payload.take 6 = List.replicate 6 0xff ∧
      ((payloadFile .video completions).take (headerAt completions q).offset).drop
          (headerAt completions p).offset =
        payload ++ (((packetsOf completions).take q).drop (p + 1)).flatMap
          EndpointPacket.videoData := by
  have hp : p < completions.length := by omega
  have hlt : p < (completions.take q).length := by simp; omega
  have hget : (completions.take q)[p] = completions[p] := List.getElem_take
  rw [getElem?_packetsOf, List.getElem?_eq_getElem hp] at hshape
  obtain ⟨hend, hlength, hff⟩ := EndpointPacket.looksLikeHeader_iff.mp hshape
  have hdrop : (completions.take q).drop p = completions[p] :: (completions.take q).drop (p + 1) := by
    rw [List.drop_eq_getElem_cons hlt, hget]
  have hpackets : packetsOf ((completions.take q).drop (p + 1)) =
      ((packetsOf completions).take q).drop (p + 1) := by
    rw [packetsOf, List.map_drop, List.map_take]
    rfl
  refine ⟨completions[p].payload, ?_, ?_, hlength, hff, ?_⟩
  · rw [getElem?_packetsOf, List.getElem?_eq_getElem hp, Option.map_some, ← hend]
    rfl
  · rw [List.getElem?_eq_getElem hp, Option.map_some]
  · rw [payloadFile_between hpq.le, hdrop, payloadFile_video, ← hpackets]
    have hbytes : completions[p].packet.videoData = completions[p].payload := if_pos hend
    rw [packetsOf, List.map_cons, List.flatMap_cons, hbytes]
    rfl

/-- The splitter's record between two headers starts with a header; the rest is
the entropy of the assembler's record. -/
theorem recordSlice_spec {i : ℕ} (hi : i + 1 < (acceptedHeaders (packetsOf completions)).length) :
    let record := recordSlice (payloadFile .video completions)
      (headerAt completions (headerPosition (packetsOf completions) i))
      (headerAt completions (headerPosition (packetsOf completions) (i + 1)))
    8 ≤ record.length ∧ record.take 6 = List.replicate 6 0xff ∧
      record.drop 8 = recordEntropy (packetsOf completions) i := by
  intro record
  have hshape := ((mem_acceptedHeaders (packetsOf completions) _).mp
    (headerPosition_mem (Nat.lt_of_succ_lt hi))).1
  have hq : headerPosition (packetsOf completions) (i + 1) < completions.length := by
    simpa [packetsOf] using headerPosition_lt hi
  obtain ⟨payload, hpacket, -, hlength, hff, hslice⟩ :=
    slice_eq (headerPosition_lt_succ hi) hq hshape
  have hdata : headerData (packetsOf completions) i = payload := by
    rw [headerData, hpacket]
    rfl
  have hrecord : record = payload ++ (((packetsOf completions).take
      (headerPosition (packetsOf completions) (i + 1))).drop
        (headerPosition (packetsOf completions) i + 1)).flatMap EndpointPacket.videoData := hslice
  rw [hrecord]
  refine ⟨?_, ?_, ?_⟩
  · rw [List.length_append]
    omega
  · rw [List.take_append_of_le_length (by omega), hff]
  · rw [recordEntropy, hdata, List.drop_append_of_le_length hlength]

theorem headerAt_timestampMs (i : ℕ) :
    (headerAt completions (headerPosition (packetsOf completions) i)).timestampMs =
      (headerTimestamp (headerData (packetsOf completions) i)).toNat := by
  rw [headerAt, headerData, getElem?_packetsOf, Option.map_map]
  rfl

/-- The splitter's record between two headers is the assembler's record. -/
theorem sliceOutcome_eq {i : ℕ} (hi : i + 1 < (acceptedHeaders (packetsOf completions)).length) :
    (sliceOutcome (payloadFile .video completions)
        (headerAt completions (headerPosition (packetsOf completions) i))
        (headerAt completions (headerPosition (packetsOf completions) (i + 1)))).mapError
          (fun _ => .frameConversion .emptyEntropy) =
      recordOutcome (packetsOf completions) i := by
  obtain ⟨hlength, hheader, hentropy⟩ := recordSlice_spec hi
  have hwrap := wrapRecord_mapError hlength hheader
  rw [hentropy] at hwrap
  rw [sliceOutcome, recordOutcome, ← hwrap, headerAt_timestampMs, headerAt_timestampMs, recordDelta]
  rcases wrapRecord _ jpegHeader with error | jpeg <;> rfl

/-- The headers of a recording and their successors. -/
theorem zipWith_headers {β : Type} (slice : SonyHeader → SonyHeader → β) :
    List.zipWith slice ((acceptedHeaders (packetsOf completions)).map (headerAt completions))
        ((acceptedHeaders (packetsOf completions)).map (headerAt completions)).tail =
      (List.range ((acceptedHeaders (packetsOf completions)).length - 1)).map fun i =>
        slice (headerAt completions (headerPosition (packetsOf completions) i))
          (headerAt completions (headerPosition (packetsOf completions) (i + 1))) := by
  refine List.ext_getElem (by simp) fun i hleft hright => ?_
  have hi : i + 1 < (acceptedHeaders (packetsOf completions)).length := by
    simp only [List.length_map, List.length_range] at hright
    omega
  simp only [List.getElem_zipWith, List.getElem_map, List.getElem_tail, List.getElem_range]
  rw [headerPosition, headerPosition, List.getD_eq_getElem _ _ hi,
    List.getD_eq_getElem _ _ (Nat.lt_of_succ_lt hi)]

/-- The offline outcomes: one for each record that a header ends, and an image
where the assembler has one. -/
theorem oracleOutcomes_recording (hannounced : HeadersAnnounced (packetsOf completions)) :
    (oracleOutcomes (recording completions)).map
        (Except.mapError fun _ => .frameConversion .emptyEntropy) =
      (List.range ((acceptedHeaders (packetsOf completions)).length - 1)).map
        (recordOutcome (packetsOf completions)) := by
  rw [oracleOutcomes, split_recording hannounced]
  by_cases hnil : acceptedHeaders (packetsOf completions) = []
  · rw [if_pos hnil, hnil]
    rfl
  · rw [if_neg hnil]
    dsimp only
    rw [map_bounded wrapOutcome (sliceOutcome _) fun _ _ _ _ => rfl, zipWith_headers, List.map_map]
    refine List.map_congr_left fun i hi => sliceOutcome_eq ?_
    have := List.mem_range.mp hi
    omega

/-- A record that is split off is refused if it is only a header, or if nothing
but padding comes after the header; the errors tell which. -/
theorem wrapOutcome_refused (hannounced : HeadersAnnounced (packetsOf completions))
    {records : List SonyRecord} (hsplit : split (recording completions) = .ok records)
    {record : SonyRecord} (hmem : record ∈ records) (hbounded : record.boundedByNextHeader = true) :
    (wrapOutcome record = .error .noSonyHeader ↔ record.data.length = 8) ∧
      (wrapOutcome record = .error .noEntropy ↔
        8 < record.data.length ∧ ∀ byte ∈ record.data.drop 8, byte = 0) := by
  rw [split_recording hannounced] at hsplit
  split_ifs at hsplit with hnil
  obtain rfl := Except.ok.inj hsplit
  have hdata := List.mem_map_of_mem (f := SonyRecord.data) (List.mem_filter.mpr ⟨hmem, hbounded⟩)
  rw [map_bounded SonyRecord.data (recordSlice _) fun _ _ _ _ => rfl, zipWith_headers] at hdata
  obtain ⟨i, hi, hslice⟩ := List.mem_map.mp hdata
  have hrange := List.mem_range.mp hi
  have hi' : i + 1 < (acceptedHeaders (packetsOf completions)).length := by omega
  obtain ⟨hlength, hheader, -⟩ := recordSlice_spec hi'
  rw [hslice] at hlength hheader
  rw [wrapOutcome_error, wrapOutcome_error]
  exact ⟨wrapRecord_noSonyHeader hlength hheader, wrapRecord_noEntropy hheader⟩

end Recording

/-- **The assembler agrees with the offline decoder.** On a capture whose
headers are all announced and whose records stay within the limit, a fresh
assembler reports, over all the packets, the images, timestamps and deltas of
the records that the tools split off and wrap, except the first; the records
that cannot be wrapped are those it reports as having no entropy. The tools say
so only of a record that has more than its header; one of exactly eight bytes
has no Sony header for them. They refuse no such capture but one without
headers. -/
theorem assembler_eq_oracle (maximum : ℕ) (completions : List IsoCompletion)
    (hannounced : HeadersAnnounced (packetsOf completions))
    (hlimit : WithinLimit maximum (packetsOf completions)) :
    assemblerOutcomes maximum (packetsOf completions) =
        ((oracleOutcomes (recording completions)).drop 1).map
          (Except.mapError fun _ => .frameConversion .emptyEntropy) ∧
      (∀ records, split (recording completions) = .ok records →
        ∀ record ∈ records, record.boundedByNextHeader = true →
          (wrapOutcome record = .error .noSonyHeader ↔ record.data.length = 8) ∧
          (wrapOutcome record = .error .noEntropy ↔
            8 < record.data.length ∧ ∀ byte ∈ record.data.drop 8, byte = 0)) ∧
      ∀ error, split (recording completions) = .error error →
        error = .noHeaders ∧ acceptedHeaders (packetsOf completions) = [] := by
  refine ⟨?_, fun records hsplit record hmem => wrapOutcome_refused hannounced hsplit hmem, ?_⟩
  · rw [assemblerOutcomes, (outputs_fresh_history hlimit).2, filterMap_history, List.map_drop,
      oracleOutcomes_recording hannounced]
    rcases (acceptedHeaders (packetsOf completions)).length with _ | _ | m
    · rfl
    · rfl
    · rw [show m + 1 + 1 - 2 = m by omega, show m + 1 + 1 - 1 = m + 1 by omega,
        List.range_succ_eq_map, List.map_cons, List.drop_one, List.tail_cons, List.map_map]
      rfl
  · intro error herror
    rw [split_recording hannounced] at herror
    split_ifs at herror with hnil
    exact ⟨(Except.error.inj herror).symm, hnil⟩

/-- A recording of four headers with a record in two packets and one without
entropy. -/
def sampleCompletions : List IsoCompletion :=
  let boundary : IsoCompletion := ⟨.boundary, 0, [0x08], 0, 0, 0⟩
  let video (payload : List UInt8) : IsoCompletion := ⟨.video, 0, payload, 0, 0, 0⟩
  let header (timestamp : UInt8) : List UInt8 := List.replicate 6 0xff ++ [0x00, timestamp]
  [video [0x07], boundary, video (header 0x64 ++ [0x01]), boundary, video (header 0x8c ++ [0x02]),
    video [0xff, 0x00], boundary, video (header 0xb4), boundary, video (header 0xdc)]

theorem assembler_eq_oracle_sample :
    assemblerOutcomes 16 (packetsOf sampleCompletions) =
      ((oracleOutcomes (recording sampleCompletions)).drop 1).map
        (Except.mapError fun _ => .frameConversion .emptyEntropy) :=
  (assembler_eq_oracle 16 sampleCompletions (by decide) (by decide)).1

/-- A record that the assembler reports as having no entropy is not always one
of which the wrapper says that. -/
theorem sampleCompletions_noSonyHeader :
    ¬ ∀ (maximum : ℕ) (completions : List IsoCompletion),
      HeadersAnnounced (packetsOf completions) → WithinLimit maximum (packetsOf completions) →
      let assembled := assemblerOutcomes maximum (packetsOf completions)
      let decoded := (oracleOutcomes (recording completions)).drop 1
      ∀ i : ℕ, assembled[i]? = some (Except.error (.frameConversion .emptyEntropy)) →
        decoded[i]? = some (Except.error .noEntropy) := by
  intro h
  have hannounced : HeadersAnnounced (packetsOf sampleCompletions) := by decide
  have hsecond := h 16 sampleCompletions hannounced (by decide) 1 (by decide +kernel)
  rw [oracleOutcomes, split_recording hannounced] at hsecond
  revert hsecond
  decide +kernel

end Handycam
