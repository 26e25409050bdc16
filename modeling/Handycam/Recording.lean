import Handycam.Stream

/-!
# Recordings

The offline format: the payloads of each endpoint appended to a file of its
own, and one metadata row for each isochronous descriptor that says where its
payload is. `extract` is the recorder of packet captures. `recording` is what
it makes of the completions of one-descriptor transfers, and `payloadFile_slice`
says that the offset of a row leads back to the payload it was written for.
-/

namespace Handycam

/-- One row of `iso-packets.jsonl`, with the keys its readers look at. -/
structure MetadataRow where
  /-- `"endpoint"` -/
  endpoint : Option String
  /-- `"length"` -/
  length : Option ℤ
  /-- `"data_offset"` -/
  dataOffset : Option ℤ
  /-- `"descriptor_status"` -/
  descriptorStatus : Option ℤ
  /-- `"packet_sequence"` -/
  packetSequence : Option ℤ
  /-- `"capture_frame"` -/
  captureFrame : Option ℤ
  /-- `"usb_frame"` -/
  usbFrame : Option ℤ
  deriving DecidableEq

/-- A recording directory. -/
structure Recording where
  /-- `iso-packets.jsonl` -/
  rows : List MetadataRow
  /-- `ep81.bin` -/
  ep81 : List UInt8
  /-- `ep82.bin` -/
  ep82 : List UInt8
  deriving DecidableEq

/-- The name of an endpoint in the metadata. -/
def Endpoint.name : Endpoint → String
  | .boundary => "0x81"
  | .video => "0x82"

namespace Recording

/-- The payload file of an endpoint. -/
def file (recording : Recording) : Endpoint → List UInt8
  | .boundary => recording.ep81
  | .video => recording.ep82

/-- Append to the payload file of an endpoint. -/
def append (recording : Recording) (bytes : List UInt8) : Endpoint → Recording
  | .boundary => { recording with ep81 := recording.ep81 ++ bytes }
  | .video => { recording with ep82 := recording.ep82 ++ bytes }

/-- A directory with empty files. -/
def empty : Recording := ⟨[], [], []⟩

end Recording

/-! ## The recorder -/

/-- One URB of a packet capture, as the recorder reads it. -/
structure UrbRow where
  /-- number of the captured packet -/
  captureFrame : ℤ
  /-- the endpoint of the URB -/
  endpoint : Endpoint
  /-- bytes transferred in all -/
  urbLength : ℕ
  /-- USB frame of the first descriptor -/
  startFrame : ℤ
  /-- number of descriptors -/
  descriptorCount : ℕ
  /-- bytes of each descriptor -/
  lengths : List ℕ
  /-- status of each descriptor -/
  statuses : List ℤ
  /-- payloads of the descriptors that have one -/
  chunks : List (List UInt8)

/-- Inconsistencies the recorder refuses. -/
inductive ExtractError where
  /-- "{lengths} ISO lengths for {count} descriptors" -/
  | lengthCount (frame : ℤ) (lengths count : ℕ)
  /-- "{statuses} ISO statuses for {count} descriptors" -/
  | statusCount (frame : ℤ) (statuses count : ℕ)
  /-- "{chunks} data chunks for {nonempty} nonempty descriptors" -/
  | chunkCount (frame : ℤ) (chunks nonempty : ℕ)
  /-- "ISO lengths sum to {sum}, URB length is {length}" -/
  | lengthSum (frame : ℤ) (sum length : ℕ)
  /-- "declared {declared} bytes, decoded {decoded}" -/
  | chunkLength (frame : ℤ) (descriptor declared decoded : ℕ)
  deriving DecidableEq

/-- Write the metadata row of a descriptor. -/
def writeRow (recording : Recording) (urb : UrbRow) (index length : ℕ) (status : ℤ)
    (dataOffset : Option ℕ) : Recording :=
  { recording with
    rows := recording.rows ++
      [{ endpoint := some urb.endpoint.name
         length := some length
         dataOffset := dataOffset.map Int.ofNat
         descriptorStatus := some status
         packetSequence := none
         captureFrame := some urb.captureFrame
         usbFrame := some ((urb.startFrame + index) % 2048) }] }

/-- The descriptors of a URB, from the one with index `index` on. -/
def extractDescriptors (urb : UrbRow) (recording : Recording) (index : ℕ) :
    List (ℕ × ℤ) → List (List UInt8) → Except ExtractError Recording
  | [], _ => .ok recording
  | (0, status) :: rest, chunks =>
    extractDescriptors urb (writeRow recording urb index 0 status none) (index + 1) rest chunks
  | (length + 1, _) :: _, [] => .error (.chunkLength urb.captureFrame index (length + 1) 0)
  | (length + 1, status) :: rest, chunk :: chunks =>
    if chunk.length ≠ length + 1 then
      .error (.chunkLength urb.captureFrame index (length + 1) chunk.length)
    else
      let dataOffset := (recording.file urb.endpoint).length
      extractDescriptors urb
        (writeRow (recording.append chunk urb.endpoint) urb index (length + 1) status
          (some dataOffset)) (index + 1) rest chunks

/-- One URB: its lists have to fit together. -/
def extractUrb (recording : Recording) (urb : UrbRow) : Except ExtractError Recording :=
  if urb.lengths.length ≠ urb.descriptorCount then
    .error (.lengthCount urb.captureFrame urb.lengths.length urb.descriptorCount)
  else if urb.statuses.length ≠ urb.descriptorCount then
    .error (.statusCount urb.captureFrame urb.statuses.length urb.descriptorCount)
  else if urb.chunks.length ≠ (urb.lengths.filter (· ≠ 0)).length then
    .error (.chunkCount urb.captureFrame urb.chunks.length (urb.lengths.filter (· ≠ 0)).length)
  else if urb.lengths.sum ≠ urb.urbLength then
    .error (.lengthSum urb.captureFrame urb.lengths.sum urb.urbLength)
  else
    extractDescriptors urb recording 0 (urb.lengths.zip urb.statuses) urb.chunks

/-- Record a packet capture. -/
def extract (urbs : List UrbRow) : Except ExtractError Recording :=
  urbs.foldlM extractUrb .empty

/-! ## Recordings of completions -/

/-- The completion of an isochronous transfer with one descriptor. -/
structure IsoCompletion where
  /-- the endpoint of the transfer -/
  endpoint : Endpoint
  /-- the status of its descriptor, zero on success -/
  status : ℤ
  /-- the bytes received, possibly none -/
  payload : List UInt8
  /-- number of the packet in a capture -/
  captureFrame : ℤ
  /-- USB frame of the descriptor -/
  startFrame : ℤ
  /-- host time of the completion -/
  receivedAt : ℕ
  deriving DecidableEq

namespace IsoCompletion

/-- The URB that a packet capture has of a completion. -/
def urb (completion : IsoCompletion) : UrbRow where
  captureFrame := completion.captureFrame
  endpoint := completion.endpoint
  urbLength := completion.payload.length
  startFrame := completion.startFrame
  descriptorCount := 1
  lengths := [completion.payload.length]
  statuses := [completion.status]
  chunks := if completion.payload = [] then [] else [completion.payload]

/-- The packet of a completion. -/
def packet (completion : IsoCompletion) : EndpointPacket where
  endpoint := completion.endpoint
  data := completion.payload

/-- The bytes a completion adds to the file of an endpoint. -/
def bytesOn (endpoint : Endpoint) (completion : IsoCompletion) : List UInt8 :=
  if completion.endpoint = endpoint then completion.payload else []

/-- The row of a completion whose payload starts at `offset`. -/
def row (completion : IsoCompletion) (offset : ℕ) : MetadataRow where
  endpoint := some completion.endpoint.name
  length := some completion.payload.length
  dataOffset := if completion.payload = [] then none else some offset
  descriptorStatus := some completion.status
  packetSequence := none
  captureFrame := some completion.captureFrame
  usbFrame := some (completion.startFrame % 2048)

end IsoCompletion

/-- The payload file of an endpoint after some completions. -/
def payloadFile (endpoint : Endpoint) (completions : List IsoCompletion) : List UInt8 :=
  completions.flatMap (IsoCompletion.bytesOn endpoint)

/-- The rows of completions that come after others. -/
def rowsFrom : List IsoCompletion → List IsoCompletion → List MetadataRow
  | _, [] => []
  | past, completion :: rest =>
    completion.row (payloadFile completion.endpoint past).length ::
      rowsFrom (past ++ [completion]) rest

/-- The recording of some completions. -/
def recording (completions : List IsoCompletion) : Recording where
  rows := rowsFrom [] completions
  ep81 := payloadFile .boundary completions
  ep82 := payloadFile .video completions

theorem rowsFrom_concat (past completions : List IsoCompletion) (completion : IsoCompletion) :
    rowsFrom past (completions ++ [completion]) =
      rowsFrom past completions ++
        [completion.row (payloadFile completion.endpoint (past ++ completions)).length] := by
  induction completions generalizing past with
  | nil => simp [rowsFrom]
  | cons first rest ih => simp [rowsFrom, ih]

theorem payloadFile_concat (endpoint : Endpoint) (completions : List IsoCompletion)
    (completion : IsoCompletion) :
    payloadFile endpoint (completions ++ [completion]) =
      payloadFile endpoint completions ++ completion.bytesOn endpoint := by
  simp [payloadFile]

theorem recording_file (completions : List IsoCompletion) (endpoint : Endpoint) :
    (recording completions).file endpoint = payloadFile endpoint completions := by
  cases endpoint <;> rfl

/-- One more completion is one more row, and its payload at the end of its file. -/
theorem recording_concat (completions : List IsoCompletion) (completion : IsoCompletion) :
    recording (completions ++ [completion]) =
      { (recording completions).append completion.payload completion.endpoint with
        rows := (recording completions).rows ++
          [completion.row (payloadFile completion.endpoint completions).length] } := by
  rcases h : completion.endpoint with _ | _ <;>
    simp [recording, Recording.append, rowsFrom_concat, payloadFile_concat,
      IsoCompletion.bytesOn, h]

/-- The recorder takes the URB of a completion and records it. -/
theorem extractUrb_recording (completions : List IsoCompletion) (completion : IsoCompletion) :
    extractUrb (recording completions) completion.urb =
      .ok (recording (completions ++ [completion])) := by
  rw [recording_concat]
  rcases hpayload : completion.payload with _ | ⟨byte, rest⟩
  · rcases hend : completion.endpoint with _ | _ <;>
      simp [extractUrb, extractDescriptors, writeRow, IsoCompletion.urb, IsoCompletion.row,
        Recording.append, hpayload, hend]
  · rcases hend : completion.endpoint with _ | _ <;>
      simp [extractUrb, extractDescriptors, writeRow, IsoCompletion.urb, IsoCompletion.row,
        Recording.append, recording_file, hpayload, hend]

/-- **The recorder refuses no completion**, and writes their recording. -/
theorem extract_urbs (completions : List IsoCompletion) :
    extract (completions.map IsoCompletion.urb) = .ok (recording completions) := by
  induction completions using List.reverseRecOn with
  | nil => rfl
  | append_singleton completions completion ih =>
    rw [extract] at ih ⊢
    rw [List.map_append, List.foldlM_append, ih]
    simp only [List.map_singleton, List.foldlM_cons, List.foldlM_nil]
    change (extractUrb (recording completions) completion.urb >>= pure) = _
    rw [bind_pure, extractUrb_recording]

/-- The payload of a completion lies where its row says. -/
theorem payloadFile_slice (past rest : List IsoCompletion) (completion : IsoCompletion) :
    (payloadFile completion.endpoint (past ++ completion :: rest)).drop
        (payloadFile completion.endpoint past).length =
      completion.payload ++ payloadFile completion.endpoint rest := by
  simp [payloadFile, IsoCompletion.bytesOn]

end Handycam
