import Mathlib.Data.List.ReduceOption
import Handycam.Recording
import Handycam.Segmentation
import Handycam.Transfer

/-!
# Live decoding and replay

`runSession` is the driver's loop over the events of a USB session, and
`replayCapture` its offline counterpart, which reads the packets back from a
recording. Both feed one frame assembler and reset it after a malformed
record. They differ in one point: a failed descriptor resets the live
assembler, while the replay takes the payload of the descriptor, if it has
one, like any other.
-/

namespace Handycam

/-! ## The live driver -/

/-- Feed a packet; a malformed record resets the assembler. -/
def feedPacket (decoder : StreamDecoder) (packet : EndpointPacket) :
    StreamDecoder × Option CompressedFrame :=
  match decoder.pushPacket packet with
  | (decoder, .ok frame) => (decoder, frame)
  | (decoder, .error _) => (decoder.reset, none)

/-- What an event does to the assembler. -/
def decodeEvent (decoder : StreamDecoder) : SessionEvent → StreamDecoder × Option CompressedFrame
  | .packet endpoint data _ => feedPacket decoder ⟨endpoint, data⟩
  | .packetError _ _ => (decoder.reset, none)
  | _ => (decoder, none)

/-- Counters of the driver; they wrap. -/
structure DriverStats where
  /-- active boundary packets -/
  boundaries : UInt64 := 0
  /-- header-shaped video packets -/
  headers : UInt64 := 0
  /-- frames given to the sink -/
  frames : UInt64 := 0
  /-- frames whose camera delta is not nominal -/
  timestampGaps : UInt64 := 0
  /-- frames dropped because the queue was full -/
  queueDrops : UInt64 := 0
  /-- malformed records -/
  protocolErrors : UInt64 := 0
  deriving DecidableEq

/-- A delta within a millisecond of 40 ms. -/
def isNominalCameraDelta (deltaMs : UInt16) : Bool := decide (39 ≤ deltaMs ∧ deltaMs ≤ 41)

/-- The answers of `try_send`. -/
inductive TrySend where
  /-- the queue took the frame -/
  | taken
  /-- the queue is full -/
  | full
  /-- the sink is gone -/
  | disconnected
  deriving DecidableEq

/-- Why the driver's loop ends by itself. -/
inductive SessionEnd where
  /-- the sink closed -/
  | sinkClosed
  /-- the session ended -/
  | disconnected (event : SessionEvent)
  deriving DecidableEq

/-- The driver within a session. -/
structure Driver where
  /-- the frame assembler -/
  decoder : StreamDecoder
  /-- the counters -/
  stats : DriverStats
  /-- the frames assembled so far -/
  assembled : List CompressedFrame
  /-- the frames the queue took -/
  queued : List CompressedFrame

/-- Count a packet by what it looks like. -/
def countPacket (stats : DriverStats) (packet : EndpointPacket) : DriverStats :=
  match packet.endpoint with
  | .boundary =>
    if isActiveBoundary packet.data then { stats with boundaries := stats.boundaries + 1 }
    else stats
  | .video => if isHeader packet.data then { stats with headers := stats.headers + 1 } else stats

/-- Offer an assembled frame to the sink. -/
def offerFrame (driver : Driver) (frame : CompressedFrame) (answer : TrySend) :
    Driver × Option SessionEnd :=
  let driver :=
    if isNominalCameraDelta frame.timestampDeltaToNextMs then driver
    else { driver with stats.timestampGaps := driver.stats.timestampGaps + 1 }
  let driver := { driver with assembled := driver.assembled ++ [frame] }
  match answer with
  | .taken =>
    ({ driver with
        stats.frames := driver.stats.frames + 1
        queued := driver.queued ++ [frame] }, none)
  | .full => ({ driver with stats.queueDrops := driver.stats.queueDrops + 1 }, none)
  | .disconnected => (driver, some .sinkClosed)

/-- One event in the driver's loop; `answer` is what `try_send` would say. -/
def handleEvent (driver : Driver) (event : SessionEvent) (answer : TrySend) :
    Driver × Option SessionEnd :=
  match event with
  | .packet endpoint data _ =>
    let driver := { driver with stats := countPacket driver.stats ⟨endpoint, data⟩ }
    match driver.decoder.pushPacket ⟨endpoint, data⟩ with
    | (decoder, .ok (some frame)) => offerFrame { driver with decoder := decoder } frame answer
    | (decoder, .ok none) => ({ driver with decoder := decoder }, none)
    | (decoder, .error _) =>
      ({ driver with
          decoder := decoder.reset
          stats.protocolErrors := driver.stats.protocolErrors + 1 }, none)
  | .packetError _ _ => ({ driver with decoder := driver.decoder.reset }, none)
  | event => (driver, if event.endsSession then some (.disconnected event) else none)

/-- The driver's loop over the events of a session, until it ends by itself. -/
def runSession : Driver → List (SessionEvent × TrySend) → Driver × Option SessionEnd
  | driver, [] => (driver, none)
  | driver, (event, answer) :: events =>
    match handleEvent driver event answer with
    | (driver, none) => runSession driver events
    | (driver, some sessionEnd) => (driver, some sessionEnd)

/-- An event decodes as `decodeEvent` says, whatever the sink answers. -/
theorem handleEvent_decode (driver : Driver) (event : SessionEvent) (answer : TrySend) :
    (handleEvent driver event answer).1.decoder = (decodeEvent driver.decoder event).1 ∧
      (handleEvent driver event answer).1.assembled =
        driver.assembled ++ (decodeEvent driver.decoder event).2.toList := by
  cases event with
  | packet endpoint data receivedAt =>
    rcases h : driver.decoder.pushPacket ⟨endpoint, data⟩ with ⟨decoder, error | _ | frame⟩
    · simp [handleEvent, decodeEvent, feedPacket, h]
    · simp [handleEvent, decodeEvent, feedPacket, h]
    · cases answer <;>
        by_cases hnominal : isNominalCameraDelta frame.timestampDeltaToNextMs <;>
        simp [handleEvent, decodeEvent, feedPacket, offerFrame, h, hnominal]
  | packetError => simp [handleEvent, decodeEvent]
  | transferFailed => simp [handleEvent, decodeEvent]
  | submitFailed => simp [handleEvent, decodeEvent]
  | callbackPanicked => simp [handleEvent, decodeEvent]

/-- The loop ends by itself only at an event that ends the session or when the
sink is gone. -/
theorem handleEvent_continues (driver : Driver) {event : SessionEvent} {answer : TrySend}
    (hevent : event.endsSession = false) (hanswer : answer ≠ .disconnected) :
    (handleEvent driver event answer).2 = none := by
  cases event with
  | packet endpoint data receivedAt =>
    rcases h : driver.decoder.pushPacket ⟨endpoint, data⟩ with ⟨decoder, error | _ | frame⟩
    · simp [handleEvent, h]
    · simp [handleEvent, h]
    · cases answer with
      | taken => simp [handleEvent, offerFrame, h]
      | full => simp [handleEvent, offerFrame, h]
      | disconnected => exact absurd rfl hanswer
  | packetError => rfl
  | transferFailed => cases hevent
  | submitFailed => cases hevent
  | callbackPanicked => cases hevent

/-- Over events that do not end the session, the driver assembles what the
decoder emits. -/
theorem runSession_assembled (driver : Driver) {events : List (SessionEvent × TrySend)}
    (hevents : ∀ event ∈ events, event.1.endsSession = false ∧ event.2 ≠ .disconnected) :
    (runSession driver events).1.assembled =
      driver.assembled ++ (Mealy.outputs decodeEvent driver.decoder
        (events.map Prod.fst)).reduceOption := by
  induction events generalizing driver with
  | nil => simp [runSession]
  | cons event events ih =>
    obtain ⟨hends, hanswer⟩ := hevents event (List.mem_cons_self ..)
    obtain ⟨hdecoder, hassembled⟩ := handleEvent_decode driver event.1 event.2
    have hnone := handleEvent_continues driver hends hanswer
    have hrest := ih (handleEvent driver event.1 event.2).1
      fun later hlater => hevents later (List.mem_cons_of_mem _ hlater)
    rw [hdecoder, hassembled] at hrest
    have hrun : runSession driver (event :: events) =
        runSession (handleEvent driver event.1 event.2).1 events := by
      rw [← Prod.eta event, runSession]
      rcases h : handleEvent driver event.1 event.2 with ⟨next, _ | sessionEnd⟩
      · rfl
      · rw [h] at hnone
        cases hnone
    rw [hrun, hrest, List.map_cons, Mealy.outputs_cons, List.append_assoc]
    rcases (decodeEvent driver.decoder event.1).2 with _ | frame <;> simp

/-! ## Replay -/

/-- Errors of the replay. -/
inductive ReplayError where
  /-- "invalid extracted-capture metadata at line {line}: {message}" -/
  | metadata (line : ℕ) (message : String)
  /-- "extracted endpoint {endpoint} range {offset}..{stop} exceeds its {length}-byte file" -/
  | range (endpoint : String) (offset stop length : ℕ)
  deriving DecidableEq

/-- A metadata value that is a `usize`. -/
def metadataUsize (value : Option ℤ) (field : String) (line : ℕ) : Except ReplayError ℕ :=
  match value with
  | some value =>
    if 0 ≤ value ∧ value.toNat < 2 ^ 64 then .ok value.toNat
    else .error (.metadata line (field ++ " is missing or is not an unsigned integer"))
  | none => .error (.metadata line (field ++ " is missing or is not an unsigned integer"))

/-- The endpoint that a name in the metadata stands for. -/
def endpointOf (name : String) : Option Endpoint :=
  if name = "0x81" then some .boundary else if name = "0x82" then some .video else none

/-- A range of an endpoint's payload file. -/
def replayRange (recording : Recording) (line : ℕ) (name : String) (endpoint : Endpoint)
    (dataOffset length : ℕ) : Except ReplayError (List UInt8) :=
  let source := recording.file endpoint
  if 2 ^ 64 ≤ dataOffset + length then .error (.metadata line "data range overflows usize")
  else if source.length < dataOffset + length then
    .error (.range name dataOffset (dataOffset + length) source.length)
  else .ok ((source.drop dataOffset).take length)

/-- The packet that a row leads to, if any. -/
def replayRow (recording : Recording) (line : ℕ) (row : MetadataRow) :
    Except ReplayError (Option EndpointPacket) :=
  match row.endpoint with
  | none => .error (.metadata line "endpoint is missing or is not a string")
  | some name =>
    match endpointOf name with
    | none => .ok none
    | some endpoint =>
      match metadataUsize row.length "length" line with
      | .error error => .error error
      | .ok 0 => .ok none
      | .ok length =>
        match metadataUsize row.dataOffset "data_offset" line with
        | .error error => .error error
        | .ok dataOffset =>
          (replayRange recording line name endpoint dataOffset length).map fun data =>
            some ⟨endpoint, data⟩

/-- The rows from line `line` on: each packet goes through the assembler. -/
def replayRows (recording : Recording) :
    StreamDecoder → ℕ → List MetadataRow → Except ReplayError (List CompressedFrame)
  | _, _, [] => .ok []
  | decoder, line, row :: rows => do
    match ← replayRow recording line row with
    | none => replayRows recording decoder (line + 1) rows
    | some packet =>
      let (decoder, frame) := feedPacket decoder packet
      let frames ← replayRows recording decoder (line + 1) rows
      return frame.toList ++ frames

/-- `run_replay_capture`: the frames of a recording. -/
def replayCapture (recording : Recording) : Except ReplayError (List CompressedFrame) :=
  replayRows recording .new 1 recording.rows

/-! ## Both on one series of completions -/

namespace IsoCompletion

/-- What libusb leaves in the transfer of a completion. -/
def completion (completion : IsoCompletion) : Completion where
  transferStatus := transferCompleted
  descriptorStatus := completion.status
  actualLength := completion.payload.length
  buffer := (completion.payload ++
    List.replicate (packetSize completion.endpoint) 0).take (packetSize completion.endpoint)
  receivedAt := completion.receivedAt

/-- The events that the callback of a completion sends. -/
def events (completion : IsoCompletion) : List SessionEvent :=
  (completionEffects completion.endpoint completion.completion).filterMap fun
    | .send event => some event
    | _ => none

/-- The descriptor failed, or reports more than fits a packet. -/
def Failed (completion : IsoCompletion) : Prop :=
  completion.status ≠ 0 ∨ packetSize completion.endpoint < completion.payload.length

instance (completion : IsoCompletion) : Decidable completion.Failed :=
  inferInstanceAs (Decidable (_ ∨ _))

/-- What the driver's assembler does with a completion. -/
def liveStep (decoder : StreamDecoder) (completion : IsoCompletion) :
    StreamDecoder × Option CompressedFrame :=
  if completion.Failed then (decoder.reset, none)
  else if completion.payload = [] then (decoder, none)
  else feedPacket decoder completion.packet

/-- What the replay's assembler does with a completion. -/
def replayStep (decoder : StreamDecoder) (completion : IsoCompletion) :
    StreamDecoder × Option CompressedFrame :=
  if completion.payload = [] then (decoder, none) else feedPacket decoder completion.packet

end IsoCompletion

/-- The driver's assembler after a series of completions. -/
def liveDecoder (completions : List IsoCompletion) : StreamDecoder :=
  Mealy.final decodeEvent .new (completions.flatMap IsoCompletion.events)

/-- A failed completion is an error event; any other with a payload is a packet. -/
theorem IsoCompletion.events_eq (completion : IsoCompletion) :
    (completion.Failed ∧ ∃ status, completion.events = [.packetError completion.endpoint status]) ∨
      (¬ completion.Failed ∧ completion.payload = [] ∧ completion.events = []) ∨
      (¬ completion.Failed ∧ completion.payload ≠ [] ∧
        completion.events =
          [.packet completion.endpoint completion.payload completion.receivedAt]) := by
  by_cases hstatus : completion.status = 0
  · by_cases hlength : packetSize completion.endpoint < completion.payload.length
    · refine .inl ⟨.inr hlength, transferOverflow, ?_⟩
      simp [events, completionEffects, IsoCompletion.completion, transferCompleted, hstatus, hlength]
    · have hfailed : ¬ completion.Failed := not_or.mpr ⟨not_not.mpr hstatus, hlength⟩
      have hbuffer : ((completion.payload ++
          List.replicate (packetSize completion.endpoint) 0).take
            (packetSize completion.endpoint)).take completion.payload.length =
              completion.payload := by
        rw [List.take_take, Nat.min_eq_left (Nat.le_of_not_lt hlength), List.take_left]
      by_cases hempty : completion.payload = []
      · refine .inr (.inl ⟨hfailed, hempty, ?_⟩)
        simp [events, completionEffects, IsoCompletion.completion, transferCompleted, hstatus, hempty]
      · refine .inr (.inr ⟨hfailed, hempty, ?_⟩)
        have hpos : 0 < completion.payload.length := List.length_pos_iff.mpr hempty
        simp [events, completionEffects, IsoCompletion.completion, transferCompleted, hstatus,
          hlength, hpos, hbuffer]
  · refine .inl ⟨.inl hstatus, completion.status, ?_⟩
    simp [events, completionEffects, IsoCompletion.completion, transferCompleted, hstatus]

/-- The driver takes a completion's events as `liveStep` takes the completion. -/
theorem outputs_events (decoder : StreamDecoder) (completions : List IsoCompletion) :
    Mealy.final decodeEvent decoder (completions.flatMap IsoCompletion.events) =
        Mealy.final IsoCompletion.liveStep decoder completions ∧
      (Mealy.outputs decodeEvent decoder
          (completions.flatMap IsoCompletion.events)).reduceOption =
        (Mealy.outputs IsoCompletion.liveStep decoder completions).reduceOption := by
  induction completions generalizing decoder with
  | nil => exact ⟨rfl, rfl⟩
  | cons completion completions ih =>
    rw [List.flatMap_cons, Mealy.final_append, Mealy.outputs_append, List.reduceOption_append,
      Mealy.final_cons, Mealy.outputs_cons]
    rcases completion.events_eq with ⟨hfailed, status, hevents⟩ | ⟨hgood, hempty, hevents⟩ |
      ⟨hgood, hne, hevents⟩
    · obtain ⟨hfinal, houts⟩ := ih decoder.reset
      simp [hevents, IsoCompletion.liveStep, hfailed, decodeEvent, hfinal, houts]
    · obtain ⟨hfinal, houts⟩ := ih decoder
      simp [hevents, IsoCompletion.liveStep, hgood, hempty, hfinal, houts]
    · obtain ⟨hfinal, houts⟩ := ih (feedPacket decoder completion.packet).1
      have hdecode : decodeEvent decoder
          (.packet completion.endpoint completion.payload completion.receivedAt) =
            feedPacket decoder completion.packet := rfl
      rcases hframe : (feedPacket decoder completion.packet).2 with _ | frame <;>
        simp [hevents, IsoCompletion.liveStep, hgood, hne, hdecode, hframe, hfinal, houts]

/-! ## The replay of a recording -/

section Replay

variable {completions past rest : List IsoCompletion} {completion : IsoCompletion}

/-- The payload files of a recording fit the address space. -/
def FitsMemory (completions : List IsoCompletion) : Prop :=
  ∀ endpoint, (payloadFile endpoint completions).length < 2 ^ 64

theorem metadataUsize_natCast {length : ℕ} (h : length < 2 ^ 64) (field : String) (line : ℕ) :
    metadataUsize (some (length : ℤ)) field line = .ok length := by
  rw [metadataUsize, if_pos ⟨by omega, by omega⟩, Int.toNat_natCast]

/-- The payload of a completion is read back from its file. -/
theorem replayRange_recording (hfits : FitsMemory (past ++ completion :: rest)) (line : ℕ)
    (name : String) :
    replayRange (recording (past ++ completion :: rest)) line name completion.endpoint
        (payloadFile completion.endpoint past).length completion.payload.length =
      .ok completion.payload := by
  have hslice := payloadFile_slice past rest completion
  have hsum : (payloadFile completion.endpoint past).length + completion.payload.length ≤
      (payloadFile completion.endpoint (past ++ completion :: rest)).length := by
    simp [payloadFile, IsoCompletion.bytesOn]
  have hsize := hfits completion.endpoint
  rw [replayRange, recording_file, if_neg (by omega), if_neg (by omega), hslice, List.take_left]

/-- A row leads back to the packet it was written for. -/
theorem replayRow_row (hfits : FitsMemory (past ++ completion :: rest)) (line : ℕ) :
    replayRow (recording (past ++ completion :: rest)) line
        (completion.row (payloadFile completion.endpoint past).length) =
      .ok (if completion.payload = [] then none else some completion.packet) := by
  have hsum : (payloadFile completion.endpoint past).length + completion.payload.length ≤
      (payloadFile completion.endpoint (past ++ completion :: rest)).length := by
    simp [payloadFile, IsoCompletion.bytesOn]
  have hsize := hfits completion.endpoint
  have hname : endpointOf completion.endpoint.name = some completion.endpoint := by
    rcases completion.endpoint with _ | _ <;> simp [endpointOf, Endpoint.name]
  have hlength : metadataUsize (completion.row (payloadFile completion.endpoint past).length).length
      "length" line = .ok completion.payload.length := metadataUsize_natCast (by omega) _ _
  have hendpoint : (completion.row (payloadFile completion.endpoint past).length).endpoint =
      some completion.endpoint.name := rfl
  rw [replayRow, hendpoint]
  simp only [hname, hlength]
  rcases hpayload : completion.payload with _ | ⟨byte, tail⟩
  · rfl
  · have hoffset : metadataUsize
        (completion.row (payloadFile completion.endpoint past).length).dataOffset
        "data_offset" line = .ok (payloadFile completion.endpoint past).length := by
      have hrow : (completion.row (payloadFile completion.endpoint past).length).dataOffset =
          some ((payloadFile completion.endpoint past).length : ℤ) := by
        simp [IsoCompletion.row, hpayload]
      rw [hrow]
      exact metadataUsize_natCast (by omega) _ _
    have hrange := replayRange_recording hfits line completion.endpoint.name
    rw [hpayload] at hrange
    simp only [List.length_cons] at hrange ⊢
    simp only [hoffset, hrange, Except.map, IsoCompletion.packet, hpayload]
    rfl

/-- **The replay of a recording** refuses no row, and feeds the completions. -/
theorem replayRows_rowsFrom (hfits : FitsMemory completions)
    (hsplit : completions = past ++ rest) (decoder : StreamDecoder) (line : ℕ) :
    replayRows (recording completions) decoder line (rowsFrom past rest) =
      .ok (Mealy.outputs IsoCompletion.replayStep decoder rest).reduceOption := by
  induction rest generalizing past decoder line with
  | nil => rfl
  | cons completion rest ih =>
    subst hsplit
    have hsplit : past ++ completion :: rest = (past ++ [completion]) ++ rest := by simp
    have hrest := ih hsplit
    rw [rowsFrom, replayRows, replayRow_row hfits]
    by_cases hempty : completion.payload = []
    · simp [hempty, hrest, IsoCompletion.replayStep, bind, Except.bind]
    · rcases hframe : (feedPacket decoder completion.packet).2 with _ | frame <;>
        simp [hempty, hrest, hframe, IsoCompletion.replayStep, bind, Except.bind, pure, Except.pure]

end Replay

/-! ## Where they agree -/

namespace StreamDecoder

/-- Nothing is announced and nothing is open. -/
def Idle (decoder : StreamDecoder) : Prop :=
  decoder.boundaryPending = false ∧ decoder.current = none

instance (decoder : StreamDecoder) : Decidable decoder.Idle := inferInstanceAs (Decidable (_ ∧ _))

/-- A reset of an idle assembler changes its numbering only. -/
theorem reset_idle {decoder : StreamDecoder} (hidle : decoder.Idle)
    (hsync : decoder.Synchronizing) : decoder.reset.unnumbered = decoder.unnumbered := by
  obtain ⟨hpending, hcurrent⟩ := hidle
  simp [reset, unnumbered, hpending, hcurrent, hsync hcurrent]

/-- An idle assembler ignores a packet that announces nothing. -/
theorem pushPacket_idle {decoder : StreamDecoder} (hidle : decoder.Idle) {packet : EndpointPacket}
    (hpacket : packet.announces = false) : decoder.pushPacket packet = (decoder, .ok none) := by
  obtain ⟨hpending, hcurrent⟩ := hidle
  rcases hend : packet.endpoint with _ | _
  · have hactive : isActiveBoundary packet.data = false := by
      simpa [EndpointPacket.announces, hend] using hpacket
    simp [pushPacket, hend, hactive]
  · rw [pushPacket_continue hend (by simp [hpending]), continueRecord, hcurrent]

/-- Idleness is not a matter of numbering. -/
theorem idle_unnumbered {decoder other : StreamDecoder}
    (h : decoder.unnumbered = other.unnumbered) : decoder.Idle ↔ other.Idle := by
  have hidle : ∀ d : StreamDecoder, d.Idle ↔ d.unnumbered.Idle := by
    intro d
    simp [Idle, unnumbered]
  rw [hidle decoder, hidle other, h]

end StreamDecoder

/-- Feeding a packet to assemblers that differ in their numbering only. -/
theorem feedPacket_unnumbered {decoder other : StreamDecoder}
    (h : decoder.unnumbered = other.unnumbered) (packet : EndpointPacket) :
    (feedPacket decoder packet).1.unnumbered = (feedPacket other packet).1.unnumbered ∧
      (feedPacket decoder packet).2.map CompressedFrame.jpeg =
        (feedPacket other packet).2.map CompressedFrame.jpeg := by
  obtain ⟨hdecoder, hresult⟩ := StreamDecoder.pushPacket_unnumbered h packet
  have hmaximum : ∀ d : StreamDecoder, d.reset.unnumbered = d.unnumbered.reset := fun _ => rfl
  rcases hd : decoder.pushPacket packet with ⟨d, error | frame⟩ <;>
    rcases ho : other.pushPacket packet with ⟨o, error' | frame'⟩ <;>
    rw [hd, ho] at hdecoder hresult
  · simp only [feedPacket, hd, ho, hmaximum]
    exact ⟨congrArg StreamDecoder.reset hdecoder, trivial⟩
  · cases hresult
  · cases hresult
  · simp only [feedPacket, hd, ho]
    exact ⟨hdecoder, Except.ok.inj hresult⟩

theorem feedPacket_synchronizing {decoder : StreamDecoder} (h : decoder.Synchronizing)
    (packet : EndpointPacket) : (feedPacket decoder packet).1.Synchronizing := by
  have hnext := StreamDecoder.pushPacket_synchronizing h packet
  rcases hd : decoder.pushPacket packet with ⟨d, error | frame⟩ <;> rw [hd] at hnext
  · simp only [feedPacket, hd]
    exact fun _ => rfl
  · simpa only [feedPacket, hd] using hnext

/-- The driver's and the replay's assembler over the same completions: alike
but for the numbering. -/
def Alike (live replay : StreamDecoder) : Prop :=
  live.unnumbered = replay.unnumbered ∧ live.Synchronizing

/-- A failed completion strikes an idle assembler, and announces nothing. -/
def FailsIdle (live : StreamDecoder) (completion : IsoCompletion) : Prop :=
  completion.Failed → live.Idle ∧ completion.packet.announces = false

instance (live : StreamDecoder) (completion : IsoCompletion) :
    Decidable (FailsIdle live completion) := inferInstanceAs (Decidable (_ → _))

/-- One completion keeps the two alike and gives the same image, unless it
fails in the middle of something. -/
theorem alike_step {live replay : StreamDecoder} {completion : IsoCompletion}
    (halike : Alike live replay) (hfails : FailsIdle live completion) :
    Alike (IsoCompletion.liveStep live completion).1
        (IsoCompletion.replayStep replay completion).1 ∧
      (IsoCompletion.liveStep live completion).2.map CompressedFrame.jpeg =
        (IsoCompletion.replayStep replay completion).2.map CompressedFrame.jpeg := by
  obtain ⟨hsame, hsync⟩ := halike
  by_cases hfailed : completion.Failed
  · obtain ⟨hidle, hannounces⟩ := hfails hfailed
    have hidle' := (StreamDecoder.idle_unnumbered hsame).mp hidle
    have hreplay : IsoCompletion.replayStep replay completion = (replay, none) := by
      rw [IsoCompletion.replayStep]
      split
      · rfl
      · rw [feedPacket, StreamDecoder.pushPacket_idle hidle' hannounces]
    rw [IsoCompletion.liveStep, if_pos hfailed, hreplay]
    refine ⟨⟨?_, fun _ => rfl⟩, rfl⟩
    rw [StreamDecoder.reset_idle hidle hsync, hsame]
  · rw [IsoCompletion.liveStep, if_neg hfailed, IsoCompletion.replayStep]
    split
    · exact ⟨⟨hsame, hsync⟩, rfl⟩
    · obtain ⟨hnext, himage⟩ := feedPacket_unnumbered hsame completion.packet
      exact ⟨⟨hnext, feedPacket_synchronizing hsync _⟩, himage⟩

/-- **Replay and driver.** The recorder takes any series of completions, and
the replay of what it writes refuses no row. The images are those that the
driver assembles, in order, when every failed completion strikes while the
driver's assembler is idle, and announces nothing itself. -/
theorem replayCapture_agrees (completions : List IsoCompletion) (hfits : FitsMemory completions) :
    ∃ recorded frames, extract (completions.map IsoCompletion.urb) = .ok recorded ∧
      replayCapture recorded = .ok frames ∧
      ((∀ past completion rest, completions = past ++ completion :: rest →
          FailsIdle (liveDecoder past) completion) →
        ∀ events : List (SessionEvent × TrySend),
          events.map Prod.fst = completions.flatMap IsoCompletion.events →
          (∀ event ∈ events, event.2 ≠ .disconnected) →
          (runSession ⟨.new, {}, [], []⟩ events).1.assembled.map CompressedFrame.jpeg =
            frames.map CompressedFrame.jpeg) := by
  refine ⟨recording completions, _, extract_urbs completions,
    replayRows_rowsFrom hfits (List.nil_append _).symm .new 1, ?_⟩
  intro hidle events hevents hanswers
  have hends : ∀ event ∈ events, event.1.endsSession = false ∧ event.2 ≠ .disconnected := by
    intro event hmem
    refine ⟨?_, hanswers event hmem⟩
    have hfst : event.1 ∈ events.map Prod.fst := List.mem_map_of_mem hmem
    rw [hevents] at hfst
    obtain ⟨completion, -, hsent⟩ := List.mem_flatMap.mp hfst
    rcases completion.events_eq with ⟨-, status, heq⟩ | ⟨-, -, heq⟩ | ⟨-, -, heq⟩ <;>
      rw [heq] at hsent
    · rw [List.mem_singleton.mp hsent]
      rfl
    · cases hsent
    · rw [List.mem_singleton.mp hsent]
      rfl
  have hstart : Alike .new .new := ⟨rfl, fun _ => rfl⟩
  have hstep : ∀ live replay completion, Alike live replay → FailsIdle live completion →
      Alike (IsoCompletion.liveStep live completion).1
          (IsoCompletion.replayStep replay completion).1 ∧
        (IsoCompletion.liveStep live completion).2.map CompressedFrame.jpeg =
          (IsoCompletion.replayStep replay completion).2.map CompressedFrame.jpeg :=
    fun _ _ _ => alike_step
  have hguard : ∀ past completion rest, completions = past ++ completion :: rest →
      FailsIdle (Mealy.final IsoCompletion.liveStep .new past) completion := by
    intro past completion rest hsplit
    rw [← (outputs_events .new past).1]
    exact hidle past completion rest hsplit
  obtain ⟨-, hsame⟩ := Mealy.outputs_simulation hstep hstart hguard
  rw [runSession_assembled _ hends, hevents, (outputs_events _ completions).2, List.nil_append,
    ← List.reduceOption_map, ← List.reduceOption_map, hsame]

/-- An active boundary packet. -/
def sampleBoundary : IsoCompletion := ⟨.boundary, 0, [0x08], 0, 0, 0⟩

/-- A header packet with one byte of entropy. -/
def sampleHeader (entropy : UInt8) : IsoCompletion :=
  ⟨.video, 0, List.replicate 6 0xff ++ [0x00, 0x28, entropy], 0, 0, 0⟩

/-- A completion that failed, and left nothing. -/
def sampleFailure : IsoCompletion := ⟨.video, 1, [], 0, 0, 0⟩

/-- A failure before the first boundary. -/
def failedEarly : List IsoCompletion :=
  [sampleFailure, sampleBoundary, sampleHeader 1, sampleBoundary, sampleHeader 2, sampleBoundary,
    sampleHeader 3]

theorem replayCapture_agrees_failedEarly :
    ∃ recorded frames, extract (failedEarly.map IsoCompletion.urb) = .ok recorded ∧
      replayCapture recorded = .ok frames ∧
      (runSession ⟨.new, {}, [], []⟩ ((failedEarly.flatMap IsoCompletion.events).map
        fun event => (event, .taken))).1.assembled.map CompressedFrame.jpeg =
          frames.map CompressedFrame.jpeg := by
  have hfits : FitsMemory failedEarly := by
    intro endpoint
    cases endpoint <;> decide
  obtain ⟨recorded, frames, hextract, hreplay, hagree⟩ := replayCapture_agrees failedEarly hfits
  refine ⟨recorded, frames, hextract, hreplay, hagree ?_ _ ?_ ?_⟩
  · intro past completion rest hsplit
    cases past with
    | nil =>
      obtain ⟨rfl, -⟩ := List.cons.inj hsplit
      decide
    | cons first past =>
      have hmem : completion ∈ failedEarly.tail := by
        rw [hsplit]
        simp
      have hgood : ∀ later ∈ failedEarly.tail, ¬ later.Failed := by decide
      exact fun hfailed => absurd hfailed (hgood completion hmem)
  · rw [List.map_map]
    exact List.map_id _
  · intro event hmem
    obtain ⟨sent, -, rfl⟩ := List.mem_map.mp hmem
    simp

/-- A failure while the second record is open. -/
def failedInRecord : List IsoCompletion :=
  [sampleBoundary, sampleHeader 1, sampleBoundary, sampleHeader 2, sampleFailure, sampleBoundary,
    sampleHeader 3, sampleBoundary, sampleHeader 4]

/-- **A failed descriptor inside a record** costs the driver that record and
the next one; the replay goes on as if nothing had been lost. -/
theorem replayCapture_disagrees :
    ∃ recorded frames, extract (failedInRecord.map IsoCompletion.urb) = .ok recorded ∧
      replayCapture recorded = .ok frames ∧
      (runSession ⟨.new, {}, [], []⟩ ((failedInRecord.flatMap IsoCompletion.events).map
        fun event => (event, .taken))).1.assembled.map CompressedFrame.jpeg ≠
          frames.map CompressedFrame.jpeg := by
  have hfits : FitsMemory failedInRecord := by
    intro endpoint
    cases endpoint <;> decide
  refine ⟨recording failedInRecord, _, extract_urbs failedInRecord,
    replayRows_rowsFrom hfits (List.nil_append _).symm .new 1, ?_⟩
  intro heq
  have hlive : (runSession ⟨.new, {}, [], []⟩ ((failedInRecord.flatMap IsoCompletion.events).map
      fun event => (event, .taken))).1.assembled.length = 0 := by decide +kernel
  have hreplay : (Mealy.outputs IsoCompletion.replayStep .new failedInRecord).reduceOption.length =
      2 := by decide +kernel
  have hlength := congrArg List.length heq
  rw [List.length_map, List.length_map, hlive, hreplay] at hlength
  cases hlength

end Handycam
