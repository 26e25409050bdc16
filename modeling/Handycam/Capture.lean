import Mathlib.Data.List.Pairwise
import Mathlib.Data.List.Sort
import Handycam.Matroska
import Handycam.Transfer

/-!
# Synchronized capture

The loop of `handycam capture`: it polls the audio worker and the USB session,
decodes the packets, orders the media events of the turn by their observed
time, places them on one timeline, and writes them to the Matroska file. After
a packet error or a malformed record the frame assembler is reset.

The state keeps a `CaptureHistory` beside what the loop has: the frames the
assembler emitted, each with the number of resets before it, and the timing
each event got. Nothing in the loop reads it.

* **the timeline** — `TimelineValid`: every timing is the one that the closed
  form of the synchronizer gives;
* **the camera clock** — `ClockValid`: it starts at zero after each reset, and
  does not go back between two resets;
* **presentation timestamps** — `capture_pts`: the video timeline goes back
  exactly when frames are emitted after a reset that came too late.
-/

namespace Handycam

/-! ## What the loop sees -/

/-- Why the loop fails. -/
inductive CaptureError where
  /-- "audio capture failed: {error}" -/
  | audioWorker (error : String)
  /-- "audio capture ended unexpectedly" -/
  | audioClosed
  /-- polling the session failed -/
  | usb (error : String)
  /-- "camera disconnected: {event:?}" -/
  | disconnected (event : SessionEvent)
  /-- the synchronizer refused an event -/
  | synchronization (error : SynchronizationError)
  /-- the file could not be written -/
  | matroska (error : MatroskaError)
  /-- "capture stopped without receiving any audio periods" -/
  | noCapturedAudio
  /-- "capture stopped without receiving any video frames" -/
  | noCapturedVideo

/-- What one turn of the loop finds. -/
structure CaptureTurn where
  /-- `stopping` at the start of the turn -/
  stopping : Bool
  /-- what the audio worker has sent -/
  audioEvents : List AudioCaptureEvent
  /-- what polling the session gives -/
  usbEvents : Except String (List SessionEvent)
  /-- `stopping` after a failed poll -/
  stoppingAfterPoll : Bool
  /-- the report is due -/
  reportDue : Bool

/-! ## The loop -/

/-- A frame the assembler emitted. -/
structure Emission where
  /-- the resets before it -/
  epoch : ℕ
  /-- the event that was made of it -/
  event : TimedVideoFrame

/-- Where the frame is on the camera clock, in milliseconds. -/
def Emission.clock (emission : Emission) : UInt64 := emission.event.frame.timestampUnwrappedMs

/-- What has happened so far. -/
structure CaptureHistory where
  /-- packets given to the assembler -/
  received : ℕ := 0
  /-- resets of the assembler -/
  resets : ℕ := 0
  /-- frames the assembler emitted -/
  emitted : List Emission := []
  /-- events the synchronizer accepted, with their timing -/
  timed : List (TimedMediaEvent × MediaTiming) := []

/-- The state of the loop. -/
structure Capture (W : Type) where
  /-- the frame assembler -/
  decoder : StreamDecoder
  /-- the timeline -/
  synchronizer : AvSynchronizer
  /-- something was lost since the last frame -/
  videoSourceDiscontinuity : Bool
  /-- frames written -/
  videoFrames : UInt64
  /-- PCM blocks written -/
  audioChunks : UInt64
  /-- largest observed drift of a frame -/
  maximumVideoDriftUs : UInt64
  /-- largest observed drift of a PCM block -/
  maximumAudioDriftUs : UInt64
  /-- the file -/
  writer : MatroskaWriter W
  /-- what has happened so far -/
  history : CaptureHistory

/-- `MonotonicTimestamp::ZERO`. -/
def MonotonicTimestamp.zero : MonotonicTimestamp := .fromMicros 0

/-- Microseconds since the origin; zero before it. -/
def monotonicTimestamp (origin observed : Instant) : MonotonicTimestamp :=
  .fromMicros (UInt64.ofNatClamp ((observed - origin) / 1000))

/-- When a frame started, if its last packet was received at `receivedAt`. -/
def observedStart (receivedAt : Instant) (deltaMs : UInt16) : Instant :=
  let frameDuration := deltaMs.toNat * 1000000
  if frameDuration ≤ receivedAt then receivedAt - frameDuration else receivedAt

/-- Shift an audio timestamp; positive values delay the audio. -/
def applyAudioDelay (timing : MediaTiming) (delayMs : Int64) : MediaTiming :=
  let magnitudeUs := (UInt64.ofNat delayMs.toInt.natAbs).saturatingMul 1000
  { timing with
    ptsUs :=
      if 0 ≤ delayMs.toInt then timing.ptsUs.saturatingAdd magnitudeUs
      else timing.ptsUs.saturatingSub magnitudeUs }

/-- The media events of the audio worker. -/
def audioBatch : List AudioCaptureEvent → Except CaptureError (List TimedMediaEvent)
  | [] => .ok []
  | .chunk chunk :: events => (audioBatch events).map (.audio chunk :: ·)
  | .failed error :: _ => .error (.audioWorker error)
  | .closed :: _ => .error .audioClosed

/-- The order of a batch. -/
def observedBefore (event other : TimedMediaEvent) : Prop :=
  event.observed.micros ≤ other.observed.micros

instance : DecidableRel observedBefore := fun _ _ => inferInstanceAs (Decidable (_ ≤ _))

namespace Capture

variable {W : Type}

/-- The state at the start of the loop. -/
def new (writer : MatroskaWriter W) : Capture W where
  decoder := .new
  synchronizer := .new .zero
  videoSourceDiscontinuity := false
  videoFrames := 0
  audioChunks := 0
  maximumVideoDriftUs := 0
  maximumAudioDriftUs := 0
  writer := writer
  history := {}

/-- Reset the assembler, and remember that something was lost. -/
def recover (capture : Capture W) : Capture W :=
  { capture with
    decoder := capture.decoder.reset
    videoSourceDiscontinuity := true
    history.resets := capture.history.resets + 1 }

/-- An emitted frame as a media event. -/
def frameEvent (capture : Capture W) (origin receivedAt : Instant) (frame : CompressedFrame) :
    TimedVideoFrame where
  observedAt := monotonicTimestamp origin (observedStart receivedAt frame.timestampDeltaToNextMs)
  frame := frame
  sourceDiscontinuity := capture.videoSourceDiscontinuity

/-- One event of the session, and the media events that come of it. -/
def handleUsbEvent (origin : Instant) (capture : Capture W) (event : SessionEvent) :
    Capture W × Except CaptureError (List TimedMediaEvent) :=
  match event with
  | .packet endpoint data receivedAt =>
    let (decoder, result) := capture.decoder.pushPacket ⟨endpoint, data⟩
    let capture := { capture with
      decoder := decoder
      history.received := capture.history.received + 1 }
    match result with
    | .ok (some frame) =>
      let event := capture.frameEvent origin receivedAt frame
      ({ capture with
          videoSourceDiscontinuity := false
          history.emitted := capture.history.emitted ++ [⟨capture.history.resets, event⟩] },
        .ok [.video event])
    | .ok none => (capture, .ok [])
    | .error _ => (capture.recover, .ok [])
  | .packetError _ _ => (capture.recover, .ok [])
  | event => (capture, if event.endsSession then .error (.disconnected event) else .ok [])

/-- The events of a poll, after the media events that are there already. -/
def handleUsbEvents (origin : Instant) :
    Capture W → List TimedMediaEvent → List SessionEvent →
      Capture W × Except CaptureError (List TimedMediaEvent)
  | capture, mediaEvents, [] => (capture, .ok mediaEvents)
  | capture, mediaEvents, event :: events =>
    match capture.handleUsbEvent origin event with
    | (capture, .ok more) => handleUsbEvents origin capture (mediaEvents ++ more) events
    | (capture, .error error) => (capture, .error error)

/-- Place an event on the timeline. -/
def time (capture : Capture W) (event : TimedMediaEvent) :
    Capture W × Except CaptureError MediaTiming :=
  match capture.synchronizer.eventTiming event with
  | (synchronizer, .ok timing) =>
    ({ capture with
        synchronizer := synchronizer
        history.timed := capture.history.timed ++ [(event, timing)] }, .ok timing)
  | (synchronizer, .error error) =>
    ({ capture with synchronizer := synchronizer }, .error (.synchronization error))

/-- Take over the writer after an operation, and the operation's error. -/
def afterWrite (capture : Capture W) (result : EStateM.Result MatroskaError (MatroskaWriter W) Unit) :
    Capture W × Option CaptureError :=
  match result with
  | .ok _ writer => ({ capture with writer := writer }, none)
  | .error error writer => ({ capture with writer := writer }, some (.matroska error))

/-- Count a written event. -/
def countWritten (event : TimedMediaEvent) (capture : Capture W) : Capture W :=
  match event with
  | .video _ => { capture with videoFrames := capture.videoFrames + 1 }
  | .audio _ => { capture with audioChunks := capture.audioChunks + 1 }

/-- Remember the drift of an event, if it is larger than before. -/
def noteDrift (event : TimedMediaEvent) (timing : MediaTiming) (capture : Capture W) : Capture W :=
  let drift := UInt64.ofNat timing.observedDriftUs.toInt.natAbs
  match event with
  | .video _ => { capture with maximumVideoDriftUs := max capture.maximumVideoDriftUs drift }
  | .audio _ => { capture with maximumAudioDriftUs := max capture.maximumAudioDriftUs drift }

/-- What the writer does with an event. -/
def mediaCall (delayMs : Int64) (timing : MediaTiming) : TimedMediaEvent → MediaCall
  | .video frame => .video frame timing
  | .audio chunk => .audio chunk (applyAudioDelay timing delayMs)

/-- Write an event. -/
def write [Write W] (delayMs : Int64) (capture : Capture W) (timing : MediaTiming)
    (event : TimedMediaEvent) : Capture W × Option CaptureError :=
  let capture := capture.noteDrift event timing
  match capture.afterWrite ((mediaCall delayMs timing event).run.run capture.writer) with
  | (capture, none) => (capture.countWritten event, none)
  | (capture, some error) => (capture, some error)

/-- Place the events of a batch on the timeline, and write them. -/
def writeBatch [Write W] (delayMs : Int64) :
    Capture W → List TimedMediaEvent → Capture W × Option CaptureError
  | capture, [] => (capture, none)
  | capture, event :: events =>
    match capture.time event with
    | (capture, .error error) => (capture, some error)
    | (capture, .ok timing) =>
      match capture.write delayMs timing event with
      | (capture, none) => writeBatch delayMs capture events
      | (capture, some error) => (capture, some error)

variable [Write W] [Seek W]

/-- Bring the file up to date, when the report is due. -/
def report (capture : Capture W) (due : Bool) : Capture W × Option CaptureError :=
  if due then capture.afterWrite (MatroskaWriter.flush.run capture.writer) else (capture, none)

/-- How the loop ends when it is asked to. -/
def stop (capture : Capture W) : Except CaptureError Unit :=
  if capture.audioChunks = 0 then .error .noCapturedAudio
  else if capture.videoFrames = 0 then .error .noCapturedVideo
  else .ok ()

/-- One turn of the loop, and how the loop ends with it, if it does. -/
def turn (origin : Instant) (delayMs : Int64) (capture : Capture W) (turn : CaptureTurn) :
    Capture W × Option (Except CaptureError Unit) :=
  if turn.stopping then (capture, some capture.stop)
  else
    match audioBatch turn.audioEvents, turn.usbEvents with
    | .error error, _ => (capture, some (.error error))
    | .ok _, .error error =>
      (capture, some (if turn.stoppingAfterPoll then .ok () else .error (.usb error)))
    | .ok audioEvents, .ok usbEvents =>
      match handleUsbEvents origin capture audioEvents usbEvents with
      | (capture, .error error) => (capture, some (.error error))
      | (capture, .ok mediaEvents) =>
        match capture.writeBatch delayMs (mediaEvents.insertionSort observedBefore) with
        | (capture, some error) => (capture, some (.error error))
        | (capture, none) =>
          match capture.report turn.reportDue with
          | (capture, some error) => (capture, some (.error error))
          | (capture, none) => (capture, none)

end Capture

/-- The loop over a series of turns, and how it ends, if it does. -/
def runCaptureSession {W : Type} [Write W] [Seek W] (origin : Instant) (delayMs : Int64) :
    Capture W → List CaptureTurn → Capture W × Option (Except CaptureError Unit)
  | capture, [] => (capture, none)
  | capture, turn :: turns =>
    match capture.turn origin delayMs turn with
    | (capture, none) => runCaptureSession origin delayMs capture turns
    | (capture, some ending) => (capture, some ending)

/-! ## Runs

What the parts of a turn preserve, a run preserves. -/

/-- A property of the state that no part of the loop breaks. -/
structure Preserved {W : Type} [Write W] [Seek W] (origin : Instant) (delayMs : Int64)
    (P : Capture W → Prop) : Prop where
  /-- an event of the session -/
  usbEvent : ∀ capture event, P capture → P (capture.handleUsbEvent origin event).1
  /-- an event placed on the timeline -/
  time : ∀ capture event, P capture → P (capture.time event).1
  /-- an event written -/
  write : ∀ capture timing event, P capture → P (capture.write delayMs timing event).1
  /-- a report -/
  report : ∀ capture due, P capture → P (capture.report due).1

section Preserved

variable {W : Type} [Write W] [Seek W] {origin : Instant} {delayMs : Int64}
  {P : Capture W → Prop} {capture : Capture W}

theorem Preserved.usbEvents (h : Preserved origin delayMs P) (hP : P capture)
    (mediaEvents : List TimedMediaEvent) (events : List SessionEvent) :
    P (Capture.handleUsbEvents origin capture mediaEvents events).1 := by
  induction events generalizing capture mediaEvents with
  | nil => exact hP
  | cons event events ih =>
    have hstep := h.usbEvent capture event hP
    rw [Capture.handleUsbEvents]
    rcases hevent : capture.handleUsbEvent origin event with ⟨next, error | more⟩
    · rw [hevent] at hstep
      exact hstep
    · rw [hevent] at hstep
      exact ih hstep _

theorem Preserved.writeBatch (h : Preserved origin delayMs P) (hP : P capture)
    (events : List TimedMediaEvent) : P (capture.writeBatch delayMs events).1 := by
  induction events generalizing capture with
  | nil => exact hP
  | cons event events ih =>
    have htimed := h.time capture event hP
    rw [Capture.writeBatch]
    rcases htime : capture.time event with ⟨next, error | timing⟩
    · rw [htime] at htimed
      exact htimed
    · rw [htime] at htimed
      have hwritten := h.write next timing event htimed
      rcases hwrite : next.write delayMs timing event with ⟨last, _ | error⟩
      · rw [hwrite] at hwritten
        simp only [hwrite]
        exact ih hwritten
      · rw [hwrite] at hwritten
        simp only [hwrite]
        exact hwritten

/-- A property of the state that no stage of a turn breaks. -/
structure PreservedByStage {W : Type} [Write W] [Seek W] (origin : Instant) (delayMs : Int64)
    (P : Capture W → Prop) : Prop where
  /-- the events of a poll -/
  usbEvents : ∀ capture mediaEvents events, P capture →
    P (Capture.handleUsbEvents origin capture mediaEvents events).1
  /-- a batch placed on the timeline and written -/
  writeBatch : ∀ capture events, P capture → P (capture.writeBatch delayMs events).1
  /-- a report -/
  report : ∀ capture due, P capture → P (capture.report due).1

theorem Preserved.byStage (h : Preserved origin delayMs P) : PreservedByStage origin delayMs P where
  usbEvents _ mediaEvents events hP := h.usbEvents hP mediaEvents events
  writeBatch _ events hP := h.writeBatch hP events
  report := h.report

theorem PreservedByStage.turn (h : PreservedByStage origin delayMs P) (hP : P capture)
    (turn : CaptureTurn) : P (capture.turn origin delayMs turn).1 := by
  rw [Capture.turn]
  split
  · exact hP
  · split
    · exact hP
    · exact hP
    · rename_i audioEvents usbEvents _ _
      have husb := h.usbEvents capture audioEvents usbEvents hP
      rcases hevents : Capture.handleUsbEvents origin capture audioEvents usbEvents
        with ⟨next, error | mediaEvents⟩
      · rw [hevents] at husb
        exact husb
      · rw [hevents] at husb
        have hbatch := h.writeBatch next (mediaEvents.insertionSort observedBefore) husb
        rcases hwrite : next.writeBatch delayMs (mediaEvents.insertionSort observedBefore)
          with ⟨last, _ | error⟩
        · rw [hwrite] at hbatch
          have hreport := h.report last turn.reportDue hbatch
          simp only [hwrite]
          rcases hlast : last.report turn.reportDue with ⟨final, _ | error⟩
          · rw [hlast] at hreport
            exact hreport
          · rw [hlast] at hreport
            exact hreport
        · rw [hwrite] at hbatch
          simp only [hwrite]
          exact hbatch

/-- **What every stage of a turn preserves, a run preserves.** -/
theorem PreservedByStage.run (h : PreservedByStage origin delayMs P) (hP : P capture)
    (turns : List CaptureTurn) : P (runCaptureSession origin delayMs capture turns).1 := by
  induction turns generalizing capture with
  | nil => exact hP
  | cons turn turns ih =>
    have hturn := h.turn hP turn
    rw [runCaptureSession]
    rcases hnext : capture.turn origin delayMs turn with ⟨next, _ | ending⟩
    · rw [hnext] at hturn
      exact ih hturn
    · rw [hnext] at hturn
      exact hturn

/-- **What every part of the loop preserves, a run preserves.** -/
theorem Preserved.run (h : Preserved origin delayMs P) (hP : P capture)
    (turns : List CaptureTurn) : P (runCaptureSession origin delayMs capture turns).1 :=
  h.byStage.run hP turns

end Preserved

/-! ## What the parts leave alone -/

namespace Capture

variable {W : Type} (origin : Instant) (delayMs : Int64) (capture : Capture W)

/-- The events of the session do not touch the timeline. -/
theorem handleUsbEvent_timeline (event : SessionEvent) :
    (capture.handleUsbEvent origin event).1.synchronizer = capture.synchronizer ∧
      (capture.handleUsbEvent origin event).1.history.timed = capture.history.timed := by
  cases event with
  | packet endpoint data receivedAt =>
    rcases h : capture.decoder.pushPacket ⟨endpoint, data⟩ with ⟨decoder, error | _ | frame⟩ <;>
      simp [handleUsbEvent, h, recover]
  | packetError => exact ⟨rfl, rfl⟩
  | transferFailed => exact ⟨rfl, rfl⟩
  | submitFailed => exact ⟨rfl, rfl⟩
  | callbackPanicked => exact ⟨rfl, rfl⟩

theorem afterWrite_frame (result : EStateM.Result MatroskaError (MatroskaWriter W) Unit) :
    (capture.afterWrite result).1.history = capture.history ∧
      (capture.afterWrite result).1.decoder = capture.decoder ∧
      (capture.afterWrite result).1.synchronizer = capture.synchronizer := by
  cases result <;> exact ⟨rfl, rfl, rfl⟩

theorem countWritten_frame (event : TimedMediaEvent) :
    (capture.countWritten event).history = capture.history ∧
      (capture.countWritten event).decoder = capture.decoder ∧
      (capture.countWritten event).synchronizer = capture.synchronizer := by
  cases event <;> exact ⟨rfl, rfl, rfl⟩

theorem noteDrift_frame (event : TimedMediaEvent) (timing : MediaTiming) :
    (capture.noteDrift event timing).history = capture.history ∧
      (capture.noteDrift event timing).decoder = capture.decoder ∧
      (capture.noteDrift event timing).synchronizer = capture.synchronizer := by
  cases event <;> exact ⟨rfl, rfl, rfl⟩

/-- Writing touches neither the history, nor what it is made from. -/
theorem write_frame [Write W] (timing : MediaTiming) (event : TimedMediaEvent) :
    (capture.write delayMs timing event).1.history = capture.history ∧
      (capture.write delayMs timing event).1.decoder = capture.decoder ∧
      (capture.write delayMs timing event).1.synchronizer = capture.synchronizer := by
  obtain ⟨hhistory, hdecoder, hsynchronizer⟩ := noteDrift_frame capture event timing
  rw [← hhistory, ← hdecoder, ← hsynchronizer, write]
  generalize capture.noteDrift event timing = noted
  have hwrite := afterWrite_frame noted
    ((mediaCall delayMs timing event).run.run noted.writer)
  rcases h : noted.afterWrite ((mediaCall delayMs timing event).run.run noted.writer)
    with ⟨next, _ | error⟩
  · have hcount := countWritten_frame next event
    rw [h] at hwrite
    exact ⟨hcount.1.trans hwrite.1, hcount.2.1.trans hwrite.2.1, hcount.2.2.trans hwrite.2.2⟩
  · rwa [h] at hwrite

/-- Neither does a report. -/
theorem report_frame [Write W] [Seek W] (due : Bool) :
    (capture.report due).1.history = capture.history ∧
      (capture.report due).1.decoder = capture.decoder ∧
      (capture.report due).1.synchronizer = capture.synchronizer := by
  cases due with
  | false => exact ⟨rfl, rfl, rfl⟩
  | true => exact afterWrite_frame capture _

/-! ## The timeline -/

variable {origin : Instant} {delayMs : Int64} {capture : Capture W}

/-- The synchronizer is where the accepted events lead, and each of them got
the timing of the closed form. -/
def TimelineValid (capture : Capture W) : Prop :=
  capture.synchronizer = timeline .zero (capture.history.timed.map Prod.fst) ∧
    ∀ past event timing later, capture.history.timed = past ++ (event, timing) :: later →
      expectedResult .zero (past.map Prod.fst) event = .ok timing

theorem accepted_zero (event : TimedMediaEvent) : event.accepted .zero = true :=
  accepted_iff.mpr (Nat.zero_le _)

/-- On a timeline that starts at zero every event is accepted. -/
theorem time_eq (h : capture.TimelineValid) (event : TimedMediaEvent) :
    ∃ timing, expectedResult .zero (capture.history.timed.map Prod.fst) event = .ok timing ∧
      capture.time event =
        ({ capture with
            synchronizer := timeline .zero (capture.history.timed.map Prod.fst ++ [event])
            history.timed := capture.history.timed ++ [(event, timing)] }, .ok timing) := by
  have hresult : (timeline .zero (capture.history.timed.map Prod.fst)).eventTiming event = _ :=
    eventTiming_timeline (capture.history.timed.map Prod.fst) event
  obtain ⟨timing, htiming⟩ : ∃ timing,
      expectedResult .zero (capture.history.timed.map Prod.fst) event = .ok timing := by
    rw [expectedResult, if_pos (accepted_zero event)]
    exact ⟨_, rfl⟩
  rw [htiming, ← h.1] at hresult
  refine ⟨timing, htiming, ?_⟩
  rw [time, hresult]

theorem time_valid (h : capture.TimelineValid) (event : TimedMediaEvent) :
    (capture.time event).1.TimelineValid := by
  obtain ⟨timing, htiming, htime⟩ := time_eq h event
  rw [htime]
  refine ⟨?_, ?_⟩
  · simp
  · intro past other otherTiming later hsplit
    rcases List.eq_nil_or_concat later with rfl | ⟨later, last, rfl⟩
    · obtain ⟨hpast, hlast⟩ := List.append_inj' hsplit rfl
      obtain ⟨rfl, rfl⟩ := Prod.mk.inj (List.singleton_inj.mp hlast)
      rw [← hpast]
      exact htiming
    · have hsplit' : capture.history.timed ++ [(event, timing)] =
          (past ++ (other, otherTiming) :: later) ++ [last] := by simpa using hsplit
      exact h.2 past other otherTiming later (List.append_inj' hsplit' rfl).1

theorem timelineValid_preserved [Write W] [Seek W] (origin : Instant) (delayMs : Int64) :
    Preserved origin delayMs (@TimelineValid W) where
  usbEvent capture event h := by
    obtain ⟨hsynchronizer, htimed⟩ := handleUsbEvent_timeline origin capture event
    rwa [TimelineValid, hsynchronizer, htimed]
  time _ event h := time_valid h event
  write capture timing event h := by
    obtain ⟨hhistory, -, hsynchronizer⟩ := write_frame delayMs capture timing event
    rwa [TimelineValid, hsynchronizer, hhistory]
  report capture due h := by
    obtain ⟨hhistory, -, hsynchronizer⟩ := report_frame capture due
    rwa [TimelineValid, hsynchronizer, hhistory]

/-- The first frame on the timeline. -/
def firstVideo (capture : Capture W) : Option TimedMediaEvent :=
  (acceptedOn .zero .video (capture.history.timed.map Prod.fst)).head?

/-- Every frame is placed from the first one. -/
theorem pts_of_timed (h : capture.TimelineValid) {event : TimedMediaEvent} {timing : MediaTiming}
    (hvideo : event.track = .video) (hmem : (event, timing) ∈ capture.history.timed) :
    ∃ first, capture.firstVideo = some first ∧
      (timing.ptsUs.toNat : ℤ) = expectedPts .zero first event := by
  obtain ⟨past, later, hsplit⟩ := List.append_of_mem hmem
  have hresult := h.2 past event timing later hsplit
  rw [expectedResult, if_pos (accepted_zero event), hvideo] at hresult
  obtain rfl := Except.ok.inj hresult
  refine ⟨(acceptedOn .zero .video (past.map Prod.fst)).headD event, ?_, ?_⟩
  · -- the first frame is the first of those before the event, or the event
    have hcons : acceptedOn .zero .video (event :: later.map Prod.fst) =
        event :: acceptedOn .zero .video (later.map Prod.fst) := by
      simp [acceptedOn, hvideo, accepted_zero]
    have happend : acceptedOn .zero .video (capture.history.timed.map Prod.fst) =
        acceptedOn .zero .video (past.map Prod.fst) ++
          acceptedOn .zero .video (event :: later.map Prod.fst) := by
      rw [hsplit, List.map_append, List.map_cons, acceptedOn, List.filter_append]
      rfl
    rw [firstVideo, happend, hcons]
    rcases acceptedOn .zero .video (past.map Prod.fst) with _ | ⟨first, rest⟩ <;> rfl
  · rw [expectedTiming, UInt64.toNat_ofNat', expectedPts]
    omega

/-- On one timeline a later camera time is no earlier presentation. -/
theorem expectedPts_mono (first : TimedMediaEvent) {event other : TimedMediaEvent}
    (h : event.positionUs.toNat ≤ other.positionUs.toNat) :
    expectedPts .zero first event ≤ expectedPts .zero first other := by
  simp only [expectedPts]
  omega

/-! ## The camera clock -/

/-- What the emitted frames say about the resets: their epochs go up, the
clock goes up within an epoch, and each epoch starts at clock zero. -/
structure EmittedValid (history : CaptureHistory) : Prop where
  /-- no frame is ahead of the resets -/
  epoch_le : ∀ emission ∈ history.emitted, emission.epoch ≤ history.resets
  /-- epochs, and the clock within an epoch, do not go back -/
  ordered : history.emitted.Pairwise fun earlier later => earlier.epoch ≤ later.epoch ∧
    (earlier.epoch = later.epoch → earlier.clock.toNat ≤ later.clock.toNat)
  /-- the first frame of an epoch has clock zero -/
  starts : ∀ emission ∈ history.emitted, ∃ first ∈ history.emitted,
    first.epoch = emission.epoch ∧ first.clock = 0

/-- What the open record says about the frames of the current epoch. -/
structure OpenValid (decoder : StreamDecoder) (history : CaptureHistory) : Prop where
  /-- with no record open the next one is dropped -/
  synchronizing : decoder.Synchronizing
  /-- while the next record is dropped, the epoch has no frame -/
  discarding : decoder.discardFirstRecord = true →
    ∀ emission ∈ history.emitted, emission.epoch < history.resets
  /-- the open record is not behind the frames of the epoch -/
  ahead : ∀ clock, decoder.discardFirstRecord = false → decoder.openClock = some clock →
    ∀ emission ∈ history.emitted, emission.epoch = history.resets →
      emission.clock.toNat ≤ clock.toNat
  /-- the first record of an epoch that is not dropped has clock zero -/
  restarts : ∀ clock, decoder.discardFirstRecord = false → decoder.openClock = some clock →
    (∀ emission ∈ history.emitted, emission.epoch < history.resets) → clock = 0
  /-- the clock advances by less than 2048 ms with a packet -/
  bounded : ∀ clock, decoder.discardFirstRecord = false → decoder.openClock = some clock →
    clock.toNat ≤ 2048 * history.received

/-- So few packets that the camera clock cannot have wrapped. -/
def Short (capture : Capture W) : Prop := capture.history.received < 2 ^ 53

/-- The camera clock behaves, unless it wrapped. -/
def ClockValid (capture : Capture W) : Prop :=
  capture.Short → EmittedValid capture.history ∧ OpenValid capture.decoder capture.history

/-- A reset starts an epoch. -/
theorem recover_open (h : EmittedValid capture.history) :
    EmittedValid capture.recover.history ∧
      OpenValid capture.recover.decoder capture.recover.history := by
  have hepoch : ∀ emission ∈ capture.history.emitted,
      emission.epoch < capture.history.resets + 1 := fun emission hmem =>
    Nat.lt_succ_of_le (h.epoch_le emission hmem)
  refine ⟨⟨fun emission hmem => Nat.le_of_lt (hepoch emission hmem), h.ordered, h.starts⟩, ?_⟩
  constructor
  · exact fun _ => rfl
  · exact fun _ => hepoch
  · rintro clock hdiscard
    cases hdiscard
  · rintro clock hdiscard
    cases hdiscard
  · rintro clock hdiscard
    cases hdiscard

section Packet

variable {decoder : StreamDecoder} {packet : EndpointPacket}

/-- A packet that gives no frame keeps the epoch as it is. -/
theorem packet_open (hopen : OpenValid capture.decoder capture.history)
    (hpush : capture.decoder.pushPacket packet = (decoder, .ok none)) :
    OpenValid decoder { capture.history with received := capture.history.received + 1 } := by
  have hsynchronizing := StreamDecoder.pushPacket_synchronizing hopen.synchronizing packet
  have hmove := StreamDecoder.pushPacket_clockMove (congrArg Prod.snd hpush)
  rw [hpush] at hsynchronizing hmove
  cases hmove with
  | stays hdiscard hclock =>
    refine ⟨hsynchronizing, ?_, ?_, ?_, ?_⟩
    · intro hnext
      exact hopen.discarding (hdiscard ▸ hnext)
    · intro clock hnext hcurrent
      exact hopen.ahead clock (hdiscard ▸ hnext) (hclock ▸ hcurrent)
    · intro clock hnext hcurrent
      exact hopen.restarts clock (hdiscard ▸ hnext) (hclock ▸ hcurrent)
    · intro clock hnext hcurrent
      have hbound := hopen.bounded clock (hdiscard ▸ hnext) (hclock ▸ hcurrent)
      simp only
      omega
  | starts hdiscard hnext hclock =>
    have hdiscarding : capture.decoder.discardFirstRecord = true := by
      rcases hdiscard with hdiscard | hnone
      · exact hdiscard
      · exact hopen.synchronizing hnone
    have hepoch := hopen.discarding hdiscarding
    refine ⟨hsynchronizing, fun _ => hepoch, ?_, ?_, ?_⟩
    · intro clock _ _ emission hmem hcurrent
      exact absurd hcurrent (Nat.ne_of_lt (hepoch emission hmem))
    · intro clock _ hcurrent _
      exact Option.some_inj.mp (hcurrent.symm.trans hclock)
    · intro clock _ hcurrent
      obtain rfl := Option.some_inj.mp (hcurrent.symm.trans hclock)
      exact Nat.zero_le _

/-- The frames of a packet go behind those before, and the open record goes
ahead of them. -/
theorem frame_open {event : TimedVideoFrame} (hemitted : EmittedValid capture.history)
    (hopen : OpenValid capture.decoder capture.history)
    (hshort : capture.history.received + 1 < 2 ^ 53)
    (hpush : capture.decoder.pushPacket packet = (decoder, .ok (some event.frame))) :
    EmittedValid { capture.history with
        received := capture.history.received + 1
        emitted := capture.history.emitted ++ [⟨capture.history.resets, event⟩] } ∧
      OpenValid decoder { capture.history with
        received := capture.history.received + 1
        emitted := capture.history.emitted ++ [⟨capture.history.resets, event⟩] } := by
  have hsynchronizing := StreamDecoder.pushPacket_synchronizing hopen.synchronizing packet
  have hmove := StreamDecoder.pushPacket_clockMove (congrArg Prod.snd hpush)
  rw [hpush] at hsynchronizing hmove
  obtain ⟨hdiscard, hkeeps, hcurrent, hclock, hdelta⟩ :
      capture.decoder.discardFirstRecord = false ∧ decoder.discardFirstRecord = false ∧
        capture.decoder.openClock = some event.frame.timestampUnwrappedMs ∧
        decoder.openClock = some (event.frame.timestampUnwrappedMs +
          event.frame.timestampDeltaToNextMs.toUInt64) ∧
        event.frame.timestampDeltaToNextMs.toNat < 2048 := by
    cases hmove with
    | advances hdiscard hkeeps hcurrent hclock hdelta =>
      exact ⟨hdiscard, hkeeps, hcurrent, hclock, hdelta⟩
  have hbound := hopen.bounded _ hdiscard hcurrent
  have hahead := hopen.ahead _ hdiscard hcurrent
  have hadvance : (event.frame.timestampUnwrappedMs +
      event.frame.timestampDeltaToNextMs.toUInt64).toNat =
        event.frame.timestampUnwrappedMs.toNat + event.frame.timestampDeltaToNextMs.toNat := by
    rw [UInt64.toNat_add, UInt16.toNat_toUInt64]
    omega
  -- the frame itself is in the current epoch
  have hlast : ∀ emission ∈ capture.history.emitted ++ [⟨capture.history.resets, event⟩],
      emission ∈ capture.history.emitted ∨ emission = ⟨capture.history.resets, event⟩ := by
    intro emission hmem
    rcases List.mem_append.mp hmem with hmem | hmem
    · exact .inl hmem
    · exact .inr (List.mem_singleton.mp hmem)
  refine ⟨⟨?_, ?_, ?_⟩, ⟨hsynchronizing, ?_, ?_, ?_, ?_⟩⟩
  · intro emission hmem
    rcases hlast emission hmem with hmem | rfl
    · exact hemitted.epoch_le emission hmem
    · exact Nat.le_refl _
  · refine List.pairwise_append.mpr ⟨hemitted.ordered, List.pairwise_singleton _ _, ?_⟩
    rintro earlier hmem later hlater
    obtain rfl := List.mem_singleton.mp hlater
    exact ⟨hemitted.epoch_le earlier hmem, hahead earlier hmem⟩
  · intro emission hmem
    rcases hlast emission hmem with hmem | rfl
    · obtain ⟨first, hfirst, hepoch, hzero⟩ := hemitted.starts emission hmem
      exact ⟨first, List.mem_append_left _ hfirst, hepoch, hzero⟩
    · by_cases hnew : ∀ emission ∈ capture.history.emitted, emission.epoch < capture.history.resets
      · exact ⟨_, hmem, rfl, hopen.restarts _ hdiscard hcurrent hnew⟩
      · obtain ⟨other, hother, hepoch⟩ : ∃ other ∈ capture.history.emitted,
            other.epoch = capture.history.resets := by
          push Not at hnew
          obtain ⟨other, hother, hge⟩ := hnew
          exact ⟨other, hother, Nat.le_antisymm (hemitted.epoch_le other hother) hge⟩
        obtain ⟨first, hfirst, hsame, hzero⟩ := hemitted.starts other hother
        exact ⟨first, List.mem_append_left _ hfirst, hsame.trans hepoch, hzero⟩
  · intro hnext
    rw [hkeeps] at hnext
    cases hnext
  · intro clock _ hnext emission hmem hepoch
    obtain rfl := Option.some_inj.mp (hnext.symm.trans hclock)
    rw [hadvance]
    rcases hlast emission hmem with hmem | rfl
    · exact (hahead emission hmem hepoch).trans (Nat.le_add_right _ _)
    · exact Nat.le_add_right _ _
  · intro clock _ _ hnew
    exact absurd (hnew _ (List.mem_append_right _ (List.mem_singleton_self _))) (Nat.lt_irrefl _)
  · intro clock _ hnext
    obtain rfl := Option.some_inj.mp (hnext.symm.trans hclock)
    rw [hadvance]
    simp only
    omega

end Packet

theorem handleUsbEvent_clock (h : capture.ClockValid) (event : SessionEvent) :
    (capture.handleUsbEvent origin event).1.ClockValid := by
  cases event with
  | packet endpoint data receivedAt =>
    rcases hpush : capture.decoder.pushPacket ⟨endpoint, data⟩ with ⟨decoder, error | _ | frame⟩ <;>
      simp only [handleUsbEvent, hpush] <;> intro hshort
    · have hbefore : capture.Short := Nat.lt_of_succ_lt hshort
      obtain ⟨hemitted, -⟩ := h hbefore
      exact recover_open ⟨hemitted.epoch_le, hemitted.ordered, hemitted.starts⟩
    · have hbefore : capture.Short := Nat.lt_of_succ_lt hshort
      obtain ⟨hemitted, hopen⟩ := h hbefore
      exact ⟨⟨hemitted.epoch_le, hemitted.ordered, hemitted.starts⟩, packet_open hopen hpush⟩
    · have hbefore : capture.Short := Nat.lt_of_succ_lt hshort
      obtain ⟨hemitted, hopen⟩ := h hbefore
      exact frame_open hemitted hopen hshort hpush
  | packetError => exact fun hshort => recover_open (h hshort).1
  | transferFailed => exact h
  | submitFailed => exact h
  | callbackPanicked => exact h

theorem clockValid_preserved [Write W] [Seek W] (origin : Instant) (delayMs : Int64) :
    Preserved origin delayMs (@ClockValid W) where
  usbEvent _ event h := handleUsbEvent_clock h event
  time capture event h := by
    rw [time]
    rcases capture.synchronizer.eventTiming event with ⟨synchronizer, error | timing⟩
    · exact h
    · exact fun hshort => ⟨⟨(h hshort).1.epoch_le, (h hshort).1.ordered, (h hshort).1.starts⟩,
        ⟨(h hshort).2.synchronizing, (h hshort).2.discarding, (h hshort).2.ahead,
          (h hshort).2.restarts, (h hshort).2.bounded⟩⟩
  write capture timing event h := by
    obtain ⟨hhistory, hdecoder, -⟩ := write_frame delayMs capture timing event
    rwa [ClockValid, Short, hhistory, hdecoder]
  report capture due h := by
    obtain ⟨hhistory, hdecoder, -⟩ := report_frame capture due
    rwa [ClockValid, Short, hhistory, hdecoder]

theorem clockValid_new (writer : MatroskaWriter W) : (new writer).ClockValid := by
  intro _
  refine ⟨⟨by simp [new], List.Pairwise.nil, by simp [new]⟩, ⟨fun _ => rfl, by simp [new], ?_, ?_, ?_⟩⟩
  · intro clock hdiscard
    cases hdiscard
  · intro clock hdiscard
    cases hdiscard
  · intro clock hdiscard
    cases hdiscard

theorem timelineValid_new (writer : MatroskaWriter W) : (new writer).TimelineValid := by
  refine ⟨rfl, ?_⟩
  intro past event timing later hsplit
  have hempty : ([] : List (TimedMediaEvent × MediaTiming)) = past ++ (event, timing) :: later :=
    hsplit
  simp at hempty

/-! ## Every frame is placed -/

/-- Every emitted frame has its place, or waits in the batch. -/
def Placed (capture : Capture W) (batch : List TimedMediaEvent) : Prop :=
  ∀ emission ∈ capture.history.emitted, TimedMediaEvent.video emission.event ∈ batch ∨
    ∃ timing, (.video emission.event, timing) ∈ capture.history.timed

theorem handleUsbEvent_placed {batch more : List TimedMediaEvent} {next : Capture W}
    {event : SessionEvent} (h : capture.Placed batch)
    (hnext : capture.handleUsbEvent origin event = (next, .ok more)) :
    next.Placed (batch ++ more) := by
  have hsame : ∀ other : Capture W, other.history.emitted = capture.history.emitted →
      other.history.timed = capture.history.timed → other.Placed (batch ++ more) := by
    intro other hemitted htimed emission hmem
    rw [hemitted] at hmem
    rw [htimed]
    exact (h emission hmem).imp_left (List.mem_append_left _)
  cases event with
  | packet endpoint data receivedAt =>
    rcases hpush : capture.decoder.pushPacket ⟨endpoint, data⟩ with ⟨decoder, error | _ | frame⟩ <;>
      simp only [handleUsbEvent, hpush] at hnext <;> obtain ⟨rfl, hmore⟩ := Prod.mk.inj hnext
    · exact hsame _ rfl rfl
    · exact hsame _ rfl rfl
    · obtain rfl := Except.ok.inj hmore
      intro emission hmem
      rcases List.mem_append.mp hmem with hmem | hmem
      · exact (h emission hmem).imp_left (List.mem_append_left _)
      · obtain rfl := List.mem_singleton.mp hmem
        exact .inl (List.mem_append_right _ (List.mem_singleton_self _))
  | packetError =>
    obtain ⟨rfl, -⟩ := Prod.mk.inj hnext
    exact hsame _ rfl rfl
  | transferFailed =>
    obtain ⟨rfl, -⟩ := Prod.mk.inj hnext
    exact hsame _ rfl rfl
  | submitFailed =>
    obtain ⟨rfl, -⟩ := Prod.mk.inj hnext
    exact hsame _ rfl rfl
  | callbackPanicked =>
    obtain ⟨rfl, -⟩ := Prod.mk.inj hnext
    exact hsame _ rfl rfl

theorem handleUsbEvents_placed {batch mediaEvents : List TimedMediaEvent} {next : Capture W}
    {events : List SessionEvent} (h : capture.Placed batch)
    (hnext : handleUsbEvents origin capture batch events = (next, .ok mediaEvents)) :
    next.Placed mediaEvents := by
  induction events generalizing capture batch with
  | nil =>
    obtain ⟨rfl, hbatch⟩ := Prod.mk.inj hnext
    obtain rfl := Except.ok.inj hbatch
    exact h
  | cons event events ih =>
    rw [handleUsbEvents] at hnext
    rcases hevent : capture.handleUsbEvent origin event with ⟨middle, error | more⟩
    · rw [hevent] at hnext
      cases hnext
    · rw [hevent] at hnext
      exact ih (handleUsbEvent_placed h hevent) hnext

theorem writeBatch_placed [Write W] {batch : List TimedMediaEvent} {next : Capture W}
    (h : capture.Placed batch) (hnext : capture.writeBatch delayMs batch = (next, none)) :
    next.Placed [] := by
  induction batch generalizing capture with
  | nil =>
    obtain ⟨rfl, -⟩ := Prod.mk.inj hnext
    exact h
  | cons event batch ih =>
    rw [writeBatch] at hnext
    rcases htiming : capture.synchronizer.eventTiming event with ⟨synchronizer, error | timing⟩
    · simp only [time, htiming] at hnext
      cases hnext
    · simp only [time, htiming] at hnext
      -- the event moves from the batch to the timed events
      have htimed : Placed { capture with
          synchronizer := synchronizer
          history.timed := capture.history.timed ++ [(event, timing)] } batch := by
        intro emission hmem
        rcases h emission hmem with hbatch | ⟨earlier, hearlier⟩
        · rcases List.mem_cons.mp hbatch with rfl | hbatch
          · exact .inr ⟨timing, List.mem_append_right _ (List.mem_singleton_self _)⟩
          · exact .inl hbatch
        · exact .inr ⟨earlier, List.mem_append_left _ hearlier⟩
      generalize hafter : ({ capture with
        synchronizer := synchronizer
        history.timed := capture.history.timed ++ [(event, timing)] } : Capture W) = after
        at hnext htimed
      have hframe := write_frame delayMs after timing event
      rcases hwrite : after.write delayMs timing event with ⟨written, _ | error⟩
      · rw [hwrite] at hnext hframe
        refine ih ?_ hnext
        rw [Placed, hframe.1]
        exact htimed
      · rw [hwrite] at hnext
        cases hnext

theorem placed_perm {batch sorted : List TimedMediaEvent} (h : capture.Placed batch)
    (hperm : sorted.Perm batch) : capture.Placed sorted := fun emission hmem =>
  (h emission hmem).imp_left hperm.mem_iff.mpr

/-- A turn after which the loop goes on, step by step. -/
theorem turn_continues [Write W] [Seek W] {next : Capture W} {turn : CaptureTurn}
    (hnext : capture.turn origin delayMs turn = (next, none)) :
    ∃ audioEvents usbEvents mediaEvents decoded written,
      handleUsbEvents origin capture audioEvents usbEvents = (decoded, .ok mediaEvents) ∧
        decoded.writeBatch delayMs (mediaEvents.insertionSort observedBefore) = (written, none) ∧
        written.report turn.reportDue = (next, none) := by
  rw [Capture.turn] at hnext
  split at hnext
  · cases hnext
  · split at hnext
    · cases hnext
    · cases hnext
    · rename_i audioEvents usbEvents _ _
      rcases hdecode : handleUsbEvents origin capture audioEvents usbEvents
        with ⟨decoded, error | mediaEvents⟩
      · rw [hdecode] at hnext
        cases hnext
      · simp only [hdecode] at hnext
        rcases hwrite : decoded.writeBatch delayMs (mediaEvents.insertionSort observedBefore)
          with ⟨written, _ | error⟩
        · simp only [hwrite] at hnext
          rcases hreport : written.report turn.reportDue with ⟨reported, _ | error⟩
          · rw [hreport] at hnext
            obtain ⟨rfl, -⟩ := Prod.mk.inj hnext
            exact ⟨_, _, _, _, _, hdecode, hwrite, hreport⟩
          · rw [hreport] at hnext
            cases hnext
        · rw [hwrite] at hnext
          cases hnext

/-- As long as the loop goes on, every emitted frame has its place. -/
theorem turn_placed [Write W] [Seek W] {next : Capture W} {turn : CaptureTurn}
    (h : capture.Placed []) (hnext : capture.turn origin delayMs turn = (next, none)) :
    next.Placed [] := by
  obtain ⟨audioEvents, usbEvents, mediaEvents, decoded, written, hdecode, hwrite, hreport⟩ :=
    turn_continues hnext
  have hbatch : capture.Placed audioEvents := fun emission hmem =>
    (h emission hmem).imp_left fun hnil => absurd hnil List.not_mem_nil
  have hsorted := placed_perm (handleUsbEvents_placed hbatch hdecode)
    (List.perm_insertionSort observedBefore mediaEvents)
  have hplaced := writeBatch_placed hsorted hwrite
  have hframe := report_frame written turn.reportDue
  rw [hreport] at hframe
  rwa [Placed, hframe.1]

theorem run_placed [Write W] [Seek W] (h : capture.Placed []) {turns : List CaptureTurn}
    (hgoes : (runCaptureSession origin delayMs capture turns).2 = none) :
    (runCaptureSession origin delayMs capture turns).1.Placed [] := by
  induction turns generalizing capture with
  | nil => exact h
  | cons turn turns ih =>
    rw [runCaptureSession] at hgoes ⊢
    rcases hnext : capture.turn origin delayMs turn with ⟨next, _ | ending⟩
    · rw [hnext] at hgoes
      exact ih (turn_placed h hnext) hgoes
    · rw [hnext] at hgoes
      cases hgoes

/-! ## Presentation timestamps -/

/-- The frames the assembler emitted got presentation timestamps that do not
go back, in the order in which it emitted them. -/
def PtsOrdered (capture : Capture W) : Prop :=
  capture.history.emitted.Pairwise fun earlier later => ∀ timing timing',
    (.video earlier.event, timing) ∈ capture.history.timed →
      (.video later.event, timing') ∈ capture.history.timed → timing.ptsUs ≤ timing'.ptsUs

/-- A reset strikes in time: once a frame past clock zero is out, no frame
follows a later reset. -/
def ResetsInTime (capture : Capture W) : Prop :=
  capture.history.emitted.Pairwise fun earlier later =>
    earlier.epoch < later.epoch → earlier.clock = 0

/-- The first frame on the timeline was observed within the range of the
timeline, and no earlier than its place on the camera clock. -/
def Anchored (capture : Capture W) : Prop :=
  ∀ first ∈ capture.firstVideo, first.positionUs ≤ first.observed.micros ∧
    first.observed.micros.toNat < 2 ^ 64 - 1

instance (capture : Capture W) : Decidable capture.ResetsInTime :=
  inferInstanceAs (Decidable (List.Pairwise _ _))

theorem positionUs_emission (emission : Emission) :
    (TimedMediaEvent.video emission.event).positionUs.toNat =
      min (emission.clock.toNat * 1000) (2 ^ 64 - 1) := by
  rw [TimedMediaEvent.positionUs, UInt64.toNat_saturatingMul]
  rfl

theorem positionUs_pos {emission : Emission} (h : emission.clock ≠ 0) :
    0 < (TimedMediaEvent.video emission.event).positionUs.toNat := by
  have hne : emission.clock.toNat ≠ 0 := fun heq => h (UInt64.toNat_inj.mp heq)
  rw [positionUs_emission]
  omega

/-- Resets that strike in time leave the video timeline in order. -/
theorem ptsOrdered_of_resetsInTime (htimeline : capture.TimelineValid)
    (hemitted : EmittedValid capture.history) (hresets : capture.ResetsInTime) :
    capture.PtsOrdered := by
  refine (hemitted.ordered.and hresets).imp ?_
  rintro earlier later ⟨⟨hepoch, hclock⟩, hreset⟩ timing timing' hmem hmem'
  obtain ⟨first, hfirst, hpts⟩ := pts_of_timed htimeline rfl hmem
  obtain ⟨first', hfirst', hpts'⟩ := pts_of_timed htimeline rfl hmem'
  obtain rfl := Option.some_inj.mp (hfirst.symm.trans hfirst')
  have hle : earlier.clock.toNat ≤ later.clock.toNat := by
    rcases Nat.lt_or_eq_of_le hepoch with hlt | heq
    · rw [hreset hlt]
      exact Nat.zero_le _
    · exact hclock heq
  have hposition : (TimedMediaEvent.video earlier.event).positionUs.toNat ≤
      (TimedMediaEvent.video later.event).positionUs.toNat := by
    rw [positionUs_emission, positionUs_emission]
    omega
  have hmono := expectedPts_mono first hposition
  rw [UInt64.le_iff_toNat_le]
  omega

/-- On an anchored timeline, a frame past clock zero is later than any frame
at clock zero. -/
theorem expectedPts_lt {first event other : TimedMediaEvent}
    (hposition : first.positionUs ≤ first.observed.micros)
    (hrange : first.observed.micros.toNat < 2 ^ 64 - 1) (hzero : event.positionUs.toNat = 0)
    (hlater : 0 < other.positionUs.toNat) :
    expectedPts .zero first event < expectedPts .zero first other := by
  have hle := UInt64.le_iff_toNat_le.mp hposition
  have helapsed : first.elapsed .zero = first.observed.micros.toNat := by
    simp [TimedMediaEvent.elapsed, MonotonicTimestamp.zero, MonotonicTimestamp.fromMicros]
  simp only [expectedPts, helapsed]
  omega

/-- Of two entries of a list one is before the other. -/
theorem rel_or_rel {α : Type*} {R : α → α → Prop} {as : List α} (h : as.Pairwise R) {a b : α}
    (ha : a ∈ as) (hb : b ∈ as) (hne : a ≠ b) : R a b ∨ R b a := by
  have hsymm : Std.Symm fun a b => R a b ∨ R b a := ⟨fun _ _ => Or.symm⟩
  have hsides : as.Pairwise fun a b => R a b ∨ R b a := h.imp Or.inl
  exact hsides.forall ha hb hne

/-- A video timeline in order has had its resets in time. -/
theorem resetsInTime_of_ptsOrdered (htimeline : capture.TimelineValid)
    (hemitted : EmittedValid capture.history) (hplaced : capture.Placed [])
    (hanchored : capture.Anchored) (hpts : capture.PtsOrdered) : capture.ResetsInTime := by
  have hplace : ∀ emission ∈ capture.history.emitted,
      ∃ timing, (.video emission.event, timing) ∈ capture.history.timed := by
    intro emission hmem
    rcases hplaced emission hmem with hnil | hplace
    · cases hnil
    · exact hplace
  have hboth := hemitted.ordered.and hpts
  refine hboth.imp_of_mem ?_
  intro earlier later hearlier hlater _ hepoch
  by_contra hclock
  -- the first frame of the later epoch is at clock zero, and behind the earlier frame
  obtain ⟨first, hfirst, hsame, hzero⟩ := hemitted.starts later hlater
  have hlt : earlier.epoch < first.epoch := hsame ▸ hepoch
  have hbehind := rel_or_rel hboth hearlier hfirst fun heq =>
    Nat.ne_of_lt hlt (congrArg Emission.epoch heq)
  rcases hbehind with ⟨-, hbehind⟩ | ⟨⟨hback, -⟩, -⟩
  · obtain ⟨timing, htiming⟩ := hplace earlier hearlier
    obtain ⟨timing', htiming'⟩ := hplace first hfirst
    have hle := UInt64.le_iff_toNat_le.mp (hbehind timing timing' htiming htiming')
    obtain ⟨anchor, hanchor, hvalue⟩ := pts_of_timed htimeline rfl htiming
    obtain ⟨anchor', hanchor', hvalue'⟩ := pts_of_timed htimeline rfl htiming'
    obtain rfl := Option.some_inj.mp (hanchor.symm.trans hanchor')
    obtain ⟨hposition, hrange⟩ := hanchored anchor hanchor
    have hpositive := positionUs_pos hclock
    have hstart : (TimedMediaEvent.video first.event).positionUs.toNat = 0 := by
      simp [positionUs_emission, hzero]
    have hless := expectedPts_lt hposition hrange hstart hpositive
    rw [← hvalue, ← hvalue'] at hless
    exact Nat.not_lt.mpr hle (Int.ofNat_lt.mp hless)
  · omega

/-- **The video timeline of a capture.** In a run too short for the camera
clock to wrap, the presentation timestamps of the emitted frames do not go
back if no frame follows a reset that came after a frame past clock zero. On
an anchored timeline they go back otherwise. -/
theorem capture_pts [Write W] [Seek W] (origin : Instant) (delayMs : Int64)
    (writer : MatroskaWriter W) (turns : List CaptureTurn)
    (hshort : (runCaptureSession origin delayMs (new writer) turns).1.Short) :
    ((runCaptureSession origin delayMs (new writer) turns).1.ResetsInTime →
      (runCaptureSession origin delayMs (new writer) turns).1.PtsOrdered) ∧
    ((runCaptureSession origin delayMs (new writer) turns).2 = none →
      (runCaptureSession origin delayMs (new writer) turns).1.Anchored →
      (runCaptureSession origin delayMs (new writer) turns).1.PtsOrdered →
      (runCaptureSession origin delayMs (new writer) turns).1.ResetsInTime) := by
  have htimeline := (timelineValid_preserved origin delayMs).run (timelineValid_new writer) turns
  have hclock := (clockValid_preserved origin delayMs).run (clockValid_new writer) turns hshort
  refine ⟨ptsOrdered_of_resetsInTime htimeline hclock.1, ?_⟩
  intro hgoes hanchored
  have hnone : (new writer).Placed [] := fun _ hmem => nomatch hmem
  exact resetsInTime_of_ptsOrdered htimeline hclock.1 (run_placed hnone hgoes) hanchored

/-- A turn of the loop with events of the session only. -/
def usbTurn (events : List SessionEvent) : CaptureTurn := ⟨false, [], .ok events, false, false⟩

/-- A boundary and a header packet, with a timestamp of the camera and the time
they are received at, both in milliseconds. -/
def recordStart (timestamp : UInt8) (receivedAtMs : ℕ) : List SessionEvent :=
  [.packet .boundary [0x08] (receivedAtMs * 1000000),
    .packet .video (List.replicate 6 0xff ++ [0x00, timestamp, 0x01]) (receivedAtMs * 1000000)]

/-- A file in memory. -/
def sampleWriter : MatroskaWriter Cursor :=
  MediaCall.freshWriter Cursor.atEnd MediaCall.sampleFormat

/-- A failed descriptor, one frame, another failed descriptor, and two frames. -/
def earlyLoss : List CaptureTurn :=
  [usbTurn [.packetError .video 1],
    usbTurn (recordStart 0 40 ++ recordStart 40 80 ++ recordStart 80 120),
    usbTurn [.packetError .video 1],
    usbTurn (recordStart 120 160 ++ recordStart 160 200 ++ recordStart 200 240 ++
      recordStart 240 280)]

theorem capture_pts_earlyLoss :
    (runCaptureSession 0 0 (new sampleWriter) earlyLoss).1.PtsOrdered := by
  have hreceived : (runCaptureSession 0 0 (new sampleWriter) earlyLoss).1.history.received = 14 := by
    decide +kernel
  have hshort : (runCaptureSession 0 0 (new sampleWriter) earlyLoss).1.Short := by
    rw [Short, hreceived]
    decide
  have hresets : (runCaptureSession 0 0 (new sampleWriter) earlyLoss).1.ResetsInTime := by
    decide +kernel
  exact (capture_pts 0 0 sampleWriter earlyLoss hshort).1 hresets

/-- Two frames, a failed descriptor, and a third frame. -/
def lateLoss : List CaptureTurn :=
  [usbTurn (recordStart 0 40 ++ recordStart 40 80 ++ recordStart 80 120 ++ recordStart 120 160),
    usbTurn [.packetError .video 1],
    usbTurn (recordStart 160 200 ++ recordStart 200 240 ++ recordStart 240 280)]

/-- When the packets of a series of turns were received. -/
def receivedTimes (turns : List CaptureTurn) : List Instant :=
  turns.flatMap fun turn => (turn.usbEvents.toOption.getD []).filterMap fun
    | .packet _ _ receivedAt => some receivedAt
    | _ => none

/-- **A failed descriptor after the second frame** takes the video timeline
back: the third frame is presented 40 ms before the second, although it was
received later. -/
theorem capture_pts_lateLoss :
    (receivedTimes lateLoss).Pairwise (· ≤ ·) ∧
      (runCaptureSession 0 0 (new sampleWriter) lateLoss).1.history.timed.map (·.2.ptsUs) =
        [80000, 120000, 80000] ∧
      ¬ (runCaptureSession 0 0 (new sampleWriter) lateLoss).1.PtsOrdered := by
  have hreceived : (runCaptureSession 0 0 (new sampleWriter) lateLoss).1.history.received = 14 := by
    decide +kernel
  have hshort : (runCaptureSession 0 0 (new sampleWriter) lateLoss).1.Short := by
    rw [Short, hreceived]
    decide
  have hgoes : (runCaptureSession 0 0 (new sampleWriter) lateLoss).2 = none :=
    Option.isNone_iff_eq_none.mp (by decide +kernel)
  have hresets : ¬ (runCaptureSession 0 0 (new sampleWriter) lateLoss).1.ResetsInTime := by
    decide +kernel
  have hfirst : (runCaptureSession 0 0 (new sampleWriter) lateLoss).1.firstVideo.map
      (fun first => (first.positionUs, first.observed.micros)) = some (0, 80000) := by
    decide +kernel
  have hanchored : (runCaptureSession 0 0 (new sampleWriter) lateLoss).1.Anchored := by
    intro first hmem
    rw [Option.mem_def.mp hmem, Option.map_some, Option.some_inj] at hfirst
    obtain ⟨hposition, hobserved⟩ := Prod.mk.inj hfirst
    rw [hposition, hobserved]
    decide +kernel
  have htimeline := (timelineValid_preserved 0 0).run (timelineValid_new sampleWriter) lateLoss
  have hclock := (clockValid_preserved 0 0).run (clockValid_new sampleWriter) lateLoss hshort
  have hnone : (new sampleWriter).Placed [] := fun _ hmem => nomatch hmem
  refine ⟨by decide, by decide +kernel, fun hpts => hresets ?_⟩
  exact resetsInTime_of_ptsOrdered htimeline hclock.1 (run_placed hnone hgoes) hanchored hpts

end Capture

end Handycam
