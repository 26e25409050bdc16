import Handycam.Alsa
import Handycam.Delay
import Handycam.Streaming

/-!
# The file of a capture

`handycam capture` runs the loop over a new Matroska file. When the loop has
ended it stops the camera and the audio thread, and brings the duration of the
file up to date.

* **the turns** — `runCaptureSession_split`: a run is some turns after which
  the loop goes on, and the one with which it ends;
* **what is kept** — `Kept`: the frames are those that an assembler of its own
  makes of the packets, and with the PCM blocks they are what is written, each
  once;
* **the file** — `runCapture_file`: what a reader finds when the command ends
  without an error;
* **the errors** — `runCapture_error`: with the blocks of the ALSA thread, only
  the devices, or a capture without frames or blocks, make it fail.
-/

namespace Handycam

/-! ## The command -/

/-- Why the command fails when its file is open. -/
inductive RunCaptureError where
  /-- the loop failed, or the file could not be brought up to date -/
  | capture (error : CaptureError)
  /-- the audio thread panicked -/
  | audioPanicked

namespace Capture

section Command

variable {W : Type} [Write W] [Seek W]

/-- What follows the loop. -/
def finish (capture : Capture W) (audioPanicked : Bool) :
    Except CaptureError Unit → Capture W × Except RunCaptureError Unit
  | .error error => (capture, .error (.capture error))
  | .ok () =>
    if audioPanicked then (capture, .error .audioPanicked)
    else
      match capture.report true with
      | (capture, none) => (capture, .ok ())
      | (capture, some error) => (capture, .error (.capture error))

/-- `run_capture` over a new file, after some turns of the loop, and its result
if it has one. The header may be refused. -/
def runCapture (origin : Instant) (delayMs : Int64) (file : W) (audioPanicked : Bool)
    (turns : List CaptureTurn) :
    Except MatroskaError (Capture W × Option (Except RunCaptureError Unit)) :=
  (MatroskaWriter.new file alsaFormat).map fun writer =>
    match runCaptureSession origin delayMs (new writer) turns with
    | (capture, none) => (capture, none)
    | (capture, some ending) => Prod.map id some (capture.finish audioPanicked ending)

/-! ## The turns of a run -/

variable {origin : Instant} {delayMs : Int64} {capture : Capture W}

/-- The loop goes on after some turns, and ends with the next one, if it ends. -/
theorem runCaptureSession_split {turns : List CaptureTurn} {last : Capture W}
    {ending : Option (Except CaptureError Unit)}
    (h : runCaptureSession origin delayMs capture turns = (last, ending)) :
    (runCaptureSession origin delayMs capture turns = (last, none) ∧ ending = none) ∨
      ∃ past turn rest middle result, turns = past ++ turn :: rest ∧ ending = some result ∧
        runCaptureSession origin delayMs capture past = (middle, none) ∧
        middle.turn origin delayMs turn = (last, some result) := by
  induction turns generalizing capture with
  | nil =>
    obtain ⟨rfl, rfl⟩ := Prod.mk.inj h
    exact .inl ⟨rfl, rfl⟩
  | cons turn turns ih =>
    rw [runCaptureSession] at h ⊢
    rcases hturn : capture.turn origin delayMs turn with ⟨next, _ | result⟩
    · rw [hturn] at h
      obtain ⟨hgoes, rfl⟩ | ⟨past, last', rest, middle, result, rfl, rfl, hpast, hlast⟩ := ih h
      · exact .inl ⟨hgoes, rfl⟩
      · refine .inr ⟨turn :: past, last', rest, middle, result, rfl, rfl, ?_, hlast⟩
        rw [runCaptureSession, hturn]
        exact hpast
    · rw [hturn] at h
      obtain ⟨rfl, rfl⟩ := Prod.mk.inj h
      exact .inr ⟨[], turn, turns, capture, result, rfl, rfl, rfl, hturn⟩

/-- What a turn does, and how the loop ends with it, if it does. -/
inductive Turned (origin : Instant) (delayMs : Int64) (capture : Capture W) (turn : CaptureTurn) :
    Capture W → Option (Except CaptureError Unit) → Prop where
  /-- the loop is asked to end -/
  | stops (hstopping : turn.stopping = true) :
    Turned origin delayMs capture turn capture (some capture.stop)
  /-- the audio thread failed, or is gone -/
  | audioFails {error : CaptureError} (haudio : audioBatch turn.audioEvents = .error error) :
    Turned origin delayMs capture turn capture (some (.error error))
  /-- the session cannot be polled -/
  | pollFails {error : String} (hpoll : turn.usbEvents = .error error) :
    Turned origin delayMs capture turn capture
      (some (if turn.stoppingAfterPoll then .ok () else .error (.usb error)))
  /-- the camera is gone -/
  | disconnects {audioEvents : List TimedMediaEvent} {usbEvents : List SessionEvent}
    {next : Capture W} {error : CaptureError} (hpoll : turn.usbEvents = .ok usbEvents)
    (hdecode : handleUsbEvents origin capture audioEvents usbEvents = (next, .error error)) :
    Turned origin delayMs capture turn next (some (.error error))
  /-- an event is not placed or not written -/
  | writeFails {audioEvents mediaEvents : List TimedMediaEvent} {usbEvents : List SessionEvent}
    {decoded next : Capture W} {error : CaptureError}
    (haudio : audioBatch turn.audioEvents = .ok audioEvents)
    (hpoll : turn.usbEvents = .ok usbEvents)
    (hdecode : handleUsbEvents origin capture audioEvents usbEvents = (decoded, .ok mediaEvents))
    (hwrite : decoded.writeBatch delayMs (mediaEvents.insertionSort observedBefore) =
      (next, some error)) :
    Turned origin delayMs capture turn next (some (.error error))
  /-- the file is not brought up to date -/
  | reportFails {audioEvents mediaEvents : List TimedMediaEvent} {usbEvents : List SessionEvent}
    {decoded written next : Capture W} {error : CaptureError}
    (haudio : audioBatch turn.audioEvents = .ok audioEvents)
    (hpoll : turn.usbEvents = .ok usbEvents)
    (hdecode : handleUsbEvents origin capture audioEvents usbEvents = (decoded, .ok mediaEvents))
    (hwrite : decoded.writeBatch delayMs (mediaEvents.insertionSort observedBefore) =
      (written, none))
    (hreport : written.report turn.reportDue = (next, some error)) :
    Turned origin delayMs capture turn next (some (.error error))
  /-- the loop goes on -/
  | goesOn {audioEvents mediaEvents : List TimedMediaEvent} {usbEvents : List SessionEvent}
    {decoded written next : Capture W}
    (haudio : audioBatch turn.audioEvents = .ok audioEvents)
    (hpoll : turn.usbEvents = .ok usbEvents)
    (hdecode : handleUsbEvents origin capture audioEvents usbEvents = (decoded, .ok mediaEvents))
    (hwrite : decoded.writeBatch delayMs (mediaEvents.insertionSort observedBefore) =
      (written, none))
    (hreport : written.report turn.reportDue = (next, none)) :
    Turned origin delayMs capture turn next none

theorem turned (origin : Instant) (delayMs : Int64) (capture : Capture W) (turn : CaptureTurn) :
    Turned origin delayMs capture turn (capture.turn origin delayMs turn).1
      (capture.turn origin delayMs turn).2 := by
  rw [Capture.turn]
  split
  · exact .stops ‹_›
  · split
    · exact .audioFails ‹_›
    · exact .pollFails ‹_›
    · rename_i audioEvents usbEvents haudio hpoll
      rcases hdecode : handleUsbEvents origin capture audioEvents usbEvents
        with ⟨decoded, error | mediaEvents⟩
      · exact .disconnects hpoll hdecode
      · rcases hwrite : decoded.writeBatch delayMs (mediaEvents.insertionSort observedBefore)
          with ⟨written, _ | error⟩
        · rcases hreport : written.report turn.reportDue with ⟨next, _ | error⟩
          · simp only [hwrite, hreport]
            exact .goesOn haudio hpoll hdecode hwrite hreport
          · simp only [hwrite, hreport]
            exact .reportFails haudio hpoll hdecode hwrite hreport
        · simp only [hwrite]
          exact .writeFails haudio hpoll hdecode hwrite

/-! ## What is kept -/

/-- The PCM blocks that some turns take from the audio thread. -/
def blocks (turns : List CaptureTurn) : List TimedAudioChunk :=
  turns.flatMap fun turn => turn.audioEvents.filterMap AudioCaptureEvent.chunk?

/-- The events that some turns take from the session. -/
def polled (turns : List CaptureTurn) : List SessionEvent :=
  turns.flatMap fun turn => turn.usbEvents.toOption.getD []

/-- The frames are those of the events, and with the blocks they are on the
timeline, or wait for it. -/
structure Kept (capture : Capture W) (pending : List TimedMediaEvent)
    (blocks : List TimedAudioChunk) (events : List SessionEvent) : Prop where
  /-- the assembler has seen the events -/
  decoder : capture.decoder = Mealy.final decodeEvent .new events
  /-- the frames that it made -/
  frames : capture.history.emitted.map (·.event.frame) = sessionFrames events
  /-- every block and every frame has its place, or waits, once -/
  timed : List.Perm (capture.history.timed.map Prod.fst ++ pending)
    (blocks.map .audio ++ capture.history.emitted.map (.video ·.event))

omit [Write W] [Seek W] in
theorem kept_new (writer : MatroskaWriter W) : (new writer).Kept [] [] [] := ⟨rfl, rfl, .refl _⟩

/-- Without an error the audio thread sent blocks only. -/
theorem audioBatch_ok {events : List AudioCaptureEvent} {audioEvents : List TimedMediaEvent}
    (h : audioBatch events = .ok audioEvents) :
    audioEvents = (events.filterMap AudioCaptureEvent.chunk?).map .audio := by
  induction events generalizing audioEvents with
  | nil => exact (Except.ok.inj h).symm
  | cons event events ih =>
    cases event with
    | chunk chunk =>
      rw [audioBatch] at h
      rcases hrest : audioBatch events with error | more
      · rw [hrest] at h
        cases h
      · rw [hrest] at h
        obtain rfl := Except.ok.inj h
        simp [AudioCaptureEvent.chunk?, ih hrest]
    | failed error => cases h
    | closed => cases h

variable {pending : List TimedMediaEvent} {taken : List TimedAudioChunk}
  {events : List SessionEvent}

omit [Write W] [Seek W] in
/-- The blocks of a turn wait first. -/
theorem Kept.takeBlocks (h : capture.Kept [] taken events) (more : List TimedAudioChunk) :
    capture.Kept (more.map .audio) (taken ++ more) events := by
  refine ⟨h.decoder, h.frames, ?_⟩
  have htimed := h.timed.append_right (more.map TimedMediaEvent.audio)
  rw [List.append_nil] at htimed
  refine htimed.trans ?_
  rw [List.map_append, List.append_assoc, List.append_assoc]
  exact .append_left _ List.perm_append_comm

omit [Write W] [Seek W] in
/-- An event that does not end the session is given to the assembler. -/
theorem Kept.usbEvent {next : Capture W} {more : List TimedMediaEvent} {event : SessionEvent}
    (h : capture.Kept pending taken events)
    (hnext : capture.handleUsbEvent origin event = (next, .ok more)) :
    next.Kept (pending ++ more) taken (events ++ [event]) := by
  have hdecoder := h.decoder
  -- nothing but the assembler changes
  have hsame : decodeEvent capture.decoder event = (next.decoder, none) →
      next.history.emitted = capture.history.emitted →
      next.history.timed = capture.history.timed → more = [] →
      next.Kept (pending ++ more) taken (events ++ [event]) := by
    rintro hdecode hemitted htimed rfl
    rw [hdecoder] at hdecode
    refine ⟨?_, ?_, ?_⟩
    · rw [Mealy.final_append, Mealy.final_cons, Mealy.final_nil, hdecode]
    · rw [sessionFrames_concat, hdecode, hemitted, h.frames]
      exact (List.append_nil _).symm
    · rw [htimed, hemitted, List.append_nil]
      exact h.timed
  cases event with
  | packet endpoint data receivedAt =>
    rcases hpush : capture.decoder.pushPacket ⟨endpoint, data⟩ with ⟨decoder, error | _ | frame⟩ <;>
      simp only [handleUsbEvent, hpush] at hnext <;> obtain ⟨rfl, hmore⟩ := Prod.mk.inj hnext <;>
      obtain rfl := Except.ok.inj hmore
    · exact hsame (by simp [decodeEvent, feedPacket, hpush, recover]) rfl rfl rfl
    · exact hsame (by simp [decodeEvent, feedPacket, hpush]) rfl rfl rfl
    · have hdecode : decodeEvent (Mealy.final decodeEvent .new events)
          (.packet endpoint data receivedAt) = (decoder, some frame) := by
        rw [← hdecoder]
        simp [decodeEvent, feedPacket, hpush]
      refine ⟨?_, ?_, ?_⟩
      · rw [Mealy.final_append, Mealy.final_cons, Mealy.final_nil, hdecode]
      · rw [sessionFrames_concat, hdecode, List.map_append, ← h.frames]
        rfl
      · rw [List.map_append, ← List.append_assoc, ← List.append_assoc]
        exact h.timed.append_right _
  | packetError =>
    obtain ⟨rfl, hmore⟩ := Prod.mk.inj hnext
    exact hsame rfl rfl rfl (Except.ok.inj hmore).symm
  | transferFailed endpoint status =>
    obtain ⟨rfl, hmore⟩ := Prod.mk.inj hnext
    split at hmore
    · cases hmore
    · exact hsame rfl rfl rfl (Except.ok.inj hmore).symm
  | submitFailed =>
    obtain ⟨rfl, hmore⟩ := Prod.mk.inj hnext
    split at hmore
    · cases hmore
    · exact hsame rfl rfl rfl (Except.ok.inj hmore).symm
  | callbackPanicked =>
    obtain ⟨rfl, hmore⟩ := Prod.mk.inj hnext
    split at hmore
    · cases hmore
    · exact hsame rfl rfl rfl (Except.ok.inj hmore).symm

omit [Write W] [Seek W] in
theorem Kept.usbEvents {next : Capture W} {mediaEvents : List TimedMediaEvent}
    {more : List SessionEvent} (h : capture.Kept pending taken events)
    (hnext : handleUsbEvents origin capture pending more = (next, .ok mediaEvents)) :
    next.Kept mediaEvents taken (events ++ more) := by
  induction more generalizing capture pending events with
  | nil =>
    obtain ⟨rfl, hpending⟩ := Prod.mk.inj hnext
    obtain rfl := Except.ok.inj hpending
    rwa [List.append_nil]
  | cons event more ih =>
    rw [handleUsbEvents] at hnext
    rcases hevent : capture.handleUsbEvent origin event with ⟨middle, error | new⟩
    · rw [hevent] at hnext
      cases hnext
    · rw [hevent] at hnext
      have hmore := ih (h.usbEvent hevent) hnext
      rwa [List.append_assoc] at hmore

omit [Write W] [Seek W] in
theorem Kept.perm {sorted : List TimedMediaEvent} (h : capture.Kept pending taken events)
    (hperm : List.Perm pending sorted) : capture.Kept sorted taken events :=
  ⟨h.decoder, h.frames, (List.Perm.append_left _ hperm.symm).trans h.timed⟩

omit [Seek W] in
/-- Every event of a batch is placed. -/
theorem Kept.writeBatch {next : Capture W} (h : capture.Kept pending taken events)
    (hnext : capture.writeBatch delayMs pending = (next, none)) : next.Kept [] taken events := by
  induction pending generalizing capture with
  | nil =>
    obtain ⟨rfl, -⟩ := Prod.mk.inj hnext
    exact h
  | cons event pending ih =>
    rw [Capture.writeBatch] at hnext
    rcases htiming : capture.synchronizer.eventTiming event with ⟨synchronizer, error | timing⟩
    · simp only [time, htiming] at hnext
      cases hnext
    · simp only [time, htiming] at hnext
      have htimed : Kept { capture with
          synchronizer := synchronizer
          history.timed := capture.history.timed ++ [(event, timing)] } pending taken events := by
        refine ⟨h.decoder, h.frames, ?_⟩
        rw [List.map_append, List.append_assoc]
        exact h.timed
      generalize ({ capture with
        synchronizer := synchronizer
        history.timed := capture.history.timed ++ [(event, timing)] } : Capture W) = after
        at hnext htimed
      obtain ⟨hhistory, hdecoder, -⟩ := write_frame delayMs after timing event
      rcases hwrite : after.write delayMs timing event with ⟨written, _ | error⟩
      · rw [hwrite] at hnext hhistory hdecoder
        refine ih ⟨?_, ?_, ?_⟩ hnext
        · exact hdecoder.trans htimed.decoder
        · rw [hhistory]
          exact htimed.frames
        · rw [hhistory]
          exact htimed.timed
      · rw [hwrite] at hnext
        cases hnext

theorem Kept.report {next : Capture W} {due : Bool} (h : capture.Kept pending taken events)
    (hnext : capture.report due = (next, none)) : next.Kept pending taken events := by
  obtain ⟨hhistory, hdecoder, -⟩ := report_frame capture due
  rw [hnext] at hhistory hdecoder
  refine ⟨hdecoder.trans h.decoder, ?_, ?_⟩
  · rw [hhistory]
    exact h.frames
  · rw [hhistory]
    exact h.timed

/-- **A turn after which the loop goes on** has placed every block and every
frame. -/
theorem Kept.turn {next : Capture W} {turn : CaptureTurn} (h : capture.Kept [] taken events)
    (hnext : capture.turn origin delayMs turn = (next, none)) :
    next.Kept [] (taken ++ blocks [turn]) (events ++ polled [turn]) := by
  have hturned := turned origin delayMs capture turn
  rw [hnext] at hturned
  cases hturned with
  | @goesOn _ _ usbEvents _ _ _ haudio hpoll hdecode hwrite hreport =>
    have hblocks : blocks [turn] = turn.audioEvents.filterMap AudioCaptureEvent.chunk? := by
      simp [blocks]
    have hevents : polled [turn] = usbEvents := by simp [polled, hpoll, Except.toOption]
    rw [hblocks, hevents]
    obtain rfl := audioBatch_ok haudio
    exact (((h.takeBlocks _).usbEvents hdecode).perm
      (List.perm_insertionSort observedBefore _).symm).writeBatch hwrite |>.report hreport

theorem Kept.run {next : Capture W} {turns : List CaptureTurn} (h : capture.Kept [] taken events)
    (hnext : runCaptureSession origin delayMs capture turns = (next, none)) :
    next.Kept [] (taken ++ blocks turns) (events ++ polled turns) := by
  induction turns generalizing capture taken events with
  | nil =>
    obtain ⟨rfl, -⟩ := Prod.mk.inj hnext
    simpa [blocks, polled] using h
  | cons turn turns ih =>
    rw [runCaptureSession] at hnext
    rcases hturn : capture.turn origin delayMs turn with ⟨middle, _ | ending⟩
    · rw [hturn] at hnext
      have hrest := ih (h.turn hturn) hnext
      have hblocks : blocks [turn] ++ blocks turns = blocks (turn :: turns) := by simp [blocks]
      have hpolled : polled [turn] ++ polled turns = polled (turn :: turns) := by simp [polled]
      rwa [List.append_assoc, List.append_assoc, hblocks, hpolled] at hrest
    · rw [hturn] at hnext
      cases hnext

/-! ## What is written -/

/-- How many events of a track are on a timeline. -/
def onTrack (track : MediaTrack) (timed : List (TimedMediaEvent × MediaTiming)) : ℕ :=
  timed.countP (·.1.track = track)

/-- The writer is where the calls for the timeline, with flushes between them,
have led, and it has refused none of them. -/
structure WroteAll (delayMs : Int64) (writer : MatroskaWriter W) (capture : Capture W) : Prop where
  /-- the calls -/
  calls : ∃ calls, capture.writer = Mealy.final WriterCall.perform writer calls ∧
    calls.filterMap WriterCall.write? = capture.history.timed.map (timedCall delayMs) ∧
    ∀ result ∈ Mealy.outputs WriterCall.perform writer calls, result = .ok ()
  /-- the frames are counted -/
  videoFrames : capture.videoFrames = UInt64.ofNat (onTrack .video capture.history.timed)
  /-- the blocks are counted -/
  audioChunks : capture.audioChunks = UInt64.ofNat (onTrack .audio capture.history.timed)

/-- An event that is written is a call that is not refused. -/
theorem write_none {next : Capture W} {timing : MediaTiming} {event : TimedMediaEvent}
    (hnext : capture.write delayMs timing event = (next, none)) :
    WriterCall.perform capture.writer (.write (mediaCall delayMs timing event)) =
        (next.writer, .ok ()) ∧
      next.videoFrames =
        capture.videoFrames + UInt64.ofNat (onTrack .video [(event, timing)]) ∧
      next.audioChunks =
        capture.audioChunks + UInt64.ofNat (onTrack .audio [(event, timing)]) := by
  rw [Capture.write] at hnext
  cases event with
  | video frame =>
    simp only [noteDrift] at hnext
    rcases hrun : (mediaCall delayMs timing (.video frame)).run.run capture.writer
      with ⟨_, writer⟩ | ⟨error, writer⟩
    · simp only [hrun, afterWrite] at hnext
      obtain ⟨rfl, -⟩ := Prod.mk.inj hnext
      simp [WriterCall.perform, MediaCall.perform, hrun, countWritten, onTrack,
        TimedMediaEvent.track]
    · rw [hrun] at hnext
      cases hnext
  | audio chunk =>
    simp only [noteDrift] at hnext
    rcases hrun : (mediaCall delayMs timing (.audio chunk)).run.run capture.writer
      with ⟨_, writer⟩ | ⟨error, writer⟩
    · simp only [hrun, afterWrite] at hnext
      obtain ⟨rfl, -⟩ := Prod.mk.inj hnext
      simp [WriterCall.perform, MediaCall.perform, hrun, countWritten, onTrack,
        TimedMediaEvent.track]
    · rw [hrun] at hnext
      cases hnext

/-- A report that is due is a flush that is not refused. -/
theorem report_none {next : Capture W} (hnext : capture.report true = (next, none)) :
    WriterCall.perform capture.writer .flush = (next.writer, .ok ()) ∧
      next = { capture with writer := next.writer } := by
  simp only [Capture.report, if_true] at hnext
  rcases hrun : MatroskaWriter.flush.run capture.writer with ⟨_, writer⟩ | ⟨error, writer⟩
  · rw [hrun] at hnext
    obtain ⟨rfl, -⟩ := Prod.mk.inj hnext
    exact ⟨by rw [WriterCall.perform, hrun], rfl⟩
  · rw [hrun] at hnext
    cases hnext

variable {writer : MatroskaWriter W}

theorem wroteAll_new (writer : MatroskaWriter W) : (new writer).WroteAll delayMs writer :=
  ⟨⟨[], rfl, rfl, List.forall_mem_nil _⟩, rfl, rfl⟩

/-- A further call that is not refused. -/
theorem forall_outputs_concat {calls : List WriterCall} {call : WriterCall}
    {next : MatroskaWriter W}
    (hcalls : ∀ result ∈ Mealy.outputs WriterCall.perform writer calls, result = .ok ())
    (hcall : WriterCall.perform (Mealy.final WriterCall.perform writer calls) call =
      (next, .ok ())) :
    ∀ result ∈ Mealy.outputs WriterCall.perform writer (calls ++ [call]), result = .ok () := by
  rw [Mealy.outputs_append, List.forall_mem_append]
  refine ⟨hcalls, ?_⟩
  rw [Mealy.outputs_cons, hcall]
  simp

omit [Write W] [Seek W] in
theorem handleUsbEvent_counts (event : SessionEvent) :
    (capture.handleUsbEvent origin event).1.videoFrames = capture.videoFrames ∧
      (capture.handleUsbEvent origin event).1.audioChunks = capture.audioChunks := by
  cases event with
  | packet endpoint data receivedAt =>
    rcases h : capture.decoder.pushPacket ⟨endpoint, data⟩ with ⟨decoder, error | _ | frame⟩ <;>
      simp [handleUsbEvent, h, recover]
  | _ => exact ⟨rfl, rfl⟩

theorem WroteAll.usbEvents {next : Capture W} {mediaEvents : List TimedMediaEvent}
    {events : List SessionEvent} {result : Except CaptureError (List TimedMediaEvent)}
    (h : capture.WroteAll delayMs writer)
    (hnext : handleUsbEvents origin capture mediaEvents events = (next, result)) :
    next.WroteAll delayMs writer := by
  induction events generalizing capture mediaEvents with
  | nil =>
    obtain ⟨rfl, -⟩ := Prod.mk.inj hnext
    exact h
  | cons event events ih =>
    have hwriter : (capture.handleUsbEvent origin event).1.writer = capture.writer :=
      handleUsbEvent_writer event
    have htimed := (handleUsbEvent_timeline origin capture event).2
    obtain ⟨hvideo, haudio⟩ := @handleUsbEvent_counts W origin capture event
    have hstep : (capture.handleUsbEvent origin event).1.WroteAll delayMs writer := by
      refine ⟨?_, ?_, ?_⟩
      · rw [hwriter, htimed]
        exact h.calls
      · rw [hvideo, htimed]
        exact h.videoFrames
      · rw [haudio, htimed]
        exact h.audioChunks
    rw [handleUsbEvents] at hnext
    rcases hevent : capture.handleUsbEvent origin event with ⟨middle, error | more⟩
    · rw [hevent] at hnext hstep
      obtain ⟨rfl, -⟩ := Prod.mk.inj hnext
      exact hstep
    · rw [hevent] at hnext hstep
      exact ih hstep hnext

/-- An event that is placed and written. -/
theorem WroteAll.timeWrite {placed next : Capture W} {event : TimedMediaEvent}
    {timing : MediaTiming} (h : capture.WroteAll delayMs writer)
    (htime : capture.time event = (placed, .ok timing))
    (hwrite : placed.write delayMs timing event = (next, none)) :
    next.WroteAll delayMs writer := by
  obtain ⟨calls, hcalls, hwritten, hresults⟩ := h.calls
  have hplaced : placed.writer = capture.writer ∧ placed.videoFrames = capture.videoFrames ∧
      placed.audioChunks = capture.audioChunks ∧
      placed.history.timed = capture.history.timed ++ [(event, timing)] := by
    rw [time] at htime
    split at htime
    · obtain ⟨rfl, htiming⟩ := Prod.mk.inj htime
      obtain rfl := Except.ok.inj htiming
      exact ⟨rfl, rfl, rfl, rfl⟩
    · cases htime
  obtain ⟨hperform, hvideo, haudio⟩ := write_none hwrite
  have hhistory := (write_frame delayMs placed timing event).1
  rw [hwrite] at hhistory
  rw [hplaced.1, hcalls] at hperform
  have hcount : ∀ track, onTrack track (capture.history.timed ++ [(event, timing)]) =
      onTrack track capture.history.timed + onTrack track [(event, timing)] := fun _ =>
    List.countP_append
  refine ⟨⟨calls ++ [.write (mediaCall delayMs timing event)], ?_, ?_, ?_⟩, ?_, ?_⟩
  · rw [Mealy.final_append, Mealy.final_cons, Mealy.final_nil, hperform]
  · rw [hhistory, hplaced.2.2.2, List.filterMap_append, hwritten, List.map_append]
    rfl
  · exact forall_outputs_concat hresults hperform
  · rw [hvideo, hplaced.2.1, h.videoFrames, hhistory, hplaced.2.2.2, hcount, UInt64.ofNat_add]
  · rw [haudio, hplaced.2.2.1, h.audioChunks, hhistory, hplaced.2.2.2, hcount, UInt64.ofNat_add]

theorem WroteAll.writeBatch {next : Capture W} {batch : List TimedMediaEvent}
    (h : capture.WroteAll delayMs writer)
    (hnext : capture.writeBatch delayMs batch = (next, none)) : next.WroteAll delayMs writer := by
  induction batch generalizing capture with
  | nil =>
    obtain ⟨rfl, -⟩ := Prod.mk.inj hnext
    exact h
  | cons event batch ih =>
    rw [Capture.writeBatch] at hnext
    rcases htime : capture.time event with ⟨placed, error | timing⟩
    · rw [htime] at hnext
      cases hnext
    · rcases hwrite : placed.write delayMs timing event with ⟨written, _ | error⟩
      · simp only [htime, hwrite] at hnext
        exact ih (h.timeWrite htime hwrite) hnext
      · simp only [htime, hwrite] at hnext
        cases hnext

theorem WroteAll.report {next : Capture W} {due : Bool} (h : capture.WroteAll delayMs writer)
    (hnext : capture.report due = (next, none)) : next.WroteAll delayMs writer := by
  cases due with
  | false =>
    obtain ⟨rfl, -⟩ := Prod.mk.inj hnext
    exact h
  | true =>
    obtain ⟨hperform, hsame⟩ := report_none hnext
    obtain ⟨calls, hcalls, hwritten, hresults⟩ := h.calls
    rw [hcalls] at hperform
    rw [hsame]
    refine ⟨⟨calls ++ [.flush], ?_, ?_, forall_outputs_concat hresults hperform⟩, h.videoFrames,
      h.audioChunks⟩
    · rw [Mealy.final_append, Mealy.final_cons, Mealy.final_nil, hperform]
    · rw [List.filterMap_append, hwritten]
      exact List.append_nil _

/-- **A turn after which the loop goes on** has written what it placed. -/
theorem WroteAll.turn {next : Capture W} {turn : CaptureTurn} (h : capture.WroteAll delayMs writer)
    (hnext : capture.turn origin delayMs turn = (next, none)) : next.WroteAll delayMs writer := by
  have hturned := turned origin delayMs capture turn
  rw [hnext] at hturned
  cases hturned with
  | goesOn _ _ hdecode hwrite hreport =>
    exact ((h.usbEvents hdecode).writeBatch hwrite).report hreport

theorem WroteAll.run {next : Capture W} {turns : List CaptureTurn}
    (h : capture.WroteAll delayMs writer)
    (hnext : runCaptureSession origin delayMs capture turns = (next, none)) :
    next.WroteAll delayMs writer := by
  induction turns generalizing capture with
  | nil =>
    obtain ⟨rfl, -⟩ := Prod.mk.inj hnext
    exact h
  | cons turn turns ih =>
    rw [runCaptureSession] at hnext
    rcases hturn : capture.turn origin delayMs turn with ⟨middle, _ | ending⟩
    · rw [hturn] at hnext
      exact ih (h.turn hturn) hnext
    · rw [hturn] at hnext
      cases hnext

/-! ## The file -/

/-- The packets for a timeline fit into a file. -/
def Fits (delayMs : Int64) (timed : List (TimedMediaEvent × MediaTiming)) : Prop :=
  (∀ entry ∈ timed, (timedCall delayMs entry).BelowLimit) ∧
    fileSize alsaFormat (timed.map (timedCall delayMs)) < 2 ^ 64

theorem forestBytes_sublist {trees more : List Ebml.Tree} (h : trees.Sublist more) :
    (Ebml.forestBytes trees).length ≤ (Ebml.forestBytes more).length := by
  induction h with
  | slnil => exact le_rfl
  | cons tree _ ih =>
    rw [Ebml.forestBytes, List.length_append]
    omega
  | cons_cons tree _ ih =>
    rw [Ebml.forestBytes, Ebml.forestBytes, List.length_append, List.length_append]
    omega

/-- What is written for a timeline fits, however often it is flushed. -/
theorem Fits.fit {timed : List (TimedMediaEvent × MediaTiming)} {calls : List WriterCall}
    (h : Fits delayMs timed)
    (hcalls : calls.filterMap WriterCall.write? = timed.map (timedCall delayMs)) :
    WriterCall.Fit alsaFormat calls := by
  refine ⟨?_, ?_⟩
  · intro call hcall
    have hmem : call ∈ calls.filterMap WriterCall.write? :=
      List.mem_filterMap.mpr ⟨.write call, hcall, rfl⟩
    rw [hcalls] at hmem
    obtain ⟨entry, hentry, rfl⟩ := List.mem_map.mp hmem
    exact h.1 entry hentry
  · have hsub : (WriterCall.written alsaFormat calls).Sublist (timed.map (timedCall delayMs)) := by
      rw [WriterCall.written, hcalls]
      exact List.filter_sublist
    have hle := forestBytes_sublist (hsub.map MediaCall.tree)
    have hsize := h.2
    rw [fileSize] at hsize ⊢
    omega

/-- A part of what fits. -/
theorem Fits.of_append {first second : List (TimedMediaEvent × MediaTiming)}
    (h : Fits delayMs (first ++ second)) : Fits delayMs first := by
  refine ⟨fun entry hentry => h.1 entry (List.mem_append_left _ hentry), ?_⟩
  have hsize := h.2
  rw [List.map_append] at hsize
  exact (fileSize_le_append _ _).trans_lt hsize

/-- There are no more packets than bytes. -/
theorem length_le_fileSize (calls : List MediaCall) : calls.length ≤ fileSize alsaFormat calls := by
  have hforest : calls.length ≤ (Ebml.forestBytes (calls.map MediaCall.tree)).length := by
    induction calls with
    | nil => exact Nat.zero_le _
    | cons call calls ih =>
      have hcluster := Ebml.length_lt_elementBytes 0x1f43b675 true
        (Ebml.forestBytes (clusterFields call.timecode call.track call.packet))
      have htree : call.tree.bytes.length = _ := rfl
      rw [List.map_cons, Ebml.forestBytes, List.length_append, List.length_cons, htree,
        MediaCall.tree, clusterTree, Ebml.Tree.bytes]
      omega
  rw [fileSize]
  omega

/-- The counters of a timeline that fits do not wrap. -/
theorem onTrack_eq_zero {track : MediaTrack} {timed : List (TimedMediaEvent × MediaTiming)}
    (hfits : Fits delayMs timed) (hcount : UInt64.ofNat (onTrack track timed) = 0) :
    onTrack track timed = 0 := by
  have hlength := length_le_fileSize (timed.map (timedCall delayMs))
  have hsize := hfits.2
  have hle : onTrack track timed ≤ timed.length := List.countP_le_length
  rw [List.length_map] at hlength
  have hmod := congrArg UInt64.toNat hcount
  have hsmall : onTrack track timed < 2 ^ 64 := by omega
  rw [UInt64.toNat_ofNat_of_lt' hsmall] at hmod
  exact hmod

variable {file : Cursor → W}

/-- An end without an error: a stop request, or a poll that failed as it came. -/
theorem turn_ok {next : Capture W} {turn : CaptureTurn}
    (hnext : capture.turn origin delayMs turn = (next, some (.ok ()))) :
    next = capture ∧ (turn.stopping = true ∧ capture.stop = .ok () ∨
      (∃ error, turn.usbEvents = .error error) ∧ turn.stoppingAfterPoll = true) := by
  have hturned := turned origin delayMs capture turn
  rw [hnext] at hturned
  dsimp only at hturned
  generalize hending : some (Except.ok ()) = ending at hturned
  cases hturned with
  | stops hstopping => exact ⟨rfl, .inl ⟨hstopping, (Option.some.inj hending).symm⟩⟩
  | pollFails hpoll =>
    refine ⟨rfl, .inr ⟨⟨_, hpoll⟩, ?_⟩⟩
    by_contra hstopping
    rw [if_neg hstopping] at hending
    cases hending
  | audioFails => cases hending
  | disconnects => cases hending
  | writeFails => cases hending
  | reportFails => cases hending
  | goesOn => cases hending

omit [Write W] [Seek W] in
/-- The timeline has the blocks and the frames. -/
theorem Kept.onTrack (h : capture.Kept [] taken events) :
    onTrack .audio capture.history.timed = taken.length ∧
      onTrack .video capture.history.timed = (sessionFrames events).length := by
  have htimed := h.timed
  rw [List.append_nil] at htimed
  have hcount : ∀ track, Capture.onTrack track capture.history.timed =
      (taken.map TimedMediaEvent.audio ++
        capture.history.emitted.map (TimedMediaEvent.video ·.event)).countP (·.track = track) := by
    intro track
    rw [← htimed.countP_eq, List.countP_map]
    rfl
  rw [hcount, hcount, ← h.frames]
  simp [List.countP_map, Function.comp_def, TimedMediaEvent.track]

/-- The result of the command, if it has one. -/
theorem runCapture_ends (hfile : Seekable file) {audioPanicked : Bool} {turns : List CaptureTurn}
    {result : Except RunCaptureError Unit}
    (hrun : runCapture origin delayMs (endOf file []) audioPanicked turns =
      .ok (capture, some result)) :
    ∃ past turn rest middle last ending, turns = past ++ turn :: rest ∧
      runCaptureSession origin delayMs (new (writerWith file alsaFormat emptyDuration [])) past =
        (middle, none) ∧
      middle.turn origin delayMs turn = (last, some ending) ∧
      last.finish audioPanicked ending = (capture, result) := by
  rw [runCapture, new_eq_writerWith hfile] at hrun
  rcases hsession : runCaptureSession origin delayMs
    (new (writerWith file alsaFormat emptyDuration [])) turns with ⟨last, _ | ending⟩
  · simp [Except.map, hsession] at hrun
  · simp only [Except.map, hsession] at hrun
    obtain ⟨hcapture, hresult⟩ := Prod.mk.inj (Except.ok.inj hrun)
    obtain ⟨-, hnone⟩ | ⟨past, turn, rest, middle, other, hturns, hother, hpast, hlast⟩ :=
      runCaptureSession_split hsession
    · cases hnone
    · obtain rfl := Option.some.inj hother
      exact ⟨past, turn, rest, middle, last, ending, hturns, hpast, hlast,
        Prod.ext hcapture (Option.some.inj hresult)⟩

/-- What explains an error of the loop: the turn with which it ends, or that
nothing came before it. Neither the timeline nor the file is to blame. -/
def Explained (past : List CaptureTurn) (turn : CaptureTurn) : CaptureError → Prop
  | .audioWorker error => .failed error ∈ turn.audioEvents
  | .audioClosed => .closed ∈ turn.audioEvents
  | .usb error => turn.usbEvents = .error error ∧ turn.stoppingAfterPoll = false
  | .disconnected event => event.endsSession = true ∧ event ∈ polled [turn]
  | .noCapturedAudio => turn.stopping = true ∧ blocks past = []
  | .noCapturedVideo => turn.stopping = true ∧ sessionFrames (polled past) = []
  | .synchronization _ | .matroska _ => False

theorem audioBatch_error {past : List CaptureTurn} {turn : CaptureTurn} {error : CaptureError}
    (h : audioBatch turn.audioEvents = .error error) : Explained past turn error := by
  have hmem : (∃ text, error = .audioWorker text ∧ .failed text ∈ turn.audioEvents) ∨
      error = .audioClosed ∧ .closed ∈ turn.audioEvents := by
    generalize turn.audioEvents = events at h ⊢
    induction events with
    | nil => cases h
    | cons event events ih =>
      cases event with
      | chunk chunk =>
        rw [audioBatch] at h
        rcases hrest : audioBatch events with other | more
        · rw [hrest] at h
          obtain rfl := Except.error.inj h
          exact (ih hrest).imp
            (fun ⟨text, herror, hmem⟩ => ⟨text, herror, List.mem_cons_of_mem _ hmem⟩)
            (fun ⟨herror, hmem⟩ => ⟨herror, List.mem_cons_of_mem _ hmem⟩)
        · rw [hrest] at h
          cases h
      | failed text => exact .inl ⟨text, (Except.error.inj h).symm, List.mem_cons_self⟩
      | closed => exact .inr ⟨(Except.error.inj h).symm, List.mem_cons_self⟩
  obtain ⟨text, rfl, hmem⟩ | ⟨rfl, hmem⟩ := hmem
  · exact hmem
  · exact hmem

omit [Write W] [Seek W] in
/-- The session ends with an event that says so. -/
theorem handleUsbEvents_error {next : Capture W} {mediaEvents : List TimedMediaEvent}
    {events : List SessionEvent} {error : CaptureError}
    (h : handleUsbEvents origin capture mediaEvents events = (next, .error error)) :
    ∃ event ∈ events, error = .disconnected event ∧ event.endsSession = true := by
  induction events generalizing capture mediaEvents with
  | nil => cases h
  | cons event events ih =>
    rw [handleUsbEvents] at h
    rcases hevent : capture.handleUsbEvent origin event with ⟨middle, other | more⟩
    · rw [hevent] at h
      obtain ⟨-, herror⟩ := Prod.mk.inj h
      obtain rfl := Except.error.inj herror
      refine ⟨event, List.mem_cons_self, ?_⟩
      cases event with
      | packet endpoint data receivedAt =>
        rcases hpush : capture.decoder.pushPacket ⟨endpoint, data⟩
          with ⟨decoder, error | _ | frame⟩ <;> simp [handleUsbEvent, hpush] at hevent
      | packetError => simp [handleUsbEvent] at hevent
      | _ =>
        simp only [handleUsbEvent] at hevent
        split at hevent
        · exact ⟨(Except.error.inj (Prod.mk.inj hevent).2).symm, ‹_›⟩
        · cases hevent
    · rw [hevent] at h
      obtain ⟨other, hother, hends⟩ := ih h
      exact ⟨other, List.mem_cons_of_mem _ hother, hends⟩

/-- The writer accepts a call that fits. -/
theorem WroteAll.accepts (hfile : Seekable file)
    (h : capture.WroteAll delayMs (writerWith file alsaFormat emptyDuration []))
    (hfits : Fits delayMs capture.history.timed) {call : MediaCall} (hlimit : call.BelowLimit)
    (haccepted : call.Accepted alsaFormat) :
    (WriterCall.perform capture.writer (.write call)).2 = .ok () := by
  obtain ⟨calls, hcalls, hwritten, -⟩ := h.calls
  have hperform : call.perform (WriterCall.writerAfter file alsaFormat calls) = _ :=
    MediaCall.perform_accepted hfile.faultless.writeAll rfl hlimit haccepted
  rw [hcalls, WriterCall.final_eq_writerAfter hfile (hfits.fit hwritten), WriterCall.perform,
    hperform]

theorem write_some {next : Capture W} {timing : MediaTiming} {event : TimedMediaEvent}
    {error : CaptureError} (hnext : capture.write delayMs timing event = (next, some error)) :
    (WriterCall.perform capture.writer (.write (mediaCall delayMs timing event))).2 ≠ .ok () := by
  rw [Capture.write] at hnext
  have hwriter : (capture.noteDrift event timing).writer = capture.writer := by
    cases event <;> rfl
  simp only [hwriter] at hnext
  rw [WriterCall.perform, MediaCall.perform]
  rcases hrun : (mediaCall delayMs timing event).run.run capture.writer
    with ⟨_, writer⟩ | ⟨other, writer⟩
  · rw [hrun] at hnext
    cases hnext
  · exact fun heq => by cases heq

theorem report_some {next : Capture W} {due : Bool} {error : CaptureError}
    (hnext : capture.report due = (next, some error)) :
    (WriterCall.perform capture.writer .flush).2 ≠ .ok () := by
  rw [Capture.report] at hnext
  split at hnext
  · rw [WriterCall.perform]
    rcases hrun : MatroskaWriter.flush.run capture.writer with ⟨_, writer⟩ | ⟨other, writer⟩
    · rw [hrun] at hnext
      cases hnext
    · exact fun heq => by cases heq
  · cases hnext

/-- A report does not fail. -/
theorem WroteAll.reports (hfile : Seekable file)
    (h : capture.WroteAll delayMs (writerWith file alsaFormat emptyDuration []))
    (hfits : Fits delayMs capture.history.timed) {next : Capture W} {due : Bool}
    {error : CaptureError} : capture.report due ≠ (next, some error) := by
  intro hnext
  obtain ⟨calls, hcalls, hwritten, -⟩ := h.calls
  have hfit := hfits.fit hwritten
  refine report_some hnext ?_
  rw [hcalls, WriterCall.final_eq_writerAfter hfile hfit,
    WriterCall.perform_writerAfter_flush hfile hfit]

/-- A batch of blocks of the right format, and of frames, is written. -/
theorem WroteAll.writes (hfile : Seekable file) {batch : List TimedMediaEvent}
    {next : Capture W} {error : CaptureError}
    (h : capture.WroteAll delayMs (writerWith file alsaFormat emptyDuration []))
    (htimeline : capture.TimelineValid)
    (hbatch : ∀ event ∈ batch, ∀ timing, (mediaCall delayMs timing event).Accepted alsaFormat)
    (hnext : capture.writeBatch delayMs batch = (next, some error))
    (hfits : Fits delayMs next.history.timed) : False := by
  -- by induction over the batch: every event is accepted where it is timed
  induction batch generalizing capture with
  | nil => cases hnext
  | cons event batch ih =>
    obtain ⟨timing, -, htime⟩ := time_eq htimeline event
    have hplaced := time_valid htimeline event
    rw [Capture.writeBatch, htime] at hnext
    rw [htime] at hplaced
    dsimp only at hnext hplaced
    generalize hafter : ({ capture with
      synchronizer := timeline .zero (capture.history.timed.map Prod.fst ++ [event])
      history.timed := capture.history.timed ++ [(event, timing)] } : Capture W) = placed
      at hnext hplaced htime
    obtain ⟨hhistory, -, hsynchronizer⟩ := write_frame delayMs placed timing event
    rcases hwrite : placed.write delayMs timing event with ⟨written, _ | other⟩
    · rw [hwrite] at hnext hhistory hsynchronizer
      refine ih (h.timeWrite htime hwrite) ?_ ?_ hnext
      · rwa [TimelineValid, hhistory, hsynchronizer]
      · exact fun later hlater => hbatch later (List.mem_cons_of_mem _ hlater)
    · rw [hwrite] at hnext hhistory
      obtain ⟨rfl, -⟩ := Prod.mk.inj hnext
      have htimed : placed.history.timed = capture.history.timed ++ [(event, timing)] := by
        rw [← hafter]
      have hwriter : placed.writer = capture.writer := by rw [← hafter]
      rw [hhistory, htimed] at hfits
      refine write_some hwrite ?_
      rw [hwriter]
      exact h.accepts hfile hfits.of_append
        (hfits.1 (event, timing) (List.mem_append_right _ (List.mem_singleton_self _)))
        (hbatch event List.mem_cons_self timing)

/-- A call for a block of the format of the file. -/
def AcceptedBlocks (blocks : List TimedAudioChunk) : Prop :=
  ∀ block ∈ blocks, ∀ timing, (MediaCall.audio block timing).Accepted alsaFormat

omit [Write W] [Seek W] in
/-- What waits to be written is accepted, if the blocks are. -/
theorem Kept.accepted (h : capture.Kept pending taken events) (hblocks : AcceptedBlocks taken)
    {event : TimedMediaEvent} (hevent : event ∈ pending) (timing : MediaTiming) :
    (mediaCall delayMs timing event).Accepted alsaFormat := by
  cases event with
  | video frame => trivial
  | audio block =>
    have hmem := h.timed.mem_iff.mp (List.mem_append_right _ hevent)
    rcases List.mem_append.mp hmem with hmem | hmem
    · obtain ⟨other, hother, heq⟩ := List.mem_map.mp hmem
      obtain rfl := TimedMediaEvent.audio.inj heq
      exact hblocks other hother _
    · obtain ⟨emission, -, heq⟩ := List.mem_map.mp hmem
      cases heq

/-- **How the loop fails.** -/
theorem turn_error (hfile : Seekable file) {past : List CaptureTurn} {turn : CaptureTurn}
    {next : Capture W} {error : CaptureError}
    (hwrote : capture.WroteAll delayMs (writerWith file alsaFormat emptyDuration []))
    (hkept : capture.Kept [] (blocks past) (polled past)) (htimeline : capture.TimelineValid)
    (hblocks : AcceptedBlocks (blocks (past ++ [turn])))
    (hnext : capture.turn origin delayMs turn = (next, some (.error error)))
    (hfits : Fits delayMs next.history.timed) : Explained past turn error := by
  have hsplit : blocks (past ++ [turn]) = blocks past ++ blocks [turn] := by simp [blocks]
  have hhere : blocks [turn] = turn.audioEvents.filterMap AudioCaptureEvent.chunk? := by
    simp [blocks]
  have hturned := turned origin delayMs capture turn
  rw [hnext] at hturned
  dsimp only at hturned
  generalize hending : some (Except.error error) = ending at hturned
  -- the end of the turn says what failed: a write or a report cannot, by `writes` and `reports`
  cases hturned with
  | stops hstopping =>
    have hstop := (Option.some.inj hending).symm
    rw [stop] at hstop
    split at hstop
    · rename_i haudio
      obtain rfl := Except.error.inj hstop
      rw [hwrote.audioChunks] at haudio
      have hnone := onTrack_eq_zero hfits haudio
      rw [hkept.onTrack.1] at hnone
      exact ⟨hstopping, List.length_eq_zero_iff.mp hnone⟩
    · split at hstop
      · rename_i hvideo
        obtain rfl := Except.error.inj hstop
        rw [hwrote.videoFrames] at hvideo
        have hnone := onTrack_eq_zero hfits hvideo
        rw [hkept.onTrack.2] at hnone
        exact ⟨hstopping, List.length_eq_zero_iff.mp hnone⟩
      · cases hstop
  | audioFails haudio =>
    obtain rfl := Except.error.inj (Option.some.inj hending)
    exact audioBatch_error haudio
  | pollFails hpoll =>
    have hresult := Option.some.inj hending
    split at hresult
    · cases hresult
    · obtain rfl := Except.error.inj hresult
      exact ⟨hpoll, Bool.eq_false_of_not_eq_true ‹_›⟩
  | disconnects hpoll hdecode =>
    obtain rfl := Except.error.inj (Option.some.inj hending)
    obtain ⟨event, hevent, rfl, hends⟩ := handleUsbEvents_error hdecode
    refine ⟨hends, ?_⟩
    simpa [polled, hpoll, Except.toOption] using hevent
  | @writeFails _ mediaEvents usbEvents decoded _ _ haudio hpoll hdecode hwrite =>
    obtain rfl := audioBatch_ok haudio
    -- sorting the batch by its times changes neither what is in it nor what is accepted
    have hdecoded := ((hkept.takeBlocks _).usbEvents hdecode).perm
      (List.perm_insertionSort observedBefore _).symm
    rw [← hhere, ← hsplit] at hdecoded
    have htimed := (timelineValid_preserved origin delayMs).usbEvents htimeline
      ((turn.audioEvents.filterMap AudioCaptureEvent.chunk?).map .audio) usbEvents
    rw [hdecode] at htimed
    exact ((hwrote.usbEvents hdecode).writes hfile htimed
      (fun event hevent timing => hdecoded.accepted hblocks hevent timing) hwrite hfits).elim
  | @reportFails _ _ _ _ written _ _ _ _ hdecode hwrite hreport =>
    have hhistory := (report_frame written turn.reportDue).1
    rw [hreport] at hhistory
    rw [hhistory] at hfits
    exact absurd hreport (((hwrote.usbEvents hdecode).writeBatch hwrite).reports hfile hfits)
  | goesOn => cases hending

/-- The command fails with the loop, or because the audio thread panicked. -/
theorem runCapture_error (hfile : Seekable file) {audioPanicked : Bool}
    {turns : List CaptureTurn} {error : RunCaptureError}
    (hrun : runCapture origin delayMs (endOf file []) audioPanicked turns =
      .ok (capture, some (.error error)))
    (hfits : Fits delayMs capture.history.timed) (hblocks : AcceptedBlocks (blocks turns)) :
    (error = .audioPanicked ∧ audioPanicked = true) ∨
      ∃ cause past turn rest, error = .capture cause ∧ turns = past ++ turn :: rest ∧
        Explained past turn cause := by
  obtain ⟨past, turn, rest, middle, last, ending, rfl, hpast, hlast, hfinish⟩ :=
    runCapture_ends hfile hrun
  have hnew : (new (writerWith file alsaFormat emptyDuration [])).WroteAll delayMs
      (writerWith file alsaFormat emptyDuration []) := wroteAll_new _
  have hwrote := hnew.run hpast
  -- the loop failed, or it stopped and what comes after it failed
  rcases ending with cause | ⟨⟩
  · obtain ⟨rfl, herror⟩ := Prod.mk.inj hfinish
    obtain rfl := Except.error.inj herror
    have hkept := (kept_new (writerWith file alsaFormat emptyDuration [])).run hpast
    have htimeline := (timelineValid_preserved origin delayMs).run
      (timelineValid_new (writerWith file alsaFormat emptyDuration [])) past
    rw [hpast] at htimeline
    refine .inr ⟨cause, past, turn, rest, rfl, rfl,
      turn_error hfile hwrote hkept htimeline ?_ hlast hfits⟩
    intro block hblock
    refine hblocks block ?_
    have hsplit : past ++ turn :: rest = past ++ [turn] ++ rest := by simp
    rw [hsplit, blocks, List.flatMap_append]
    exact List.mem_append_left _ hblock
  · obtain ⟨rfl, -⟩ := turn_ok hlast
    rw [finish] at hfinish
    split at hfinish
    · obtain ⟨-, herror⟩ := Prod.mk.inj hfinish
      exact .inl ⟨(Except.error.inj herror).symm, ‹_›⟩
    · rcases hreport : last.report true with ⟨flushed, _ | cause⟩
      · rw [hreport] at hfinish
        cases hfinish
      · rw [hreport] at hfinish
        obtain ⟨rfl, -⟩ := Prod.mk.inj hfinish
        have hhistory := (report_frame last true).1
        rw [hreport] at hhistory
        rw [hhistory] at hfits
        exact absurd hreport (hwrote.reports hfile hfits)

omit [Write W] [Seek W] in
theorem blocks_eq (turns : List CaptureTurn) :
    blocks turns =
      (turns.flatMap CaptureTurn.audioEvents).filterMap AudioCaptureEvent.chunk? := by
  rw [List.filterMap_flatMap, blocks]

/-- **A capture with the ALSA thread.** The loop takes from the thread, in
order, what it has sent so far; at the end the thread is joined. The blocks are
the first periods of the device, and whatever the devices do, the command over
a file without faults fails only with an event of the thread or of the camera,
or because there were no blocks or no frames when it was asked to stop. -/
theorem runCapture_alsa (hfile : Seekable file) (origin : Instant) (delayMs : Int64)
    {monotonicOriginNs : UInt64} {actions : List AlsaAction} {worker : AlsaWorker}
    {turns : List CaptureTurn} (hworker : AlsaWorker.run monotonicOriginNs actions = some worker)
    (hsent : turns.flatMap CaptureTurn.audioEvents <+: worker.sent) :
    blocks turns <+:
        (AlsaAccount.after actions).periods.mapIdx (AlsaPeriod.chunk monotonicOriginNs) ∧
      ∀ capture error, runCapture origin delayMs (endOf file [])
          (decide (worker.point = .panicked)) turns = .ok (capture, some (.error error)) →
        Fits delayMs capture.history.timed →
          ∃ cause past turn rest, error = .capture cause ∧ turns = past ++ turn :: rest ∧
            Explained past turn cause := by
  obtain ⟨hsound, -⟩ := AlsaWorker.ends_of_run hworker
  have hpre : blocks turns <+:
      (AlsaAccount.after actions).periods.mapIdx (AlsaPeriod.chunk monotonicOriginNs) := by
    rw [← hsound.chunks, blocks_eq]
    exact (hsent.filterMap _).trans (List.prefix_append _ _)
  refine ⟨hpre, ?_⟩
  intro capture error hrun hfits
  refine (runCapture_error hfile hrun hfits ?_).resolve_left fun ⟨_, hjoined⟩ =>
    hsound.not_panicked (of_decide_eq_true hjoined)
  intro block hblock timing
  obtain ⟨k, hk, rfl⟩ := List.mem_mapIdx.mp (hpre.subset hblock)
  have hlength := hsound.full _ (List.getElem_mem hk)
  refine ⟨rfl, ?_⟩
  simp only [AlsaPeriod.chunk, length_flatMap_leBytes16, hlength]
  rfl

end Command

/-- The first event of an audio thread and no frame, and a stop request. -/
def audioOnly (events : List AudioCaptureEvent) : List CaptureTurn :=
  [⟨false, events.take 1, .ok [], false, false⟩, ⟨true, [], .ok [], true, false⟩]

theorem audioOnly_isPrefix (events : List AudioCaptureEvent) :
    (audioOnly events).flatMap CaptureTurn.audioEvents <+: events := by
  simpa [audioOnly] using List.take_prefix 1 events

/-- A capture over a file in memory fails, with short packets. -/
def failsShort (audioPanicked : Bool) (turns : List CaptureTurn) : Bool :=
  (runCapture 0 0 (endOf id [] : Cursor) audioPanicked turns).toOption.any fun run =>
    run.2.any (fun result => !result.toOption.isSome) &&
    decide (∀ entry ∈ run.1.history.timed,
      (timedCall 0 entry).packet.length + 128 < Ebml.sizeLimit) &&
    decide (fileSize alsaFormat (run.1.history.timed.map (timedCall 0)) < 2 ^ 64)

theorem fails_of_failsShort {audioPanicked : Bool} {turns : List CaptureTurn}
    (h : failsShort audioPanicked turns = true) :
    ∃ capture error, runCapture 0 0 (endOf id [] : Cursor) audioPanicked turns =
        .ok (capture, some (.error error)) ∧ Fits 0 capture.history.timed := by
  rw [failsShort] at h
  rcases hrun : runCapture 0 0 (endOf id [] : Cursor) audioPanicked turns
    with refused | ⟨capture, _ | error | ⟨⟩⟩
  · simp [hrun, Except.toOption] at h
  · simp [hrun, Except.toOption] at h
  · rw [hrun] at h
    simp only [Except.toOption, Option.any_some, Bool.and_eq_true, decide_eq_true_eq] at h
    obtain ⟨⟨-, hpackets⟩, hsize⟩ := h
    exact ⟨capture, error, rfl,
      fun entry hentry => MediaCall.belowLimit_of_length (hpackets entry hentry), hsize⟩
  · simp [hrun, Except.toOption] at h

theorem runCapture_alsa_audioOnly :
    ∃ worker capture error, AlsaWorker.run 0 AlsaWorker.recoveredRun = some worker ∧
      (blocks (audioOnly worker.sent)).length = 1 ∧
      runCapture 0 0 (endOf id [] : Cursor) (decide (worker.point = .panicked))
        (audioOnly worker.sent) = .ok (capture, some (.error error)) ∧
      ∃ cause past turn rest, error = .capture cause ∧
        audioOnly worker.sent = past ++ turn :: rest ∧ Explained past turn cause := by
  have hany : (AlsaWorker.run 0 AlsaWorker.recoveredRun).any (fun worker =>
      decide ((blocks (audioOnly worker.sent)).length = 1) &&
        failsShort (decide (worker.point = .panicked)) (audioOnly worker.sent)) = true := by
    decide +kernel
  obtain ⟨worker, hworker, hchecks⟩ := Option.any_eq_true _ _ |>.mp hany
  rw [Bool.and_eq_true, decide_eq_true_eq] at hchecks
  obtain ⟨capture, error, hrun, hfits⟩ := fails_of_failsShort hchecks.2
  exact ⟨worker, capture, error, hworker, hchecks.1, hrun,
    (runCapture_alsa seekable_cursor 0 0 hworker (audioOnly_isPrefix worker.sent)).2 capture error
      hrun hfits⟩

end Capture

end Handycam
