import Mathlib
import Handycam.Capture
import Handycam.Flush

/-!
# The audio delay

`--audio-delay-ms` shifts the audio track against the video track when it is
written. The shift saturates: a PCM block that an advance would take to before
the start of the stream is put at its start.

* **what is written** — `wrote_run`: whatever the file does, the loop makes one
  call of the writer for each event it has placed on the timeline, in order;
* **the shift** — `capture_delay`: between those calls the cluster times of the
  two tracks differ by the difference of their timestamps and the delay, up to
  the truncation to milliseconds, as long as the shift is not cut off.
-/

namespace Handycam

namespace Capture

/-! ## The calls of a run -/

section Calls

variable {W : Type} [Write W] [Seek W] {origin : Instant} {delayMs : Int64}
  {writer : MatroskaWriter W} {capture : Capture W}

/-- The call that writes an event with its timing. -/
def timedCall (delayMs : Int64) (timed : TimedMediaEvent × MediaTiming) : MediaCall :=
  mediaCall delayMs timed.2 timed.1

/-- The writer is where its calls for the timed events, with flushes between
them, have led. -/
def Wrote (delayMs : Int64) (writer : MatroskaWriter W) (capture : Capture W) : Prop :=
  ∃ calls, capture.writer = Mealy.final WriterCall.perform writer calls ∧
    calls.filterMap WriterCall.write? = capture.history.timed.map (timedCall delayMs)

/-- The writer after an operation. -/
def writerOf {W : Type} :
    EStateM.Result MatroskaError (MatroskaWriter W) Unit → MatroskaWriter W
  | .ok _ writer => writer
  | .error _ writer => writer

theorem afterWrite_writer {W : Type} (capture : Capture W)
    (result : EStateM.Result MatroskaError (MatroskaWriter W) Unit) :
    (capture.afterWrite result).1.writer = writerOf result := by
  cases result <;> rfl

theorem perform_writerOf (writer : MatroskaWriter W) (call : MediaCall) :
    (WriterCall.perform writer (.write call)).1 = writerOf (call.run.run writer) := by
  rw [WriterCall.perform, MediaCall.perform]
  cases call.run.run writer <;> rfl

theorem perform_flush_writerOf (writer : MatroskaWriter W) :
    (WriterCall.perform writer .flush).1 = writerOf (MatroskaWriter.flush.run writer) := by
  rw [WriterCall.perform]
  cases MatroskaWriter.flush.run writer <;> rfl

omit [Write W] [Seek W] in
theorem handleUsbEvent_writer (event : SessionEvent) :
    (capture.handleUsbEvent origin event).1.writer = capture.writer := by
  cases event with
  | packet endpoint data receivedAt =>
    rcases h : capture.decoder.pushPacket ⟨endpoint, data⟩ with ⟨decoder, error | _ | frame⟩ <;>
      simp [handleUsbEvent, h, recover]
  | packetError => rfl
  | transferFailed => rfl
  | submitFailed => rfl
  | callbackPanicked => rfl

theorem Wrote.usbEvents (h : Wrote delayMs writer capture) (mediaEvents : List TimedMediaEvent)
    (events : List SessionEvent) :
    Wrote delayMs writer (handleUsbEvents origin capture mediaEvents events).1 := by
  induction events generalizing capture mediaEvents with
  | nil => exact h
  | cons event events ih =>
    have hwriter : (capture.handleUsbEvent origin event).1.writer = capture.writer :=
      handleUsbEvent_writer event
    have htimed := (handleUsbEvent_timeline origin capture event).2
    have hstep : Wrote delayMs writer (capture.handleUsbEvent origin event).1 := by
      rwa [Wrote, hwriter, htimed]
    rw [handleUsbEvents]
    rcases hevent : capture.handleUsbEvent origin event with ⟨next, error | more⟩
    · rw [hevent] at hstep
      exact hstep
    · rw [hevent] at hstep
      exact ih hstep _

omit [Write W] [Seek W] in
/-- The synchronizer gives an event its place, or refuses it. -/
theorem time_writer (event : TimedMediaEvent) :
    (capture.time event).1.writer = capture.writer ∧
      (capture.time event).1.history.timed = capture.history.timed ++
        ((capture.time event).2.toOption.map fun timing => (event, timing)).toList := by
  rcases h : capture.synchronizer.eventTiming event with ⟨synchronizer, error | timing⟩ <;>
    simp [time, h, Except.toOption]

/-- Writing an event is the call for it. -/
theorem write_writer (timing : MediaTiming) (event : TimedMediaEvent) :
    (capture.write delayMs timing event).1.writer =
      (WriterCall.perform capture.writer (.write (mediaCall delayMs timing event))).1 := by
  have hnoted : (capture.noteDrift event timing).writer = capture.writer := by
    cases event <;> rfl
  rw [perform_writerOf, ← hnoted, write]
  generalize capture.noteDrift event timing = noted
  have hwriter := afterWrite_writer noted ((mediaCall delayMs timing event).run.run noted.writer)
  rcases h : noted.afterWrite ((mediaCall delayMs timing event).run.run noted.writer)
    with ⟨next, _ | error⟩
  · rw [h] at hwriter
    have hcount : (next.countWritten event).writer = next.writer := by
      cases event <;> rfl
    exact hcount.trans hwriter
  · rwa [h] at hwriter

/-- An event that is placed is written next. -/
theorem Wrote.timeWrite {next : Capture W} {event : TimedMediaEvent} {timing : MediaTiming}
    (h : Wrote delayMs writer capture) (htime : capture.time event = (next, .ok timing)) :
    Wrote delayMs writer (next.write delayMs timing event).1 := by
  obtain ⟨calls, hcalls, hwritten⟩ := h
  obtain ⟨hwriter, htimed⟩ := @time_writer _ capture event
  rw [htime] at hwriter htimed
  refine ⟨calls ++ [.write (mediaCall delayMs timing event)], ?_, ?_⟩
  · rw [write_writer, hwriter, hcalls, Mealy.final_append]
    rfl
  · rw [(write_frame delayMs next timing event).1, htimed, List.filterMap_append, hwritten,
      List.map_append]
    rfl

theorem Wrote.writeBatch (h : Wrote delayMs writer capture) (events : List TimedMediaEvent) :
    Wrote delayMs writer (capture.writeBatch delayMs events).1 := by
  induction events generalizing capture with
  | nil => exact h
  | cons event events ih =>
    rw [Capture.writeBatch]
    rcases htime : capture.time event with ⟨next, error | timing⟩
    · obtain ⟨hwriter, htimed⟩ := @time_writer _ capture event
      rw [htime] at hwriter htimed
      simp only [Except.toOption, Option.map_none, Option.toList_none, List.append_nil] at htimed
      rw [Wrote, hwriter, htimed]
      exact h
    · have hnext := h.timeWrite htime
      rcases hwrite : next.write delayMs timing event with ⟨last, _ | error⟩
      · rw [hwrite] at hnext
        simp only [hwrite]
        exact ih hnext
      · rw [hwrite] at hnext
        simp only [hwrite]
        exact hnext

theorem wrote_stage (delayMs : Int64) (writer : MatroskaWriter W) :
    PreservedByStage origin delayMs (Wrote delayMs writer) where
  usbEvents _ mediaEvents events h := h.usbEvents mediaEvents events
  writeBatch _ events h := h.writeBatch events
  report capture due h := by
    cases due with
    | false => exact h
    | true =>
      obtain ⟨calls, hcalls, hwritten⟩ := h
      refine ⟨calls ++ [.flush], ?_, ?_⟩
      · rw [Mealy.final_append, ← hcalls]
        exact (afterWrite_writer capture _).trans (perform_flush_writerOf capture.writer).symm
      · rw [(report_frame capture true).1, List.filterMap_append, hwritten]
        exact List.append_nil _

/-- **The calls of a run** are those for the events on its timeline. -/
theorem wrote_run (turns : List CaptureTurn) :
    Wrote delayMs writer (runCaptureSession origin delayMs (new writer) turns).1 :=
  (wrote_stage delayMs writer).run ⟨[], rfl, rfl⟩ turns

end Calls

/-! ## The shift -/

/-- A delayed timestamp, as a number; below zero it would be before the start
of the stream. -/
def delayedPts (timing : MediaTiming) (delayMs : Int64) : ℤ :=
  timing.ptsUs.toNat + 1000 * delayMs.toInt

/-- The shift is cut off at zero, within the range of a timestamp. -/
theorem toNat_applyAudioDelay {timing : MediaTiming} {delayMs : Int64}
    (hrange : delayedPts timing delayMs < 2 ^ 64) :
    ((applyAudioDelay timing delayMs).ptsUs.toNat : ℤ) = max (delayedPts timing delayMs) 0 := by
  have hlow := delayMs.le_toInt
  have hhigh := delayMs.toInt_lt
  have hmagnitude : (UInt64.ofNat delayMs.toInt.natAbs).toNat = delayMs.toInt.natAbs := by
    rw [UInt64.toNat_ofNat', Nat.mod_eq_of_lt]
    omega
  have hmul := UInt64.toNat_saturatingMul (UInt64.ofNat delayMs.toInt.natAbs) 1000
  have hthousand : (1000 : UInt64).toNat = 1000 := rfl
  have hpts := timing.ptsUs.toNat_lt
  rw [hmagnitude, hthousand] at hmul
  rw [delayedPts] at hrange ⊢
  simp only [applyAudioDelay]
  by_cases hsign : 0 ≤ delayMs.toInt
  · -- a delay of the audio
    rw [if_pos hsign, UInt64.toNat_saturatingAdd, hmul]
    omega
  · -- an advance of the audio
    rw [if_neg hsign, UInt64.toNat_saturatingSub, hmul]
    omega

/-- Truncated to milliseconds, two timestamps differ by less than one more or
less. -/
theorem truncation_difference (a b : ℕ) :
    |((a / 1000 : ℕ) : ℚ) - ((b / 1000 : ℕ) : ℚ) - ((a : ℚ) - b) / 1000| < 1 := by
  have ha : 1000 * (a / 1000) ≤ a ∧ a < 1000 * (a / 1000) + 1000 := by omega
  have hb : 1000 * (b / 1000) ≤ b ∧ b < 1000 * (b / 1000) + 1000 := by omega
  have ha₁ : (1000 : ℚ) * ((a / 1000 : ℕ) : ℚ) ≤ a := by exact_mod_cast ha.1
  have ha₂ : (a : ℚ) < 1000 * ((a / 1000 : ℕ) : ℚ) + 1000 := by exact_mod_cast ha.2
  have hb₁ : (1000 : ℚ) * ((b / 1000 : ℕ) : ℚ) ≤ b := by exact_mod_cast hb.1
  have hb₂ : (b : ℚ) < 1000 * ((b / 1000 : ℕ) : ℚ) + 1000 := by exact_mod_cast hb.2
  rw [abs_lt]
  constructor <;> linarith

theorem toNat_timecode (call : MediaCall) :
    call.timecode.toNat = (match call with
      | .video _ timing => timing.ptsUs
      | .audio _ timing => timing.ptsUs).toNat / 1000 := by
  cases call <;> exact UInt64.toNat_div ..

variable {delayMs : Int64} {chunk : TimedAudioChunk} {timing : MediaTiming}

/-- The cluster time of a PCM block whose shift is not cut off. -/
theorem toNat_timecode_audio (hrange : delayedPts timing delayMs < 2 ^ 64)
    (hpositive : 0 ≤ delayedPts timing delayMs) :
    (timedCall delayMs (.audio chunk, timing)).timecode.toNat =
      (delayedPts timing delayMs).toNat / 1000 := by
  have hshift := toNat_applyAudioDelay hrange
  rw [toNat_timecode]
  simp only [timedCall, mediaCall]
  rw [max_eq_left hpositive] at hshift
  rw [← hshift, Int.toNat_natCast]

/-- The delayed timestamp over the rationals. -/
theorem delayedPts_rat (hpositive : 0 ≤ delayedPts timing delayMs) :
    ((delayedPts timing delayMs).toNat : ℚ) =
      (timing.ptsUs.toNat : ℚ) + 1000 * (delayMs.toInt : ℚ) := by
  have hcast : (((delayedPts timing delayMs).toNat : ℤ) : ℚ) = (delayedPts timing delayMs : ℚ) :=
    congrArg Int.cast (Int.toNat_of_nonneg hpositive)
  rw [Int.cast_natCast] at hcast
  rw [hcast, delayedPts]
  push_cast
  rfl

/-- **The audio delay.** In every run, the loop writes the events of its
timeline, each with its timing, the audio shifted. For a PCM block whose
delayed timestamp is neither before the start of the stream nor past the range
of a timestamp, the cluster times of the block and of any frame differ by the
difference of their timestamps and the delay, up to one millisecond, and those
of two such blocks by the difference of their timestamps. A block that would
start before the stream is put at its start. Nothing but the timestamp is
changed. -/
theorem capture_delay {W : Type} [Write W] [Seek W] (origin : Instant) (delayMs : Int64)
    (writer : MatroskaWriter W) (turns : List CaptureTurn) :
    let capture := (runCaptureSession origin delayMs (new writer) turns).1
    Wrote delayMs writer capture ∧
      ∀ chunk timing, (.audio chunk, timing) ∈ capture.history.timed →
        delayedPts timing delayMs < 2 ^ 64 →
        ((applyAudioDelay timing delayMs).durationUs = timing.durationUs ∧
          (applyAudioDelay timing delayMs).observedDriftUs = timing.observedDriftUs ∧
          (applyAudioDelay timing delayMs).discontinuity = timing.discontinuity) ∧
        (delayedPts timing delayMs < 0 →
          (timedCall delayMs (.audio chunk, timing)).timecode = 0) ∧
        (0 ≤ delayedPts timing delayMs →
          (∀ frame timing', (.video frame, timing') ∈ capture.history.timed →
            |((timedCall delayMs (.audio chunk, timing)).timecode.toNat : ℚ) -
                ((timedCall delayMs (.video frame, timing')).timecode.toNat : ℚ) -
              (((timing.ptsUs.toNat : ℚ) - timing'.ptsUs.toNat) / 1000 + delayMs.toInt)| < 1) ∧
          ∀ chunk' timing', (.audio chunk', timing') ∈ capture.history.timed →
            delayedPts timing' delayMs < 2 ^ 64 → 0 ≤ delayedPts timing' delayMs →
              |((timedCall delayMs (.audio chunk, timing)).timecode.toNat : ℚ) -
                  ((timedCall delayMs (.audio chunk', timing')).timecode.toNat : ℚ) -
                ((timing.ptsUs.toNat : ℚ) - timing'.ptsUs.toNat) / 1000| < 1) := by
  intro capture
  refine ⟨wrote_run turns, fun chunk timing _ hrange => ⟨⟨rfl, rfl, rfl⟩, ?_, ?_⟩⟩
  · intro hnegative
    have hshift := toNat_applyAudioDelay hrange
    rw [max_eq_right hnegative.le] at hshift
    apply UInt64.toNat_inj.mp
    rw [toNat_timecode]
    simp only [timedCall, mediaCall]
    rw [Int.natCast_eq_zero.mp hshift]
    rfl
  · intro hpositive
    have haudio := @toNat_timecode_audio delayMs chunk timing hrange hpositive
    have hdelayed := delayedPts_rat hpositive
    refine ⟨fun frame timing' _ => ?_, fun chunk' timing' _ hrange' hpositive' => ?_⟩
    · -- only one of the two is shifted
      have hvideo : (timedCall delayMs (.video frame, timing')).timecode.toNat =
          timing'.ptsUs.toNat / 1000 := toNat_timecode _
      have hbound := truncation_difference (delayedPts timing delayMs).toNat timing'.ptsUs.toNat
      rw [haudio, hvideo]
      rw [hdelayed] at hbound
      convert hbound using 2
      ring
    · -- both are shifted alike
      have haudio' : (timedCall delayMs (.audio chunk', timing')).timecode.toNat =
          (delayedPts timing' delayMs).toNat / 1000 := toNat_timecode_audio hrange' hpositive'
      have hbound := truncation_difference (delayedPts timing delayMs).toNat
        (delayedPts timing' delayMs).toNat
      rw [haudio, haudio']
      rw [hdelayed, delayedPts_rat hpositive'] at hbound
      convert hbound using 2
      ring

/-- A PCM block at 20 ms. -/
def earlyChunk : TimedAudioChunk where
  observedStart := .fromMicros 20000
  timestampAccuracy := .hardware
  format := MediaCall.sampleFormat
  chunk := ⟨[1, 0, 2, 0], 0, 1⟩
  sourceDiscontinuity := false

/-- One turn, with that block and a frame at 80 ms. -/
def blockAndFrame : List CaptureTurn :=
  [⟨false, [.chunk earlyChunk],
    .ok (recordStart 0 40 ++ recordStart 40 80 ++ recordStart 80 120), false, false⟩]

/-- The timeline of a run of this turn. -/
theorem timed_blockAndFrame {delayMs : Int64}
    (htimed : (runCaptureSession 0 delayMs (new sampleWriter) blockAndFrame).1.history.timed.map
      (fun timed => (timed.1.track, timed.2.ptsUs)) = [(.audio, 20000), (.video, 80000)]) :
    ∃ chunk timing frame timing',
      (runCaptureSession 0 delayMs (new sampleWriter) blockAndFrame).1.history.timed =
        [(.audio chunk, timing), (.video frame, timing')] ∧
      timing.ptsUs = 20000 ∧ timing'.ptsUs = 80000 := by
  generalize (runCaptureSession 0 delayMs (new sampleWriter) blockAndFrame).1.history.timed = timed
    at htimed ⊢
  rcases timed with _ | ⟨⟨first | first, timing⟩, _ | ⟨⟨second | second, timing'⟩, _ | _⟩⟩ <;>
    simp [TimedMediaEvent.track] at htimed
  exact ⟨_, _, _, _, rfl, htimed.1, htimed.2⟩

/-- A delay of 60 ms. -/
theorem capture_delay_later :
    ∃ chunk timing frame timing',
      (runCaptureSession 0 60 (new sampleWriter) blockAndFrame).1.history.timed =
        [(.audio chunk, timing), (.video frame, timing')] ∧
      |((timedCall 60 (.audio chunk, timing)).timecode.toNat : ℚ) -
          ((timedCall 60 (.video frame, timing')).timecode.toNat : ℚ) -
        (((timing.ptsUs.toNat : ℚ) - timing'.ptsUs.toNat) / 1000 + (60 : Int64).toInt)| < 1 := by
  obtain ⟨chunk, timing, frame, timing', htimed, hpts, -⟩ :=
    @timed_blockAndFrame 60 (by decide +kernel)
  have hdelayed : delayedPts timing 60 = 80000 := by
    rw [delayedPts, hpts]
    rfl
  refine ⟨chunk, timing, frame, timing', htimed, ?_⟩
  exact (((capture_delay 0 60 sampleWriter blockAndFrame).2 chunk timing (by simp [htimed])
    (by rw [hdelayed]; norm_num)).2.2 (by rw [hdelayed]; norm_num)).1 frame timing' (by simp [htimed])

/-- **An advance beyond the first block** is cut off: with 100 ms of it the
block at 20 ms is put 40 ms before the frame at 80 ms, where 120 ms would be
right. -/
theorem capture_delay_advance : ¬ ∀ (delayMs : Int64) (turns : List CaptureTurn),
    let capture := (runCaptureSession 0 delayMs (new sampleWriter) turns).1
    ∀ chunk timing, (.audio chunk, timing) ∈ capture.history.timed →
      delayedPts timing delayMs < 2 ^ 64 →
      ∀ frame timing', (.video frame, timing') ∈ capture.history.timed →
        |((timedCall delayMs (.audio chunk, timing)).timecode.toNat : ℚ) -
            ((timedCall delayMs (.video frame, timing')).timecode.toNat : ℚ) -
          (((timing.ptsUs.toNat : ℚ) - timing'.ptsUs.toNat) / 1000 + delayMs.toInt)| < 1 := by
  intro h
  obtain ⟨chunk, timing, frame, timing', htimed, hpts, hpts'⟩ :=
    @timed_blockAndFrame (-100) (by decide +kernel)
  have hdelayed : delayedPts timing (-100) = -80000 := by
    rw [delayedPts, hpts]
    rfl
  have hbound := h (-100) blockAndFrame chunk timing (by simp [htimed])
    (by rw [hdelayed]; norm_num) frame timing' (by simp [htimed])
  have haudio : (timedCall (-100) (.audio chunk, timing)).timecode.toNat = 0 := by
    simp only [toNat_timecode, timedCall, mediaCall, applyAudioDelay, hpts]
    decide
  have hvideo : (timedCall (-100) (.video frame, timing')).timecode.toNat = 80 := by
    simp only [toNat_timecode, timedCall, mediaCall, hpts']
    decide
  have hdelay : ((-100 : Int64).toInt : ℚ) = -100 := by
    have hint : (-100 : Int64).toInt = -100 := rfl
    rw [hint]
    norm_num
  have hstart : (20000 : UInt64).toNat = 20000 := rfl
  have hstart' : (80000 : UInt64).toNat = 80000 := rfl
  rw [haudio, hvideo, hpts, hpts', hdelay, hstart, hstart'] at hbound
  norm_num [abs_lt] at hbound

end Capture

end Handycam
