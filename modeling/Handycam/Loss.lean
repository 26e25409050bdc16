import Mathlib
import Handycam.Order

/-!
# Lost frames

A frame is reported as discontinuous by two parties: the loop remembers that a
packet or a record was lost, and the synchronizer notices that the camera clock
did not go on where the frame before it ended. The second never finds anything
that the first has not.

* **the loop** — `LossValid`: the frames carry the losses before them, and
  between losses the camera clock goes on;
* **the timeline** — `discontinuity_timed`: what the synchronizer makes of
  frames in the order of emission;
* **a run** — `capture_discontinuity`.
-/

namespace Handycam

/-- Where the camera clock is when a frame ends. -/
def Emission.endClock (emission : Emission) : UInt64 :=
  emission.clock + emission.event.frame.timestampDeltaToNextMs.toUInt64

namespace Capture

/-! ## Losses -/

section Losses

variable {W : Type} {origin : Instant} {capture : Capture W}

/-- An event of the session that loses something: a failed descriptor, or a
packet that the assembler answers with an error. -/
def loses (capture : Capture W) : SessionEvent → Bool
  | .packet endpoint data _ => !(capture.decoder.pushPacket ⟨endpoint, data⟩).2.isOk
  | .packetError .. => true
  | _ => false

/-- The epochs count the losses. -/
theorem handleUsbEvent_resets (event : SessionEvent) :
    (capture.handleUsbEvent origin event).1.history.resets =
      capture.history.resets + if capture.loses event then 1 else 0 := by
  cases event with
  | packet endpoint data receivedAt =>
    rcases hpush : capture.decoder.pushPacket ⟨endpoint, data⟩ with ⟨decoder, error | _ | frame⟩ <;>
      simp [handleUsbEvent, loses, hpush, Capture.recover, Except.isOk, Except.toBool]
  | packetError => rfl
  | transferFailed => rfl
  | submitFailed => rfl
  | callbackPanicked => rfl

end Losses

/-! ## The loop -/

/-- Whether anything was lost before each frame, since the frame before it; the
first argument is the number of losses before that one. -/
def lossFlags : ℕ → List Emission → List Bool
  | _, [] => []
  | epoch, emission :: emitted =>
    decide (emission.epoch ≠ epoch) :: lossFlags emission.epoch emitted

/-- The losses before the last frame; none before the first. -/
def lastEpoch (emitted : List Emission) : ℕ := (emitted.getLast?.map Emission.epoch).getD 0

theorem lossFlags_append (epoch : ℕ) (emitted later : List Emission) :
    lossFlags epoch (emitted ++ later) = lossFlags epoch emitted ++
      lossFlags ((emitted.getLast?.map Emission.epoch).getD epoch) later := by
  induction emitted generalizing epoch with
  | nil => rfl
  | cons first emitted ih =>
    rw [List.cons_append, lossFlags, ih, lossFlags, List.getLast?_cons]
    cases emitted.getLast? <;> rfl

theorem length_lossFlags (epoch : ℕ) (emitted : List Emission) :
    (lossFlags epoch emitted).length = emitted.length := by
  induction emitted generalizing epoch with
  | nil => rfl
  | cons emission emitted ih => rw [lossFlags, List.length_cons, List.length_cons, ih]

theorem lastEpoch_concat (emitted : List Emission) (emission : Emission) :
    lastEpoch (emitted ++ [emission]) = emission.epoch := by
  rw [lastEpoch, List.getLast?_concat]
  rfl

section Loop

variable {W : Type} {origin : Instant} {delayMs : Int64} {capture : Capture W}

/-- What the loop knows about losses. -/
structure LossValid (capture : Capture W) : Prop where
  /-- each frame carries the losses before it -/
  flags : capture.emittedFrames.map TimedVideoFrame.sourceDiscontinuity =
    lossFlags 0 capture.history.emitted
  /-- the loop remembers a loss since the last frame -/
  pending : capture.videoSourceDiscontinuity =
    decide (capture.history.resets ≠ lastEpoch capture.history.emitted)
  /-- no frame is ahead of the losses -/
  epoch_le : lastEpoch capture.history.emitted ≤ capture.history.resets
  /-- between two losses a frame starts where the one before it ended -/
  chain : capture.history.emitted.IsChain fun emission next =>
    emission.epoch = next.epoch → next.clock = emission.endClock
  /-- without a loss since the last frame, a record is open where it ended -/
  following : ∀ last ∈ capture.history.emitted.getLast?, last.epoch = capture.history.resets →
    capture.decoder.discardFirstRecord = false ∧ capture.decoder.openClock = some last.endClock

/-- A failed descriptor or record is a loss, whatever the assembler did with it. -/
theorem LossValid.recover (h : capture.LossValid) (decoder : StreamDecoder) (received : ℕ) :
    (Capture.recover { capture with
      decoder := decoder, history.received := received }).LossValid := by
  have hlater : capture.history.resets + 1 ≠ lastEpoch capture.history.emitted :=
    Nat.ne_of_gt (Nat.lt_succ_of_le h.epoch_le)
  refine ⟨h.flags, (decide_eq_true hlater).symm, h.epoch_le.trans (Nat.le_succ _), h.chain, ?_⟩
  intro last hlast hepoch
  have hlast' : capture.history.emitted.getLast? = some last := hlast
  have hsame : lastEpoch capture.history.emitted = last.epoch := by
    rw [lastEpoch, hlast']
    rfl
  exact absurd (hepoch.symm.trans hsame.symm) hlater

/-- A packet that gives no frame leaves the open record where it is. -/
theorem LossValid.packet {packet : EndpointPacket} {decoder : StreamDecoder} {received : ℕ}
    (h : capture.LossValid) (hpush : capture.decoder.pushPacket packet = (decoder, .ok none)) :
    LossValid { capture with decoder := decoder, history.received := received } := by
  have hmove := StreamDecoder.pushPacket_clockMove (congrArg Prod.snd hpush)
  rw [hpush] at hmove
  refine ⟨h.flags, h.pending, h.epoch_le, h.chain, ?_⟩
  intro last hlast hepoch
  obtain ⟨hdiscard, hopen⟩ := h.following last hlast hepoch
  cases hmove with
  | stays hkeeps hclock => exact ⟨hkeeps.trans hdiscard, hclock.trans hopen⟩
  | starts hstart _ _ =>
    rcases hstart with hstart | hnone
    · rw [hdiscard] at hstart
      cases hstart
    · rw [StreamDecoder.openClock, hnone] at hopen
      cases hopen

/-- A frame takes the loss with it, and follows on the one before it if there
was none. -/
theorem LossValid.frame {packet : EndpointPacket} {decoder : StreamDecoder} {received : ℕ}
    {event : TimedVideoFrame} (h : capture.LossValid)
    (hpush : capture.decoder.pushPacket packet = (decoder, .ok (some event.frame)))
    (hevent : event.sourceDiscontinuity = capture.videoSourceDiscontinuity) :
    LossValid { capture with
      decoder := decoder
      videoSourceDiscontinuity := false
      history.received := received
      history.emitted := capture.history.emitted ++ [⟨capture.history.resets, event⟩] } := by
  have hmove := StreamDecoder.pushPacket_clockMove (congrArg Prod.snd hpush)
  rw [hpush] at hmove
  cases hmove with
  | advances _ hkeeps hopen hclock _ =>
    refine ⟨?_, ?_, ?_, ?_, ?_⟩
    · have hflags := h.flags
      rw [emittedFrames] at hflags ⊢
      dsimp only
      rw [List.map_append, List.map_append, lossFlags_append, hflags]
      exact congrArg (fun flag => lossFlags 0 capture.history.emitted ++ [flag])
        (hevent.trans h.pending)
    · dsimp only
      rw [lastEpoch_concat, decide_eq_false (not_not.mpr rfl)]
    · dsimp only
      rw [lastEpoch_concat]
    · refine List.isChain_append.mpr ⟨h.chain, List.isChain_singleton _, ?_⟩
      intro last hlast next hnext hepoch
      obtain rfl := Option.some.inj hnext
      exact Option.some.inj (hopen.symm.trans (h.following last hlast hepoch).2)
    · dsimp only
      intro last hlast _
      rw [List.getLast?_concat] at hlast
      obtain rfl := Option.some.inj hlast
      exact ⟨hkeeps, hclock⟩

theorem LossValid.usbEvent (h : capture.LossValid) (event : SessionEvent) :
    (capture.handleUsbEvent origin event).1.LossValid := by
  cases event with
  | packet endpoint data receivedAt =>
    rcases hpush : capture.decoder.pushPacket ⟨endpoint, data⟩ with ⟨decoder, error | _ | frame⟩ <;>
      simp only [handleUsbEvent, hpush]
    · exact h.recover decoder _
    · exact h.packet hpush
    · exact h.frame hpush rfl
  | packetError => exact h.recover capture.decoder capture.history.received
  | transferFailed => exact h
  | submitFailed => exact h
  | callbackPanicked => exact h

/-- What is neither decoded nor emitted says nothing about losses. -/
theorem LossValid.congr {other : Capture W} (h : capture.LossValid)
    (hdecoder : other.decoder = capture.decoder)
    (hpending : other.videoSourceDiscontinuity = capture.videoSourceDiscontinuity)
    (hemitted : other.history.emitted = capture.history.emitted)
    (hresets : other.history.resets = capture.history.resets) : other.LossValid := by
  refine ⟨?_, ?_, ?_, ?_, ?_⟩
  · rw [emittedFrames, hemitted]
    exact h.flags
  · rw [hpending, hresets, hemitted]
    exact h.pending
  · rw [hemitted, hresets]
    exact h.epoch_le
  · rw [hemitted]
    exact h.chain
  · rw [hemitted, hresets, hdecoder]
    exact h.following

theorem afterWrite_pending (result : EStateM.Result MatroskaError (MatroskaWriter W) Unit) :
    (capture.afterWrite result).1.videoSourceDiscontinuity = capture.videoSourceDiscontinuity := by
  cases result <;> rfl

/-- Writing loses nothing. -/
theorem write_pending [Write W] (timing : MediaTiming) (event : TimedMediaEvent) :
    (capture.write delayMs timing event).1.videoSourceDiscontinuity =
      capture.videoSourceDiscontinuity := by
  have hnoted : (capture.noteDrift event timing).videoSourceDiscontinuity =
      capture.videoSourceDiscontinuity := by
    cases event <;> rfl
  rw [← hnoted, write]
  generalize capture.noteDrift event timing = noted
  have hwrite := @afterWrite_pending _ noted
    ((mediaCall delayMs timing event).run.run noted.writer)
  rcases h : noted.afterWrite ((mediaCall delayMs timing event).run.run noted.writer)
    with ⟨next, _ | error⟩
  · rw [h] at hwrite
    have hcount : (next.countWritten event).videoSourceDiscontinuity =
        next.videoSourceDiscontinuity := by
      cases event <;> rfl
    exact hcount.trans hwrite
  · rwa [h] at hwrite

theorem lossValid_preserved [Write W] [Seek W] (origin : Instant) (delayMs : Int64) :
    Preserved origin delayMs (@LossValid W) where
  usbEvent _ event h := h.usbEvent event
  time capture event h := by
    rw [time]
    rcases capture.synchronizer.eventTiming event with ⟨synchronizer, error | timing⟩
    · exact h.congr rfl rfl rfl rfl
    · exact h.congr rfl rfl rfl rfl
  write capture timing event h := by
    obtain ⟨hhistory, hdecoder, -⟩ := write_frame delayMs capture timing event
    exact h.congr hdecoder (write_pending timing event) (congrArg _ hhistory) (congrArg _ hhistory)
  report capture due h := by
    obtain ⟨hhistory, hdecoder, -⟩ := report_frame capture due
    have hpending : (capture.report due).1.videoSourceDiscontinuity =
        capture.videoSourceDiscontinuity := by
      cases due with
      | false => rfl
      | true => exact afterWrite_pending _
    exact h.congr hdecoder hpending (congrArg _ hhistory) (congrArg _ hhistory)

theorem lossValid_new (writer : MatroskaWriter W) : (new writer).LossValid :=
  ⟨rfl, rfl, Nat.zero_le _, List.isChain_nil, fun _ hlast => by cases hlast⟩

end Loop

/-! ## The timeline -/

/-- The frames among timed events, with their timing. -/
def frameTimings (timed : List (TimedMediaEvent × MediaTiming)) :
    List (TimedVideoFrame × MediaTiming) :=
  timed.filterMap fun (event, timing) => event.frame?.map fun frame => (frame, timing)

theorem map_fst_frameTimings (timed : List (TimedMediaEvent × MediaTiming)) :
    (frameTimings timed).map Prod.fst = framesAmong (timed.map Prod.fst) := by
  rw [frameTimings, framesAmong, List.map_filterMap, List.filterMap_map]
  congr 1
  funext timed
  obtain ⟨event, timing⟩ := timed
  cases event <;> rfl

/-- The video track is made of the frames. -/
theorem acceptedOn_video (events : List TimedMediaEvent) :
    acceptedOn .zero .video events = (framesAmong events).map .video := by
  induction events with
  | nil => rfl
  | cons event events ih =>
    rw [acceptedOn] at ih ⊢
    cases event with
    | video frame =>
      rw [List.filter_cons_of_pos (by simp [TimedMediaEvent.track, accepted_zero]), ih]
      rfl
    | audio chunk =>
      rw [List.filter_cons_of_neg (by simp [TimedMediaEvent.track]), ih]
      rfl

/-- A frame that starts where another ended continues it on the timeline. -/
theorem positionUs_follows {emission next : Emission} (hnext : next.clock = emission.endClock)
    (hclock : emission.clock.toNat + emission.event.frame.timestampDeltaToNextMs.toNat < 2 ^ 64) :
    (TimedMediaEvent.video next.event).positionUs.toNat = endUs (.video emission.event) := by
  have hend : emission.endClock.toNat =
      emission.clock.toNat + emission.event.frame.timestampDeltaToNextMs.toNat := by
    rw [Emission.endClock, UInt64.toNat_add, UInt16.toNat_toUInt64, Nat.mod_eq_of_lt hclock]
  have hdelta := emission.event.frame.timestampDeltaToNextMs.toNat_lt
  have hduration : (TimedMediaEvent.video emission.event).durationUs.toNat =
      min (emission.event.frame.timestampDeltaToNextMs.toNat * 1000) (2 ^ 64 - 1) := by
    rw [TimedMediaEvent.durationUs, UInt64.toNat_saturatingMul, UInt16.toNat_toUInt64]
    rfl
  rw [positionUs_emission, hnext, hend, endUs, positionUs_emission, hduration]
  omega

/-- The next frame is discontinuous if something was lost before it: it carries
the loss, and without one it follows on the frame before it. -/
theorem discontinuity_next {past : List TimedMediaEvent} {emitted : List Emission}
    {emission : Emission} {timing : MediaTiming}
    (htiming : expectedResult .zero past (.video emission.event) = .ok timing)
    (hpast : framesAmong past = emitted.map Emission.event)
    (hflag : emission.event.sourceDiscontinuity = decide (emission.epoch ≠ lastEpoch emitted))
    (hjoint : ∀ last ∈ emitted.getLast?, last.epoch = emission.epoch →
      emission.clock = last.endClock)
    (hclock : ∀ emission ∈ emitted,
      emission.clock.toNat + emission.event.frame.timestampDeltaToNextMs.toNat < 2 ^ 64) :
    timing.discontinuity = decide (emission.epoch ≠ lastEpoch emitted) := by
  rw [expectedResult, if_pos (accepted_zero _)] at htiming
  obtain rfl := Except.ok.inj htiming
  change expectedDiscontinuity (acceptedOn .zero .video past) (.video emission.event) = _
  rw [acceptedOn_video, hpast, expectedDiscontinuity, ← hflag, List.getLast?_map, List.getLast?_map]
  change (emission.event.sourceDiscontinuity || _) = _
  by_cases hloss : emission.epoch ≠ lastEpoch emitted
  · rw [hflag, decide_eq_true hloss, Bool.true_or]
  · rw [hflag, decide_eq_false hloss, Bool.false_or]
    cases hlast : emitted.getLast? with
    | none => rfl
    | some last =>
      have hepoch : last.epoch = emission.epoch := by
        rw [not_not, lastEpoch, hlast] at hloss
        exact hloss.symm
      have hposition := positionUs_follows (hjoint last hlast hepoch)
        (hclock last (List.mem_of_getLast? hlast))
      simp [hposition]

/-- Frames that are on the timeline as they were emitted are discontinuous
where something was lost. -/
theorem discontinuity_timed {timed : List (TimedMediaEvent × MediaTiming)} {emitted : List Emission}
    (hvalid : ∀ past event timing later, timed = past ++ (event, timing) :: later →
      expectedResult .zero (past.map Prod.fst) event = .ok timing)
    (hframes : framesAmong (timed.map Prod.fst) = emitted.map Emission.event)
    (hflags : emitted.map (·.event.sourceDiscontinuity) = lossFlags 0 emitted)
    (hchain : emitted.IsChain fun emission next =>
      emission.epoch = next.epoch → next.clock = emission.endClock)
    (hclock : ∀ emission ∈ emitted,
      emission.clock.toNat + emission.event.frame.timestampDeltaToNextMs.toNat < 2 ^ 64) :
    (frameTimings timed).map (·.2.discontinuity) = lossFlags 0 emitted := by
  induction timed using List.reverseRecOn generalizing emitted with
  | nil =>
    obtain rfl := List.map_eq_nil_iff.mp hframes.symm
    rfl
  | append_singleton timed last ih =>
    obtain ⟨event, timing⟩ := last
    have hearlier : ∀ past other otherTiming later,
        timed = past ++ (other, otherTiming) :: later →
          expectedResult .zero (past.map Prod.fst) other = .ok otherTiming := by
      intro past other otherTiming later hsplit
      refine hvalid past other otherTiming (later ++ [(event, timing)]) ?_
      rw [hsplit, List.append_assoc]
      rfl
    have hlast := hvalid timed event timing [] rfl
    rw [List.map_append, framesAmong_append] at hframes
    rw [frameTimings, List.filterMap_append, List.map_append]
    cases event with
    | audio chunk =>
      -- the timings of the frames stay as they are
      rw [show framesAmong ([(TimedMediaEvent.audio chunk, timing)].map Prod.fst) = [] from rfl,
        List.append_nil] at hframes
      exact (List.append_nil _).trans (ih hearlier hframes hflags hchain hclock)
    | video frame =>
      -- the frame is the last of those emitted; what is before it is the induction's
      obtain ⟨before, lastOne, rfl, hbefore, hone⟩ := List.map_eq_append_iff.mp hframes.symm
      obtain ⟨emission, rfl, rfl⟩ := List.map_eq_singleton_iff.mp hone
      obtain ⟨hchain, -, hjoint⟩ := List.isChain_append.mp hchain
      rw [List.map_append, lossFlags_append] at hflags
      obtain ⟨hflags, hflag⟩ := List.append_inj' hflags rfl
      have hearlierClock := fun emission hmem => hclock emission (List.mem_append_left _ hmem)
      rw [lossFlags_append]
      refine congrArg₂ (· ++ ·) (ih hearlier hbefore.symm hflags hchain hearlierClock) ?_
      have hnext := @discontinuity_next (timed.map Prod.fst) before emission timing hlast
        hbefore.symm (List.singleton_inj.mp hflag)
        (fun last hlast => hjoint last hlast emission rfl) hearlierClock
      exact congrArg (fun flag => [flag]) hnext

/-! ## A run -/

/-- **Losses of frames are reported exactly.** In a run no turn of which has two
frames, and in which the camera clock does not overflow, a frame on the
timeline is discontinuous if and only if a failed descriptor or an error of the
assembler came since the frame before it. All frames are on the timeline, as
long as the loop goes on. -/
theorem capture_discontinuity {W : Type} [Write W] [Seek W] (origin : Instant) (delayMs : Int64)
    (writer : MatroskaWriter W) (turns : List CaptureTurn)
    (hsingle : ∀ frames ∈ framesByTurn origin delayMs (new writer) turns, frames.length ≤ 1)
    (hclock : ∀ emission ∈ (runCaptureSession origin delayMs (new writer) turns).1.history.emitted,
      emission.clock.toNat + emission.event.frame.timestampDeltaToNextMs.toNat < 2 ^ 64) :
    (frameTimings (runCaptureSession origin delayMs (new writer) turns).1.history.timed).map
        Prod.fst <+:
      (runCaptureSession origin delayMs (new writer) turns).1.history.emitted.map Emission.event ∧
    (frameTimings (runCaptureSession origin delayMs (new writer) turns).1.history.timed).map
        (·.2.discontinuity) <+:
      lossFlags 0 (runCaptureSession origin delayMs (new writer) turns).1.history.emitted ∧
    ((runCaptureSession origin delayMs (new writer) turns).2 = none →
      (frameTimings (runCaptureSession origin delayMs (new writer) turns).1.history.timed).length =
        (runCaptureSession origin delayMs (new writer) turns).1.history.emitted.length) := by
  -- a turn with one frame at most keeps the order of emission
  have hordered : ∀ frames ∈ framesByTurn origin delayMs (new writer) turns,
      frames.Pairwise startsBefore := by
    intro frames hframes
    match frames, hsingle frames hframes with
    | [], _ => exact List.Pairwise.nil
    | [frame], _ => exact List.pairwise_singleton _ frame
  have hinitial := @timedFrames_initial W _ _ origin delayMs writer turns hordered
  have hall := @timedFrames_eq W _ _ origin delayMs writer turns hordered
  have htimeline := (timelineValid_preserved origin delayMs).run (timelineValid_new writer) turns
  have hloss := (lossValid_preserved origin delayMs).run (lossValid_new writer) turns
  generalize runCaptureSession origin delayMs (new writer) turns = run at *
  obtain ⟨capture, ending⟩ := run
  dsimp only at *
  have hlength : ending = none →
      (frameTimings capture.history.timed).length = capture.history.emitted.length := by
    intro hnone
    have hlengths := congrArg List.length (hall hnone)
    rwa [timedFrames, ← map_fst_frameTimings, List.length_map, emittedFrames,
      List.length_map] at hlengths
  rw [map_fst_frameTimings]
  refine ⟨hinitial, ?_, hlength⟩
  -- the loop may end with frames that are emitted, but not placed
  obtain ⟨unplaced, hsplit⟩ := hinitial
  obtain ⟨placed, rest, hemitted, hplaced, -⟩ := List.map_eq_append_iff.mp hsplit.symm
  have hflags := hloss.flags
  have hchain := hloss.chain
  rw [emittedFrames, hemitted, List.map_append, List.map_append, lossFlags_append] at hflags
  rw [hemitted] at hchain hclock ⊢
  have hcounts : ((placed.map Emission.event).map TimedVideoFrame.sourceDiscontinuity).length =
      (lossFlags 0 placed).length := by
    rw [List.length_map, List.length_map, length_lossFlags]
  rw [List.map_map] at hflags hcounts
  have htimed := discontinuity_timed htimeline.2 hplaced.symm (List.append_inj hflags hcounts).1
    (List.isChain_append.mp hchain).1 fun emission hmem =>
      hclock emission (List.mem_append_left _ hmem)
  rw [htimed, lossFlags_append]
  exact List.prefix_append _ _

/-- Two frames, a failed descriptor, and a third frame, each in a turn of its own. -/
def lossBetween : List CaptureTurn :=
  [usbTurn (recordStart 0 40 ++ recordStart 40 80 ++ recordStart 80 120),
    usbTurn (recordStart 120 160),
    usbTurn [.packetError .video 1],
    usbTurn (recordStart 160 200 ++ recordStart 200 240 ++ recordStart 240 280)]

theorem capture_discontinuity_lossBetween :
    (frameTimings (runCaptureSession 0 0 (new sampleWriter) lossBetween).1.history.timed).map
      (·.2.discontinuity) = [false, false, true] := by
  have hgoes : (runCaptureSession 0 0 (new sampleWriter) lossBetween).2 = none :=
    Option.isNone_iff_eq_none.mp (by decide +kernel)
  have hflags : lossFlags 0
      (runCaptureSession 0 0 (new sampleWriter) lossBetween).1.history.emitted =
        [false, false, true] := by
    decide +kernel
  obtain ⟨-, hinitial, hall⟩ := capture_discontinuity 0 0 sampleWriter lossBetween
    (by decide +kernel) (by decide +kernel)
  rw [hflags] at hinitial
  refine hinitial.eq_of_length ?_
  rw [List.length_map, hall hgoes, ← length_lossFlags 0, hflags]

end Capture

end Handycam
