import Handycam.Mealy
import Handycam.Media

/-!
# The A/V timeline

`AvSynchronizer` places the events of two tracks on one timeline. Each track
is anchored at its first accepted event: that event gets its observed time,
and every later one is placed by its own media clock from there.

The second half is the closed form. `expectedTiming` says what an event gets
from the accepted events of its track before it; `eventTiming_timeline` says
that the synchronizer's state is a function of the events so far, and that it
answers accordingly.
-/

namespace Handycam

/-- Timing attached to one encoded video frame or PCM block. -/
structure MediaTiming where
  /-- presentation timestamp relative to stream start -/
  ptsUs : UInt64
  /-- how long the event lasts -/
  durationUs : UInt64
  /-- observed time minus presentation timestamp -/
  observedDriftUs : Int64
  /-- the media clock did not advance by the expected amount -/
  discontinuity : Bool
  deriving DecidableEq

/-- Errors of the synchronizer. -/
inductive SynchronizationError where
  /-- the event was observed before the stream started -/
  | observationBeforeStreamStart (streamStart observed : MonotonicTimestamp)
  deriving DecidableEq

/-- A point of a media clock and its place on the timeline. -/
structure ClockAnchor where
  /-- position on the media clock -/
  mediaPositionUs : UInt64
  /-- presentation timestamp -/
  ptsUs : UInt64
  deriving DecidableEq

/-- The state of the synchronizer. -/
structure AvSynchronizer where
  /-- the synchronization event -/
  streamStart : MonotonicTimestamp
  /-- anchor of the video track -/
  videoAnchor : Option ClockAnchor
  /-- anchor of the audio track -/
  audioAnchor : Option ClockAnchor
  /-- where the last video event ended -/
  lastVideoPositionUs : Option UInt64
  /-- where the last audio event ended -/
  lastAudioEndUs : Option UInt64
  deriving DecidableEq

/-- The result of timing one event. -/
abbrev TimingResult : Type := Except SynchronizationError MediaTiming

/-! ## The code -/

/-- The anchor moved to another position of its clock. -/
def anchoredPts (anchor : ClockAnchor) (positionUs : UInt64) : UInt64 :=
  if anchor.mediaPositionUs ≤ positionUs then
    anchor.ptsUs.saturatingAdd (positionUs - anchor.mediaPositionUs)
  else
    anchor.ptsUs.saturatingSub (anchor.mediaPositionUs - positionUs)

/-- A number of sample frames in microseconds. -/
def samplesToUs (sampleFrames : UInt64) (sampleRateHz : UInt32) : UInt64 :=
  sampleFrames.saturatingMul 1000000 / sampleRateHz.toUInt64

/-- `left - right` within the range of `i64`. -/
def signedDifference (left right : UInt64) : Int64 :=
  Int64.ofIntClamp (left.toNat - right.toNat)

/-- What `video_timing` and `audio_timing` do alike: the anchor and the end
position they leave on their track, and the timing of the event. -/
def trackTiming (anchor : Option ClockAnchor) (last : Option UInt64)
    (positionUs durationUs observedPtsUs : UInt64) (sourceDiscontinuity : Bool) :
    ClockAnchor × UInt64 × MediaTiming :=
  let anchor := anchor.getD ⟨positionUs, observedPtsUs⟩
  let ptsUs := anchoredPts anchor positionUs
  (anchor, positionUs.saturatingAdd durationUs,
    { ptsUs := ptsUs
      durationUs := durationUs
      observedDriftUs := signedDifference observedPtsUs ptsUs
      discontinuity := sourceDiscontinuity || last.any (positionUs != ·) })

namespace AvSynchronizer

/-- A timeline that starts at an explicit synchronization event. -/
def new (streamStart : MonotonicTimestamp) : AvSynchronizer where
  streamStart := streamStart
  videoAnchor := none
  audioAnchor := none
  lastVideoPositionUs := none
  lastAudioEndUs := none

/-- The time of an observation since stream start. -/
def observedPts (sync : AvSynchronizer) (observed : MonotonicTimestamp) :
    Except SynchronizationError UInt64 :=
  match observed.durationSince sync.streamStart with
  | some duration => .ok duration
  | none => .error (.observationBeforeStreamStart sync.streamStart observed)

/-- Position a camera frame by its unwrapped millisecond timestamp. -/
def videoTiming (sync : AvSynchronizer) (event : TimedVideoFrame) :
    AvSynchronizer × TimingResult :=
  let positionUs := event.frame.timestampUnwrappedMs.saturatingMul 1000
  let durationUs := event.frame.timestampDeltaToNextMs.toUInt64.saturatingMul 1000
  match sync.observedPts event.observedAt with
  | .error error => (sync, .error error)
  | .ok observedPtsUs =>
    let (anchor, last, timing) := trackTiming sync.videoAnchor sync.lastVideoPositionUs positionUs
      durationUs observedPtsUs event.sourceDiscontinuity
    ({ sync with videoAnchor := some anchor, lastVideoPositionUs := some last }, .ok timing)

/-- Position a PCM block by its first sample frame and its length. -/
def audioTiming (sync : AvSynchronizer) (event : TimedAudioChunk) :
    AvSynchronizer × TimingResult :=
  let positionUs := samplesToUs event.chunk.startSampleFrame event.format.sampleRateHz
  let durationUs := samplesToUs event.chunk.sampleFrames.toUInt64 event.format.sampleRateHz
  match sync.observedPts event.observedStart with
  | .error error => (sync, .error error)
  | .ok observedPtsUs =>
    let (anchor, last, timing) := trackTiming sync.audioAnchor sync.lastAudioEndUs positionUs
      durationUs observedPtsUs event.sourceDiscontinuity
    ({ sync with audioAnchor := some anchor, lastAudioEndUs := some last }, .ok timing)

/-- Time an event of either track. -/
def eventTiming (sync : AvSynchronizer) : TimedMediaEvent → AvSynchronizer × TimingResult
  | .video frame => sync.videoTiming frame
  | .audio chunk => sync.audioTiming chunk

end AvSynchronizer

/-! ## Events by track -/

/-- The two tracks. -/
inductive MediaTrack where
  /-- camera frames -/
  | video
  /-- PCM blocks -/
  | audio
  deriving DecidableEq

namespace TimedMediaEvent

/-- The track of an event. -/
def track : TimedMediaEvent → MediaTrack
  | .video _ => .video
  | .audio _ => .audio

/-- When the event was observed. -/
def observed : TimedMediaEvent → MonotonicTimestamp
  | .video frame => frame.observedAt
  | .audio chunk => chunk.observedStart

/-- The position of the event on its media clock. -/
def positionUs : TimedMediaEvent → UInt64
  | .video frame => frame.frame.timestampUnwrappedMs.saturatingMul 1000
  | .audio chunk => samplesToUs chunk.chunk.startSampleFrame chunk.format.sampleRateHz

/-- The length of the event on its media clock. -/
def durationUs : TimedMediaEvent → UInt64
  | .video frame => frame.frame.timestampDeltaToNextMs.toUInt64.saturatingMul 1000
  | .audio chunk => samplesToUs chunk.chunk.sampleFrames.toUInt64 chunk.format.sampleRateHz

/-- The backend saw a loss before the event. -/
def sourceDiscontinuity : TimedMediaEvent → Bool
  | .video frame => frame.sourceDiscontinuity
  | .audio chunk => chunk.sourceDiscontinuity

/-- The event was observed at stream start or later. -/
def accepted (start : MonotonicTimestamp) (event : TimedMediaEvent) : Bool :=
  decide (start.micros.toNat ≤ event.observed.micros.toNat)

/-- Observed time since stream start. -/
def elapsed (start : MonotonicTimestamp) (event : TimedMediaEvent) : ℤ :=
  event.observed.micros.toNat - start.micros.toNat

end TimedMediaEvent

/-! ## The closed form -/

/-- The accepted events of a track. -/
def acceptedOn (start : MonotonicTimestamp) (track : MediaTrack) (events : List TimedMediaEvent) :
    List TimedMediaEvent :=
  events.filter fun event => event.track == track && event.accepted start

/-- The presentation timestamp of an event on a track whose first accepted
event is `first`, within the range of `u64`. -/
def expectedPts (start : MonotonicTimestamp) (first event : TimedMediaEvent) : ℤ :=
  max 0 (min (2 ^ 64 - 1)
    (first.elapsed start + (event.positionUs.toNat - first.positionUs.toNat)))

/-- The observed drift of an event, within the range of `i64`. -/
def expectedDrift (start : MonotonicTimestamp) (first event : TimedMediaEvent) : ℤ :=
  max (-2 ^ 63) (min (2 ^ 63 - 1) (event.elapsed start - expectedPts start first event))

/-- Where an event ends on its media clock, within the range of `u64`. -/
def endUs (event : TimedMediaEvent) : ℕ :=
  min (event.positionUs.toNat + event.durationUs.toNat) (2 ^ 64 - 1)

/-- An event that does not continue the accepted events of its track. -/
def expectedDiscontinuity (before : List TimedMediaEvent) (event : TimedMediaEvent) : Bool :=
  event.sourceDiscontinuity || before.getLast?.any fun last => event.positionUs.toNat != endUs last

/-- What an event gets from the accepted events of its track before it. -/
def expectedTiming (start : MonotonicTimestamp) (before : List TimedMediaEvent)
    (event : TimedMediaEvent) : MediaTiming where
  ptsUs := UInt64.ofNat (expectedPts start (before.headD event) event).toNat
  durationUs := event.durationUs
  observedDriftUs := Int64.ofInt (expectedDrift start (before.headD event) event)
  discontinuity := expectedDiscontinuity before event

/-- What any event gets after the events `past`. -/
def expectedResult (start : MonotonicTimestamp) (past : List TimedMediaEvent)
    (event : TimedMediaEvent) : TimingResult :=
  if event.accepted start then
    .ok (expectedTiming start (acceptedOn start event.track past) event)
  else
    .error (.observationBeforeStreamStart start event.observed)

/-- The anchor a track has after its accepted events. -/
def anchorOf (start : MonotonicTimestamp) (before : List TimedMediaEvent) : Option ClockAnchor :=
  before.head?.map fun first => ⟨first.positionUs, first.observed.micros - start.micros⟩

/-- The end position a track has after its accepted events. -/
def lastEndOf (before : List TimedMediaEvent) : Option UInt64 :=
  before.getLast?.map fun last => last.positionUs.saturatingAdd last.durationUs

/-- The state of the synchronizer after the events `past`. -/
def timeline (start : MonotonicTimestamp) (past : List TimedMediaEvent) : AvSynchronizer where
  streamStart := start
  videoAnchor := anchorOf start (acceptedOn start .video past)
  audioAnchor := anchorOf start (acceptedOn start .audio past)
  lastVideoPositionUs := lastEndOf (acceptedOn start .video past)
  lastAudioEndUs := lastEndOf (acceptedOn start .audio past)

/-! ## Arithmetic -/

theorem anchoredPts_toNat (anchor : ClockAnchor) (positionUs : UInt64) :
    ((anchoredPts anchor positionUs).toNat : ℤ) =
      max 0 (min (2 ^ 64 - 1)
        (anchor.ptsUs.toNat + (positionUs.toNat - anchor.mediaPositionUs.toNat : ℤ))) := by
  have hpts := anchor.ptsUs.toNat_lt
  rw [anchoredPts]
  split
  case isTrue h =>
    have hle := UInt64.le_iff_toNat_le.mp h
    rw [UInt64.toNat_saturatingAdd, UInt64.toNat_sub_of_le _ _ h]
    omega
  case isFalse h =>
    have hle := UInt64.not_le.mp h
    rw [UInt64.toNat_saturatingSub, UInt64.toNat_sub_of_le _ _ (UInt64.le_of_lt hle)]
    have hlt := UInt64.lt_iff_toNat_lt.mp hle
    omega

theorem signedDifference_eq (left right : UInt64) :
    signedDifference left right =
      Int64.ofInt (max (-2 ^ 63) (min (2 ^ 63 - 1) (left.toNat - right.toNat))) := by
  have hmin : Int64.minValue.toInt = -2 ^ 63 := by decide
  have hmax : Int64.maxValue.toInt = 2 ^ 63 - 1 := by decide
  rw [signedDifference, Int64.ofIntClamp]
  split
  · split
    · rw [Int64.ofIntLE_eq_ofInt]
      congr 1
      omega
    · rw [← Int64.ofInt_toInt Int64.maxValue]
      congr 1
      omega
  · rw [← Int64.ofInt_toInt Int64.minValue]
    congr 1
    omega

/-! ## One event -/

section Step

variable {start : MonotonicTimestamp} {event : TimedMediaEvent}

theorem accepted_iff :
    event.accepted start = true ↔ start.micros.toNat ≤ event.observed.micros.toNat :=
  decide_eq_true_iff

/-- The observed time of an accepted event is a word that means it. -/
theorem toNat_elapsed (h : event.accepted start = true) :
    ((event.observed.micros - start.micros).toNat : ℤ) = event.elapsed start := by
  have hle := accepted_iff.mp h
  rw [UInt64.toNat_sub_of_le _ _ (UInt64.le_iff_toNat_le.mpr hle), TimedMediaEvent.elapsed]
  omega

/-- The observation of an accepted event is its elapsed time; any other is an
error. -/
theorem observedPts_eq (sync : AvSynchronizer) (event : TimedMediaEvent) :
    sync.observedPts event.observed =
      if event.accepted sync.streamStart then
        .ok (event.observed.micros - sync.streamStart.micros)
      else .error (.observationBeforeStreamStart sync.streamStart event.observed) := by
  rw [AvSynchronizer.observedPts, MonotonicTimestamp.durationSince, UInt64.checkedSub]
  by_cases h : event.accepted sync.streamStart
  · rw [if_pos (UInt64.le_iff_toNat_le.mpr (accepted_iff.mp h)), if_pos h]
  · rw [if_neg fun hle => h (accepted_iff.mpr (UInt64.le_iff_toNat_le.mp hle)), if_neg h]

theorem accepted_of_mem_acceptedOn {track : MediaTrack} {past : List TimedMediaEvent}
    (h : event ∈ acceptedOn start track past) : event.accepted start = true :=
  (Bool.and_eq_true_iff.mp (List.mem_filter.mp h).2).2

/-- The common body places an accepted event as the closed form says, and
leaves the anchor and the end of the track with the event. -/
theorem trackTiming_eq {before : List TimedMediaEvent}
    (hbefore : ∀ earlier ∈ before, earlier.accepted start = true)
    (h : event.accepted start = true) :
    ∃ anchor last,
      trackTiming (anchorOf start before) (lastEndOf before) event.positionUs event.durationUs
          (event.observed.micros - start.micros) event.sourceDiscontinuity =
        (anchor, last, expectedTiming start before event) ∧
      anchorOf start (before ++ [event]) = some anchor ∧
      lastEndOf (before ++ [event]) = some last := by
  have hfirst : (before.headD event).accepted start = true := by
    cases before with
    | nil => exact h
    | cons first rest => exact hbefore first (List.mem_cons_self ..)
  have hanchor : (anchorOf start before).getD
      ⟨event.positionUs, event.observed.micros - start.micros⟩ =
        ⟨(before.headD event).positionUs, (before.headD event).observed.micros - start.micros⟩ := by
    cases before <;> rfl
  have hpts : anchoredPts ⟨(before.headD event).positionUs,
      (before.headD event).observed.micros - start.micros⟩ event.positionUs =
        UInt64.ofNat (expectedPts start (before.headD event) event).toNat := by
    rw [← UInt64.toNat_inj, ← Int.natCast_inj, anchoredPts_toNat, toNat_elapsed hfirst,
      UInt64.toNat_ofNat', expectedPts]
    dsimp only
    omega
  have hdrift : signedDifference (event.observed.micros - start.micros)
      (UInt64.ofNat (expectedPts start (before.headD event) event).toNat) =
        Int64.ofInt (expectedDrift start (before.headD event) event) := by
    rw [signedDifference_eq, toNat_elapsed h, ← hpts, anchoredPts_toNat, toNat_elapsed hfirst]
    rfl
  have hlast : (lastEndOf before).any (event.positionUs != ·) =
      before.getLast?.any fun last => event.positionUs.toNat != endUs last := by
    rw [lastEndOf, Option.any_map]
    congr 1
    funext last
    rw [endUs, ← UInt64.toNat_saturatingAdd, Bool.eq_iff_iff]
    simp [← UInt64.toNat_inj]
  refine ⟨⟨(before.headD event).positionUs, (before.headD event).observed.micros - start.micros⟩,
    event.positionUs.saturatingAdd event.durationUs, ?_, ?_, ?_⟩
  · rw [trackTiming, hanchor, hpts, hdrift, hlast]
    rfl
  · rw [anchorOf, List.head?_append]
    cases before <;> rfl
  · rw [lastEndOf, List.getLast?_append]
    rfl

theorem acceptedOn_concat (track : MediaTrack) (past : List TimedMediaEvent) :
    acceptedOn start track (past ++ [event]) =
      acceptedOn start track past ++
        if event.track == track && event.accepted start then [event] else [] := by
  rw [acceptedOn, List.filter_append, List.filter_singleton, acceptedOn]
  by_cases h : event.track == track && event.accepted start <;> simp [h]

/-- The anchor of a track. -/
def AvSynchronizer.anchor (sync : AvSynchronizer) : MediaTrack → Option ClockAnchor
  | .video => sync.videoAnchor
  | .audio => sync.audioAnchor

/-- Where the last event of a track ended. -/
def AvSynchronizer.lastEnd (sync : AvSynchronizer) : MediaTrack → Option UInt64
  | .video => sync.lastVideoPositionUs
  | .audio => sync.lastAudioEndUs

/-- The synchronizer with another anchor and end position on one track. -/
def AvSynchronizer.setTrack (sync : AvSynchronizer) (anchor : ClockAnchor) (last : UInt64) :
    MediaTrack → AvSynchronizer
  | .video => { sync with videoAnchor := some anchor, lastVideoPositionUs := some last }
  | .audio => { sync with audioAnchor := some anchor, lastAudioEndUs := some last }

/-- An event changes its own track only, and none when it is refused. -/
theorem eventTiming_eq (sync : AvSynchronizer) (event : TimedMediaEvent) :
    sync.eventTiming event =
      match sync.observedPts event.observed with
      | .error error => (sync, .error error)
      | .ok observedPtsUs =>
        let (anchor, last, timing) := trackTiming (sync.anchor event.track)
          (sync.lastEnd event.track) event.positionUs event.durationUs observedPtsUs
          event.sourceDiscontinuity
        (sync.setTrack anchor last event.track, .ok timing) := by
  cases event <;> rfl

/-- **The synchronizer's state is a function of the events so far.** An event
before stream start is an error and changes nothing; any other is timed by the
closed form. -/
theorem eventTiming_timeline (past : List TimedMediaEvent) (event : TimedMediaEvent) :
    (timeline start past).eventTiming event =
      (timeline start (past ++ [event]), expectedResult start past event) := by
  have hanchorOf : (timeline start past).anchor event.track =
      anchorOf start (acceptedOn start event.track past) := by cases event <;> rfl
  have hlastOf : (timeline start past).lastEnd event.track =
      lastEndOf (acceptedOn start event.track past) := by cases event <;> rfl
  have hstart : (timeline start past).streamStart = start := rfl
  rw [eventTiming_eq, observedPts_eq, expectedResult, hanchorOf, hlastOf, hstart]
  by_cases h : event.accepted start
  · have hpast : ∀ earlier ∈ acceptedOn start event.track past, earlier.accepted start = true :=
      fun _ => accepted_of_mem_acceptedOn
    obtain ⟨anchor, last, htiming, hanchor, hlast⟩ := trackTiming_eq hpast h
    have hnext : (timeline start past).setTrack anchor last event.track =
        timeline start (past ++ [event]) := by
      rcases htrack : event.track with _ | _ <;> rw [htrack] at hanchor hlast
      all_goals
        simp [timeline, acceptedOn_concat, AvSynchronizer.setTrack, htrack, h, hanchor, hlast]
    simp only [if_pos h, htiming, hnext]
  · have hnext : timeline start (past ++ [event]) = timeline start past := by
      simp [timeline, acceptedOn_concat, h]
    simp only [if_neg h, hnext]

end Step

/-! ## Runs -/

theorem timeline_nil (start : MonotonicTimestamp) : timeline start [] = AvSynchronizer.new start :=
  rfl

/-- The timings of a run, each from the events before it. -/
theorem outputs_timeline (start : MonotonicTimestamp) (events : List TimedMediaEvent) :
    Mealy.final AvSynchronizer.eventTiming (AvSynchronizer.new start) events =
        timeline start events ∧
      Mealy.outputs AvSynchronizer.eventTiming (AvSynchronizer.new start) events =
        Mealy.history (expectedResult start) [] events := by
  have hstep : ∀ past event, True → (timeline start past).eventTiming event =
      (timeline start (past ++ [event]), expectedResult start past event) :=
    fun past event _ => eventTiming_timeline past event
  have hok : ∀ n ≤ events.length, True := fun _ _ => trivial
  have hrun := Mealy.outputs_eq_history (fun _ => True) hstep [] hok
  rwa [timeline_nil, List.nil_append] at hrun

/-- Dropping events that the track does not accept anyway changes nothing. -/
theorem acceptedOn_filter {start : MonotonicTimestamp} {track : MediaTrack}
    {p : TimedMediaEvent → Bool}
    (hp : ∀ event : TimedMediaEvent, event.track = track → event.accepted start → p event)
    (past : List TimedMediaEvent) :
    acceptedOn start track (past.filter p) = acceptedOn start track past := by
  rw [acceptedOn, List.filter_filter]
  refine List.filter_congr fun event _ => ?_
  rw [Bool.eq_iff_iff, Bool.and_eq_true, Bool.and_eq_true, beq_iff_eq]
  exact and_iff_left_of_imp fun h => hp event h.1 h.2

/-- An event's result depends on the earlier events of its own track only. -/
theorem expectedResult_track {start : MonotonicTimestamp} {track : MediaTrack}
    {event : TimedMediaEvent} (past : List TimedMediaEvent) (h : event.track == track) :
    expectedResult start past event =
      expectedResult start (past.filter fun earlier => earlier.track == track) event := by
  obtain rfl : event.track = track := by simpa using h
  rw [expectedResult, expectedResult, acceptedOn_filter]
  intro earlier htrack _
  simpa using htrack

/-- An accepted event's result depends on the earlier accepted events only. -/
theorem expectedResult_accepted {start : MonotonicTimestamp} {event : TimedMediaEvent}
    (past : List TimedMediaEvent) :
    expectedResult start past event =
      expectedResult start (past.filter fun earlier => earlier.accepted start) event := by
  rw [expectedResult, expectedResult, acceptedOn_filter]
  exact fun _ _ h => h

/-- The events of a run that satisfy `p`, each with its result. -/
def timed (start : MonotonicTimestamp) (p : TimedMediaEvent → Bool)
    (events : List TimedMediaEvent) : List (TimedMediaEvent × TimingResult) :=
  (events.zip (Mealy.outputs AvSynchronizer.eventTiming (AvSynchronizer.new start) events)).filter
    fun result => p result.1

/-- The events of a run without the others, each with its result. -/
def timedAlone (start : MonotonicTimestamp) (p : TimedMediaEvent → Bool)
    (events : List TimedMediaEvent) : List (TimedMediaEvent × TimingResult) :=
  (events.filter p).zip
    (Mealy.outputs AvSynchronizer.eventTiming (AvSynchronizer.new start) (events.filter p))

theorem timed_eq {start : MonotonicTimestamp} {p : TimedMediaEvent → Bool}
    (hp : ∀ past event, p event →
      expectedResult start past event = expectedResult start (past.filter p) event)
    (events : List TimedMediaEvent) : timed start p events = timedAlone start p events := by
  rw [timed, timedAlone, (outputs_timeline start _).2, (outputs_timeline start _).2]
  exact Mealy.history_filter hp [] events

/-- The results of the events on one track, each from the events of the track
before it. -/
theorem mem_timed_track {start : MonotonicTimestamp} {track : MediaTrack}
    {events : List TimedMediaEvent} {event : TimedMediaEvent} {result : TimingResult} :
    (event, result) ∈ timed start (fun event => event.track == track) events ↔
      ∃ k, (events.filter fun event => event.track == track)[k]? = some event ∧
        result = expectedResult start
          ((events.filter fun event => event.track == track).take k) event := by
  rw [timed_eq fun past event h => expectedResult_track past h, timedAlone,
    (outputs_timeline start _).2, List.mem_iff_getElem?]
  refine exists_congr fun k => ?_
  rw [List.getElem?_zip_eq_some, Mealy.getElem?_history]
  refine and_congr_right fun hevent => ?_
  rw [hevent, Option.map_some, Option.some.injEq, List.nil_append]
  exact eq_comm

/-- The first accepted event of a track is the anchor of every later one. -/
theorem exists_anchor {start : MonotonicTimestamp} {track : MediaTrack}
    {events : List TimedMediaEvent} (htrack : ∀ event ∈ events, event.track = track) {k : ℕ}
    {event : TimedMediaEvent} (hevent : events[k]? = some event) (h : event.accepted start) :
    ∃ j first, j ≤ k ∧ events[j]? = some first ∧ first.accepted start ∧
      (acceptedOn start track (events.take k)).headD event = first ∧
      ∀ i other, events[i]? = some other → other.accepted start → j ≤ i := by
  have hpast : acceptedOn start track (events.take k) =
      (events.take k).filter fun event => event.accepted start := by
    refine List.filter_congr fun earlier hearlier => ?_
    rw [htrack earlier (List.mem_of_mem_take hearlier), beq_self_eq_true, Bool.true_and]
  have htake : events.take (k + 1) = events.take k ++ [event] := by
    rw [List.take_add_one, hevent]
    rfl
  have hhead : ((events.take (k + 1)).filter fun event => event.accepted start).head? =
      some (((events.take k).filter fun event => event.accepted start).headD event) := by
    rw [htake, List.filter_append, List.filter_singleton, h, cond_true, List.head?_append]
    cases (events.take k).filter fun event => event.accepted start <;> rfl
  rw [List.head?_filter, List.find?_eq_some_iff_getElem] at hhead
  obtain ⟨haccepted, j, hj, hfirst, hbefore⟩ := hhead
  rw [List.length_take] at hj
  rw [hpast]
  refine ⟨j, _, by omega, ?_, haccepted, rfl, ?_⟩
  · rw [← hfirst, List.getElem_take, List.getElem?_eq_getElem]
  · intro i other hother hsome
    by_contra hlt
    have hnot := hbefore i (Nat.not_le.mp hlt)
    rw [List.getElem_take, (List.getElem?_eq_some_iff.mp hother).2, hsome] at hnot
    cases hnot

/-- Two events that differ in their observed time only. -/
def sameMedia (event other : TimedMediaEvent) : Prop :=
  event.track = other.track ∧ event.positionUs = other.positionUs ∧
    event.durationUs = other.durationUs ∧ event.sourceDiscontinuity = other.sourceDiscontinuity

/-- **The closed form of the timeline.** The result of every event of every
interleaving is the one that the accepted events of its track before it give.
So a refused event leaves no trace, the tracks are timed independently, and
the observed time of an event that is not the first of its track reaches
neither its presentation timestamp nor anything that follows. -/
theorem eventTiming_closed_form (start : MonotonicTimestamp) :
    (∀ (events : List TimedMediaEvent) (n : ℕ),
        (Mealy.outputs AvSynchronizer.eventTiming (AvSynchronizer.new start) events)[n]? =
          events[n]?.map (expectedResult start (events.take n))) ∧
      (∀ events, timed start (·.accepted start) events =
        timedAlone start (·.accepted start) events) ∧
      (∀ events track, timed start (·.track == track) events =
        timedAlone start (·.track == track) events) ∧
      (∀ past event other, sameMedia event other → event.accepted start = true →
        other.accepted start = true → acceptedOn start event.track past ≠ [] →
        Mealy.final AvSynchronizer.eventTiming (AvSynchronizer.new start) (past ++ [event]) =
            Mealy.final AvSynchronizer.eventTiming (AvSynchronizer.new start) (past ++ [other]) ∧
          (expectedResult start past event).map MediaTiming.ptsUs =
            (expectedResult start past other).map MediaTiming.ptsUs) := by
  refine ⟨?_, ?_, ?_, ?_⟩
  · intro events n
    rw [(outputs_timeline start events).2, Mealy.getElem?_history, List.nil_append]
  · intro events
    exact timed_eq (fun past _ _ => expectedResult_accepted past) events
  · intro events track
    exact timed_eq (fun past _ h => expectedResult_track past h) events
  · rintro past event other ⟨htrack, hposition, hduration, -⟩ haccepted hother hne
    obtain ⟨first, before, hbefore⟩ := List.exists_cons_of_ne_nil hne
    refine ⟨?_, ?_⟩
    · rw [(outputs_timeline start _).1, (outputs_timeline start _).1]
      -- the anchor stays with the first event, and the end needs no observed time
      have hanchor : ∀ e : TimedMediaEvent, anchorOf start (acceptedOn start event.track past ++ [e]) =
          anchorOf start (acceptedOn start event.track past) := by
        intro e
        rw [hbefore]
        rfl
      have hlast : lastEndOf (acceptedOn start event.track past ++ [event]) =
          lastEndOf (acceptedOn start event.track past ++ [other]) := by
        simp [lastEndOf, hposition, hduration]
      rcases h : event.track with _ | _
      all_goals
        rw [h] at hanchor hlast htrack
        simp [timeline, acceptedOn_concat, h, ← htrack, haccepted, hother, hanchor, hlast]
    · rw [expectedResult, expectedResult, if_pos haccepted, if_pos hother, ← htrack, hbefore]
      simp [expectedTiming, expectedPts, hposition, Except.map]

/-- A frame observed at `micros`, at a camera time with a delta of 40 ms. -/
def sampleFrame (micros timestampUnwrappedMs : UInt64) : TimedMediaEvent :=
  .video
    { observedAt := .fromMicros micros
      frame :=
        { sequence := 0
          timestamp11bitMs := 0
          timestampUnwrappedMs := timestampUnwrappedMs
          timestampDeltaToNextMs := 40
          flags := 0
          jpeg := [] }
      sourceDiscontinuity := false }

/-- A jittered frame keeps its place and leaves the state as if it had been on
time; a frame before stream start is in the way of neither. -/
theorem eventTiming_closed_form_sample :
    let start := MonotonicTimestamp.fromMicros 1000
    let past := [sampleFrame 900 0, sampleFrame 1100 0]
    Mealy.final AvSynchronizer.eventTiming (AvSynchronizer.new start)
        (past ++ [sampleFrame 41100 40]) =
      Mealy.final AvSynchronizer.eventTiming (AvSynchronizer.new start)
        (past ++ [sampleFrame 90000 40]) :=
  ((eventTiming_closed_form (.fromMicros 1000)).2.2.2
    [sampleFrame 900 0, sampleFrame 1100 0] (sampleFrame 41100 40) (sampleFrame 90000 40)
    ⟨rfl, rfl, rfl, rfl⟩ (by decide) (by decide) (by decide)).1

/-- At the end of the `u64` range a repeated position is no discontinuity,
although the frame before it ended 40 ms later. -/
theorem eventTiming_saturated :
    let stuck := sampleFrame 0 (2 ^ 64 - 1)
    (Mealy.outputs AvSynchronizer.eventTiming (AvSynchronizer.new (.fromMicros 0))
        [stuck, stuck])[1]? =
        some (.ok ⟨0, 40000, 0, false⟩) ∧
      stuck.sourceDiscontinuity = false ∧
      stuck.positionUs.toNat ≠ stuck.positionUs.toNat + stuck.durationUs.toNat := by
  decide +kernel

end Handycam
