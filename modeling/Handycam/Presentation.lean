import Mathlib
import Handycam.Loss
import Handycam.Oracle

/-!
# The presentation clock

The packets of a capture without audio, one in each turn of the loop: a packet
goes to the assembler, and the frame that it ends, if any, on the timeline. The
timeline follows the camera clock from the first frame on, and nothing else.

* **a run** — `PresentedAs`: while no record is lost, the frames on the
  timeline are the records of the packets received;
* **the closed form** — `pts_of_presented`: the presentation timestamp of a
  frame from the headers;
* **healthy clocks** — `presented_healthy_iff`: the timeline increases and stays
  near the observed times exactly when the camera clock does.
-/

namespace Handycam

/-! ## Packets with their times -/

/-- A packet, and when it was received. -/
structure ReceivedPacket where
  /-- the packet -/
  packet : EndpointPacket
  /-- when its callback ran -/
  receivedAt : Instant

/-- The event of the session for a packet. -/
def ReceivedPacket.event (received : ReceivedPacket) : SessionEvent :=
  .packet received.packet.endpoint received.packet.data received.receivedAt

/-- What the assembler sees. -/
def packetsSeen (received : List ReceivedPacket) : List EndpointPacket :=
  received.map ReceivedPacket.packet

/-- When `h(i)` was received. -/
def headerReceived (received : List ReceivedPacket) (i : ℕ) : Instant :=
  (received[headerPosition (packetsSeen received) i]?.map ReceivedPacket.receivedAt).getD 0

/-- The accepted headers are received one after another. -/
def HeadersInOrder (received : List ReceivedPacket) : Prop :=
  ((acceptedHeaders (packetsSeen received)).map fun n =>
    (received[n]?.map ReceivedPacket.receivedAt).getD 0).Pairwise (· < ·)

instance (received : List ReceivedPacket) : Decidable (HeadersInOrder received) :=
  inferInstanceAs (Decidable (List.Pairwise _ _))

/-- When record `i` is observed: the time `h(i + 1)` was received, less the
time between the headers as the camera counts it. -/
def recordObserved (origin : Instant) (received : List ReceivedPacket) (i : ℕ) :
    MonotonicTimestamp :=
  monotonicTimestamp origin (observedStart (headerReceived received (i + 1))
    (UInt16.ofNat (recordDelta (packetsSeen received) i)))

/-- How many records of the packets are frames, if none is lost: all but the
first, and the last, which is open. -/
def frameCount (received : List ReceivedPacket) : ℕ :=
  (acceptedHeaders (packetsSeen received)).length - 2

/-- The event of record `i`, as far as its place on the timeline depends on it. -/
def IsRecord (origin : Instant) (received : List ReceivedPacket) (i : ℕ) : TimedMediaEvent → Prop
  | .video frame =>
    frame.frame.timestampUnwrappedMs = UInt64.ofNat (recordClock (packetsSeen received) i) ∧
      frame.observedAt = recordObserved origin received i
  | .audio _ => False

section Longer

variable {received : List ReceivedPacket} {next : ReceivedPacket} {origin : Instant} {i : ℕ}

theorem packetsSeen_concat (received : List ReceivedPacket) (next : ReceivedPacket) :
    packetsSeen (received ++ [next]) = packetsSeen received ++ [next.packet] := by
  simp [packetsSeen]

theorem headerReceived_concat (next : ReceivedPacket)
    (h : i < (acceptedHeaders (packetsSeen received)).length) :
    headerReceived (received ++ [next]) i = headerReceived received i := by
  have hlt : headerPosition (packetsSeen received) i < received.length := by
    have := headerPosition_lt h
    rwa [packetsSeen, List.length_map] at this
  rw [headerReceived, headerReceived, packetsSeen_concat, headerPosition_append _ h,
    List.getElem?_append_left hlt]

theorem headerReceived_accept
    (h : next.packet.looksLikeHeader && boundarySince (packetsSeen received)) :
    headerReceived (received ++ [next]) (acceptedHeaders (packetsSeen received)).length =
      next.receivedAt := by
  rw [headerReceived, packetsSeen_concat, headerPosition_accept h]
  simp [packetsSeen]

/-- A record that is closed is the same record when a packet follows. -/
theorem isRecord_concat (next : ReceivedPacket)
    (h : i + 1 < (acceptedHeaders (packetsSeen received)).length) {event : TimedMediaEvent}
    (hrecord : IsRecord origin received i event) :
    IsRecord origin (received ++ [next]) i event := by
  cases event with
  | audio => exact hrecord.elim
  | video frame =>
    obtain ⟨hclock, hobserved⟩ := hrecord
    refine ⟨?_, ?_⟩
    · rw [hclock, packetsSeen_concat, recordClock_append _ (by omega)]
    · rw [hobserved, recordObserved, recordObserved, headerReceived_concat next h,
        packetsSeen_concat, recordDelta_append _ h]

/-- A header that reports nothing is one of the first two. -/
theorem headers_of_reportAt_none {packets : List EndpointPacket} {packet : EndpointPacket}
    (h : reportAt packets packet = .ok none)
    (haccept : packet.looksLikeHeader && boundarySince packets) :
    (acceptedHeaders packets).length < 2 := by
  rw [reportAt, if_pos haccept] at h
  rcases hm : (acceptedHeaders packets).length with _ | _ | i
  · decide
  · decide
  · rw [hm] at h
    rcases recordReport_cases (packets ++ [packet]) (i + 1) with ⟨-, hreport⟩ | ⟨-, jpeg, -, hreport⟩ <;>
      simp [hreport] at h

/-- A frame is that of the record before the last header. -/
theorem record_of_reportAt_some {packets : List EndpointPacket} {packet : EndpointPacket}
    {frame : CompressedFrame} (h : reportAt packets packet = .ok (some frame)) :
    (packet.looksLikeHeader && boundarySince packets) = true ∧
      ∃ i, (acceptedHeaders packets).length = i + 2 ∧
        frame.timestampUnwrappedMs = UInt64.ofNat (recordClock (packets ++ [packet]) (i + 1)) ∧
        frame.timestampDeltaToNextMs = UInt16.ofNat (recordDelta (packets ++ [packet]) (i + 1)) := by
  by_cases haccept : packet.looksLikeHeader && boundarySince packets
  · refine ⟨haccept, ?_⟩
    rw [reportAt, if_pos haccept] at h
    rcases hm : (acceptedHeaders packets).length with _ | _ | i
    · simp [hm] at h
    · simp [hm] at h
    · rw [hm] at h
      refine ⟨i, rfl, ?_⟩
      rcases recordReport_cases (packets ++ [packet]) (i + 1) with ⟨-, hreport⟩ | ⟨-, jpeg, -, hreport⟩
      · simp [hreport] at h
      · obtain rfl := Option.some.inj (Except.ok.inj (hreport.symm.trans h))
        exact ⟨rfl, rfl⟩
  · rw [reportAt, if_neg haccept] at h
    cases h

end Longer

namespace Capture

/-! ## The run -/

section Run

variable {W : Type} {origin : Instant} {capture : Capture W}

/-- A turn that finds one packet: the packet to the assembler, and the frame that
it ends, if any, on the timeline. -/
def present (origin : Instant) (capture : Capture W) (received : ReceivedPacket) : Capture W :=
  match capture.handleUsbEvent origin received.event with
  | (capture, .ok mediaEvents) =>
    mediaEvents.foldl (fun capture event => (capture.time event).1) capture
  | (capture, .error _) => capture

/-- One packet after another. -/
def presentAll (origin : Instant) (capture : Capture W) (received : List ReceivedPacket) :
    Capture W :=
  received.foldl (present origin) capture

theorem presentAll_concat (received : List ReceivedPacket) (next : ReceivedPacket) :
    presentAll origin capture (received ++ [next]) =
      (presentAll origin capture received).present origin next := by
  simp [presentAll]

/-- Placing an event touches neither the assembler nor the losses. -/
theorem time_frame (event : TimedMediaEvent) :
    (capture.time event).1.decoder = capture.decoder ∧
      (capture.time event).1.history.resets = capture.history.resets := by
  rcases h : capture.synchronizer.eventTiming event with ⟨synchronizer, error | timing⟩ <;>
    simp [time, h]

/-- A packet that ends no frame changes the assembler only. -/
theorem present_none {received : ReceivedPacket} {decoder : StreamDecoder}
    (h : capture.decoder.pushPacket received.packet = (decoder, .ok none)) :
    capture.present origin received =
      { capture with
        decoder := decoder
        history.received := capture.history.received + 1 } := by
  simp [present, handleUsbEvent, ReceivedPacket.event, h]

/-- A packet that ends a frame: the frame goes on the timeline. -/
theorem present_frame {received : ReceivedPacket} {decoder : StreamDecoder} {frame : CompressedFrame}
    (h : capture.decoder.pushPacket received.packet = (decoder, .ok (some frame))) :
    ∃ placing : Capture W, placing.decoder = decoder ∧
      placing.synchronizer = capture.synchronizer ∧
      placing.history.timed = capture.history.timed ∧
      placing.history.resets = capture.history.resets ∧
      capture.present origin received =
        (placing.time (.video (capture.frameEvent origin received.receivedAt frame))).1 := by
  let placing : Capture W :=
    { capture with
      decoder := decoder
      videoSourceDiscontinuity := false
      history.received := capture.history.received + 1
      history.emitted := capture.history.emitted ++
        [⟨capture.history.resets, capture.frameEvent origin received.receivedAt frame⟩] }
  refine ⟨placing, rfl, rfl, rfl, rfl, ?_⟩
  simp [placing, present, handleUsbEvent, ReceivedPacket.event, h, frameEvent]

/-- A packet that is answered with an error loses something. -/
theorem present_resets_error {received : ReceivedPacket} {decoder : StreamDecoder}
    {error : StreamDecodeError} (h : capture.decoder.pushPacket received.packet = (decoder, .error error)) :
    (capture.present origin received).history.resets = capture.history.resets + 1 := by
  simp [present, handleUsbEvent, ReceivedPacket.event, h, Capture.recover]

/-- A capture that has lost nothing had lost nothing before. -/
theorem present_resets (received : ReceivedPacket)
    (h : (capture.present origin received).history.resets = 0) :
    capture.history.resets = 0 ∧
      ∃ next answer, capture.decoder.pushPacket received.packet = (next, .ok answer) := by
  rcases hpush : capture.decoder.pushPacket received.packet with ⟨next, error | _ | frame⟩
  · rw [present_resets_error hpush] at h
    cases h
  · rw [present_none hpush] at h
    exact ⟨h, next, none, rfl⟩
  · obtain ⟨placing, -, -, -, hresets, hpresent⟩ := @present_frame _ origin _ _ _ _ hpush
    rw [hpresent, (time_frame _).2, hresets] at h
    exact ⟨h, next, some frame, rfl⟩

/-- After packets of which no record was lost: the assembler is where the
packets lead, and the timeline has the frames of the records. -/
structure PresentedAs (origin : Instant) (received : List ReceivedPacket) (capture : Capture W) :
    Prop where
  /-- the assembler follows the reference -/
  decoder : capture.decoder = abstractDecoder StreamDecoder.defaultMaxRecordSize (packetsSeen received)
  /-- the timings are those of the closed form -/
  timeline : capture.TimelineValid
  /-- every record is placed -/
  length : capture.history.timed.length = frameCount received
  /-- in the order of the records -/
  record : ∀ k event timing, capture.history.timed[k]? = some (event, timing) →
    IsRecord origin received (k + 1) event

theorem presentedAs_new (writer : MatroskaWriter W) : PresentedAs origin [] (new writer) where
  decoder := (abstractDecoder_nil _).symm
  timeline := ⟨rfl, fun past event timing later h => by simp [new] at h⟩
  length := rfl
  record k event timing h := by simp [new] at h

/-- A packet that keeps the records on the timeline, and their number. -/
theorem PresentedAs.present_continue {received : List ReceivedPacket} {next : ReceivedPacket}
    {decoder : StreamDecoder} (h : PresentedAs origin received capture)
    (hpush : capture.decoder.pushPacket next.packet = (decoder, .ok none)) :
    PresentedAs origin (received ++ [next]) (capture.present origin next) := by
  have hanswered := hpush
  rw [h.decoder] at hanswered
  obtain ⟨hdecoder, hreport⟩ := pushPacket_abstract_answered _ hanswered
  have hcount : frameCount (received ++ [next]) = frameCount received := by
    rw [frameCount, frameCount, packetsSeen_concat]
    by_cases haccept : next.packet.looksLikeHeader && boundarySince (packetsSeen received)
    · have hfew := headers_of_reportAt_none hreport haccept
      rw [acceptedHeaders_accept haccept, List.length_append, List.length_singleton]
      omega
    · rw [acceptedHeaders_continue haccept]
  rw [present_none hpush]
  refine ⟨by rw [hdecoder, packetsSeen_concat], h.timeline, by rw [hcount, h.length], ?_⟩
  intro k event timing hk
  have hlt : k < frameCount received := by
    rw [← h.length]
    exact (List.getElem?_eq_some_iff.mp hk).1
  rw [frameCount] at hlt
  exact isRecord_concat next (by omega) (h.record k event timing hk)

/-- A packet that ends a record puts its frame on the timeline. -/
theorem PresentedAs.present_frame {received : List ReceivedPacket} {next : ReceivedPacket}
    {decoder : StreamDecoder} {frame : CompressedFrame} (h : PresentedAs origin received capture)
    (hpush : capture.decoder.pushPacket next.packet = (decoder, .ok (some frame))) :
    PresentedAs origin (received ++ [next]) (capture.present origin next) := by
  have hanswered := hpush
  rw [h.decoder] at hanswered
  obtain ⟨hdecoder, hreport⟩ := pushPacket_abstract_answered _ hanswered
  obtain ⟨haccept, i, hheaders, hclock, hdelta⟩ := record_of_reportAt_some hreport
  have hbefore : frameCount received = i := by rw [frameCount, hheaders, Nat.add_sub_cancel]
  have hcount : frameCount (received ++ [next]) = i + 1 := by
    rw [frameCount, packetsSeen_concat, acceptedHeaders_accept haccept, List.length_append, hheaders]
    rfl
  obtain ⟨placing, hplacing, hsynchronizer, htimed, -, hpresent⟩ :=
    @Capture.present_frame _ origin _ _ _ _ hpush
  have hvalid : placing.TimelineValid := by
    rw [TimelineValid, hsynchronizer, htimed]
    exact h.timeline
  have hevent : IsRecord origin (received ++ [next]) (i + 1)
      (.video (capture.frameEvent origin next.receivedAt frame)) := by
    refine ⟨by rw [packetsSeen_concat]; exact hclock, ?_⟩
    have hreceived : headerReceived (received ++ [next]) (i + 2) = next.receivedAt := by
      rw [← hheaders, headerReceived_accept haccept]
    rw [recordObserved, hreceived, packetsSeen_concat, ← hdelta]
    rfl
  obtain ⟨timing, -, htime⟩ := time_eq hvalid (.video (capture.frameEvent origin next.receivedAt frame))
  have htimeline := time_valid hvalid (.video (capture.frameEvent origin next.receivedAt frame))
  rw [hpresent]
  refine ⟨?_, htimeline, ?_, ?_⟩
  · rw [(time_frame _).1, hplacing, hdecoder, packetsSeen_concat]
  · rw [htime, hcount, htimed, List.length_append, h.length, hbefore]
    rfl
  · intro k event timing' hk
    rw [htime, htimed] at hk
    rcases Nat.lt_or_ge k capture.history.timed.length with hlt | hge
    · rw [List.getElem?_append_left hlt] at hk
      rw [h.length, hbefore] at hlt
      exact isRecord_concat next (by omega) (h.record k event timing' hk)
    · rw [List.getElem?_append_right hge, List.getElem?_singleton] at hk
      split at hk
      case isTrue hzero =>
        rw [h.length, hbefore] at hge hzero
        obtain rfl : k = i := by omega
        obtain ⟨rfl, -⟩ := Prod.mk.inj (Option.some.inj hk)
        exact hevent
      case isFalse => cases hk

/-- **The run.** As long as no record is lost, the timeline has the frames of the
records. -/
theorem presentedAs_presentAll (writer : MatroskaWriter W) (received : List ReceivedPacket)
    (h : (presentAll origin (new writer) received).history.resets = 0) :
    PresentedAs origin received (presentAll origin (new writer) received) := by
  induction received using List.reverseRecOn with
  | nil => exact presentedAs_new writer
  | append_singleton received next ih =>
    rw [presentAll_concat] at h ⊢
    obtain ⟨hpast, decoder, answer, hpush⟩ := present_resets next h
    cases answer with
    | none => exact (ih hpast).present_continue hpush
    | some frame => exact (ih hpast).present_frame hpush

end Run

/-! ## The loop

Writing the events does not change what becomes of the packets after them. -/

section Loop

variable {W : Type} {origin : Instant} {capture other : Capture W}

/-- Two states that go on with the same timeline. -/
structure SameTimeline (capture other : Capture W) : Prop where
  /-- the same assembler -/
  decoder : capture.decoder = other.decoder
  /-- the same synchronizer -/
  synchronizer : capture.synchronizer = other.synchronizer
  /-- the same losses -/
  pending : capture.videoSourceDiscontinuity = other.videoSourceDiscontinuity
  /-- the same history -/
  history : capture.history = other.history

theorem SameTimeline.trans {last : Capture W} (h : SameTimeline capture other)
    (hlast : SameTimeline other last) : SameTimeline capture last where
  decoder := h.decoder.trans hlast.decoder
  synchronizer := h.synchronizer.trans hlast.synchronizer
  pending := h.pending.trans hlast.pending
  history := h.history.trans hlast.history

theorem write_sameTimeline [Write W] (delayMs : Int64) (capture : Capture W) (timing : MediaTiming)
    (event : TimedMediaEvent) : SameTimeline (capture.write delayMs timing event).1 capture :=
  have hframe := write_frame delayMs capture timing event
  ⟨hframe.2.1, hframe.2.2, write_pending timing event, hframe.1⟩

theorem SameTimeline.time (h : SameTimeline capture other) (event : TimedMediaEvent) :
    SameTimeline (capture.time event).1 (other.time event).1 := by
  rw [Capture.time, Capture.time, ← h.synchronizer]
  rcases capture.synchronizer.eventTiming event with ⟨synchronizer, error | timing⟩
  · exact ⟨h.decoder, rfl, h.pending, h.history⟩
  · exact ⟨h.decoder, rfl, h.pending, by rw [h.history]⟩

theorem SameTimeline.usbEvent (h : SameTimeline capture other) (origin : Instant)
    (event : SessionEvent) :
    SameTimeline (capture.handleUsbEvent origin event).1 (other.handleUsbEvent origin event).1 ∧
      (capture.handleUsbEvent origin event).2 = (other.handleUsbEvent origin event).2 := by
  cases event with
  | packet endpoint data receivedAt =>
    rw [handleUsbEvent, handleUsbEvent, ← h.decoder]
    rcases capture.decoder.pushPacket ⟨endpoint, data⟩ with ⟨decoder, error | _ | frame⟩
    · exact ⟨⟨rfl, h.synchronizer, rfl, by simp [Capture.recover, h.history]⟩, rfl⟩
    · exact ⟨⟨rfl, h.synchronizer, h.pending, by simp [h.history]⟩, rfl⟩
    · refine ⟨⟨rfl, h.synchronizer, rfl, ?_⟩, ?_⟩ <;> simp [frameEvent, h.history, h.pending]
  | packetError =>
    refine ⟨⟨?_, h.synchronizer, rfl, ?_⟩, rfl⟩
    · exact congrArg StreamDecoder.reset h.decoder
    · simp [handleUsbEvent, Capture.recover, h.history]
  | transferFailed => exact ⟨h, rfl⟩
  | submitFailed => exact ⟨h, rfl⟩
  | callbackPanicked => exact ⟨h, rfl⟩

theorem SameTimeline.present (h : SameTimeline capture other) (received : ReceivedPacket) :
    SameTimeline (capture.present origin received) (other.present origin received) := by
  obtain ⟨hsame, hevents⟩ := h.usbEvent origin received.event
  rw [Capture.present, Capture.present]
  rcases hcapture : capture.handleUsbEvent origin received.event with ⟨next, result⟩
  rcases hother : other.handleUsbEvent origin received.event with ⟨otherNext, otherResult⟩
  rw [hcapture, hother] at hsame hevents
  obtain rfl : result = otherResult := hevents
  cases result with
  | error error => exact hsame
  | ok mediaEvents =>
    clear hcapture hother
    induction mediaEvents generalizing next otherNext with
    | nil => exact hsame
    | cons event mediaEvents ih => exact ih _ _ (hsame.time event)

/-- A packet gives at most one event. -/
theorem handleUsbEvent_packet (origin : Instant) (capture : Capture W) (received : ReceivedPacket) :
    ∃ next, capture.handleUsbEvent origin received.event = (next, .ok []) ∨
      ∃ event, capture.handleUsbEvent origin received.event = (next, .ok [event]) := by
  rw [ReceivedPacket.event, handleUsbEvent]
  rcases capture.decoder.pushPacket ⟨received.packet.endpoint, received.packet.data⟩
    with ⟨decoder, error | _ | frame⟩
  · exact ⟨_, .inl rfl⟩
  · exact ⟨_, .inl rfl⟩
  · exact ⟨_, .inr ⟨_, rfl⟩⟩

/-- A turn that finds one packet and goes on does what `present` does. -/
theorem turn_present [Write W] [Seek W] (origin : Instant) (delayMs : Int64) (capture : Capture W)
    (received : ReceivedPacket) :
    SameTimeline (capture.turn origin delayMs (usbTurn [received.event])).1
      (capture.present origin received) := by
  obtain ⟨next, hnone | ⟨event, hevent⟩⟩ := handleUsbEvent_packet origin capture received
  · rw [turn, Capture.present]
    simp only [usbTurn, audioBatch, handleUsbEvents, hnone]
    exact ⟨rfl, rfl, rfl, rfl⟩
  · rw [turn, Capture.present]
    simp only [usbTurn, audioBatch, handleUsbEvents, hevent, List.nil_append,
      List.insertionSort_cons, List.insertionSort_nil, List.orderedInsert_nil, writeBatch]
    rcases htime : next.time event with ⟨placed, error | timing⟩
    · simp only [List.foldl_cons, List.foldl_nil, htime]
      exact ⟨rfl, rfl, rfl, rfl⟩
    · have hwrite := write_sameTimeline delayMs placed timing event
      rcases hwritten : placed.write delayMs timing event with ⟨written, _ | error⟩
      all_goals
        rw [hwritten] at hwrite
        simpa [htime, hwritten, report] using hwrite

/-- **The loop.** A capture that finds one packet in each turn, and goes on to the
end, has the timeline of the packets. -/
theorem runCaptureSession_presentAll [Write W] [Seek W] (delayMs : Int64)
    (received : List ReceivedPacket) (h : SameTimeline capture other)
    (hgoes : (runCaptureSession origin delayMs capture
      (received.map fun packet => usbTurn [packet.event])).2 = none) :
    SameTimeline (runCaptureSession origin delayMs capture
      (received.map fun packet => usbTurn [packet.event])).1 (presentAll origin other received) := by
  induction received generalizing capture other with
  | nil => exact h
  | cons packet received ih =>
    have hturn := (turn_present origin delayMs capture packet).trans (h.present packet)
    rw [List.map_cons, runCaptureSession] at hgoes ⊢
    rcases hnext : capture.turn origin delayMs (usbTurn [packet.event]) with ⟨next, _ | ending⟩
    · rw [hnext] at hturn hgoes
      simp only at hgoes ⊢
      exact ih hturn hgoes
    · rw [hnext] at hgoes
      cases hgoes

end Loop

/-! ## Presentation timestamps -/

section Pts

variable {W : Type} {origin : Instant} {capture : Capture W} {received : List ReceivedPacket}

/-- Where the camera clock puts the frame of record `i`, in microseconds: as far
from the first frame as the headers are by their timestamps. -/
def cameraPts (origin : Instant) (received : List ReceivedPacket) (i : ℕ) : ℕ :=
  (recordObserved origin received 1).micros.toNat + 1000 * recordClock (packetsSeen received) i

theorem PresentedAs.track (h : PresentedAs origin received capture) {event : TimedMediaEvent}
    (hmem : event ∈ capture.history.timed.map Prod.fst) : event.track = .video := by
  obtain ⟨⟨event, timing⟩, htimed, rfl⟩ := List.mem_map.mp hmem
  obtain ⟨k, hk⟩ := List.mem_iff_getElem?.mp htimed
  have hrecord := h.record k event timing hk
  cases event with
  | audio => exact hrecord.elim
  | video => rfl

/-- The timeline starts with the frame of record 1. -/
theorem PresentedAs.firstVideo (h : PresentedAs origin received capture) {first : TimedMediaEvent}
    (hfirst : capture.firstVideo = some first) : IsRecord origin received 1 first := by
  have hall : acceptedOn .zero .video (capture.history.timed.map Prod.fst) =
      capture.history.timed.map Prod.fst := by
    refine List.filter_eq_self.mpr fun event hmem => ?_
    rw [h.track hmem, accepted_zero]
    rfl
  rw [Capture.firstVideo, hall, List.head?_map, Option.map_eq_some_iff] at hfirst
  obtain ⟨⟨first, timing⟩, hhead, rfl⟩ := hfirst
  rw [List.head?_eq_getElem?] at hhead
  exact h.record 0 first timing hhead

/-- The place of a record's event on the camera clock. -/
theorem positionUs_of_isRecord {i : ℕ} {event : TimedMediaEvent}
    (h : IsRecord origin received i event) :
    event.positionUs.toNat = min (1000 * (recordClock (packetsSeen received) i % 2 ^ 64)) (2 ^ 64 - 1) ∧
      event.observed = recordObserved origin received i := by
  cases event with
  | audio => exact h.elim
  | video frame =>
    obtain ⟨hclock, hobserved⟩ := h
    refine ⟨?_, hobserved⟩
    rw [TimedMediaEvent.positionUs, UInt64.toNat_saturatingMul, hclock, UInt64.toNat_ofNat', Nat.mul_comm]
    rfl

/-- **The presentation timestamp of a frame**, from the headers: its observed
time is not in it, unless it is the first. -/
theorem PresentedAs.pts (h : PresentedAs origin received capture) {k : ℕ} {event : TimedMediaEvent}
    {timing : MediaTiming} (hk : capture.history.timed[k]? = some (event, timing)) :
    timing.ptsUs.toNat = min (2 ^ 64 - 1) ((recordObserved origin received 1).micros.toNat +
      1000 * (recordClock (packetsSeen received) (k + 1) % 2 ^ 64)) := by
  have hmem := List.mem_of_getElem? hk
  obtain ⟨first, hfirst, hpts⟩ := pts_of_timed h.timeline
    (h.track (List.mem_map_of_mem hmem)) hmem
  obtain ⟨hposition, -⟩ := positionUs_of_isRecord (h.record k event timing hk)
  obtain ⟨hstart, hobserved⟩ := positionUs_of_isRecord (h.firstVideo hfirst)
  have hzero : recordClock (packetsSeen received) 1 = 0 := by simp [recordClock]
  rw [hzero] at hstart
  rw [expectedPts, TimedMediaEvent.elapsed, hobserved, hposition, hstart] at hpts
  have horigin : MonotonicTimestamp.zero.micros.toNat = 0 := rfl
  rw [horigin] at hpts
  generalize recordClock (packetsSeen received) (k + 1) = clock at hpts ⊢
  generalize (recordObserved origin received 1).micros.toNat = start at hpts ⊢
  omega

/-- The frames get increasing presentation timestamps, none of them more than a
period of the camera clock from its observed time. -/
def HealthyTimeline (timed : List (TimedMediaEvent × MediaTiming)) : Prop :=
  (timed.map (·.2.ptsUs)).Pairwise (· < ·) ∧
    ∀ event timing, (event, timing) ∈ timed →
      |(timing.ptsUs.toNat : ℤ) - event.elapsed .zero| ≤ 2048 * 1000

/-- The timestamps of the headers advance from frame to frame, and the time they
count stays near the observed one. -/
structure HealthyClock (origin : Instant) (received : List ReceivedPacket) : Prop where
  /-- no header repeats the timestamp of the one before it -/
  advances : ∀ i, 1 ≤ i → i < frameCount received → recordDelta (packetsSeen received) i ≠ 0
  /-- the timeline does not reach the end of `u64` before the last frame -/
  inRange : ∀ i, 1 ≤ i → i < frameCount received → cameraPts origin received i < 2 ^ 64 - 1
  /-- the clocks agree within one period -/
  close : ∀ i, 1 ≤ i → i ≤ frameCount received →
    |((min (2 ^ 64 - 1) (cameraPts origin received i) : ℕ) : ℤ) -
      (recordObserved origin received i).micros.toNat| ≤ 2048 * 1000

/-- A clock that stays in range does not wrap around. -/
theorem recordClock_lt {packets : List EndpointPacket} {start last : ℕ}
    (h : ∀ i, 1 ≤ i → i < last → start + 1000 * (recordClock packets i % 2 ^ 64) < 2 ^ 64 - 1)
    {i : ℕ} (hone : 1 ≤ i) (hlast : i ≤ last) : recordClock packets i < 2 ^ 64 := by
  induction i, hone using Nat.le_induction with
  | base => simp [recordClock]
  | succ i hone ih =>
    have hclock := ih (by omega)
    have hrange := h i hone (by omega)
    rw [Nat.mod_eq_of_lt hclock] at hrange
    have hdelta := recordDelta_lt packets i
    obtain ⟨j, rfl⟩ : ∃ j, i = j + 1 := ⟨i - 1, by omega⟩
    rw [recordClock_succ]
    omega

/-- A clock that advances is ahead of where it was. -/
theorem recordClock_lt_of_advances {packets : List EndpointPacket} {last : ℕ}
    (h : ∀ i, 1 ≤ i → i < last → recordDelta packets i ≠ 0) {i j : ℕ} (hone : 1 ≤ i) (hlt : i < j)
    (hlast : j ≤ last) : recordClock packets i < recordClock packets j := by
  induction j, hlt using Nat.le_induction with
  | base =>
    have hdelta := h i hone (by omega)
    obtain ⟨k, rfl⟩ : ∃ k, i = k + 1 := ⟨i - 1, by omega⟩
    rw [recordClock_succ]
    omega
  | succ j hle ih =>
    have hpast := ih (by omega)
    obtain ⟨k, rfl⟩ : ∃ k, j = k + 1 := ⟨j - 1, by omega⟩
    rw [recordClock_succ]
    omega

/-- In range, the frames are where the camera clock puts them. -/
theorem PresentedAs.pts_eq_cameraPts (h : PresentedAs origin received capture)
    (hrange : ∀ i, 1 ≤ i → i < frameCount received →
      (recordObserved origin received 1).micros.toNat +
        1000 * (recordClock (packetsSeen received) i % 2 ^ 64) < 2 ^ 64 - 1)
    {k : ℕ} {event : TimedMediaEvent} {timing : MediaTiming}
    (hk : capture.history.timed[k]? = some (event, timing)) :
    timing.ptsUs.toNat = min (2 ^ 64 - 1) (cameraPts origin received (k + 1)) := by
  have hlt : k < frameCount received := by
    rw [← h.length]
    exact (List.getElem?_eq_some_iff.mp hk).1
  have hclock := recordClock_lt hrange (Nat.le_add_left 1 k) (by omega : k + 1 ≤ frameCount received)
  rw [h.pts hk, cameraPts, Nat.mod_eq_of_lt hclock]

/-- The observed time of a frame, since the start of the timeline. -/
theorem PresentedAs.elapsed (h : PresentedAs origin received capture) {k : ℕ}
    {event : TimedMediaEvent} {timing : MediaTiming}
    (hk : capture.history.timed[k]? = some (event, timing)) :
    event.elapsed .zero = (recordObserved origin received (k + 1)).micros.toNat := by
  rw [TimedMediaEvent.elapsed, (positionUs_of_isRecord (h.record k event timing hk)).2]
  exact sub_zero _

theorem PresentedAs.exists_timed (h : PresentedAs origin received capture) {i : ℕ} (hone : 1 ≤ i)
    (hlast : i ≤ frameCount received) :
    ∃ event timing, capture.history.timed[i - 1]? = some (event, timing) := by
  have hlt : i - 1 < capture.history.timed.length := by
    rw [h.length]
    omega
  exact ⟨_, _, List.getElem?_eq_getElem hlt⟩

/-- A timeline that increases leaves room after each frame but the last. -/
theorem HealthyTimeline.lt (h : HealthyTimeline capture.history.timed) {k : ℕ}
    {event next : TimedMediaEvent} {timing nextTiming : MediaTiming}
    (hk : capture.history.timed[k]? = some (event, timing))
    (hnext : capture.history.timed[k + 1]? = some (next, nextTiming)) :
    timing.ptsUs.toNat < nextTiming.ptsUs.toNat := by
  obtain ⟨hlt, hget⟩ := List.getElem?_eq_some_iff.mp hk
  obtain ⟨hlt', hget'⟩ := List.getElem?_eq_some_iff.mp hnext
  have hpair := List.pairwise_iff_getElem.mp (List.pairwise_map.mp h.1) k (k + 1) hlt hlt'
    (Nat.lt_succ_self k)
  rw [hget, hget'] at hpair
  exact UInt64.lt_iff_toNat_lt.mp hpair

/-- A healthy timeline comes of a healthy clock. -/
theorem PresentedAs.healthyClock (h : PresentedAs origin received capture)
    (hhealthy : HealthyTimeline capture.history.timed) : HealthyClock origin received := by
  have hrange : ∀ i, 1 ≤ i → i < frameCount received →
      (recordObserved origin received 1).micros.toNat +
        1000 * (recordClock (packetsSeen received) i % 2 ^ 64) < 2 ^ 64 - 1 := by
    intro i hone hlt
    obtain ⟨event, timing, hk⟩ := h.exists_timed hone hlt.le
    obtain ⟨next, nextTiming, hnext⟩ := h.exists_timed (Nat.le_add_left 1 i) hlt
    obtain ⟨k, rfl⟩ : ∃ k, i = k + 1 := ⟨i - 1, by omega⟩
    have hpts := hhealthy.lt hk hnext
    rw [h.pts hk, Nat.add_sub_cancel] at hpts
    have hroom := hpts.trans_le (Nat.le_sub_one_of_lt nextTiming.ptsUs.toNat_lt)
    exact (min_lt_iff.mp hroom).resolve_left (lt_irrefl _)
  refine ⟨?_, ?_, ?_⟩
  · intro i hone hlt hzero
    obtain ⟨event, timing, hk⟩ := h.exists_timed hone hlt.le
    obtain ⟨next, nextTiming, hnext⟩ := h.exists_timed (Nat.le_add_left 1 i) hlt
    obtain ⟨k, rfl⟩ : ∃ k, i = k + 1 := ⟨i - 1, by omega⟩
    have hpts := hhealthy.lt hk hnext
    -- the camera clock stands still, and the timeline with it
    rw [h.pts_eq_cameraPts hrange hk, h.pts_eq_cameraPts hrange hnext] at hpts
    simp only [Nat.add_sub_cancel, cameraPts, recordClock_succ, hzero, Nat.add_zero] at hpts
    exact lt_irrefl _ hpts
  · intro i hone hlt
    have hclock := recordClock_lt hrange hone hlt.le
    have hlow := hrange i hone hlt
    rwa [Nat.mod_eq_of_lt hclock] at hlow
  · intro i hone hle
    obtain ⟨event, timing, hk⟩ := h.exists_timed hone hle
    have hclose := hhealthy.2 event timing (List.mem_of_getElem? hk)
    rwa [h.pts_eq_cameraPts hrange hk, h.elapsed hk, Nat.sub_add_cancel hone] at hclose

/-- A healthy clock gives a healthy timeline. -/
theorem PresentedAs.healthyTimeline (h : PresentedAs origin received capture)
    (hhealthy : HealthyClock origin received) : HealthyTimeline capture.history.timed := by
  have hrange : ∀ i, 1 ≤ i → i < frameCount received →
      (recordObserved origin received 1).micros.toNat +
        1000 * (recordClock (packetsSeen received) i % 2 ^ 64) < 2 ^ 64 - 1 := by
    intro i hone hlt
    have hmod := Nat.mod_le (recordClock (packetsSeen received) i) (2 ^ 64)
    exact (Nat.add_le_add_left (Nat.mul_le_mul_left _ hmod) _).trans_lt (hhealthy.inRange i hone hlt)
  refine ⟨?_, ?_⟩
  · refine List.pairwise_map.mpr (List.pairwise_iff_getElem.mpr fun j k hj hk hlt => ?_)
    have hcount := h.length
    have hclock := recordClock_lt_of_advances hhealthy.advances (Nat.le_add_left 1 j)
      (by omega : j + 1 < k + 1) (by omega)
    have hroom := hhealthy.inRange (j + 1) (Nat.le_add_left 1 j) (by omega)
    have hearlier : capture.history.timed[j].2.ptsUs.toNat = _ :=
      h.pts_eq_cameraPts hrange (List.getElem?_eq_getElem hj)
    have hlater : capture.history.timed[k].2.ptsUs.toNat = _ :=
      h.pts_eq_cameraPts hrange (List.getElem?_eq_getElem hk)
    rw [UInt64.lt_iff_toNat_lt, hearlier, hlater, min_eq_right hroom.le]
    refine lt_min hroom (Nat.add_lt_add_left ?_ _)
    exact Nat.mul_lt_mul_of_pos_left hclock (by decide)
  · intro event timing hmem
    obtain ⟨k, hk⟩ := List.mem_iff_getElem?.mp hmem
    have hlt : k < frameCount received := by
      rw [← h.length]
      exact (List.getElem?_eq_some_iff.mp hk).1
    rw [h.pts_eq_cameraPts hrange hk, h.elapsed hk]
    exact hhealthy.close (k + 1) (Nat.le_add_left 1 k) hlt

/-- **When the presentation timeline is healthy.** While no record is lost, the
frames get increasing timestamps, near their observed times, exactly when the
camera clock advances from frame to frame and stays near the observed time. -/
theorem presented_healthy_iff (writer : MatroskaWriter W) (origin : Instant)
    (received : List ReceivedPacket)
    (h : (presentAll origin (new writer) received).history.resets = 0) :
    HealthyTimeline (presentAll origin (new writer) received).history.timed ↔
      HealthyClock origin received :=
  ⟨(presentedAs_presentAll writer received h).healthyClock,
    (presentedAs_presentAll writer received h).healthyTimeline⟩

/-- A boundary and a header packet, with a timestamp of the camera and the time
they are received at, both in milliseconds. -/
def headerAt (timestamp : UInt8) (receivedAtMs : ℕ) : List ReceivedPacket :=
  [⟨⟨.boundary, [0x08]⟩, receivedAtMs * 1000000⟩,
    ⟨⟨.video, List.replicate 6 0xff ++ [0x00, timestamp, 0x01]⟩, receivedAtMs * 1000000⟩]

/-- Five headers, 40 ms apart on both clocks. -/
def steadyHeaders : List ReceivedPacket :=
  headerAt 0 40 ++ headerAt 40 80 ++ headerAt 80 120 ++ headerAt 120 160 ++ headerAt 160 200

theorem presented_healthy_steady :
    HealthyTimeline (presentAll 0 (new sampleWriter) steadyHeaders).history.timed := by
  refine (presented_healthy_iff sampleWriter 0 steadyHeaders (by decide +kernel)).mpr ⟨?_, ?_, ?_⟩
  all_goals
    intro i hone hlast
    rw [show frameCount steadyHeaders = 3 by decide] at hlast
    interval_cases i <;> decide

/-- So it is in the loop, for a capture that finds one packet in each turn. -/
theorem runCaptureSession_healthyTimeline [Write W] [Seek W] (delayMs : Int64)
    (writer : MatroskaWriter W) (received : List ReceivedPacket)
    (h : HealthyClock origin received)
    (hgoes : (runCaptureSession origin delayMs (new writer)
      (received.map fun packet => usbTurn [packet.event])).2 = none)
    (hresets : (runCaptureSession origin delayMs (new writer)
      (received.map fun packet => usbTurn [packet.event])).1.history.resets = 0) :
    HealthyTimeline (runCaptureSession origin delayMs (new writer)
      (received.map fun packet => usbTurn [packet.event])).1.history.timed := by
  have hsame := runCaptureSession_presentAll delayMs received
    (⟨rfl, rfl, rfl, rfl⟩ : SameTimeline (new writer) (new writer)) hgoes
  rw [hsame.history] at hresets ⊢
  exact (presentedAs_presentAll writer received hresets).healthyTimeline h

/-- Five headers, 40 ms apart, with one timestamp. -/
def frozenHeaders : List ReceivedPacket :=
  headerAt 0 40 ++ headerAt 0 80 ++ headerAt 0 120 ++ headerAt 0 160 ++ headerAt 0 200

/-- The frames of a frozen clock all get the timestamp of the first. -/
theorem presented_healthy_frozen :
    HeadersInOrder frozenHeaders ∧
      (presentAll 0 (new sampleWriter) frozenHeaders).history.resets = 0 ∧
      ¬ HealthyTimeline (presentAll 0 (new sampleWriter) frozenHeaders).history.timed := by
  refine ⟨by decide, by decide +kernel, ?_⟩
  rintro ⟨hincreasing, -⟩
  have hpts : (presentAll 0 (new sampleWriter) frozenHeaders).history.timed.map (·.2.ptsUs) =
      [120000, 120000, 120000] := by decide +kernel
  rw [hpts] at hincreasing
  revert hincreasing
  decide

end Pts

end Capture

end Handycam
