import Mathlib
import Handycam.Delay

/-!
# The order of the frames

A turn of the capture loop sorts its media events by their observed time, and
a frame is observed at the time its last packet was received less the time to
the next record, as the camera counts it. Frames of one turn can therefore
leave it in another order than that in which the assembler emitted them.

* **sorting** — a stable sort of some events is one of the frames among them;
* **a turn** — the frames it adds to the timeline;
* **a run** — `capture_order`: turn after turn, each in the order of observed
  time; the order of emission is kept if no turn has frames the other way
  round.
-/

namespace Handycam

/-! ## Sorting -/

section Sorting

variable {α β : Type*} {r : α → α → Prop} {s : β → β → Prop} [DecidableRel r] [DecidableRel s]
  {f : α → Option β}

/-- What comes before all elements of a list is inserted in front of them. -/
theorem orderedInsert_of_forall_rel {a : β} {as : List β} (h : ∀ b ∈ as, s a b) :
    as.orderedInsert s a = a :: as := by
  cases as with
  | nil => rfl
  | cons b as => exact List.orderedInsert_cons_of_le s as (h b List.mem_cons_self)

theorem filterMap_orderedInsert [IsTrans α r]
    (hf : ∀ {a b a' b'}, f a = some a' → f b = some b' → (r a b ↔ s a' b')) (a : α) {as : List α}
    (has : as.Pairwise r) :
    (as.orderedInsert r a).filterMap f =
      (f a).elim (as.filterMap f) fun a' => (as.filterMap f).orderedInsert s a' := by
  induction as with
  | nil => cases ha : f a <;> simp [ha]
  | cons b as ih =>
    obtain ⟨hb, has⟩ := List.pairwise_cons.mp has
    by_cases hab : r a b
    · rw [List.orderedInsert_cons_of_le r as hab, List.filterMap_cons]
      cases ha : f a with
      | none => rfl
      | some a' =>
        -- `a` comes before all of the list, so that `a'` does before what is left of it
        refine (orderedInsert_of_forall_rel ?_).symm
        intro c' hc'
        obtain ⟨c, hc, hfc⟩ := List.mem_filterMap.mp hc'
        refine (hf ha hfc).mp ?_
        rcases List.mem_cons.mp hc with rfl | hc
        · exact hab
        · exact trans_of r hab (hb c hc)
    · rw [List.orderedInsert_of_not_le r as hab, List.filterMap_cons, List.filterMap_cons, ih has]
      cases ha : f a with
      | none => rfl
      | some a' =>
        cases hfb : f b with
        | none => rfl
        | some b' =>
          have hnot : ¬ s a' b' := fun h => hab ((hf ha hfb).mpr h)
          exact (List.orderedInsert_of_not_le s _ hnot).symm

/-- A sort is stable: it sorts any part of a list as it would on its own. -/
theorem filterMap_insertionSort [Std.Total r] [IsTrans α r]
    (hf : ∀ {a b a' b'}, f a = some a' → f b = some b' → (r a b ↔ s a' b')) (as : List α) :
    (as.insertionSort r).filterMap f = (as.filterMap f).insertionSort s := by
  induction as with
  | nil => rfl
  | cons a as ih =>
    rw [List.insertionSort_cons, filterMap_orderedInsert hf a (List.pairwise_insertionSort r as), ih,
      List.filterMap_cons]
    cases f a with
    | none => rfl
    | some a' => rfl

end Sorting

/-- The frame of an event, if it is one. -/
def TimedMediaEvent.frame? : TimedMediaEvent → Option TimedVideoFrame
  | .video frame => some frame
  | .audio _ => none

/-- The frames among some events. -/
def framesAmong (events : List TimedMediaEvent) : List TimedVideoFrame :=
  events.filterMap TimedMediaEvent.frame?

/-- The order of the frames of a batch. -/
def startsBefore (frame other : TimedVideoFrame) : Prop :=
  frame.observedAt.micros ≤ other.observedAt.micros

instance : DecidableRel startsBefore := fun _ _ => inferInstanceAs (Decidable (_ ≤ _))

instance : Std.Total observedBefore := ⟨fun _ _ => UInt64.le_total _ _⟩

instance : IsTrans TimedMediaEvent observedBefore := ⟨fun _ _ _ => UInt64.le_trans⟩

instance : Std.Total startsBefore := ⟨fun _ _ => UInt64.le_total _ _⟩

instance : IsTrans TimedVideoFrame startsBefore := ⟨fun _ _ _ => UInt64.le_trans⟩

/-- The frames of a sorted batch are the sorted frames of the batch. -/
theorem framesAmong_insertionSort (events : List TimedMediaEvent) :
    framesAmong (events.insertionSort observedBefore) =
      (framesAmong events).insertionSort startsBefore := by
  refine filterMap_insertionSort ?_ events
  intro event other frame frame' hframe hframe'
  cases event with
  | audio chunk => cases hframe
  | video frame =>
    cases other with
    | audio chunk => cases hframe'
    | video other =>
      obtain rfl := Option.some.inj hframe
      obtain rfl := Option.some.inj hframe'
      exact Iff.rfl

theorem framesAmong_append (first second : List TimedMediaEvent) :
    framesAmong (first ++ second) = framesAmong first ++ framesAmong second :=
  List.filterMap_append

namespace Capture

/-! ## A turn -/

section Turn

variable {W : Type} {origin : Instant} {delayMs : Int64} {capture next : Capture W}

/-- The frames that the assembler emitted. -/
def emittedFrames (capture : Capture W) : List TimedVideoFrame :=
  capture.history.emitted.map Emission.event

/-- The frames on the timeline, in the order in which they were placed. -/
def timedFrames (capture : Capture W) : List TimedVideoFrame :=
  framesAmong (capture.history.timed.map Prod.fst)

/-- The frames that an event of the session adds are the ones it hands on. -/
theorem handleUsbEvent_frames (event : SessionEvent) :
    ∃ frames, (capture.handleUsbEvent origin event).1.emittedFrames =
        capture.emittedFrames ++ frames ∧
      ∀ more, (capture.handleUsbEvent origin event).2 = .ok more → framesAmong more = frames := by
  have hnone : ∀ {other : Capture W} {result : Except CaptureError (List TimedMediaEvent)},
      other.emittedFrames = capture.emittedFrames →
      (∀ more, result = .ok more → framesAmong more = []) →
      ∃ frames, other.emittedFrames = capture.emittedFrames ++ frames ∧
        ∀ more, result = .ok more → framesAmong more = frames := fun hsame hresult =>
    ⟨[], hsame.trans (List.append_nil _).symm, hresult⟩
  have hempty : ∀ more : List TimedMediaEvent,
      (.ok [] : Except CaptureError (List TimedMediaEvent)) = .ok more → framesAmong more = [] := by
    rintro more hmore
    rw [← Except.ok.inj hmore]
    rfl
  have hends : ∀ (event : SessionEvent) (more : List TimedMediaEvent),
      (if event.endsSession then .error (.disconnected event) else .ok [] :
        Except CaptureError (List TimedMediaEvent)) = .ok more → framesAmong more = [] := by
    intro event more hmore
    split at hmore
    · cases hmore
    · exact hempty more hmore
  cases event with
  | packet endpoint data receivedAt =>
    rcases hpush : capture.decoder.pushPacket ⟨endpoint, data⟩ with ⟨decoder, error | _ | frame⟩ <;>
      simp only [handleUsbEvent, hpush]
    · exact hnone rfl hempty
    · exact hnone rfl hempty
    · refine ⟨[_], List.map_append, ?_⟩
      intro more hmore
      rw [← Except.ok.inj hmore]
      rfl
  | packetError => exact hnone rfl hempty
  | transferFailed endpoint status => exact hnone rfl (hends (.transferFailed endpoint status))
  | submitFailed endpoint error => exact hnone rfl (hends (.submitFailed endpoint error))
  | callbackPanicked => exact hnone rfl (hends .callbackPanicked)

/-- So are those of a poll. -/
theorem handleUsbEvents_frames (mediaEvents : List TimedMediaEvent) (events : List SessionEvent) :
    ∃ frames, (handleUsbEvents origin capture mediaEvents events).1.emittedFrames =
        capture.emittedFrames ++ frames ∧
      (handleUsbEvents origin capture mediaEvents events).1.timedFrames = capture.timedFrames ∧
      ∀ batch, (handleUsbEvents origin capture mediaEvents events).2 = .ok batch →
        framesAmong batch = framesAmong mediaEvents ++ frames := by
  induction events generalizing capture mediaEvents with
  | nil =>
    refine ⟨[], (List.append_nil _).symm, rfl, ?_⟩
    intro batch hbatch
    rw [← Except.ok.inj hbatch, List.append_nil]
  | cons event events ih =>
    obtain ⟨frames, hemitted, hmore⟩ := @handleUsbEvent_frames _ origin capture event
    have htimed := (handleUsbEvent_timeline origin capture event).2
    rw [handleUsbEvents]
    rcases hevent : capture.handleUsbEvent origin event with ⟨middle, error | more⟩
    · rw [hevent] at hemitted htimed
      refine ⟨frames, hemitted, ?_, ?_⟩
      · rw [timedFrames, htimed, timedFrames]
      · intro batch hbatch
        cases hbatch
    · rw [hevent] at hemitted hmore htimed
      obtain ⟨later, hlater, hsame, hbatch⟩ := @ih middle (mediaEvents ++ more)
      refine ⟨frames ++ later, ?_, ?_, ?_⟩
      · rw [hlater, hemitted, List.append_assoc]
      · rw [hsame, timedFrames, htimed, timedFrames]
      · intro batch hok
        rw [hbatch batch hok, framesAmong_append, hmore more rfl, List.append_assoc]

/-- Placing an event emits nothing. -/
theorem time_emitted (event : TimedMediaEvent) :
    (capture.time event).1.history.emitted = capture.history.emitted := by
  rw [time]
  rcases capture.synchronizer.eventTiming event with ⟨synchronizer, error | timing⟩ <;> rfl

/-- The events of a batch go on the timeline one after the other, until the
loop ends. -/
theorem writeBatch_timed [Write W] (batch : List TimedMediaEvent) :
    (capture.writeBatch delayMs batch).1.history.emitted = capture.history.emitted ∧
      ∃ placed, placed <+: batch ∧
        (capture.writeBatch delayMs batch).1.history.timed.map Prod.fst =
          capture.history.timed.map Prod.fst ++ placed ∧
        ((capture.writeBatch delayMs batch).2 = none → placed = batch) := by
  induction batch generalizing capture with
  | nil => exact ⟨rfl, [], List.prefix_refl _, (List.append_nil _).symm, fun _ => rfl⟩
  | cons event batch ih =>
    have hemitted := @time_emitted _ capture event
    have htimed := (@time_writer _ capture event).2
    rw [writeBatch]
    rcases htime : capture.time event with ⟨middle, error | timing⟩
    · rw [htime] at hemitted htimed
      refine ⟨hemitted, [], List.nil_prefix, ?_, ?_⟩
      · rw [htimed, List.append_nil]
        exact congrArg (List.map Prod.fst) (List.append_nil _)
      · intro hnone
        cases hnone
    · rw [htime] at hemitted htimed
      have hplaced : middle.history.timed.map Prod.fst =
          capture.history.timed.map Prod.fst ++ [event] := by
        rw [htimed, List.map_append]
        rfl
      have hframe := write_frame delayMs middle timing event
      rcases hwrite : middle.write delayMs timing event with ⟨written, _ | error⟩
      · rw [hwrite] at hframe
        obtain ⟨hsame, placed, hinitial, hrest, hall⟩ := @ih written
        simp only [hwrite]
        refine ⟨by rw [hsame, hframe.1, hemitted], event :: placed,
          List.cons_prefix_cons.mpr ⟨rfl, hinitial⟩, ?_, ?_⟩
        · rw [hrest, hframe.1, hplaced, List.append_assoc, List.singleton_append]
        · intro hnone
          rw [hall hnone]
      · rw [hwrite] at hframe
        simp only [hwrite]
        refine ⟨by rw [hframe.1, hemitted], [event], ?_, by rw [hframe.1, hplaced], ?_⟩
        · exact List.cons_prefix_cons.mpr ⟨rfl, List.nil_prefix⟩
        · intro hnone
          cases hnone

/-- The audio worker sends no frames. -/
theorem framesAmong_audioBatch {events : List AudioCaptureEvent} {batch : List TimedMediaEvent}
    (h : audioBatch events = .ok batch) : framesAmong batch = [] := by
  induction events generalizing batch with
  | nil =>
    obtain rfl := Except.ok.inj h
    rfl
  | cons event events ih =>
    cases event with
    | chunk chunk =>
      rw [audioBatch] at h
      cases hrest : audioBatch events with
      | error error =>
        rw [hrest] at h
        cases h
      | ok rest =>
        rw [hrest] at h
        rw [← Except.ok.inj h]
        change framesAmong rest = []
        exact ih hrest
    | failed error => cases h
    | closed => cases h

/-- The frames that a turn adds to those emitted. -/
def turnFrames (capture next : Capture W) : List TimedVideoFrame :=
  next.emittedFrames.drop capture.emittedFrames.length

/-- A turn places the frames it emitted in the order of their observed time, as
long as the loop goes on. -/
theorem turn_frames [Write W] [Seek W] {turn : CaptureTurn}
    {ending : Option (Except CaptureError Unit)}
    (hturn : capture.turn origin delayMs turn = (next, ending)) :
    next.emittedFrames = capture.emittedFrames ++ turnFrames capture next ∧
      ∃ placed, placed <+: (turnFrames capture next).insertionSort startsBefore ∧
        next.timedFrames = capture.timedFrames ++ placed ∧
        (ending = none → placed = (turnFrames capture next).insertionSort startsBefore) := by
  have hframes : ∀ {frames}, next.emittedFrames = capture.emittedFrames ++ frames →
      turnFrames capture next = frames := by
    intro frames hemitted
    rw [turnFrames, hemitted, List.drop_left]
  have hunplaced : ∀ {frames}, next.emittedFrames = capture.emittedFrames ++ frames →
      next.timedFrames = capture.timedFrames → ending ≠ none →
      next.emittedFrames = capture.emittedFrames ++ turnFrames capture next ∧
        ∃ placed, placed <+: (turnFrames capture next).insertionSort startsBefore ∧
          next.timedFrames = capture.timedFrames ++ placed ∧
          (ending = none → placed = (turnFrames capture next).insertionSort startsBefore) := by
    intro frames hemitted htimed hending
    refine ⟨?_, [], List.nil_prefix, ?_, fun hnone => absurd hnone hending⟩
    · rw [hframes hemitted, hemitted]
    · rw [htimed, List.append_nil]
  rw [Capture.turn] at hturn
  split at hturn
  · obtain ⟨rfl, rfl⟩ := Prod.mk.inj hturn
    exact hunplaced (List.append_nil _).symm rfl (by simp)
  · split at hturn
    · obtain ⟨rfl, rfl⟩ := Prod.mk.inj hturn
      exact hunplaced (List.append_nil _).symm rfl (by simp)
    · obtain ⟨rfl, rfl⟩ := Prod.mk.inj hturn
      exact hunplaced (List.append_nil _).symm rfl (by simp)
    · rename_i audioEvents usbEvents haudio _
      obtain ⟨frames, hemitted, htimed, hbatch⟩ :=
        @handleUsbEvents_frames _ origin capture audioEvents usbEvents
      rw [framesAmong_audioBatch haudio, List.nil_append] at hbatch
      rcases hevents : handleUsbEvents origin capture audioEvents usbEvents
        with ⟨decoded, error | mediaEvents⟩
      · rw [hevents] at hturn hemitted htimed
        obtain ⟨rfl, rfl⟩ := Prod.mk.inj hturn
        exact hunplaced hemitted htimed (by simp)
      · rw [hevents] at hemitted htimed hbatch
        simp only [hevents] at hturn
        have hsorted := framesAmong_insertionSort mediaEvents
        rw [hbatch mediaEvents rfl] at hsorted
        obtain ⟨hsame, placed, hinitial, hplaced, hall⟩ := @writeBatch_timed _ delayMs decoded _
          (mediaEvents.insertionSort observedBefore)
        -- a report leaves the history, so that it is the one after the batch
        have hhistory : next.history =
            (decoded.writeBatch delayMs (mediaEvents.insertionSort observedBefore)).1.history ∧
            (ending = none →
              (decoded.writeBatch delayMs (mediaEvents.insertionSort observedBefore)).2 = none) := by
          rcases hwrite : decoded.writeBatch delayMs (mediaEvents.insertionSort observedBefore)
            with ⟨written, _ | error⟩
          · simp only [hwrite] at hturn
            have hreport := (report_frame written turn.reportDue).1
            rcases hreported : written.report turn.reportDue with ⟨reported, _ | error⟩ <;>
              rw [hreported] at hturn hreport <;> obtain ⟨rfl, rfl⟩ := Prod.mk.inj hturn
            · exact ⟨hreport, fun _ => rfl⟩
            · exact ⟨hreport, fun hnone => by cases hnone⟩
          · simp only [hwrite] at hturn
            obtain ⟨rfl, rfl⟩ := Prod.mk.inj hturn
            exact ⟨rfl, fun hnone => by cases hnone⟩
        have hnext : next.emittedFrames = capture.emittedFrames ++ frames := by
          rw [emittedFrames, hhistory.1, hsame]
          exact hemitted
        rw [hframes hnext]
        refine ⟨hnext, framesAmong placed, ?_, ?_, ?_⟩
        · rw [← hsorted]
          exact hinitial.filterMap _
        · rw [timedFrames, hhistory.1, hplaced, framesAmong_append]
          exact congrArg (· ++ framesAmong placed) htimed
        · intro hnone
          rw [hall (hhistory.2 hnone), hsorted]

end Turn

/-! ## A run -/

section Run

variable {W : Type} [Write W] [Seek W] {origin : Instant} {delayMs : Int64}

/-- The frames of each turn of a run. -/
def framesByTurn (origin : Instant) (delayMs : Int64) :
    Capture W → List CaptureTurn → List (List TimedVideoFrame)
  | _, [] => []
  | capture, turn :: turns =>
    match capture.turn origin delayMs turn with
    | (next, none) => turnFrames capture next :: framesByTurn origin delayMs next turns
    | (next, some _) => [turnFrames capture next]

/-- A run places the frames of its turns in turn, each in the order of observed
time, as long as the loop goes on. -/
theorem run_frames (capture : Capture W) (turns : List CaptureTurn) :
    (runCaptureSession origin delayMs capture turns).1.emittedFrames =
        capture.emittedFrames ++ (framesByTurn origin delayMs capture turns).flatten ∧
      ∃ placed, placed <+: ((framesByTurn origin delayMs capture turns).map
          (·.insertionSort startsBefore)).flatten ∧
        (runCaptureSession origin delayMs capture turns).1.timedFrames =
          capture.timedFrames ++ placed ∧
        ((runCaptureSession origin delayMs capture turns).2 = none →
          placed = ((framesByTurn origin delayMs capture turns).map
            (·.insertionSort startsBefore)).flatten) := by
  induction turns generalizing capture with
  | nil =>
    exact ⟨(List.append_nil _).symm, [], List.nil_prefix, (List.append_nil _).symm, fun _ => rfl⟩
  | cons turn turns ih =>
    rw [runCaptureSession, framesByTurn]
    rcases hturn : capture.turn origin delayMs turn with ⟨next, _ | ending⟩
    · obtain ⟨hemitted, placed, -, htimed, hall⟩ := turn_frames hturn
      obtain ⟨hlater, rest, hinitial, hrest, hcomplete⟩ := ih next
      dsimp only
      rw [List.flatten_cons, List.map_cons, List.flatten_cons]
      refine ⟨?_, placed ++ rest, ?_, ?_, ?_⟩
      · rw [hlater, hemitted, List.append_assoc]
      · rw [hall rfl]
        exact (List.prefix_append_right_inj _).mpr hinitial
      · rw [hrest, htimed, List.append_assoc]
      · intro hnone
        rw [hall rfl, hcomplete hnone]
    · obtain ⟨hemitted, placed, hinitial, htimed, -⟩ := turn_frames hturn
      dsimp only
      rw [List.flatten_singleton, List.map_singleton, List.flatten_singleton]
      exact ⟨hemitted, placed, hinitial, htimed, fun hnone => by cases hnone⟩

/-- Turns that are in order already are not changed by sorting them. -/
theorem map_insertionSort_eq {byTurn : List (List TimedVideoFrame)}
    (h : ∀ frames ∈ byTurn, frames.Pairwise startsBefore) :
    byTurn.map (·.insertionSort startsBefore) = byTurn := by
  refine (List.map_congr_left fun frames hframes => ?_).trans (List.map_id _)
  exact (h frames hframes).insertionSort_eq

/-- Frames of turns that are in order are placed as they were emitted. -/
theorem timedFrames_initial {writer : MatroskaWriter W} {turns : List CaptureTurn}
    (h : ∀ frames ∈ framesByTurn origin delayMs (new writer) turns, frames.Pairwise startsBefore) :
    (runCaptureSession origin delayMs (new writer) turns).1.timedFrames <+:
      (runCaptureSession origin delayMs (new writer) turns).1.emittedFrames := by
  obtain ⟨hemitted, placed, hinitial, htimed, -⟩ :=
    @run_frames W _ _ origin delayMs (new writer) turns
  rw [map_insertionSort_eq h] at hinitial
  rw [htimed, hemitted]
  exact hinitial

/-- As long as the loop goes on, all of them are placed. -/
theorem timedFrames_eq {writer : MatroskaWriter W} {turns : List CaptureTurn}
    (h : ∀ frames ∈ framesByTurn origin delayMs (new writer) turns, frames.Pairwise startsBefore)
    (hgoes : (runCaptureSession origin delayMs (new writer) turns).2 = none) :
    (runCaptureSession origin delayMs (new writer) turns).1.timedFrames =
      (runCaptureSession origin delayMs (new writer) turns).1.emittedFrames := by
  obtain ⟨hemitted, placed, -, htimed, hall⟩ := @run_frames W _ _ origin delayMs (new writer) turns
  rw [htimed, hemitted, hall hgoes, map_insertionSort_eq h]
  rfl

/-- **The order of the frames of a capture.** The assembler emits the frames of
one turn after those of another. They go on the timeline in the same order of
turns, and those of a turn in the order of their observed time, equal ones as
they were emitted; the writer is called for them in that order. So the order of
emission is kept if no turn has frames the other way round, and, as long as the
loop goes on, only then. -/
theorem capture_order (origin : Instant) (delayMs : Int64) (writer : MatroskaWriter W)
    (turns : List CaptureTurn) :
    (runCaptureSession origin delayMs (new writer) turns).1.emittedFrames =
        (framesByTurn origin delayMs (new writer) turns).flatten ∧
      (runCaptureSession origin delayMs (new writer) turns).1.timedFrames <+:
        ((framesByTurn origin delayMs (new writer) turns).map
          (·.insertionSort startsBefore)).flatten ∧
      Wrote delayMs writer (runCaptureSession origin delayMs (new writer) turns).1 ∧
      ((∀ frames ∈ framesByTurn origin delayMs (new writer) turns, frames.Pairwise startsBefore) →
        (runCaptureSession origin delayMs (new writer) turns).1.timedFrames <+:
          (runCaptureSession origin delayMs (new writer) turns).1.emittedFrames) ∧
      ((runCaptureSession origin delayMs (new writer) turns).2 = none →
        ((runCaptureSession origin delayMs (new writer) turns).1.timedFrames =
            (runCaptureSession origin delayMs (new writer) turns).1.emittedFrames ↔
          ∀ frames ∈ framesByTurn origin delayMs (new writer) turns,
            frames.Pairwise startsBefore)) := by
  obtain ⟨hemitted, placed, hinitial, htimed, hall⟩ :=
    @run_frames W _ _ origin delayMs (new writer) turns
  change (runCaptureSession origin delayMs (new writer) turns).1.timedFrames = placed at htimed
  change (runCaptureSession origin delayMs (new writer) turns).1.emittedFrames =
    (framesByTurn origin delayMs (new writer) turns).flatten at hemitted
  refine ⟨hemitted, htimed ▸ hinitial, wrote_run turns, timedFrames_initial, ?_⟩
  intro hnone
  constructor
  · rw [htimed, hemitted, hall hnone]
    generalize framesByTurn origin delayMs (new writer) turns = byTurn
    intro hsame
    have hlengths : (byTurn.map (·.insertionSort startsBefore)).map List.length =
        byTurn.map List.length := by
      rw [List.map_map]
      exact List.map_congr_left fun frames _ => List.length_insertionSort startsBefore frames
    have heach := List.eq_iff_flatten_eq.mpr ⟨hsame, hlengths⟩
    intro frames hframes
    have hfixed := List.map_inj_left.mp (heach.trans (List.map_id byTurn).symm) frames hframes
    have hpairwise := List.pairwise_insertionSort startsBefore frames
    rw [hfixed] at hpairwise
    exact hpairwise
  · intro h
    exact timedFrames_eq h hnone

end Run

/-- A failed descriptor, one frame, another failed descriptor, and two frames. -/
theorem capture_order_earlyLoss :
    (runCaptureSession 0 0 (new sampleWriter) earlyLoss).1.timedFrames =
      (runCaptureSession 0 0 (new sampleWriter) earlyLoss).1.emittedFrames := by
  have hgoes : (runCaptureSession 0 0 (new sampleWriter) earlyLoss).2 = none :=
    Option.isNone_iff_eq_none.mp (by decide +kernel)
  refine ((capture_order 0 0 sampleWriter earlyLoss).2.2.2.2 hgoes).mpr ?_
  decide +kernel

/-- Two frames in one turn, the second of them with 200 ms to the next record,
although its last packet is received 20 ms after that of the first. -/
def slowSecond : List CaptureTurn :=
  [usbTurn (recordStart 0 5000 ++ recordStart 0 5040 ++ recordStart 10 5080 ++
    recordStart 210 5100)]

/-- The second frame is placed before the first. -/
theorem capture_order_slowSecond :
    (receivedTimes slowSecond).Pairwise (· ≤ ·) ∧
      (runCaptureSession 0 0 (new sampleWriter) slowSecond).1.emittedFrames.map (·.frame.sequence) =
        [0, 1] ∧
      (runCaptureSession 0 0 (new sampleWriter) slowSecond).1.timedFrames.map (·.frame.sequence) =
        [1, 0] := by
  refine ⟨by decide, by decide +kernel, by decide +kernel⟩

end Capture

end Handycam
