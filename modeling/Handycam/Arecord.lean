import Handycam.CaptureFile
import Handycam.Guarded

/-!
# The arecord capture loop

The estimated backend starts `arecord` and reads its standard output: a thread
fills a period with `read_exact`, looks at the clock, and sends the period as a
chunk. As for the direct backend, the thread is a state machine that stops
before each call; a step is the answer of the call.

* **the machine** — `ArecordWorker.step`;
* **the run** — `ArecordWorker.arecord_delivers`: the chunks are the stream cut into
  periods, whatever the pipe's reads return;
* **the capture** — `runCapture_arecord`: a capture with this thread.
-/

namespace Handycam

/-- `PERIOD_BYTES`. -/
def periodBytes : ℕ := periodSampleFrames * audioBytesPerSampleFrame

/-! ## The machine -/

/-- Where the thread is. -/
inductive ArecordPoint where
  /-- in a `read` of `read_exact` -/
  | reading
  /-- in `Instant::now`, after a full period -/
  | stamping
  /-- in the `send` of a period -/
  | sendingChunk (chunk : TimedAudioChunk)
  /-- in the `send` of the last event -/
  | sendingLast (event : AudioCaptureEvent)
  /-- the function has returned -/
  | returned
  /-- an `expect` failed -/
  | panicked
  deriving DecidableEq

/-- The thread. -/
structure ArecordWorker where
  /-- where the thread is -/
  point : ArecordPoint
  /-- the counter of sample frames -/
  clock : AudioClock
  /-- the part of the buffer that is filled -/
  pcm : List UInt8
  /-- the events that were passed to `send` -/
  sent : List AudioCaptureEvent
  deriving DecidableEq

/-- What a call returns. -/
inductive ArecordAnswer where
  /-- `read` returns bytes; none at the end of the stream -/
  | read (block : List UInt8)
  /-- `read` is interrupted -/
  | interrupted
  /-- `read` fails; with `UnexpectedEof`, or another error and its text -/
  | readFailed (unexpectedEof : Bool) (message : String)
  /-- the clock -/
  | now (instant : Instant)
  /-- `send` returns; an error when the receiver was dropped -/
  | sent (delivered : Bool)
  deriving DecidableEq

namespace ArecordWorker

/-- The thread before its first call. -/
def start : ArecordWorker := ⟨.reading, ⟨0⟩, [], []⟩

/-- A full period becomes a chunk. -/
def complete (origin : Instant) (worker : ArecordWorker) (instant : Instant) : ArecordWorker :=
  match worker.clock.pushPcm worker.pcm with
  | .ok (chunk, clock) =>
    { worker with
      point := .sendingChunk {
        observedStart := monotonicTimestamp origin (observedStart instant 40)
        timestampAccuracy := .estimated
        format := alsaFormat
        chunk := chunk
        sourceDiscontinuity := false }
      clock := clock }
  | .error _ => { worker with point := .panicked }

/-- One answer, if the thread waits for it. -/
def step (origin : Instant) (worker : ArecordWorker) (answer : ArecordAnswer) :
    Option ArecordWorker :=
  match worker.point, answer with
  | .reading, .read [] => some { worker with point := .sendingLast .closed }
  | .reading, .read (byte :: rest) =>
    let pcm := worker.pcm ++ byte :: rest
    -- `read` returns no more than there is room for
    if pcm.length ≤ periodBytes then
      some { worker with
        point := if pcm.length = periodBytes then .stamping else .reading
        pcm := pcm }
    else none
  | .reading, .interrupted => some worker
  | .reading, .readFailed unexpectedEof message =>
    some { worker with
      point := .sendingLast (if unexpectedEof then .closed else .failed message) }
  | .stamping, .now instant => some (worker.complete origin instant)
  | .sendingChunk chunk, .sent delivered =>
    some { worker with
      point := if delivered then .reading else .returned
      pcm := []
      sent := worker.sent ++ [.chunk chunk] }
  | .sendingLast event, .sent _ =>
    some { worker with point := .returned, sent := worker.sent ++ [event] }
  | _, _ => none

/-- The thread after some answers, if each was the answer to its call. -/
def run (origin : Instant) (answers : List ArecordAnswer) : Option ArecordWorker :=
  Guarded.run (step origin) start answers

/-- The chunks that were passed to `send`. -/
def chunksSent (worker : ArecordWorker) : List TimedAudioChunk :=
  worker.sent.filterMap AudioCaptureEvent.chunk?

/-- The chunk that is being passed. -/
def chunkPending (worker : ArecordWorker) : List TimedAudioChunk :=
  match worker.point with
  | .sendingChunk chunk => [chunk]
  | _ => []

end ArecordWorker

/-! ## The stream and the clock -/

namespace ArecordAnswer

/-- The bytes that an answer has. -/
def bytes : ArecordAnswer → List UInt8
  | .read block => block
  | _ => []

/-- The time that an answer has. -/
def instant? : ArecordAnswer → Option Instant
  | .now instant => some instant
  | _ => none

end ArecordAnswer

/-- The bytes of some answers. -/
def arecordStream (answers : List ArecordAnswer) : List UInt8 :=
  answers.flatMap ArecordAnswer.bytes

/-- The times of some answers. -/
def arecordTimes (answers : List ArecordAnswer) : List Instant :=
  answers.filterMap ArecordAnswer.instant?

/-- The chunk of the `k`-th period of a stream, that was full at `instant`. -/
def arecordChunk (origin : Instant) (stream : List UInt8) (k : ℕ) (instant : Instant) :
    TimedAudioChunk where
  observedStart := monotonicTimestamp origin (observedStart instant 40)
  timestampAccuracy := .estimated
  format := alsaFormat
  chunk := ⟨(stream.drop (periodBytes * k)).take periodBytes,
    UInt64.ofNat (periodSampleFrames * k), UInt32.ofNat periodSampleFrames⟩
  sourceDiscontinuity := false

/-- The chunks of a stream. -/
def arecordChunks (origin : Instant) (stream : List UInt8) (times : List Instant) :
    List TimedAudioChunk :=
  times.mapIdx (arecordChunk origin stream)

/-- What comes later in the stream does not change the periods that are full. -/
theorem arecordChunks_append {origin : Instant} {stream : List UInt8} {times : List Instant}
    (hfull : periodBytes * times.length ≤ stream.length) (more : List UInt8) :
    arecordChunks origin (stream ++ more) times = arecordChunks origin stream times := by
  rw [arecordChunks, arecordChunks]
  refine List.mapIdx_eq_mapIdx_iff.mpr ?_
  intro k hk
  have hperiod : periodBytes * (k + 1) ≤ periodBytes * times.length :=
    Nat.mul_le_mul_left _ hk
  rw [Nat.mul_succ] at hperiod
  have hdrop : periodBytes * k ≤ stream.length := by omega
  have htake : periodBytes ≤ (stream.drop (periodBytes * k)).length := by
    rw [List.length_drop]
    omega
  simp only [arecordChunk, List.drop_append_of_le_length hdrop,
    List.take_append_of_le_length htake]

/-! ## The run -/

namespace ArecordWorker

/-- What holds at the point where the thread is, of the stream that it has read
and the number of periods that are settled. -/
def AtPoint (worker : ArecordWorker) (stream : List UInt8) (periods : ℕ) : Prop :=
  match worker.point with
  | .reading => worker.pcm = stream.drop (periodBytes * periods) ∧
      stream.length = periodBytes * periods + worker.pcm.length ∧ worker.pcm.length < periodBytes
  | .stamping => worker.pcm = stream.drop (periodBytes * periods) ∧
      stream.length = periodBytes * periods + periodBytes
  | .sendingChunk _ => stream.length = periodBytes * periods
  | .sendingLast event => event.chunk? = none ∧ stream.length / periodBytes = periods
  | .returned => stream.length / periodBytes = periods
  | .panicked => False

/-- The thread follows the stream. -/
structure Sound (origin : Instant) (worker : ArecordWorker) (stream : List UInt8)
    (times : List Instant) : Prop where
  /-- the clock counted the periods -/
  clock : worker.clock = ⟨UInt64.ofNat (periodSampleFrames * times.length)⟩
  /-- each period made a chunk -/
  chunks : worker.chunksSent ++ worker.chunkPending = arecordChunks origin stream times
  /-- the periods are in the stream -/
  full : periodBytes * times.length ≤ stream.length
  /-- the buffer holds what is left of the stream -/
  point : worker.AtPoint stream times.length

theorem sound_start (origin : Instant) : Sound origin start [] [] :=
  ⟨rfl, rfl, Nat.le_refl _, rfl, rfl, by decide⟩

section Step

variable {origin : Instant} {worker next : ArecordWorker} {stream : List UInt8}
  {times : List Instant}

theorem Sound.not_panicked (h : Sound origin worker stream times) : worker.point ≠ .panicked := by
  intro hat
  simpa only [AtPoint, hat] using h.point

theorem chunkPending_eq_nil (h : ∀ chunk, worker.point ≠ .sendingChunk chunk) :
    worker.chunkPending = [] := by
  rw [chunkPending]
  split
  · exact absurd ‹_› (h _)
  · rfl

/-- A step that sends nothing, and leaves the clock. -/
theorem Sound.moved {more : List UInt8} (hsound : Sound origin worker stream times)
    (hclock : next.clock = worker.clock) (hsent : next.sent = worker.sent)
    (hpending : ∀ chunk, worker.point ≠ .sendingChunk chunk)
    (hnext : ∀ chunk, next.point ≠ .sendingChunk chunk)
    (hpoint : next.AtPoint (stream ++ more) times.length) :
    Sound origin next (stream ++ more) times := by
  refine ⟨hclock.trans hsound.clock, ?_, ?_, hpoint⟩
  · rw [arecordChunks_append hsound.full, ← hsound.chunks, chunkPending_eq_nil hpending,
      chunkPending_eq_nil hnext, chunksSent, hsent, chunksSent]
  · rw [List.length_append]
    exact hsound.full.trans (Nat.le_add_right _ _)

/-- A block goes behind what is in the buffer. -/
theorem Sound.read (hsound : Sound origin worker stream times) (hat : worker.point = .reading)
    {block : List UInt8} (hfit : (worker.pcm ++ block).length ≤ periodBytes) :
    Sound origin { worker with
      point := if (worker.pcm ++ block).length = periodBytes then .stamping else .reading
      pcm := worker.pcm ++ block } (stream ++ block) times := by
  have hpoint := hsound.point
  simp only [AtPoint, hat] at hpoint
  obtain ⟨hpcm, hlength, -⟩ := hpoint
  have hdrop : worker.pcm ++ block = (stream ++ block).drop (periodBytes * times.length) := by
    rw [List.drop_append_of_le_length hsound.full, hpcm]
  have htotal : (stream ++ block).length =
      periodBytes * times.length + (worker.pcm ++ block).length := by
    rw [List.length_append, List.length_append, hlength]
    omega
  refine hsound.moved rfl rfl (fun _ => by simp [hat]) ?_ ?_
  · intro chunk
    dsimp only
    split <;> exact fun heq => by cases heq
  · by_cases hfull : (worker.pcm ++ block).length = periodBytes
    · simp only [AtPoint, if_pos hfull]
      exact ⟨hdrop, by rw [htotal, hfull]⟩
    · simp only [AtPoint, if_neg hfull]
      exact ⟨hdrop, htotal, by omega⟩

/-- The end of the stream, or an error: what is in the buffer is dropped. -/
theorem Sound.ends (hsound : Sound origin worker stream times) (hat : worker.point = .reading)
    {event : AudioCaptureEvent} (hevent : event.chunk? = none) :
    Sound origin { worker with point := .sendingLast event } (stream ++ []) times := by
  have hpoint := hsound.point
  simp only [AtPoint, hat] at hpoint
  obtain ⟨-, hlength, hshort⟩ := hpoint
  refine hsound.moved rfl rfl (fun _ => by simp [hat]) (fun _ heq => by cases heq) ?_
  refine ⟨hevent, ?_⟩
  rw [List.append_nil, hlength, Nat.mul_add_div (by decide), Nat.div_eq_of_lt hshort,
    Nat.add_zero]

/-- A full period becomes the pending chunk. -/
theorem Sound.complete (hsound : Sound origin worker stream times) (hat : worker.point = .stamping)
    (instant : Instant) : Sound origin (worker.complete origin instant) stream (times ++ [instant]) := by
  have hpoint := hsound.point
  simp only [AtPoint, hat] at hpoint
  obtain ⟨hpcm, hlength⟩ := hpoint
  have hbytes : worker.pcm.length = periodBytes := by
    rw [hpcm, List.length_drop, hlength]
    omega
  have hperiod : (stream.drop (periodBytes * times.length)).take periodBytes = worker.pcm := by
    rw [← hpcm, ← hbytes, List.take_length]
  have hpush : worker.clock.pushPcm worker.pcm = .ok
      (⟨worker.pcm, worker.clock.nextSampleFrame, UInt32.ofNat periodSampleFrames⟩,
        ⟨worker.clock.nextSampleFrame + UInt64.ofNat periodSampleFrames⟩) := by
    rw [AudioClock.pushPcm, hbytes]
    rfl
  have hsent : worker.chunksSent = arecordChunks origin stream times := by
    rw [← hsound.chunks, chunkPending_eq_nil (fun _ => by simp [hat]), List.append_nil]
  rw [ArecordWorker.complete, hpush]
  refine ⟨?_, ?_, ?_, ?_⟩
  · rw [hsound.clock, List.length_append, List.length_singleton, Nat.mul_succ, UInt64.ofNat_add]
  · rw [arecordChunks, List.mapIdx_concat]
    change worker.chunksSent ++ _ = arecordChunks origin stream times ++ _
    rw [hsent, arecordChunk, hperiod, hsound.clock]
    rfl
  · rw [List.length_append, List.length_singleton, hlength]
    exact Nat.le_refl _
  · rw [List.length_append, List.length_singleton]
    exact hlength

/-- The send of a period ends; the chunk is no longer pending. -/
theorem Sound.sentChunk (hsound : Sound origin worker stream times) {chunk : TimedAudioChunk}
    (hat : worker.point = .sendingChunk chunk) (delivered : Bool) :
    Sound origin { worker with
      point := if delivered then .reading else .returned
      pcm := []
      sent := worker.sent ++ [.chunk chunk] } stream times := by
  have hpoint := hsound.point
  have hpending : worker.chunkPending = [chunk] := by rw [chunkPending, hat]
  have hchunks := hsound.chunks
  rw [hpending] at hchunks
  simp only [AtPoint, hat] at hpoint
  refine ⟨hsound.clock, ?_, hsound.full, ?_⟩
  · rw [← hchunks, chunksSent, List.filterMap_append]
    cases delivered <;> exact List.append_nil _
  · cases delivered with
    | false =>
      change stream.length / periodBytes = times.length
      rw [hpoint, Nat.mul_div_cancel_left _ (by decide)]
    | true =>
      have hnone : ([] : List UInt8).length < periodBytes := by decide
      refine ⟨?_, hpoint, hnone⟩
      rw [← hpoint, List.drop_length]

/-- The send of the last event ends. -/
theorem Sound.sentLast (hsound : Sound origin worker stream times) {event : AudioCaptureEvent}
    (hat : worker.point = .sendingLast event) :
    Sound origin { worker with point := .returned, sent := worker.sent ++ [event] } stream times := by
  have hpoint := hsound.point
  simp only [AtPoint, hat] at hpoint
  obtain ⟨hevent, hperiods⟩ := hpoint
  have hchunks := hsound.chunks
  rw [chunkPending_eq_nil (fun _ => by simp [hat]), List.append_nil] at hchunks
  refine ⟨hsound.clock, ?_, hsound.full, hperiods⟩
  rw [← hchunks, chunksSent, List.filterMap_append]
  simp [chunksSent, chunkPending, hevent]

/-- **What one answer does.** The thread follows the stream and the clock. -/
theorem Sound.step {answer : ArecordAnswer} (hsound : Sound origin worker stream times)
    (hstep : worker.step origin answer = some next) :
    Sound origin next (stream ++ answer.bytes) (times ++ answer.instant?.toList) := by
  have hpoint := hsound.point
  revert hstep
  fun_cases ArecordWorker.step origin worker answer <;> rintro ⟨⟩
  case case1 hat =>
    have hevent : AudioCaptureEvent.closed.chunk? = none := rfl
    simpa [ArecordAnswer.bytes, ArecordAnswer.instant?] using hsound.ends hat hevent
  case case2 byte rest hat pcm hfit =>
    have htimes : times ++ (ArecordAnswer.read (byte :: rest)).instant?.toList = times := by
      simp [ArecordAnswer.instant?]
    rw [htimes]
    exact hsound.read hat hfit
  case case4 hat => simpa [ArecordAnswer.bytes, ArecordAnswer.instant?] using hsound
  case case5 unexpectedEof message hat =>
    have hevent : (if unexpectedEof then AudioCaptureEvent.closed
        else .failed message).chunk? = none := by
      cases unexpectedEof <;> rfl
    simpa [ArecordAnswer.bytes, ArecordAnswer.instant?] using hsound.ends hat hevent
  case case6 instant hat =>
    simpa [ArecordAnswer.bytes, ArecordAnswer.instant?] using hsound.complete hat instant
  case case7 chunk delivered hat =>
    simpa [ArecordAnswer.bytes, ArecordAnswer.instant?] using hsound.sentChunk hat delivered
  case case8 event delivered hat =>
    simpa [ArecordAnswer.bytes, ArecordAnswer.instant?] using hsound.sentLast hat

end Step

/-- The answer with which the stream ended. -/
def EndedBy (answers : List ArecordAnswer) : AudioCaptureEvent → Prop
  | .closed => .read [] ∈ answers ∨ ∃ message, .readFailed true message ∈ answers
  | .failed message => .readFailed false message ∈ answers
  | .chunk _ => False

/-- What was sent: the chunks, and at the end one event that says why, unless
the receiver was dropped. -/
def Ends (answers : List ArecordAnswer) (worker : ArecordWorker) : Prop :=
  match worker.point with
  | .returned =>
    (∃ terminal, EndedBy answers terminal ∧
      worker.sent = worker.chunksSent.map .chunk ++ [terminal]) ∨
    (.sent false ∈ answers ∧ worker.sent = worker.chunksSent.map .chunk)
  | .sendingLast event => EndedBy answers event ∧ worker.sent = worker.chunksSent.map .chunk
  | _ => worker.sent = worker.chunksSent.map .chunk

/-- The answers that are left when the stream has ended. -/
def endingAnswers (worker : ArecordWorker) : ℕ :=
  match worker.point with
  | .sendingLast _ => 1
  | .returned => 2
  | _ => 0

/-- Every answer but an interruption takes bytes, or belongs to a period, or to
the end. -/
def Paid (answers : List ArecordAnswer) (worker : ArecordWorker) : Prop :=
  (answers.filter (· ≠ .interrupted)).length ≤ (arecordStream answers).length +
    (arecordTimes answers).length + worker.chunksSent.length + worker.endingAnswers

section Run

variable {origin : Instant} {answers : List ArecordAnswer} {worker next : ArecordWorker}
  {answer : ArecordAnswer}

theorem EndedBy.concat {event : AudioCaptureEvent} (h : EndedBy answers event) :
    EndedBy (answers ++ [answer]) event := by
  cases event with
  | closed =>
    exact h.imp (List.mem_append_left _)
      fun ⟨message, hmem⟩ => ⟨message, List.mem_append_left _ hmem⟩
  | failed message => exact List.mem_append_left _ h
  | chunk chunk => exact h

theorem complete_spec (worker : ArecordWorker) (instant : Instant) :
    (worker.complete origin instant).sent = worker.sent ∧
      (∀ event, (worker.complete origin instant).point ≠ .sendingLast event) ∧
      (worker.complete origin instant).point ≠ .returned := by
  rw [complete]
  split
  · simp
  · simp

/-- At most points only chunks were sent. -/
theorem Ends.of_sent (hlast : ∀ event, worker.point ≠ .sendingLast event)
    (hreturned : worker.point ≠ .returned) (h : worker.sent = worker.chunksSent.map .chunk) :
    Ends answers worker := by
  rw [Ends]
  split
  · exact absurd ‹_› hreturned
  · exact absurd ‹_› (hlast _)
  · exact h

theorem Ends.step (hends : Ends answers worker) (hstep : worker.step origin answer = some next) :
    Ends (answers ++ [answer]) next := by
  have hmem : answer ∈ answers ++ [answer] :=
    List.mem_append_right _ (List.mem_singleton_self _)
  revert hstep
  fun_cases ArecordWorker.step origin worker answer <;> rintro ⟨⟩
  -- one case for each branch of the thread's step
  case case1 hat =>
    simp only [Ends, hat] at hends
    exact ⟨.inl hmem, hends⟩
  case case2 byte rest hat pcm hfit =>
    simp only [Ends, hat] at hends
    refine .of_sent ?_ ?_ hends
    · intro event
      dsimp only
      split <;> exact fun heq => by cases heq
    · dsimp only
      split <;> exact fun heq => by cases heq
  case case4 hat =>
    simp only [Ends, hat] at hends
    exact .of_sent (by simp [hat]) (by simp [hat]) hends
  -- `read_exact` fails: the stream is over, or arecord is broken
  case case5 unexpectedEof message hat =>
    simp only [Ends, hat] at hends
    refine ⟨?_, hends⟩
    cases unexpectedEof with
    | true => exact .inr ⟨message, hmem⟩
    | false => exact hmem
  case case6 instant hat =>
    simp only [Ends, hat] at hends
    obtain ⟨hsent, hlast, hreturned⟩ := @complete_spec origin worker instant
    refine .of_sent hlast hreturned ?_
    rw [chunksSent, hsent]
    exact hends
  case case7 chunk delivered hat =>
    simp only [Ends, hat] at hends
    have hsent : worker.sent ++ [.chunk chunk] =
        (chunksSent { worker with sent := worker.sent ++ [.chunk chunk] }).map .chunk := by
      rw [chunksSent, List.filterMap_append, List.map_append, ← chunksSent, ← hends]
      rfl
    -- the thread goes on unless the receiver is gone, which this answer tells
    cases delivered with
    | true => exact .of_sent (by simp) (by simp) hsent
    | false => exact .inr ⟨hmem, hsent⟩
  case case8 event delivered hat =>
    simp only [Ends, hat] at hends
    obtain ⟨hended, hsent⟩ := hends
    refine .inl ⟨event, hended.concat, ?_⟩
    -- what is sent last is never a chunk
    have hevent : event.chunk? = none := by
      cases event with
      | chunk chunk => cases hended
      | _ => rfl
    have hchunks : (worker.sent ++ [event]).filterMap AudioCaptureEvent.chunk? =
        worker.chunksSent := by
      rw [List.filterMap_append, chunksSent]
      simp [hevent]
    rw [chunksSent, hchunks, ← hsent]

theorem Paid.step (hpaid : Paid answers worker) (hstep : worker.step origin answer = some next) :
    Paid (answers ++ [answer]) next := by
  have hcount : ((answers ++ [answer]).filter (· ≠ .interrupted)).length =
      (answers.filter (· ≠ .interrupted)).length + if answer = .interrupted then 0 else 1 := by
    rw [List.filter_append, List.length_append]
    by_cases hanswer : answer = .interrupted <;> simp [hanswer]
  have hstream : (arecordStream (answers ++ [answer])).length =
      (arecordStream answers).length + answer.bytes.length := by
    rw [arecordStream, List.flatMap_append, List.length_append, List.flatMap_singleton,
      arecordStream]
  have htimes : (arecordTimes (answers ++ [answer])).length =
      (arecordTimes answers).length + answer.instant?.toList.length := by
    rw [arecordTimes, List.filterMap_append, List.length_append, arecordTimes]
    cases answer <;> rfl
  -- an answer adds a byte at least, or a time, or a chunk that was sent, or ends the thread
  rw [Paid] at hpaid ⊢
  rw [hcount, hstream, htimes]
  revert hstep
  fun_cases ArecordWorker.step origin worker answer <;> rintro ⟨⟩
  case case1 hat =>
    simp [endingAnswers, hat] at hpaid
    simp [endingAnswers, chunksSent, ArecordAnswer.bytes, ArecordAnswer.instant?] at hpaid ⊢
    omega
  case case2 byte rest hat pcm hfit =>
    simp [endingAnswers, hat, chunksSent] at hpaid
    have hends : endingAnswers { worker with
        point := if pcm.length = periodBytes then .stamping else .reading, pcm := pcm } = 0 := by
      rw [endingAnswers]
      by_cases hfull : pcm.length = periodBytes <;> simp [hfull]
    rw [hends]
    simp [chunksSent, ArecordAnswer.bytes, ArecordAnswer.instant?]
    omega
  case case4 hat => simpa [ArecordAnswer.bytes, ArecordAnswer.instant?] using hpaid
  case case5 unexpectedEof message hat =>
    simp [endingAnswers, hat, chunksSent] at hpaid
    simp [endingAnswers, chunksSent, ArecordAnswer.bytes, ArecordAnswer.instant?]
    omega
  case case6 instant hat =>
    simp [endingAnswers, hat, chunksSent] at hpaid
    obtain ⟨hsent, -⟩ := @complete_spec origin worker instant
    simp [chunksSent, hsent, ArecordAnswer.bytes, ArecordAnswer.instant?]
    omega
  case case7 chunk delivered hat =>
    simp [endingAnswers, hat, chunksSent] at hpaid
    simp [chunksSent, AudioCaptureEvent.chunk?, ArecordAnswer.bytes, ArecordAnswer.instant?]
    omega
  case case8 event delivered hat =>
    simp [endingAnswers, hat, chunksSent] at hpaid
    simp [endingAnswers, chunksSent, ArecordAnswer.bytes, ArecordAnswer.instant?]
    omega

/-- What holds after any answers. -/
theorem holds_of_run (hrun : run origin answers = some worker) :
    Sound origin worker (arecordStream answers) (arecordTimes answers) ∧
      Ends answers worker ∧ Paid answers worker := by
  refine Guarded.run_history (P := fun answers worker =>
    Sound origin worker (arecordStream answers) (arecordTimes answers) ∧
      Ends answers worker ∧ Paid answers worker) ⟨sound_start origin, rfl, Nat.le_refl _⟩ ?_ hrun
  rintro past before answer after ⟨hsound, hends, hpaid⟩ hstep
  refine ⟨?_, hends.step hstep, hpaid.step hstep⟩
  have hnext := hsound.step hstep
  have hstream : arecordStream (past ++ [answer]) = arecordStream past ++ answer.bytes := by
    rw [arecordStream, List.flatMap_append, List.flatMap_singleton, arecordStream]
  have htimes : arecordTimes (past ++ [answer]) = arecordTimes past ++ answer.instant?.toList := by
    rw [arecordTimes, List.filterMap_append, arecordTimes]
    cases answer <;> rfl
  rwa [hstream, htimes]

/-- Until it has returned, the thread takes an answer of each call. -/
theorem exists_answer (origin : Instant) (worker : ArecordWorker)
    (hpanicked : worker.point ≠ .panicked) (hreturned : worker.point ≠ .returned) :
    ∃ answer, (worker.step origin answer).isSome := by
  rcases hat : worker.point with _ | _ | chunk | event | _ | _
  · exact ⟨.read [], by simp [step, hat]⟩
  · exact ⟨.now 0, by simp [step, hat]⟩
  · exact ⟨.sent true, by simp [step, hat]⟩
  · exact ⟨.sent true, by simp [step, hat]⟩
  · exact absurd hat hreturned
  · exact absurd hat hpanicked

/-- **The arecord capture loop.** However the reads cut the stream of the
recorder, the chunks that are sent or being sent are the full periods of what
was read, in order, each at its counted position, with the clock at its end
less 40 ms; what is left is shorter than a period, and when the thread returns
it is all that is missing. The last event, and only it, says whether the
stream ended or failed. The thread does not panic, does not wait for nothing,
and for each byte and each period it makes a bounded number of calls. -/
theorem arecord_delivers (origin : Instant) (answers : List ArecordAnswer)
    (worker : ArecordWorker) (hrun : run origin answers = some worker) :
    worker.chunksSent ++ worker.chunkPending =
      arecordChunks origin (arecordStream answers) (arecordTimes answers) ∧
    periodBytes * (arecordTimes answers).length ≤ (arecordStream answers).length ∧
    (worker.point = .returned →
      (arecordTimes answers).length = (arecordStream answers).length / periodBytes ∧
      (.sent false ∉ answers → ∃ terminal, EndedBy answers terminal ∧
        worker.sent = worker.chunksSent.map .chunk ++ [terminal])) ∧
    worker.point ≠ .panicked ∧
    (worker.point ≠ .returned → ∃ answer, (worker.step origin answer).isSome) ∧
    (answers.filter (· ≠ .interrupted)).length ≤
      (arecordStream answers).length + 2 * (arecordTimes answers).length + 2 := by
  obtain ⟨hsound, hends, hpaid⟩ := holds_of_run hrun
  have hpanicked := hsound.not_panicked
  refine ⟨hsound.chunks, hsound.full, ?_, hpanicked, exists_answer origin worker hpanicked, ?_⟩
  · intro hreturned
    have hpoint := hsound.point
    simp only [AtPoint, hreturned] at hpoint
    simp only [Ends, hreturned] at hends
    refine ⟨hpoint.symm, fun hreceiver => ?_⟩
    exact hends.resolve_right fun ⟨hdropped, _⟩ => hreceiver hdropped
  · have hchunks := congrArg List.length hsound.chunks
    rw [arecordChunks, List.length_mapIdx, List.length_append] at hchunks
    have hending : worker.endingAnswers ≤ 2 := by
      rw [endingAnswers]
      split <;> omega
    rw [Paid] at hpaid
    omega

end Run

/-- A period in two reads, a part of another, and the end of the stream. -/
def closedRun : List ArecordAnswer :=
  [.read (List.replicate 2000 1), .interrupted, .read (List.replicate 560 2), .now 90000000,
    .sent true, .read [3, 4, 5], .read [], .sent true]

theorem arecord_delivers_closedRun : ∃ worker, run 0 closedRun = some worker ∧
    worker.chunksSent.map (·.observedStart) = [.fromMicros 50000] ∧
    ∃ terminal, EndedBy closedRun terminal ∧
      worker.sent = worker.chunksSent.map .chunk ++ [terminal] := by
  have hany : (run 0 closedRun).any (fun worker => decide (worker.point = .returned) &&
      decide (worker.chunksSent.map (·.observedStart) = [.fromMicros 50000])) = true := by
    decide +kernel
  obtain ⟨worker, hrun, hchecks⟩ := Option.any_eq_true _ _ |>.mp hany
  rw [Bool.and_eq_true, decide_eq_true_eq, decide_eq_true_eq] at hchecks
  obtain ⟨hreturned, hstarts⟩ := hchecks
  obtain ⟨-, -, hends, -⟩ := arecord_delivers 0 closedRun worker hrun
  exact ⟨worker, hrun, hstarts, (hends hreturned).2 (by decide)⟩

end ArecordWorker

/-! ## A capture with this thread -/

namespace Capture

section Capture

variable {W : Type} [Write W] [Seek W] {file : Cursor → W}

/-- **A capture with the arecord thread.** The blocks are the first periods of
the stream, and whatever the camera and the recorder do, the command over a
file without faults fails only with an event of the thread or of the camera, or
because there were no blocks or no frames when it was asked to stop. -/
theorem runCapture_arecord (hfile : Seekable file) (origin : Instant) (delayMs : Int64)
    {answers : List ArecordAnswer} {worker : ArecordWorker} {turns : List CaptureTurn}
    (hworker : ArecordWorker.run origin answers = some worker)
    (hsent : turns.flatMap CaptureTurn.audioEvents <+: worker.sent) :
    blocks turns <+:
        arecordChunks origin (arecordStream answers) (arecordTimes answers) ∧
      ∀ capture error, runCapture origin delayMs (endOf file [])
          (decide (worker.point = .panicked)) turns = .ok (capture, some (.error error)) →
        Fits delayMs capture.history.timed →
          ∃ cause past turn rest, error = .capture cause ∧ turns = past ++ turn :: rest ∧
            Explained past turn cause := by
  obtain ⟨hsound, -, -⟩ := ArecordWorker.holds_of_run hworker
  have hpre : blocks turns <+:
      arecordChunks origin (arecordStream answers) (arecordTimes answers) := by
    rw [← hsound.chunks, blocks_eq]
    exact (hsent.filterMap _).trans (List.prefix_append _ _)
  refine ⟨hpre, ?_⟩
  intro capture error hrun hfits
  refine (runCapture_error hfile hrun hfits ?_).resolve_left fun ⟨_, hjoined⟩ =>
    hsound.not_panicked (of_decide_eq_true hjoined)
  intro block hblock timing
  obtain ⟨k, hk, rfl⟩ := List.mem_mapIdx.mp (hpre.subset hblock)
  -- a period was read in full before its time was taken
  have hperiod : periodBytes * (k + 1) ≤ periodBytes * (arecordTimes answers).length :=
    Nat.mul_le_mul_left _ hk
  have hfull := hsound.full
  rw [Nat.mul_succ] at hperiod
  have hlength : (((arecordStream answers).drop (periodBytes * k)).take periodBytes).length =
      periodBytes := by
    rw [List.length_take, List.length_drop]
    omega
  refine ⟨rfl, ?_⟩
  simp only [arecordChunk, hlength]
  rfl

end Capture

theorem runCapture_arecord_audioOnly :
    ∃ worker capture error, ArecordWorker.run 0 ArecordWorker.closedRun = some worker ∧
      (blocks (audioOnly worker.sent)).length = 1 ∧
      runCapture 0 0 (endOf id [] : Cursor) (decide (worker.point = .panicked))
        (audioOnly worker.sent) = .ok (capture, some (.error error)) ∧
      ∃ cause past turn rest, error = .capture cause ∧
        audioOnly worker.sent = past ++ turn :: rest ∧ Explained past turn cause := by
  have hany : (ArecordWorker.run 0 ArecordWorker.closedRun).any (fun worker =>
      decide ((blocks (audioOnly worker.sent)).length = 1) &&
        failsShort (decide (worker.point = .panicked)) (audioOnly worker.sent)) = true := by
    decide +kernel
  obtain ⟨worker, hworker, hchecks⟩ := Option.any_eq_true _ _ |>.mp hany
  rw [Bool.and_eq_true, decide_eq_true_eq] at hchecks
  obtain ⟨capture, error, hrun, hfits⟩ := fails_of_failsShort hchecks.2
  exact ⟨worker, capture, error, hworker, hchecks.1, hrun,
    (runCapture_arecord seekable_cursor 0 0 hworker (audioOnly_isPrefix worker.sent)).2 capture
      error hrun hfits⟩

end Capture

end Handycam
