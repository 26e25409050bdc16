import Mathlib
import Handycam.Media

/-!
# The ALSA capture loop

`run_alsa_capture` is a thread with two nested loops: the outer one waits for
the device and sends a period, the inner one fills it. Here the thread is a
state machine that stops before each call it makes. A step is the answer of the
call: what the device returned, or whether the receiver is still there. The
flag by which the thread is asked to stop is shared; it is cleared between any
two steps.

* **the machine** — `AlsaWorker.step`, one branch for each point and answer;
* **the account** — what became of the samples that were read, from the
  answers alone: a period, or removed by a recovery;
* **the run** — what the chunks sent so far have to do with the account.
-/

namespace Handycam

/-! ## Periods -/

/-- `AUDIO_SAMPLE_RATE_HZ`. -/
def audioSampleRateHz : UInt32 := 16000

/-- `AUDIO_CHANNELS`. -/
def audioChannels : ℕ := 2

/-- `PERIOD_SAMPLE_FRAMES`. -/
def periodSampleFrames : ℕ := 640

/-- The format of the camera's audio. -/
def alsaFormat : AudioFormat := ⟨audioSampleRateHz, 2, .signed16LittleEndian, by decide, by decide⟩

theorem pcmS16le_alsaFormat : AudioFormat.pcmS16le audioSampleRateHz 2 = .ok alsaFormat := rfl

/-- `to_le_bytes` of an `i16`. -/
def leBytes16 (sample : Int16) : List UInt8 :=
  [sample.toUInt16.toUInt8, (sample.toUInt16 >>> 8).toUInt8]

theorem length_flatMap_leBytes16 (samples : List Int16) :
    (samples.flatMap leBytes16).length = 2 * samples.length := by
  induction samples with
  | nil => rfl
  | cons sample samples ih =>
    rw [List.flatMap_cons, List.length_append, ih, List.length_cons]
    simp only [leBytes16, List.length_cons, List.length_nil]
    omega

/-- `timespec_ns`: negative parts count as zero. -/
def timespecNs (seconds nanoseconds : Int64) : UInt64 :=
  ((UInt64.ofNat seconds.toInt.toNat).saturatingMul 1000000000).saturatingAdd
    (UInt64.ofNat nanoseconds.toInt.toNat)

/-- `first_sample_timestamp_ns`: the status time, less the frames that were
captured since the first sample of the period. -/
def firstSampleTimestampNs (statusNs availableFrames periodFrames : UInt64)
    (sampleRateHz : UInt32) : UInt64 :=
  let framesBeforeHardware := availableFrames.saturatingAdd periodFrames
  statusNs.saturatingSub (framesBeforeHardware.saturatingMul 1000000000 / sampleRateHz.toUInt64)

/-! ## The machine -/

/-- An error of ALSA. -/
structure AlsaError where
  /-- its number -/
  errno : ℤ
  /-- its text -/
  message : String
  deriving DecidableEq

/-- `EAGAIN`. -/
def eagain : ℤ := 11

/-- What a status query returns. -/
structure PcmStatus where
  /-- seconds of the hardware timestamp -/
  seconds : Int64
  /-- its nanoseconds -/
  nanoseconds : Int64
  /-- frames that are captured and not read -/
  avail : Int64
  deriving DecidableEq

/-- The time of the first sample of a period that was just read, after the origin. -/
def PcmStatus.observedUs (monotonicOriginNs : UInt64) (status : PcmStatus) : UInt64 :=
  let statusNs := timespecNs status.seconds status.nanoseconds
  let availableFrames := UInt64.ofNat status.avail.toInt.toNat
  let firstSampleNs := firstSampleTimestampNs statusNs availableFrames
    (UInt64.ofNat periodSampleFrames) audioSampleRateHz
  firstSampleNs.saturatingSub monotonicOriginNs / 1000

/-- Where the thread is. -/
inductive AlsaPoint where
  /-- in `io_i16` -/
  | opening
  /-- at the head of the outer loop -/
  | loopHead
  /-- in the `wait` of the outer loop -/
  | waiting
  /-- at the head of the inner loop -/
  | readHead
  /-- in `readi` -/
  | reading
  /-- in the `wait` of the inner loop -/
  | retrying
  /-- in `try_recover` -/
  | recovering
  /-- in `status` -/
  | querying
  /-- in the `send` of a period -/
  | sendingChunk (chunk : TimedAudioChunk)
  /-- in the `send` of the last event -/
  | sendingLast (event : AudioCaptureEvent)
  /-- the function has returned -/
  | returned
  /-- an index was out of range, or an `expect` failed -/
  | panicked
  deriving DecidableEq

/-- The thread and its flag. -/
structure AlsaWorker where
  /-- where the thread is -/
  point : AlsaPoint
  /-- the shared flag -/
  running : Bool
  /-- the counter of sample frames -/
  clock : AudioClock
  /-- samples were lost since the last chunk -/
  sourceDiscontinuity : Bool
  /-- the buffer of the period -/
  samples : List Int16
  /-- how many of its frames are filled -/
  framesRead : ℕ
  /-- the events that were passed to `send` -/
  sent : List AudioCaptureEvent
  deriving DecidableEq

/-- What happens: a stop request, the answer of a call, or a turn at the head
of a loop. -/
inductive AlsaAction where
  /-- `stop_inner` clears the flag -/
  | stop
  /-- the head of a loop is passed -/
  | turn
  /-- `io_i16` returns -/
  | opened (result : Except AlsaError Unit)
  /-- `wait` returns -/
  | waited (result : Except AlsaError Bool)
  /-- `readi` returns; interleaved samples, or an error -/
  | read (result : Except AlsaError (List Int16))
  /-- `try_recover` returns -/
  | recovered (result : Except AlsaError Unit)
  /-- `status` returns -/
  | queried (result : Except AlsaError PcmStatus)
  /-- `send` returns; an error when the receiver was dropped -/
  | sent (delivered : Bool)
  deriving DecidableEq

namespace AlsaWorker

/-- The thread before its first call. -/
def start : AlsaWorker where
  point := .opening
  running := true
  clock := ⟨0⟩
  sourceDiscontinuity := false
  samples := []
  framesRead := 0
  sent := []

/-- Go on to another point. -/
def goto (worker : AlsaWorker) (point : AlsaPoint) : AlsaWorker := { worker with point := point }

/-- Send an error, and return. -/
def fail (worker : AlsaWorker) (error : AlsaError) : AlsaWorker :=
  worker.goto (.sendingLast (.failed error.message))

/-- The head of the inner loop, and what follows it. -/
def readTurn (worker : AlsaWorker) : AlsaWorker :=
  if worker.framesRead < periodSampleFrames ∧ worker.running then
    -- the slice of the buffer that is not filled
    if worker.framesRead * audioChannels ≤ worker.samples.length then worker.goto .reading
    else worker.goto .panicked
  else if worker.framesRead ≠ periodSampleFrames then worker.goto .loopHead
  else worker.goto .querying

/-- `readi` returns some frames. -/
def fill (worker : AlsaWorker) (block : List Int16) : AlsaWorker :=
  { worker with
    point := .readHead
    framesRead := worker.framesRead + block.length / audioChannels
    samples := worker.samples.take (worker.framesRead * audioChannels) ++ block ++
      worker.samples.drop (worker.framesRead * audioChannels + block.length) }

/-- A full period becomes a chunk. -/
def complete (monotonicOriginNs : UInt64) (worker : AlsaWorker) (status : PcmStatus) :
    AlsaWorker :=
  match worker.clock.pushPcm (worker.samples.flatMap leBytes16) with
  | .error _ => worker.goto .panicked
  | .ok (chunk, clock) =>
    { worker with
      point := .sendingChunk {
        observedStart := .fromMicros (status.observedUs monotonicOriginNs)
        timestampAccuracy := .hardware
        format := alsaFormat
        chunk := chunk
        sourceDiscontinuity := worker.sourceDiscontinuity }
      clock := clock
      sourceDiscontinuity := false }

/-- A step of the machine; none when the thread is not in that call. `readi`
returns whole frames, and no more than fit into the slice. -/
def step (monotonicOriginNs : UInt64) (worker : AlsaWorker) (action : AlsaAction) :
    Option AlsaWorker :=
  match worker.point, action with
  | _, .stop => some { worker with running := false }
  | .opening, .opened (.error error) => some (worker.fail error)
  | .opening, .opened (.ok _) => some (worker.goto .loopHead)
  | .loopHead, .turn =>
    some (worker.goto (if worker.running then .waiting else .sendingLast .closed))
  | .waiting, .waited (.error error) => some (worker.fail error)
  | .waiting, .waited (.ok false) => some (worker.goto .loopHead)
  | .waiting, .waited (.ok true) =>
    some { worker with
      point := .readHead
      samples := List.replicate (periodSampleFrames * audioChannels) 0
      framesRead := 0 }
  | .readHead, .turn => some worker.readTurn
  | .reading, .read (.ok block) =>
    if block.length % audioChannels = 0 ∧
        block.length ≤ worker.samples.length - worker.framesRead * audioChannels then
      some (worker.fill block)
    else none
  | .reading, .read (.error error) =>
    some (worker.goto (if error.errno = eagain then .retrying else .recovering))
  | .retrying, .waited (.error error) => some (worker.fail error)
  | .retrying, .waited (.ok _) => some (worker.goto .readHead)
  | .recovering, .recovered (.error error) => some (worker.fail error)
  | .recovering, .recovered (.ok _) =>
    some { worker with point := .readHead, sourceDiscontinuity := true, framesRead := 0 }
  | .querying, .queried (.error error) => some (worker.fail error)
  | .querying, .queried (.ok status) => some (worker.complete monotonicOriginNs status)
  | .sendingChunk chunk, .sent delivered =>
    some { worker with
      point := if delivered then .loopHead else .returned
      sent := worker.sent ++ [.chunk chunk] }
  | .sendingLast event, .sent _ =>
    some { worker with point := .returned, sent := worker.sent ++ [event] }
  | _, _ => none

/-- `run_alsa_capture` up to some point. -/
def run (monotonicOriginNs : UInt64) (actions : List AlsaAction) : Option AlsaWorker :=
  actions.foldlM (step monotonicOriginNs) start

end AlsaWorker

/-! ## What became of the samples -/

/-- A period, as the answers of the device give it. -/
structure AlsaPeriod where
  /-- its samples -/
  samples : List Int16
  /-- a recovery happened since the period before -/
  recovered : Bool
  /-- the status after it was read -/
  status : PcmStatus

/-- What samples were read for. -/
inductive AlsaPiece where
  /-- a period whose status was answered -/
  | period (period : AlsaPeriod)
  /-- an unfinished period, removed by a recovery -/
  | removed (samples : List Int16)

/-- The samples of a piece. -/
def AlsaPiece.samples : AlsaPiece → List Int16
  | .period full => full.samples
  | .removed samples => samples

/-- The period of a piece. -/
def AlsaPiece.period? : AlsaPiece → Option AlsaPeriod
  | .period full => some full
  | .removed _ => none

/-- The account of the samples that were read. It looks at the answers of the
device, and not at the thread. -/
structure AlsaAccount where
  /-- what is settled -/
  pieces : List AlsaPiece
  /-- what is read and not settled -/
  unfinished : List Int16
  /-- a recovery happened since the last period -/
  recovered : Bool

namespace AlsaAccount

/-- Before the first answer. -/
def empty : AlsaAccount := ⟨[], [], false⟩

/-- Enter an answer. -/
def note (account : AlsaAccount) : AlsaAction → AlsaAccount
  | .read (.ok block) => { account with unfinished := account.unfinished ++ block }
  | .recovered (.ok _) => ⟨account.pieces ++ [.removed account.unfinished], [], true⟩
  | .queried (.ok status) =>
    ⟨account.pieces ++ [.period ⟨account.unfinished, account.recovered, status⟩], [], false⟩
  | _ => account

/-- The account after some answers. -/
def after (actions : List AlsaAction) : AlsaAccount := actions.foldl note empty

/-- The periods, in order. -/
def periods (account : AlsaAccount) : List AlsaPeriod := account.pieces.filterMap AlsaPiece.period?

/-- Every sample that was entered, in order. -/
def samples (account : AlsaAccount) : List Int16 :=
  account.pieces.flatMap AlsaPiece.samples ++ account.unfinished

@[simp] theorem after_nil : after [] = empty := rfl

@[simp] theorem after_concat (actions : List AlsaAction) (action : AlsaAction) :
    after (actions ++ [action]) = (after actions).note action := by
  simp only [after, List.foldl_append, List.foldl_cons, List.foldl_nil]

end AlsaAccount

/-- What `readi` returned. -/
def AlsaAction.samplesRead : AlsaAction → List Int16
  | .read (.ok block) => block
  | _ => []

theorem AlsaAccount.note_samples (account : AlsaAccount) (action : AlsaAction) :
    (account.note action).samples = account.samples ++ action.samplesRead := by
  fun_cases note account action <;>
    simp [samples, AlsaAction.samplesRead, AlsaPiece.samples]

/-- Nothing that was read is missing from the account. -/
theorem AlsaAccount.after_samples (actions : List AlsaAction) :
    (after actions).samples = actions.flatMap AlsaAction.samplesRead := by
  induction actions using List.reverseRecOn with
  | nil => rfl
  | append_singleton actions action ih =>
    rw [after_concat, note_samples, ih, List.flatMap_append, List.flatMap_singleton]

/-- The chunk of the `k`-th period. -/
def AlsaPeriod.chunk (monotonicOriginNs : UInt64) (k : ℕ) (period : AlsaPeriod) :
    TimedAudioChunk where
  observedStart := .fromMicros (period.status.observedUs monotonicOriginNs)
  timestampAccuracy := .hardware
  format := alsaFormat
  chunk := ⟨period.samples.flatMap leBytes16, UInt64.ofNat (periodSampleFrames * k),
    UInt32.ofNat periodSampleFrames⟩
  sourceDiscontinuity := period.recovered

/-- The chunk of an event. -/
def AudioCaptureEvent.chunk? : AudioCaptureEvent → Option TimedAudioChunk
  | .chunk timed => some timed
  | _ => none

/-! ## The run -/

namespace AlsaWorker

/-- A property of the actions so far and the state is kept by a run when each
step keeps it. -/
theorem run_induction {monotonicOriginNs : UInt64}
    {P : List AlsaAction → AlsaWorker → Prop} (hstart : P [] start)
    (hstep : ∀ actions action worker next, P actions worker →
      step monotonicOriginNs worker action = some next → P (actions ++ [action]) next)
    {actions : List AlsaAction} {worker : AlsaWorker}
    (hrun : run monotonicOriginNs actions = some worker) : P actions worker := by
  induction actions using List.reverseRecOn generalizing worker with
  | nil =>
    obtain rfl := Option.some.inj hrun
    exact hstart
  | append_singleton actions action ih =>
    rw [run, List.foldlM_append] at hrun
    obtain ⟨before, hbefore, hlast⟩ := Option.bind_eq_some_iff.mp hrun
    have hlast : step monotonicOriginNs before action = some worker := by
      simpa only [List.foldlM_cons, List.foldlM_nil, bind_pure] using hlast
    exact hstep actions action before worker (ih hbefore) hlast

/-- The chunks that were passed to `send`. -/
def chunksSent (worker : AlsaWorker) : List TimedAudioChunk :=
  worker.sent.filterMap AudioCaptureEvent.chunk?

/-- The chunk that is being passed. -/
def chunkPending (worker : AlsaWorker) : List TimedAudioChunk :=
  match worker.point with
  | .sendingChunk chunk => [chunk]
  | _ => []

/-- What holds at the point where the thread is, of the samples that are not
settled. -/
def AtPoint (worker : AlsaWorker) (unfinished : List Int16) : Prop :=
  match worker.point with
  | .opening | .waiting | .sendingChunk _ => unfinished = []
  | .loopHead => worker.running = true → unfinished = []
  | .readHead | .reading | .retrying | .recovering =>
    worker.samples.length = periodSampleFrames * audioChannels ∧
      worker.framesRead ≤ periodSampleFrames ∧
      unfinished = worker.samples.take (worker.framesRead * audioChannels)
  | .querying =>
    worker.samples.length = periodSampleFrames * audioChannels ∧ unfinished = worker.samples
  | .sendingLast event => event.chunk? = none
  | .returned => True
  | .panicked => False

/-- What holds between the thread and the account. -/
structure Sound (monotonicOriginNs : UInt64) (worker : AlsaWorker) (account : AlsaAccount) :
    Prop where
  /-- the clock counted the periods -/
  clock : worker.clock = ⟨UInt64.ofNat (periodSampleFrames * account.periods.length)⟩
  /-- the flag waits for the next chunk -/
  flag : worker.sourceDiscontinuity = account.recovered
  /-- the periods are full -/
  full : ∀ period ∈ account.periods,
    period.samples.length = periodSampleFrames * audioChannels
  /-- each period made a chunk -/
  chunks : worker.chunksSent ++ worker.chunkPending =
    account.periods.mapIdx (AlsaPeriod.chunk monotonicOriginNs)
  /-- the buffer holds what is not settled -/
  point : worker.AtPoint account.unfinished

theorem Sound.not_panicked {monotonicOriginNs : UInt64} {worker : AlsaWorker}
    {account : AlsaAccount} (h : Sound monotonicOriginNs worker account) :
    worker.point ≠ .panicked := by
  intro hat
  simpa only [AtPoint, hat] using h.point

theorem sound_start (monotonicOriginNs : UInt64) : Sound monotonicOriginNs start .empty where
  clock := rfl
  flag := rfl
  full := by simp [AlsaAccount.empty, AlsaAccount.periods]
  chunks := rfl
  point := rfl

section Step

variable {monotonicOriginNs : UInt64} {worker next : AlsaWorker} {account : AlsaAccount}

/-- A step that sends nothing keeps what is known of the chunks. -/
theorem Sound.moved (hsound : Sound monotonicOriginNs worker account)
    (hclock : next.clock = worker.clock)
    (hflag : next.sourceDiscontinuity = worker.sourceDiscontinuity)
    (hchunks : next.chunksSent ++ next.chunkPending = worker.chunksSent ++ worker.chunkPending)
    (hpoint : next.AtPoint account.unfinished) : Sound monotonicOriginNs next account where
  clock := hclock.trans hsound.clock
  flag := hflag.trans hsound.flag
  full := hsound.full
  chunks := hchunks.trans hsound.chunks
  point := hpoint

theorem chunkPending_eq_nil {point : AlsaPoint} (hat : worker.point = point)
    (hother : ∀ chunk, point ≠ .sendingChunk chunk) : worker.chunkPending = [] := by
  subst hat
  unfold chunkPending
  split
  · exact absurd ‹_› (hother _)
  · rfl

/-- Between two points without a pending chunk only the point matters. -/
theorem Sound.goto {point : AlsaPoint} (hsound : Sound monotonicOriginNs worker account)
    (hpending : worker.chunkPending = []) (hother : ∀ chunk, point ≠ .sendingChunk chunk)
    (hpoint : (worker.goto point).AtPoint account.unfinished) :
    Sound monotonicOriginNs (worker.goto point) account := by
  refine hsound.moved rfl rfl ?_ hpoint
  rw [hpending, chunkPending_eq_nil rfl hother]
  rfl

/-- A stop request leaves the thread where it is. -/
theorem Sound.stop (hsound : Sound monotonicOriginNs worker account) :
    Sound monotonicOriginNs { worker with running := false } account := by
  refine hsound.moved rfl rfl rfl ?_
  have hpoint := hsound.point
  revert hpoint
  unfold AtPoint
  cases worker.point <;> simp +contextual

/-- An error ends in the send of the last event, whatever is unfinished. -/
theorem Sound.fail (hsound : Sound monotonicOriginNs worker account) (error : AlsaError)
    (hpending : worker.chunkPending = []) :
    Sound monotonicOriginNs (worker.fail error) account :=
  hsound.goto hpending (fun _ => nofun) rfl

/-- Within a period, the account has what is filled of it. -/
theorem Sound.reads (hsound : Sound monotonicOriginNs worker account)
    (hread : worker.point = .readHead ∨ worker.point = .reading) :
    worker.chunkPending = [] ∧
      worker.samples.length = periodSampleFrames * audioChannels ∧
      worker.framesRead ≤ periodSampleFrames ∧
      account.unfinished = worker.samples.take (worker.framesRead * audioChannels) := by
  have hpoint := hsound.point
  rcases hread with hread | hread
  · simp only [AtPoint, hread] at hpoint
    exact ⟨by rw [chunkPending, hread], hpoint⟩
  · simp only [AtPoint, hread] at hpoint
    exact ⟨by rw [chunkPending, hread], hpoint⟩

/-- The head of the inner loop: the slice is in range, and a stop leaves an unfinished period
behind. -/
theorem Sound.readTurn (hsound : Sound monotonicOriginNs worker account)
    (hread : worker.point = .readHead) : Sound monotonicOriginNs worker.readTurn account := by
  obtain ⟨hpending, hlength, hframes, hunfinished⟩ := hsound.reads (.inl hread)
  have hslice : worker.framesRead * audioChannels ≤ worker.samples.length := by
    rw [hlength]
    exact Nat.mul_le_mul_right _ hframes
  unfold AlsaWorker.readTurn
  split
  · exact hsound.goto hpending (fun _ => nofun) ⟨hlength, hframes, hunfinished⟩
  · rename_i hdone
    split
    · -- the loop was left by the flag
      rename_i hshort
      have hrunning : worker.running ≠ true := fun hrunning =>
        hdone ⟨Nat.lt_of_le_of_ne hframes hshort, hrunning⟩
      exact hsound.goto hpending (fun _ => nofun) fun hagain => absurd hagain hrunning
    · rename_i hfull
      have hall : account.unfinished = worker.samples := by
        rw [hunfinished, not_not.mp hfull, ← hlength, List.take_length]
      exact hsound.goto hpending (fun _ => nofun) ⟨hlength, hall⟩

/-- A read goes behind what is filled, and leaves the length. -/
theorem Sound.fill (hsound : Sound monotonicOriginNs worker account)
    (hread : worker.point = .reading) {block : List Int16}
    (hwhole : block.length % audioChannels = 0)
    (hfit : block.length ≤ worker.samples.length - worker.framesRead * audioChannels) :
    Sound monotonicOriginNs (worker.fill block)
      { account with unfinished := account.unfinished ++ block } := by
  obtain ⟨hpending, hlength, hframes, hunfinished⟩ := hsound.reads (.inr hread)
  have hfilled : (worker.framesRead + block.length / audioChannels) * audioChannels =
      worker.framesRead * audioChannels + block.length := by
    rw [Nat.add_mul, Nat.div_mul_cancel (Nat.dvd_of_mod_eq_zero hwhole)]
  have hslice : worker.framesRead * audioChannels ≤ worker.samples.length := by
    rw [hlength]
    exact Nat.mul_le_mul_right _ hframes
  have htake : (worker.samples.take (worker.framesRead * audioChannels)).length =
      worker.framesRead * audioChannels := by
    rw [List.length_take, Nat.min_eq_left hslice]
  refine ⟨hsound.clock, hsound.flag, hsound.full, ?_, ?_, ?_, ?_⟩
  · have hchunks := hsound.chunks
    rw [hpending] at hchunks
    exact hchunks
  · simp only [AlsaWorker.fill, List.length_append, htake, List.length_drop]
    omega
  · have hroom : (worker.framesRead + block.length / audioChannels) * audioChannels ≤
        periodSampleFrames * audioChannels := by
      rw [hfilled, ← hlength]
      omega
    exact Nat.le_of_mul_le_mul_right hroom (by decide)
  · simp only [AlsaWorker.fill, hfilled, hunfinished]
    have hfront : (worker.samples.take (worker.framesRead * audioChannels) ++ block).length =
        worker.framesRead * audioChannels + block.length := by
      rw [List.length_append, htake]
    rw [← hfront, List.take_left]

/-- A period that is complete becomes the pending chunk. -/
theorem Sound.complete (hsound : Sound monotonicOriginNs worker account)
    (hquery : worker.point = .querying) (status : PcmStatus) :
    Sound monotonicOriginNs (worker.complete monotonicOriginNs status)
      (account.note (.queried (.ok status))) := by
  obtain ⟨hlength, hunfinished⟩ :
      worker.samples.length = periodSampleFrames * audioChannels ∧
        account.unfinished = worker.samples := by
    simpa only [AtPoint, hquery] using hsound.point
  have hchunks : worker.chunksSent = account.periods.mapIdx (AlsaPeriod.chunk monotonicOriginNs) := by
    rw [← hsound.chunks, chunkPending, hquery, List.append_nil]
  have hperiods : (account.note (.queried (.ok status))).periods =
      account.periods ++ [⟨account.unfinished, account.recovered, status⟩] := by
    simp only [AlsaAccount.note, AlsaAccount.periods, List.filterMap_append]
    rfl
  have hpush : worker.clock.pushPcm (worker.samples.flatMap leBytes16) = .ok
      (⟨worker.samples.flatMap leBytes16, worker.clock.nextSampleFrame,
        UInt32.ofNat periodSampleFrames⟩,
        ⟨worker.clock.nextSampleFrame + UInt64.ofNat periodSampleFrames⟩) := by
    have hbytes : (worker.samples.flatMap leBytes16).length =
        periodSampleFrames * audioBytesPerSampleFrame := by
      rw [length_flatMap_leBytes16, hlength]
      rfl
    simp only [AudioClock.pushPcm, hbytes, Nat.mul_mod_left, ne_eq, not_true_eq_false, if_false,
      Nat.mul_div_cancel _ (by decide : 0 < audioBytesPerSampleFrame),
      (by decide : periodSampleFrames < 2 ^ 32), if_true]
  rw [AlsaWorker.complete, hpush]
  refine ⟨?_, rfl, ?_, ?_, rfl⟩
  · rw [hperiods, List.length_append, List.length_singleton, Nat.mul_succ, UInt64.ofNat_add,
      hsound.clock]
  · intro period hperiod
    rw [hperiods, List.mem_append, List.mem_singleton] at hperiod
    obtain hperiod | rfl := hperiod
    · exact hsound.full period hperiod
    · exact hunfinished ▸ hlength
  · rw [hperiods, List.mapIdx_concat, ← hchunks, ← hunfinished]
    simp only [AlsaPeriod.chunk, chunkPending, hsound.clock, hsound.flag]
    rfl

/-- A recovery removes what is unfinished. -/
theorem Sound.recover (hsound : Sound monotonicOriginNs worker account)
    (hrecovering : worker.point = .recovering) :
    Sound monotonicOriginNs
      { worker with point := .readHead, sourceDiscontinuity := true, framesRead := 0 }
      (account.note (.recovered (.ok ()))) := by
  have hperiods : (account.note (.recovered (.ok ()))).periods = account.periods := by
    simp only [AlsaAccount.note, AlsaAccount.periods, List.filterMap_append]
    exact List.append_nil _
  have hpoint := hsound.point
  have hchunks := hsound.chunks
  simp only [AtPoint, hrecovering] at hpoint
  simp only [chunkPending, hrecovering] at hchunks
  refine ⟨?_, rfl, ?_, ?_, hpoint.1, Nat.zero_le _, ?_⟩
  · rw [hperiods]
    exact hsound.clock
  · rw [hperiods]
    exact hsound.full
  · rw [hperiods]
    exact hchunks
  · rw [Nat.zero_mul]
    rfl

/-- The send of a period ends; the chunk is no longer pending. -/
theorem Sound.sentChunk (hsound : Sound monotonicOriginNs worker account)
    {chunk : TimedAudioChunk} (hsending : worker.point = .sendingChunk chunk)
    (delivered : Bool) :
    Sound monotonicOriginNs
      { worker with
        point := if delivered then .loopHead else .returned
        sent := worker.sent ++ [.chunk chunk] } account := by
  have hunfinished : account.unfinished = [] := by
    simpa only [AtPoint, hsending] using hsound.point
  refine hsound.moved rfl rfl ?_ ?_
  · have hpending : worker.chunkPending = [chunk] := by rw [chunkPending, hsending]
    rw [hpending, chunksSent, List.filterMap_append]
    cases delivered <;> exact List.append_nil _
  · cases delivered
    · trivial
    · exact fun _ => hunfinished

/-- The send of the last event ends. -/
theorem Sound.sentLast (hsound : Sound monotonicOriginNs worker account)
    {event : AudioCaptureEvent} (hsending : worker.point = .sendingLast event) :
    Sound monotonicOriginNs
      { worker with point := .returned, sent := worker.sent ++ [event] } account := by
  have hevent : event.chunk? = none := by simpa only [AtPoint, hsending] using hsound.point
  refine hsound.moved rfl rfl ?_ trivial
  rw [chunkPending_eq_nil hsending fun _ => nofun, chunksSent, List.filterMap_append]
  simp only [List.filterMap_cons, hevent, List.filterMap_nil, chunksSent, List.append_nil,
    chunkPending]

/-- **What one answer does.** The account follows the thread. -/
theorem Sound.step {action : AlsaAction} (hsound : Sound monotonicOriginNs worker account)
    (hstep : worker.step monotonicOriginNs action = some next) :
    Sound monotonicOriginNs next (account.note action) := by
  have hpoint := hsound.point
  revert hstep
  fun_cases AlsaWorker.step monotonicOriginNs worker action <;> rintro ⟨⟩
  case case1 => exact hsound.stop
  -- the errors that end the capture
  case case2 hat | case5 hat | case12 hat | case14 hat | case16 hat =>
    exact hsound.fail _ (chunkPending_eq_nil hat fun _ => nofun)
  case case3 hat =>
    simp only [AtPoint, hat] at hpoint
    exact hsound.goto (chunkPending_eq_nil hat fun _ => nofun) (fun _ => nofun) fun _ => hpoint
  case case4 hat =>
    simp only [AtPoint, hat] at hpoint
    cases hrunning : worker.running
    · exact hsound.goto (chunkPending_eq_nil hat fun _ => nofun) (fun _ => nofun) rfl
    · exact hsound.goto (chunkPending_eq_nil hat fun _ => nofun) (fun _ => nofun)
        (hpoint hrunning)
  case case6 hat =>
    simp only [AtPoint, hat] at hpoint
    exact hsound.goto (chunkPending_eq_nil hat fun _ => nofun) (fun _ => nofun) fun _ => hpoint
  case case7 hat =>
    simp only [AtPoint, hat] at hpoint
    refine hsound.moved rfl rfl ?_ ⟨List.length_replicate .., Nat.zero_le _, ?_⟩
    · rw [chunkPending_eq_nil hat fun _ => nofun]
      rfl
    · rw [Nat.zero_mul]
      exact hpoint
  case case8 hat => exact hsound.readTurn hat
  case case9 block hat hfit => exact hsound.fill hat hfit.1 hfit.2
  case case11 error hat =>
    simp only [AtPoint, hat] at hpoint
    split
    · exact hsound.goto (chunkPending_eq_nil hat fun _ => nofun) (fun _ => nofun) hpoint
    · exact hsound.goto (chunkPending_eq_nil hat fun _ => nofun) (fun _ => nofun) hpoint
  case case13 hat =>
    simp only [AtPoint, hat] at hpoint
    exact hsound.goto (chunkPending_eq_nil hat fun _ => nofun) (fun _ => nofun) hpoint
  case case15 hat => exact hsound.recover hat
  case case17 hat => exact hsound.complete hat _
  case case18 hat => exact hsound.sentChunk hat _
  case case19 hat => exact hsound.sentLast hat

end Step

theorem whole_of_step {monotonicOriginNs : UInt64} {worker next : AlsaWorker}
    {block : List Int16} (hstep : worker.step monotonicOriginNs (.read (.ok block)) = some next) :
    block.length % audioChannels = 0 := by
  cases hat : worker.point <;> simp only [step, hat, reduceCtorEq] at hstep
  split at hstep
  · rename_i hfit
    exact hfit.1
  · cases hstep

theorem querying_of_step {monotonicOriginNs : UInt64} {worker next : AlsaWorker}
    {status : PcmStatus} (hstep : worker.step monotonicOriginNs (.queried (.ok status)) = some next) :
    worker.point = .querying := by
  cases hat : worker.point <;> simp only [step, hat, reduceCtorEq] at hstep
  rfl

/-! ## The end of the capture -/

theorem complete_sent (monotonicOriginNs : UInt64) (worker : AlsaWorker) (status : PcmStatus) :
    (worker.complete monotonicOriginNs status).sent = worker.sent ∧
      (worker.complete monotonicOriginNs status).point ≠ .returned := by
  unfold complete
  split
  · exact ⟨rfl, nofun⟩
  · exact ⟨rfl, nofun⟩

theorem readTurn_sent (worker : AlsaWorker) :
    worker.readTurn.sent = worker.sent ∧ worker.readTurn.point ≠ .returned := by
  unfold readTurn
  repeat' split
  all_goals exact ⟨rfl, nofun⟩

/-- Only the answer of a `send` makes an event be sent, and only it returns. -/
theorem step_sent {monotonicOriginNs : UInt64} {worker next : AlsaWorker} {action : AlsaAction}
    (hstep : worker.step monotonicOriginNs action = some next) :
    (next.sent = worker.sent ∧ (next.point = .returned ↔ worker.point = .returned)) ∨
    (∃ chunk delivered, worker.point = .sendingChunk chunk ∧ action = .sent delivered ∧
      next.sent = worker.sent ++ [.chunk chunk] ∧
      next.point = if delivered then .loopHead else .returned) ∨
    (∃ event delivered, worker.point = .sendingLast event ∧ action = .sent delivered ∧
      next.sent = worker.sent ++ [event] ∧ next.point = .returned) := by
  revert hstep
  fun_cases AlsaWorker.step monotonicOriginNs worker action <;> rintro ⟨⟩
  case case1 => exact .inl ⟨rfl, Iff.rfl⟩
  case case4 hat =>
    refine .inl ⟨rfl, iff_of_false ?_ (hat ▸ nofun)⟩
    cases worker.running <;> nofun
  case case8 hat =>
    exact .inl ⟨worker.readTurn_sent.1, iff_of_false worker.readTurn_sent.2 (hat ▸ nofun)⟩
  case case9 hat _ => exact .inl ⟨rfl, iff_of_false nofun (hat ▸ nofun)⟩
  case case11 error hat =>
    refine .inl ⟨rfl, iff_of_false ?_ (hat ▸ nofun)⟩
    by_cases hagain : error.errno = eagain
    · rw [if_pos hagain]
      nofun
    · rw [if_neg hagain]
      nofun
  case case17 status hat =>
    obtain ⟨hsent, hnot⟩ := worker.complete_sent monotonicOriginNs status
    exact .inl ⟨hsent, iff_of_false hnot (hat ▸ nofun)⟩
  case case18 chunk delivered hat => exact .inr (.inl ⟨chunk, delivered, hat, rfl, rfl, rfl⟩)
  case case19 event delivered hat => exact .inr (.inr ⟨event, delivered, hat, rfl, rfl, rfl⟩)
  all_goals
    rename_i hat
    exact .inl ⟨rfl, iff_of_false nofun (hat ▸ nofun)⟩

/-- What was sent: the chunks, and at the end one event that is none, unless
the receiver was dropped. -/
structure Ends (actions : List AlsaAction) (worker : AlsaWorker) : Prop where
  /-- before the end -/
  before : worker.point ≠ .returned → worker.sent = worker.chunksSent.map .chunk
  /-- at the end -/
  atEnd : worker.point = .returned →
    (∃ terminal : AudioCaptureEvent, terminal.chunk? = none ∧
      worker.sent = worker.chunksSent.map .chunk ++ [terminal]) ∨
    (.sent false ∈ actions ∧ worker.sent = worker.chunksSent.map .chunk)

theorem Ends.step {monotonicOriginNs : UInt64} {actions : List AlsaAction}
    {worker next : AlsaWorker} {account : AlsaAccount} {action : AlsaAction}
    (hends : Ends actions worker) (hsound : Sound monotonicOriginNs worker account)
    (hstep : worker.step monotonicOriginNs action = some next) :
    Ends (actions ++ [action]) next := by
  obtain ⟨hsent, hiff⟩ | ⟨chunk, delivered, hat, rfl, hsent, hpoint⟩ |
    ⟨event, delivered, hat, rfl, hsent, hpoint⟩ := step_sent hstep
  · have hchunks : next.chunksSent = worker.chunksSent := by rw [chunksSent, hsent, chunksSent]
    constructor
    · intro hnot
      rw [hsent, hchunks, hends.before (mt hiff.mpr hnot)]
    · intro hreturned
      rw [hsent, hchunks]
      exact (hends.atEnd (hiff.mp hreturned)).imp_right
        (And.imp_left (List.mem_append_left _))
  · have hchunks : next.sent = next.chunksSent.map .chunk := by
      rw [chunksSent, hsent, List.filterMap_append, List.map_append, ← chunksSent,
        ← hends.before (hat ▸ nofun)]
      rfl
    refine ⟨fun _ => hchunks, fun hreturned => .inr ⟨?_, hchunks⟩⟩
    -- after a delivered chunk the loop goes on
    cases delivered
    · exact List.mem_append_right _ (List.mem_singleton_self _)
    · rw [hpoint] at hreturned
      cases hreturned
  · have hevent : event.chunk? = none := by simpa only [AtPoint, hat] using hsound.point
    refine ⟨fun hnot => absurd hpoint hnot, fun _ => .inl ⟨event, hevent, ?_⟩⟩
    have hchunks : next.chunksSent = worker.chunksSent := by
      rw [chunksSent, hsent, List.filterMap_append]
      simp only [List.filterMap_cons, hevent, List.filterMap_nil, List.append_nil, chunksSent]
    rw [hsent, hchunks, hends.before (hat ▸ nofun)]

theorem ends_of_run {monotonicOriginNs : UInt64} {actions : List AlsaAction}
    {worker : AlsaWorker} (hrun : run monotonicOriginNs actions = some worker) :
    Sound monotonicOriginNs worker (.after actions) ∧ Ends actions worker := by
  refine run_induction (P := fun actions worker =>
    Sound monotonicOriginNs worker (.after actions) ∧ Ends actions worker) ?_ ?_ hrun
  · exact ⟨sound_start monotonicOriginNs, ⟨fun _ => rfl, nofun⟩⟩
  · rintro actions action worker next ⟨hsound, hends⟩ hstep
    rw [AlsaAccount.after_concat]
    exact ⟨hsound.step hstep, hends.step hsound hstep⟩

/-- How many answers a thread that was asked to stop can still take. -/
def answersLeft (worker : AlsaWorker) : ℕ :=
  match worker.point with
  | .returned | .panicked => 0
  | .sendingLast _ => 1
  | .loopHead => 2
  | .opening | .sendingChunk _ => 3
  | .querying => 4
  | .readHead => 5
  | .waiting | .retrying | .recovering => 6
  | .reading => 7

theorem answersLeft_le (worker : AlsaWorker) : worker.answersLeft ≤ 7 := by
  unfold answersLeft
  cases worker.point <;> simp only <;> decide

/-- Once the flag is cleared, every answer brings the thread nearer to its end. -/
theorem answersLeft_step {monotonicOriginNs : UInt64} {worker next : AlsaWorker}
    {action : AlsaAction} (hstopped : worker.running = false)
    (hstep : worker.step monotonicOriginNs action = some next) :
    next.running = false ∧
      next.answersLeft + (if action = .stop then 0 else 1) ≤ worker.answersLeft := by
  revert hstep
  fun_cases AlsaWorker.step monotonicOriginNs worker action <;> rintro ⟨⟩
  case case1 => exact ⟨rfl, Nat.le_refl _⟩
  case case8 hat =>
    unfold readTurn
    rw [hstopped]
    simp only [Bool.false_eq_true, and_false, if_false]
    split <;> exact ⟨hstopped, by simp [answersLeft, goto, hat]⟩
  case case9 hat _ => exact ⟨hstopped, by simp [answersLeft, fill, hat]⟩
  case case11 hat =>
    refine ⟨hstopped, ?_⟩
    split <;> simp [answersLeft, goto, hat]
  case case17 hat =>
    unfold complete
    split <;> exact ⟨hstopped, by simp [answersLeft, goto, hat]⟩
  case case18 delivered hat =>
    refine ⟨hstopped, ?_⟩
    cases delivered <;> simp [answersLeft, hat]
  case case4 hat =>
    refine ⟨hstopped, ?_⟩
    rw [hstopped]
    simp [answersLeft, goto, hat]
  all_goals
    rename_i hat
    refine ⟨hstopped, ?_⟩
    simp [answersLeft, goto, fail, hat]

/-- A thread that was asked to stop takes at most seven more answers. -/
theorem stopped_answers {monotonicOriginNs : UInt64} {more : List AlsaAction}
    {worker later : AlsaWorker} (hstopped : worker.running = false)
    (hmore : more.foldlM (step monotonicOriginNs) worker = some later) :
    (more.filter (· ≠ .stop)).length + later.answersLeft ≤ worker.answersLeft := by
  induction more generalizing worker with
  | nil =>
    obtain rfl := Option.some.inj hmore
    exact Nat.le_of_eq (Nat.zero_add _)
  | cons action more ih =>
    rw [List.foldlM_cons] at hmore
    obtain ⟨next, hnext, hmore⟩ := Option.bind_eq_some_iff.mp hmore
    obtain ⟨hstill, hless⟩ := answersLeft_step hstopped hnext
    have hrest := ih hstill hmore
    by_cases hstop : action = .stop
    · rw [if_pos hstop] at hless
      rw [List.filter_cons_of_neg (by simpa using hstop)]
      omega
    · rw [if_neg hstop] at hless
      rw [List.filter_cons_of_pos (by simpa using hstop), List.length_cons]
      omega

/-- A thread that is in a call can get its answer. -/
theorem exists_answer (monotonicOriginNs : UInt64) (worker : AlsaWorker)
    (hreturned : worker.point ≠ .returned) (hpanicked : worker.point ≠ .panicked) :
    ∃ action, action ≠ .stop ∧ (worker.step monotonicOriginNs action).isSome := by
  cases hat : worker.point with
  | opening => exact ⟨.opened (.ok ()), nofun, by simp only [step, hat, Option.isSome_some]⟩
  | loopHead => exact ⟨.turn, nofun, by simp only [step, hat, Option.isSome_some]⟩
  | waiting => exact ⟨.waited (.ok false), nofun, by simp only [step, hat, Option.isSome_some]⟩
  | readHead => exact ⟨.turn, nofun, by simp only [step, hat, Option.isSome_some]⟩
  | reading => exact ⟨.read (.error ⟨eagain, ""⟩), nofun, by simp only [step, hat, Option.isSome_some]⟩
  | retrying => exact ⟨.waited (.ok false), nofun, by simp only [step, hat, Option.isSome_some]⟩
  | recovering => exact ⟨.recovered (.ok ()), nofun, by simp only [step, hat, Option.isSome_some]⟩
  | querying => exact ⟨.queried (.ok ⟨0, 0, 0⟩), nofun, by simp only [step, hat, Option.isSome_some]⟩
  | sendingChunk chunk => exact ⟨.sent true, nofun, by simp only [step, hat, Option.isSome_some]⟩
  | sendingLast event => exact ⟨.sent true, nofun, by simp only [step, hat, Option.isSome_some]⟩
  | returned => exact absurd hat hreturned
  | panicked => exact absurd hat hpanicked

/-- **The direct capture loop.** Whatever the device answers and whenever the
stop request comes: every sample that was read is in a period or unfinished,
each period is one chunk at its counted position, marked after a recovery, and
the last event, and only it, says how the capture ended. A thread that was
asked to stop gets there. -/
theorem run_delivers (monotonicOriginNs : UInt64) (actions : List AlsaAction)
    (worker : AlsaWorker) (hrun : run monotonicOriginNs actions = some worker) :
    (AlsaAccount.after actions).samples = actions.flatMap AlsaAction.samplesRead ∧
    worker.chunksSent ++ worker.chunkPending =
      (AlsaAccount.after actions).periods.mapIdx (AlsaPeriod.chunk monotonicOriginNs) ∧
    (∀ period ∈ (AlsaAccount.after actions).periods,
      period.samples.length = periodSampleFrames * audioChannels) ∧
    worker.point ≠ .panicked ∧
    (worker.point ≠ .returned → worker.sent = worker.chunksSent.map .chunk) ∧
    (worker.point = .returned → .sent false ∉ actions →
      ∃ terminal, (terminal = .closed ∨ ∃ error, terminal = .failed error) ∧
        worker.sent = worker.chunksSent.map .chunk ++ [terminal]) ∧
    (worker.point ≠ .returned →
      ∃ action, action ≠ .stop ∧ (worker.step monotonicOriginNs action).isSome) ∧
    (worker.running = false → ∀ more later,
      run monotonicOriginNs (actions ++ more) = some later →
        (more.filter (· ≠ .stop)).length ≤ 7) := by
  obtain ⟨hsound, hends⟩ := ends_of_run hrun
  have hpanicked := hsound.not_panicked
  refine ⟨AlsaAccount.after_samples actions, hsound.chunks, hsound.full, hpanicked, hends.before,
    ?_, fun hreturned => exists_answer monotonicOriginNs worker hreturned hpanicked, ?_⟩
  · intro hreturned hreceiver
    obtain ⟨terminal, hterminal, hsent⟩ | ⟨hdropped, -⟩ := hends.atEnd hreturned
    · refine ⟨terminal, ?_, hsent⟩
      cases terminal with
      | chunk chunk => cases hterminal
      | failed error => exact .inr ⟨error, rfl⟩
      | closed => exact .inl rfl
    · exact absurd hdropped hreceiver
  · intro hstopped more later hlater
    have hmore : more.foldlM (step monotonicOriginNs) worker = some later := by
      rw [run, List.foldlM_append] at hlater
      rw [run] at hrun
      rwa [hrun] at hlater
    have := stopped_answers hstopped hmore
    have := worker.answersLeft_le
    omega

/-- A frame is read, an overrun removes it, a period is read and sent, and the
stop request comes. -/
def recoveredRun : List AlsaAction :=
  [.opened (.ok ()), .turn, .waited (.ok true),
    .turn, .read (.ok [7, 8]),
    .turn, .read (.error ⟨32, "Broken pipe"⟩), .recovered (.ok ()),
    .turn, .read (.ok (List.replicate 1280 1)),
    .turn, .queried (.ok ⟨5, 0, 16⟩), .sent true,
    .turn, .stop, .waited (.ok false), .turn, .sent true]

theorem run_delivers_recoveredRun : ∃ worker, run 0 recoveredRun = some worker ∧
    worker.chunksSent.map TimedAudioChunk.sourceDiscontinuity = [true] ∧
    ∃ terminal, (terminal = .closed ∨ ∃ error, terminal = .failed error) ∧
      worker.sent = worker.chunksSent.map .chunk ++ [terminal] := by
  have hsome : (run 0 recoveredRun).isSome := by decide +kernel
  obtain ⟨worker, hrun⟩ := Option.isSome_iff_exists.mp hsome
  have hend : (run 0 recoveredRun).map (fun worker =>
      (worker.point, worker.chunksSent.map TimedAudioChunk.sourceDiscontinuity)) =
      some (.returned, [true]) := by decide +kernel
  rw [hrun] at hend
  obtain ⟨hreturned, hflags⟩ := Prod.mk.inj (Option.some.inj hend)
  obtain ⟨-, -, -, -, -, hterminal, -⟩ := run_delivers 0 recoveredRun worker hrun
  exact ⟨worker, hrun, hflags, hterminal hreturned (by decide +kernel)⟩

end AlsaWorker

end Handycam
