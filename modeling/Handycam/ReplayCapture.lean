import Handycam.Replay

/-!
# The replay of a recording

`run_replay_capture` goes through the metadata of a recording line by line, puts
the packets through a frame assembler, and sends every frame to the output
worker. Other than `run_stream` it waits until the queue has room, so that
nothing is dropped: `recordedFrames` says what a recording amounts to, and that
is what the worker gets, and the standard output with it.
-/

namespace Handycam

/-- A line of the metadata. -/
inductive MetadataLine where
  /-- it cannot be read -/
  | unreadable
  /-- it is no JSON -/
  | unparsable (message : String)
  /-- a row -/
  | row (row : MetadataRow)

/-- The packet that a line leads to, if any. -/
def replayLine (recording : Recording) (line : ℕ) :
    MetadataLine → Except ReplayFailure (Option EndpointPacket)
  | .unreadable => .error .read
  | .unparsable message => .error (.capture (.metadata line message))
  | .row row => (replayRow recording line row).mapError .capture

/-- What the loop is doing with a line. -/
inductive CaptureDoing where
  /-- reading the next line -/
  | reading
  /-- sending a frame -/
  | sending (frame : CompressedFrame)
  /-- waiting for the time of the next frame -/
  | pausing

/-- The variables of the loop. -/
structure CaptureReplay where
  /-- the assembler -/
  decoder : StreamDecoder
  /-- the number of the next line -/
  line : ℕ
  /-- the lines that are left -/
  lines : List MetadataLine
  /-- when the next frame is due -/
  deadline : Instant
  /-- what the loop is doing -/
  doing : CaptureDoing

/-- The time between two frames, in nanoseconds. -/
def frameInterval : ℕ := 1000000 / fps * 1000

/-- A turn of the loop in `run_replay_capture`; none if the queue is full, or
the thread sleeps. -/
def captureTurn {W : Type} (recording : Recording) (realtime : Bool) (now : Instant)
    (inner : CaptureReplay) (worker : OutputWorker W) :
    Option (LoopTurn × CaptureReplay × OutputWorker W) :=
  match inner.doing with
  | .reading =>
    match inner.lines with
    | [] => some (.leaves none, inner, worker)
    | line :: lines =>
      match replayLine recording inner.line line with
      | .error error => some (.fails error, inner, worker)
      | .ok none => some (.stays, { inner with line := inner.line + 1, lines := lines }, worker)
      | .ok (some packet) =>
        let (decoder, frame) := feedPacket inner.decoder packet
        some (.stays,
          { inner with
            decoder := decoder
            line := inner.line + 1
            lines := lines
            doing := frame.elim .reading .sending }, worker)
  | .sending frame =>
    -- `send` waits for room, and fails once there is no receiver
    if !worker.inbox.receiverAlive then some (.leaves none, inner, worker)
    else if worker.inbox.hasRoom then
      some (.stays,
        if realtime then
          { inner with deadline := inner.deadline + frameInterval, doing := .pausing }
        else { inner with doing := .reading },
        sendFrame worker (some frame))
    else none
  | .pausing =>
    if inner.deadline ≤ now then some (.stays, { inner with doing := .reading }, worker) else none

/-- `run_replay_capture`: it does not handle signals, and the first failure that
the worker reported is its result. -/
def captureLoop {W : Type} (recording : Recording) (lines : List MetadataLine) (realtime : Bool) :
    ReplayLoop CaptureReplay W where
  handlesSignals := false
  begins now := ⟨.new, 1, lines, now, .reading⟩
  turn _ now inner worker := captureTurn recording realtime now inner worker
  drainsOn := false

/-! ## What a recording amounts to -/

/-- The frames of the lines from `line` on, and what keeps the lines after them
from being read. -/
def recordedFrames (recording : Recording) :
    StreamDecoder → ℕ → List MetadataLine → List CompressedFrame × Option ReplayFailure
  | _, _, [] => ([], none)
  | decoder, line, first :: lines =>
    match replayLine recording line first with
    | .error error => ([], some error)
    | .ok none => recordedFrames recording decoder (line + 1) lines
    | .ok (some packet) =>
      let (frames, failure) :=
        recordedFrames recording (feedPacket decoder packet).1 (line + 1) lines
      ((feedPacket decoder packet).2.toList ++ frames, failure)

/-- Where every line is a row, these are the frames of `replayRows`. -/
theorem recordedFrames_rows (recording : Recording) (decoder : StreamDecoder) (line : ℕ)
    (rows : List MetadataRow) :
    match replayRows recording decoder line rows with
    | .ok frames =>
      recordedFrames recording decoder line (rows.map MetadataLine.row) = (frames, none)
    | .error error =>
      (recordedFrames recording decoder line (rows.map MetadataLine.row)).2 =
        some (.capture error) := by
  induction rows generalizing decoder line with
  | nil => rfl
  | cons row rows ih =>
    rw [replayRows, List.map_cons, recordedFrames, replayLine]
    rcases replayRow recording line row with error | _ | packet
    · rfl
    · exact ih decoder (line + 1)
    · have hrest := ih (feedPacket decoder packet).1 (line + 1)
      simp only [bind, Except.bind, pure, Except.pure, Except.mapError]
      rcases hrows : replayRows recording (feedPacket decoder packet).1 (line + 1) rows with
          error | frames <;> simp only [hrows] at hrest ⊢
      · exact hrest
      · rw [hrest]

/-! ## What the worker gets -/

/-- A frame that waits to be sent. -/
def CaptureDoing.pending : CaptureDoing → List CompressedFrame
  | .sending frame => [frame]
  | _ => []

/-- The frames in the queue so far, and those to come, are those of the lines. -/
def CaptureReplay.Ahead (recording : Recording) (lines : List MetadataLine) (inner : CaptureReplay)
    (queued : List CompressedFrame) : Prop :=
  recordedFrames recording .new 1 lines =
    (queued ++ inner.doing.pending ++
        (recordedFrames recording inner.decoder inner.line inner.lines).1,
      (recordedFrames recording inner.decoder inner.line inner.lines).2)

section Loop

variable {W : Type} {output : Output W} {world : W} {recording : Recording}
  {lines : List MetadataLine} {realtime : Bool}

/-- The loop goes through the lines. -/
theorem captureLoop_rule (output : Output W) (world : W) (recording : Recording)
    (lines : List MetadataLine) (realtime : Bool) :
    (captureLoop recording lines realtime).Rule output world
      (fun inner queued => inner.Ahead recording lines queued)
      (fun _ _ queued => recordedFrames recording .new 1 lines = (queued, none))
      (fun error _ queued => recordedFrames recording .new 1 lines = (queued, some error)) where
  begins _ := rfl
  late := id
  turns := by
    intro stopping now inner worker turned inner' worker' hvalid hsender hreceived hahead hturn
    change captureTurn recording realtime now inner worker = _ at hturn
    rw [CaptureReplay.Ahead] at hahead
    -- the worker has sent one report, and that was no failure
    have htracks : Tracks none worker := by
      intro error hmem
      rw [hreceived] at hmem
      simp at hmem
    rw [captureTurn] at hturn
    split at hturn
    · rename_i hdoing
      rw [hdoing] at hahead
      split at hturn
      · rename_i hlines
        obtain ⟨rfl, rfl, rfl⟩ : LoopTurn.leaves none = turned ∧ inner = inner' ∧ worker = worker' := by
          simpa using hturn
        refine ⟨.refl, hsender, ?_, htracks, .inr ?_⟩
        · rw [CaptureReplay.Ahead, hdoing]
          exact hahead
        · rw [hlines] at hahead
          simpa [CaptureDoing.pending, recordedFrames] using hahead
      · rename_i line rest hlines
        have hhere := hahead
        rw [hlines, recordedFrames] at hahead
        split at hturn <;> rename_i hline <;> simp only [hline] at hahead
        · rename_i error
          obtain ⟨rfl, rfl, rfl⟩ :
              LoopTurn.fails error = turned ∧ inner = inner' ∧ worker = worker' := by
            simpa using hturn
          refine ⟨.refl, hsender, ?_, ?_, ?_⟩
          · rw [CaptureReplay.Ahead, hdoing]
            exact hhere
          · rintro other rfl
            cases line with
            | unreadable => cases hline
            | unparsable message => cases hline
            | row row =>
              rw [replayLine] at hline
              rcases hrow : replayRow recording inner.line row with error | packet <;>
                rw [hrow] at hline <;> cases hline
          · simpa [CaptureDoing.pending] using hahead
        · obtain ⟨rfl, rfl, rfl⟩ := hturn
          refine ⟨.refl, hsender, ?_, hreceived⟩
          rw [CaptureReplay.Ahead, hdoing]
          exact hahead
        · rename_i packet
          rcases hfeed : feedPacket inner.decoder packet with ⟨decoder, _ | frame⟩ <;>
            simp only [hfeed] at hturn hahead <;> obtain ⟨rfl, rfl, rfl⟩ := hturn
          · exact ⟨.refl, hsender, hahead, hreceived⟩
          · refine ⟨.refl, hsender, ?_, hreceived⟩
            rw [CaptureReplay.Ahead]
            simpa [CaptureDoing.pending] using hahead
    · rename_i frame hdoing
      rw [hdoing] at hahead
      split at hturn
      · rename_i hgone
        obtain ⟨rfl, rfl, rfl⟩ : LoopTurn.leaves none = turned ∧ inner = inner' ∧ worker = worker' := by
          simpa using hturn
        have hreceiver : worker.inbox.receiverAlive = false := by simpa using hgone
        refine ⟨.refl, hsender, ?_, htracks, .inl (hvalid.failed hreceiver hsender)⟩
        rw [CaptureReplay.Ahead, hdoing]
        exact hahead
      · rename_i hreceiver
        split at hturn
        · rename_i hroom
          have htaken : trySend worker = .taken := by
            rw [trySend, if_pos (by simpa using hreceiver), if_pos hroom]
          obtain ⟨rfl, rfl, rfl⟩ := hturn
          refine ⟨sendFrame_clientSteps worker _, by rw [sendFrame_senderAlive, hsender], ?_,
            hreceived⟩
          rw [sendFrame_accepted hsender, if_pos htaken]
          rw [CaptureReplay.Ahead]
          cases realtime <;> simpa [CaptureDoing.pending] using hahead
        · cases hturn
    · rename_i hdoing
      rw [hdoing] at hahead
      split at hturn
      · obtain ⟨rfl, rfl, rfl⟩ := hturn
        exact ⟨.refl, hsender, hahead, hreceived⟩
      · cases hturn

/-- A worker whose queue is full can take a step. -/
theorem step_of_full {worker : OutputWorker W}
    (hlistens : worker.inbox.receiverAlive = Worker.listens worker.point)
    (hcapacity : worker.inbox.capacity = some 1) (hreceiver : worker.inbox.receiverAlive = true)
    (hfull : worker.inbox.hasRoom = false) : (worker.step output.service).isSome = true := by
  rcases hstep : worker.step output.service with _ | next
  · obtain ⟨-, hbuffer, -⟩ | ⟨result, hexited⟩ := Worker.step_eq_none.mp hstep
    · rw [Channel.hasRoom, hcapacity, hbuffer] at hfull
      cases hfull
    · rw [hexited, hreceiver] at hlistens
      cases hlistens
  · rfl

/-- How many turns the loop has left. -/
def CaptureReplay.turnsLeft (inner : CaptureReplay) : ℕ :=
  5 * inner.lines.length +
    match inner.doing with
    | .reading => 0
    | .sending _ => 4
    | .pausing => 1

/-- When the loop wakes. -/
def CaptureReplay.wakes (inner : CaptureReplay) : Instant :=
  match inner.doing with
  | .pausing => inner.deadline
  | _ => 0

/-- The loop ends. -/
theorem captureLoop_ends (output : Output W) (recording : Recording) (lines : List MetadataLine)
    (realtime : Bool) (P : CaptureReplay → List CompressedFrame → Prop) :
    (captureLoop recording lines realtime).Ends output P true
      CaptureReplay.wakes (fun _ => CaptureReplay.turnsLeft) (5 * lines.length) where
  begins _ _ := Nat.le_refl _
  signal _ := Nat.le_refl _
  -- it waits for room in the queue, or for the time of the next frame
  waits := by
    intro stopping now inner worker hlistens hsender hcapacity hturn
    change captureTurn recording realtime now inner worker = none at hturn
    rw [captureTurn] at hturn
    split at hturn
    · split at hturn
      · cases hturn
      · split at hturn <;> cases hturn
    · split at hturn
      · cases hturn
      · rename_i hreceiver
        split at hturn
        · cases hturn
        · rename_i hfull
          exact .inl (step_of_full hlistens hcapacity (by simpa using hreceiver)
            (Bool.eq_false_of_not_eq_true hfull))
    · rename_i hdoing
      split at hturn
      · cases hturn
      · rename_i hlate
        rw [CaptureReplay.wakes, hdoing]
        exact .inr (Nat.lt_of_not_le hlate)
  -- a line is five steps at most: it is read, sent, paused after, and handled in two by the worker
  shrinks := by
    intro stopping now inner worker turned inner' worker' _ _ hturn
    change captureTurn recording realtime now inner worker = _ at hturn
    rw [captureTurn] at hturn
    split at hturn <;> rename_i hdoing
    · split at hturn
      · obtain ⟨rfl, rfl, rfl⟩ := hturn
        simp
      · rename_i line rest hlines
        split at hturn
        · obtain ⟨rfl, rfl, rfl⟩ := hturn
          simp
        · obtain ⟨rfl, rfl, rfl⟩ := hturn
          simp only [CaptureReplay.turnsLeft, hdoing, hlines, List.length_cons]
          omega
        · rename_i packet hline
          rcases hfeed : feedPacket inner.decoder packet with ⟨decoder, _ | frame⟩ <;>
            simp only [hfeed] at hturn <;> obtain ⟨rfl, rfl, rfl⟩ := hturn <;>
            simp only [CaptureReplay.turnsLeft, hdoing, hlines, List.length_cons, Option.elim] <;>
            omega
    · split at hturn
      · obtain ⟨rfl, rfl, rfl⟩ := hturn
        simp
      · split at hturn
        · obtain ⟨rfl, rfl, rfl⟩ := hturn
          have hsend := stepsLeft_sendFrame worker (some ‹_›)
          cases realtime <;>
            simp only [CaptureReplay.turnsLeft, hdoing, if_true, Bool.false_eq_true, if_false] <;>
            omega
        · cases hturn
    · split at hturn
      · obtain ⟨rfl, rfl, rfl⟩ := hturn
        simp only [CaptureReplay.turnsLeft, hdoing]
        omega
      · cases hturn

variable {now : Instant} {actions : List (Threads.Action ReplayInput)}

/-- **What the replay of a recording returns.** For any recording, whatever the
output does and however the threads interleave: the queue takes the recorded
frames in order. Without an error, the output has handled all of them, or its
pipe was closed; with the error of the output, the output failed with it on what
it received; with one of the recording, this is what the lines end with, and the
queue has taken all frames before it. -/
theorem runReplayCapture_returned {next : ReplayThreads CaptureReplay W}
    {result : Except ReplayFailure Unit}
    (hrun : runLoop output (captureLoop recording lines realtime)
      (startLoop (captureLoop recording lines realtime) world now) actions = some next)
    (hreturned : next.client.point = .returned result) :
    next.worker.inbox.accepted <+: (recordedFrames recording .new 1 lines).1 ∧
      ReplayMeaning output world
        (fun _ _ queued => recordedFrames recording .new 1 lines = (queued, none))
        (fun error _ queued => recordedFrames recording .new 1 lines = (queued, some error))
        next result := by
  have rule := captureLoop_rule output world recording lines realtime
  refine ⟨?_, runLoop_returned rule hrun hreturned⟩
  have hqueue : next.client.loop.Ahead recording lines next.worker.inbox.accepted :=
    (held_run rule hrun).queue
  rw [CaptureReplay.Ahead] at hqueue
  rw [hqueue, List.append_assoc]
  exact List.prefix_append _ _

/-- **The replay of a recording ends.** Until it has returned one of its threads
can take a step, at the latest when the next frame is due; and both together
take at most five steps for a line, and twelve more. -/
theorem runReplayCapture_ends {next : ReplayThreads CaptureReplay W}
    (hrun : runLoop output (captureLoop recording lines realtime)
      (startLoop (captureLoop recording lines realtime) world now) actions = some next) :
    ((∀ result, next.client.point ≠ .returned result) →
        (next.worker.step output.service).isSome = true ∨
          ∀ later, next.client.clock ≤ later → next.client.loop.wakes ≤ later →
            (replayStep (captureLoop recording lines realtime) next.client next.worker
              (.turn later)).isSome = true) ∧
      (actions.countP fun action => !isReplaySignal action) ≤ 5 * lines.length + 12 := by
  have rule := captureLoop_rule output world recording lines realtime
  have ends := captureLoop_ends output recording lines realtime
    (fun inner queued => inner.Ahead recording lines queued)
  refine ⟨runLoop_progress rule ends hrun, ?_⟩
  have hstart : runLoop output (captureLoop recording lines realtime)
      (startLoop (captureLoop recording lines realtime) world now) [] =
        some (startLoop (captureLoop recording lines realtime) world now) := rfl
  have hbound := runLoop_bounded rule ends hstart (.inl rfl) hrun
  have hleft : (startLoop (W := W) (captureLoop recording lines realtime) world now).stepsLeft
      (fun _ => CaptureReplay.turnsLeft) (5 * lines.length) = 5 * lines.length + 12 := rfl
  omega

end Loop

/-- On a standard output that takes all that is written, a replay fails only by
itself; if it does not, it has written what the queue took. -/
theorem runLoop_stdout {L : Type} {decoder : JpegDecoder} {loop : ReplayLoop L Vec}
    {P : L → List CompressedFrame → Prop} {Q : Bool → L → List CompressedFrame → Prop}
    {F : ReplayFailure → L → List CompressedFrame → Prop} {now : Instant}
    {actions : List (Threads.Action ReplayInput)} {next : ReplayThreads L Vec}
    {result : Except ReplayFailure Unit}
    (rule : loop.Rule (stdoutOutput decoder .mjpeg) [] P Q F)
    (hrun : runLoop (stdoutOutput decoder .mjpeg) loop (startLoop loop [] now) actions = some next)
    (hreturned : next.client.point = .returned result) :
    (result = .ok () ∧
      next.worker.world = next.worker.inbox.accepted.flatMap CompressedFrame.jpeg ∧
      Q next.client.stopping next.client.loop next.worker.inbox.accepted) ∨
    ∃ error, result = .error error ∧ F error next.client.loop next.worker.inbox.accepted := by
  have hmeaning := runLoop_returned rule hrun hreturned
  rcases result with (error | _ | error) | ⟨⟩
  · -- the program of this output has no error, and starts
    exfalso
    cases error with
    | sink error => cases ((stdoutOutput_rule decoder).program hmeaning.2).1
    | sinkStopped =>
      obtain ⟨after, hstart⟩ := hmeaning
      cases hstart
    | disconnected => exact hmeaning
    | usb => exact hmeaning
  · exact .inr ⟨_, rfl, hmeaning⟩
  · exact .inr ⟨_, rfl, hmeaning⟩
  · obtain ⟨sinkResult, hexited, hresult⟩ := hmeaning
    have hholds := (held_run rule hrun).valid.holds (stdoutOutput_rule decoder)
    simp only [hexited] at hholds
    obtain rfl | ⟨rfl, hreceived, hqueue⟩ := hresult
    · cases hholds.1
    · exact .inl ⟨rfl, by rw [hholds.2, hreceived], hqueue⟩

/-- **What a replay writes.** However the threads interleave, and at either
speed: when the replay of a recording in MJPEG format to the standard output has
returned, its result is the error that the lines end with, if there is one. If
not, the images of all recorded frames have been written, and nothing else. -/
theorem runReplayCapture_stdout {decoder : JpegDecoder} {recording : Recording}
    {lines : List MetadataLine} {realtime : Bool} {now : Instant}
    {actions : List (Threads.Action ReplayInput)} {next : ReplayThreads CaptureReplay Vec}
    {result : Except ReplayFailure Unit}
    (hrun : runLoop (stdoutOutput decoder .mjpeg) (captureLoop recording lines realtime)
      (startLoop (captureLoop recording lines realtime) [] now) actions = some next)
    (hreturned : next.client.point = .returned result) :
    match recordedFrames recording .new 1 lines with
    | (frames, none) => result = .ok () ∧ next.worker.world = frames.flatMap CompressedFrame.jpeg
    | (frames, some error) => result = .error error ∧ next.worker.inbox.accepted = frames := by
  obtain ⟨rfl, hworld, hlines⟩ | ⟨error, rfl, hlines⟩ :=
    runLoop_stdout (captureLoop_rule _ _ recording lines realtime) hrun hreturned
  · rw [hlines]
    exact ⟨rfl, hworld⟩
  · rw [hlines]
    exact ⟨rfl, rfl⟩

/-- The metadata that a recording was written with. -/
theorem runReplayCapture_recording {decoder : JpegDecoder} {recording : Recording}
    {frames : List CompressedFrame} {realtime : Bool} {now : Instant}
    {actions : List (Threads.Action ReplayInput)} {next : ReplayThreads CaptureReplay Vec}
    {result : Except ReplayFailure Unit} (hreplay : replayCapture recording = .ok frames)
    (hrun : runLoop (stdoutOutput decoder .mjpeg)
      (captureLoop recording (recording.rows.map .row) realtime)
      (startLoop (captureLoop recording (recording.rows.map .row) realtime) [] now) actions =
        some next)
    (hreturned : next.client.point = .returned result) :
    result = .ok () ∧ next.worker.world = frames.flatMap CompressedFrame.jpeg := by
  have hrows := recordedFrames_rows recording .new 1 recording.rows
  rw [replayCapture] at hreplay
  rw [hreplay] at hrows
  obtain ⟨rfl, hworld, hlines⟩ | ⟨error, rfl, hlines⟩ :=
    runLoop_stdout (captureLoop_rule _ _ recording (recording.rows.map .row) realtime) hrun
      hreturned
  · obtain ⟨rfl, -⟩ := Prod.mk.inj (hlines.symm.trans hrows)
    exact ⟨rfl, hworld⟩
  · obtain ⟨-, hnone⟩ := Prod.mk.inj (hlines.symm.trans hrows)
    cases hnone

/-- The metadata of a short recording. -/
def sampleLines : List MetadataLine := (recording failedEarly).rows.map .row

/-- Turns of a replay at one time. -/
def turnsAt (now : Instant) (count : ℕ) : List (Threads.Action ReplayInput) :=
  List.replicate count (.client (.turn now))

/-- Steps of its worker. -/
def workerSteps (count : ℕ) : List (Threads.Action ReplayInput) := List.replicate count .worker

/-- A replay of it. -/
def sampleReplay : List (Threads.Action ReplayInput) :=
  workerSteps 1 ++ turnsAt 0 11 ++ workerSteps 6 ++ turnsAt 0 3

/-- The sample returns, after one frame. -/
theorem sampleReplay_returns :
    ∃ next, runLoop (stdoutOutput noDecoder .mjpeg)
        (captureLoop (recording failedEarly) sampleLines false)
        (startLoop (captureLoop (recording failedEarly) sampleLines false) ([] : Vec) 0)
          sampleReplay = some next ∧
      next.client.point = .returned (.ok ()) ∧ next.worker.inbox.accepted.length = 1 := by
  have hany : ((runLoop (stdoutOutput noDecoder .mjpeg)
      (captureLoop (recording failedEarly) sampleLines false)
      (startLoop (captureLoop (recording failedEarly) sampleLines false) ([] : Vec) 0)
        sampleReplay).any fun next =>
        next.client.point.succeeded && next.worker.inbox.accepted.length == 1) = true := by
    decide +kernel
  obtain ⟨next, hrun, hnext⟩ := Option.any_eq_true _ _ |>.mp hany
  obtain ⟨hpoint, hlength⟩ := Bool.and_eq_true_iff.mp hnext
  exact ⟨next, hrun, ReplayPoint.succeeded_iff.mp hpoint, by simpa using hlength⟩

theorem runReplayCapture_returned_sampleReplay :
    ∃ next : ReplayThreads CaptureReplay Vec, next.worker.inbox.accepted.length = 1 ∧
      next.worker.inbox.accepted <+:
        (recordedFrames (recording failedEarly) .new 1 sampleLines).1 := by
  obtain ⟨next, hrun, hreturned, hlength⟩ := sampleReplay_returns
  exact ⟨next, hlength, (runReplayCapture_returned hrun hreturned).1⟩

theorem runReplayCapture_ends_sampleReplay :
    (sampleReplay.countP fun action => !isReplaySignal action) ≤ 5 * sampleLines.length + 12 := by
  obtain ⟨next, hrun, -⟩ := sampleReplay_returns
  exact (runReplayCapture_ends hrun).2

theorem runReplayCapture_stdout_sampleReplay :
    match recordedFrames (recording failedEarly) .new 1 sampleLines with
    | (frames, none) => ∃ next : ReplayThreads CaptureReplay Vec,
      next.worker.world = frames.flatMap CompressedFrame.jpeg
    | (_, some _) => False := by
  obtain ⟨next, hrun, hreturned, -⟩ := sampleReplay_returns
  have hwrites := runReplayCapture_stdout hrun hreturned
  split at hwrites
  · exact ⟨next, hwrites.2⟩
  · cases hwrites.1

end Handycam
