import Handycam.Shutdown

/-!
# The replay commands

`run_replay` and `run_replay_capture` feed the output worker of `run_stream`
with frames of a recording. They differ in their loops. Before it both spawn the
worker and wait until it is ready; after it both drop the sender of the queue,
join the worker, and then go through what it has reported, so that the output
did not fail if the command returns without an error. An error of the recording
leaves `run_replay_capture` early: the worker is not joined then, and what it
reports is not read.

A `ReplayLoop` is what the two differ in, and `ReplayLoop.Rule` says what there
is to show about one. From that follow, for any output and any interleaving of
the two threads:

* **the result** — `runLoop_returned`;
* **an end** — `runLoop_progress` and `runLoop_bounded`: the threads never wait
  for each other in vain, and take only so many steps.
-/

namespace Handycam

/-! ## The threads -/

/-- `AppError`, as far as a replay ends with it. -/
inductive ReplayFailure where
  /-- of the output worker -/
  | output (error : StreamError)
  /-- "could not read replay input {path}: {source}", in the middle of a file -/
  | read
  /-- of the metadata of a recording -/
  | capture (error : ReplayError)
  deriving DecidableEq

/-- What a turn of a loop leads to. -/
inductive LoopTurn where
  /-- the loop goes on -/
  | stays
  /-- it is left, with an error of the worker if there is one -/
  | leaves (sinkError : Option StreamError)
  /-- the command is left -/
  | fails (error : ReplayFailure)

/-- What the two commands differ in; `L` are the variables of the loop. -/
structure ReplayLoop (L W : Type) where
  /-- SIGINT and SIGTERM are handled -/
  handlesSignals : Bool
  /-- the variables when the loop begins -/
  begins : Instant → L
  /-- a turn of the loop, by whether a signal came, and the clock; none if the
  thread waits -/
  turn : Bool → Instant → L → OutputWorker W → Option (LoopTurn × L × OutputWorker W)
  /-- the last reports are read on after a failure -/
  drainsOn : Bool

/-- Where the thread of a replay is. -/
inductive ReplayPoint where
  /-- in `wait_for_sink` -/
  | awaitingSink
  /-- in its loop -/
  | looping
  /-- after its loop -/
  | dropping
  /-- waiting for the worker to end -/
  | joining
  /-- going through the last reports -/
  | draining
  /-- the command has returned -/
  | returned (result : Except ReplayFailure Unit)

/-- The command has returned without an error. -/
def ReplayPoint.succeeded : ReplayPoint → Bool
  | .returned (.ok _) => true
  | _ => false

theorem ReplayPoint.succeeded_iff {point : ReplayPoint} :
    point.succeeded = true ↔ point = .returned (.ok ()) := by
  rcases point with _ | _ | _ | _ | _ | (_ | _) <;> simp [succeeded]

/-- The thread of a replay. -/
structure Replaying (L : Type) where
  /-- where it is -/
  point : ReplayPoint
  /-- a signal came -/
  stopping : Bool
  /-- the last time it looked at the clock -/
  clock : Instant
  /-- the variables of the loop -/
  loop : L
  /-- `sink_error` -/
  sinkError : Option StreamError

/-- What comes from elsewhere. -/
inductive ReplayInput where
  /-- SIGINT or SIGTERM -/
  | signal
  /-- a turn of the thread, and the clock -/
  | turn (now : Instant)

section Thread

variable {L W : Type} (loop : ReplayLoop L W)

/-- The thread as the command starts the worker. -/
def Replaying.start (now : Instant) : Replaying L where
  point := .awaitingSink
  stopping := false
  clock := now
  loop := loop.begins now
  sinkError := none

/-- The thread elsewhere. -/
def Replaying.goto (thread : Replaying L) (point : ReplayPoint) : Replaying L :=
  { thread with point := point }

/-- A turn of the thread, once the clock has been read; none if it waits, or
has returned. -/
def replayTurn (thread : Replaying L) (worker : OutputWorker W) :
    Option (Replaying L × OutputWorker W) :=
  match thread.point with
  | .awaitingSink =>
    match waitForSink worker with
    | none => none
    | some (.ok (), worker) =>
      some ({ thread with point := .looping, loop := loop.begins thread.clock }, worker)
    | some (.error error, worker) =>
      some (thread.goto (.returned (.error (.output error))), dropQueue worker)
  | .looping =>
    match loop.turn thread.stopping thread.clock thread.loop worker with
    | none => none
    | some (.stays, inner, worker) => some ({ thread with loop := inner }, worker)
    | some (.leaves sinkError, inner, worker) =>
      some ({ thread with point := .dropping, loop := inner, sinkError := sinkError }, worker)
    | some (.fails error, inner, worker) =>
      some ({ thread with point := .returned (.error error), loop := inner }, dropQueue worker)
  | .dropping => some (thread.goto .joining, dropQueue worker)
  | .joining =>
    match worker.point with
    | .exited _ => some (thread.goto .draining, worker)
    | _ => none
  | .draining =>
    match worker.statuses.receive with
    | some (.failed error, statuses) =>
      if loop.drainsOn then
        some ({ thread with sinkError := some (.sink error) }, { worker with statuses := statuses })
      else
        some (thread.goto (.returned (.error (.output (.sink error)))),
          { worker with statuses := statuses })
    | some (_, statuses) => some (thread, { worker with statuses := statuses })
    | none =>
      match thread.sinkError with
      | none => some (thread.goto (.returned (.ok ())), worker)
      | some error => some (thread.goto (.returned (.error (.output error))), worker)
  | .returned _ => none

/-- The client of the output worker: a signal, or a turn of the thread. A signal
that is not handled ends the program. -/
def replayStep (thread : Replaying L) (worker : OutputWorker W) :
    ReplayInput → Option (Replaying L × OutputWorker W)
  | .signal => if loop.handlesSignals then some ({ thread with stopping := true }, worker) else none
  | .turn now =>
    if now < thread.clock then none else replayTurn loop { thread with clock := now } worker

end Thread

/-- The thread of a replay and its output worker. -/
abbrev ReplayThreads (L W : Type) : Type :=
  Threads (Replaying L) CompressedFrame OutputError OutputStatus W

section Runs

variable {L W : Type} (output : Output W) (loop : ReplayLoop L W)

/-- How a replay begins: the worker is spawned, with a queue for one frame. -/
def startLoop (world : W) (now : Instant) : ReplayThreads L W :=
  ⟨.start loop now, .spawn (some 1) world⟩

/-- The threads after some steps, interleaved in any way. -/
def runLoop (threads : ReplayThreads L W) (actions : List (Threads.Action ReplayInput)) :
    Option (ReplayThreads L W) :=
  Guarded.run (Threads.step output.service (replayStep loop)) threads actions

end Runs

/-! ## What a turn can do -/

section Turns

variable {L W : Type} {loop : ReplayLoop L W}

/-- What a turn can do, once the clock has been read. -/
inductive ReplayTurned (loop : ReplayLoop L W) (thread : Replaying L) (worker : OutputWorker W) :
    Replaying L → OutputWorker W → Prop
  /-- the worker is ready -/
  | started {statuses : Channel OutputStatus} (hpoint : thread.point = .awaitingSink)
    (hreceive : worker.statuses.receive = some (.ready, statuses)) :
    ReplayTurned loop thread worker
      { thread with point := .looping, loop := loop.begins thread.clock }
      { worker with statuses := statuses }
  /-- the worker failed before it was ready -/
  | startFailed {error : OutputError} {statuses : Channel OutputStatus}
    (hpoint : thread.point = .awaitingSink)
    (hreceive : worker.statuses.receive = some (.failed error, statuses)) :
    ReplayTurned loop thread worker (thread.goto (.returned (.error (.output (.sink error)))))
      (dropQueue { worker with statuses := statuses })
  /-- the worker ended before it was ready -/
  | startClosed {statuses : Channel OutputStatus} (hpoint : thread.point = .awaitingSink)
    (hreceive : worker.statuses.receive = some (.closed, statuses)) :
    ReplayTurned loop thread worker (thread.goto (.returned (.error (.output .sinkStopped))))
      (dropQueue { worker with statuses := statuses })
  /-- the worker is gone, and reported nothing -/
  | startGone (hpoint : thread.point = .awaitingSink)
    (hreceive : worker.statuses.receive = none) (halive : worker.statuses.senderAlive = false) :
    ReplayTurned loop thread worker (thread.goto (.returned (.error (.output .sinkStopped))))
      (dropQueue worker)
  /-- the loop goes on -/
  | stays {inner : L} {worker' : OutputWorker W} (hpoint : thread.point = .looping)
    (hturn : loop.turn thread.stopping thread.clock thread.loop worker =
      some (.stays, inner, worker')) :
    ReplayTurned loop thread worker { thread with loop := inner } worker'
  /-- the loop is left -/
  | leaves {sinkError : Option StreamError} {inner : L} {worker' : OutputWorker W}
    (hpoint : thread.point = .looping)
    (hturn : loop.turn thread.stopping thread.clock thread.loop worker =
      some (.leaves sinkError, inner, worker')) :
    ReplayTurned loop thread worker
      { thread with point := .dropping, loop := inner, sinkError := sinkError } worker'
  /-- the command fails -/
  | fails {error : ReplayFailure} {inner : L} {worker' : OutputWorker W}
    (hpoint : thread.point = .looping)
    (hturn : loop.turn thread.stopping thread.clock thread.loop worker =
      some (.fails error, inner, worker')) :
    ReplayTurned loop thread worker
      { thread with point := .returned (.error error), loop := inner } (dropQueue worker')
  /-- the sender of the queue is dropped -/
  | drops (hpoint : thread.point = .dropping) :
    ReplayTurned loop thread worker (thread.goto .joining) (dropQueue worker)
  /-- the worker is joined -/
  | joins {sinkResult : Except OutputError Unit} (hpoint : thread.point = .joining)
    (hexited : worker.point = .exited sinkResult) :
    ReplayTurned loop thread worker (thread.goto .draining) worker
  /-- a failure is found, and the reports are read on -/
  | finds {error : OutputError} {statuses : Channel OutputStatus} (hpoint : thread.point = .draining)
    (hreceive : worker.statuses.receive = some (.failed error, statuses)) :
    ReplayTurned loop thread worker { thread with sinkError := some (.sink error) }
      { worker with statuses := statuses }
  /-- a failure is found, and is the result -/
  | reports {error : OutputError} {statuses : Channel OutputStatus}
    (hpoint : thread.point = .draining)
    (hreceive : worker.statuses.receive = some (.failed error, statuses)) :
    ReplayTurned loop thread worker (thread.goto (.returned (.error (.output (.sink error)))))
      { worker with statuses := statuses }
  /-- a report is no failure -/
  | skips {status : OutputStatus} {statuses : Channel OutputStatus}
    (hpoint : thread.point = .draining) (hstatus : ∀ error, status ≠ .failed error)
    (hreceive : worker.statuses.receive = some (status, statuses)) :
    ReplayTurned loop thread worker thread { worker with statuses := statuses }
  /-- there was no failure -/
  | succeeds (hpoint : thread.point = .draining) (hreceive : worker.statuses.receive = none)
    (hsink : thread.sinkError = none) :
    ReplayTurned loop thread worker (thread.goto (.returned (.ok ()))) worker
  /-- there was a failure -/
  | ends {error : StreamError} (hpoint : thread.point = .draining)
    (hsink : thread.sinkError = some error) :
    ReplayTurned loop thread worker (thread.goto (.returned (.error (.output error)))) worker

variable {thread next : Replaying L} {worker worker' : OutputWorker W}

/-- Every turn is one of these. -/
theorem replayTurned (h : replayTurn loop thread worker = some (next, worker')) :
    ReplayTurned loop thread worker next worker' := by
  -- the cases are those of the thread's point, the first of them `wait_for_sink`
  rw [replayTurn] at h
  split at h
  case h_1 hpoint =>
    rw [waitForSink] at h
    split at h
    · cases h
    · rename_i hwait
      obtain ⟨rfl, rfl⟩ := Prod.mk.inj (Option.some.inj h)
      split at hwait
      · rename_i hreceive
        obtain ⟨-, rfl⟩ := Prod.mk.inj (Option.some.inj hwait)
        exact .started hpoint hreceive
      · cases hwait
      · cases hwait
      · split at hwait <;> cases hwait
    · rename_i hwait
      obtain ⟨rfl, rfl⟩ := Prod.mk.inj (Option.some.inj h)
      split at hwait
      · cases hwait
      · rename_i hreceive
        obtain ⟨herror, rfl⟩ := Prod.mk.inj (Option.some.inj hwait)
        obtain rfl := Except.error.inj herror
        exact .startFailed hpoint hreceive
      · rename_i hreceive
        obtain ⟨herror, rfl⟩ := Prod.mk.inj (Option.some.inj hwait)
        obtain rfl := Except.error.inj herror
        exact .startClosed hpoint hreceive
      · rename_i hreceive
        split at hwait
        · cases hwait
        · rename_i halive
          obtain ⟨herror, rfl⟩ := Prod.mk.inj (Option.some.inj hwait)
          obtain rfl := Except.error.inj herror
          exact .startGone hpoint hreceive (Bool.eq_false_of_not_eq_true halive)
  case h_2 hpoint =>
    split at h <;> rename_i hturn
    · cases h
    · obtain ⟨rfl, rfl⟩ := Prod.mk.inj (Option.some.inj h)
      exact .stays hpoint hturn
    · obtain ⟨rfl, rfl⟩ := Prod.mk.inj (Option.some.inj h)
      exact .leaves hpoint hturn
    · obtain ⟨rfl, rfl⟩ := Prod.mk.inj (Option.some.inj h)
      exact .fails hpoint hturn
  case h_3 hpoint =>
    obtain ⟨rfl, rfl⟩ := Prod.mk.inj (Option.some.inj h)
    exact .drops hpoint
  case h_4 hpoint =>
    split at h
    · rename_i hexited
      obtain ⟨rfl, rfl⟩ := Prod.mk.inj (Option.some.inj h)
      exact .joins hpoint hexited
    · cases h
  case h_5 hpoint =>
    split at h
    · rename_i hreceive
      split at h <;> obtain ⟨rfl, rfl⟩ := Prod.mk.inj (Option.some.inj h)
      · exact .finds hpoint hreceive
      · exact .reports hpoint hreceive
    · rename_i hstatus hreceive
      obtain ⟨rfl, rfl⟩ := Prod.mk.inj (Option.some.inj h)
      exact .skips hpoint hstatus hreceive
    · rename_i hreceive
      split at h <;> rename_i hsink <;> obtain ⟨rfl, rfl⟩ := Prod.mk.inj (Option.some.inj h)
      · exact .succeeds hpoint hreceive hsink
      · exact .ends hpoint hsink
  case h_6 => cases h

/-- A step of the thread notes a signal, or reads the clock and takes a turn. -/
theorem replayStep_cases {input : ReplayInput}
    (h : replayStep loop thread worker input = some (next, worker')) :
    (input = .signal ∧ next = { thread with stopping := true } ∧ worker' = worker) ∨
      ∃ now, thread.clock ≤ now ∧ ReplayTurned loop { thread with clock := now } worker next worker' := by
  cases input with
  | signal =>
    rw [replayStep] at h
    split at h
    · obtain ⟨rfl, rfl⟩ := Prod.mk.inj (Option.some.inj h)
      exact .inl ⟨rfl, rfl, rfl⟩
    · cases h
  | turn now =>
    rw [replayStep] at h
    split at h
    · cases h
    · exact .inr ⟨now, Nat.le_of_not_lt ‹_›, replayTurned h⟩

end Turns

/-! ## What holds of a replay -/

section Holds

variable {L W : Type}

/-- The queue is still fed. -/
def ReplayPoint.feeds : ReplayPoint → Bool
  | .awaitingSink | .looping | .dropping => true
  | _ => false

/-- The failures that were received: none, or one with this error. -/
def Tracks (sinkError : Option StreamError) (worker : OutputWorker W) : Prop :=
  match sinkError with
  | none => ∀ error, .failed error ∉ worker.statuses.received
  | some error => ∃ failure, error = .sink failure ∧ .failed failure ∈ worker.statuses.received

/-- What holds after a turn of a loop, by what it led to: of the variables and
the frames in the queue so far `Q` does after the loop, by whether a signal
came, unless the worker has failed; and `F` with an error of the loop's own. -/
def LoopTurn.Meets (Q : Bool → L → List CompressedFrame → Prop)
    (F : ReplayFailure → L → List CompressedFrame → Prop) (stopping : Bool) (inner : L)
    (worker : OutputWorker W) : LoopTurn → Prop
  | .stays => worker.statuses.received = [.ready]
  | .leaves sinkError =>
    Tracks sinkError worker ∧ (worker.Failed ∨ Q stopping inner worker.inbox.accepted)
  | .fails error => (∀ other, error ≠ .output other) ∧ F error inner worker.inbox.accepted

/-- A rule for a loop, in a world with an output: `P` always holds of the
variables and the frames in the queue. -/
structure ReplayLoop.Rule (output : Output W) (world : W) (loop : ReplayLoop L W)
    (P : L → List CompressedFrame → Prop) (Q : Bool → L → List CompressedFrame → Prop)
    (F : ReplayFailure → L → List CompressedFrame → Prop) : Prop where
  /-- the loop begins -/
  begins : ∀ now, P (loop.begins now) []
  /-- a signal may come after the loop -/
  late : ∀ {inner queued}, Q false inner queued → Q true inner queued
  /-- a turn keeps `P` and the sender, and does what a client can do -/
  turns : ∀ {stopping now inner worker turned inner' worker'},
    worker.Valid output.service world → worker.inbox.senderAlive = true →
    worker.statuses.received = [.ready] → P inner worker.inbox.accepted →
    loop.turn stopping now inner worker = some (turned, inner', worker') →
      Relation.ReflTransGen Worker.ClientStep worker worker' ∧
        worker'.inbox.senderAlive = true ∧ P inner' worker'.inbox.accepted ∧
          turned.Meets Q F stopping inner' worker'

variable {output : Output W} {loop : ReplayLoop L W} {world : W}
  {P : L → List CompressedFrame → Prop} {Q : Bool → L → List CompressedFrame → Prop}
  {F : ReplayFailure → L → List CompressedFrame → Prop}
  {thread next : Replaying L} {worker worker' : OutputWorker W}

/-- What holds by where the thread is. -/
def Replaying.Stage (Q : Bool → L → List CompressedFrame → Prop)
    (F : ReplayFailure → L → List CompressedFrame → Prop) (thread : Replaying L)
    (worker : OutputWorker W) : Prop :=
  match thread.point with
  | .awaitingSink => worker.statuses.received = [] ∧ worker.inbox.accepted = []
  | .looping => worker.statuses.received = [.ready]
  | .dropping | .joining =>
    Tracks thread.sinkError worker ∧
      (worker.Failed ∨ Q thread.stopping thread.loop worker.inbox.accepted)
  | .draining =>
    Tracks thread.sinkError worker ∧
      (worker.Failed ∨ Q thread.stopping thread.loop worker.inbox.accepted) ∧
        ∃ result, worker.point = .exited result
  | .returned (.ok ()) =>
    (worker.Failed ∨ Q thread.stopping thread.loop worker.inbox.accepted) ∧
      ∃ result, worker.point = .exited result ∧ lastStatus result = .closed
  | .returned (.error (.output error)) =>
    (∃ failure, error = .sink failure ∧ .failed failure ∈ worker.statuses.received) ∨
      error = .sinkStopped ∧ worker.statuses.received = [.closed]
  | .returned (.error error) => F error thread.loop worker.inbox.accepted

/-- What holds in every state of a replay. -/
structure Replaying.Held (output : Output W) (world : W) (P : L → List CompressedFrame → Prop)
    (Q : Bool → L → List CompressedFrame → Prop) (F : ReplayFailure → L → List CompressedFrame → Prop) (thread : Replaying L)
    (worker : OutputWorker W) : Prop where
  /-- the worker runs its program -/
  valid : worker.Valid output.service world
  /-- the sender of the queue is kept until the end -/
  sender : worker.inbox.senderAlive = thread.point.feeds
  /-- the queue has room for one frame -/
  capacity : worker.inbox.capacity = some 1
  /-- the frames in the queue are those that the loop has put there -/
  queue : P thread.loop worker.inbox.accepted
  /-- what holds where the thread is -/
  stage : thread.Stage Q F worker

theorem clientSteps_capacity (hsteps : Relation.ReflTransGen Worker.ClientStep worker worker') :
    worker'.inbox.capacity = worker.inbox.capacity := by
  induction hsteps with
  | refl => rfl
  | tail _ hstep ih =>
    cases hstep with
    | send message => exact (Channel.send_capacity _ message).trans ih
    | dropSender => exact ih
    | receive => exact ih

/-- What is received of the worker's reports does not change what it has done. -/
theorem Tracks.receive (h : Tracks (none : Option StreamError) worker) {status : OutputStatus}
    {statuses : Channel OutputStatus} (hstatus : ∀ error, status ≠ .failed error)
    (hreceived : statuses.received = worker.statuses.received ++ [status]) :
    Tracks none { worker with statuses := statuses } := by
  intro error hmem
  change OutputStatus.failed error ∈ statuses.received at hmem
  rw [hreceived, List.mem_append, List.mem_singleton] at hmem
  obtain hmem | hmem := hmem
  · exact h error hmem
  · exact hstatus error hmem.symm

/-- A worker none of whose reports is a failure was closed. -/
theorem closed_of_tracks (hvalid : worker.Valid output.service world)
    {result : Except OutputError Unit} (hexited : worker.point = .exited result)
    (hreceive : worker.statuses.receive = none) (h : Tracks none worker) :
    lastStatus result = .closed := by
  have hall := Channel.received_eq hvalid.reporting.1 (Channel.receive_eq_none.mp hreceive)
  have hreports := hvalid.statuses
  rw [hexited, ← hall] at hreports
  have hmem : lastStatus result ∈ worker.statuses.received := by
    rw [hreports]
    exact List.mem_append_right _ (List.mem_singleton_self _)
  rcases hlast : lastStatus result with _ | _ | error
  · exact absurd hlast (lastStatus_ne_ready result)
  · rfl
  · rw [hlast] at hmem
    exact absurd hmem (h error)

namespace Replaying.Held

/-- The thread moves on. -/
theorem goto (h : thread.Held output world P Q F worker)
    (hsteps : Relation.ReflTransGen Worker.ClientStep worker worker')
    (hsender : worker'.inbox.senderAlive = next.point.feeds)
    (hqueue : P next.loop worker'.inbox.accepted) (hstage : next.Stage Q F worker') :
    next.Held output world P Q F worker' where
  valid := Threads.valid_clientSteps h.valid hsteps
  sender := hsender
  capacity := (clientSteps_capacity hsteps).trans h.capacity
  queue := hqueue
  stage := hstage

/-- A turn of the thread keeps what holds. -/
theorem turned (rule : loop.Rule output world P Q F) (h : thread.Held output world P Q F worker)
    (hturned : ReplayTurned loop thread worker next worker') :
    next.Held output world P Q F worker' := by
  have hstage := h.stage
  have hsender := h.sender
  rw [Stage] at hstage
  -- while the sink is awaited nothing was received, so what comes is the first report
  cases hturned with
  | @started statuses hpoint hreceive =>
    rw [hpoint] at hstage hsender
    obtain ⟨-, hreceived, -⟩ := Channel.receive_eq_some hreceive
    refine h.goto (.single (.receive worker hreceive)) hsender ?_ ?_
    · change P (loop.begins thread.clock) worker.inbox.accepted
      rw [hstage.2]
      exact rule.begins thread.clock
    · change statuses.received = _
      rw [hreceived, hstage.1]
      rfl
  | @startFailed error statuses hpoint hreceive =>
    obtain ⟨-, hreceived, -⟩ := Channel.receive_eq_some hreceive
    refine h.goto (.trans (.single (.receive worker hreceive)) (dropQueue_clientSteps _)) rfl
      h.queue (.inl ⟨error, rfl, ?_⟩)
    change OutputStatus.failed error ∈ statuses.received
    rw [hreceived]
    simp
  | @startClosed statuses hpoint hreceive =>
    rw [hpoint] at hstage
    obtain ⟨-, hreceived, -⟩ := Channel.receive_eq_some hreceive
    refine h.goto (.trans (.single (.receive worker hreceive)) (dropQueue_clientSteps _)) rfl
      h.queue (.inr ⟨rfl, ?_⟩)
    change statuses.received = _
    rw [hreceived, hstage.1]
    rfl
  | startGone hpoint hreceive halive =>
    rw [hpoint] at hstage
    have hbuffer := Channel.receive_eq_none.mp hreceive
    -- a worker that is gone has reported, and nothing of it was read
    refine absurd hbuffer (buffer_ne_nil_of_gone h.valid halive ?_)
    rw [hstage.1]
    exact List.nil_prefix
  | stays hpoint hturn =>
    rw [hpoint] at hstage hsender
    obtain ⟨hsteps, hsender', hqueue, hmeets⟩ := rule.turns h.valid hsender hstage h.queue hturn
    refine h.goto hsteps (by rw [hsender', hpoint]; rfl) hqueue ?_
    rw [Stage, hpoint]
    exact hmeets
  | leaves hpoint hturn =>
    rw [hpoint] at hstage hsender
    obtain ⟨hsteps, hsender', hqueue, hmeets⟩ := rule.turns h.valid hsender hstage h.queue hturn
    exact h.goto hsteps hsender' hqueue hmeets
  | @fails error inner worker' hpoint hturn =>
    rw [hpoint] at hstage hsender
    obtain ⟨hsteps, -, hqueue, hown, hmeets⟩ := rule.turns h.valid hsender hstage h.queue hturn
    refine h.goto (hsteps.trans (dropQueue_clientSteps _)) rfl hqueue ?_
    rcases error with other | _ | error
    · exact absurd rfl (hown other)
    · exact hmeets
    · exact hmeets
  | drops hpoint =>
    rw [hpoint] at hstage
    exact h.goto (dropQueue_clientSteps worker) rfl h.queue hstage
  | @joins sinkResult hpoint hexited =>
    rw [hpoint] at hstage hsender
    exact h.goto .refl hsender h.queue ⟨hstage.1, hstage.2, sinkResult, hexited⟩
  | @finds error statuses hpoint hreceive =>
    rw [hpoint] at hstage hsender
    obtain ⟨-, hreceived, -⟩ := Channel.receive_eq_some hreceive
    refine h.goto (.single (.receive worker hreceive)) (by rw [hpoint]; exact hsender) h.queue ?_
    rw [Stage, hpoint]
    refine ⟨⟨error, rfl, ?_⟩, hstage.2.1, hstage.2.2⟩
    change OutputStatus.failed error ∈ statuses.received
    rw [hreceived]
    simp
  | @reports error statuses hpoint hreceive =>
    rw [hpoint] at hsender
    obtain ⟨-, hreceived, -⟩ := Channel.receive_eq_some hreceive
    refine h.goto (.single (.receive worker hreceive)) hsender h.queue (.inl ⟨error, rfl, ?_⟩)
    change OutputStatus.failed error ∈ statuses.received
    rw [hreceived]
    simp
  | @skips status statuses hpoint hstatus hreceive =>
    rw [hpoint] at hstage hsender
    obtain ⟨-, hreceived, -⟩ := Channel.receive_eq_some hreceive
    refine h.goto (.single (.receive worker hreceive)) (by rw [hpoint]; exact hsender) h.queue ?_
    rw [Stage, hpoint]
    refine ⟨?_, hstage.2.1, hstage.2.2⟩
    obtain ⟨htracks, -⟩ := hstage
    -- the first error stays; the reports after it are read and dropped
    rcases hsink : thread.sinkError with _ | error <;> rw [hsink] at htracks
    · exact htracks.receive hstatus hreceived
    · obtain ⟨failure, rfl, hmem⟩ := htracks
      refine ⟨failure, rfl, ?_⟩
      change OutputStatus.failed failure ∈ statuses.received
      rw [hreceived]
      exact List.mem_append_left _ hmem
  | succeeds hpoint hreceive hsink =>
    rw [hpoint] at hstage hsender
    obtain ⟨htracks, hqueue, result, hexited⟩ := hstage
    rw [hsink] at htracks
    exact h.goto .refl hsender h.queue
      ⟨hqueue, result, hexited, closed_of_tracks h.valid hexited hreceive htracks⟩
  | ends hpoint hsink =>
    rw [hpoint] at hstage hsender
    obtain ⟨htracks, -⟩ := hstage
    rw [hsink] at htracks
    exact h.goto .refl hsender h.queue (.inl htracks)

/-- What holds does not change with the clock. -/
theorem clock (h : thread.Held output world P Q F worker) (now : Instant) :
    Held output world P Q F { thread with clock := now } worker where
  valid := h.valid
  sender := h.sender
  capacity := h.capacity
  queue := h.queue
  stage := h.stage

/-- A signal may come at any time. -/
theorem signal (rule : loop.Rule output world P Q F) (h : thread.Held output world P Q F worker) :
    Held output world P Q F { thread with stopping := true } worker where
  valid := h.valid
  sender := h.sender
  capacity := h.capacity
  queue := h.queue
  stage := by
    have hstage := h.stage
    have hqueue : (worker.Failed ∨ Q thread.stopping thread.loop worker.inbox.accepted) →
        (worker.Failed ∨ Q true thread.loop worker.inbox.accepted) := by
      cases thread.stopping
      · exact Or.imp_right rule.late
      · exact id
    rw [Stage] at hstage ⊢
    -- only what is said of the queue depends on the signal, and a signal asks for less
    rcases hpoint : thread.point with _ | _ | _ | _ | _ | (_ | _ | _) | _ <;>
      simp only [hpoint] at hstage ⊢
    case dropping | joining => exact ⟨hstage.1, hqueue hstage.2⟩
    case draining => exact ⟨hstage.1, hqueue hstage.2.1, hstage.2.2⟩
    case returned.ok => exact ⟨hqueue hstage.1, hstage.2⟩
    all_goals exact hstage

/-- A step of the worker keeps what holds. -/
theorem workerStep (h : thread.Held output world P Q F worker)
    (hstep : worker.step output.service = some worker') :
    thread.Held output world P Q F worker' := by
  obtain ⟨haccepted, hsender, hcapacity, hreceived⟩ := Worker.step_frame hstep
  refine ⟨h.valid.step hstep, hsender.trans h.sender, hcapacity.trans h.capacity,
    by rw [haccepted]; exact h.queue, ?_⟩
  have hstage := h.stage
  have htracks : ∀ sinkError, Tracks sinkError worker → Tracks sinkError worker' := by
    intro sinkError htracks
    unfold Tracks at htracks ⊢
    rw [hreceived]
    exact htracks
  have hqueue : (worker.Failed ∨ Q thread.stopping thread.loop worker.inbox.accepted) →
      (worker'.Failed ∨ Q thread.stopping thread.loop worker'.inbox.accepted) := by
    rw [haccepted]
    exact Or.imp_left fun hfailed => hfailed.step hstep
  -- a worker that was joined takes no step
  have hexited : ∀ result, worker.point ≠ .exited result := by
    intro result hpoint
    rw [Worker.step, hpoint] at hstep
    cases hstep
  rw [Stage] at hstage ⊢
  rcases hpoint : thread.point with _ | _ | _ | _ | _ | (_ | _ | _) | _ <;>
    simp only [hpoint] at hstage ⊢
  · rwa [hreceived, haccepted]
  · rwa [hreceived]
  · exact ⟨htracks _ hstage.1, hqueue hstage.2⟩
  · exact ⟨htracks _ hstage.1, hqueue hstage.2⟩
  · obtain ⟨-, -, result, hdone⟩ := hstage
    exact absurd hdone (hexited result)
  · rwa [hreceived]
  · rwa [haccepted]
  · rwa [haccepted]
  · obtain ⟨-, result, hdone, -⟩ := hstage
    exact absurd hdone (hexited result)

end Replaying.Held

end Holds

/-! ## Runs -/

section Runs

variable {L W : Type} {output : Output W} {loop : ReplayLoop L W} {world : W} {now : Instant}
  {P : L → List CompressedFrame → Prop} {Q : Bool → L → List CompressedFrame → Prop}
  {F : ReplayFailure → L → List CompressedFrame → Prop}
  {threads next : ReplayThreads L W} {actions : List (Threads.Action ReplayInput)}

/-- A step of either thread keeps what holds. -/
theorem Replaying.Held.step (rule : loop.Rule output world P Q F)
    {action : Threads.Action ReplayInput}
    (h : threads.client.Held output world P Q F threads.worker)
    (hstep : threads.step output.service (replayStep loop) action = some next) :
    next.client.Held output world P Q F next.worker := by
  cases action with
  | client input =>
    obtain ⟨⟨thread, worker⟩, hclient, rfl⟩ := Option.map_eq_some_iff.mp hstep
    obtain ⟨-, rfl, rfl⟩ | ⟨now, -, hturned⟩ := replayStep_cases hclient
    · exact h.signal rule
    · exact (h.clock now).turned rule hturned
  | worker =>
    obtain ⟨worker, hworker, rfl⟩ := Option.map_eq_some_iff.mp hstep
    exact h.workerStep hworker

theorem held_run (rule : loop.Rule output world P Q F)
    (hrun : runLoop output loop (startLoop loop world now) actions = some next) :
    next.client.Held output world P Q F next.worker := by
  have hstart : (startLoop loop world now).client.Held output world P Q F
      (startLoop loop world now).worker :=
    ⟨Worker.valid_spawn output.service (some 1) world, rfl, rfl, rule.begins now, rfl, rfl⟩
  exact Guarded.run_invariant (P := fun threads : ReplayThreads L W =>
    threads.client.Held output world P Q F threads.worker)
    (fun _ _ _ h hstep => h.step rule hstep) hstart hrun

/-- What the result of a replay means. -/
def ReplayMeaning (output : Output W) (world : W) (Q : Bool → L → List CompressedFrame → Prop)
    (F : ReplayFailure → L → List CompressedFrame → Prop) (threads : ReplayThreads L W) :
    Except ReplayFailure Unit → Prop
  | .ok () => ∃ result, threads.worker.point = .exited result ∧
    (result = .error (.io .brokenPipe) ∨
      result = .ok () ∧ threads.worker.inbox.received = threads.worker.inbox.accepted ∧
        Q threads.client.stopping threads.client.loop threads.worker.inbox.accepted)
  | .error (.output (.sink error)) => error ≠ .io .brokenPipe ∧
    outcome ((output.service.program threads.worker.inbox.received).run world) =
      (.error error, threads.worker.world)
  | .error (.output .sinkStopped) =>
    ∃ after, output.start.run world = .error (.io .brokenPipe) after
  | .error (.output _) => False
  | .error error => F error threads.client.loop threads.worker.inbox.accepted

/-- What a replay returns. -/
theorem runLoop_returned (rule : loop.Rule output world P Q F)
    (hrun : runLoop output loop (startLoop loop world now) actions = some next)
    {result : Except ReplayFailure Unit} (hreturned : next.client.point = .returned result) :
    ReplayMeaning output world Q F next result := by
  have h := held_run rule hrun
  have hstage := h.stage
  rw [Replaying.Stage] at hstage
  rw [hreturned] at hstage
  rcases result with (error | _ | error) | ⟨⟩
  · obtain ⟨failure, rfl, hmem⟩ | ⟨rfl, hclosed⟩ := hstage
    · exact failed_of_received h.valid hmem
    · exact refused_of_closed h.valid hclosed
  · exact hstage
  · exact hstage
  · obtain ⟨hqueue, sinkResult, hexited, hlast⟩ := hstage
    refine ⟨sinkResult, hexited, ?_⟩
    obtain rfl | rfl := lastStatus_eq_closed.mp hlast
    · have hran := h.valid.ran
      simp only [Worker.Ran, hexited] at hran
      obtain ⟨error, hfailed⟩ | hqueue := hqueue
      · rw [hexited] at hfailed
        obtain hfailed | hfailed | hfailed := hfailed <;> cases hfailed
      · exact .inr ⟨rfl, (hran.2 trivial).2, hqueue⟩
    · exact .inl rfl

/-! ## The end of a replay -/

/-- A loop that ends, if it is `finite` or a signal came: a turn waits for the
worker, or for a time; and it uses up what it may. -/
structure ReplayLoop.Ends (output : Output W) (loop : ReplayLoop L W)
    (P : L → List CompressedFrame → Prop) (finite : Bool) (wakes : L → Instant)
    (turnsLeft : Bool → L → ℕ) (budget : ℕ) : Prop where
  /-- what the loop has when it begins -/
  begins : ∀ stopping now, turnsLeft stopping (loop.begins now) ≤ budget
  /-- a signal costs nothing -/
  signal : ∀ inner, turnsLeft true inner ≤ turnsLeft false inner
  /-- what a turn waits for -/
  waits : ∀ {stopping now inner worker}, worker.inbox.receiverAlive = Worker.listens worker.point →
    worker.inbox.senderAlive = true → worker.inbox.capacity = some 1 →
    loop.turn stopping now inner worker = none →
      (worker.step output.service).isSome = true ∨ now < wakes inner
  /-- what a turn uses up -/
  shrinks : ∀ {stopping now inner worker turned inner' worker'},
    finite = true ∨ stopping = true → P inner worker.inbox.accepted →
    loop.turn stopping now inner worker = some (turned, inner', worker') →
      worker'.stepsLeft + (match turned with
        | .stays => turnsLeft stopping inner' + 1
        | _ => 0) ≤ turnsLeft stopping inner + worker.stepsLeft

/-- How many turns a thread has left. -/
def Replaying.stepsLeft (turnsLeft : Bool → L → ℕ) (budget : ℕ) (thread : Replaying L)
    (reports : ℕ) : ℕ :=
  match thread.point with
  | .awaitingSink => budget + 7
  | .looping => turnsLeft thread.stopping thread.loop + 6
  | .dropping => 5
  | .joining => 4
  | .draining => 3 - reports
  | .returned _ => 0

/-- How many steps both threads have left. -/
def ReplayThreads.stepsLeft (turnsLeft : Bool → L → ℕ) (budget : ℕ)
    (threads : ReplayThreads L W) : ℕ :=
  threads.client.stepsLeft turnsLeft budget threads.worker.statuses.received.length +
    threads.worker.stepsLeft

/-- A worker reports twice at most. -/
theorem reports_length {worker : OutputWorker W} (hvalid : worker.Valid output.service world) :
    worker.statuses.accepted.length ≤ 2 := by
  obtain hready | ⟨result, -, htwo | ⟨hone, -⟩⟩ := reports_cases hvalid
  · exact hready.length_le.trans (Nat.le_succ 1)
  · exact Nat.le_of_eq (congrArg List.length htwo)
  · exact (Nat.le_of_eq (congrArg List.length hone)).trans (Nat.le_succ 1)

variable {finite : Bool} {wakes : L → Instant} {turnsLeft : Bool → L → ℕ} {budget : ℕ}

/-- Another report has been received. -/
theorem receive_length {worker : OutputWorker W} (hvalid : worker.Valid output.service world)
    {status : OutputStatus} {statuses : Channel OutputStatus}
    (hreceive : worker.statuses.receive = some (status, statuses)) :
    statuses.received.length = worker.statuses.received.length + 1 ∧
      worker.statuses.received.length < 2 := by
  obtain ⟨-, hreceived, haccepted, -⟩ := Channel.receive_eq_some hreceive
  have hlength : statuses.received.length = worker.statuses.received.length + 1 := by
    rw [hreceived, List.length_append, List.length_singleton]
  have htaken := statuses.taken.length_le
  rw [haccepted] at htaken
  have hreports := reports_length hvalid
  exact ⟨hlength, by omega⟩

/-- A turn uses up a step of the thread. -/
theorem ReplayTurned.stepsLeft (ends : loop.Ends output P finite wakes turnsLeft budget)
    {thread next : Replaying L} {worker worker' : OutputWorker W}
    (hfinite : finite = true ∨ thread.stopping = true)
    (h : thread.Held output world P Q F worker)
    (hturned : ReplayTurned loop thread worker next worker') :
    next.stopping = thread.stopping ∧
      next.stepsLeft turnsLeft budget worker'.statuses.received.length + worker'.stepsLeft <
        thread.stepsLeft turnsLeft budget worker.statuses.received.length + worker.stepsLeft := by
  have hstage := h.stage
  rw [Replaying.Stage] at hstage
  -- the loop pays with its own turns, the thread after it with the reports that are left
  cases hturned with
  | @started statuses hpoint hreceive =>
    refine ⟨rfl, ?_⟩
    have hbegins := ends.begins thread.stopping thread.clock
    simp only [Replaying.stepsLeft, hpoint]
    change turnsLeft thread.stopping (loop.begins thread.clock) + 6 + worker.stepsLeft < _
    omega
  | @startFailed error statuses hpoint hreceive | @startClosed statuses hpoint hreceive =>
    refine ⟨rfl, ?_⟩
    simp only [Replaying.stepsLeft, hpoint, Replaying.goto]
    change 0 + worker.stepsLeft < _
    omega
  | startGone hpoint =>
    refine ⟨rfl, ?_⟩
    simp only [Replaying.stepsLeft, hpoint, Replaying.goto]
    change 0 + worker.stepsLeft < _
    omega
  | stays hpoint hturn =>
    refine ⟨rfl, ?_⟩
    rw [hpoint] at hstage
    have hshrinks := ends.shrinks hfinite h.queue hturn
    simp only [Replaying.stepsLeft, hpoint] at hshrinks ⊢
    omega
  | leaves hpoint hturn =>
    refine ⟨rfl, ?_⟩
    rw [hpoint] at hstage
    have hshrinks := ends.shrinks hfinite h.queue hturn
    simp only [Replaying.stepsLeft, hpoint] at hshrinks ⊢
    omega
  | @fails error inner worker' hpoint hturn =>
    refine ⟨rfl, ?_⟩
    rw [hpoint] at hstage
    have hshrinks := ends.shrinks hfinite h.queue hturn
    simp only [Replaying.stepsLeft, hpoint] at hshrinks ⊢
    change 0 + worker'.stepsLeft < _
    omega
  | drops hpoint =>
    refine ⟨rfl, ?_⟩
    simp only [Replaying.stepsLeft, hpoint, Replaying.goto]
    change 4 + worker.stepsLeft < _
    omega
  | joins hpoint =>
    refine ⟨rfl, ?_⟩
    simp only [Replaying.stepsLeft, hpoint, Replaying.goto]
    omega
  | @finds error statuses hpoint hreceive =>
    obtain ⟨hlength, hroom⟩ := receive_length h.valid hreceive
    refine ⟨rfl, ?_⟩
    simp only [Replaying.stepsLeft, hpoint, hlength]
    change 3 - (_ + 1) + worker.stepsLeft < _
    omega
  | @reports error statuses hpoint hreceive =>
    obtain ⟨-, hroom⟩ := receive_length h.valid hreceive
    refine ⟨rfl, ?_⟩
    simp only [Replaying.stepsLeft, hpoint, Replaying.goto]
    change 0 + worker.stepsLeft < _
    omega
  | @skips status statuses hpoint hstatus hreceive =>
    obtain ⟨hlength, hroom⟩ := receive_length h.valid hreceive
    refine ⟨rfl, ?_⟩
    simp only [Replaying.stepsLeft, hpoint, hlength]
    change 3 - (_ + 1) + worker.stepsLeft < _
    omega
  | succeeds hpoint | ends hpoint =>
    have hlength := (worker.statuses.taken.length_le).trans (reports_length h.valid)
    refine ⟨rfl, ?_⟩
    simp only [Replaying.stepsLeft, hpoint, Replaying.goto]
    omega

/-- A signal. -/
def isReplaySignal : Threads.Action ReplayInput → Bool
  | .client .signal => true
  | _ => false

/-- A step other than a signal is one of those that are left. -/
theorem replay_stepsLeft (rule : loop.Rule output world P Q F)
    (ends : loop.Ends output P finite wakes turnsLeft budget)
    {action : Threads.Action ReplayInput}
    (h : threads.client.Held output world P Q F threads.worker ∧
      (finite = true ∨ threads.client.stopping = true))
    (hstep : threads.step output.service (replayStep loop) action = some next) :
    (next.client.Held output world P Q F next.worker ∧
        (finite = true ∨ next.client.stopping = true)) ∧
      next.stepsLeft turnsLeft budget + (if isReplaySignal action then 0 else 1) ≤
        threads.stepsLeft turnsLeft budget := by
  obtain ⟨hheld, hfinite⟩ := h
  have hnext := hheld.step rule hstep
  cases action with
  | client input =>
    obtain ⟨⟨thread, worker⟩, hclient, rfl⟩ := Option.map_eq_some_iff.mp hstep
    obtain ⟨rfl, rfl, rfl⟩ | ⟨now, -, hturned⟩ := replayStep_cases hclient
    · refine ⟨⟨hnext, .inr rfl⟩, ?_⟩
      -- a signal takes a step of its own, but adds none
      have hsignal := ends.signal threads.client.loop
      simp only [ReplayThreads.stepsLeft, Replaying.stepsLeft, isReplaySignal, if_true]
      rcases hstopping : threads.client.stopping with _ | _ <;>
        split <;> simp only [hstopping] at * <;> omega
    · have hends : finite = true ∨
          ({ threads.client with clock := now } : Replaying L).stopping = true := hfinite
      obtain ⟨hsame, hless⟩ := hturned.stepsLeft ends hends (hheld.clock now)
      refine ⟨⟨hnext, hfinite.imp_right fun hstopping => hsame.trans hstopping⟩, ?_⟩
      replace hless : thread.stepsLeft turnsLeft budget worker.statuses.received.length +
          worker.stepsLeft < threads.stepsLeft turnsLeft budget := hless
      change thread.stepsLeft turnsLeft budget worker.statuses.received.length +
        worker.stepsLeft + _ ≤ _
      split <;> omega
  | worker =>
    obtain ⟨worker, hworker, rfl⟩ := Option.map_eq_some_iff.mp hstep
    obtain ⟨-, -, -, hreceived⟩ := Worker.step_frame hworker
    have hless := Worker.stepsLeft_step hworker
    refine ⟨⟨hnext, hfinite⟩, ?_⟩
    simp only [ReplayThreads.stepsLeft, hreceived]
    split <;> omega

/-- A replay ends, if its loop does. -/
theorem runLoop_bounded (rule : loop.Rule output world P Q F)
    (ends : loop.Ends output P finite wakes turnsLeft budget)
    (hrun : runLoop output loop (startLoop loop world now) actions = some threads)
    (hfinite : finite = true ∨ threads.client.stopping = true)
    {rest : List (Threads.Action ReplayInput)}
    (hrest : runLoop output loop threads rest = some next) :
    (rest.countP fun action => !isReplaySignal action) + next.stepsLeft turnsLeft budget ≤
      threads.stepsLeft turnsLeft budget := by
  have hsteps : ∀ (threads : ReplayThreads L W) action (next : ReplayThreads L W),
      threads.client.Held output world P Q F threads.worker ∧
        (finite = true ∨ threads.client.stopping = true) →
      threads.step output.service (replayStep loop) action = some next →
      (next.client.Held output world P Q F next.worker ∧
          (finite = true ∨ next.client.stopping = true)) ∧
        ReplayThreads.stepsLeft turnsLeft budget next +
            (if isReplaySignal action then 0 else 1) ≤
          ReplayThreads.stepsLeft turnsLeft budget threads :=
    fun _ _ _ => replay_stepsLeft rule ends
  have hbound := Guarded.run_bounded hsteps ⟨held_run rule hrun, hfinite⟩ hrest
  rw [sum_turns] at hbound
  omega

/-- Until a replay has returned, one of its threads can take a step, at the
latest when the loop wakes. -/
theorem runLoop_progress (rule : loop.Rule output world P Q F)
    (ends : loop.Ends output P finite wakes turnsLeft budget)
    (hrun : runLoop output loop (startLoop loop world now) actions = some threads)
    (hreturned : ∀ result, threads.client.point ≠ .returned result) :
    (threads.worker.step output.service).isSome = true ∨
      ∀ later, threads.client.clock ≤ later → wakes threads.client.loop ≤ later →
        (replayStep loop threads.client threads.worker (.turn later)).isSome = true := by
  have h := held_run rule hrun
  have hstage := h.stage
  have hsender := h.sender
  rw [Replaying.Stage] at hstage
  by_contra hstuck
  obtain ⟨hworker, hclient⟩ := not_or.mp hstuck
  have hwaits : threads.worker.step output.service = none := by simpa using hworker
  push Not at hclient
  obtain ⟨later, hclock, hwakes, hnone⟩ := hclient
  rw [replayStep, if_neg (Nat.not_lt.mpr hclock)] at hnone
  have hturn : replayTurn loop { threads.client with clock := later } threads.worker = none := by
    simpa using hnone
  rw [replayTurn] at hturn
  split at hturn
  case h_1 hpoint =>
    replace hpoint : threads.client.point = .awaitingSink := hpoint
    rw [hpoint] at hstage
    split at hturn
    · rename_i hwait
      rw [waitForSink] at hwait
      split at hwait
      · cases hwait
      · cases hwait
      · cases hwait
      · rename_i hreceive
        -- nothing was received, and nothing waits, but a worker that waits has reported
        have hall := Channel.received_eq h.valid.reporting.1 (Channel.receive_eq_none.mp hreceive)
        exact statuses_of_waiting h.valid hwaits (hall.symm.trans hstage.1)
    · cases hturn
    · cases hturn
  case h_2 hpoint =>
    replace hpoint : threads.client.point = .looping := hpoint
    rw [hpoint] at hsender
    split at hturn
    · rename_i hloop
      obtain hstep | hlate := ends.waits h.valid.listener hsender h.capacity hloop
      · rw [hwaits] at hstep
        cases hstep
      · exact absurd hwakes (Nat.not_le.mpr hlate)
    · cases hturn
    · cases hturn
    · cases hturn
  case h_3 => cases hturn
  case h_4 hpoint =>
    replace hpoint : threads.client.point = .joining := hpoint
    rw [hpoint] at hsender
    split at hturn
    · cases hturn
    · rename_i hexited
      -- the sender was dropped, so that the worker waits for nothing
      obtain ⟨-, -, halive⟩ | ⟨sinkResult, hend⟩ := Worker.step_eq_none.mp hwaits
      · rw [halive] at hsender
        cases hsender
      · exact hexited sinkResult hend
  case h_5 =>
    split at hturn
    · split at hturn <;> cases hturn
    · cases hturn
    · split at hturn <;> cases hturn
  case h_6 result hpoint => exact hreturned result hpoint

end Runs

end Handycam
