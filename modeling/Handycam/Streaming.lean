import Handycam.Opening
import Handycam.Output
import Handycam.Session

/-!
# The stream command

`run_stream` feeds an output worker with the frames of a camera, for as long as
both are there. It opens the camera again and again, decodes each session with
a frame assembler of its own, and offers every frame to a queue with room for
one. A signal, or the end of the worker, ends it.

`streamStep` is what the thread of `run_stream` does from one point where it
waits, or looks at what others do, to the next. What comes from elsewhere (the
clock, signals, what opening the camera and polling it return) is its input.
Together with the worker it is a client of, it is an instance of `Threads`, so
that what is proved here holds for every interleaving of the two.
-/

namespace Handycam

/-! ## The thread of `run_stream` -/

/-- Why a session ended with the camera. -/
inductive Disconnection where
  /-- the session reported that it delivers no more -/
  | event (event : SessionEvent)
  /-- it could not be polled -/
  | poll (error : UsbTransportError)
  deriving DecidableEq

/-- `AppError`, as far as a stream ends with it. -/
inductive StreamError where
  /-- "output sink failed: {0}", with the error that the worker reported -/
  | sink (error : OutputError)
  /-- "output sink failed: camera disconnected: {0}" -/
  | disconnected (reason : Disconnection)
  /-- "output sink stopped" -/
  | sinkStopped
  /-- "USB camera failed: {0}" -/
  | usb (error : UsbTransportError)
  deriving DecidableEq

/-- `LIBUSB_ERROR_IO`. -/
def errorIo : ℤ := -1

/-- `LIBUSB_ERROR_NO_DEVICE`. -/
def errorNoDevice : ℤ := -4

/-- `LIBUSB_ERROR_TIMEOUT`. -/
def errorTimeout : ℤ := -7

/-- `should_retry_open`. -/
def shouldRetryOpen : UsbTransportError → Bool
  | .noCamera => true
  | .usb code => code = errorNoDevice ∨ code = errorIo ∨ code = errorTimeout
  | _ => false

/-- The first delay before the camera is opened again, in nanoseconds. -/
def firstRetryDelay : ℕ := 500000000

/-- The longest delay before the camera is opened again, in nanoseconds. -/
def longestRetryDelay : ℕ := 5000000000

/-- Where the thread is. -/
inductive StreamPoint where
  /-- in `wait_for_sink` -/
  | awaitingSink
  /-- at the head of its loop -/
  | head
  /-- in `wait_interruptibly` -/
  | waiting (deadline : Instant)
  /-- at the head of the loop of `run_session` -/
  | streaming
  /-- polling the session, with what that will return -/
  | polling (polled : Except UsbTransportError (List SessionEvent))
  /-- handling what was polled -/
  | handling (events : List SessionEvent)
  /-- after its loop -/
  | closing (result : Except StreamError Unit)
  /-- waiting for the worker to end -/
  | joining (result : Except StreamError Unit)
  /-- `run_stream` has returned -/
  | returned (result : Except StreamError Unit)

/-- An attempt to open the camera. -/
structure OpenRecord where
  /-- when it was over -/
  time : Instant
  /-- why it failed, unless it did not -/
  failure : Option UsbTransportError
  deriving DecidableEq

/-- The thread of `run_stream`. -/
structure Streaming where
  /-- where it is -/
  point : StreamPoint
  /-- a signal came -/
  stopping : Bool
  /-- the last time it looked at the clock -/
  clock : Instant
  /-- the delay before the camera is opened again -/
  retryDelay : ℕ
  /-- `stats.reconnects` -/
  reconnects : UInt64
  /-- the assembler, the other counters, and the frames so far -/
  driver : Driver
  /-- the attempts to open the camera -/
  opens : List OpenRecord
  /-- the events handled in each session that was stopped -/
  sessions : List (List SessionEvent)
  /-- the events handled in the session that is open -/
  events : List SessionEvent

/-- What comes from elsewhere. -/
inductive StreamInput where
  /-- SIGINT or SIGTERM -/
  | signal
  /-- a turn of the thread: the clock, and what opening and polling return, if
  it does that -/
  | turn (now : Instant) (opened : Except UsbTransportError Unit)
    (polled : Except UsbTransportError (List SessionEvent))

/-- An output worker that takes frames. -/
abbrev OutputWorker (W : Type) : Type := Worker CompressedFrame OutputError OutputStatus W

section Sink

variable {W : Type} (worker : OutputWorker W)

/-- `check_sink`: nothing, or what to end with. -/
def checkSink : Option (Except StreamError Unit) × OutputWorker W :=
  match worker.statuses.receive with
  | some (.ready, statuses) => (none, { worker with statuses := statuses })
  | some (.closed, statuses) => (some (.ok ()), { worker with statuses := statuses })
  | some (.failed error, statuses) =>
    (some (.error (.sink error)), { worker with statuses := statuses })
  | none =>
    if worker.statuses.senderAlive then (none, worker) else (some (.error .sinkStopped), worker)

/-- `wait_for_sink`; none if there is nothing to receive yet. -/
def waitForSink : Option (Except StreamError Unit × OutputWorker W) :=
  match worker.statuses.receive with
  | some (.ready, statuses) => some (.ok (), { worker with statuses := statuses })
  | some (.failed error, statuses) =>
    some (.error (.sink error), { worker with statuses := statuses })
  | some (.closed, statuses) => some (.error .sinkStopped, { worker with statuses := statuses })
  | none => if worker.statuses.senderAlive then none else some (.error .sinkStopped, worker)

/-- What `try_send` returns. -/
def trySend : TrySend :=
  if worker.inbox.receiverAlive then if worker.inbox.hasRoom then .taken else .full
  else .disconnected

/-- A frame is sent, if there is one and the queue takes it. -/
def sendFrame (frame : Option CompressedFrame) : OutputWorker W :=
  frame.elim worker fun frame => { worker with inbox := worker.inbox.send frame }

/-- The end of `run_stream` drops the sender of the queue. -/
def dropQueue : OutputWorker W := { worker with inbox := worker.inbox.dropSender }

end Sink

namespace Streaming

/-- The thread as `run_stream` starts the worker. -/
def start (now : Instant) : Streaming where
  point := .awaitingSink
  stopping := false
  clock := now
  retryDelay := firstRetryDelay
  reconnects := 0
  driver := ⟨.new, {}, [], []⟩
  opens := []
  sessions := []
  events := []

variable (thread : Streaming)

/-- The thread elsewhere. -/
def goto (point : StreamPoint) : Streaming := { thread with point := point }

/-- `run_session` is left, and the session is stopped. -/
def leaveSession (point : StreamPoint) : Streaming :=
  { thread with
    point := point
    sessions := thread.sessions ++ [thread.events]
    events := [] }

/-- The session ended with the camera. -/
def disconnected (noReconnect : Bool) (reason : Disconnection) : Streaming :=
  thread.leaveSession (if noReconnect then .closing (.error (.disconnected reason)) else .head)

/-- The camera was opened. -/
def enterSession : Streaming :=
  { thread with
    point := .streaming
    retryDelay := firstRetryDelay
    reconnects := thread.reconnects + 1
    driver := { thread.driver with decoder := .new }
    opens := thread.opens ++ [⟨thread.clock, none⟩] }

/-- The camera could not be opened. -/
def failOpen (noReconnect : Bool) (error : UsbTransportError) : Streaming :=
  { thread with
    point :=
      if shouldRetryOpen error && !noReconnect then .waiting (thread.clock + thread.retryDelay)
      else .closing (.error (.usb error))
    opens := thread.opens ++ [⟨thread.clock, some error⟩] }

/-- The time to wait is over. -/
def retryOpen : Streaming :=
  { thread with
    point := .head
    retryDelay := min (thread.retryDelay * 2) longestRetryDelay }

/-- An event was handled. -/
def handled (event : SessionEvent) (driver : Driver) (point : StreamPoint) : Streaming :=
  { thread with point := point, driver := driver, events := thread.events ++ [event] }

end Streaming

/-- A turn of the thread, once the clock has been read; none if it waits for
the worker, or has returned. -/
def streamTurn {W : Type} (noReconnect : Bool) (thread : Streaming) (worker : OutputWorker W)
    (opened : Except UsbTransportError Unit)
    (polled : Except UsbTransportError (List SessionEvent)) :
    Option (Streaming × OutputWorker W) :=
  match thread.point with
  | .awaitingSink =>
    match waitForSink worker with
    | none => none
    | some (.ok (), worker) => some (thread.goto .head, worker)
    | some (.error error, worker) =>
      some (thread.goto (.returned (.error error)), dropQueue worker)
  | .head =>
    if thread.stopping then some (thread.goto (.closing (.ok ())), worker)
    else
      match checkSink worker with
      | (some result, worker) => some (thread.goto (.closing result), worker)
      | (none, worker) =>
        match opened with
        | .ok () => some (thread.enterSession, worker)
        | .error error => some (thread.failOpen noReconnect error, worker)
  | .waiting deadline =>
    if deadline ≤ thread.clock then some (thread.retryOpen, worker)
    else if thread.stopping then some (thread.goto (.closing (.ok ())), worker)
    else
      match checkSink worker with
      | (some (.ok ()), worker) => some (thread.goto (.closing (.ok ())), worker)
      | (some (.error error), worker) =>
        -- the error leaves `run_stream` without waiting for the worker
        some (thread.goto (.returned (.error error)), dropQueue worker)
      | (none, worker) => some (thread, worker)
  | .streaming =>
    if thread.stopping then some (thread.leaveSession (.closing (.ok ())), worker)
    else
      match checkSink worker with
      | (some result, worker) => some (thread.leaveSession (.closing result), worker)
      | (none, worker) => some (thread.goto (.polling polled), worker)
  | .polling (.ok events) => some (thread.goto (.handling events), worker)
  | .polling (.error error) =>
    if thread.stopping then some (thread.leaveSession (.closing (.ok ())), worker)
    else some (thread.disconnected noReconnect (.poll error), worker)
  | .handling [] => some (thread.goto .streaming, worker)
  | .handling (event :: events) =>
    let worker' := sendFrame worker (decodeEvent thread.driver.decoder event).2
    match handleEvent thread.driver event (trySend worker) with
    | (driver, none) => some (thread.handled event driver (.handling events), worker')
    | (driver, some .sinkClosed) =>
      some ((thread.handled event driver .streaming).leaveSession (.closing (.ok ())), worker')
    | (driver, some (.disconnected event')) =>
      some ((thread.handled event driver .streaming).disconnected noReconnect (.event event'),
        worker')
  | .closing result => some (thread.goto (.joining result), dropQueue worker)
  | .joining result =>
    match worker.point with
    | .exited _ => some (thread.goto (.returned result), worker)
    | _ => none
  | .returned _ => none

/-- The client of the output worker: a signal, or a turn of the thread. -/
def streamStep {W : Type} (noReconnect : Bool) (thread : Streaming) (worker : OutputWorker W) :
    StreamInput → Option (Streaming × OutputWorker W)
  | .signal => some ({ thread with stopping := true }, worker)
  | .turn now opened polled =>
    if now < thread.clock then none
    else streamTurn noReconnect { thread with clock := now } worker opened polled

theorem Streaming.failOpen_retry {thread : Streaming} {noReconnect : Bool}
    {error : UsbTransportError} (h : (shouldRetryOpen error && !noReconnect) = true) :
    (thread.failOpen noReconnect error).point = .waiting (thread.clock + thread.retryDelay) :=
  if_pos h

theorem Streaming.failOpen_final {thread : Streaming} {noReconnect : Bool}
    {error : UsbTransportError} (h : (shouldRetryOpen error && !noReconnect) = false) :
    (thread.failOpen noReconnect error).point = .closing (.error (.usb error)) :=
  if_neg (by rw [h]; exact Bool.false_ne_true)

/-! ## What a turn can do -/

section Turns

variable {W : Type}

/-- What `check_sink` can find. -/
inductive SinkCheck (worker : OutputWorker W) :
    Option (Except StreamError Unit) → OutputWorker W → Prop
  /-- the worker is ready -/
  | ready {statuses : Channel OutputStatus}
    (hreceive : worker.statuses.receive = some (.ready, statuses)) :
    SinkCheck worker none { worker with statuses := statuses }
  /-- the worker has reported nothing new -/
  | quiet (hreceive : worker.statuses.receive = none)
    (halive : worker.statuses.senderAlive = true) : SinkCheck worker none worker
  /-- the worker has ended -/
  | closed {statuses : Channel OutputStatus}
    (hreceive : worker.statuses.receive = some (.closed, statuses)) :
    SinkCheck worker (some (.ok ())) { worker with statuses := statuses }
  /-- the worker has failed -/
  | failed {error : OutputError} {statuses : Channel OutputStatus}
    (hreceive : worker.statuses.receive = some (.failed error, statuses)) :
    SinkCheck worker (some (.error (.sink error))) { worker with statuses := statuses }
  /-- the worker is gone, and everything it reported has been received -/
  | gone (hreceive : worker.statuses.receive = none)
    (halive : worker.statuses.senderAlive = false) :
    SinkCheck worker (some (.error .sinkStopped)) worker

theorem sinkCheck (worker : OutputWorker W) :
    SinkCheck worker (checkSink worker).1 (checkSink worker).2 := by
  rw [checkSink]
  split
  · exact .ready ‹_›
  · exact .closed ‹_›
  · exact .failed ‹_›
  · split
    · exact .quiet ‹_› ‹_›
    · exact .gone ‹_› (Bool.eq_false_of_not_eq_true ‹_›)

/-- What a turn can do, once the clock has been read. -/
inductive Turned (noReconnect : Bool) (thread : Streaming) (worker : OutputWorker W) :
    Streaming → OutputWorker W → Prop
  /-- the worker is ready -/
  | started {statuses : Channel OutputStatus} (hpoint : thread.point = .awaitingSink)
    (hreceive : worker.statuses.receive = some (.ready, statuses)) :
    Turned noReconnect thread worker (thread.goto .head) { worker with statuses := statuses }
  /-- the worker failed before it was ready -/
  | startFailed {error : OutputError} {statuses : Channel OutputStatus}
    (hpoint : thread.point = .awaitingSink)
    (hreceive : worker.statuses.receive = some (.failed error, statuses)) :
    Turned noReconnect thread worker (thread.goto (.returned (.error (.sink error))))
      (dropQueue { worker with statuses := statuses })
  /-- the worker ended before it was ready -/
  | startClosed {statuses : Channel OutputStatus} (hpoint : thread.point = .awaitingSink)
    (hreceive : worker.statuses.receive = some (.closed, statuses)) :
    Turned noReconnect thread worker (thread.goto (.returned (.error .sinkStopped)))
      (dropQueue { worker with statuses := statuses })
  /-- the worker is gone, and reported nothing -/
  | startGone (hpoint : thread.point = .awaitingSink)
    (hreceive : worker.statuses.receive = none) (halive : worker.statuses.senderAlive = false) :
    Turned noReconnect thread worker (thread.goto (.returned (.error .sinkStopped)))
      (dropQueue worker)
  /-- a signal came while no session was open -/
  | interrupted (hpoint : thread.point = .head ∨ ∃ deadline, thread.point = .waiting deadline)
    (hstopping : thread.stopping = true) :
    Turned noReconnect thread worker (thread.goto (.closing (.ok ()))) worker
  /-- the worker ended while no session was open -/
  | sinkAtHead {result : Except StreamError Unit} {worker' : OutputWorker W}
    (hpoint : thread.point = .head) (hcheck : SinkCheck worker (some result) worker') :
    Turned noReconnect thread worker (thread.goto (.closing result)) worker'
  /-- the camera was opened -/
  | opened {worker' : OutputWorker W} (hpoint : thread.point = .head)
    (hstopping : thread.stopping = false) (hcheck : SinkCheck worker none worker') :
    Turned noReconnect thread worker thread.enterSession worker'
  /-- the camera was not opened -/
  | openFailed {worker' : OutputWorker W} (error : UsbTransportError)
    (hpoint : thread.point = .head) (hstopping : thread.stopping = false)
    (hcheck : SinkCheck worker none worker') :
    Turned noReconnect thread worker (thread.failOpen noReconnect error) worker'
  /-- the time to wait is over -/
  | waited {deadline : Instant} (hpoint : thread.point = .waiting deadline)
    (hdeadline : deadline ≤ thread.clock) :
    Turned noReconnect thread worker thread.retryOpen worker
  /-- the worker ended while the thread was waiting -/
  | closedWaiting {deadline : Instant} {worker' : OutputWorker W}
    (hpoint : thread.point = .waiting deadline) (hcheck : SinkCheck worker (some (.ok ())) worker') :
    Turned noReconnect thread worker (thread.goto (.closing (.ok ()))) worker'
  /-- the worker failed while the thread was waiting -/
  | failedWaiting {deadline : Instant} {error : StreamError} {worker' : OutputWorker W}
    (hpoint : thread.point = .waiting deadline)
    (hcheck : SinkCheck worker (some (.error error)) worker') :
    Turned noReconnect thread worker (thread.goto (.returned (.error error))) (dropQueue worker')
  /-- the thread waits on -/
  | waits {deadline : Instant} {worker' : OutputWorker W}
    (hpoint : thread.point = .waiting deadline) (hdeadline : thread.clock < deadline)
    (hstopping : thread.stopping = false) (hcheck : SinkCheck worker none worker') :
    Turned noReconnect thread worker thread worker'
  /-- a signal came while a session was open -/
  | stopped
    (hpoint : thread.point = .streaming ∨ ∃ error, thread.point = .polling (.error error))
    (hstopping : thread.stopping = true) :
    Turned noReconnect thread worker (thread.leaveSession (.closing (.ok ()))) worker
  /-- the worker ended while a session was open -/
  | sinkInSession {result : Except StreamError Unit} {worker' : OutputWorker W}
    (hpoint : thread.point = .streaming) (hcheck : SinkCheck worker (some result) worker') :
    Turned noReconnect thread worker (thread.leaveSession (.closing result)) worker'
  /-- the session is polled -/
  | polls {worker' : OutputWorker W} (polled : Except UsbTransportError (List SessionEvent))
    (hpoint : thread.point = .streaming) (hstopping : thread.stopping = false)
    (hcheck : SinkCheck worker none worker') :
    Turned noReconnect thread worker (thread.goto (.polling polled)) worker'
  /-- events were polled -/
  | polled {events : List SessionEvent} (hpoint : thread.point = .polling (.ok events)) :
    Turned noReconnect thread worker (thread.goto (.handling events)) worker
  /-- the session could not be polled -/
  | pollFailed {error : UsbTransportError} (hpoint : thread.point = .polling (.error error))
    (hstopping : thread.stopping = false) :
    Turned noReconnect thread worker (thread.disconnected noReconnect (.poll error)) worker
  /-- all events have been handled -/
  | drained (hpoint : thread.point = .handling []) :
    Turned noReconnect thread worker (thread.goto .streaming) worker
  /-- an event was handled -/
  | handles {event : SessionEvent} {events : List SessionEvent} {driver : Driver}
    (hpoint : thread.point = .handling (event :: events))
    (hhandle : handleEvent thread.driver event (trySend worker) = (driver, none)) :
    Turned noReconnect thread worker (thread.handled event driver (.handling events))
      (sendFrame worker (decodeEvent thread.driver.decoder event).2)
  /-- the worker took no more frames -/
  | sinkGone {event : SessionEvent} {events : List SessionEvent} {driver : Driver}
    (hpoint : thread.point = .handling (event :: events))
    (hhandle : handleEvent thread.driver event (trySend worker) = (driver, some .sinkClosed)) :
    Turned noReconnect thread worker
      ((thread.handled event driver .streaming).leaveSession (.closing (.ok ())))
      (sendFrame worker (decodeEvent thread.driver.decoder event).2)
  /-- the session delivers no more -/
  | ended {event event' : SessionEvent} {events : List SessionEvent} {driver : Driver}
    (hpoint : thread.point = .handling (event :: events))
    (hhandle :
      handleEvent thread.driver event (trySend worker) = (driver, some (.disconnected event'))) :
    Turned noReconnect thread worker
      ((thread.handled event driver .streaming).disconnected noReconnect (.event event'))
      (sendFrame worker (decodeEvent thread.driver.decoder event).2)
  /-- the sender of the queue is dropped -/
  | drops {result : Except StreamError Unit} (hpoint : thread.point = .closing result) :
    Turned noReconnect thread worker (thread.goto (.joining result)) (dropQueue worker)
  /-- the worker is joined -/
  | joins {result : Except StreamError Unit} {sinkResult : Except OutputError Unit}
    (hpoint : thread.point = .joining result) (hexited : worker.point = .exited sinkResult) :
    Turned noReconnect thread worker (thread.goto (.returned result)) worker

/-- Every turn is one of these. -/
theorem turned {noReconnect : Bool} {thread next : Streaming} {worker worker' : OutputWorker W}
    {opened : Except UsbTransportError Unit}
    {polled : Except UsbTransportError (List SessionEvent)}
    (h : streamTurn noReconnect thread worker opened polled = some (next, worker')) :
    Turned noReconnect thread worker next worker' := by
  have hcheck := sinkCheck worker
  -- point by point, in the order in which `run_stream` looks at the signal, the sink and the camera
  rw [streamTurn] at h
  split at h
  case h_1 hpoint =>
    rw [waitForSink] at h
    split at h
    · cases h
    · rename_i hwait
      obtain ⟨rfl, rfl⟩ := Prod.mk.inj (Option.some.inj h)
      split at hwait
      · rename_i hreceive
        obtain ⟨-, rfl⟩ := Prod.mk.inj (Option.some.inj hwait)
        exact .started hpoint hreceive
      · cases hwait
      · cases hwait
      · split at hwait <;> cases hwait
    · rename_i hwait
      obtain ⟨rfl, rfl⟩ := Prod.mk.inj (Option.some.inj h)
      split at hwait
      · cases hwait
      · rename_i hreceive
        obtain ⟨herror, rfl⟩ := Prod.mk.inj (Option.some.inj hwait)
        obtain rfl := Except.error.inj herror
        exact .startFailed hpoint hreceive
      · rename_i hreceive
        obtain ⟨herror, rfl⟩ := Prod.mk.inj (Option.some.inj hwait)
        obtain rfl := Except.error.inj herror
        exact .startClosed hpoint hreceive
      · rename_i hreceive
        split at hwait
        · cases hwait
        · rename_i halive
          obtain ⟨herror, rfl⟩ := Prod.mk.inj (Option.some.inj hwait)
          obtain rfl := Except.error.inj herror
          exact .startGone hpoint hreceive (Bool.eq_false_of_not_eq_true halive)
  case h_2 hpoint =>
    split at h
    · obtain ⟨rfl, rfl⟩ := Prod.mk.inj (Option.some.inj h)
      exact .interrupted (.inl hpoint) ‹_›
    rename_i hrunning
    have hstopping := Bool.eq_false_of_not_eq_true hrunning
    split at h
    · rename_i hfound
      rw [hfound] at hcheck
      obtain ⟨rfl, rfl⟩ := Prod.mk.inj (Option.some.inj h)
      exact .sinkAtHead hpoint hcheck
    · rename_i hfound
      rw [hfound] at hcheck
      split at h <;> obtain ⟨rfl, rfl⟩ := Prod.mk.inj (Option.some.inj h)
      · exact .opened hpoint hstopping hcheck
      · exact .openFailed _ hpoint hstopping hcheck
  case h_3 deadline hpoint =>
    split at h
    · obtain ⟨rfl, rfl⟩ := Prod.mk.inj (Option.some.inj h)
      exact .waited hpoint ‹_›
    rename_i hdeadline
    split at h
    · obtain ⟨rfl, rfl⟩ := Prod.mk.inj (Option.some.inj h)
      exact .interrupted (.inr ⟨deadline, hpoint⟩) ‹_›
    rename_i hstopping
    split at h <;> rename_i hfound <;> rw [hfound] at hcheck <;>
      obtain ⟨rfl, rfl⟩ := Prod.mk.inj (Option.some.inj h)
    · exact .closedWaiting hpoint hcheck
    · exact .failedWaiting hpoint hcheck
    · exact .waits hpoint (Nat.lt_of_not_le hdeadline) (Bool.eq_false_of_not_eq_true hstopping)
        hcheck
  case h_4 hpoint =>
    split at h
    · obtain ⟨rfl, rfl⟩ := Prod.mk.inj (Option.some.inj h)
      exact .stopped (.inl hpoint) ‹_›
    rename_i hstopping
    split at h <;> rename_i hfound <;> rw [hfound] at hcheck <;>
      obtain ⟨rfl, rfl⟩ := Prod.mk.inj (Option.some.inj h)
    · exact .sinkInSession hpoint hcheck
    · exact .polls polled hpoint (Bool.eq_false_of_not_eq_true hstopping) hcheck
  case h_5 events hpoint =>
    obtain ⟨rfl, rfl⟩ := Prod.mk.inj (Option.some.inj h)
    exact .polled hpoint
  case h_6 error hpoint =>
    split at h <;> rename_i hstopping <;>
      obtain ⟨rfl, rfl⟩ := Prod.mk.inj (Option.some.inj h)
    · exact .stopped (.inr ⟨error, hpoint⟩) hstopping
    · exact .pollFailed hpoint (Bool.eq_false_of_not_eq_true hstopping)
  case h_7 hpoint =>
    obtain ⟨rfl, rfl⟩ := Prod.mk.inj (Option.some.inj h)
    exact .drained hpoint
  case h_8 event events hpoint =>
    split at h <;> rename_i hhandle <;> obtain ⟨rfl, rfl⟩ := Prod.mk.inj (Option.some.inj h)
    · exact .handles hpoint hhandle
    · exact .sinkGone hpoint hhandle
    · exact .ended hpoint hhandle
  case h_9 result hpoint =>
    obtain ⟨rfl, rfl⟩ := Prod.mk.inj (Option.some.inj h)
    exact .drops hpoint
  case h_10 result hpoint =>
    split at h
    · rename_i hexited
      obtain ⟨rfl, rfl⟩ := Prod.mk.inj (Option.some.inj h)
      exact .joins hpoint hexited
    · cases h
  case h_11 => cases h

variable {noReconnect : Bool} {thread next : Streaming} {worker worker' : OutputWorker W}

/-- What `check_sink` does to the worker is to receive a report. -/
theorem SinkCheck.clientSteps {result : Option (Except StreamError Unit)}
    (h : SinkCheck worker result worker') :
    Relation.ReflTransGen Worker.ClientStep worker worker' := by
  cases h with
  | ready hreceive => exact .single (.receive worker hreceive)
  | quiet => exact .refl
  | closed hreceive => exact .single (.receive worker hreceive)
  | failed hreceive => exact .single (.receive worker hreceive)
  | gone => exact .refl

theorem sendFrame_clientSteps (worker : OutputWorker W) (frame : Option CompressedFrame) :
    Relation.ReflTransGen Worker.ClientStep worker (sendFrame worker frame) := by
  cases frame with
  | none => exact .refl
  | some frame => exact .single (.send worker frame)

theorem dropQueue_clientSteps (worker : OutputWorker W) :
    Relation.ReflTransGen Worker.ClientStep worker (dropQueue worker) :=
  .single (.dropSender worker)

theorem Turned.clientSteps (h : Turned noReconnect thread worker next worker') :
    Relation.ReflTransGen Worker.ClientStep worker worker' := by
  cases h with
  | started hpoint hreceive => exact .single (.receive worker hreceive)
  | startFailed hpoint hreceive =>
    exact .trans (.single (.receive worker hreceive)) (dropQueue_clientSteps _)
  | startClosed hpoint hreceive =>
    exact .trans (.single (.receive worker hreceive)) (dropQueue_clientSteps _)
  | startGone => exact dropQueue_clientSteps worker
  | sinkAtHead hpoint hcheck => exact hcheck.clientSteps
  | opened hpoint hstopping hcheck => exact hcheck.clientSteps
  | openFailed error hpoint hstopping hcheck => exact hcheck.clientSteps
  | closedWaiting hpoint hcheck => exact hcheck.clientSteps
  | failedWaiting hpoint hcheck => exact hcheck.clientSteps.trans (dropQueue_clientSteps _)
  | waits hpoint hdeadline hstopping hcheck => exact hcheck.clientSteps
  | sinkInSession hpoint hcheck => exact hcheck.clientSteps
  | polls polled hpoint hstopping hcheck => exact hcheck.clientSteps
  | handles => exact sendFrame_clientSteps worker _
  | sinkGone => exact sendFrame_clientSteps worker _
  | ended => exact sendFrame_clientSteps worker _
  | drops => exact dropQueue_clientSteps worker
  | interrupted | waited | stopped | polled | pollFailed | drained | joins => exact .refl

/-- A step of the thread notes a signal, or reads the clock and takes a turn. -/
theorem streamStep_cases {input : StreamInput}
    (h : streamStep noReconnect thread worker input = some (next, worker')) :
    (input = .signal ∧ next = { thread with stopping := true } ∧ worker' = worker) ∨
      ∃ now, thread.clock ≤ now ∧
        Turned noReconnect { thread with clock := now } worker next worker' := by
  cases input with
  | signal =>
    obtain ⟨rfl, rfl⟩ := Prod.mk.inj (Option.some.inj h)
    exact .inl ⟨rfl, rfl, rfl⟩
  | turn now opened polled =>
    rw [streamStep] at h
    split at h
    · cases h
    · exact .inr ⟨now, Nat.le_of_not_lt ‹_›, turned h⟩

/-- The thread does to the worker what a client can do. -/
theorem respects_streamStep : Threads.Respects (streamStep (W := W) noReconnect) := by
  rintro thread worker input ⟨next, worker'⟩ h
  obtain ⟨-, -, rfl⟩ | ⟨now, -, hturned⟩ := streamStep_cases h
  · exact .refl
  · exact hturned.clientSteps

/-! ## The frames -/

/-- The frames of a session: what an assembler of its own makes of the events. -/
def sessionFrames (events : List SessionEvent) : List CompressedFrame :=
  (Mealy.outputs decodeEvent .new events).reduceOption

theorem sessionFrames_concat (events : List SessionEvent) (event : SessionEvent) :
    sessionFrames (events ++ [event]) =
      sessionFrames events ++
        (decodeEvent (Mealy.final decodeEvent .new events) event).2.toList := by
  rw [sessionFrames, Mealy.outputs_append, List.reduceOption_append]
  rcases hframe : (decodeEvent (Mealy.final decodeEvent .new events) event).2 with _ | frame <;>
    simp [hframe, sessionFrames]

/-- The image of an assembled frame is that of some entropy. -/
theorem decodeEvent_image {decoder : StreamDecoder} {event : SessionEvent} {frame : CompressedFrame}
    (h : (decodeEvent decoder event).2 = some frame) : ∃ entropy, frame.jpeg = jpegImage entropy := by
  cases event with
  | packet endpoint data receivedAt =>
    have hcase := StreamDecoder.pushPacket_case decoder ⟨endpoint, data⟩
    simp only [decodeEvent, feedPacket] at h
    generalize decoder.pushPacket ⟨endpoint, data⟩ = pushed at hcase h
    cases hcase with
    | emits record jpeg haccepts hcurrent hdiscard hjpeg =>
      obtain rfl := Option.some.inj h
      rw [reconstructJpeg_eq] at hjpeg
      split at hjpeg
      · cases hjpeg
      · exact ⟨trimPadding record.entropy, (Except.ok.inj hjpeg).symm⟩
    | _ => cases h
  | _ => cases h

/-- The images of a session. -/
theorem sessionFrames_images {events : List SessionEvent} {frame : CompressedFrame}
    (h : frame ∈ sessionFrames events) : ∃ entropy, frame.jpeg = jpegImage entropy := by
  induction events using List.reverseRecOn with
  | nil => cases h
  | append_singleton events event ih =>
    rw [sessionFrames_concat] at h
    obtain hpast | hlast := List.mem_append.mp h
    · exact ih hpast
    · exact decodeEvent_image (Option.mem_toList.mp hlast)

/-- Images of entropy, one after another, are read back one by one. -/
theorem readImages_frames {frames : List CompressedFrame}
    (h : ∀ frame ∈ frames, ∃ entropy, frame.jpeg = jpegImage entropy) :
    ∃ images, readImages (frames.flatMap CompressedFrame.jpeg) = some images ∧
      images.map Prod.fst = frames.map CompressedFrame.jpeg := by
  obtain ⟨entropies, hentropies⟩ : ∃ entropies : List (List UInt8),
      frames.map CompressedFrame.jpeg = entropies.map jpegImage := by
    induction frames with
    | nil => exact ⟨[], rfl⟩
    | cons frame frames ih =>
      obtain ⟨entropy, hframe⟩ := h frame List.mem_cons_self
      obtain ⟨entropies, hframes⟩ := ih fun later hlater => h later (List.mem_cons_of_mem _ hlater)
      exact ⟨entropy :: entropies, by rw [List.map_cons, List.map_cons, hframe, hframes]⟩
  refine ⟨entropies.map fun entropy => (jpegImage entropy, entropy), ?_, ?_⟩
  · rw [List.flatMap_def, hentropies, ← List.flatMap_def]
    exact Framing.readAll_flatMap (fun entropy tail _ => readImage_jpegImage entropy _)
      fun entropy _ => jpegImage_ne_nil entropy
  · rw [hentropies, List.map_map]
    rfl

theorem handleEvent_queued (driver : Driver) (event : SessionEvent) (answer : TrySend) :
    (handleEvent driver event answer).1.queued =
      driver.queued ++
        if answer = .taken then (decodeEvent driver.decoder event).2.toList else [] := by
  cases event with
  | packet endpoint data receivedAt =>
    rcases h : driver.decoder.pushPacket ⟨endpoint, data⟩ with ⟨decoder, error | _ | frame⟩
    · simp [handleEvent, decodeEvent, feedPacket, h]
    · simp [handleEvent, decodeEvent, feedPacket, h]
    · cases answer <;>
        by_cases hnominal : isNominalCameraDelta frame.timestampDeltaToNextMs <;>
        simp [handleEvent, decodeEvent, feedPacket, offerFrame, h, hnominal]
  | packetError => simp [handleEvent, decodeEvent]
  | transferFailed => simp [handleEvent, decodeEvent]
  | submitFailed => simp [handleEvent, decodeEvent]
  | callbackPanicked => simp [handleEvent, decodeEvent]

/-- A frame is in the queue exactly when `try_send` says so. -/
theorem sendFrame_accepted (hsender : worker.inbox.senderAlive = true)
    (frame : Option CompressedFrame) :
    (sendFrame worker frame).inbox.accepted =
      worker.inbox.accepted ++ if trySend worker = .taken then frame.toList else [] := by
  have haccepts : worker.inbox.accepts = true ↔ trySend worker = .taken := by
    rw [Channel.accepts, hsender, trySend, Bool.true_and]
    cases worker.inbox.receiverAlive <;> cases worker.inbox.hasRoom <;> simp
  cases frame with
  | none => simp [sendFrame]
  | some frame =>
    by_cases hroom : worker.inbox.accepts = true
    · rw [if_pos (haccepts.mp hroom)]
      exact (Channel.send_of_accepts hroom frame).2
    · rw [if_neg fun htaken => hroom (haccepts.mpr htaken), List.append_nil]
      exact congrArg Channel.accepted
        (Channel.send_of_not_accepts (Bool.eq_false_of_not_eq_true hroom) frame)

@[simp] theorem sendFrame_senderAlive (worker : OutputWorker W) (frame : Option CompressedFrame) :
    (sendFrame worker frame).inbox.senderAlive = worker.inbox.senderAlive := by
  cases frame <;> simp [sendFrame]

theorem sendFrame_failed (h : worker.Failed) (frame : Option CompressedFrame) :
    (sendFrame worker frame).Failed := by
  cases frame <;> exact h

/-- A session is open. -/
def StreamPoint.inSession : StreamPoint → Bool
  | .streaming | .polling _ | .handling _ => true
  | _ => false

/-- The queue is still fed. -/
def StreamPoint.feeds : StreamPoint → Bool
  | .joining _ | .returned _ => false
  | _ => true

/-- The frames of a stream: every session is decoded on its own, and the queue
took some of its frames, in order. -/
structure Streaming.Delivers (thread : Streaming) (worker : OutputWorker W) : Prop where
  /-- without a session there are no events of one -/
  idle : thread.point.inSession = false → thread.events = []
  /-- the assembler is that of the session -/
  decoder : thread.point.inSession = true →
    thread.driver.decoder = Mealy.final decodeEvent .new thread.events
  /-- what was assembled -/
  assembled : thread.driver.assembled =
    thread.sessions.flatMap sessionFrames ++ sessionFrames thread.events
  /-- what was queued -/
  queued : thread.driver.queued = worker.inbox.accepted
  /-- nothing was queued that was not assembled -/
  sublist : thread.driver.queued.Sublist thread.driver.assembled
  /-- the sender of the queue is kept until the end -/
  sender : worker.inbox.senderAlive = thread.point.feeds

/-- `check_sink` leaves the queue alone. -/
theorem SinkCheck.inbox {result : Option (Except StreamError Unit)}
    (h : SinkCheck worker result worker') : worker'.inbox = worker.inbox := by
  cases h <;> rfl

namespace Streaming.Delivers

/-- The frames stay what they are while the thread moves on. -/
theorem frame (h : thread.Delivers worker) (hdriver : next.driver = thread.driver)
    (hsessions : next.sessions = thread.sessions) (hevents : next.events = thread.events)
    (hsession : next.point.inSession = thread.point.inSession)
    (haccepted : worker'.inbox.accepted = worker.inbox.accepted)
    (hsender : worker'.inbox.senderAlive = next.point.feeds) : next.Delivers worker' where
  idle := by rw [hsession, hevents]; exact h.idle
  decoder := by rw [hsession, hevents, hdriver]; exact h.decoder
  assembled := by rw [hdriver, hsessions, hevents]; exact h.assembled
  queued := by rw [hdriver, haccepted]; exact h.queued
  sublist := by rw [hdriver]; exact h.sublist
  sender := hsender

/-- A session is opened with an assembler of its own. -/
theorem enterSession (h : thread.Delivers worker) (hpoint : thread.point = .head)
    (hinbox : worker'.inbox = worker.inbox) : thread.enterSession.Delivers worker' where
  idle := nofun
  decoder _ := by
    have hidle : thread.events = [] := h.idle (by rw [hpoint]; rfl)
    change StreamDecoder.new = Mealy.final decodeEvent .new thread.events
    rw [hidle]
    rfl
  assembled := h.assembled
  queued := by rw [hinbox]; exact h.queued
  sublist := h.sublist
  sender := by rw [hinbox, h.sender, hpoint]; rfl

/-- A session that is left keeps its frames. -/
theorem leaveSession (h : thread.Delivers worker) {point : StreamPoint}
    (hpoint : point.inSession = false) (hinbox : worker'.inbox = worker.inbox)
    (hfeeds : point.feeds = thread.point.feeds) :
    (thread.leaveSession point).Delivers worker' where
  idle _ := rfl
  decoder hsession := by
    change point.inSession = true at hsession
    rw [hpoint] at hsession
    cases hsession
  assembled := by
    rw [Streaming.leaveSession]
    simp only [List.flatMap_append, List.flatMap_singleton, h.assembled]
    exact (List.append_nil _).symm
  queued := by rw [hinbox]; exact h.queued
  sublist := h.sublist
  sender := by rw [hinbox, h.sender]; exact hfeeds.symm

/-- An event of the session is handled. -/
theorem handled (h : thread.Delivers worker) {event : SessionEvent} {events : List SessionEvent}
    {driver : Driver} {ended : Option SessionEnd} {point : StreamPoint}
    (hpoint : thread.point = .handling (event :: events))
    (hhandle : handleEvent thread.driver event (trySend worker) = (driver, ended))
    (hsession : point.inSession = true) (hfeeds : point.feeds = true) :
    (thread.handled event driver point).Delivers
      (sendFrame worker (decodeEvent thread.driver.decoder event).2) := by
  have hdecoder := h.decoder (by rw [hpoint]; rfl)
  obtain ⟨hnext, hassembled⟩ := handleEvent_decode thread.driver event (trySend worker)
  have hqueued := handleEvent_queued thread.driver event (trySend worker)
  have hsender : worker.inbox.senderAlive = true := by rw [h.sender, hpoint]; rfl
  rw [hhandle] at hnext hassembled hqueued
  refine ⟨fun hidle => ?_, fun _ => ?_, ?_, ?_, ?_, ?_⟩
  · change point.inSession = false at hidle
    rw [hsession] at hidle
    cases hidle
  · change driver.decoder = Mealy.final decodeEvent .new (thread.events ++ [event])
    rw [hnext, Mealy.final_append, ← hdecoder]
    rfl
  · change driver.assembled =
      thread.sessions.flatMap sessionFrames ++ sessionFrames (thread.events ++ [event])
    rw [hassembled, h.assembled, sessionFrames_concat, ← hdecoder, List.append_assoc]
  · change driver.queued = _
    rw [hqueued, sendFrame_accepted hsender, h.queued]
  · change driver.queued.Sublist driver.assembled
    rw [hqueued, hassembled]
    refine h.sublist.append ?_
    split
    · exact List.Sublist.refl _
    · exact List.nil_sublist _
  · rw [sendFrame_senderAlive, hsender]
    exact hfeeds.symm

/-- A turn keeps the frames in order. -/
theorem turned (h : thread.Delivers worker) (hturned : Turned noReconnect thread worker next worker') :
    next.Delivers worker' := by
  have hsender := h.sender
  -- only three turns touch the frames: a session begins, an event is handled, a session ends
  cases hturned with
  | started hpoint hreceive => exact h.frame rfl rfl rfl (by rw [hpoint]; rfl) rfl (by rw [hsender, hpoint]; rfl)
  | startFailed hpoint | startClosed hpoint | startGone hpoint =>
    exact h.frame rfl rfl rfl (by rw [hpoint]; rfl) rfl rfl
  | interrupted hpoint =>
    obtain hpoint | ⟨deadline, hpoint⟩ := hpoint
    · exact h.frame rfl rfl rfl (by rw [hpoint]; rfl) rfl (by rw [hsender, hpoint]; rfl)
    · exact h.frame rfl rfl rfl (by rw [hpoint]; rfl) rfl (by rw [hsender, hpoint]; rfl)
  | sinkAtHead hpoint hcheck =>
    exact h.frame rfl rfl rfl (by rw [hpoint]; rfl) (by rw [hcheck.inbox])
      (by rw [hcheck.inbox, hsender, hpoint]; rfl)
  | opened hpoint hstopping hcheck => exact h.enterSession hpoint hcheck.inbox
  | openFailed error hpoint hstopping hcheck =>
    refine h.frame rfl rfl rfl ?_ (by rw [hcheck.inbox]) ?_
    · rw [hpoint, Streaming.failOpen]
      dsimp only
      split <;> rfl
    · rw [hcheck.inbox, hsender, hpoint, Streaming.failOpen]
      dsimp only
      split <;> rfl
  | waited hpoint =>
    exact h.frame rfl rfl rfl (by rw [hpoint]; rfl) rfl (by rw [hsender, hpoint]; rfl)
  | closedWaiting hpoint hcheck =>
    exact h.frame rfl rfl rfl (by rw [hpoint]; rfl) (by rw [hcheck.inbox])
      (by rw [hcheck.inbox, hsender, hpoint]; rfl)
  | failedWaiting hpoint hcheck =>
    exact h.frame rfl rfl rfl (by rw [hpoint]; rfl)
      (congrArg (fun inbox => inbox.dropSender.accepted) hcheck.inbox) rfl
  | waits hpoint hdeadline hstopping hcheck =>
    exact h.frame rfl rfl rfl rfl (by rw [hcheck.inbox]) (by rw [hcheck.inbox, hsender])
  | stopped hpoint =>
    obtain hpoint | ⟨error, hpoint⟩ := hpoint
    · exact h.leaveSession rfl rfl (by rw [hpoint]; rfl)
    · exact h.leaveSession rfl rfl (by rw [hpoint]; rfl)
  | sinkInSession hpoint hcheck => exact h.leaveSession rfl hcheck.inbox (by rw [hpoint]; rfl)
  | polls polled hpoint hstopping hcheck =>
    exact h.frame rfl rfl rfl (by rw [hpoint]; rfl) (by rw [hcheck.inbox])
      (by rw [hcheck.inbox, hsender, hpoint]; rfl)
  | polled hpoint =>
    exact h.frame rfl rfl rfl (by rw [hpoint]; rfl) rfl (by rw [hsender, hpoint]; rfl)
  | pollFailed hpoint =>
    refine h.leaveSession ?_ rfl ?_
    · split <;> rfl
    · rw [hpoint]
      split <;> rfl
  | drained hpoint =>
    exact h.frame rfl rfl rfl (by rw [hpoint]; rfl) rfl (by rw [hsender, hpoint]; rfl)
  | handles hpoint hhandle => exact h.handled hpoint hhandle rfl rfl
  | @sinkGone event events driver hpoint hhandle =>
    have hhandled : (thread.handled event driver .streaming).Delivers _ :=
      h.handled hpoint hhandle rfl rfl
    exact hhandled.leaveSession rfl rfl rfl
  | @ended event event' events driver hpoint hhandle =>
    have hhandled : (thread.handled event driver .streaming).Delivers _ :=
      h.handled hpoint hhandle rfl rfl
    refine hhandled.leaveSession ?_ rfl ?_
    · split <;> rfl
    · split <;> rfl
  | drops hpoint => exact h.frame rfl rfl rfl (by rw [hpoint]; rfl) rfl rfl
  | joins hpoint =>
    exact h.frame rfl rfl rfl (by rw [hpoint]; rfl) rfl (by rw [hsender, hpoint]; rfl)

end Streaming.Delivers

/-! ## The result -/

section Result

variable {output : Output W} {world : W}

/-- What a result says: a signal came or the worker failed, it reported that it
failed, it ended before it was ready, the camera could not be opened, or it was
lost. -/
def Streaming.Explained (noReconnect : Bool) (thread : Streaming) (worker : OutputWorker W) :
    Except StreamError Unit → Prop
  | .ok () => thread.stopping = true ∨ worker.Failed
  | .error (.sink error) => .failed error ∈ worker.statuses.received
  | .error .sinkStopped => worker.statuses.received = [.closed]
  | .error (.usb error) =>
    (shouldRetryOpen error && !noReconnect) = false ∧
      ∃ time, thread.opens.getLast? = some ⟨time, some error⟩
  | .error (.disconnected _) => noReconnect = true

/-- What the thread knows of the worker, by where it is. -/
def Streaming.Informed (noReconnect : Bool) (thread : Streaming) (worker : OutputWorker W) : Prop :=
  match thread.point with
  | .awaitingSink => worker.statuses.received = []
  | .head | .waiting _ | .streaming | .polling _ | .handling _ =>
    worker.statuses.received = [.ready]
  | .closing result | .joining result | .returned result =>
    thread.Explained noReconnect worker result

/-- A worker reports an end only after it has dropped the queue. -/
theorem receiverAlive_of_report (hvalid : worker.Valid output.service world)
    {status : OutputStatus} (hreport : status ∈ worker.statuses.received)
    (hready : status ≠ .ready) : worker.inbox.receiverAlive = false := by
  have hmem : status ∈ worker.statuses.accepted := worker.statuses.taken.subset hreport
  obtain hone | ⟨result, hpoint, -⟩ := reports_cases hvalid
  · exact absurd (List.mem_singleton.mp (hone.subset hmem)) hready
  · exact (ended_of_reported hvalid hpoint).1

/-- A worker says only once that it is ready. -/
theorem not_ready_twice (hvalid : worker.Valid output.service world) :
    worker.statuses.received ≠ [.ready, .ready] := by
  intro htwice
  have htaken := worker.statuses.taken
  rw [htwice] at htaken
  obtain hready | ⟨result, -, htwo | ⟨hone, -⟩⟩ := reports_cases hvalid
  · have hlength := (htaken.trans hready).length_le
    simp at hlength
  · rw [htwo] at htaken
    have hlast := htaken.eq_of_length rfl
    simp only [List.cons.injEq, true_and, and_true] at hlast
    exact lastStatus_ne_ready result hlast.symm
  · rw [hone] at htaken
    have hlength := htaken.length_le
    simp at hlength

/-- A worker that is gone has reported more than that it was ready. -/
theorem buffer_ne_nil_of_gone (hvalid : worker.Valid output.service world)
    (halive : worker.statuses.senderAlive = false)
    (hreceived : worker.statuses.received <+: [.ready]) : worker.statuses.buffer ≠ [] := by
  intro hbuffer
  have hall := Channel.received_eq hvalid.reporting.1 hbuffer
  have hexited : ∃ result, worker.point = .exited result := by
    by_contra hnot
    rw [hvalid.reporter.mpr fun result hpoint => hnot ⟨result, hpoint⟩] at halive
    cases halive
  obtain ⟨result, hpoint⟩ := hexited
  have hstatuses := hvalid.statuses
  rw [hpoint, ← hall] at hstatuses
  have hmem : lastStatus result ∈ worker.statuses.received := by
    rw [hstatuses]
    exact List.mem_append_right _ (List.mem_singleton_self _)
  have hready := hreceived.subset hmem
  simp only [List.mem_singleton] at hready
  exact lastStatus_ne_ready result hready

/-- What `check_sink` finds of a worker that was ready. -/
theorem SinkCheck.informed (noReconnect : Bool) {result : Option (Except StreamError Unit)}
    (h : SinkCheck worker result worker') (hvalid : worker.Valid output.service world)
    (hsender : worker.inbox.senderAlive = true)
    (hreceived : worker.statuses.received = [.ready]) :
    match result with
    | none => worker'.statuses.received = [.ready]
    | some result => ∀ next : Streaming, next.Explained noReconnect worker' result := by
  have hvalid' := Threads.valid_clientSteps hvalid h.clientSteps
  cases h with
  | @ready statuses hreceive =>
    obtain ⟨-, hnext, -⟩ := Channel.receive_eq_some hreceive
    rw [hreceived] at hnext
    exact absurd hnext (not_ready_twice hvalid')
  | quiet => exact hreceived
  | @closed statuses hreceive =>
    obtain ⟨-, hnext, -⟩ := Channel.receive_eq_some hreceive
    have hclosed : OutputStatus.closed ∈ statuses.received := by
      rw [hnext]
      simp
    exact fun next => .inr (hvalid'.failed (receiverAlive_of_report hvalid' hclosed nofun) hsender)
  | @failed error statuses hreceive =>
    obtain ⟨-, hnext, -⟩ := Channel.receive_eq_some hreceive
    intro next
    change OutputStatus.failed error ∈ statuses.received
    rw [hnext]
    simp
  | gone hreceive halive =>
    have hbuffer := Channel.receive_eq_none.mp hreceive
    exact absurd hbuffer (buffer_ne_nil_of_gone hvalid halive (by rw [hreceived]))

/-- A worker that reported a failure has failed with it. -/
theorem failed_of_received (hvalid : worker.Valid output.service world) {error : OutputError}
    (hfailed : .failed error ∈ worker.statuses.received) :
    error ≠ .io .brokenPipe ∧
      outcome ((output.service.program worker.inbox.received).run world) =
        (.error error, worker.world) := by
  have hmem := worker.statuses.taken.subset hfailed
  obtain hready | ⟨result, hpoint, hreports⟩ := reports_cases hvalid
  · have hone := hready.subset hmem
    simp at hone
  · have hlast : lastStatus result = .failed error := by
      obtain hreports | ⟨hreports, -⟩ := hreports <;> rw [hreports] at hmem <;> simp at hmem <;>
        exact hmem.symm
    obtain ⟨rfl, hpipe⟩ := lastStatus_eq_failed.mp hlast
    exact ⟨hpipe, (ended_of_reported hvalid hpoint).2⟩

/-- A worker whose only report is that it is closed could not start. -/
theorem refused_of_closed (hvalid : worker.Valid output.service world)
    (hclosed : worker.statuses.received = [.closed]) :
    ∃ after, output.start.run world = .error (.io .brokenPipe) after := by
  obtain ⟨rest, hrest⟩ := worker.statuses.taken
  rw [hclosed, List.singleton_append] at hrest
  obtain hready | ⟨result, hpoint, hreports | ⟨hreports, error, after, hstart⟩⟩ :=
    reports_cases hvalid
  · have hone := hready.subset (hrest ▸ List.mem_cons_self)
    simp at hone
  · rw [hreports] at hrest
    cases (List.cons.inj hrest).1
  · rw [hreports] at hrest
    have hlast : lastStatus result = .closed := (List.cons.inj hrest).1.symm
    obtain ⟨-, hprogram⟩ := ended_of_reported hvalid hpoint
    rw [Service.run_program_refused hstart] at hprogram
    obtain ⟨rfl, rfl⟩ := Prod.mk.inj hprogram
    obtain hok | hbroken := lastStatus_eq_closed.mp hlast
    · cases hok
    · obtain rfl := Except.error.inj hbroken
      exact ⟨_, hstart⟩

theorem trySend_disconnected (h : trySend worker = .disconnected) :
    worker.inbox.receiverAlive = false := by
  rw [trySend] at h
  split at h
  · split at h <;> cases h
  · exact Bool.eq_false_of_not_eq_true ‹_›

/-- The sink is found closed only when `try_send` says so. -/
theorem handleEvent_sinkClosed {driver driver' : Driver} {event : SessionEvent} {answer : TrySend}
    (h : handleEvent driver event answer = (driver', some .sinkClosed)) :
    answer = .disconnected := by
  by_contra hanswer
  rcases hends : event.endsSession with _ | _
  · have hnone := handleEvent_continues driver hends hanswer
    rw [h] at hnone
    cases hnone
  · cases event with
    | packet => cases hends
    | packetError => cases hends
    | transferFailed => cases h
    | submitFailed => cases h
    | callbackPanicked => cases h

/-- What a result says stays true. -/
theorem Streaming.Explained.mono {result : Except StreamError Unit}
    (h : thread.Explained noReconnect worker result)
    (hstopping : thread.stopping = true → next.stopping = true) (hopens : next.opens = thread.opens)
    (hreceived : worker'.statuses.received = worker.statuses.received)
    (hfailed : worker.Failed → worker'.Failed) :
    next.Explained noReconnect worker' result := by
  rcases result with (error | reason | _ | error) | ⟨⟩
  · change .failed error ∈ worker'.statuses.received
    rw [hreceived]
    exact h
  · exact h
  · exact hreceived.trans h
  · change _ ∧ ∃ time, next.opens.getLast? = some ⟨time, some error⟩
    rw [hopens]
    exact h
  · exact h.imp hstopping hfailed

/-- What the thread knows stays true while it stays where it is. -/
theorem Streaming.Informed.mono (h : thread.Informed noReconnect worker)
    (hpoint : next.point = thread.point) (hstopping : thread.stopping = true → next.stopping = true)
    (hopens : next.opens = thread.opens)
    (hreceived : worker'.statuses.received = worker.statuses.received)
    (hfailed : worker.Failed → worker'.Failed) :
    next.Informed noReconnect worker' := by
  rw [Informed] at h ⊢
  rw [hpoint]
  cases hthread : thread.point <;> simp only [hthread] at h ⊢
  case closing | joining | returned => exact h.mono hstopping hopens hreceived hfailed
  all_goals exact hreceived.trans h

theorem handled_informed (h : worker.statuses.received = [.ready])
    (frame : Option CompressedFrame) : (sendFrame worker frame).statuses.received = [.ready] := by
  cases frame <;> exact h

theorem Streaming.informed_disconnected (h : worker.statuses.received = [.ready])
    {reason : Disconnection} : (thread.disconnected noReconnect reason).Informed noReconnect worker := by
  cases noReconnect
  · exact h
  · rfl

/-- A turn keeps the thread informed. -/
theorem Streaming.Informed.turned (hvalid : worker.Valid output.service world)
    (hdelivers : thread.Delivers worker) (h : thread.Informed noReconnect worker)
    (hturned : Turned noReconnect thread worker next worker') :
    next.Informed noReconnect worker' := by
  have hfed := hdelivers.sender
  rw [Informed] at h
  cases hturned with
  | @started statuses hpoint hreceive =>
    rw [hpoint] at h hfed
    obtain ⟨-, hreceived, -⟩ := Channel.receive_eq_some hreceive
    change statuses.received = [.ready]
    rw [hreceived, show worker.statuses.received = [] from h]
    rfl
  | @startFailed error statuses hpoint hreceive =>
    obtain ⟨-, hreceived, -⟩ := Channel.receive_eq_some hreceive
    change OutputStatus.failed error ∈ statuses.received
    rw [hreceived]
    simp
  | @startClosed statuses hpoint hreceive =>
    rw [hpoint] at h hfed
    obtain ⟨-, hreceived, -⟩ := Channel.receive_eq_some hreceive
    change statuses.received = [.closed]
    rw [hreceived, show worker.statuses.received = [] from h]
    rfl
  | startGone hpoint hreceive halive =>
    rw [hpoint] at h hfed
    have hbuffer := Channel.receive_eq_none.mp hreceive
    -- a worker that is gone has reported, and nothing of it was read
    refine absurd hbuffer (buffer_ne_nil_of_gone hvalid halive ?_)
    rw [show worker.statuses.received = [] from h]
    exact List.nil_prefix
  | interrupted hpoint hstopping => exact .inl hstopping
  | sinkAtHead hpoint hcheck =>
    rw [hpoint] at h hfed
    exact hcheck.informed noReconnect hvalid hfed h _
  | opened hpoint hstopping hcheck =>
    rw [hpoint] at h hfed
    exact hcheck.informed noReconnect hvalid hfed h
  | openFailed error hpoint hstopping hcheck =>
    rw [hpoint] at h hfed
    have hready := hcheck.informed noReconnect hvalid hfed h
    rw [Informed]
    rcases hretry : shouldRetryOpen error && !noReconnect with _ | _
    · rw [failOpen_final hretry]
      exact ⟨hretry, thread.clock, List.getLast?_concat⟩
    · rw [failOpen_retry hretry]
      exact hready
  | waited hpoint =>
    rw [hpoint] at h hfed
    exact h
  | closedWaiting hpoint hcheck =>
    rw [hpoint] at h hfed
    exact hcheck.informed noReconnect hvalid hfed h _
  | failedWaiting hpoint hcheck =>
    rw [hpoint] at h hfed
    exact (hcheck.informed noReconnect hvalid hfed h thread).mono id rfl rfl id
  | waits hpoint hdeadline hstopping hcheck =>
    rw [hpoint] at h hfed
    have hready := hcheck.informed noReconnect hvalid hfed h
    rw [Informed]
    rw [hpoint]
    exact hready
  | stopped hpoint hstopping => exact .inl hstopping
  | sinkInSession hpoint hcheck =>
    rw [hpoint] at h hfed
    exact hcheck.informed noReconnect hvalid hfed h _
  | polls polled hpoint hstopping hcheck =>
    rw [hpoint] at h hfed
    exact hcheck.informed noReconnect hvalid hfed h
  | polled hpoint =>
    rw [hpoint] at h hfed
    exact h
  | pollFailed hpoint =>
    rw [hpoint] at h hfed
    exact informed_disconnected h
  | drained hpoint =>
    rw [hpoint] at h hfed
    exact h
  | handles hpoint =>
    rw [hpoint] at h hfed
    exact handled_informed h _
  | sinkGone hpoint hhandle =>
    rw [hpoint] at hfed
    -- the queue is fed, so a worker that no longer listens has failed
    have hgone := trySend_disconnected (handleEvent_sinkClosed hhandle)
    have hfailed : worker.Failed := hvalid.failed hgone hfed
    exact .inr (sendFrame_failed hfailed _)
  | ended hpoint =>
    rw [hpoint] at h hfed
    exact informed_disconnected (handled_informed h _)
  | drops hpoint =>
    rw [hpoint] at h hfed
    exact h.mono id rfl rfl id
  | joins hpoint =>
    rw [hpoint] at h hfed
    exact h

/-- `run_stream` returns when the worker has ended, or with what ended it. -/
def Streaming.Joined (thread : Streaming) (worker : OutputWorker W) : Prop :=
  ∀ result, thread.point = .returned result →
    (∃ sinkResult, worker.point = .exited sinkResult) ∨
      (∃ error, result = .error (.sink error)) ∨ result = .error .sinkStopped

theorem SinkCheck.error {error : StreamError} (h : SinkCheck worker (some (.error error)) worker') :
    (∃ failure, error = .sink failure) ∨ error = .sinkStopped := by
  cases h with
  | failed => exact .inl ⟨_, rfl⟩
  | gone => exact .inr rfl

theorem Turned.joined (hturned : Turned noReconnect thread worker next worker') :
    next.Joined worker' := by
  intro result hreturned
  cases hturned with
  | @startFailed error statuses hpoint =>
    obtain rfl := StreamPoint.returned.inj hreturned
    exact .inr (.inl ⟨error, rfl⟩)
  | startClosed | startGone =>
    obtain rfl := StreamPoint.returned.inj hreturned
    exact .inr (.inr rfl)
  | openFailed error =>
    rcases hretry : shouldRetryOpen error && !noReconnect with _ | _
    · rw [Streaming.failOpen_final hretry] at hreturned
      cases hreturned
    · rw [Streaming.failOpen_retry hretry] at hreturned
      cases hreturned
  | failedWaiting hpoint hcheck =>
    obtain rfl := StreamPoint.returned.inj hreturned
    obtain ⟨failure, rfl⟩ | rfl := hcheck.error
    · exact .inr (.inl ⟨failure, rfl⟩)
    · exact .inr (.inr rfl)
  | waits hpoint =>
    rw [hpoint] at hreturned
    cases hreturned
  | pollFailed => cases noReconnect <;> cases hreturned
  | ended => cases noReconnect <;> cases hreturned
  | @joins result sinkResult hpoint hexited => exact .inl ⟨sinkResult, hexited⟩
  | _ => cases hreturned

end Result

end Turns

/-! ## Both threads -/

/-- The thread of `run_stream` and its output worker. -/
abbrev StreamThreads (W : Type) : Type :=
  Threads Streaming CompressedFrame OutputError OutputStatus W

/-- How `run_stream` begins: the worker is spawned, with a queue for one frame. -/
def startStream {W : Type} (world : W) (now : Instant) : StreamThreads W :=
  ⟨.start now, .spawn (some 1) world⟩

/-- The threads after some steps, interleaved in any way. -/
def runStream {W : Type} (output : Output W) (noReconnect : Bool) (threads : StreamThreads W)
    (actions : List (Threads.Action StreamInput)) : Option (StreamThreads W) :=
  Guarded.run (Threads.step output.service (streamStep noReconnect)) threads actions

section Runs

variable {W : Type} {output : Output W} {noReconnect : Bool} {world : W} {now : Instant}
  {threads next : StreamThreads W} {actions : List (Threads.Action StreamInput)}

/-- What holds in every state of a stream. -/
structure Sound (output : Output W) (noReconnect : Bool) (world : W) (threads : StreamThreads W) :
    Prop where
  /-- the worker runs its program -/
  worker : threads.worker.Valid output.service world
  /-- the frames are in order -/
  delivers : threads.client.Delivers threads.worker
  /-- the thread knows what the worker reported -/
  informed : threads.client.Informed noReconnect threads.worker
  /-- the worker is joined -/
  joined : threads.client.Joined threads.worker

theorem sound_start : Sound output noReconnect world (startStream world now) where
  worker := Worker.valid_spawn output.service (some 1) world
  delivers := ⟨fun _ => rfl, nofun, rfl, rfl, List.Sublist.refl _, rfl⟩
  informed := rfl
  joined := nofun

/-- A step of either thread keeps what holds. -/
theorem Sound.step {action : Threads.Action StreamInput}
    (h : Sound output noReconnect world threads)
    (hstep : threads.step output.service (streamStep noReconnect) action = some next) :
    Sound output noReconnect world next := by
  cases action with
  | client input =>
    obtain ⟨⟨thread, worker⟩, hclient, rfl⟩ := Option.map_eq_some_iff.mp hstep
    obtain ⟨-, rfl, rfl⟩ | ⟨now, -, hturned⟩ := streamStep_cases hclient
    · exact ⟨h.worker, h.delivers.frame rfl rfl rfl rfl rfl h.delivers.sender,
        h.informed.mono rfl (fun _ => rfl) rfl rfl id, h.joined⟩
    · have hdelivers : Streaming.Delivers { threads.client with clock := now } threads.worker :=
        h.delivers.frame rfl rfl rfl rfl rfl h.delivers.sender
      have hinformed : Streaming.Informed noReconnect { threads.client with clock := now }
          threads.worker := h.informed.mono rfl id rfl rfl id
      exact ⟨Threads.valid_clientSteps h.worker hturned.clientSteps, hdelivers.turned hturned,
        hinformed.turned h.worker hdelivers hturned,
        hturned.joined⟩
  | worker =>
    obtain ⟨worker, hworker, rfl⟩ := Option.map_eq_some_iff.mp hstep
    obtain ⟨haccepted, hsender, -, hreceived⟩ := Worker.step_frame hworker
    refine ⟨h.worker.step hworker,
      h.delivers.frame rfl rfl rfl rfl haccepted (hsender.trans h.delivers.sender),
      h.informed.mono rfl id rfl hreceived fun hfailed => hfailed.step hworker, ?_⟩
    intro result hreturned
    obtain ⟨sinkResult, hexited⟩ | hearly := h.joined result hreturned
    · rw [Worker.step, hexited] at hworker
      cases hworker
    · exact .inr hearly

theorem sound_run (hrun : runStream output noReconnect (startStream world now) actions = some next) :
    Sound output noReconnect world next :=
  Guarded.run_invariant (fun _ _ _ h hstep => h.step hstep) sound_start hrun

/-- What a result of `run_stream` means. -/
def Meaning (output : Output W) (noReconnect : Bool) (world : W) (threads : StreamThreads W) :
    Except StreamError Unit → Prop
  | .ok () => threads.client.stopping = true ∨ ∃ error, threads.worker.point = .exited (.error error)
  | .error (.sink error) => error ≠ .io .brokenPipe ∧
    outcome ((output.service.program threads.worker.inbox.received).run world) =
      (.error error, threads.worker.world)
  | .error .sinkStopped => ∃ after, output.start.run world = .error (.io .brokenPipe) after
  | .error (.usb error) => (noReconnect = true ∨ shouldRetryOpen error = false) ∧
    ∃ time, threads.client.opens.getLast? = some ⟨time, some error⟩
  | .error (.disconnected _) => noReconnect = true

/-- **What a result means.** Whatever the output, the camera and the clock do,
and however the threads interleave, when `run_stream` has returned: without an
error, a signal came, or the worker ended with an error of its own; with the
error of a sink, this is the error of the worker's program on the frames it
received, and no closed pipe; as stopped, the worker's pipe was closed before it
was ready; with an error of the camera, opening it again was not allowed, or of
no use. Unless the worker had failed, it has ended. -/
theorem runStream_meaning {result : Except StreamError Unit}
    (hrun : runStream output noReconnect (startStream world now) actions = some next)
    (hreturned : next.client.point = .returned result) :
    Meaning output noReconnect world next result ∧
      ((∃ sinkResult, next.worker.point = .exited sinkResult) ∨
        (∃ error, result = .error (.sink error)) ∨ result = .error .sinkStopped) := by
  have h := sound_run hrun
  have hjoined := h.joined result hreturned
  refine ⟨?_, hjoined⟩
  have hinformed := h.informed
  rw [Streaming.Informed] at hinformed
  rw [hreturned] at hinformed
  rcases result with (error | reason | _ | error) | ⟨⟩
  · exact failed_of_received h.worker hinformed
  · exact hinformed
  · exact refused_of_closed h.worker hinformed
  · obtain ⟨hretry, hlast⟩ := hinformed
    refine ⟨?_, hlast⟩
    cases noReconnect
    · right
      simpa using hretry
    · exact .inl rfl
  · obtain hstopping | ⟨error, hfailed⟩ := hinformed
    · exact .inl hstopping
    · obtain ⟨sinkResult, hexited⟩ | ⟨error, herror⟩ | herror := hjoined
      · rw [hexited] at hfailed
        obtain hfailed | hfailed | hfailed := hfailed
        · cases hfailed
        · cases hfailed
        · exact .inr ⟨error, by rw [hexited, hfailed]⟩
      · cases herror
      · cases herror

/-- The frames of a stream, in every state. -/
theorem runStream_frames
    (hrun : runStream output noReconnect (startStream world now) actions = some next) :
    next.client.driver.assembled =
        next.client.sessions.flatMap sessionFrames ++ sessionFrames next.client.events ∧
      next.client.driver.queued.Sublist next.client.driver.assembled ∧
      next.worker.inbox.received <+: next.client.driver.queued := by
  have h := sound_run hrun
  refine ⟨h.delivers.assembled, h.delivers.sublist, ?_⟩
  rw [h.delivers.queued]
  exact next.worker.inbox.taken

/-- **What a stream writes.** At any time, and however the two threads
interleave, the standard output is a series of complete images, those of the
first frames that the queue took. The queue took some of the frames assembled,
in order, and these are the frames that an assembler of its own makes of each
session. When `run_stream` has returned, every frame that the queue took has
been written. -/
theorem runStream_stdout {decoder : JpegDecoder} {next : StreamThreads Vec}
    (hrun : runStream (stdoutOutput decoder .mjpeg) noReconnect (startStream [] now) actions =
      some next) :
    ∃ written, next.worker.world = written.flatMap CompressedFrame.jpeg ∧
      (∃ images, readImages next.worker.world = some images ∧
        images.map Prod.fst = written.map CompressedFrame.jpeg) ∧
      written <+: next.client.driver.queued ∧
      next.client.driver.queued.Sublist next.client.driver.assembled ∧
      next.client.driver.assembled =
        next.client.sessions.flatMap sessionFrames ++ sessionFrames next.client.events ∧
      ∀ result, next.client.point = .returned result → written = next.client.driver.queued := by
  have h := sound_run hrun
  obtain ⟨hassembled, hsublist, hreceived⟩ := runStream_frames hrun
  have hholds := h.worker.holds (stdoutOutput_rule decoder)
  have himages : ∀ written, written <+: next.client.driver.queued →
      ∃ images, readImages (written.flatMap CompressedFrame.jpeg) = some images ∧
        images.map Prod.fst = written.map CompressedFrame.jpeg := by
    intro written hwritten
    refine readImages_frames fun frame hframe => ?_
    have hmem := hsublist.subset (hwritten.subset hframe)
    rw [hassembled] at hmem
    obtain hpast | hopen := List.mem_append.mp hmem
    · obtain ⟨events, -, hevents⟩ := List.mem_flatMap.mp hpast
      exact sessionFrames_images hevents
    · exact sessionFrames_images hopen
  suffices ∃ written, next.worker.world = written.flatMap CompressedFrame.jpeg ∧
      written <+: next.client.driver.queued ∧
      ∀ result, next.client.point = .returned result → written = next.client.driver.queued by
    obtain ⟨written, hworld, hwritten, hreturned⟩ := this
    exact ⟨written, hworld, hworld ▸ himages written hwritten, hwritten, hsublist, hassembled,
      hreturned⟩
  -- a worker that cannot fail is joined, and has written everything by then
  have hexited : ∀ result, next.client.point = .returned result →
      ∃ sinkResult, next.worker.point = .exited sinkResult := by
    intro result hreturned
    have hinformed := h.informed
    rw [Streaming.Informed] at hinformed
    rw [hreturned] at hinformed
    obtain hexited | ⟨error, rfl⟩ | rfl := h.joined result hreturned
    · exact hexited
    · cases ((stdoutOutput_rule decoder).program (failed_of_received h.worker hinformed).2).1
    · obtain ⟨after, hstart⟩ := refused_of_closed h.worker hinformed
      cases hstart
  rcases hpoint : next.worker.point with _ | _ | message | _ | result | result | result <;>
    rw [hpoint] at hexited <;> simp only [hpoint] at hholds
  · refine ⟨[], hholds.2, List.nil_prefix, fun result hreturned => ?_⟩
    cases (hexited result hreturned).choose_spec
  · refine ⟨_, hholds, hreceived, fun result hreturned => ?_⟩
    cases (hexited result hreturned).choose_spec
  · obtain ⟨messages, hmessages, hworld⟩ := hholds
    rw [hmessages] at hreceived
    refine ⟨messages, hworld, (List.prefix_append _ _).trans hreceived, fun result hreturned => ?_⟩
    cases (hexited result hreturned).choose_spec
  · refine ⟨_, hholds, hreceived, fun result hreturned => ?_⟩
    cases (hexited result hreturned).choose_spec
  · refine ⟨_, hholds.2, hreceived, fun result hreturned => ?_⟩
    cases (hexited result hreturned).choose_spec
  · refine ⟨_, hholds.2, hreceived, fun result hreturned => ?_⟩
    cases (hexited result hreturned).choose_spec
  · refine ⟨_, hholds.2, hreceived, fun _ _ => ?_⟩
    have hran := h.worker.ran
    simp only [Worker.Ran, hpoint] at hran
    rw [(hran.2 hholds.1).2, h.delivers.queued]

end Runs

/-- `run_stream` has returned without an error. -/
def StreamPoint.succeeded : StreamPoint → Bool
  | .returned (.ok _) => true
  | _ => false

theorem StreamPoint.succeeded_iff {point : StreamPoint} :
    point.succeeded = true ↔ point = .returned (.ok ()) := by
  rcases point with _ | _ | _ | _ | _ | _ | _ | _ | (_ | _) <;> simp [succeeded]

/-- A turn in which the camera can be opened, and events can be polled. -/
def sampleTurn (events : List SessionEvent) : Threads.Action StreamInput :=
  .client (.turn 0 (.ok ()) (.ok events))

/-- A stream of one session, until a signal comes. -/
def sampleStream : List (Threads.Action StreamInput) :=
  .worker :: List.replicate 12 (sampleTurn (failedEarly.flatMap IsoCompletion.events)) ++
    [.worker, .worker, .client .signal] ++ List.replicate 2 (sampleTurn []) ++
    List.replicate 4 .worker ++ [sampleTurn []]

/-- The sample returns, after one frame. -/
theorem sampleStream_returns :
    ∃ next, runStream (stdoutOutput noDecoder .mjpeg) false (startStream ([] : Vec) 0) sampleStream =
        some next ∧ next.client.point = .returned (.ok ()) ∧
      next.client.driver.queued.length = 1 := by
  have hany : ((runStream (stdoutOutput noDecoder .mjpeg) false (startStream ([] : Vec) 0)
      sampleStream).any fun next =>
        next.client.point.succeeded && next.client.driver.queued.length == 1) = true := by
    decide +kernel
  obtain ⟨next, hrun, hnext⟩ := Option.any_eq_true _ _ |>.mp hany
  obtain ⟨hpoint, hlength⟩ := Bool.and_eq_true_iff.mp hnext
  exact ⟨next, hrun, StreamPoint.succeeded_iff.mp hpoint, by simpa using hlength⟩

theorem runStream_stdout_sampleStream :
    ∃ (next : StreamThreads Vec) (written : List CompressedFrame), written.length = 1 ∧
      next.worker.world = written.flatMap CompressedFrame.jpeg := by
  obtain ⟨next, hrun, hreturned, hlength⟩ := sampleStream_returns
  obtain ⟨written, hworld, -, -, -, -, hall⟩ := runStream_stdout hrun
  exact ⟨next, written, by rw [hall _ hreturned, hlength], hworld⟩

theorem runStream_meaning_sampleStream :
    ∃ next : StreamThreads Vec,
      Meaning (stdoutOutput noDecoder .mjpeg) false [] next (.ok ()) := by
  obtain ⟨next, hrun, hreturned, -⟩ := sampleStream_returns
  exact ⟨next, (runStream_meaning hrun hreturned).1⟩

end Handycam
