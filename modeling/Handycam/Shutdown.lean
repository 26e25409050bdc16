import Handycam.Streaming

/-!
# A stream ends

`run_stream` ends when a signal comes, and nothing keeps it from ending: not the
output worker, which may be waiting for frames or in the middle of one, and not
the camera, which may be away.

* **no deadlock** — `runStream_progress`: until `run_stream` has returned, one
  of the threads can take a step, whatever the clock says;
* **an end** — `runStream_shutdown`: after a signal there are only so many steps
  left, and when no more can be taken `run_stream` has returned.
-/

namespace Handycam

/-- How many turns a thread that was signalled has left. -/
def StreamPoint.stepsLeft : StreamPoint → ℕ
  | .returned _ => 0
  | .joining _ => 1
  | .closing _ => 2
  | .head | .streaming => 3
  | .awaitingSink | .waiting _ => 4
  | .handling events => 3 * events.length + 4
  | .polling (.ok events) => 3 * events.length + 5
  | .polling (.error _) => 4

section Measure

variable {W : Type} {noReconnect : Bool} {thread next : Streaming} {worker worker' : OutputWorker W}

theorem SinkCheck.stepsLeft {result : Option (Except StreamError Unit)}
    (h : SinkCheck worker result worker') : worker'.stepsLeft = worker.stepsLeft := by
  cases h <;> rfl

/-- A frame in the queue costs the worker two steps. -/
theorem stepsLeft_sendFrame (worker : OutputWorker W) (frame : Option CompressedFrame) :
    (sendFrame worker frame).stepsLeft ≤ worker.stepsLeft + 2 := by
  cases frame with
  | none => exact Nat.le_add_right _ _
  | some frame =>
    change 2 * (worker.inbox.send frame).buffer.length + _ ≤ 2 * worker.inbox.buffer.length + _ + 2
    rcases haccepts : worker.inbox.accepts with _ | _
    · rw [Channel.send_of_not_accepts haccepts]
      exact Nat.le_add_right _ _
    · rw [(Channel.send_of_accepts haccepts frame).1, List.length_append, List.length_singleton]
      simp only [sendFrame, Option.elim]
      omega

/-- A turn of a thread that was signalled brings it nearer to its end. -/
theorem Turned.stepsLeft (hstopping : thread.stopping = true)
    (h : Turned noReconnect thread worker next worker') :
    next.stopping = true ∧
      next.point.stepsLeft + worker'.stepsLeft < thread.point.stepsLeft + worker.stepsLeft := by
  cases h with
  | started hpoint =>
    rw [hpoint]
    exact ⟨hstopping, Nat.add_lt_add_right (by decide : 3 < 4) _⟩
  | startFailed hpoint | startClosed hpoint | startGone hpoint =>
    rw [hpoint]
    exact ⟨hstopping, Nat.add_lt_add_right (by decide : 0 < 4) _⟩
  | interrupted hpoint =>
    obtain hpoint | ⟨deadline, hpoint⟩ := hpoint <;> rw [hpoint]
    · exact ⟨hstopping, Nat.add_lt_add_right (by decide : 2 < 3) _⟩
    · exact ⟨hstopping, Nat.add_lt_add_right (by decide : 2 < 4) _⟩
  | sinkAtHead hpoint hcheck =>
    rw [hcheck.stepsLeft, hpoint]
    exact ⟨hstopping, Nat.add_lt_add_right (by decide : 2 < 3) _⟩
  -- no session is opened and no poll is made once a signal was noted
  | opened hpoint hrunning | openFailed error hpoint hrunning =>
    rw [hrunning] at hstopping
    cases hstopping
  | waited hpoint =>
    rw [hpoint]
    exact ⟨hstopping, Nat.add_lt_add_right (by decide : 3 < 4) _⟩
  | closedWaiting hpoint hcheck =>
    rw [hcheck.stepsLeft, hpoint]
    exact ⟨hstopping, Nat.add_lt_add_right (by decide : 2 < 4) _⟩
  | @failedWaiting deadline error after hpoint hcheck =>
    change _ ∧ 0 + after.stepsLeft < _
    rw [hcheck.stepsLeft, hpoint]
    exact ⟨hstopping, Nat.add_lt_add_right (by decide : 0 < 4) _⟩
  | waits hpoint hdeadline hrunning =>
    rw [hrunning] at hstopping
    cases hstopping
  | stopped hpoint =>
    obtain hpoint | ⟨error, hpoint⟩ := hpoint <;> rw [hpoint]
    · exact ⟨hstopping, Nat.add_lt_add_right (by decide : 2 < 3) _⟩
    · exact ⟨hstopping, Nat.add_lt_add_right (by decide : 2 < 4) _⟩
  | sinkInSession hpoint hcheck =>
    rw [hcheck.stepsLeft, hpoint]
    exact ⟨hstopping, Nat.add_lt_add_right (by decide : 2 < 3) _⟩
  | polls polled hpoint hrunning =>
    rw [hrunning] at hstopping
    cases hstopping
  | polled hpoint =>
    rw [hpoint]
    exact ⟨hstopping, Nat.add_lt_add_right (Nat.lt_succ_self _) _⟩
  | pollFailed hpoint hrunning =>
    rw [hrunning] at hstopping
    cases hstopping
  | drained hpoint =>
    rw [hpoint]
    exact ⟨hstopping, Nat.add_lt_add_right (by decide : 3 < 4) _⟩
  -- an event is one step less for the thread, and at most one frame more for the worker
  | @handles event events driver hpoint =>
    have hsend := stepsLeft_sendFrame worker (decodeEvent thread.driver.decoder event).2
    rw [hpoint]
    refine ⟨hstopping, ?_⟩
    simp only [Streaming.handled, StreamPoint.stepsLeft, List.length_cons]
    omega
  | @sinkGone event events driver hpoint =>
    have hsend := stepsLeft_sendFrame worker (decodeEvent thread.driver.decoder event).2
    rw [hpoint]
    refine ⟨hstopping, ?_⟩
    simp only [Streaming.handled, Streaming.leaveSession, StreamPoint.stepsLeft, List.length_cons]
    omega
  | @ended event event' events driver hpoint =>
    have hsend := stepsLeft_sendFrame worker (decodeEvent thread.driver.decoder event).2
    rw [hpoint]
    refine ⟨hstopping, ?_⟩
    have hnext : (if noReconnect then
        StreamPoint.closing (.error (.disconnected (.event event'))) else .head).stepsLeft ≤ 3 := by
      split
      · exact (by decide : 2 ≤ 3)
      · exact (by decide : 3 ≤ 3)
    simp only [Streaming.handled, Streaming.disconnected, Streaming.leaveSession]
    simp only [StreamPoint.stepsLeft, List.length_cons] at hnext ⊢
    omega
  | drops hpoint =>
    rw [hpoint]
    exact ⟨hstopping, Nat.add_lt_add_right (by decide : 1 < 2) _⟩
  | joins hpoint =>
    rw [hpoint]
    exact ⟨hstopping, Nat.add_lt_add_right (by decide : 0 < 1) _⟩

/-- The thread waits for a report, or for the worker to end, or has returned. -/
theorem streamTurn_eq_none {opened : Except UsbTransportError Unit}
    {polled : Except UsbTransportError (List SessionEvent)}
    (h : streamTurn noReconnect thread worker opened polled = none) :
    (thread.point = .awaitingSink ∧ worker.statuses.buffer = [] ∧
        worker.statuses.senderAlive = true) ∨
      (∃ result, thread.point = .joining result ∧
        ∀ sinkResult, worker.point ≠ .exited sinkResult) ∨
      ∃ result, thread.point = .returned result := by
  -- only two points of the thread block: the wait for the sink and the join
  rw [streamTurn] at h
  split at h
  case h_1 hpoint =>
    split at h
    · rename_i hwait
      rw [waitForSink] at hwait
      split at hwait
      · cases hwait
      · cases hwait
      · cases hwait
      · rename_i hreceive
        split at hwait
        · exact .inl ⟨hpoint, Channel.receive_eq_none.mp hreceive, ‹_›⟩
        · cases hwait
    · cases h
    · cases h
  case h_2 =>
    split at h
    · cases h
    · split at h
      · cases h
      · split at h <;> cases h
  case h_3 =>
    split at h
    · cases h
    · split at h
      · cases h
      · split at h <;> cases h
  case h_4 =>
    split at h
    · cases h
    · split at h <;> cases h
  case h_5 => cases h
  case h_6 => split at h <;> cases h
  case h_7 => cases h
  case h_8 => split at h <;> cases h
  case h_9 => cases h
  case h_10 result hpoint =>
    split at h
    · cases h
    · rename_i hnot
      exact .inr (.inl ⟨result, hpoint, hnot⟩)
  case h_11 result hpoint => exact .inr (.inr ⟨result, hpoint⟩)

end Measure

/-! ## Both threads -/

section Ends

variable {W : Type} {output : Output W} {noReconnect : Bool} {world : W} {now : Instant}
  {threads next : StreamThreads W} {actions : List (Threads.Action StreamInput)}

/-- The thread is at a point where it can go on, whatever it is told. -/
def StreamThreads.CanGoOn (noReconnect : Bool) (threads : StreamThreads W) : Prop :=
  ∀ now opened polled, threads.client.clock ≤ now →
    (streamStep noReconnect threads.client threads.worker (.turn now opened polled)).isSome = true

/-- A worker that waits has reported that it is ready. -/
theorem statuses_of_waiting {worker : OutputWorker W} (h : worker.Valid output.service world)
    (hstep : worker.step output.service = none) : worker.statuses.accepted ≠ [] := by
  rw [h.statuses]
  obtain ⟨hpoint, -, -⟩ | ⟨result, hpoint⟩ := Worker.step_eq_none.mp hstep
  · have hran := h.ran
    simp only [Worker.Ran, hpoint] at hran
    rw [hpoint, Worker.reports, Worker.readyReport]
    split
    · exact List.cons_ne_nil _ _
    · rename_i hstart
      rw [Service.opening, EStateM.run_bind, hstart] at hran
      cases hran
  · rw [hpoint, Worker.reports]
    simp

/-- **No deadlock.** Until `run_stream` has returned, the worker can take a step
or the thread can go on. -/
theorem Sound.progress (h : Sound output noReconnect world threads)
    (hreturned : ∀ result, threads.client.point ≠ .returned result) :
    (threads.worker.step output.service).isSome = true ∨ threads.CanGoOn noReconnect := by
  by_contra hstuck
  obtain ⟨hworker, hclient⟩ := not_or.mp hstuck
  have hwaits : threads.worker.step output.service = none := by simpa using hworker
  rw [StreamThreads.CanGoOn] at hclient
  push Not at hclient
  obtain ⟨now, opened, polled, hclock, hnone⟩ := hclient
  rw [streamStep, if_neg (Nat.not_lt.mpr hclock)] at hnone
  have hturn : streamTurn noReconnect { threads.client with clock := now } threads.worker opened
      polled = none := by simpa using hnone
  obtain ⟨hpoint, hbuffer, -⟩ | ⟨result, hpoint, hexited⟩ | ⟨result, hpoint⟩ :=
    streamTurn_eq_none hturn
  · -- nothing was received, and nothing waits, but a worker that waits has reported
    have hinformed := h.informed
    rw [Streaming.Informed] at hinformed
    rw [show threads.client.point = _ from hpoint] at hinformed
    have hall := Channel.received_eq h.worker.reporting.1 hbuffer
    exact statuses_of_waiting h.worker hwaits (hall.symm.trans hinformed)
  · -- the sender was dropped, so that the worker waits for nothing
    have hsender := h.delivers.sender
    rw [show threads.client.point = _ from hpoint] at hsender
    obtain ⟨-, -, halive⟩ | ⟨sinkResult, hend⟩ := Worker.step_eq_none.mp hwaits
    · rw [halive] at hsender
      cases hsender
    · exact hexited sinkResult hend
  · exact hreturned result hpoint

/-- A signal. -/
def isSignal : Threads.Action StreamInput → Bool
  | .client .signal => true
  | _ => false

theorem sum_turns {α : Type} (isSignal : α → Bool) (actions : List α) :
    (actions.map fun action => if isSignal action then 0 else 1).sum =
      actions.countP fun action => !isSignal action := by
  induction actions with
  | nil => rfl
  | cons action actions ih =>
    rw [List.map_cons, List.sum_cons, ih, List.countP_cons, Nat.add_comm]
    cases isSignal action <;> rfl

/-- The steps that are left once a signal has come. -/
def StreamThreads.stepsLeft (threads : StreamThreads W) : ℕ :=
  threads.client.point.stepsLeft + threads.worker.stepsLeft

/-- A step other than a signal is one of those that are left. -/
theorem step_stepsLeft {action : Threads.Action StreamInput}
    (hstopping : threads.client.stopping = true)
    (hstep : threads.step output.service (streamStep noReconnect) action = some next) :
    next.client.stopping = true ∧
      next.stepsLeft + (if isSignal action then 0 else 1) ≤ threads.stepsLeft := by
  cases action with
  | client input =>
    obtain ⟨⟨thread, worker⟩, hclient, rfl⟩ := Option.map_eq_some_iff.mp hstep
    obtain ⟨rfl, rfl, rfl⟩ | ⟨now, -, hturned⟩ := streamStep_cases hclient
    · exact ⟨rfl, Nat.le_refl _⟩
    · have hclock : ({ threads.client with clock := now } : Streaming).stopping = true := hstopping
      obtain ⟨hnext, hless⟩ := hturned.stepsLeft hclock
      replace hless : thread.point.stepsLeft + worker.stepsLeft <
        threads.client.point.stepsLeft + threads.worker.stepsLeft := hless
      refine ⟨hnext, ?_⟩
      change thread.point.stepsLeft + worker.stepsLeft + _ ≤
        threads.client.point.stepsLeft + threads.worker.stepsLeft
      split <;> omega
  | worker =>
    obtain ⟨worker, hworker, rfl⟩ := Option.map_eq_some_iff.mp hstep
    have hless := Worker.stepsLeft_step hworker
    refine ⟨hstopping, ?_⟩
    change threads.client.point.stepsLeft + worker.stepsLeft + _ ≤
      threads.client.point.stepsLeft + threads.worker.stepsLeft
    split <;> omega

/-- **A signal ends a stream.** In every run in which a signal has come there is
a number of steps that bounds what both threads still do, whatever the camera,
the clock and the output do. A run that cannot go on has returned; before that,
with or without a signal, one of the threads can take a step. -/
theorem runStream_shutdown
    (hrun : runStream output noReconnect (startStream world now) actions = some threads) :
    ((∀ result, threads.client.point ≠ .returned result) →
        (threads.worker.step output.service).isSome = true ∨ threads.CanGoOn noReconnect) ∧
      (threads.client.stopping = true →
        ∀ rest next, runStream output noReconnect threads rest = some next →
          (rest.countP fun action => !isSignal action) + next.stepsLeft ≤ threads.stepsLeft) := by
  refine ⟨(sound_run hrun).progress, fun hstopping rest next hrest => ?_⟩
  have hsteps : ∀ (threads : StreamThreads W) action (next : StreamThreads W),
      threads.client.stopping = true →
      threads.step output.service (streamStep noReconnect) action = some next →
      next.client.stopping = true ∧
        StreamThreads.stepsLeft next + (if isSignal action then 0 else 1) ≤
          StreamThreads.stepsLeft threads :=
    fun _ _ _ => step_stepsLeft
  have hbound := Guarded.run_bounded hsteps hstopping hrest
  rw [sum_turns] at hbound
  omega

end Ends

/-- A signal comes when a frame is in the queue. -/
theorem runStream_shutdown_sampleStream :
    ∃ next : StreamThreads Vec,
      runStream (stdoutOutput noDecoder .mjpeg) false (startStream [] 0)
        (sampleStream.take 13 ++ [.client .signal]) = some next ∧
      next.worker.inbox.buffer.length = 1 ∧
      ∀ rest last, runStream (stdoutOutput noDecoder .mjpeg) false next rest = some last →
        (rest.countP fun action => !isSignal action) + last.stepsLeft ≤ 9 := by
  have hany : ((runStream (stdoutOutput noDecoder .mjpeg) false (startStream ([] : Vec) 0)
      (sampleStream.take 13 ++ [.client .signal])).any fun next =>
        next.worker.inbox.buffer.length == 1 &&
          (next.client.stopping && next.stepsLeft == 9)) = true := by decide +kernel
  obtain ⟨next, hrun, hnext⟩ := Option.any_eq_true _ _ |>.mp hany
  simp only [Bool.and_eq_true, beq_iff_eq] at hnext
  obtain ⟨hbuffer, hstopping, hleft⟩ := hnext
  refine ⟨next, hrun, hbuffer, fun rest last hrest => ?_⟩
  have hbound := (runStream_shutdown hrun).2 hstopping rest last hrest
  omega

end Handycam
