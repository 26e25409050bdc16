import Handycam.Streaming

/-!
# The statistics of a stream

`run_stream` counts what it sees and does, over all its sessions. The counters
wrap; up to that, `runStream_statistics` says what each of them counts, and that
every frame that was assembled was queued, counted as dropped, or is the one
with which the thread found that the worker had gone.
-/

namespace Handycam

/-- The event is an active packet of the boundary endpoint. -/
def SessionEvent.isBoundary : SessionEvent → Bool
  | .packet .boundary data _ => isActiveBoundary data
  | _ => false

/-- The event is a video packet that looks like a header. -/
def SessionEvent.isVideoHeader : SessionEvent → Bool
  | .packet .video data _ => isHeader data
  | _ => false

/-- The assembler refuses the event's packet. -/
def malformed (decoder : StreamDecoder) : SessionEvent → Bool
  | .packet endpoint data _ =>
    match (decoder.pushPacket ⟨endpoint, data⟩).2 with
    | .ok _ => false
    | .error _ => true
  | _ => false

/-- How many of the events an assembler refuses. -/
def countMalformed : StreamDecoder → List SessionEvent → ℕ
  | _, [] => 0
  | decoder, event :: events =>
    (if malformed decoder event then 1 else 0) + countMalformed (decodeEvent decoder event).1 events

theorem countMalformed_concat (decoder : StreamDecoder) (events : List SessionEvent)
    (event : SessionEvent) :
    countMalformed decoder (events ++ [event]) =
      countMalformed decoder events +
        if malformed (Mealy.final decodeEvent decoder events) event then 1 else 0 := by
  induction events generalizing decoder with
  | nil => exact Nat.add_comm _ _
  | cons first events ih =>
    rw [List.cons_append, countMalformed, ih, countMalformed, Nat.add_assoc, Mealy.final_cons]

/-- A packet is counted by what it looks like. -/
theorem countPacket_eq (stats : DriverStats) (endpoint : Endpoint) (data : List UInt8)
    (receivedAt : Instant) :
    countPacket stats ⟨endpoint, data⟩ =
      { stats with
        boundaries := stats.boundaries + UInt64.ofNat
          (if (SessionEvent.packet endpoint data receivedAt).isBoundary then 1 else 0)
        headers := stats.headers + UInt64.ofNat
          (if (SessionEvent.packet endpoint data receivedAt).isVideoHeader then 1 else 0) } := by
  cases endpoint with
  | boundary =>
    by_cases hactive : isActiveBoundary data = true <;>
      simp [countPacket, SessionEvent.isBoundary, SessionEvent.isVideoHeader, hactive]
  | video =>
    by_cases hheader : isHeader data = true <;>
      simp [countPacket, SessionEvent.isBoundary, SessionEvent.isVideoHeader, hheader]

/-- What an event does to the counters. -/
theorem handleEvent_stats (driver : Driver) (event : SessionEvent) (answer : TrySend) :
    (handleEvent driver event answer).1.stats =
      { boundaries := driver.stats.boundaries + UInt64.ofNat (if event.isBoundary then 1 else 0)
        headers := driver.stats.headers + UInt64.ofNat (if event.isVideoHeader then 1 else 0)
        frames := driver.stats.frames + UInt64.ofNat
          (if answer = .taken then (decodeEvent driver.decoder event).2.toList else []).length
        timestampGaps := driver.stats.timestampGaps + UInt64.ofNat
          ((decodeEvent driver.decoder event).2.toList.countP fun frame =>
            !isNominalCameraDelta frame.timestampDeltaToNextMs)
        queueDrops := driver.stats.queueDrops + UInt64.ofNat
          (if answer = .full then (decodeEvent driver.decoder event).2.toList else []).length
        protocolErrors := driver.stats.protocolErrors +
          UInt64.ofNat (if malformed driver.decoder event then 1 else 0) } := by
  cases event with
  | packet endpoint data receivedAt =>
    have hcount := countPacket_eq driver.stats endpoint data receivedAt
    rcases h : driver.decoder.pushPacket ⟨endpoint, data⟩ with ⟨decoder, error | _ | frame⟩
    · simp [handleEvent, decodeEvent, feedPacket, malformed, h, hcount]
    · simp [handleEvent, decodeEvent, feedPacket, malformed, h, hcount]
    · cases answer <;>
        by_cases hnominal : isNominalCameraDelta frame.timestampDeltaToNextMs <;>
        simp [handleEvent, decodeEvent, feedPacket, malformed, offerFrame, h, hcount, hnominal]
  | _ => simp [handleEvent, decodeEvent, malformed, SessionEvent.isBoundary,
      SessionEvent.isVideoHeader]

/-- A frame for which there is no worker ends the session. -/
theorem handleEvent_gone {driver : Driver} {event : SessionEvent} {answer : TrySend}
    (hgone : answer = .disconnected) (hframe : (decodeEvent driver.decoder event).2 ≠ none) :
    handleEvent driver event answer =
      ((handleEvent driver event answer).1, some .sinkClosed) := by
  subst hgone
  cases event with
  | packet endpoint data receivedAt =>
    rcases h : driver.decoder.pushPacket ⟨endpoint, data⟩ with ⟨decoder, error | _ | frame⟩
    · simp [decodeEvent, feedPacket, h] at hframe
    · simp [decodeEvent, feedPacket, h] at hframe
    · by_cases hnominal : isNominalCameraDelta frame.timestampDeltaToNextMs <;>
        simp [handleEvent, offerFrame, h, hnominal]
  | _ => exact absurd rfl hframe

/-- `run_stream` has left its loop. -/
def StreamPoint.isOver : StreamPoint → Bool
  | .closing _ | .joining _ | .returned _ => true
  | _ => false

/-- The counters count what they should, modulo 2^64. -/
structure Streaming.Counted (thread : Streaming) : Prop where
  /-- active boundary packets of all sessions -/
  boundaries : thread.driver.stats.boundaries =
    UInt64.ofNat ((thread.sessions.flatten ++ thread.events).countP SessionEvent.isBoundary)
  /-- header-shaped packets of all sessions -/
  headers : thread.driver.stats.headers =
    UInt64.ofNat ((thread.sessions.flatten ++ thread.events).countP SessionEvent.isVideoHeader)
  /-- frames queued -/
  frames : thread.driver.stats.frames = UInt64.ofNat thread.driver.queued.length
  /-- frames assembled whose camera delta is not nominal -/
  timestampGaps : thread.driver.stats.timestampGaps =
    UInt64.ofNat (thread.driver.assembled.countP fun frame =>
      !isNominalCameraDelta frame.timestampDeltaToNextMs)
  /-- packets that the assembler of their session refused -/
  protocolErrors : thread.driver.stats.protocolErrors =
    UInt64.ofNat ((thread.sessions.map (countMalformed .new)).sum +
      countMalformed .new thread.events)
  /-- frames assembled that were not queued, but for one that found no worker -/
  queueDrops : ∃ drops lost, thread.driver.stats.queueDrops = UInt64.ofNat drops ∧
    thread.driver.assembled.length = thread.driver.queued.length + drops + lost ∧
      (lost = 0 ∨ lost = 1 ∧ thread.point.isOver = true)

section Turns

variable {W : Type} {noReconnect : Bool} {thread next : Streaming} {worker worker' : OutputWorker W}

namespace Streaming.Counted

/-- The counters stay right while the thread moves on. -/
theorem frame (h : thread.Counted) (hdriver : next.driver = thread.driver)
    (hsessions : next.sessions = thread.sessions) (hevents : next.events = thread.events)
    (hover : thread.point.isOver = true → next.point.isOver = true) : next.Counted where
  boundaries := by rw [hdriver, hsessions, hevents]; exact h.boundaries
  headers := by rw [hdriver, hsessions, hevents]; exact h.headers
  frames := by rw [hdriver]; exact h.frames
  timestampGaps := by rw [hdriver]; exact h.timestampGaps
  protocolErrors := by rw [hdriver, hsessions, hevents]; exact h.protocolErrors
  queueDrops := by
    obtain ⟨drops, lost, hdrops, hlength, hlost⟩ := h.queueDrops
    exact ⟨drops, lost, by rw [hdriver, hdrops], by rw [hdriver, hlength],
      hlost.imp_right fun hone => ⟨hone.1, hover hone.2⟩⟩

theorem enterSession (h : thread.Counted) (hrunning : thread.point.isOver = false) :
    thread.enterSession.Counted where
  boundaries := h.boundaries
  headers := h.headers
  frames := h.frames
  timestampGaps := h.timestampGaps
  protocolErrors := h.protocolErrors
  queueDrops := by
    obtain ⟨drops, lost, hdrops, hlength, hlost | ⟨-, hover⟩⟩ := h.queueDrops
    · exact ⟨drops, lost, hdrops, hlength, .inl hlost⟩
    · rw [hrunning] at hover
      cases hover

/-- A session that is left is counted as a whole. -/
theorem leaveSession (h : thread.Counted) {point : StreamPoint}
    (hover : thread.point.isOver = true → point.isOver = true) :
    (thread.leaveSession point).Counted where
  boundaries := by simpa [Streaming.leaveSession] using h.boundaries
  headers := by simpa [Streaming.leaveSession] using h.headers
  frames := h.frames
  timestampGaps := h.timestampGaps
  protocolErrors := by simpa [Streaming.leaveSession, countMalformed] using h.protocolErrors
  queueDrops := by
    obtain ⟨drops, lost, hdrops, hlength, hlost⟩ := h.queueDrops
    exact ⟨drops, lost, hdrops, hlength, hlost.imp_right fun hone => ⟨hone.1, hover hone.2⟩⟩

/-- An event is counted. -/
theorem handled (h : thread.Counted) {event : SessionEvent} {driver : Driver}
    {ended : Option SessionEnd} {point : StreamPoint}
    (hdecoder : thread.driver.decoder = Mealy.final decodeEvent .new thread.events)
    (hrunning : thread.point.isOver = false)
    (hhandle : handleEvent thread.driver event (trySend worker) = (driver, ended))
    (hgone : trySend worker = .disconnected → (decodeEvent thread.driver.decoder event).2 ≠ none →
      point.isOver = true) :
    (thread.handled event driver point).Counted := by
  have hstats := handleEvent_stats thread.driver event (trySend worker)
  have hqueued := handleEvent_queued thread.driver event (trySend worker)
  have hassembled := (handleEvent_decode thread.driver event (trySend worker)).2
  rw [hhandle] at hstats hqueued hassembled
  dsimp only at hstats hqueued hassembled
  refine ⟨?_, ?_, ?_, ?_, ?_, ?_⟩
  · change driver.stats.boundaries = UInt64.ofNat
      ((thread.sessions.flatten ++ (thread.events ++ [event])).countP SessionEvent.isBoundary)
    rw [hstats, ← List.append_assoc, List.countP_append, UInt64.ofNat_add, h.boundaries]
    simp [List.countP_cons]
  · change driver.stats.headers = UInt64.ofNat
      ((thread.sessions.flatten ++ (thread.events ++ [event])).countP SessionEvent.isVideoHeader)
    rw [hstats, ← List.append_assoc, List.countP_append, UInt64.ofNat_add, h.headers]
    simp [List.countP_cons]
  · change driver.stats.frames = UInt64.ofNat driver.queued.length
    rw [hstats, hqueued, List.length_append, UInt64.ofNat_add, h.frames]
  · change driver.stats.timestampGaps = UInt64.ofNat (driver.assembled.countP _)
    rw [hstats, hassembled, List.countP_append, UInt64.ofNat_add, h.timestampGaps]
  · change driver.stats.protocolErrors = UInt64.ofNat
      ((thread.sessions.map (countMalformed .new)).sum +
        countMalformed .new (thread.events ++ [event]))
    rw [hstats, countMalformed_concat, ← Nat.add_assoc, UInt64.ofNat_add, h.protocolErrors,
      ← hdecoder]
  · change ∃ drops lost, driver.stats.queueDrops = UInt64.ofNat drops ∧
      driver.assembled.length = driver.queued.length + drops + lost ∧
        (lost = 0 ∨ lost = 1 ∧ point.isOver = true)
    -- one frame at most is neither queued nor counted: the one that found the worker gone
    obtain ⟨drops, lost, hdrops, hlength, rfl | ⟨-, hover⟩⟩ := h.queueDrops
    case inr =>
      rw [hrunning] at hover
      cases hover
    rw [hstats, hqueued, hassembled]
    simp only [List.length_append, hlength, hdrops]
    rcases hanswer : trySend worker with _ | _ | _
    · exact ⟨drops, 0, by simp, by simp; omega, .inl rfl⟩
    · refine ⟨drops + (decodeEvent thread.driver.decoder event).2.toList.length, 0, ?_, ?_, .inl rfl⟩
      · rw [UInt64.ofNat_add]
        rfl
      · simp
        omega
    · rcases hframe : (decodeEvent thread.driver.decoder event).2 with _ | frame
      · exact ⟨drops, 0, by simp, by simp, .inl rfl⟩
      · exact ⟨drops, 1, by simp, by simp, .inr ⟨rfl, hgone hanswer (by rw [hframe]; nofun)⟩⟩

end Streaming.Counted

/-- A turn keeps the counters right. -/
theorem Turned.counted (hdelivers : thread.Delivers worker) (h : thread.Counted)
    (hturned : Turned noReconnect thread worker next worker') : next.Counted := by
  have hdecoder := hdelivers.decoder
  cases hturned with
  | started hpoint | startFailed hpoint | startClosed hpoint | startGone hpoint
  | sinkAtHead hpoint | waited hpoint | closedWaiting hpoint | failedWaiting hpoint
  | polls polled hpoint | polled hpoint | drained hpoint =>
    exact h.frame rfl rfl rfl (by rw [hpoint]; nofun)
  | interrupted hpoint =>
    obtain hpoint | ⟨deadline, hpoint⟩ := hpoint <;>
      exact h.frame rfl rfl rfl (by rw [hpoint]; nofun)
  | opened hpoint => exact h.enterSession (by rw [hpoint]; rfl)
  | openFailed error hpoint => exact h.frame rfl rfl rfl (by rw [hpoint]; nofun)
  | waits => exact h
  | stopped hpoint =>
    obtain hpoint | ⟨error, hpoint⟩ := hpoint <;>
      exact h.leaveSession (by rw [hpoint]; nofun)
  | sinkInSession hpoint | pollFailed hpoint => exact h.leaveSession (by rw [hpoint]; nofun)
  -- with the worker gone, an event that gives a frame ends the loop
  | @handles event events driver hpoint hhandle =>
    rw [hpoint] at hdecoder
    refine h.handled (hdecoder rfl) (by rw [hpoint]; rfl) hhandle fun hgone hframe => ?_
    rw [handleEvent_gone hgone hframe] at hhandle
    cases hhandle
  | @sinkGone event events driver hpoint hhandle =>
    rw [hpoint] at hdecoder
    have hhandled : (thread.handled event driver (.closing (.ok ()))).Counted :=
      h.handled (hdecoder rfl) (by rw [hpoint]; rfl) hhandle fun _ _ => rfl
    exact hhandled.leaveSession id
  | @ended event event' events driver hpoint hhandle =>
    rw [hpoint] at hdecoder
    have hhandled : (thread.handled event driver .streaming).Counted := by
      refine h.handled (hdecoder rfl) (by rw [hpoint]; rfl) hhandle fun hgone hframe => ?_
      rw [handleEvent_gone hgone hframe] at hhandle
      cases hhandle
    exact hhandled.leaveSession nofun
  | drops hpoint => exact h.frame rfl rfl rfl fun _ => rfl
  | joins hpoint => exact h.frame rfl rfl rfl fun _ => rfl

/-- How many sessions were opened. -/
def Streaming.sessionCount (thread : Streaming) : ℕ :=
  thread.sessions.length + if thread.point.inSession then 1 else 0

/-- Every session that was opened is counted. -/
def Streaming.CountsSessions (thread : Streaming) : Prop :=
  thread.reconnects = UInt64.ofNat thread.sessionCount ∧
    (thread.opens.countP fun record => record.failure.isNone) = thread.sessionCount

theorem Streaming.CountsSessions.frame (h : thread.CountsSessions)
    (hreconnects : next.reconnects = thread.reconnects) (hsessions : next.sessions = thread.sessions)
    (hsession : next.point.inSession = thread.point.inSession)
    (hopens : (next.opens.countP fun record => record.failure.isNone) =
      thread.opens.countP fun record => record.failure.isNone) : next.CountsSessions := by
  rw [CountsSessions, sessionCount]
  rw [hreconnects, hsessions, hsession, hopens]
  exact h

theorem Streaming.CountsSessions.leaveSession (h : thread.CountsSessions) {point : StreamPoint}
    (hinside : thread.point.inSession = true) (houtside : point.inSession = false) :
    (thread.leaveSession point).CountsSessions := by
  rw [CountsSessions, sessionCount] at h ⊢
  rw [hinside] at h
  simpa [Streaming.leaveSession, houtside] using h

theorem Turned.countsSessions (h : thread.CountsSessions)
    (hturned : Turned noReconnect thread worker next worker') : next.CountsSessions := by
  cases hturned with
  | started hpoint | startFailed hpoint | startClosed hpoint | startGone hpoint
  | sinkAtHead hpoint | waited hpoint | closedWaiting hpoint | failedWaiting hpoint
  | polls polled hpoint | polled hpoint | drained hpoint | drops hpoint | joins hpoint
  | handles hpoint =>
    exact h.frame rfl rfl (by rw [hpoint]; rfl) rfl
  | interrupted hpoint =>
    obtain hpoint | ⟨deadline, hpoint⟩ := hpoint <;>
      exact h.frame rfl rfl (by rw [hpoint]; rfl) rfl
  | opened hpoint =>
    obtain ⟨hreconnects, hopens⟩ := h
    simp only [Streaming.sessionCount, hpoint] at hreconnects hopens
    rw [Streaming.CountsSessions, Streaming.sessionCount]
    simp [Streaming.enterSession, hreconnects, hopens, StreamPoint.inSession]
  | openFailed error hpoint =>
    refine h.frame rfl rfl ?_ (by simp [Streaming.failOpen])
    rw [hpoint, Streaming.failOpen]
    dsimp only
    split <;> rfl
  | waits => exact h
  | stopped hpoint =>
    obtain hpoint | ⟨error, hpoint⟩ := hpoint <;>
      exact h.leaveSession (by rw [hpoint]; rfl) rfl
  | sinkInSession hpoint => exact h.leaveSession (by rw [hpoint]; rfl) rfl
  | pollFailed hpoint => exact h.leaveSession (by rw [hpoint]; rfl) (by split <;> rfl)
  | @sinkGone event events driver hpoint =>
    have hhandled : (thread.handled event driver .streaming).CountsSessions :=
      h.frame rfl rfl (by rw [hpoint]; rfl) rfl
    exact hhandled.leaveSession rfl rfl
  | @ended event event' events driver hpoint =>
    have hhandled : (thread.handled event driver .streaming).CountsSessions :=
      h.frame rfl rfl (by rw [hpoint]; rfl) rfl
    exact hhandled.leaveSession rfl (by split <;> rfl)

end Turns

section Runs

variable {W : Type} {output : Output W} {noReconnect : Bool} {world : W} {now : Instant}
  {threads next : StreamThreads W} {actions : List (Threads.Action StreamInput)}

theorem step_counted {action : Threads.Action StreamInput}
    (hsound : Sound output noReconnect world threads)
    (h : threads.client.Counted ∧ threads.client.CountsSessions)
    (hstep : threads.step output.service (streamStep noReconnect) action = some next) :
    next.client.Counted ∧ next.client.CountsSessions := by
  cases action with
  | client input =>
    obtain ⟨⟨thread, worker⟩, hclient, rfl⟩ := Option.map_eq_some_iff.mp hstep
    obtain ⟨-, rfl, rfl⟩ | ⟨now, -, hturned⟩ := streamStep_cases hclient
    · exact ⟨h.1.frame rfl rfl rfl id, h.2⟩
    · have hdelivers : Streaming.Delivers { threads.client with clock := now } threads.worker :=
        hsound.delivers.frame rfl rfl rfl rfl rfl hsound.delivers.sender
      have hcounted : Streaming.Counted { threads.client with clock := now } :=
        h.1.frame rfl rfl rfl id
      have hsessions : Streaming.CountsSessions { threads.client with clock := now } := h.2
      exact ⟨hturned.counted hdelivers hcounted, hturned.countsSessions hsessions⟩
  | worker =>
    obtain ⟨worker, hworker, rfl⟩ := Option.map_eq_some_iff.mp hstep
    exact h

/-- **What the counters count.** In every state of every run, over all sessions
so far and modulo 2^64: boundaries, active boundary packets; headers, video
packets of the shape of one; frames, what was queued; gaps, frames assembled
whose camera delta is not nominal; protocol errors, packets that the assembler
of their session refused; reconnects, sessions opened. Drops make up for the
frames that were assembled and not queued, but for at most one, with which the
thread found that the worker had gone. -/
theorem runStream_statistics
    (hrun : runStream output noReconnect (startStream world now) actions = some next) :
    next.client.Counted ∧ next.client.CountsSessions := by
  have hsteps : ∀ (threads : StreamThreads W) action (next : StreamThreads W),
      (Sound output noReconnect world threads ∧
        threads.client.Counted ∧ threads.client.CountsSessions) →
      threads.step output.service (streamStep noReconnect) action = some next →
      Sound output noReconnect world next ∧
        next.client.Counted ∧ next.client.CountsSessions :=
    fun _ _ _ h hstep => ⟨h.1.step hstep, step_counted h.1 h.2 hstep⟩
  have hstart : (startStream world now).client.Counted :=
    ⟨rfl, rfl, rfl, rfl, rfl, 0, 0, rfl, rfl, .inl rfl⟩
  exact (Guarded.run_invariant hsteps ⟨sound_start, hstart, rfl, rfl⟩ hrun).2

end Runs

theorem runStream_statistics_sampleStream :
    ∃ next : StreamThreads Vec, next.client.driver.stats.frames = 1 ∧
      next.client.driver.queued.length = 1 := by
  obtain ⟨next, hrun, -, hlength⟩ := sampleStream_returns
  have hframes := (runStream_statistics hrun).1.frames
  rw [hlength] at hframes
  exact ⟨next, hframes, hlength⟩

end Handycam
