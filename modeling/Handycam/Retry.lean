import Handycam.Streaming

/-!
# Opening the camera again

A camera that is away is looked for again and again. `run_stream` waits half a
second after the first failure, twice as long after each further one, and five
seconds at most; a session that was opened starts this anew.

* **the pace** — `backoff`: what is waited after a number of failures in a row;
  `Streaming.Paced` says how far the thread is with it, by where it is;
* **every attempt** — `runStream_attempts`: no attempt follows a failure sooner
  than that, or at all if the failure is not one that is tried again.
-/

namespace Handycam

/-- How many attempts have failed since the last one that did not. -/
def failuresInARow (opens : List OpenRecord) : ℕ :=
  (opens.reverse.takeWhile fun record => record.failure.isSome).length

/-- The delay after a failure that others were before. -/
def backoff (failures : ℕ) : ℕ := min (firstRetryDelay * 2 ^ failures) longestRetryDelay

theorem backoff_succ (failures : ℕ) :
    backoff (failures + 1) = min (backoff failures * 2) longestRetryDelay := by
  unfold backoff
  rw [pow_succ, ← mul_assoc]
  omega

theorem failuresInARow_success (opens : List OpenRecord) (time : Instant) :
    failuresInARow (opens ++ [⟨time, none⟩]) = 0 := by
  simp [failuresInARow]

theorem failuresInARow_failure (opens : List OpenRecord) {record : OpenRecord}
    (h : record.failure.isSome = true) :
    failuresInARow (opens ++ [record]) = failuresInARow opens + 1 := by
  simp [failuresInARow, h]

/-- A failed attempt may be followed by another, after the delay. -/
def OpenRecord.Permits (past : List OpenRecord) (record : OpenRecord) (time : Instant) : Prop :=
  ∀ error, record.failure = some error →
    shouldRetryOpen error = true ∧ record.time + backoff (failuresInARow past) ≤ time

/-- How far the thread is with its attempts, by where it is. -/
def Streaming.Paced (noReconnect : Bool) (thread : Streaming) : Prop :=
  match thread.point with
  | .awaitingSink => thread.opens = [] ∧ thread.retryDelay = firstRetryDelay
  | .head => thread.retryDelay = backoff (failuresInARow thread.opens) ∧
    (noReconnect = true → thread.opens = []) ∧
      ∀ past record, thread.opens = past ++ [record] → record.Permits past thread.clock
  | .waiting deadline => noReconnect = false ∧
    ∃ past record error, thread.opens = past ++ [record] ∧ record.failure = some error ∧
      shouldRetryOpen error = true ∧ thread.retryDelay = backoff (failuresInARow past) ∧
        deadline = record.time + thread.retryDelay
  | .streaming | .polling _ | .handling _ =>
    thread.retryDelay = firstRetryDelay ∧ ∃ past time, thread.opens = past ++ [⟨time, none⟩]
  | _ => True

/-- Attempts that follow one another as they may. -/
def Spaced (noReconnect : Bool) (opens : List OpenRecord) : Prop :=
  ∀ past first second rest, opens = past ++ first :: second :: rest →
    noReconnect = false ∧ first.Permits past second.time

section Spaced

variable {noReconnect : Bool} {opens : List OpenRecord} {record : OpenRecord}

theorem spaced_nil : Spaced noReconnect [] := by
  intro past first second rest h
  simp at h

/-- One more attempt. -/
theorem Spaced.concat (h : Spaced noReconnect opens) (hreconnect : noReconnect = true → opens = [])
    (hpermits : ∀ past last, opens = past ++ [last] → last.Permits past record.time) :
    Spaced noReconnect (opens ++ [record]) := by
  intro past first second rest hsplit
  induction rest using List.reverseRecOn with
  | nil =>
    have heq : opens ++ [record] = (past ++ [first]) ++ [second] := by
      rw [hsplit, List.append_assoc]
      rfl
    obtain ⟨hopens, hlast⟩ := List.append_inj' heq rfl
    obtain rfl := List.singleton_inj.mp hlast
    refine ⟨?_, hpermits past first hopens⟩
    cases noReconnect with
    | false => rfl
    | true =>
      rw [hopens] at hreconnect
      simpa using hreconnect rfl
  | append_singleton rest last ih =>
    have heq : opens ++ [record] = (past ++ first :: second :: rest) ++ [last] := by
      rw [hsplit, List.append_assoc]
      rfl
    exact h past first second rest (List.append_inj' heq rfl).1

end Spaced

section Turns

variable {W : Type} {noReconnect : Bool} {thread next : Streaming} {worker worker' : OutputWorker W}

theorem OpenRecord.Permits.mono {past : List OpenRecord} {record : OpenRecord} {time later : Instant}
    (h : record.Permits past time) (hlater : time ≤ later) : record.Permits past later := by
  intro error herror
  obtain ⟨hretry, htime⟩ := h error herror
  exact ⟨hretry, htime.trans hlater⟩

/-- The pace is kept while time goes by. -/
theorem Streaming.Paced.clock (h : thread.Paced noReconnect) {now : Instant}
    (hnow : thread.clock ≤ now) : Streaming.Paced noReconnect { thread with clock := now } := by
  rw [Paced] at h ⊢
  rcases hpoint : thread.point with
    _ | _ | deadline | _ | polled | events | result | result | result <;>
    simp only [hpoint] at h ⊢
  · exact h
  · exact ⟨h.1, h.2.1, fun past record hopens => (h.2.2 past record hopens).mono hnow⟩
  · exact h
  · exact h
  · exact h
  · exact h

/-- A session that is left may be followed by another attempt at once. -/
theorem paced_disconnected {reason : Disconnection} (hdelay : thread.retryDelay = firstRetryDelay)
    (hopens : ∃ past time, thread.opens = past ++ [⟨time, none⟩]) :
    (thread.disconnected noReconnect reason).Paced noReconnect := by
  obtain ⟨past, time, hopens⟩ := hopens
  cases noReconnect with
  | true => trivial
  | false =>
    change thread.retryDelay = backoff (failuresInARow thread.opens) ∧ _
    refine ⟨?_, fun htrue => absurd htrue Bool.false_ne_true, fun earlier record hlast => ?_⟩
    · rw [hopens, failuresInARow_success, hdelay]
      decide
    · intro error herror
      change thread.opens = _ at hlast
      rw [hopens] at hlast
      obtain rfl := List.singleton_inj.mp (List.append_inj' hlast rfl).2
      cases herror

/-- A turn keeps the pace, and attempts follow one another as they may. -/
theorem Turned.paced (h : thread.Paced noReconnect) (hspaced : Spaced noReconnect thread.opens)
    (hturned : Turned noReconnect thread worker next worker') :
    next.Paced noReconnect ∧ Spaced noReconnect next.opens := by
  rw [Streaming.Paced] at h
  cases hturned with
  | started hpoint =>
    rw [hpoint] at h
    obtain ⟨hopens, hdelay⟩ := h
    refine ⟨⟨?_, fun _ => hopens, fun past record hlast => ?_⟩, hspaced⟩
    · change thread.retryDelay = backoff (failuresInARow thread.opens)
      rw [hdelay, hopens]
      decide
    · change thread.opens = _ at hlast
      rw [hopens] at hlast
      simp at hlast
  | opened hpoint =>
    rw [hpoint] at h
    exact ⟨⟨rfl, thread.opens, thread.clock, rfl⟩, hspaced.concat h.2.1 h.2.2⟩
  -- the one turn that adds a failure: it is final, or the wait before the next attempt begins
  | openFailed error hpoint =>
    rw [hpoint] at h
    refine ⟨?_, hspaced.concat h.2.1 h.2.2⟩
    rw [Streaming.Paced]
    rcases hretry : shouldRetryOpen error && !noReconnect with _ | _
    · rw [Streaming.failOpen_final hretry]
      trivial
    · rw [Streaming.failOpen_retry hretry]
      obtain ⟨hshould, hreconnect⟩ := Bool.and_eq_true_iff.mp hretry
      exact ⟨by simpa using hreconnect, thread.opens, _, error, rfl, rfl, hshould, h.1, rfl⟩
  -- after the wait the delay is doubled, as one more failure in a row asks
  | @waited deadline hpoint hdeadline =>
    rw [hpoint] at h
    obtain ⟨hreconnect, past, record, error, hopens, hfailure, hretry, hdelay, hwait⟩ := h
    have hfailed : record.failure.isSome = true := by rw [hfailure]; rfl
    refine ⟨⟨?_, fun htrue => ?_, fun earlier last hlast => ?_⟩, hspaced⟩
    · change min (thread.retryDelay * 2) longestRetryDelay = backoff (failuresInARow thread.opens)
      rw [hopens, failuresInARow_failure past hfailed, backoff_succ, hdelay]
    · rw [hreconnect] at htrue
      cases htrue
    · change thread.opens = _ at hlast
      rw [hopens] at hlast
      obtain ⟨rfl, hsame⟩ := List.append_inj' hlast rfl
      obtain rfl := List.singleton_inj.mp hsame
      intro other hother
      obtain rfl := Option.some.inj (hfailure.symm.trans hother)
      refine ⟨hretry, ?_⟩
      rw [← hdelay, ← hwait]
      exact hdeadline
  | waits hpoint =>
    refine ⟨?_, hspaced⟩
    rw [Streaming.Paced]
    rw [hpoint] at h ⊢
    exact h
  | polls polled hpoint | polled hpoint | drained hpoint | handles hpoint =>
    rw [hpoint] at h
    exact ⟨h, hspaced⟩
  | pollFailed hpoint | ended hpoint =>
    rw [hpoint] at h
    exact ⟨paced_disconnected h.1 h.2, hspaced⟩
  | _ => exact ⟨trivial, hspaced⟩

end Turns

section Runs

variable {W : Type} {output : Output W} {noReconnect : Bool} {world : W} {now : Instant}
  {threads next : StreamThreads W} {actions : List (Threads.Action StreamInput)}

theorem step_paced {action : Threads.Action StreamInput}
    (h : threads.client.Paced noReconnect ∧ Spaced noReconnect threads.client.opens)
    (hstep : threads.step output.service (streamStep noReconnect) action = some next) :
    next.client.Paced noReconnect ∧ Spaced noReconnect next.client.opens := by
  cases action with
  | client input =>
    obtain ⟨⟨thread, worker⟩, hclient, rfl⟩ := Option.map_eq_some_iff.mp hstep
    obtain ⟨-, rfl, rfl⟩ | ⟨now, hclock, hturned⟩ := streamStep_cases hclient
    · exact h
    · exact hturned.paced (h.1.clock hclock) h.2
  | worker =>
    obtain ⟨worker, hworker, rfl⟩ := Option.map_eq_some_iff.mp hstep
    exact h

/-- **The pace of the attempts.** In every run, whatever the camera and the
worker do: an attempt to open the camera follows another only if reconnecting is
allowed; it follows a failure only if this is one that is tried again, and not
sooner than half a second, doubled for each failure in a row before it, up to
five seconds, after the failure. -/
theorem runStream_attempts
    (hrun : runStream output noReconnect (startStream world now) actions = some next)
    {past rest : List OpenRecord} {first second : OpenRecord}
    (hopens : next.client.opens = past ++ first :: second :: rest) :
    noReconnect = false ∧ ∀ error, first.failure = some error →
      shouldRetryOpen error = true ∧
        first.time + min (firstRetryDelay * 2 ^ failuresInARow past) longestRetryDelay ≤
          second.time := by
  have hsteps : ∀ (threads : StreamThreads W) action (next : StreamThreads W),
      (threads.client.Paced noReconnect ∧ Spaced noReconnect threads.client.opens) →
      threads.step output.service (streamStep noReconnect) action = some next →
      next.client.Paced noReconnect ∧ Spaced noReconnect next.client.opens :=
    fun _ _ _ => step_paced
  have hstart : (startStream world now).client.Paced noReconnect ∧
      Spaced noReconnect (startStream world now).client.opens := ⟨⟨rfl, rfl⟩, spaced_nil⟩
  exact (Guarded.run_invariant hsteps hstart hrun).2 past first second rest hopens

end Runs

/-- A stream that finds no camera, and tries again after half a second. -/
def sampleRetry : List (Threads.Action StreamInput) :=
  [.worker, sampleTurn [], .client (.turn 0 (.error .noCamera) (.ok [])),
    .client (.turn firstRetryDelay (.ok ()) (.ok [])),
    .client (.turn firstRetryDelay (.ok ()) (.ok []))]

theorem runStream_attempts_sampleRetry :
    ∃ next : StreamThreads Vec,
      next.client.opens = [⟨0, some .noCamera⟩, ⟨500000000, none⟩] ∧
        0 + min (firstRetryDelay * 2 ^ failuresInARow []) longestRetryDelay ≤ 500000000 := by
  have hany : ((runStream (stdoutOutput noDecoder .mjpeg) false (startStream ([] : Vec) 0)
      sampleRetry).any fun next =>
        next.client.opens = [⟨0, some .noCamera⟩, ⟨500000000, none⟩]) = true := by decide +kernel
  obtain ⟨next, hrun, hnext⟩ := Option.any_eq_true _ _ |>.mp hany
  have hopens := of_decide_eq_true hnext
  exact ⟨next, hopens, ((runStream_attempts hrun (show _ = [] ++ _ from hopens)).2 .noCamera rfl).2⟩

end Handycam
