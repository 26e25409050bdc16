import Mathlib.Data.Finset.Card
import Mathlib.Logic.Relation
import Handycam.Stream

/-!
# The life of isochronous transfers

A session owns a pool of transfers. Between its submission and its callback a
transfer belongs to libusb; a callback reports what was received and submits
the transfer again while the session runs. `Step` is what can happen to a
session: the allocation of a transfer, a callback in `handle_events`, and the
two halves of `stop`, before and after the reaping of cancelled transfers.

* **libusb** — `Libusb` records its side: which transfers it owns, and the
  calls made to it. It calls back exactly once for each accepted submission.
* **the invariant** — `Valid` relates the session's flags to libusb's side;
  `Step.valid` is the step lemma and `reachable_valid` the run lemma.
-/

namespace Handycam

/-! ## Session events -/

/-- `Instant`, in nanoseconds from the earliest one that can be represented. -/
abbrev Instant : Type := ℕ

/-- What callbacks report to the owning thread. -/
inductive SessionEvent where
  /-- a packet was received -/
  | packet (endpoint : Endpoint) (data : List UInt8) (receivedAt : Instant)
  /-- the descriptor of a packet failed -/
  | packetError (endpoint : Endpoint) (status : ℤ)
  /-- a transfer failed -/
  | transferFailed (endpoint : Endpoint) (status : ℤ)
  /-- a transfer could not be submitted again -/
  | submitFailed (endpoint : Endpoint) (error : ℤ)
  /-- the callback panicked -/
  | callbackPanicked
  deriving DecidableEq

/-- The events after which the session delivers no more packets. -/
def SessionEvent.endsSession : SessionEvent → Bool
  | .transferFailed _ _ => true
  | .submitFailed _ _ => true
  | .callbackPanicked => true
  | _ => false

/-- Counters of a session; they wrap. -/
structure SessionStats where
  /-- descriptors completed -/
  packets : UInt64 := 0
  /-- packets with a payload -/
  nonemptyPackets : UInt64 := 0
  /-- failed descriptors -/
  packetErrors : UInt64 := 0
  /-- payload bytes -/
  bytes : UInt64 := 0
  /-- failed transfers -/
  transferErrors : UInt64 := 0
  deriving DecidableEq

/-! ## Callbacks -/

/-- `LIBUSB_TRANSFER_COMPLETED`. -/
def transferCompleted : ℤ := 0

/-- `LIBUSB_TRANSFER_CANCELLED`. -/
def transferCancelled : ℤ := 3

/-- `LIBUSB_TRANSFER_OVERFLOW`. -/
def transferOverflow : ℤ := 6

/-- `TRANSFERS_PER_ENDPOINT`. -/
def transfersPerEndpoint : ℕ := 32

/-- The size of an endpoint's packets. -/
def packetSize : Endpoint → ℕ
  | .boundary => 8
  | .video => 768

/-- What libusb leaves in a transfer before it calls back. -/
structure Completion where
  /-- status of the transfer -/
  transferStatus : ℤ
  /-- status of its descriptor -/
  descriptorStatus : ℤ
  /-- bytes received, by the descriptor -/
  actualLength : ℕ
  /-- contents of the buffer -/
  buffer : List UInt8
  /-- when the callback starts -/
  receivedAt : Instant

/-- What a callback does to the state it shares with the owning thread. -/
inductive Effect where
  /-- `stats.packets.fetch_add(1)` -/
  | packets
  /-- `stats.nonempty_packets.fetch_add(1)` -/
  | nonemptyPackets
  /-- `stats.packet_errors.fetch_add(1)` -/
  | packetErrors
  /-- `stats.bytes.fetch_add(length)` -/
  | bytes (length : ℕ)
  /-- `stats.transfer_errors.fetch_add(1)` -/
  | transferErrors
  /-- `running.store(false)` -/
  | stopRunning
  /-- `events.send(event)` -/
  | send (event : SessionEvent)

/-- The effects of a callback before it resubmits the transfer, in order. -/
def completionEffects (endpoint : Endpoint) (completion : Completion) : List Effect :=
  if completion.transferStatus = transferCompleted then
    if completion.descriptorStatus = transferCompleted then
      if completion.buffer.length < completion.actualLength then
        [.packets, .packetErrors, .send (.packetError endpoint transferOverflow)]
      else if 0 < completion.actualLength then
        [.packets, .nonemptyPackets, .bytes completion.actualLength,
          .send (.packet endpoint (completion.buffer.take completion.actualLength)
            completion.receivedAt)]
      else
        [.packets]
    else
      [.packets, .packetErrors, .send (.packetError endpoint completion.descriptorStatus)]
  else if completion.transferStatus ≠ transferCancelled then
    [.transferErrors, .stopRunning, .send (.transferFailed endpoint completion.transferStatus)]
  else
    []

/-! ## Sessions -/

/-- A transfer and what the callback finds with it. -/
structure TransferSlot where
  /-- the libusb transfer -/
  transfer : ℕ
  /-- its endpoint -/
  endpoint : Endpoint
  /-- the length of its buffer -/
  bufferLength : ℕ
  /-- the session believes that libusb owns the transfer -/
  submitted : Bool
  deriving DecidableEq

/-- libusb's side of a session. -/
structure Libusb where
  /-- transfers allocated, in order -/
  allocated : List ℕ
  /-- transfers submitted and not called back yet -/
  owned : Finset ℕ
  /-- calls of `libusb_submit_transfer`, each with `running` at the call -/
  submissions : List (ℕ × Bool)
  /-- calls of `libusb_cancel_transfer` -/
  cancelled : List ℕ
  /-- calls of `libusb_free_transfer`, each with whether libusb owned the transfer -/
  freed : List (ℕ × Bool)

/-- Where the owning thread is. -/
inductive Phase where
  /-- in `allocate_and_submit` -/
  | allocating
  /-- `allocate_and_submit` failed; the session is about to be dropped -/
  | failed
  /-- the session is open -/
  | live
  /-- in `stop`, reaping cancelled transfers -/
  | reaping
  /-- `stop` has returned -/
  | stopped
  deriving DecidableEq

/-- A session. -/
structure UsbSession where
  /-- where the owning thread is -/
  phase : Phase
  /-- the transfers -/
  slots : List TransferSlot
  /-- callbacks may resubmit -/
  running : Bool
  /-- `stop` has been called -/
  stopped : Bool
  /-- everything ever sent on the event channel -/
  events : List SessionEvent
  /-- the counters -/
  stats : SessionStats
  /-- libusb's side -/
  libusb : Libusb

namespace UsbSession

/-- A session before its first allocation. -/
def initial : UsbSession where
  phase := .allocating
  slots := []
  running := true
  stopped := false
  events := []
  stats := {}
  libusb := ⟨[], ∅, [], [], []⟩

variable (session : UsbSession)

/-- Send an event. -/
def send (event : SessionEvent) : UsbSession :=
  { session with events := session.events ++ [event] }

/-- Store a slot's `submitted` flag. -/
def setSubmitted (index : ℕ) (submitted : Bool) : UsbSession :=
  { session with slots := session.slots.modify index fun slot => { slot with submitted := submitted } }

/-- `libusb_submit_transfer`: accepted when the result is zero. -/
def submit (transfer : ℕ) (result : ℤ) : UsbSession :=
  { session with libusb :=
      { session.libusb with
        submissions := session.libusb.submissions ++ [(transfer, session.running)]
        owned := if result = 0 then insert transfer session.libusb.owned else session.libusb.owned } }

/-- One effect of a callback. -/
def applyEffect : Effect → UsbSession
  | .packets => { session with stats.packets := session.stats.packets + 1 }
  | .nonemptyPackets =>
    { session with stats.nonemptyPackets := session.stats.nonemptyPackets + 1 }
  | .packetErrors => { session with stats.packetErrors := session.stats.packetErrors + 1 }
  | .bytes length => { session with stats.bytes := session.stats.bytes + UInt64.ofNat length }
  | .transferErrors => { session with stats.transferErrors := session.stats.transferErrors + 1 }
  | .stopRunning => { session with running := false }
  | .send event => session.send event

/-- Several effects, in order. -/
def applyEffects (effects : List Effect) : UsbSession := effects.foldl applyEffect session

/-- libusb gives a transfer back and calls. -/
def release (transfer : ℕ) : UsbSession :=
  { session with libusb := { session.libusb with owned := session.libusb.owned.erase transfer } }

/-- The end of `handle_transfer_callback`: submit again while the session runs. -/
def resubmit (index : ℕ) (slot : TransferSlot) (result : ℤ) : UsbSession :=
  if session.running then
    let session := session.submit slot.transfer result
    if result = 0 then session
    else
      ({ session with running := false }.send (.submitFailed slot.endpoint result)).setSubmitted
        index false
  else session.setSubmitted index false

/-- `handle_transfer_callback`. -/
def handleTransferCallback (index : ℕ) (slot : TransferSlot) (completion : Completion)
    (result : ℤ) : UsbSession :=
  (session.applyEffects (completionEffects slot.endpoint completion)).resubmit index slot result

/-- What `transfer_callback` does after it caught a panic. -/
def recover (index : ℕ) : UsbSession :=
  ({ session with running := false }.setSubmitted index false).send .callbackPanicked

/-- `transfer_callback`. A panic before the resubmission leaves the first
`panicAfter` effects done. -/
def transferCallback (index : ℕ) (slot : TransferSlot) (completion : Completion)
    (panicAfter : Option ℕ) (result : ℤ) : UsbSession :=
  match panicAfter with
  | none => session.handleTransferCallback index slot completion result
  | some count =>
    (session.applyEffects ((completionEffects slot.endpoint completion).take count)).recover index

/-- The endpoint of a slot, by its index. -/
def slotEndpoint (index : ℕ) : Endpoint := if index % 2 = 0 then .boundary else .video

/-- One turn of `allocate_and_submit`; `allocated` says whether libusb had a
transfer, `result` whether it took it. -/
def allocateAndSubmit (allocated : Bool) (result : ℤ) : UsbSession :=
  let index := session.slots.length
  let endpoint := slotEndpoint index
  if allocated then
    let session : UsbSession :=
      { session with
        slots := session.slots ++ [⟨index, endpoint, packetSize endpoint, false⟩]
        libusb := { session.libusb with allocated := session.libusb.allocated ++ [index] } }
    let session := session.submit index result
    if result ≠ 0 then { session with phase := .failed }
    else
      let session := session.setSubmitted index true
      if session.slots.length = transfersPerEndpoint * 2 then { session with phase := .live }
      else session
  else { session with phase := .failed }

/-- The first half of `stop`: no more submissions, and everything in flight is
cancelled. A session already stopped returns at once. -/
def beginStop : UsbSession :=
  if session.stopped then session
  else
    { session with
      phase := .reaping
      stopped := true
      running := false
      libusb :=
        { session.libusb with
          cancelled := session.libusb.cancelled ++
            (session.slots.filter TransferSlot.submitted).map TransferSlot.transfer } }

/-- The second half of `stop`, once every transfer has been reaped. -/
def finishStop : UsbSession :=
  { session with
    phase := .stopped
    slots := []
    libusb :=
      { session.libusb with
        freed := session.libusb.freed ++
          session.slots.map fun slot =>
            (slot.transfer, decide (slot.transfer ∈ session.libusb.owned)) } }

end UsbSession

/-- What can happen to a session. Callbacks come from `handle_events`, which
the owning thread calls while the session is open and while it reaps. -/
inductive Step : UsbSession → UsbSession → Prop where
  /-- the next transfer is allocated and submitted, or either fails -/
  | allocate {session : UsbSession} (allocated : Bool) (result : ℤ)
      (phase : session.phase = .allocating) :
      Step session (session.allocateAndSubmit allocated result)
  /-- libusb calls back for a transfer it owns -/
  | callback {session : UsbSession} (index : ℕ) (slot : TransferSlot) (completion : Completion)
      (panicAfter : Option ℕ) (result : ℤ)
      (phase : session.phase = .live ∨ session.phase = .reaping)
      (atIndex : session.slots[index]? = some slot)
      (owned : slot.transfer ∈ session.libusb.owned)
      (buffer : completion.buffer.length = slot.bufferLength) :
      Step session ((session.release slot.transfer).transferCallback index slot completion
        panicAfter result)
  /-- `stop` or `drop` begins -/
  | beginStop {session : UsbSession} : Step session session.beginStop
  /-- `stop` ends its loop: no slot is marked as submitted -/
  | finishStop {session : UsbSession} (phase : session.phase = .reaping)
      (reaped : ∀ slot ∈ session.slots, slot.submitted = false) :
      Step session session.finishStop

/-- The sessions that can come about. -/
def Reachable (session : UsbSession) : Prop := Relation.ReflTransGen Step .initial session

/-! ## What a callback does -/

namespace UsbSession

variable {session : UsbSession}

/-- Effects before the resubmission leave the transfers alone. -/
theorem applyEffects_frame (session : UsbSession) (effects : List Effect) :
    (session.applyEffects effects).phase = session.phase ∧
      (session.applyEffects effects).stopped = session.stopped ∧
      (session.applyEffects effects).slots = session.slots ∧
      (session.applyEffects effects).libusb = session.libusb ∧
      session.events <+: (session.applyEffects effects).events := by
  induction effects generalizing session with
  | nil => exact ⟨rfl, rfl, rfl, rfl, List.prefix_rfl⟩
  | cons effect effects ih =>
    obtain ⟨hphase, hstopped, hslots, hlibusb, hevents⟩ := ih (session.applyEffect effect)
    have hfirst : session.events <+: (session.applyEffect effect).events := by
      cases effect with
      | send event => exact List.prefix_append _ _
      | _ => exact List.prefix_rfl
    rw [applyEffects, List.foldl_cons, ← applyEffects, hphase, hstopped, hslots, hlibusb]
    refine ⟨?_, ?_, ?_, ?_, hfirst.trans hevents⟩
    all_goals cases effect <;> rfl

/-- The session stops running in a callback only when it reports a failure. -/
theorem running_completionEffects (session : UsbSession) (endpoint : Endpoint) (completion : Completion) :
    (session.applyEffects (completionEffects endpoint completion)).running = session.running ∨
      (session.applyEffects (completionEffects endpoint completion)).running = false ∧
        ∃ event ∈ (session.applyEffects (completionEffects endpoint completion)).events,
          event.endsSession = true := by
  unfold completionEffects
  split
  · split
    · split
      · exact .inl rfl
      · split <;> exact .inl rfl
    · exact .inl rfl
  · split
    · refine .inr ⟨rfl, .transferFailed endpoint completion.transferStatus, ?_, rfl⟩
      exact List.mem_append_right _ (List.mem_singleton_self _)
    · exact .inl rfl

/-- What a callback can do: submit the transfer again, or leave it with the
session, which then runs no more. -/
theorem transferCallback_cases (index : ℕ) (slot : TransferSlot) (completion : Completion)
    (panicAfter : Option ℕ) (result : ℤ) {next : UsbSession}
    (hnext : session.transferCallback index slot completion panicAfter result = next) :
    (next.phase = session.phase ∧ next.stopped = session.stopped ∧
        session.events <+: next.events ∧ next.libusb.allocated = session.libusb.allocated ∧
        next.libusb.freed = session.libusb.freed) ∧
      (session.running = true ∧ next.running = true ∧ next.slots = session.slots ∧
          next.libusb.owned = insert slot.transfer session.libusb.owned ∧
          next.libusb.submissions = session.libusb.submissions ++ [(slot.transfer, true)] ∨
        next.running = false ∧
          next.slots = session.slots.modify index (fun slot => { slot with submitted := false }) ∧
          next.libusb.owned = session.libusb.owned ∧
          (next.libusb.submissions = session.libusb.submissions ∨
            session.running = true ∧
              next.libusb.submissions = session.libusb.submissions ++ [(slot.transfer, true)]) ∧
          (session.running = true → ∃ event ∈ next.events, event.endsSession = true)) := by
  rcases panicAfter with _ | count
  · obtain ⟨hphase, hstopped, hslots, hlibusb, hevents⟩ :=
      applyEffects_frame session (completionEffects slot.endpoint completion)
    have hrunning := running_completionEffects session slot.endpoint completion
    rw [transferCallback, handleTransferCallback] at hnext
    generalize session.applyEffects (completionEffects slot.endpoint completion) = middle at *
    rw [resubmit] at hnext
    by_cases hrun : middle.running = true
    · have hwas : session.running = true := by
        rcases hrunning with h | ⟨h, -⟩
        · rw [← h, hrun]
        · rw [hrun] at h
          cases h
      rw [if_pos hrun] at hnext
      by_cases hresult : result = 0
      · rw [if_pos hresult] at hnext
        subst hnext
        refine ⟨⟨hphase, hstopped, hevents, ?_, ?_⟩, .inl ⟨hwas, hrun, hslots, ?_, ?_⟩⟩
        all_goals simp [submit, hlibusb, hresult, hrun]
      · rw [if_neg hresult] at hnext
        subst hnext
        refine ⟨⟨hphase, hstopped, hevents.trans (List.prefix_append _ _), ?_, ?_⟩,
          .inr ⟨rfl, ?_, ?_, .inr ⟨hwas, ?_⟩, fun _ => ⟨.submitFailed slot.endpoint result, ?_, rfl⟩⟩⟩
        all_goals simp [submit, send, setSubmitted, hlibusb, hslots, hresult, hrun]
    · rw [if_neg hrun] at hnext
      subst hnext
      have hstop : middle.running = false := Bool.eq_false_iff.mpr hrun
      refine ⟨⟨hphase, hstopped, hevents, ?_, ?_⟩, .inr ⟨hstop, ?_, ?_, .inl ?_, fun hwas => ?_⟩⟩
      case refine_6 =>
        rcases hrunning with h | ⟨-, h⟩
        · rw [hstop, hwas] at h
          cases h
        · exact h
      all_goals simp [setSubmitted, hlibusb, hslots]
  · obtain ⟨hphase, hstopped, hslots, hlibusb, hevents⟩ := applyEffects_frame session
      ((completionEffects slot.endpoint completion).take count)
    rw [transferCallback] at hnext
    generalize session.applyEffects ((completionEffects slot.endpoint completion).take count) =
      middle at *
    subst hnext
    refine ⟨⟨hphase, hstopped, hevents.trans (List.prefix_append _ _), ?_, ?_⟩,
      .inr ⟨rfl, ?_, ?_, .inl ?_, fun _ => ⟨.callbackPanicked, ?_, rfl⟩⟩⟩
    all_goals simp [recover, send, setSubmitted, hlibusb, hslots]

theorem modify_concat {α : Type} (f : α → α) (as : List α) (a : α) :
    (as ++ [a]).modify as.length f = as ++ [f a] := by
  induction as with
  | nil => rfl
  | cons b as ih => simp [ih]

/-- A transfer that libusb took. -/
theorem allocateAndSubmit_ok :
    session.allocateAndSubmit true 0 =
      { session with
        phase := if session.slots.length + 1 = transfersPerEndpoint * 2 then .live
          else session.phase
        slots := session.slots ++ [⟨session.slots.length, slotEndpoint session.slots.length,
          packetSize (slotEndpoint session.slots.length), true⟩]
        libusb :=
          { session.libusb with
            allocated := session.libusb.allocated ++ [session.slots.length]
            submissions := session.libusb.submissions ++ [(session.slots.length, session.running)]
            owned := insert session.slots.length session.libusb.owned } } := by
  simp only [allocateAndSubmit, submit, setSubmitted, modify_concat, List.length_append,
    List.length_singleton]
  by_cases hfull : session.slots.length + 1 = transfersPerEndpoint * 2 <;> simp [hfull]

/-- A transfer that libusb refused. -/
theorem allocateAndSubmit_refused {result : ℤ} (h : result ≠ 0) :
    session.allocateAndSubmit true result =
      { session with
        phase := .failed
        slots := session.slots ++ [⟨session.slots.length, slotEndpoint session.slots.length,
          packetSize (slotEndpoint session.slots.length), false⟩]
        libusb :=
          { session.libusb with
            allocated := session.libusb.allocated ++ [session.slots.length]
            submissions :=
              session.libusb.submissions ++ [(session.slots.length, session.running)] } } := by
  simp [allocateAndSubmit, submit, h]

end UsbSession

/-! ## The invariant -/

/-- What holds of every session that can come about. -/
structure Valid (session : UsbSession) : Prop where
  /-- a slot's index is its transfer, and it is marked as submitted exactly
  when libusb owns the transfer -/
  slot : ∀ (index : ℕ) (slot : TransferSlot), session.slots[index]? = some slot →
    slot.transfer = index ∧ (slot.submitted = true ↔ index ∈ session.libusb.owned)
  /-- libusb owns transfers of the session only -/
  owned : ∀ transfer ∈ session.libusb.owned, transfer < session.slots.length
  /-- transfers were submitted by a running session only -/
  submissions : ∀ submission ∈ session.libusb.submissions, submission.2 = true
  /-- no transfer was freed while libusb owned it -/
  freed : ∀ free ∈ session.libusb.freed, free.2 = false
  /-- the flag follows the owning thread -/
  stopped : session.stopped = true ↔ session.phase = .reaping ∨ session.phase = .stopped
  /-- a session that stops runs no more -/
  quiet : session.stopped = true → session.running = false
  /-- until it has stopped, the session has every transfer ever allocated -/
  pool : session.phase ≠ .stopped →
    session.libusb.freed = [] ∧ session.libusb.allocated = List.range session.slots.length
  /-- while transfers are allocated, all of them are in flight -/
  filling : session.phase = .allocating → session.running = true ∧
    session.slots.length < transfersPerEndpoint * 2 ∧
      ∀ slot ∈ session.slots, slot.submitted = true
  /-- an open session has all its transfers in flight, or has reported its end -/
  pipeline : session.phase = .live → session.slots.length = transfersPerEndpoint * 2 ∧
    (session.running = true → ∀ slot ∈ session.slots, slot.submitted = true) ∧
    (session.running = false → ∃ event ∈ session.events, event.endsSession = true)
  /-- a stopped session has freed every transfer once -/
  drained : session.phase = .stopped → session.slots = [] ∧
    session.libusb.freed.map Prod.fst = session.libusb.allocated ∧
      session.libusb.allocated.Nodup

theorem valid_initial : Valid .initial := by
  constructor <;> simp [UsbSession.initial, transfersPerEndpoint]

namespace Valid

variable {session : UsbSession}

theorem length_notMem (h : Valid session) : session.slots.length ∉ session.libusb.owned :=
  fun hmem => absurd (h.owned _ hmem) (Nat.lt_irrefl _)

/-- A transfer just submitted, or refused, is marked accordingly. -/
theorem slot_concat (h : Valid session) {endpoint : Endpoint} {bufferLength index : ℕ}
    {submitted : Bool} {slot : TransferSlot}
    (hslot : (session.slots ++ [⟨session.slots.length, endpoint, bufferLength, submitted⟩])[index]? =
      some slot) :
    slot.transfer = index ∧
      (slot.submitted = true ↔ index ∈
        if submitted then insert session.slots.length session.libusb.owned
        else session.libusb.owned) := by
  rcases Nat.lt_trichotomy index session.slots.length with hlt | rfl | hgt
  · rw [List.getElem?_append_left hlt] at hslot
    obtain ⟨htransfer, hiff⟩ := h.slot index slot hslot
    refine ⟨htransfer, hiff.trans ?_⟩
    cases submitted with
    | false => rfl
    | true => simp [hlt.ne]
  · rw [List.getElem?_concat_length] at hslot
    obtain rfl := Option.some.inj hslot
    refine ⟨rfl, ?_⟩
    cases submitted with
    | false => exact iff_of_false (by simp) h.length_notMem
    | true => exact iff_of_true rfl (Finset.mem_insert_self _ _)
  · rw [List.getElem?_eq_none (by simp; omega)] at hslot
    cases hslot

/-- A turn of the allocation loop. -/
theorem allocateAndSubmit (h : Valid session) (allocated : Bool) (result : ℤ)
    (phase : session.phase = .allocating) :
    Valid (session.allocateAndSubmit allocated result) := by
  obtain ⟨hrunning, hlength, hall⟩ := h.filling phase
  obtain ⟨hfreed, halloc⟩ := h.pool (by simp [phase])
  have hstopped : session.stopped = false := by
    rw [Bool.eq_false_iff, ne_eq, h.stopped, phase]
    simp
  have hsubmissions : ∀ submission ∈ session.libusb.submissions ++
      [(session.slots.length, session.running)], submission.2 = true := by
    intro submission hmem
    rcases List.mem_append.mp hmem with hmem | hmem
    · exact h.submissions submission hmem
    · rw [List.mem_singleton.mp hmem, hrunning]
  have hrange : session.libusb.allocated ++ [session.slots.length] =
      List.range (session.slots.length + 1) := by rw [halloc, List.range_succ]
  rcases allocated with _ | _
  · -- libusb has no transfer
    exact
      { slot := h.slot
        owned := h.owned
        submissions := h.submissions
        freed := h.freed
        stopped := by simp [UsbSession.allocateAndSubmit, hstopped]
        quiet := h.quiet
        pool := fun _ => ⟨hfreed, halloc⟩
        filling := fun hphase => by cases hphase
        pipeline := fun hphase => by cases hphase
        drained := fun hphase => by cases hphase }
  · by_cases hresult : result = 0
    · -- submitted: the slot is marked, and the pool may be full
      have hmarked : ∀ slot ∈ session.slots ++ [⟨session.slots.length,
          UsbSession.slotEndpoint session.slots.length,
          packetSize (UsbSession.slotEndpoint session.slots.length), true⟩],
          slot.submitted = true := by
        intro slot hmem
        rcases List.mem_append.mp hmem with hmem | hmem
        · exact hall slot hmem
        · rw [List.mem_singleton.mp hmem]
      subst hresult
      rw [UsbSession.allocateAndSubmit_ok]
      exact
        { slot := fun index slot hslot => h.slot_concat hslot
          owned := by
            intro transfer hmem
            rw [List.length_append, List.length_singleton]
            rcases Finset.mem_insert.mp hmem with rfl | hmem
            · exact Nat.lt_succ_self _
            · exact Nat.lt_succ_of_lt (h.owned transfer hmem)
          submissions := hsubmissions
          freed := h.freed
          stopped := by
            dsimp only
            split <;> simp [hstopped, phase]
          quiet := h.quiet
          pool := fun _ => ⟨hfreed, by simpa using hrange⟩
          filling := by
            intro hphase
            refine ⟨hrunning, ?_, hmarked⟩
            dsimp only at hphase
            split at hphase
            · cases hphase
            · simp only [List.length_append, List.length_singleton]
              omega
          pipeline := by
            intro hphase
            dsimp only at hphase
            split at hphase
            case isTrue hfull =>
              refine ⟨by simpa using hfull, fun _ => hmarked, fun hquiet => ?_⟩
              rw [hrunning] at hquiet
              cases hquiet
            case isFalse =>
              rw [phase] at hphase
              cases hphase
          drained := by
            intro hphase
            dsimp only at hphase
            split at hphase
            · cases hphase
            · rw [phase] at hphase
              cases hphase }
    · -- refused: the slot stays in the pool, unmarked
      rw [UsbSession.allocateAndSubmit_refused hresult]
      exact
        { slot := fun index slot hslot => h.slot_concat hslot
          owned := by
            intro transfer hmem
            rw [List.length_append]
            exact Nat.lt_add_right _ (h.owned transfer hmem)
          submissions := hsubmissions
          freed := h.freed
          stopped := by simp [hstopped]
          quiet := h.quiet
          pool := fun _ => ⟨hfreed, by simpa using hrange⟩
          filling := fun hphase => by cases hphase
          pipeline := fun hphase => by cases hphase
          drained := fun hphase => by cases hphase }

/-- A callback. -/
theorem transferCallback (h : Valid session) {index : ℕ} {slot : TransferSlot}
    (completion : Completion) (panicAfter : Option ℕ) (result : ℤ)
    (phase : session.phase = .live ∨ session.phase = .reaping)
    (atIndex : session.slots[index]? = some slot) (howned : slot.transfer ∈ session.libusb.owned) :
    Valid ((session.release slot.transfer).transferCallback index slot completion panicAfter
      result) := by
  obtain ⟨rfl, hiff⟩ := h.slot index slot atIndex
  generalize hnext : (session.release slot.transfer).transferCallback slot.transfer slot completion
    panicAfter result = next
  obtain ⟨⟨hphase, hstopped, hevents, halloc, hfreed⟩, hcases⟩ :=
    UsbSession.transferCallback_cases slot.transfer slot completion panicAfter result hnext
  change next.phase = session.phase at hphase
  change next.stopped = session.stopped at hstopped
  change session.events <+: next.events at hevents
  change next.libusb.allocated = session.libusb.allocated at halloc
  change next.libusb.freed = session.libusb.freed at hfreed
  have hnotStopped : next.phase ≠ .stopped := by
    rw [hphase]
    rcases phase with phase | phase <;> simp [phase]
  have hnotAllocating : next.phase ≠ .allocating := by
    rw [hphase]
    rcases phase with phase | phase <;> simp [phase]
  rcases hcases with ⟨hwas, hruns, hslots, howns, hsubmissions⟩ |
    ⟨hruns, hslots, howns, hsubmissions, hended⟩
  · -- submitted again: libusb owns what it owned before
    change next.slots = session.slots at hslots
    have hsame : next.libusb.owned = session.libusb.owned := by
      rw [howns]
      exact Finset.insert_erase howned
    exact
      { slot := by
          rw [hslots, hsame]
          exact h.slot
        owned := by
          rw [hslots, hsame]
          exact h.owned
        submissions := by
          intro submission hmem
          rw [hsubmissions] at hmem
          rcases List.mem_append.mp hmem with hmem | hmem
          · exact h.submissions submission hmem
          · rw [List.mem_singleton.mp hmem]
        freed := by
          rw [hfreed]
          exact h.freed
        stopped := by
          rw [hstopped, hphase]
          exact h.stopped
        quiet := by
          intro hstop
          rw [hstopped] at hstop
          have hquiet := h.quiet hstop
          rw [show session.running = true from hwas] at hquiet
          cases hquiet
        pool := by
          rw [hphase, hfreed, halloc, hslots]
          exact h.pool
        filling := fun hfill => absurd hfill hnotAllocating
        pipeline := by
          intro hlive
          rw [hphase] at hlive
          obtain ⟨hlength, hall, -⟩ := h.pipeline hlive
          rw [hslots]
          refine ⟨hlength, fun _ => hall hwas, fun hquiet => ?_⟩
          rw [hruns] at hquiet
          cases hquiet
        drained := fun hdrain => absurd hdrain hnotStopped }
  · -- left with the session: unmarked, and not libusb's any more
    change next.slots = session.slots.modify slot.transfer (fun slot =>
      { slot with submitted := false }) at hslots
    change next.libusb.owned = session.libusb.owned.erase slot.transfer at howns
    have hlength : next.slots.length = session.slots.length := by
      rw [hslots, List.length_modify]
    exact
      { slot := by
          intro index other hother
          rw [hslots] at hother
          rw [howns]
          by_cases heq : slot.transfer = index
          · subst heq
            rw [List.getElem?_modify_eq, atIndex] at hother
            obtain rfl := Option.some.inj hother
            exact ⟨rfl, iff_of_false (by simp) (Finset.notMem_erase _ _)⟩
          · rw [List.getElem?_modify_ne _ _ heq] at hother
            obtain ⟨htransfer, hother⟩ := h.slot index other hother
            refine ⟨htransfer, hother.trans ?_⟩
            rw [Finset.mem_erase]
            exact (and_iff_right (Ne.symm heq)).symm
        owned := by
          rw [hlength, howns]
          exact fun transfer hmem => h.owned transfer (Finset.mem_of_mem_erase hmem)
        submissions := by
          intro submission hmem
          rcases hsubmissions with heq | ⟨-, heq⟩
          · rw [heq] at hmem
            exact h.submissions submission hmem
          · rw [heq] at hmem
            rcases List.mem_append.mp hmem with hmem | hmem
            · exact h.submissions submission hmem
            · rw [List.mem_singleton.mp hmem]
        freed := by
          rw [hfreed]
          exact h.freed
        stopped := by
          rw [hstopped, hphase]
          exact h.stopped
        quiet := fun _ => hruns
        pool := by
          rw [hphase, hfreed, halloc, hlength]
          exact h.pool
        filling := fun hfill => absurd hfill hnotAllocating
        pipeline := by
          intro hlive
          rw [hphase] at hlive
          obtain ⟨hfull, -, hreported⟩ := h.pipeline hlive
          rw [hlength]
          refine ⟨hfull, fun hrun => ?_, fun _ => ?_⟩
          · rw [hruns] at hrun
            cases hrun
          · rcases hwas : session.running with _ | _
            · obtain ⟨event, hmem, hends⟩ := hreported hwas
              exact ⟨event, hevents.subset hmem, hends⟩
            · exact hended hwas
        drained := fun hdrain => absurd hdrain hnotStopped }

/-- The beginning of a stop. -/
theorem beginStop (h : Valid session) : Valid session.beginStop := by
  rw [UsbSession.beginStop]
  split
  case isTrue => exact h
  case isFalse hstopped =>
    have hnot : session.phase ≠ .stopped := fun hphase => hstopped (h.stopped.mpr (.inr hphase))
    exact
      { slot := h.slot
        owned := h.owned
        submissions := h.submissions
        freed := h.freed
        stopped := iff_of_true rfl (.inl rfl)
        quiet := fun _ => rfl
        pool := fun _ => h.pool hnot
        filling := fun hphase => by cases hphase
        pipeline := fun hphase => by cases hphase
        drained := fun hphase => by cases hphase }

/-- The end of a stop. -/
theorem finishStop (h : Valid session) (phase : session.phase = .reaping)
    (reaped : ∀ slot ∈ session.slots, slot.submitted = false) : Valid session.finishStop := by
  obtain ⟨hfreed, halloc⟩ := h.pool (by simp [phase])
  have hstopped : session.stopped = true := h.stopped.mpr (.inl phase)
  -- what is not marked as submitted is not libusb's either
  have hnone : ∀ transfer, transfer ∉ session.libusb.owned := by
    intro transfer hmem
    have hlt := h.owned transfer hmem
    obtain ⟨-, hiff⟩ := h.slot transfer session.slots[transfer] (List.getElem?_eq_getElem hlt)
    rw [reaped _ (List.getElem_mem hlt)] at hiff
    exact absurd (hiff.mpr hmem) (by simp)
  have htransfers : session.slots.map TransferSlot.transfer = List.range session.slots.length := by
    refine List.ext_getElem (by simp) fun n hn _ => ?_
    rw [List.length_map] at hn
    rw [List.getElem_map, List.getElem_range]
    exact (h.slot n _ (List.getElem?_eq_getElem hn)).1
  exact
    { slot := fun index slot hslot => by simp [UsbSession.finishStop] at hslot
      owned := fun transfer hmem => absurd hmem (hnone transfer)
      submissions := h.submissions
      freed := by
        intro free hfree
        simp only [UsbSession.finishStop, hfreed, List.nil_append, List.mem_map] at hfree
        obtain ⟨slot, -, rfl⟩ := hfree
        exact decide_eq_false (hnone slot.transfer)
      stopped := iff_of_true hstopped (.inr rfl)
      quiet := fun _ => h.quiet hstopped
      pool := fun hphase => absurd rfl hphase
      filling := fun hphase => by cases hphase
      pipeline := fun hphase => by cases hphase
      drained := by
        intro _
        refine ⟨rfl, ?_, ?_⟩
        · simp only [UsbSession.finishStop, hfreed, List.nil_append, List.map_map, halloc]
          exact htransfers
        · simp only [UsbSession.finishStop, halloc]
          exact List.nodup_range }

end Valid

/-- **Every step keeps the invariant.** -/
theorem Step.valid {session next : UsbSession} (step : Step session next) (h : Valid session) :
    Valid next := by
  cases step with
  | allocate allocated result phase => exact h.allocateAndSubmit allocated result phase
  | callback index slot completion panicAfter result phase atIndex owned buffer =>
    obtain ⟨rfl, -⟩ := h.slot index slot atIndex
    exact h.transferCallback completion panicAfter result phase atIndex owned
  | beginStop => exact h.beginStop
  | finishStop phase reaped => exact h.finishStop phase reaped

/-- Every session that can come about satisfies the invariant. -/
theorem reachable_valid {session : UsbSession} (h : Reachable session) : Valid session := by
  induction h with
  | refl => exact valid_initial
  | tail _ step ih => exact step.valid ih

/-! ## Runs -/

/-- A session that runs no more submits nothing, and never runs again. -/
theorem Step.quiet {session next : UsbSession} (step : Step session next) (h : Valid session)
    (hquiet : session.running = false) :
    next.running = false ∧ next.libusb.submissions = session.libusb.submissions := by
  cases step with
  | allocate allocated result phase =>
    have hrunning := (h.filling phase).1
    rw [hquiet] at hrunning
    cases hrunning
  | callback index slot completion panicAfter result phase atIndex owned buffer =>
    obtain ⟨-, ⟨hwas, -⟩ | ⟨hruns, -, -, hsubmissions, -⟩⟩ :=
      UsbSession.transferCallback_cases index slot completion panicAfter result rfl
    · rw [show (session.release slot.transfer).running = false from hquiet] at hwas
      cases hwas
    · refine ⟨hruns, ?_⟩
      rcases hsubmissions with heq | ⟨hwas, -⟩
      · exact heq
      · rw [show (session.release slot.transfer).running = false from hquiet] at hwas
        cases hwas
  | beginStop =>
    rw [UsbSession.beginStop]
    split
    · exact ⟨hquiet, rfl⟩
    · exact ⟨rfl, rfl⟩
  | finishStop => exact ⟨hquiet, rfl⟩

/-- Once a session has stopped, nothing that may happen to it changes it. -/
theorem Step.stopped {session next : UsbSession} (step : Step session next)
    (hstopped : session.stopped = true) (phase : session.phase = .stopped) : next = session := by
  cases step with
  | allocate _ _ hphase =>
    rw [phase] at hphase
    cases hphase
  | callback _ _ _ _ _ hphase =>
    rw [phase] at hphase
    rcases hphase with hphase | hphase <;> cases hphase
  | beginStop => exact if_pos hstopped
  | finishStop hphase =>
    rw [phase] at hphase
    cases hphase

/-- A reaping session gives up one transfer with each callback, so that its
loop ends when libusb has called back for all of them. -/
theorem reaping_callback {session : UsbSession} (h : Valid session)
    (phase : session.phase = .reaping) {index : ℕ} {slot : TransferSlot} (completion : Completion)
    (panicAfter : Option ℕ) (result : ℤ) (owned : slot.transfer ∈ session.libusb.owned) :
    ((session.release slot.transfer).transferCallback index slot completion panicAfter
      result).libusb.owned.card < session.libusb.owned.card := by
  have hquiet : session.running = false := h.quiet (h.stopped.mpr (.inl phase))
  obtain ⟨-, ⟨hwas, -⟩ | ⟨-, -, howns, -, -⟩⟩ :=
    UsbSession.transferCallback_cases index slot completion panicAfter result rfl
  · rw [show (session.release slot.transfer).running = false from hquiet] at hwas
    cases hwas
  · rw [howns]
    exact Finset.card_erase_lt_of_mem owned

theorem reaped_of_owned_empty {session : UsbSession} (h : Valid session)
    (hempty : session.libusb.owned = ∅) : ∀ slot ∈ session.slots, slot.submitted = false := by
  intro slot hmem
  obtain ⟨index, hindex⟩ := List.getElem?_of_mem hmem
  obtain ⟨-, hiff⟩ := h.slot index slot hindex
  rw [hempty] at hiff
  exact Bool.eq_false_iff.mpr fun hsubmitted => absurd (hiff.mp hsubmitted) (Finset.notMem_empty _)

/-- **Transfers are accounted for** in every session that can come about,
whatever libusb answers and whenever a stop, a failure or a panic strikes:

* a slot is marked as submitted exactly when libusb owns its transfer, and
  libusb owns no other transfer;
* an open session has its whole pool in flight, or has reported its end;
* transfers are submitted by a running session only, and a session that runs
  no more submits none from there on;
* no transfer is freed while libusb owns it;
* when `stop` has returned, every transfer has been freed exactly once, and
  further stops change nothing. -/
theorem transfers_accounted {session : UsbSession} (h : Reachable session) :
    ((∀ slot ∈ session.slots,
          (slot.submitted = true ↔ slot.transfer ∈ session.libusb.owned)) ∧
        ∀ transfer ∈ session.libusb.owned, ∃ slot ∈ session.slots, slot.transfer = transfer) ∧
      (session.phase = .live →
        session.slots.length = 64 ∧ (∀ slot ∈ session.slots, slot.transfer ∈ session.libusb.owned) ∨
          ∃ event ∈ session.events, event.endsSession = true) ∧
      ((∀ submission ∈ session.libusb.submissions, submission.2 = true) ∧
        (session.running = false → ∀ next, Relation.ReflTransGen Step session next →
          next.running = false ∧ next.libusb.submissions = session.libusb.submissions)) ∧
      (∀ free ∈ session.libusb.freed, free.2 = false) ∧
      (session.phase = .stopped →
        session.libusb.freed.map Prod.fst = session.libusb.allocated ∧
          session.libusb.allocated.Nodup ∧
          ∀ next, Relation.ReflTransGen Step session next → next = session) := by
  have hvalid := reachable_valid h
  have hmarked : ∀ slot ∈ session.slots,
      (slot.submitted = true ↔ slot.transfer ∈ session.libusb.owned) := by
    intro slot hmem
    obtain ⟨index, hindex⟩ := List.getElem?_of_mem hmem
    obtain ⟨rfl, hiff⟩ := hvalid.slot index slot hindex
    exact hiff
  refine ⟨⟨hmarked, ?_⟩, ?_, ⟨hvalid.submissions, ?_⟩, hvalid.freed, ?_⟩
  · intro transfer hmem
    have hlt := hvalid.owned transfer hmem
    exact ⟨_, List.getElem_mem hlt, (hvalid.slot transfer _ (List.getElem?_eq_getElem hlt)).1⟩
  · intro phase
    obtain ⟨hlength, hall, hreported⟩ := hvalid.pipeline phase
    rcases hrunning : session.running with _ | _
    · exact .inr (hreported hrunning)
    · exact .inl ⟨hlength, fun slot hmem => (hmarked slot hmem).mp (hall hrunning slot hmem)⟩
  · intro hquiet next hrun
    induction hrun with
    | refl => exact ⟨hquiet, rfl⟩
    | tail hrun step ih =>
      obtain ⟨hmiddle, hsubmissions⟩ := ih
      obtain ⟨hnext, heq⟩ := step.quiet (reachable_valid (h.trans hrun)) hmiddle
      exact ⟨hnext, heq.trans hsubmissions⟩
  · intro phase
    obtain ⟨-, hfreed, hnodup⟩ := hvalid.drained phase
    refine ⟨hfreed, hnodup, fun next hrun => ?_⟩
    induction hrun with
    | refl => rfl
    | tail hrun step ih =>
      subst ih
      exact step.stopped (hvalid.stopped.mpr (.inr phase)) phase

/-- The completion of a cancelled transfer. -/
def cancelledCompletion (endpoint : Endpoint) : Completion where
  transferStatus := transferCancelled
  descriptorStatus := transferCompleted
  actualLength := 0
  buffer := List.replicate (packetSize endpoint) 0
  receivedAt := 0

/-- A session that got two transfers and then no more, was dropped, and had
its two transfers called back, the second with a panic. -/
def droppedSession : UsbSession :=
  let opened := ((UsbSession.initial.allocateAndSubmit true 0).allocateAndSubmit true
    0).allocateAndSubmit false 0
  let stopping := opened.beginStop
  let first := (stopping.release 0).transferCallback 0 ⟨0, .boundary, 8, true⟩
    (cancelledCompletion .boundary) none 0
  let second := (first.release 1).transferCallback 1 ⟨1, .video, 768, true⟩
    (cancelledCompletion .video) (some 0) 0
  second.finishStop.beginStop

theorem droppedSession_reachable : Reachable droppedSession := by
  refine .tail (.tail (.tail (.tail (.tail (.tail (.tail (.tail .refl (.allocate true 0 rfl))
    (.allocate true 0 rfl)) (.allocate false 0 rfl)) .beginStop)
    (.callback 0 ⟨0, .boundary, 8, true⟩ (cancelledCompletion .boundary) none 0 (.inr rfl) rfl
      (by decide) rfl))
    (.callback 1 ⟨1, .video, 768, true⟩ (cancelledCompletion .video) (some 0) 0 (.inr rfl) rfl
      (by decide) (List.length_replicate ..)))
    (.finishStop rfl (by decide))) .beginStop

theorem transfers_accounted_dropped :
    droppedSession.libusb.freed.map Prod.fst = droppedSession.libusb.allocated ∧
      droppedSession.libusb.allocated.Nodup := by
  obtain ⟨-, -, -, -, hstopped⟩ := transfers_accounted droppedSession_reachable
  obtain ⟨hfreed, hnodup, -⟩ := hstopped rfl
  exact ⟨hfreed, hnodup⟩

end Handycam
