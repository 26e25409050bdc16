import Mathlib.Data.Int.Notation
import Handycam.InitPlan
import Handycam.Trace

/-!
# Replaying an initialization plan

`replayInitialization` sends the operations of a plan to the camera. Under the
two polling strategies, the status reads that the recording has after a startup
scan are replaced by polling until the camera acknowledges the scan.

* **the camera** — any state machine that answers requests, with a clock that
  sleeping moves and nothing turns back;
* **the log** — what was slept and what was sent, each request with its answer.
  `Replays` relates logs to plans: it is the literal replay except for runs of
  status reads that an acknowledgement stands for.
-/

namespace Handycam

/-! ## The camera -/

/-- A control request to the camera. -/
inductive Request where
  /-- `DeviceHandle::read_control` into a buffer -/
  | readControl (requestType request : UInt8) (value index : UInt16) (length : ℕ)
  /-- `DeviceHandle::write_control` -/
  | writeControl (requestType request : UInt8) (value index : UInt16) (data : List UInt8)
  /-- `DeviceHandle::set_alternate_setting` -/
  | setAlternateSetting (interface alternate : UInt8)

/-- What a request returns when it succeeds: the bytes read, or how many were
written. -/
def Request.Answer : Request → Type
  | .readControl _ _ _ _ _ => List UInt8
  | .writeControl _ _ _ _ _ => ℕ
  | .setAlternateSetting _ _ => Unit

/-- The requests that may change the camera: writes and interface settings. -/
def Request.isCommand : Request → Bool
  | .readControl _ _ _ _ _ => false
  | _ => true

/-- A camera with states `σ`, and the clock of the host. Errors are codes of
libusb. -/
structure Camera (σ : Type) where
  /-- answer a request -/
  transfer : (request : Request) → σ → Except ℤ request.Answer × σ
  /-- `thread::sleep`, in nanoseconds -/
  sleep : ℕ → σ → σ
  /-- `Instant::now`, in nanoseconds -/
  now : σ → ℕ
  /-- sleeping takes the time it should at least -/
  now_sleep : ∀ duration state, now state + duration ≤ now (sleep duration state)
  /-- the clock is monotonic -/
  now_transfer : ∀ request state, now state ≤ now (transfer request state).2

/-- What the host did: it slept for a duration in nanoseconds, or sent a
request. -/
inductive Exchange where
  /-- the thread slept -/
  | slept (duration : ℕ)
  /-- a request was sent, with its answer -/
  | sent (request : Request) (answer : Except ℤ request.Answer)

/-- The request of an exchange. -/
def Exchange.request? : Exchange → Option Request
  | .slept _ => none
  | .sent request _ => some request

/-- A camera's state and what was exchanged with it. -/
structure Bus (σ : Type) where
  /-- the state of the camera and the clock -/
  state : σ
  /-- the exchanges so far -/
  log : List Exchange

/-- `UsbTransportError`, as far as initialization fails with it. -/
inductive TransportError where
  /-- an error of libusb -/
  | usb (code : ℤ)
  /-- a read returned too little -/
  | shortControlRead (index : UInt16) (expected actual : ℕ)
  /-- a write took too little -/
  | shortControlWrite (index : UInt16) (expected actual : ℕ)
  /-- the camera did not acknowledge in time -/
  | statusPollTimeout (token lastStatus : UInt8)
  deriving DecidableEq

section Primitives

variable {σ : Type} (camera : Camera σ)

/-- `thread::sleep`. -/
def sleep (duration : ℕ) : EStateM TransportError (Bus σ) Unit :=
  modify fun bus => ⟨camera.sleep duration bus.state, bus.log ++ [.slept duration]⟩

/-- Send a request, and return its answer. -/
def transfer (request : Request) : EStateM TransportError (Bus σ) request.Answer := fun bus =>
  let (answer, state) := camera.transfer request bus.state
  match answer with
  | .ok a => .ok a ⟨state, bus.log ++ [.sent request (.ok a)]⟩
  | .error code => .error (.usb code) ⟨state, bus.log ++ [.sent request (.error code)]⟩

/-- `read_control`. -/
def readControl (requestType request : UInt8) (value index : UInt16) (length : ℕ) :
    EStateM TransportError (Bus σ) (List UInt8) :=
  transfer camera (.readControl requestType request value index length)

/-- `write_control`. -/
def writeControl (requestType request : UInt8) (value index : UInt16) (data : List UInt8) :
    EStateM TransportError (Bus σ) ℕ :=
  transfer camera (.writeControl requestType request value index data)

/-- `set_alternate_setting`. -/
def setAlternateSetting (interface alternate : UInt8) : EStateM TransportError (Bus σ) Unit :=
  transfer camera (.setAlternateSetting interface alternate)

end Primitives

/-! ## Operations -/

/-- The request of an operation. -/
def InitOp.toRequest : InitOp → Request
  | .controlIn _ requestType request value index length =>
    .readControl requestType request value index length.toNat
  | .controlOut _ requestType request value index data =>
    .writeControl requestType request value index data
  | .setInterface _ interface alternate => .setAlternateSetting interface alternate

/-- The delay of an operation, in nanoseconds. -/
def InitOp.delay (operation : InitOp) : ℕ := operation.delayUs.toNat * 1000

/-- Send an operation; less than the whole buffer is an error. -/
def execute {σ : Type} (camera : Camera σ) : InitOp → EStateM TransportError (Bus σ) Unit
  | .controlIn _ requestType request value index length => do
    let data ← readControl camera requestType request value index length.toNat
    if data.length ≠ length.toNat then
      throw (.shortControlRead index length.toNat data.length)
  | .controlOut _ requestType request value index data => do
    let actual ← writeControl camera requestType request value index data
    if actual ≠ data.length then
      throw (.shortControlWrite index data.length actual)
  | .setInterface _ interface alternate => setAlternateSetting camera interface alternate

/-! ## Acknowledgements -/

/-- `InitStrategy`. -/
inductive InitStrategy where
  /-- send every recorded operation -/
  | literalReplay
  /-- poll for the `n1` acknowledgement of record mode -/
  | conditionPolling
  /-- poll for the `n9` acknowledgement of playback mode -/
  | playbackConditionPolling
  deriving DecidableEq

/-- The token to wait for after a command. -/
def InitStrategy.acknowledgementToken : InitStrategy → UInt8 → Option UInt8
  | .literalReplay, _ => none
  | .conditionPolling, commandToken => some commandToken
  | .playbackConditionPolling, commandToken => some (commandToken ||| 0x08)

/-- `STARTUP_SCAN_TOKENS`. -/
def startupScanTokens : List UInt8 := [0x71, 0x81, 0x91, 0xa1]

/-- The token of a startup scan. -/
def startupScanToken : InitOp → Option UInt8
  | .controlOut _ _ _ _ index data =>
    if index ≠ commandBlockIndex then none
    else (scanAckToken data).filter startupScanTokens.contains
  | _ => none

/-- The token to wait for after an operation, under a strategy. -/
def InitStrategy.awaited (strategy : InitStrategy) (operation : InitOp) : Option UInt8 :=
  (startupScanToken operation).bind strategy.acknowledgementToken

/-- `STATUS_INDEX`. -/
def statusIndex : UInt16 := 0x0340

/-- `STATUS_SIZE`. -/
def statusSize : ℕ := 64

/-- A recorded read of the status block. -/
def isStatusPoll : InitOp → Bool
  | .controlIn _ requestType request value index length =>
    requestType = 0xc0 ∧ request = 0x88 ∧ value = 0 ∧ index = statusIndex ∧ length = 64
  | _ => false

/-- The position after the status reads at a position. -/
def endOfStatusPollRun (plan : List InitOp) (position : ℕ) : ℕ :=
  if h : position < plan.length then
    if isStatusPoll plan[position] then endOfStatusPollRun plan (position + 1) else position
  else
    position
termination_by plan.length - position

/-- The request of a status read. -/
def statusRequest : Request := .readControl 0xc0 0x88 0 statusIndex statusSize

/-- `STATUS_POLL_INTERVAL`, in nanoseconds. -/
def statusPollInterval : ℕ := 10000000

/-- `STATUS_POLL_TIMEOUT`, in nanoseconds. -/
def statusPollTimeout : ℕ := 500000000

section Polling

variable {σ : Type} (camera : Camera σ)

/-- Read the whole status block. -/
def readStatusBlock : EStateM TransportError (Bus σ) (List UInt8) := do
  let status ← readControl camera 0xc0 0x88 0 statusIndex statusSize
  if status.length ≠ statusSize then
    throw (.shortControlRead statusIndex statusSize status.length)
  return status

/-- One attempt: wait, and read the status. -/
def pollStatus : EStateM TransportError (Bus σ) (List UInt8) := do
  sleep camera statusPollInterval
  readStatusBlock camera

variable {camera}

/-- The clock after a request is what the camera makes of it. -/
theorem now_le_of_transfer {request : Request} {bus next : Bus σ} {answer : request.Answer}
    (h : (transfer camera request).run bus = .ok answer next) :
    camera.now bus.state ≤ camera.now next.state := by
  have hnow := camera.now_transfer request bus.state
  rw [EStateM.run, transfer] at h
  split at h
  next answer' state heq =>
  rw [heq] at hnow
  cases answer' with
  | error code => cases h
  | ok a =>
    cases h
    exact hnow

/-- Each attempt takes time, so that the deadline comes. -/
theorem now_lt_of_pollStatus {bus next : Bus σ} {status : List UInt8}
    (h : (pollStatus camera).run bus = .ok status next) :
    camera.now bus.state < camera.now next.state := by
  have hsleep := camera.now_sleep statusPollInterval bus.state
  have hinterval : 0 < statusPollInterval := by decide
  rw [pollStatus, EStateM.run_bind] at h
  replace h : (readStatusBlock camera).run ⟨camera.sleep statusPollInterval bus.state,
    bus.log ++ [.slept statusPollInterval]⟩ = .ok status next := h
  rw [readStatusBlock, EStateM.run_bind] at h
  split at h
  · next answer after hanswer =>
    have htransfer : camera.now (camera.sleep statusPollInterval bus.state) ≤
        camera.now after.state := now_le_of_transfer hanswer
    have hafter : after = next := by
      split_ifs at h
      · cases h
      · cases h
        rfl
    rw [← hafter]
    omega
  · cases h

variable (camera)

/-- The loop of `poll_status_acknowledgement`. -/
def pollUntil (token : UInt8) (deadline : ℕ) (attempts : ℕ) (bus : Bus σ) :
    EStateM.Result TransportError (Bus σ) ℕ :=
  match hturn : (pollStatus camera).run bus with
  | .error error bus => .error error bus
  | .ok status next =>
    let lastStatus := status.headD 0
    if lastStatus = token then
      .ok (attempts + 1) next
    else if hdeadline : deadline ≤ camera.now next.state then
      .error (.statusPollTimeout token lastStatus) next
    else
      pollUntil token deadline (attempts + 1) next
termination_by deadline - camera.now bus.state
decreasing_by
  have hnow := now_lt_of_pollStatus hturn
  omega

/-- Poll the status until its first byte is the token; the number of attempts. -/
def pollStatusAcknowledgement (token : UInt8) : EStateM TransportError (Bus σ) ℕ := fun bus =>
  pollUntil camera token (camera.now bus.state + statusPollTimeout) 0 bus

/-! ## The replay -/

/-- The loop of `replay_initialization`, from a position. -/
def replayFrom (plan : List InitOp) (strategy : InitStrategy) (position : ℕ) :
    EStateM TransportError (Bus σ) Unit :=
  if h : position < plan.length then do
    let operation := plan[position]
    sleep camera operation.delay
    execute camera operation
    match strategy.awaited operation with
    | none => replayFrom plan strategy (position + 1)
    | some token =>
      let next := endOfStatusPollRun plan (position + 1)
      if hnext : position + 1 < next then do
        let _attempts ← pollStatusAcknowledgement camera token
        replayFrom plan strategy next
      else
        replayFrom plan strategy (position + 1)
  else
    return
termination_by plan.length - position

/-- `replay_initialization`. -/
def replayInitialization (plan : List InitOp) (strategy : InitStrategy) :
    EStateM TransportError (Bus σ) Unit :=
  replayFrom camera plan strategy 0

end Polling

/-! ## What a replay records -/

/-- An answer is complete when the whole buffer was read or written. -/
def InitOp.Complete : (operation : InitOp) → operation.toRequest.Answer → Prop
  | .controlIn _ _ _ _ _ length, (data : List UInt8) => data.length = length.toNat
  | .controlOut _ _ _ _ _ data, (actual : ℕ) => actual = data.length
  | .setInterface _ _ _, _ => True

/-- What is recorded when an operation succeeds. -/
def Performed (operation : InitOp) (exchanges : List Exchange) : Prop :=
  ∃ answer, operation.Complete answer ∧
    exchanges = [.slept operation.delay, .sent operation.toRequest (.ok answer)]

/-- What is recorded while the status is polled until its first byte is the
token. -/
inductive Acknowledged (token : UInt8) : List Exchange → Prop
  /-- the token was read -/
  | token {status : List UInt8} (hstatus : status.length = statusSize)
    (htoken : status.head? = some token) :
    Acknowledged token [.slept statusPollInterval, .sent statusRequest (.ok status)]
  /-- something else was read, and polling went on -/
  | again {status : List UInt8} {polls : List Exchange} (hstatus : status.length = statusSize)
    (htoken : status.head? ≠ some token) (hpolls : Acknowledged token polls) :
    Acknowledged token (.slept statusPollInterval :: .sent statusRequest (.ok status) :: polls)

/-- An exchange of polling. -/
inductive Exchange.IsPoll : Exchange → Prop
  /-- the wait between attempts -/
  | slept : IsPoll (.slept statusPollInterval)
  /-- a status read -/
  | sent (answer : Except ℤ statusRequest.Answer) : IsPoll (.sent statusRequest answer)

/-- A turn of the replay takes the plan that is left to a shorter one. -/
inductive Turn (strategy : InitStrategy) : List InitOp → List Exchange → List InitOp → Prop
  /-- one operation was sent; no acknowledgement is awaited, or there is nothing
  it could replace -/
  | execute {operation : InitOp} {plan : List InitOp} {exchanges : List Exchange}
    (hperformed : Performed operation exchanges)
    (hkept : strategy.awaited operation = none ∨ ∀ next ∈ plan.head?, isStatusPoll next = false) :
    Turn strategy (operation :: plan) exchanges plan
  /-- one operation was sent and acknowledged, which replaces the unbroken run of
  status reads after it -/
  | acknowledged {operation : InitOp} {skipped plan : List InitOp}
    {exchanges polls : List Exchange} {token : UInt8}
    (hperformed : Performed operation exchanges) (hawaited : strategy.awaited operation = some token)
    (hskipped : skipped ≠ []) (hpolls : ∀ poll ∈ skipped, isStatusPoll poll = true)
    (hend : ∀ next ∈ plan.head?, isStatusPoll next = false)
    (hacknowledged : Acknowledged token polls) :
    Turn strategy (operation :: (skipped ++ plan)) (exchanges ++ polls) plan

/-- Turns from a plan to what is left of it. -/
inductive Replays (strategy : InitStrategy) : List InitOp → List Exchange → List InitOp → Prop
  /-- nothing happened -/
  | refl (plan : List InitOp) : Replays strategy plan [] plan
  /-- a turn, and what follows it -/
  | turn {plan rest left : List InitOp} {exchanges log : List Exchange}
    (hturn : Turn strategy plan exchanges rest) (hreplays : Replays strategy rest log left) :
    Replays strategy plan (exchanges ++ log) left

/-- A turn that fails. -/
inductive Breaks : List InitOp → List Exchange → Prop
  /-- the operation was not sent, or not in full -/
  | failed (operation : InitOp) (plan : List InitOp)
    (answer : Except ℤ operation.toRequest.Answer) :
    Breaks (operation :: plan) [.slept operation.delay, .sent operation.toRequest answer]
  /-- the operation was sent, and the polling failed -/
  | unacknowledged {operation : InitOp} {plan : List InitOp} {exchanges polls : List Exchange}
    (hperformed : Performed operation exchanges) (hpolls : ∀ poll ∈ polls, poll.IsPoll) :
    Breaks (operation :: plan) (exchanges ++ polls)

/-- Turns that end in a failing one. -/
inductive Interrupted (strategy : InitStrategy) : List InitOp → List Exchange → Prop
  /-- a turn fails -/
  | breaks {plan : List InitOp} {log : List Exchange} (hbreaks : Breaks plan log) :
    Interrupted strategy plan log
  /-- a turn, and what follows it -/
  | turn {plan rest : List InitOp} {exchanges log : List Exchange}
    (hturn : Turn strategy plan exchanges rest) (hinterrupted : Interrupted strategy rest log) :
    Interrupted strategy plan (exchanges ++ log)

/-! ## The replay follows the relation -/

section Follows

variable {σ : Type} (camera : Camera σ)

theorem sleep_records (duration : ℕ) :
    Records Bus.log (sleep camera duration) (fun _ l => l = [.slept duration]) (fun _ _ => False) :=
  fun _ => ⟨[.slept duration], rfl, rfl⟩

theorem transfer_records (request : Request) :
    Records Bus.log (transfer camera request) (fun answer l => l = [.sent request (.ok answer)])
      (fun _ l => ∃ code, l = [.sent request (.error code)]) := by
  intro bus
  rw [EStateM.run, transfer]
  split
  next answer state hanswer =>
  cases answer with
  | ok a => exact ⟨[.sent request (.ok a)], rfl, rfl⟩
  | error code => exact ⟨[.sent request (.error code)], rfl, code, rfl⟩

/-- An operation sends its request; it succeeds when the answer is complete. -/
theorem execute_records (operation : InitOp) :
    Records Bus.log (execute camera operation)
      (fun _ l => ∃ answer, operation.Complete answer ∧
        l = [.sent operation.toRequest (.ok answer)])
      (fun _ l => ∃ answer, l = [.sent operation.toRequest answer]) := by
  cases operation with
  | controlIn delayUs requestType request value index length =>
    refine (transfer_records camera _).bind ?_ ?_
    · rintro error l ⟨code, hl⟩
      exact ⟨.error code, hl⟩
    · rintro (data : List UInt8) l hl
      split_ifs with hdata
      · exact .throw ⟨.ok data, by rw [hl]; rfl⟩
      · exact .pure ⟨data, not_not.mp hdata, by rw [hl]; rfl⟩
  | controlOut delayUs requestType request value index data =>
    refine (transfer_records camera _).bind ?_ ?_
    · rintro error l ⟨code, hl⟩
      exact ⟨.error code, hl⟩
    · rintro (actual : ℕ) l hl
      split_ifs with hactual
      · exact .throw ⟨.ok actual, by rw [hl]; rfl⟩
      · exact .pure ⟨actual, not_not.mp hactual, by rw [hl]; rfl⟩
  | setInterface delayUs interface alternate =>
    refine (transfer_records camera _).mono ?_ ?_
    · intro answer l hl
      exact ⟨answer, trivial, hl⟩
    · rintro error l ⟨code, hl⟩
      exact ⟨.error code, hl⟩

theorem isPoll_attempt (answer : Except ℤ statusRequest.Answer) :
    ∀ poll ∈ [.slept statusPollInterval, .sent statusRequest answer], Exchange.IsPoll poll := by
  simp only [List.forall_mem_cons]
  exact ⟨.slept, .sent answer, by simp⟩

/-- An attempt reads a whole status block, or fails while polling. -/
theorem pollStatus_records :
    Records Bus.log (pollStatus camera)
      (fun status l => status.length = statusSize ∧
        l = [.slept statusPollInterval, .sent statusRequest (.ok status)])
      (fun _ l => ∀ poll ∈ l, poll.IsPoll) := by
  refine (sleep_records camera statusPollInterval).bind (by simp) ?_
  rintro ⟨⟩ _ rfl
  refine (transfer_records camera statusRequest).bind ?_ ?_
  · rintro error l ⟨code, rfl⟩
    exact isPoll_attempt (.error code)
  · rintro (status : List UInt8) l hl
    split_ifs with hstatus
    · refine .throw ?_
      rw [hl]
      exact isPoll_attempt (.ok status)
    · refine .pure ⟨not_not.mp hstatus, ?_⟩
      rw [hl]
      rfl

/-- The first byte of a status block, as it is indexed and as it is told. -/
theorem head?_eq_some_iff {status : List UInt8} (hstatus : status.length = statusSize)
    (token : UInt8) : status.head? = some token ↔ status.headD 0 = token := by
  cases status with
  | nil => cases hstatus
  | cons first rest => simp

/-- Polling ends with an acknowledgement, or fails. -/
theorem pollUntil_recorded (token : UInt8) (deadline attempts : ℕ) (bus : Bus σ) :
    Recorded Bus.log bus (fun _ l => Acknowledged token l) (fun _ l => ∀ poll ∈ l, poll.IsPoll)
      (pollUntil camera token deadline attempts bus) := by
  fun_induction pollUntil camera token deadline attempts bus with
  | case1 attempts bus error after hturn =>
    have hattempt := pollStatus_records camera bus
    rw [hturn] at hattempt
    exact hattempt
  | case2 attempts bus status next hturn lastStatus htoken =>
    have hattempt := pollStatus_records camera bus
    rw [hturn] at hattempt
    obtain ⟨events, hlog, hstatus, rfl⟩ := hattempt
    exact ⟨_, hlog, .token hstatus ((head?_eq_some_iff hstatus token).mpr htoken)⟩
  | case3 attempts bus status next hturn lastStatus htoken hdeadline =>
    have hattempt := pollStatus_records camera bus
    rw [hturn] at hattempt
    obtain ⟨events, hlog, -, rfl⟩ := hattempt
    exact ⟨_, hlog, isPoll_attempt (.ok status)⟩
  | case4 attempts bus status next hturn lastStatus htoken hdeadline ih =>
    have hattempt := pollStatus_records camera bus
    rw [hturn] at hattempt
    obtain ⟨events, hlog, hstatus, rfl⟩ := hattempt
    have hother : status.head? ≠ some token := (head?_eq_some_iff hstatus token).not.mpr htoken
    refine Recorded.append hlog (ih.mono ?_ ?_)
    · intro _ polls hpolls
      exact .again hstatus hother hpolls
    · intro _ polls hpolls
      exact List.forall_mem_append.mpr ⟨isPoll_attempt (.ok status), hpolls⟩

theorem pollStatusAcknowledgement_records (token : UInt8) :
    Records Bus.log (pollStatusAcknowledgement camera token) (fun _ l => Acknowledged token l)
      (fun _ l => ∀ poll ∈ l, poll.IsPoll) := by
  intro bus
  rw [EStateM.run, pollStatusAcknowledgement]
  exact pollUntil_recorded camera token _ 0 bus

end Follows

/-- The run of status reads at a position ends where something else stands. -/
theorem endOfStatusPollRun_spec (plan : List InitOp) (position : ℕ) :
    ∃ run, plan.drop position = run ++ plan.drop (endOfStatusPollRun plan position) ∧
      endOfStatusPollRun plan position = position + run.length ∧
      (∀ poll ∈ run, isStatusPoll poll = true) ∧
      ∀ next ∈ (plan.drop (endOfStatusPollRun plan position)).head?, isStatusPoll next = false := by
  fun_induction endOfStatusPollRun plan position with
  | case1 position hposition hpoll ih =>
    obtain ⟨run, hrun, hend, hpolls, hnext⟩ := ih
    refine ⟨plan[position] :: run, ?_, ?_, ?_, hnext⟩
    · rw [List.drop_eq_getElem_cons hposition, hrun, List.cons_append]
    · rw [hend, List.length_cons]
      omega
    · exact List.forall_mem_cons.mpr ⟨hpoll, hpolls⟩
  | case2 position hposition hpoll =>
    refine ⟨[], rfl, rfl, by simp, ?_⟩
    intro next hnext
    rw [List.drop_eq_getElem_cons hposition, List.head?_cons] at hnext
    cases hnext
    simpa using hpoll
  | case3 position hposition =>
    refine ⟨[], rfl, rfl, by simp, ?_⟩
    intro next hnext
    rw [List.drop_eq_nil_of_le (Nat.not_lt.mp hposition)] at hnext
    cases hnext

section Follows

variable {σ : Type} (camera : Camera σ)

/-- **A replay follows the relation.** When it succeeds, it replays the whole
plan; when it fails, it was interrupted. -/
theorem replayFrom_records (plan : List InitOp) (strategy : InitStrategy) (position : ℕ) :
    Records Bus.log (replayFrom camera plan strategy position)
      (fun _ l => Replays strategy (plan.drop position) l [])
      (fun _ l => Interrupted strategy (plan.drop position) l) := by
  fun_induction replayFrom camera plan strategy position with
  | case1 position hposition operation ihNext ihSkip ihStay =>
    rw [List.drop_eq_getElem_cons hposition]
    refine (sleep_records camera operation.delay).bind (fun _ _ h => h.elim) ?_
    rintro ⟨⟩ _ rfl
    refine (execute_records camera operation).bind ?_ ?_
    · rintro error _ ⟨answer, rfl⟩
      exact .breaks (.failed operation _ answer)
    rintro ⟨⟩ _ ⟨answer, hanswer, rfl⟩
    have hperformed : Performed operation
        ([.slept operation.delay] ++ [.sent operation.toRequest (.ok answer)]) :=
      ⟨answer, hanswer, rfl⟩
    -- a turn of one operation, and the loop goes on after it
    have hstay : (strategy.awaited operation = none ∨
          ∀ next ∈ (plan.drop (position + 1)).head?, isStatusPoll next = false) →
        Records Bus.log (replayFrom camera plan strategy (position + 1))
          (fun _ l => Replays strategy (operation :: plan.drop (position + 1))
            ([.slept operation.delay] ++ ([.sent operation.toRequest (.ok answer)] ++ l)) [])
          (fun _ l => Interrupted strategy (operation :: plan.drop (position + 1))
            ([.slept operation.delay] ++ ([.sent operation.toRequest (.ok answer)] ++ l))) := by
      intro hkept
      refine ihNext.mono ?_ ?_
      · intro _ l hreplays
        rw [← List.append_assoc]
        exact .turn (.execute hperformed hkept) hreplays
      · intro _ l hinterrupted
        rw [← List.append_assoc]
        exact .turn (.execute hperformed hkept) hinterrupted
    cases hawaited : strategy.awaited operation with
    | none => exact hstay (.inl hawaited)
    | some token =>
      obtain ⟨run, hrun, hend, hpolls, hnext⟩ := endOfStatusPollRun_spec plan (position + 1)
      simp only
      split_ifs with hskip
      · have hrunne : run ≠ [] := by
          rintro rfl
          rw [List.length_nil] at hend
          omega
        refine (pollStatusAcknowledgement_records camera token).bind ?_ ?_
        · intro error polls hunacknowledged
          rw [← List.append_assoc]
          exact .breaks (.unacknowledged hperformed hunacknowledged)
        intro attempts polls hacknowledged
        have hturn : Turn strategy (operation :: plan.drop (position + 1))
            ([.slept operation.delay] ++ [.sent operation.toRequest (.ok answer)] ++ polls)
            (plan.drop (endOfStatusPollRun plan (position + 1))) := by
          rw [hrun]
          exact .acknowledged hperformed hawaited hrunne hpolls hnext hacknowledged
        refine (ihSkip hskip).mono ?_ ?_
        · intro _ l hreplays
          have h := Replays.turn hturn hreplays
          rw [List.append_assoc, List.append_assoc] at h
          exact h
        · intro _ l hinterrupted
          have h := Interrupted.turn hturn hinterrupted
          rw [List.append_assoc, List.append_assoc] at h
          exact h
      · have hrunnil : run = [] := by
          rw [← List.length_eq_zero_iff]
          omega
        rw [hrunnil] at hend
        rw [hend] at hnext
        exact hstay (.inr hnext)
  | case2 position hposition =>
    rw [List.drop_eq_nil_of_le (Nat.not_lt.mp hposition)]
    exact .pure (.refl [])

end Follows

/-! ## Commands -/

/-- The requests of a log. -/
def requests (log : List Exchange) : List Request := log.filterMap Exchange.request?

/-- The writes and interface settings of a log. -/
def commands (log : List Exchange) : List Request := (requests log).filter Request.isCommand

/-- The writes and interface settings of a plan. -/
def planCommands (plan : List InitOp) : List Request :=
  (plan.map InitOp.toRequest).filter Request.isCommand

@[simp] theorem requests_append (first second : List Exchange) :
    requests (first ++ second) = requests first ++ requests second :=
  List.filterMap_append

@[simp] theorem commands_append (first second : List Exchange) :
    commands (first ++ second) = commands first ++ commands second := by
  simp [commands]

@[simp] theorem planCommands_append (first second : List InitOp) :
    planCommands (first ++ second) = planCommands first ++ planCommands second := by
  simp [planCommands]

theorem planCommands_cons (operation : InitOp) (plan : List InitOp) :
    planCommands (operation :: plan) = planCommands [operation] ++ planCommands plan :=
  planCommands_append [operation] plan

theorem Performed.requests {operation : InitOp} {exchanges : List Exchange}
    (h : Performed operation exchanges) : requests exchanges = [operation.toRequest] := by
  obtain ⟨answer, -, rfl⟩ := h
  rfl

theorem Performed.commands {operation : InitOp} {exchanges : List Exchange}
    (h : Performed operation exchanges) : commands exchanges = planCommands [operation] := by
  rw [Handycam.commands, h.requests]
  rfl

/-- A status read is no command. -/
theorem planCommands_eq_nil {skipped : List InitOp}
    (hpolls : ∀ poll ∈ skipped, isStatusPoll poll = true) : planCommands skipped = [] := by
  rw [planCommands, List.filter_eq_nil_iff]
  simp only [List.forall_mem_map]
  intro poll hpoll
  cases poll with
  | controlIn => simp [InitOp.toRequest, Request.isCommand]
  | controlOut => cases hpolls _ hpoll
  | setInterface => cases hpolls _ hpoll

/-- Polling sends no commands. -/
theorem commands_eq_nil {polls : List Exchange} (hpolls : ∀ poll ∈ polls, poll.IsPoll) :
    commands polls = [] := by
  rw [commands, requests, List.filter_eq_nil_iff]
  intro request hrequest
  obtain ⟨poll, hpoll, heq⟩ := List.mem_filterMap.mp hrequest
  cases hpolls poll hpoll with
  | slept => cases heq
  | sent answer =>
    cases heq
    simp [statusRequest, Request.isCommand]

theorem Acknowledged.isPoll {token : UInt8} {polls : List Exchange}
    (h : Acknowledged token polls) : ∀ poll ∈ polls, poll.IsPoll := by
  induction h with
  | token hstatus htoken => exact isPoll_attempt (.ok _)
  | again hstatus htoken hpolls ih =>
    exact List.forall_mem_append.mpr ⟨isPoll_attempt (.ok _), ih⟩

variable {strategy : InitStrategy}

/-- A turn sends the commands by which the plan gets shorter. -/
theorem Turn.commands {plan rest : List InitOp} {exchanges : List Exchange}
    (h : Turn strategy plan exchanges rest) :
    planCommands plan = commands exchanges ++ planCommands rest := by
  cases h with
  | execute hperformed hkept => rw [planCommands_cons, hperformed.commands]
  | acknowledged hperformed hawaited hskipped hpolls hend hacknowledged =>
    rw [planCommands_cons, planCommands_append, planCommands_eq_nil hpolls, List.nil_append,
      commands_append, commands_eq_nil hacknowledged.isPoll, List.append_nil, hperformed.commands]

theorem Replays.commands {plan left : List InitOp} {log : List Exchange}
    (h : Replays strategy plan log left) : planCommands plan = commands log ++ planCommands left := by
  induction h with
  | refl => rfl
  | turn hturn hreplays ih => rw [hturn.commands, ih, commands_append, List.append_assoc]

theorem Breaks.commands {plan : List InitOp} {log : List Exchange} (h : Breaks plan log) :
    commands log <+: planCommands plan := by
  cases h with
  | failed operation plan answer =>
    rw [planCommands_cons]
    exact List.prefix_append _ _
  | @unacknowledged operation plan exchanges polls hperformed hpolls =>
    rw [commands_append, commands_eq_nil hpolls, List.append_nil, hperformed.commands,
      planCommands_cons operation plan]
    exact List.prefix_append _ _

theorem Interrupted.commands {plan : List InitOp} {log : List Exchange}
    (h : Interrupted strategy plan log) : commands log <+: planCommands plan := by
  induction h with
  | breaks hbreaks => exact hbreaks.commands
  | turn hturn hinterrupted ih =>
    rw [hturn.commands, commands_append]
    exact List.prefix_append_right_inj _ |>.mpr ih

/-- Literal replay awaits nothing, so that each turn sends one operation. -/
theorem Replays.requests {plan left : List InitOp} {log : List Exchange}
    (h : Replays .literalReplay plan log left) :
    plan.map InitOp.toRequest = requests log ++ left.map InitOp.toRequest := by
  induction h with
  | refl => rfl
  | turn hturn hreplays ih =>
    cases hturn with
    | execute hperformed hkept =>
      rw [List.map_cons, ih, requests_append, hperformed.requests, List.append_assoc]
      rfl
    | acknowledged hperformed hawaited =>
      rw [InitStrategy.awaited, Option.bind_eq_some_iff] at hawaited
      obtain ⟨commandToken, -, htoken⟩ := hawaited
      cases htoken

section Refinement

variable {σ : Type} (camera : Camera σ)

theorem replayInitialization_records (plan : List InitOp) (strategy : InitStrategy) :
    Records Bus.log (replayInitialization camera plan strategy)
      (fun _ l => Replays strategy plan l []) (fun _ l => Interrupted strategy plan l) :=
  replayFrom_records camera plan strategy 0

/-- **Polling refines literal replay.** A replay that succeeds has sent exactly
the commands of the plan, each once and in order; all it left out are runs of
status reads that an acknowledgement stands for, and nothing under literal
replay. A replay that fails has sent the first of the plan's commands. -/
theorem replayInitialization_refines (plan : List InitOp) (strategy : InitStrategy) (state : σ) :
    match (replayInitialization camera plan strategy).run ⟨state, []⟩ with
    | .ok _ bus =>
      Replays strategy plan bus.log [] ∧ commands bus.log = planCommands plan ∧
        (strategy = .literalReplay → requests bus.log = plan.map InitOp.toRequest)
    | .error _ bus => commands bus.log <+: planCommands plan := by
  have hrun := replayInitialization_records camera plan strategy ⟨state, []⟩
  generalize (replayInitialization camera plan strategy).run ⟨state, []⟩ = result at hrun
  cases result with
  | ok a bus =>
    obtain ⟨log, hlog, hreplays⟩ := hrun
    rw [List.nil_append] at hlog
    rw [← hlog] at hreplays
    have hcommands := hreplays.commands
    refine ⟨hreplays, ?_, ?_⟩
    · rw [hcommands]
      exact (List.append_nil _).symm
    · rintro rfl
      have hrequests := hreplays.requests
      rw [List.map_nil, List.append_nil] at hrequests
      exact hrequests.symm
  | error error bus =>
    obtain ⟨log, hlog, hinterrupted⟩ := hrun
    rw [List.nil_append] at hlog
    rw [← hlog] at hinterrupted
    exact hinterrupted.commands

end Refinement

/-- A camera that takes every request, and shows a token in its status. -/
def steadyCamera : Camera ℕ where
  transfer
    | .readControl _ _ _ _ length, now => (.ok ((0x71 :: List.replicate length 0).take length), now)
    | .writeControl _ _ _ _ data, now => (.ok data.length, now)
    | .setAlternateSetting _ _, now => (.ok (), now)
  sleep duration now := now + duration
  now := id
  now_sleep _ _ := Nat.le_refl _
  now_transfer request _ := by cases request <;> exact Nat.le_refl _

/-- A scan, a status read and an interface setting. -/
def scanPlan : List InitOp :=
  [.controlOut 5 0x40 0x88 0 commandBlockIndex (List.replicate 61 0 ++ [0x79, 0x10, 0x71]),
    .controlIn 7 0xc0 0x88 0 statusIndex 64, .setInterface 9 0 5]

theorem replayInitialization_scanPlan :
    ∃ bus, (replayInitialization steadyCamera scanPlan .conditionPolling).run ⟨0, []⟩ = .ok () bus ∧
      Replays .conditionPolling scanPlan bus.log [] ∧ commands bus.log = planCommands scanPlan := by
  have hrefines := replayInitialization_refines steadyCamera scanPlan .conditionPolling 0
  have hok : (match (replayInitialization steadyCamera scanPlan .conditionPolling).run ⟨0, []⟩ with
      | .ok _ _ => true
      | .error _ _ => false) = true := by decide +kernel
  generalize (replayInitialization steadyCamera scanPlan .conditionPolling).run ⟨0, []⟩ = result
    at hrefines hok ⊢
  cases result with
  | ok a bus => exact ⟨bus, rfl, hrefines.1, hrefines.2.1⟩
  | error error bus => cases hok

/-! ## Requests that reach the camera -/

/-- An exchange of an operation. -/
inductive Exchange.IsOf (operation : InitOp) : Exchange → Prop
  /-- the delay before it -/
  | slept : IsOf operation (.slept operation.delay)
  /-- its request -/
  | sent (answer : Except ℤ operation.toRequest.Answer) :
    IsOf operation (.sent operation.toRequest answer)

/-- An exchange that an operation of the plan or polling accounts for. -/
def Exchange.FromPlan (plan : List InitOp) (exchange : Exchange) : Prop :=
  exchange.IsPoll ∨ ∃ operation ∈ plan, exchange.IsOf operation

theorem Exchange.FromPlan.mono {plan rest : List InitOp} (hsubset : rest ⊆ plan)
    {exchange : Exchange} (h : exchange.FromPlan rest) : exchange.FromPlan plan := by
  rcases h with hpoll | ⟨operation, hoperation, hof⟩
  · exact .inl hpoll
  · exact .inr ⟨operation, hsubset hoperation, hof⟩

theorem fromPlan_operation (operation : InitOp) (plan : List InitOp)
    (answer : Except ℤ operation.toRequest.Answer) :
    ∀ exchange ∈ [.slept operation.delay, .sent operation.toRequest answer],
      Exchange.FromPlan (operation :: plan) exchange := by
  simp only [List.forall_mem_cons]
  exact ⟨.inr ⟨operation, List.mem_cons_self, .slept⟩,
    .inr ⟨operation, List.mem_cons_self, .sent answer⟩, by simp⟩

theorem Turn.fromPlan {plan rest : List InitOp} {exchanges : List Exchange}
    (h : Turn strategy plan exchanges rest) :
    (∀ exchange ∈ exchanges, exchange.FromPlan plan) ∧ rest ⊆ plan := by
  cases h with
  | @execute operation plan exchanges hperformed hkept =>
    obtain ⟨answer, -, rfl⟩ := hperformed
    exact ⟨fromPlan_operation operation rest (.ok answer), List.subset_cons_self operation rest⟩
  | @acknowledged operation skipped plan exchanges polls token hperformed hawaited hskipped hpolls
      hend hacknowledged =>
    obtain ⟨answer, -, rfl⟩ := hperformed
    refine ⟨List.forall_mem_append.mpr ⟨fromPlan_operation operation _ (.ok answer), ?_⟩, ?_⟩
    · intro poll hpoll
      exact .inl (hacknowledged.isPoll poll hpoll)
    · exact List.subset_cons_of_subset operation (List.subset_append_right skipped rest)

theorem Replays.fromPlan {plan left : List InitOp} {log : List Exchange}
    (h : Replays strategy plan log left) : ∀ exchange ∈ log, exchange.FromPlan plan := by
  induction h with
  | refl => simp
  | turn hturn hreplays ih =>
    obtain ⟨hexchanges, hsubset⟩ := hturn.fromPlan
    refine List.forall_mem_append.mpr ⟨hexchanges, ?_⟩
    intro exchange hexchange
    exact (ih exchange hexchange).mono hsubset

theorem Breaks.fromPlan {plan : List InitOp} {log : List Exchange} (h : Breaks plan log) :
    ∀ exchange ∈ log, exchange.FromPlan plan := by
  cases h with
  | failed operation plan answer => exact fromPlan_operation operation plan answer
  | @unacknowledged operation plan exchanges polls hperformed hpolls =>
    obtain ⟨answer, -, rfl⟩ := hperformed
    refine List.forall_mem_append.mpr ⟨fromPlan_operation operation plan (.ok answer), ?_⟩
    intro poll hpoll
    exact .inl (hpolls poll hpoll)

theorem Interrupted.fromPlan {plan : List InitOp} {log : List Exchange}
    (h : Interrupted strategy plan log) : ∀ exchange ∈ log, exchange.FromPlan plan := by
  induction h with
  | breaks hbreaks => exact hbreaks.fromPlan
  | turn hturn hinterrupted ih =>
    obtain ⟨hexchanges, hsubset⟩ := hturn.fromPlan
    refine List.forall_mem_append.mpr ⟨hexchanges, ?_⟩
    intro exchange hexchange
    exact (ih exchange hexchange).mono hsubset

/-- The exchanges of a run, whether it succeeded or failed. -/
def finalLog {σ : Type} : EStateM.Result TransportError (Bus σ) Unit → List Exchange
  | .ok _ bus => bus.log
  | .error _ bus => bus.log

/-- The exchanges that a text permits. -/
inductive Permitted (text : List Char) : Exchange → Prop
  /-- a delay of at most ten seconds -/
  | slept {duration : ℕ} (hduration : duration ≤ 10000000000) : Permitted text (.slept duration)
  /-- a vendor read of at most 64 bytes -/
  | read {value index : UInt16} {length : ℕ} (hlength : length ≤ 64)
    (answer : Except ℤ (Request.readControl 0xc0 0x88 value index length).Answer) :
    Permitted text (.sent (.readControl 0xc0 0x88 value index length) answer)
  /-- a vendor write of at most 64 bytes, as many as the `wLength` of a row that
  describes this write -/
  | write {value index : UInt16} {data : List UInt8} (hdata : data.length ≤ 64)
    (hrow : ∃ entry ∈ dataRows text, ∃ row, Row entry row ∧ row.requestType = 0x40 ∧
      row.request = 0x88 ∧ row.value = value ∧ row.index = index ∧ row.length = data.length)
    (answer : Except ℤ (Request.writeControl 0x40 0x88 value index data).Answer) :
    Permitted text (.sent (.writeControl 0x40 0x88 value index data) answer)
  /-- an alternate setting of the first interface -/
  | setInterface (alternate : UInt8)
    (answer : Except ℤ (Request.setAlternateSetting 0 alternate).Answer) :
    Permitted text (.sent (.setAlternateSetting 0 alternate) answer)

/-- Polling waits ten milliseconds and reads 64 bytes. -/
theorem Exchange.IsPoll.permitted (text : List Char) {exchange : Exchange} (h : exchange.IsPoll) :
    Permitted text exchange := by
  cases h with
  | slept => exact .slept (by decide)
  | sent answer => exact .read (by decide) answer

/-- The delay of a row is in range. -/
theorem PlanRow.delay_le (row : PlanRow) : row.delayUs.toNat * 1000 ≤ 10000000000 := by
  have hdelay : row.delayUs.toNat ≤ 10000000 := row.delayUs_le
  omega

theorem PlanRow.Admits.delay_le {row : PlanRow} {operation : InitOp}
    (h : row.Admits operation) : operation.delay ≤ 10000000000 := by
  cases h with
  | controlIn => exact row.delay_le
  | controlOut => exact row.delay_le
  | setInterface => exact row.delay_le

/-- The exchanges of an operation that a row admits. -/
theorem PlanRow.Admits.permitted {text : List Char} {entry : List Char × ℕ}
    (hentry : entry ∈ dataRows text) {row : PlanRow} (hrow : Row entry row) {operation : InitOp}
    (hadmits : row.Admits operation) {exchange : Exchange} (h : exchange.IsOf operation) :
    Permitted text exchange := by
  have hlength : row.length ≤ 64 := row.length_le
  cases h with
  | slept => exact .slept hadmits.delay_le
  | sent answer =>
    cases hadmits with
    | controlIn htype hrequest hin => exact .read (by rw [hin]; exact hlength) answer
    | controlOut htype hrequest hdata =>
      exact .write (by rw [hdata]; exact hlength)
        ⟨entry, hentry, row, hrow, htype, hrequest, rfl, rfl, hdata.symm⟩ answer
    | setInterface => exact .setInterface _ answer

/-- **Nothing else reaches the camera.** For every accepted text, whether or not
its scale factor is overridden, and whatever the camera answers, a replay
sleeps and sends only what the text permits, also when it fails. -/
theorem replayInitialization_permitted {hexDecode : HexDecoder} {text : List Char}
    {plan : List InitOp} (h : parseInitPlan hexDecode text = .ok plan)
    (quality : Option ScaleFactor) (strategy : InitStrategy) {σ : Type} (camera : Camera σ)
    (state : σ) :
    ∀ exchange ∈ finalLog
        ((replayInitialization camera (configure plan quality) strategy).run ⟨state, []⟩),
      Permitted text exchange := by
  have hpermitted : ∀ exchange : Exchange, exchange.FromPlan (configure plan quality) →
      Permitted text exchange := by
    rintro exchange (hpoll | ⟨operation, hoperation, hof⟩)
    · exact hpoll.permitted text
    · obtain ⟨entry, hentry, row, hrow, hadmits⟩ :=
        exists_row (rows_admitted h quality) hoperation
      exact hadmits.permitted hentry hrow hof
  have hrun := replayInitialization_records camera (configure plan quality) strategy ⟨state, []⟩
  generalize (replayInitialization camera (configure plan quality) strategy).run ⟨state, []⟩ =
    result at hrun
  cases result with
  | ok a bus =>
    obtain ⟨log, hlog, hreplays⟩ := hrun
    rw [List.nil_append] at hlog
    rw [← hlog] at hreplays
    intro exchange hexchange
    exact hpermitted exchange (hreplays.fromPlan exchange hexchange)
  | error error bus =>
    obtain ⟨log, hlog, hinterrupted⟩ := hrun
    rw [List.nil_append] at hlog
    rw [← hlog] at hinterrupted
    intro exchange hexchange
    exact hpermitted exchange (hinterrupted.fromPlan exchange hexchange)

/-- A text with one write to the scale-factor register. -/
def scaleFactorText : List Char := "0\t0x40\t0x88\t0\t0x7c\t1\t10\t1\n".toList

theorem replayInitialization_permitted_scaleFactorText :
    parseInitPlan (fun _ => .ok [0x10]) scaleFactorText =
        .ok [.controlOut 0 0x40 0x88 0 0x7c [0x10]] ∧
      ∀ exchange ∈ finalLog ((replayInitialization steadyCamera
          (configure [.controlOut 0 0x40 0x88 0 0x7c [0x10]] (some ⟨36, by decide, by decide⟩))
          .literalReplay).run ⟨0, []⟩), Permitted scaleFactorText exchange := by
  have hparse : parseInitPlan (fun _ => .ok [0x10]) scaleFactorText =
      .ok [.controlOut 0 0x40 0x88 0 0x7c [0x10]] := by decide +kernel
  exact ⟨hparse, replayInitialization_permitted hparse (some ⟨36, by decide, by decide⟩)
    .literalReplay steadyCamera 0⟩

end Handycam
