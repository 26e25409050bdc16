import Mathlib.Logic.Relation
import Handycam.Channel
import Handycam.Guarded

/-!
# A worker thread and the channels to it

A worker takes messages from its inbox until the sender is dropped. It reports
on a second channel that it has started, and how it ended. What it does to the
world is a `Service`: programs to start, to handle a message, and to finish.

The worker and the client that feeds it run interleaved, each a step at a time.
Whatever the interleaving:

* **one program** — `Valid.ran`: the worker has run the service's program over
  the messages it received, in order, up to where it is;
* **one report** — `Valid.statuses`: it reports that it is ready at most once,
  and then how that program ended;
* **an end** — `Valid.step_eq_none`, `stepsLeft_step`: it waits for nothing but
  the client, not at all once the sender is dropped, and then it ends.
-/

/-- What a worker does to a world `W`, and what it reports. -/
structure Service (α ε S W : Type) where
  /-- before the first message -/
  start : EStateM ε W Unit
  /-- for a message -/
  handle : α → EStateM ε W Unit
  /-- after the last message -/
  finish : EStateM ε W Unit
  /-- the report that the worker has started -/
  ready : S
  /-- the report of how it ended -/
  report : Except ε Unit → S

/-- How a program ended, and what it left. -/
def outcome {ε W : Type} : EStateM.Result ε W Unit → Except ε Unit × W
  | .ok _ w => (.ok (), w)
  | .error e w => (.error e, w)

namespace Service

variable {α ε S W : Type} (service : Service α ε S W)

/-- The service's program over some messages, without its end. -/
def opening (messages : List α) : EStateM ε W Unit := do
  service.start
  forM messages service.handle

/-- The service's program over some messages. -/
def program (messages : List α) : EStateM ε W Unit := do
  service.opening messages
  service.finish

theorem opening_nil : service.opening [] = service.start := by
  rw [opening, List.forM_nil, bind_pure_unit]

theorem opening_concat (messages : List α) (message : α) :
    service.opening (messages ++ [message]) =
      (do service.opening messages; service.handle message) := by
  simp only [opening, List.forM_append, List.forM_cons, List.forM_nil, bind_assoc, bind_pure_unit]

variable {service} {messages : List α} {message : α} {e : ε} {w w' w'' : W}

theorem run_opening_concat (hopening : (service.opening messages).run w = .ok () w') :
    (service.opening (messages ++ [message])).run w = (service.handle message).run w' := by
  rw [opening_concat, EStateM.run_bind, hopening]

theorem run_program_ok (hopening : (service.opening messages).run w = .ok () w') :
    (service.program messages).run w = service.finish.run w' := by
  rw [program, EStateM.run_bind, hopening]

theorem run_program_error (hopening : (service.opening messages).run w = .error e w') :
    (service.program messages).run w = .error e w' := by
  rw [program, EStateM.run_bind, hopening]

/-- A service that cannot start does nothing else. -/
theorem run_program_refused (hstart : service.start.run w = .error e w') :
    (service.program messages).run w = .error e w' :=
  run_program_error (by rw [opening, EStateM.run_bind, hstart])

/-- A rule for a service in a world: `P` holds of the messages and the world
while the worker runs, and `Q` of what it ends with. -/
structure Rule (service : Service α ε S W) (world : W) (P : List α → W → Prop)
    (Q : List α → Except ε Unit → W → Prop) : Prop where
  /-- it has started -/
  start : ∀ w, service.start.run world = .ok () w → P [] w
  /-- it could not start -/
  refuse : ∀ e w, service.start.run world = .error e w → ∀ messages, Q messages (.error e) w
  /-- it handles a message -/
  handle : ∀ past message w w', P past w → (service.handle message).run w = .ok () w' →
    P (past ++ [message]) w'
  /-- it fails at a message -/
  fail : ∀ past message rest e w w', P past w → (service.handle message).run w = .error e w' →
    Q (past ++ message :: rest) (.error e) w'
  /-- it finishes -/
  finish : ∀ messages result w w', P messages w → outcome (service.finish.run w) = (result, w') →
    Q messages result w'

namespace Rule

variable {world : W} {P : List α → W → Prop} {Q : List α → Except ε Unit → W → Prop}

theorem opening (rule : Rule service world P Q)
    (hopening : (service.opening messages).run world = .ok () w) : P messages w := by
  induction messages using List.reverseRecOn generalizing w with
  | nil =>
    rw [opening_nil] at hopening
    exact rule.start w hopening
  | append_singleton past message ih =>
    rw [opening_concat, EStateM.run_bind] at hopening
    rcases hpast : (service.opening past).run world with ⟨⟨⟩, w'⟩ | ⟨_, w'⟩
    · rw [hpast] at hopening
      exact rule.handle past message w' w (ih hpast) hopening
    · rw [hpast] at hopening
      cases hopening

theorem failing (rule : Rule service world P Q) {rest : List α}
    (hopening : (service.opening messages).run world = .error e w) :
    Q (messages ++ rest) (.error e) w := by
  induction messages using List.reverseRecOn generalizing rest with
  | nil =>
    rw [opening_nil] at hopening
    exact rule.refuse e w hopening rest
  | append_singleton past message ih =>
    rw [List.append_assoc, List.singleton_append]
    rcases hpast : (service.opening past).run world with ⟨⟨⟩, w'⟩ | ⟨_, w'⟩
    · rw [run_opening_concat hpast] at hopening
      exact rule.fail past message rest e w' w (rule.opening hpast) hopening
    · rw [opening_concat, EStateM.run_bind, hpast] at hopening
      cases hopening
      exact ih hpast

/-- What the service's program ends with. -/
theorem program (rule : Rule service world P Q) {result : Except ε Unit}
    (hprogram : outcome ((service.program messages).run world) = (result, w)) :
    Q messages result w := by
  rcases hopening : (service.opening messages).run world with ⟨⟨⟩, w'⟩ | ⟨e, w'⟩
  · rw [run_program_ok hopening] at hprogram
    exact rule.finish messages result w' w (rule.opening hopening) hprogram
  · rw [run_program_error hopening] at hprogram
    obtain ⟨rfl, rfl⟩ := Prod.mk.inj hprogram
    have hfailing : Q (messages ++ []) (.error e) w' := rule.failing hopening
    rwa [List.append_nil] at hfailing

end Rule

end Service

/-- Where a worker is. -/
inductive WorkerPoint (α ε : Type) where
  /-- before it has started -/
  | starting
  /-- at the head of its loop -/
  | receiving
  /-- with a message -/
  | handling (message : α)
  /-- after its loop -/
  | finishing
  /-- before its last report -/
  | ending (result : Except ε Unit)
  /-- after its last report -/
  | reported (result : Except ε Unit)
  /-- it has ended, so that it can be joined -/
  | exited (result : Except ε Unit)

/-- A worker, the channels to it, and the world it works on. -/
structure Worker (α ε S W : Type) where
  /-- the messages for it -/
  inbox : Channel α
  /-- its reports -/
  statuses : Channel S
  /-- where it is -/
  point : WorkerPoint α ε
  /-- the world -/
  world : W

namespace Worker

variable {α ε S W : Type}

/-- A worker that has been spawned. -/
def spawn (capacity : Option ℕ) (world : W) : Worker α ε S W where
  inbox := .new capacity
  statuses := .new none
  point := .starting
  world := world

/-- Leave the worker's function: the inbox is dropped before the last report. -/
def leave (worker : Worker α ε S W) (result : Except ε Unit) (world : W) : Worker α ε S W :=
  { worker with inbox := worker.inbox.dropReceiver, point := .ending result, world := world }

/-- A step of the worker; none if it waits, or has ended. -/
def step (service : Service α ε S W) (worker : Worker α ε S W) : Option (Worker α ε S W) :=
  match worker.point with
  | .starting =>
    match service.start.run worker.world with
    | .ok _ world =>
      some { worker with
        statuses := worker.statuses.send service.ready
        point := .receiving
        world := world }
    | .error error world => some (worker.leave (.error error) world)
  | .receiving =>
    match worker.inbox.receive with
    | some (message, inbox) => some { worker with inbox := inbox, point := .handling message }
    | none =>
      if worker.inbox.senderAlive then none
      else some { worker with inbox := worker.inbox.dropReceiver, point := .finishing }
  | .handling message =>
    match (service.handle message).run worker.world with
    | .ok _ world => some { worker with point := .receiving, world := world }
    | .error error world => some (worker.leave (.error error) world)
  | .finishing =>
    let (result, world) := outcome (service.finish.run worker.world)
    some (worker.leave result world)
  | .ending result =>
    some { worker with
      statuses := worker.statuses.send (service.report result)
      point := .reported result }
  | .reported result =>
    some { worker with statuses := worker.statuses.dropSender, point := .exited result }
  | .exited _ => none

/-- What a client can do: send a message, drop the sender, or take a report. -/
inductive ClientStep : Worker α ε S W → Worker α ε S W → Prop
  /-- a message is sent -/
  | send (worker : Worker α ε S W) (message : α) :
    ClientStep worker { worker with inbox := worker.inbox.send message }
  /-- the sender is dropped -/
  | dropSender (worker : Worker α ε S W) :
    ClientStep worker { worker with inbox := worker.inbox.dropSender }
  /-- a report is received -/
  | receive (worker : Worker α ε S W) {status : S} {statuses : Channel S}
    (h : worker.statuses.receive = some (status, statuses)) :
    ClientStep worker { worker with statuses := statuses }

/-! ## What holds of a worker -/

/-- How far the worker is with its program over what it received. -/
def Ran (service : Service α ε S W) (world : W) (worker : Worker α ε S W) : Prop :=
  match worker.point with
  | .starting => worker.inbox.received = [] ∧ worker.world = world
  | .receiving => (service.opening worker.inbox.received).run world = .ok () worker.world
  | .handling message =>
    ∃ messages, worker.inbox.received = messages ++ [message] ∧
      (service.opening messages).run world = .ok () worker.world
  | .finishing =>
    (service.opening worker.inbox.received).run world = .ok () worker.world ∧
      worker.inbox.senderAlive = false ∧ worker.inbox.received = worker.inbox.accepted
  | .ending result | .reported result | .exited result =>
    outcome ((service.program worker.inbox.received).run world) = (result, worker.world) ∧
      (result = .ok () →
        worker.inbox.senderAlive = false ∧ worker.inbox.received = worker.inbox.accepted)

/-- The report that the worker is ready, unless it could not start. -/
def readyReport (service : Service α ε S W) (world : W) : List S :=
  match service.start.run world with
  | .ok _ _ => [service.ready]
  | .error _ _ => []

/-- The reports that the worker has sent. -/
def reports (service : Service α ε S W) (world : W) : WorkerPoint α ε → List S
  | .starting => []
  | .receiving | .handling _ | .finishing | .ending _ => readyReport service world
  | .reported result | .exited result => readyReport service world ++ [service.report result]

/-- The worker still has its inbox. -/
def listens : WorkerPoint α ε → Bool
  | .starting | .receiving | .handling _ => true
  | _ => false

/-- What holds of a worker that was spawned in a world. -/
structure Valid (service : Service α ε S W) (world : W) (worker : Worker α ε S W) : Prop where
  /-- it has run its program, up to where it is -/
  ran : worker.Ran service world
  /-- it has reported where it is -/
  statuses : worker.statuses.accepted = reports service world worker.point
  /-- its reports are taken -/
  reporting : worker.statuses.receiverAlive = true ∧ worker.statuses.capacity = none
  /-- it drops its end of the reports last -/
  reporter : worker.statuses.senderAlive = true ↔ ∀ result, worker.point ≠ .exited result
  /-- it drops its inbox when it leaves its loop -/
  listener : worker.inbox.receiverAlive = listens worker.point

theorem valid_spawn (service : Service α ε S W) (capacity : Option ℕ) (world : W) :
    Valid service world (spawn capacity world) where
  ran := ⟨rfl, rfl⟩
  statuses := rfl
  reporting := ⟨rfl, rfl⟩
  reporter := iff_of_true rfl nofun
  listener := rfl

section Step

variable {service : Service α ε S W} {world : W} {worker next : Worker α ε S W}

/-- A report of a worker that is not done is taken. -/
theorem Valid.send (h : Valid service world worker) (hpoint : ∀ result, worker.point ≠ .exited result)
    (status : S) :
    (worker.statuses.send status).accepted = worker.statuses.accepted ++ [status] := by
  refine (Channel.send_of_accepts ?_ status).2
  rw [Channel.accepts_iff, h.reporting.2]
  exact ⟨h.reporter.mpr hpoint, h.reporting.1, nofun⟩

/-- The worker goes on within its loop. -/
theorem Valid.goto (h : Valid service world worker) {point : WorkerPoint α ε} {inbox : Channel α}
    {after : W} (hran : Ran service world ⟨inbox, worker.statuses, point, after⟩)
    (hreports : reports service world point = reports service world worker.point)
    (hworker : ∀ result, worker.point ≠ .exited result) (hpoint : ∀ result, point ≠ .exited result)
    (hlistener : inbox.receiverAlive = listens point) :
    Valid service world ⟨inbox, worker.statuses, point, after⟩ where
  ran := hran
  statuses := h.statuses.trans hreports.symm
  reporting := h.reporting
  reporter := iff_of_true (h.reporter.mpr hworker) hpoint
  listener := hlistener

/-- The worker leaves its function with what the program gives. -/
theorem Valid.leave (h : Valid service world worker) {result : Except ε Unit} {after : W}
    (hprogram : outcome ((service.program worker.inbox.received).run world) = (result, after))
    (hall : result = .ok () →
      worker.inbox.senderAlive = false ∧ worker.inbox.received = worker.inbox.accepted)
    (hreports : reports service world worker.point = readyReport service world)
    (hworker : ∀ result, worker.point ≠ .exited result) :
    Valid service world (worker.leave result after) :=
  h.goto ⟨hprogram, hall⟩ hreports.symm hworker nofun rfl

/-- **A step of the worker** keeps what holds of it. -/
theorem Valid.step (h : Valid service world worker) (hstep : worker.step service = some next) :
    Valid service world next := by
  have hran := h.ran
  have hreports := h.statuses
  have hlistener := h.listener
  rw [Worker.step] at hstep
  split at hstep
  -- the worker starts: it is ready, or it fails before it listens
  case h_1 hpoint =>
    simp only [Ran, hpoint] at hran
    obtain ⟨hnothing, hworld⟩ := hran
    split at hstep
    · rename_i after hstart
      obtain rfl := Option.some.inj hstep
      have hsent := h.send (by rw [hpoint]; exact nofun) service.ready
      rw [hworld] at hstart
      refine ⟨?_, ?_, ?_, ?_, ?_⟩
      · simp only [Ran, hnothing, Service.opening_nil]
        exact hstart
      · rw [hsent, hreports, hpoint, reports, reports, readyReport, hstart, List.nil_append]
      · simpa using h.reporting
      · refine iff_of_true ?_ nofun
        rw [Channel.send_senderAlive]
        exact h.reporter.mpr (by rw [hpoint]; exact nofun)
      · rw [hlistener, hpoint]
        rfl
    · rename_i error after hstart
      obtain rfl := Option.some.inj hstep
      rw [hworld] at hstart
      have hprogram : (service.program []).run world = .error error after :=
        Service.run_program_error (by rw [Service.opening_nil, hstart])
      refine h.leave (by rw [hnothing, hprogram]; rfl) nofun ?_ (by rw [hpoint]; exact nofun)
      rw [hpoint, reports, readyReport, hstart]
  -- it receives; when the queue is closed and empty it has received all of it
  case h_2 hpoint =>
    simp only [Ran, hpoint] at hran
    split at hstep
    · rename_i message inbox hreceive
      obtain rfl := Option.some.inj hstep
      obtain ⟨-, hreceived, -, -, -, hreceiver⟩ := Channel.receive_eq_some hreceive
      refine h.goto ⟨_, hreceived, hran⟩ (by rw [hpoint]; rfl) (by rw [hpoint]; exact nofun) nofun ?_
      rw [hreceiver, hlistener, hpoint]
      rfl
    · rename_i hreceive
      split at hstep
      · cases hstep
      · rename_i hsender
        obtain rfl := Option.some.inj hstep
        have hbuffer := Channel.receive_eq_none.mp hreceive
        have hsender : worker.inbox.senderAlive = false := by simpa using hsender
        rw [hpoint] at hlistener
        have hall : worker.inbox.received = worker.inbox.accepted :=
          Channel.received_eq hlistener hbuffer
        exact h.goto ⟨hran, hsender, hall⟩ (by rw [hpoint]; rfl) (by rw [hpoint]; exact nofun) nofun
          rfl
  -- it handles what it received, which is one more message of its program
  case h_3 message hpoint =>
    simp only [Ran, hpoint] at hran
    obtain ⟨messages, hreceived, hopening⟩ := hran
    split at hstep
    · rename_i after hhandle
      obtain rfl := Option.some.inj hstep
      refine h.goto ?_ (by rw [hpoint]; rfl) (by rw [hpoint]; exact nofun) nofun ?_
      · simp only [Ran, hreceived, Service.run_opening_concat hopening]
        exact hhandle
      · rw [hlistener, hpoint]
        rfl
    · rename_i error after hhandle
      obtain rfl := Option.some.inj hstep
      have hprogram : (service.program (messages ++ [message])).run world = .error error after :=
        Service.run_program_error (by rw [Service.run_opening_concat hopening, hhandle])
      exact h.leave (by rw [hreceived, hprogram]; rfl) nofun (by rw [hpoint]; rfl)
        (by rw [hpoint]; exact nofun)
  case h_4 hpoint =>
    simp only [Ran, hpoint] at hran
    obtain ⟨hopening, hsender, hall⟩ := hran
    rcases hfinish : outcome (service.finish.run worker.world) with ⟨result, after⟩
    rw [hfinish] at hstep
    obtain rfl := Option.some.inj hstep
    refine h.leave ?_ (fun _ => ⟨hsender, hall⟩) (by rw [hpoint]; rfl) (by rw [hpoint]; exact nofun)
    rw [Service.run_program_ok hopening, hfinish]
  -- it reports how it ended, and only then leaves the channel
  case h_5 result hpoint =>
    simp only [Ran, hpoint] at hran
    obtain rfl := Option.some.inj hstep
    have hsent := h.send (by rw [hpoint]; exact nofun) (service.report result)
    refine ⟨hran, ?_, ?_, ?_, ?_⟩
    · rw [hsent, hreports, hpoint]
      rfl
    · simpa using h.reporting
    · refine iff_of_true ?_ nofun
      rw [Channel.send_senderAlive]
      exact h.reporter.mpr (by rw [hpoint]; exact nofun)
    · rw [hlistener, hpoint]
      rfl
  case h_6 result hpoint =>
    simp only [Ran, hpoint] at hran
    obtain rfl := Option.some.inj hstep
    refine ⟨hran, ?_, h.reporting, ?_, ?_⟩
    · exact hreports.trans (by rw [hpoint]; rfl)
    · exact iff_of_false nofun fun hnot => hnot result rfl
    · rw [hlistener, hpoint]
      rfl
  case h_7 result hpoint => cases hstep

/-- What a rule for the service says of the worker, wherever it is. -/
theorem Valid.holds {P : List α → W → Prop} {Q : List α → Except ε Unit → W → Prop}
    (h : Valid service world worker) (rule : Service.Rule service world P Q) :
    match worker.point with
    | .starting => worker.inbox.received = [] ∧ worker.world = world
    | .receiving | .finishing => P worker.inbox.received worker.world
    | .handling message =>
      ∃ messages, worker.inbox.received = messages ++ [message] ∧ P messages worker.world
    | .ending result | .reported result | .exited result =>
      Q worker.inbox.received result worker.world := by
  have hran := h.ran
  rw [Ran] at hran
  split at hran <;> rename_i hpoint <;> simp only [hpoint]
  · exact hran
  · exact rule.opening hran
  · obtain ⟨messages, hreceived, hopening⟩ := hran
    exact ⟨messages, hreceived, rule.opening hopening⟩
  · exact rule.opening hran.1
  · exact rule.program hran.1
  · exact rule.program hran.1
  · exact rule.program hran.1

/-- How far the worker is depends on what it received, and on whether that is
all of it. -/
theorem Ran.inbox (h : worker.Ran service world) {inbox : Channel α}
    (hreceived : inbox.received = worker.inbox.received)
    (hall : worker.inbox.senderAlive = false ∧ worker.inbox.received = worker.inbox.accepted →
      inbox.senderAlive = false ∧ inbox.received = inbox.accepted) :
    Ran service world { worker with inbox := inbox } := by
  rw [Ran] at h ⊢
  cases hpoint : worker.point with
  | starting | receiving | handling =>
    simp only [hpoint, hreceived] at h ⊢
    exact h
  | finishing =>
    simp only [hpoint] at h ⊢
    exact ⟨by rw [hreceived]; exact h.1, hall h.2⟩
  | ending result | reported result | exited result =>
    simp only [hpoint] at h ⊢
    exact ⟨by rw [hreceived]; exact h.1, fun hok => hall (h.2 hok)⟩

/-- **A step of the client** keeps what holds of the worker. -/
theorem Valid.client (h : Valid service world worker) (hstep : ClientStep worker next) :
    Valid service world next := by
  cases hstep with
  | send message =>
    refine ⟨h.ran.inbox (Channel.send_received _ _) ?_, h.statuses, h.reporting, h.reporter, ?_⟩
    · intro hdone
      rwa [Channel.send_of_dropped hdone.1]
    · rw [Channel.send_receiverAlive]
      exact h.listener
  | dropSender =>
    exact ⟨h.ran.inbox rfl fun hdone => ⟨rfl, hdone.2⟩, h.statuses, h.reporting, h.reporter,
      h.listener⟩
  | receive hreceive =>
    obtain ⟨-, -, haccepted, hcapacity, hsender, hreceiver⟩ := Channel.receive_eq_some hreceive
    refine ⟨h.ran, haccepted.trans h.statuses, ?_, ?_, h.listener⟩
    · rw [hreceiver, hcapacity]
      exact h.reporting
    · rw [hsender]
      exact h.reporter

/-- What a step of the worker leaves alone: what was sent to it, the sender, and
what was received of its reports. -/
theorem step_frame (hstep : worker.step service = some next) :
    next.inbox.accepted = worker.inbox.accepted ∧
      next.inbox.senderAlive = worker.inbox.senderAlive ∧
      next.inbox.capacity = worker.inbox.capacity ∧
      next.statuses.received = worker.statuses.received := by
  rw [Worker.step] at hstep
  split at hstep
  · split at hstep <;> obtain rfl := Option.some.inj hstep <;>
      simp [leave, Channel.dropReceiver]
  · split at hstep
    · rename_i hreceive
      obtain rfl := Option.some.inj hstep
      obtain ⟨-, -, haccepted, hcapacity, hsender, -⟩ := Channel.receive_eq_some hreceive
      exact ⟨haccepted, hsender, hcapacity, rfl⟩
    · split at hstep
      · cases hstep
      · obtain rfl := Option.some.inj hstep
        exact ⟨rfl, rfl, rfl, rfl⟩
  · split at hstep <;> obtain rfl := Option.some.inj hstep <;> exact ⟨rfl, rfl, rfl, rfl⟩
  · obtain rfl := Option.some.inj hstep
    exact ⟨rfl, rfl, rfl, rfl⟩
  · obtain rfl := Option.some.inj hstep
    simp
  · obtain rfl := Option.some.inj hstep
    exact ⟨rfl, rfl, rfl, rfl⟩
  · cases hstep

/-- The worker ended with an error. -/
def Failed (worker : Worker α ε S W) : Prop :=
  ∃ error, worker.point = .ending (.error error) ∨ worker.point = .reported (.error error) ∨
    worker.point = .exited (.error error)

/-- A worker that drops its inbox while there is a sender has failed. -/
theorem Valid.failed (h : Valid service world worker)
    (hreceiver : worker.inbox.receiverAlive = false)
    (hsender : worker.inbox.senderAlive = true) : worker.Failed := by
  have hran := h.ran
  rw [h.listener] at hreceiver
  rw [Ran] at hran
  rw [Failed]
  rcases hpoint : worker.point with _ | _ | message | _ | result | result | result <;>
    rw [hpoint] at hreceiver <;> simp only [hpoint] at hran
  · cases hreceiver
  · cases hreceiver
  · cases hreceiver
  · rw [hran.2.1] at hsender
    cases hsender
  all_goals
    rcases result with error | ⟨⟩
    · exact ⟨error, by simp⟩
    · rw [(hran.2 rfl).1] at hsender
      cases hsender

/-- A failure stays one. -/
theorem Failed.step (h : worker.Failed) (hstep : worker.step service = some next) :
    next.Failed := by
  obtain ⟨error, hpoint | hpoint | hpoint⟩ := h <;> rw [Worker.step, hpoint] at hstep
  · obtain rfl := Option.some.inj hstep
    exact ⟨error, .inr (.inl rfl)⟩
  · obtain rfl := Option.some.inj hstep
    exact ⟨error, .inr (.inr rfl)⟩
  · cases hstep

/-- The worker waits only for the client, and only while it is there. -/
theorem step_eq_none :
    worker.step service = none ↔
      worker.point = .receiving ∧ worker.inbox.buffer = [] ∧ worker.inbox.senderAlive = true ∨
        ∃ result, worker.point = .exited result := by
  rw [Worker.step]
  split
  case h_1 hpoint =>
    refine iff_of_false ?_ ?_
    · split <;> exact nofun
    · rw [hpoint]
      simp
  case h_2 hpoint =>
    rw [hpoint]
    split
    · rename_i hreceive
      have hbuffer := (Channel.receive_eq_some hreceive).1
      simp [hbuffer]
    · rename_i hreceive
      rw [Channel.receive_eq_none] at hreceive
      simp [hreceive]
  case h_3 hpoint =>
    refine iff_of_false ?_ ?_
    · split <;> exact nofun
    · rw [hpoint]
      simp
  case h_7 result hpoint => exact iff_of_true rfl (.inr ⟨result, hpoint⟩)
  all_goals
    rename_i hpoint
    exact iff_of_false nofun (by rw [hpoint]; simp)

/-- How many steps a worker can take before something is sent to it. -/
def stepsLeft (worker : Worker α ε S W) : ℕ :=
  2 * worker.inbox.buffer.length +
    match worker.point with
    | .starting | .handling _ => 5
    | .receiving => 4
    | .finishing => 3
    | .ending _ => 2
    | .reported _ => 1
    | .exited _ => 0

/-- Every step brings the worker nearer to its end, as long as nothing is sent. -/
theorem stepsLeft_step (hstep : worker.step service = some next) :
    next.stepsLeft < worker.stepsLeft := by
  rw [Worker.step] at hstep
  unfold stepsLeft
  -- a message costs two steps, so receiving one uses up a step of it
  split at hstep
  case h_2 hpoint =>
    rw [hpoint]
    split at hstep
    · rename_i hreceive
      obtain rfl := Option.some.inj hstep
      obtain ⟨hbuffer, -⟩ := Channel.receive_eq_some hreceive
      rw [hbuffer, List.length_cons]
      simp only
      omega
    · split at hstep
      · cases hstep
      · obtain rfl := Option.some.inj hstep
        simp only [Channel.dropReceiver, List.length_nil]
        omega
  case h_7 => cases hstep
  case h_4 hpoint =>
    obtain rfl := Option.some.inj hstep
    rw [hpoint]
    simp only [leave, Channel.dropReceiver, List.length_nil]
    omega
  case h_5 hpoint =>
    obtain rfl := Option.some.inj hstep
    rw [hpoint]
    simp only
    omega
  case h_6 hpoint =>
    obtain rfl := Option.some.inj hstep
    rw [hpoint]
    simp only
    omega
  all_goals
    rename_i hpoint
    rw [hpoint]
    split at hstep <;> obtain rfl := Option.some.inj hstep
    · simp only
      omega
    · simp only [leave, Channel.dropReceiver, List.length_nil]
      omega

end Step

end Worker

/-! ## A client and its worker -/

/-- A client thread with a state `M`, and the worker it feeds. -/
structure Threads (M α ε S W : Type) where
  /-- the client -/
  client : M
  /-- the worker -/
  worker : Worker α ε S W

namespace Threads

/-- Whose turn it is; the client's step takes what it reads from elsewhere. -/
inductive Action (I : Type) where
  /-- a step of the client -/
  | client (input : I)
  /-- a step of the worker -/
  | worker

variable {M I α ε S W : Type}

/-- A step of one of the threads, if it can take one. -/
def step (service : Service α ε S W)
    (clientStep : M → Worker α ε S W → I → Option (M × Worker α ε S W))
    (threads : Threads M α ε S W) : Action I → Option (Threads M α ε S W)
  | .client input =>
    (clientStep threads.client threads.worker input).map fun next => ⟨next.1, next.2⟩
  | .worker => (threads.worker.step service).map fun worker => ⟨threads.client, worker⟩

/-- A client that leaves the worker alone, but for what a client can do. -/
def Respects (clientStep : M → Worker α ε S W → I → Option (M × Worker α ε S W)) : Prop :=
  ∀ client worker input next, clientStep client worker input = some next →
    Relation.ReflTransGen Worker.ClientStep worker next.2

variable {service : Service α ε S W}
  {clientStep : M → Worker α ε S W → I → Option (M × Worker α ε S W)}
  {world : W} {threads next : Threads M α ε S W}

theorem valid_clientSteps {worker later : Worker α ε S W} (h : worker.Valid service world)
    (hsteps : Relation.ReflTransGen Worker.ClientStep worker later) :
    later.Valid service world := by
  induction hsteps with
  | refl => exact h
  | tail _ hstep ih => exact ih.client hstep

/-- What holds of a worker is kept by the steps of both threads. -/
theorem valid_step (hclient : Respects clientStep) {action : Action I}
    (h : threads.worker.Valid service world)
    (hstep : threads.step service clientStep action = some next) :
    next.worker.Valid service world := by
  cases action with
  | client input =>
    obtain ⟨after, hafter, rfl⟩ := Option.map_eq_some_iff.mp hstep
    exact valid_clientSteps h (hclient _ _ _ _ hafter)
  | worker =>
    obtain ⟨after, hafter, rfl⟩ := Option.map_eq_some_iff.mp hstep
    exact h.step hafter

/-- **Any interleaving** keeps what holds of the worker. -/
theorem valid_run (hclient : Respects clientStep) {actions : List (Action I)}
    (h : threads.worker.Valid service world)
    (hrun : Guarded.run (step service clientStep) threads actions = some next) :
    next.worker.Valid service world :=
  Guarded.run_invariant (P := fun threads => threads.worker.Valid service world)
    (fun _ _ _ hvalid hstep => valid_step hclient hvalid hstep) h hrun

end Threads
