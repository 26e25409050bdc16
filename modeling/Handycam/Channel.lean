import Mathlib.Data.List.Basic

/-!
# Channels between two threads

A channel takes messages from one thread to another, first in, first out. It
has room for a number of messages, or for any number, and either end can be
dropped: without a receiver nothing is accepted any more, and without a sender
the receiver gets what is left and then nothing.

The channel remembers what it has accepted and what it has handed on, which is
what the threads at its ends are reasoned about with. What it promises are
fields of the structure:

* **order** — `flow` and `taken`: messages are received in the order in which
  they were accepted, each once, and none is lost while there is a receiver;
* **room** — `bound`: no more messages wait than there is room for.
-/

universe u

/-- A channel with messages of type `α`. -/
structure Channel (α : Type u) where
  /-- how many messages can wait; `none` if any number can -/
  capacity : Option ℕ
  /-- the messages that wait, the next one first -/
  buffer : List α
  /-- the sender has not been dropped -/
  senderAlive : Bool
  /-- the receiver has not been dropped -/
  receiverAlive : Bool
  /-- every message ever accepted -/
  accepted : List α
  /-- every message ever received -/
  received : List α
  /-- what was accepted was received, or waits -/
  flow : receiverAlive = true → received ++ buffer = accepted
  /-- what was received is the first part of what was accepted -/
  taken : received <+: accepted
  /-- nothing waits without a receiver -/
  dropped : receiverAlive = false → buffer = []
  /-- there is room for what waits -/
  bound : ∀ room ∈ capacity, buffer.length ≤ room

namespace Channel

variable {α : Type u}

/-- A new channel. -/
def new (capacity : Option ℕ) : Channel α where
  capacity := capacity
  buffer := []
  senderAlive := true
  receiverAlive := true
  accepted := []
  received := []
  flow _ := rfl
  taken := List.prefix_refl _
  dropped _ := rfl
  bound _ _ := Nat.zero_le _

section Operations

variable (channel : Channel α)

/-- There is room for one more message. -/
def hasRoom : Bool := channel.capacity.all fun room => channel.buffer.length < room

/-- A message would be accepted: both ends are there, and there is room. -/
def accepts : Bool := channel.senderAlive && channel.receiverAlive && channel.hasRoom

theorem accepts_iff :
    channel.accepts = true ↔
      channel.senderAlive = true ∧ channel.receiverAlive = true ∧
        ∀ room ∈ channel.capacity, channel.buffer.length < room := by
  rw [accepts, hasRoom, Bool.and_eq_true, Bool.and_eq_true, and_assoc]
  cases channel.capacity <;> simp

/-- Send a message, if it is accepted. -/
def send (message : α) : Channel α :=
  if h : channel.accepts then
    { channel with
      buffer := channel.buffer ++ [message]
      accepted := channel.accepted ++ [message]
      flow := fun hreceiver => by rw [← List.append_assoc, channel.flow hreceiver]
      taken := channel.taken.trans (List.prefix_append _ _)
      dropped := by
        intro hreceiver
        rw [(channel.accepts_iff.mp h).2.1] at hreceiver
        cases hreceiver
      bound := by
        intro room hroom
        rw [List.length_append, List.length_singleton]
        exact (channel.accepts_iff.mp h).2.2 room hroom }
  else channel

theorem receiverAlive_of_buffer {message : α} {rest : List α}
    (h : channel.buffer = message :: rest) : channel.receiverAlive = true := by
  rcases hreceiver : channel.receiverAlive with _ | _
  · rw [channel.dropped hreceiver] at h
    cases h
  · rfl

theorem flow_of_buffer {message : α} {rest : List α} (h : channel.buffer = message :: rest) :
    channel.received ++ [message] ++ rest = channel.accepted := by
  rw [List.append_assoc, List.singleton_append, ← h,
    channel.flow (channel.receiverAlive_of_buffer h)]

/-- Receive a message, if one waits. -/
def receive : Option (α × Channel α) :=
  match h : channel.buffer with
  | [] => none
  | message :: rest =>
    some (message, { channel with
      buffer := rest
      received := channel.received ++ [message]
      flow := fun _ => channel.flow_of_buffer h
      taken := ⟨rest, channel.flow_of_buffer h⟩
      dropped := by
        intro hreceiver
        rw [channel.receiverAlive_of_buffer h] at hreceiver
        cases hreceiver
      bound := by
        intro room hroom
        have hbound := channel.bound room hroom
        rw [h, List.length_cons] at hbound
        exact Nat.le_of_succ_le hbound })

/-- Drop the sender. -/
def dropSender : Channel α := { channel with senderAlive := false }

/-- Drop the receiver, and with it what waits. -/
def dropReceiver : Channel α :=
  { channel with
    receiverAlive := false
    buffer := []
    flow := nofun
    dropped := fun _ => rfl
    bound := fun _ _ => Nat.zero_le _ }

end Operations

variable {channel next : Channel α} {message : α}

theorem send_of_accepts (h : channel.accepts = true) (message : α) :
    (channel.send message).buffer = channel.buffer ++ [message] ∧
      (channel.send message).accepted = channel.accepted ++ [message] := by
  rw [send, dif_pos h]
  exact ⟨rfl, rfl⟩

theorem send_of_not_accepts (h : channel.accepts = false) (message : α) :
    channel.send message = channel := by
  rw [send, dif_neg (by simp [h])]

@[simp] theorem send_received (channel : Channel α) (message : α) :
    (channel.send message).received = channel.received := by
  rw [send]
  split <;> rfl

@[simp] theorem send_senderAlive (channel : Channel α) (message : α) :
    (channel.send message).senderAlive = channel.senderAlive := by
  rw [send]
  split <;> rfl

@[simp] theorem send_receiverAlive (channel : Channel α) (message : α) :
    (channel.send message).receiverAlive = channel.receiverAlive := by
  rw [send]
  split <;> rfl

@[simp] theorem send_capacity (channel : Channel α) (message : α) :
    (channel.send message).capacity = channel.capacity := by
  rw [send]
  split <;> rfl

/-- Without a sender nothing is sent. -/
theorem send_of_dropped (h : channel.senderAlive = false) (message : α) :
    channel.send message = channel :=
  send_of_not_accepts (by rw [accepts, h, Bool.false_and, Bool.false_and]) message

/-- Nothing is received exactly when nothing waits. -/
theorem receive_eq_none : channel.receive = none ↔ channel.buffer = [] := by
  rw [receive]
  split
  · simp [*]
  · simp [*]

/-- What is received waited first, and everything else stays. -/
theorem receive_eq_some (h : channel.receive = some (message, next)) :
    channel.buffer = message :: next.buffer ∧ next.received = channel.received ++ [message] ∧
      next.accepted = channel.accepted ∧ next.capacity = channel.capacity ∧
      next.senderAlive = channel.senderAlive ∧ next.receiverAlive = channel.receiverAlive := by
  rw [receive] at h
  split at h
  · cases h
  · rename_i hbuffer
    obtain ⟨rfl, rfl⟩ := Prod.mk.inj (Option.some.inj h)
    exact ⟨hbuffer, rfl, rfl, rfl, rfl, rfl⟩

/-- A receiver that finds nothing has everything. -/
theorem received_eq (hreceiver : channel.receiverAlive = true) (hbuffer : channel.buffer = []) :
    channel.received = channel.accepted := by
  rw [← channel.flow hreceiver, hbuffer, List.append_nil]

end Channel
