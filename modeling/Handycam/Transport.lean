import Handycam.Mailbox
import Handycam.Opening

/-!
# The transport command

`handycam transport` reads the status of the camera, or sends one tape
transport command. Each command is sent by a process of its own, which learns
the sequence number from the camera: the camera echoes the last one in its
status.

* **one invocation** — `Transported`: what is exchanged with the camera, and
  what is reported;
* **a series** — `runTransport_series`: on a camera that echoes, separate
  invocations are one encoder.
-/

namespace Handycam

/-! ## The command line -/

/-- `TransportAction`. -/
inductive TransportAction where
  | status
  | stop
  | play
  | pause
  | rewind
  | fastForward
  deriving DecidableEq

/-- The command of an action; reading the status is none. -/
def TransportAction.command : TransportAction → Option TransportCommand
  | .status => none
  | .stop => some .stop
  | .play => some .play
  | .pause => some .pause
  | .rewind => some .rewind
  | .fastForward => some .fastForward

/-- `TransportArgs`. -/
structure TransportArgs where
  /-- what to do -/
  action : TransportAction
  /-- which camera -/
  usbPath : Option CameraSelector
  /-- the sequence number before the command -/
  currentSequence : Option UInt8
  /-- the delay before the status is read again, in milliseconds -/
  settleMs : UInt64
  /-- do not touch the camera -/
  dryRun : Bool

/-- `TransportObservation`, as far as it is printed. -/
structure TransportObservation where
  /-- the bus of the camera -/
  bus : UInt8
  /-- its ports -/
  portPath : List UInt8
  /-- the word that was sent -/
  commandWord : UInt32
  /-- the sequence number in it -/
  sequence : UInt8
  /-- the status before -/
  statusBefore : List UInt8
  /-- the status after -/
  statusAfter : List UInt8
  deriving DecidableEq

/-- What an invocation prints. -/
inductive TransportReport where
  /-- "status={status}" -/
  | status (status : List UInt8)
  /-- "command={action} word={word} sequence={sequence}" -/
  | dryRun (action : TransportAction) (word : UInt32) (sequence : UInt8)
  /-- the observation, and the places where the status changed, with both bytes -/
  | sent (action : TransportAction) (observation : TransportObservation)
    (changes : List (ℕ × UInt8 × UInt8))
  deriving DecidableEq

/-- How an invocation fails. -/
inductive TransportFailure where
  /-- "transport sequence {0} is outside the four-bit range 0..=15" -/
  | invalidTransportSequence (sequence : UInt8)
  /-- "USB camera failed: {0}" -/
  | usb (error : UsbTransportError)
  deriving DecidableEq

/-- The places where two status blocks differ. -/
def statusChanges (before after : List UInt8) : List (ℕ × UInt8 × UInt8) :=
  ((before.zip after).zipIdx.filter fun entry => entry.1.1 ≠ entry.1.2).map
    fun entry => (entry.2, entry.1)

section Program

variable {σ : Type} (camera : Camera σ)

/-- `select_device` in a new context. -/
def selectCamera (host : Host) (selector : CameraSelector) :
    Except UsbTransportError UsbDevice := do
  host.context.mapError .usb
  (selectDevice selector host.devices).mapError .ofSelector

/-- A program that talks to the camera. -/
def talking {α : Type} (program : EStateM TransportError (Bus σ) α) :
    EStateM UsbTransportError (Bus σ) α := fun bus =>
  match program.run bus with
  | .ok a bus => .ok a bus
  | .error error bus => .error (.ofTransport error) bus

/-- `read_camera_status`. -/
def readCameraStatus (host : Host) (selector : CameraSelector) :
    EStateM UsbTransportError (Bus σ) (List UInt8) :=
  match (do
    let _device ← selectCamera host selector
    host.opened.mapError .usb) with
  | .error error => throw error
  | .ok () => talking (readStatusBlock camera)

/-- The word of a command after a sequence number, and the sequence number in it. -/
def transportWord (currentSequence : UInt8) (command : TransportCommand) : UInt32 × UInt8 :=
  let (encoder, word) := (TransportCommandEncoder.withSequence currentSequence).encode command
  (word, encoder.sequence)

/-- The part of `send_transport_command` that talks to the camera: the status
before, the word, the sequence number in it, and the status after. -/
def exchangeCommand (command : TransportCommand) (currentSequence : Option UInt8)
    (settle : ℕ) : EStateM TransportError (Bus σ) (List UInt8 × (UInt32 × UInt8) × List UInt8) := do
  let statusBefore ← readStatusBlock camera
  let currentSequence := currentSequence.getD (statusBefore.headD 0 >>> 4)
  let encoded := transportWord currentSequence command
  let block := commandBlock encoded.1
  let actual ← writeControl camera 0x40 0x88 0 commandBlockIndex block
  if actual ≠ block.length then
    throw (.shortControlWrite commandBlockIndex block.length actual)
  sleep camera settle
  let statusAfter ← readStatusBlock camera
  return (statusBefore, encoded, statusAfter)

/-- `send_transport_command`; the delay is in nanoseconds. -/
def sendTransportCommand (host : Host) (selector : CameraSelector) (command : TransportCommand)
    (currentSequence : Option UInt8) (settle : ℕ) :
    EStateM UsbTransportError (Bus σ) TransportObservation :=
  match (do
    let device ← selectCamera host selector
    let portPath ← device.portNumbers.mapError .usb
    host.opened.mapError .usb
    return (device.busNumber, portPath)) with
  | .error error => throw error
  | .ok (bus, portPath) => do
    let (statusBefore, (commandWord, sequence), statusAfter) ←
      talking (exchangeCommand camera command currentSequence settle)
    return { bus, portPath, commandWord, sequence, statusBefore, statusAfter }

/-- A program whose errors are those of the camera. -/
def orUsb {α : Type} (program : EStateM UsbTransportError (Bus σ) α) :
    EStateM TransportFailure (Bus σ) α := fun bus =>
  match program.run bus with
  | .ok a bus => .ok a bus
  | .error error bus => .error (.usb error) bus

/-- The part of `run_transport` after the sequence number is checked. -/
def performTransport (host : Host) (arguments : TransportArgs) :
    EStateM TransportFailure (Bus σ) TransportReport :=
  let selector := arguments.usbPath.getD ⟨none, []⟩
  match arguments.action.command with
  | none => do return .status (← orUsb (readCameraStatus camera host selector))
  | some command =>
    if arguments.dryRun then
      let (word, sequence) := transportWord (arguments.currentSequence.getD 0) command
      return .dryRun arguments.action word sequence
    else do
      let observation ← orUsb (sendTransportCommand camera host selector command
        arguments.currentSequence (arguments.settleMs.toNat * 1000000))
      return .sent arguments.action observation
        (statusChanges observation.statusBefore observation.statusAfter)

/-- `run_transport`, up to the text that it prints. -/
def runTransport (host : Host) (arguments : TransportArgs) :
    EStateM TransportFailure (Bus σ) TransportReport :=
  match arguments.currentSequence.filter (0x0f < ·) with
  | some sequence => throw (.invalidTransportSequence sequence)
  | none => performTransport camera host arguments

end Program

/-! ## One invocation -/

/-- The request of a command after a sequence number. -/
def commandRequest (previous : UInt8) (command : TransportCommand) : Request :=
  .writeControl 0x40 0x88 0 commandBlockIndex (transportBlock ((previous.toNat + 1) % 16) command)

/-- The sequence number before a command: the given one, or the high nibble of
the status. -/
def previousSequence (given : Option UInt8) (statusBefore : List UInt8) : UInt8 :=
  given.getD (statusBefore.headD 0 >>> 4)

/-- What a command that is sent exchanges with the camera. -/
def fullExchange (given : Option UInt8) (command : TransportCommand) (settle : ℕ)
    (before after : List UInt8) : List Exchange :=
  [.sent statusRequest (.ok before),
    .sent (commandRequest (previousSequence given before) command) (.ok commandBlockSize),
    .slept settle, .sent statusRequest (.ok after)]

theorem toNat_withSequence (sequence : UInt8) :
    (TransportCommandEncoder.withSequence sequence).sequence.toNat = sequence.toNat % 16 := by
  have hmask : (0x0f : UInt8).toNat = 2 ^ 4 - 1 := by decide
  rw [TransportCommandEncoder.withSequence, UInt8.toNat_and, hmask, Nat.and_two_pow_sub_one_eq_mod]

/-- The word goes on from the sequence number, and has the new one. -/
theorem transportWord_spec (previous : UInt8) (command : TransportCommand) :
    commandBlock (transportWord previous command).1 =
        transportBlock ((previous.toNat + 1) % 16) command ∧
      (transportWord previous command).2.toNat = (previous.toNat + 1) % 16 := by
  have hblock := TransportCommandEncoder.commandBlock_encode (.withSequence previous) command
  have hsequence := TransportCommandEncoder.encode_sequence (.withSequence previous) command
  rw [toNat_withSequence, Nat.mod_add_mod] at hblock hsequence
  exact ⟨hblock, hsequence⟩

section Records

variable {σ : Type} (camera : Camera σ)

end Records

section Invocation

variable {σ : Type} (camera : Camera σ)

end Invocation

/-- A camera that takes commands, and echoes the sequence number of the last
one in the high nibble of its status. -/
structure Echoes {σ : Type} (camera : Camera σ) (counter : σ → ℕ) : Prop where
  /-- the status has the number -/
  status : ∀ state, ∃ (status : List UInt8) (next : σ),
    camera.transfer statusRequest state = (.ok status, next) ∧ status.length = statusSize ∧
      (status.headD 0).toNat / 16 = counter state ∧ counter next = counter state
  /-- a command changes it -/
  command : ∀ state q command, q < 16 → ∃ next,
    camera.transfer (.writeControl 0x40 0x88 0 commandBlockIndex (transportBlock q command)) state =
      (.ok commandBlockSize, next) ∧ counter next = q
  /-- time does not -/
  sleep : ∀ duration state, counter (camera.sleep duration state) = counter state

/-- The camera is found and opened. -/
def Finds (host : Host) (arguments : TransportArgs) : Prop :=
  ∃ device ports, selectCamera host (arguments.usbPath.getD ⟨none, []⟩) = .ok device ∧
    device.portNumbers = .ok ports ∧ host.opened = .ok ()

/-- An invocation by a process of its own. -/
def invoke {σ : Type} (camera : Camera σ) (host : Host) (bus : Bus σ) (arguments : TransportArgs) :
    Bus σ × Except TransportFailure TransportReport :=
  match (runTransport camera host arguments).run bus with
  | .ok report next => (next, .ok report)
  | .error error next => (next, .error error)

/-- The command that an invocation sends. -/
def TransportArgs.sends (arguments : TransportArgs) : Option TransportCommand :=
  if arguments.dryRun then none else arguments.action.command

/-- The word that is reported as sent, and the sequence number in it. -/
def sentWord? : Except TransportFailure TransportReport → Option (UInt32 × UInt8)
  | .ok (.sent _ observation _) => some (observation.commandWord, observation.sequence)
  | _ => none

/-- An encoder, with the sequence numbers that it uses. -/
def encodeNumbered (encoder : TransportCommandEncoder) (command : TransportCommand) :
    TransportCommandEncoder × UInt32 × UInt8 :=
  let (next, word) := encoder.encode command
  (next, word, next.sequence)

section Series

variable {σ : Type} {camera : Camera σ} {counter : σ → ℕ} {host : Host} {arguments : TransportArgs}
  {command : TransportCommand}

theorem transfer_run {request : Request} {bus : Bus σ} {answer : request.Answer} {next : σ}
    (h : camera.transfer request bus.state = (.ok answer, next)) :
    (transfer camera request).run bus =
      .ok answer ⟨next, bus.log ++ [.sent request (.ok answer)]⟩ := by
  rw [EStateM.run, transfer, h]

/-- The status is read, and has the number. -/
theorem Echoes.readStatusBlock (h : Echoes camera counter) (bus : Bus σ) :
    ∃ status next, (readStatusBlock camera).run bus =
        .ok status ⟨next, bus.log ++ [.sent statusRequest (.ok status)]⟩ ∧
      (status.headD 0).toNat / 16 = counter bus.state ∧ counter next = counter bus.state := by
  obtain ⟨status, next, htransfer, hlength, hnibble, hcounter⟩ := h.status bus.state
  refine ⟨status, next, ?_, hnibble, hcounter⟩
  have hread : (readControl camera 0xc0 0x88 0 statusIndex statusSize).run bus = _ :=
    transfer_run htransfer
  rw [Handycam.readStatusBlock, EStateM.run_bind, hread]
  simp only [hlength, ne_eq, not_true_eq_false, if_false]
  rfl

/-- The number is a nibble. -/
theorem Echoes.lt (h : Echoes camera counter) (state : σ) : counter state < 16 := by
  obtain ⟨status, -, -, -, hnibble, -⟩ := h.status state
  have hbyte := (status.headD 0).toNat_lt
  omega

theorem toNat_previousSequence (status : List UInt8) :
    (previousSequence none status).toNat = (status.headD 0).toNat / 16 := by
  rw [previousSequence, Option.getD_none, UInt8.toNat_shiftRight, Nat.shiftRight_eq_div_pow]
  rfl

/-- The command is sent, and the number goes on. -/
theorem Echoes.exchangeCommand (h : Echoes camera counter) (command : TransportCommand)
    (settle : ℕ) (bus : Bus σ) :
    ∃ before after encoded next, (exchangeCommand camera command none settle).run bus =
        .ok (before, encoded, after)
          ⟨next, bus.log ++ fullExchange none command settle before after⟩ ∧
      (previousSequence none before).toNat = counter bus.state ∧
      encoded = transportWord (previousSequence none before) command ∧
      counter next = (counter bus.state + 1) % 16 := by
  -- the number read is the camera's, so the block written is the one it expects
  obtain ⟨before, afterRead, hread, hnibble, hcounter⟩ := h.readStatusBlock bus
  have hprevious : (previousSequence none before).toNat = counter bus.state := by
    rw [toNat_previousSequence, hnibble]
  have hblock := (transportWord_spec (previousSequence none before) command).1
  obtain ⟨afterWrite, hwrite, hwritten⟩ := h.command afterRead
    (((previousSequence none before).toNat + 1) % 16) command (Nat.mod_lt _ (by decide))
  obtain ⟨after, next, hagain, -, hlast⟩ := h.readStatusBlock
    ⟨camera.sleep settle afterWrite, bus.log ++ [.sent statusRequest (.ok before)] ++
      [.sent (commandRequest (previousSequence none before) command) (.ok commandBlockSize)] ++
      [.slept settle]⟩
  refine ⟨before, after, _, next, ?_, hprevious, rfl, ?_⟩
  · have hlength : (transportBlock (((previousSequence none before).toNat + 1) % 16)
        command).length = commandBlockSize := by
      rw [transportBlock, List.length_append, List.length_replicate]
      rfl
    have hwriteRun : (writeControl camera 0x40 0x88 0 commandBlockIndex
        (transportBlock (((previousSequence none before).toNat + 1) % 16) command)).run
          ⟨afterRead, bus.log ++ [.sent statusRequest (.ok before)]⟩ = _ := transfer_run hwrite
    rw [Handycam.exchangeCommand, EStateM.run_bind, hread]
    dsimp only
    rw [previousSequence] at hblock hlength hwriteRun
    rw [hblock, hlength, EStateM.run_bind, hwriteRun]
    simp only [ne_eq, not_true_eq_false, if_false]
    have hsleep : ∀ (state : σ) (log : List Exchange),
        (Handycam.sleep camera settle).run ⟨state, log⟩ =
          .ok () ⟨camera.sleep settle state, log ++ [.slept settle]⟩ := fun _ _ => rfl
    rw [EStateM.run_bind, hsleep]
    dsimp only
    rw [EStateM.run_bind]
    simp only [commandRequest, previousSequence] at hagain
    rw [hagain]
    simp [fullExchange, commandRequest, previousSequence]
  · rw [hlast, h.sleep, hwritten, hprevious]

/-- The encoder that goes on from the number is the one that is at it. -/
theorem withSequence_eq {encoder : TransportCommandEncoder} {sequence : UInt8}
    (h : sequence.toNat = encoder.sequence.toNat) :
    TransportCommandEncoder.withSequence sequence = encoder := by
  have hsequence : (TransportCommandEncoder.withSequence sequence).sequence = encoder.sequence := by
    apply UInt8.toNat_inj.mp
    rw [toNat_withSequence, h]
    exact Nat.mod_eq_of_lt encoder.sequence_lt
  rcases encoder with ⟨number, hnumber⟩
  rcases hwith : TransportCommandEncoder.withSequence sequence with ⟨other, hother⟩
  rw [hwith] at hsequence
  obtain rfl : other = number := hsequence
  rfl

/-- The arguments of an invocation that takes the sequence number from the
camera. -/
structure Automatic (host : Host) (arguments : TransportArgs) : Prop where
  /-- no number is given -/
  sequence : arguments.currentSequence = none
  /-- the camera is found and opened -/
  finds : Finds host arguments

theorem Automatic.run_eq (h : Automatic host arguments) (bus : Bus σ) :
    (runTransport camera host arguments).run bus =
      (performTransport camera host arguments).run bus := by
  rw [runTransport, h.sequence]
  rfl

theorem talking_run {α : Type} {program : EStateM TransportError (Bus σ) α} {bus next : Bus σ}
    {a : α} (h : program.run bus = .ok a next) : (talking program).run bus = .ok a next := by
  rw [EStateM.run, talking, h]

theorem orUsb_run {α : Type} {program : EStateM UsbTransportError (Bus σ) α} {bus next : Bus σ}
    {a : α} (h : program.run bus = .ok a next) : (orUsb program).run bus = .ok a next := by
  rw [EStateM.run, orUsb, h]

theorem Finds.readCameraStatus (h : Finds host arguments) :
    readCameraStatus camera host (arguments.usbPath.getD ⟨none, []⟩) =
      talking (readStatusBlock camera) := by
  obtain ⟨device, ports, hselect, -, hopened⟩ := h
  rw [Handycam.readCameraStatus, hselect, hopened]
  rfl

theorem Finds.sendTransportCommand (camera : Camera σ) (h : Finds host arguments)
    (command : TransportCommand) (given : Option UInt8) (settle : ℕ) :
    ∃ bus portPath, sendTransportCommand camera host (arguments.usbPath.getD ⟨none, []⟩) command
        given settle = do
      let (statusBefore, (commandWord, sequence), statusAfter) ←
        talking (exchangeCommand camera command given settle)
      return { bus, portPath, commandWord, sequence, statusBefore, statusAfter } := by
  obtain ⟨device, ports, hselect, hports, hopened⟩ := h
  refine ⟨device.busNumber, ports, ?_⟩
  rw [Handycam.sendTransportCommand, hselect, bind_of_ok rfl, hports, hopened]
  rfl

/-- An invocation that sends nothing leaves the number. -/
theorem Echoes.invoke_idle (h : Echoes camera counter) (hauto : Automatic host arguments)
    (hsends : arguments.sends = none) (bus : Bus σ) :
    ∃ report next log, invoke camera host bus arguments = (⟨next, bus.log ++ log⟩, .ok report) ∧
      sentWord? (.ok report) = none ∧ commands log = [] ∧ counter next = counter bus.state := by
  rcases haction : arguments.action.command with _ | command
  · obtain ⟨status, next, hread, -, hcounter⟩ := h.readStatusBlock bus
    refine ⟨.status status, next, [.sent statusRequest (.ok status)], ?_, rfl, rfl, hcounter⟩
    rw [invoke, hauto.run_eq, performTransport, haction, hauto.finds.readCameraStatus]
    dsimp only
    rw [EStateM.run_bind, orUsb_run (talking_run hread)]
    rfl
  · have hdry : arguments.dryRun = true := by
      rw [TransportArgs.sends, haction] at hsends
      by_contra hdry
      rw [if_neg hdry] at hsends
      cases hsends
    refine ⟨.dryRun arguments.action (transportWord (arguments.currentSequence.getD 0) command).1
      (transportWord (arguments.currentSequence.getD 0) command).2, bus.state, [], ?_, rfl, rfl,
      rfl⟩
    rw [invoke, hauto.run_eq, performTransport, haction, List.append_nil]
    dsimp only
    rw [if_pos hdry]
    rfl

/-- An invocation that sends a command is a step of the encoder. -/
theorem Echoes.invoke_sends (h : Echoes camera counter) (hauto : Automatic host arguments)
    (hsends : arguments.sends = some command) (bus : Bus σ) :
    ∃ report next log before,
      invoke camera host bus arguments = (⟨next, bus.log ++ log⟩, .ok report) ∧
      (previousSequence none before).toNat = counter bus.state ∧
      sentWord? (.ok report) = some (transportWord (previousSequence none before) command) ∧
      commands log = [commandRequest (previousSequence none before) command] ∧
      counter next = (counter bus.state + 1) % 16 := by
  have hdry : arguments.dryRun ≠ true := by
    intro hdry
    rw [TransportArgs.sends, if_pos hdry] at hsends
    cases hsends
  rw [TransportArgs.sends, if_neg hdry] at hsends
  obtain ⟨before, after, encoded, next, hexchange, hprevious, rfl, hcounter⟩ :=
    h.exchangeCommand command (arguments.settleMs.toNat * 1000000) bus
  obtain ⟨busNumber, portPath, hsend⟩ := hauto.finds.sendTransportCommand camera command none
    (arguments.settleMs.toNat * 1000000)
  refine ⟨.sent arguments.action ⟨busNumber, portPath, _, _, before, after⟩
    (statusChanges before after), next, fullExchange none command
    (arguments.settleMs.toNat * 1000000) before after, before, ?_, hprevious, rfl, rfl, hcounter⟩
  rw [invoke, hauto.run_eq, performTransport, hsends]
  dsimp only
  rw [if_neg hdry, hauto.sequence, hsend, EStateM.run_bind, orUsb_run]
  rotate_left
  · rw [EStateM.run_bind, talking_run hexchange]
    rfl
  rfl

/-- A series, from an encoder that is at the number. -/
theorem Echoes.invoke_series (h : Echoes camera counter) {series : List TransportArgs}
    (hauto : ∀ arguments ∈ series, Automatic host arguments) {encoder : TransportCommandEncoder}
    {bus : Bus σ} (hcounter : counter bus.state = encoder.sequence.toNat) :
    (∀ result ∈ Mealy.outputs (invoke camera host) bus series, ∃ report, result = .ok report) ∧
      commands (Mealy.final (invoke camera host) bus series).log = commands bus.log ++
        (mailboxBlocks encoder (series.filterMap TransportArgs.sends)).map
          (.writeControl 0x40 0x88 0 commandBlockIndex) ∧
      (Mealy.outputs (invoke camera host) bus series).filterMap sentWord? =
        Mealy.outputs encodeNumbered encoder (series.filterMap TransportArgs.sends) ∧
      counter (Mealy.final (invoke camera host) bus series).state =
        (Mealy.final encodeNumbered encoder
          (series.filterMap TransportArgs.sends)).sequence.toNat := by
  -- the camera's number and the encoder's stay equal from one invocation to the next
  induction series generalizing encoder bus with
  | nil => exact ⟨fun _ h => absurd h List.not_mem_nil, (List.append_nil _).symm, rfl, hcounter⟩
  | cons arguments series ih =>
    have hrest : ∀ arguments ∈ series, Automatic host arguments := fun arguments hmem =>
      hauto arguments (List.mem_cons_of_mem _ hmem)
    rcases hsends : arguments.sends with _ | command
    · obtain ⟨report, next, log, hinvoke, hword, hcommands, hnext⟩ :=
        h.invoke_idle (hauto arguments List.mem_cons_self) hsends bus
      obtain ⟨hok, hlog, hwords, hfinal⟩ := @ih hrest encoder ⟨next, bus.log ++ log⟩
        (hnext.trans hcounter)
      rw [Mealy.outputs_cons, Mealy.final_cons, hinvoke, List.filterMap_cons_none hsends,
        List.filterMap_cons_none hword]
      refine ⟨?_, ?_, hwords, hfinal⟩
      · intro result hmem
        rcases List.mem_cons.mp hmem with rfl | hmem
        · exact ⟨report, rfl⟩
        · exact hok result hmem
      · rw [hlog, commands_append, hcommands, List.append_nil]
    · obtain ⟨report, next, log, before, hinvoke, hbefore, hword, hcommands, hnext⟩ :=
        h.invoke_sends (hauto arguments List.mem_cons_self) hsends bus
      have hencoder := withSequence_eq (hbefore.trans hcounter)
      obtain ⟨hok, hlog, hwords, hfinal⟩ := @ih hrest (encoder.encode command).1
        ⟨next, bus.log ++ log⟩ (by
          rw [TransportCommandEncoder.encode_sequence, ← hcounter]
          exact hnext)
      rw [Mealy.outputs_cons, Mealy.final_cons, hinvoke, List.filterMap_cons_some hsends,
        List.filterMap_cons_some hword, transportWord, hencoder]
      refine ⟨?_, ?_, ?_, hfinal⟩
      · intro result hmem
        rcases List.mem_cons.mp hmem with rfl | hmem
        · exact ⟨report, rfl⟩
        · exact hok result hmem
      · rw [hlog, commands_append, hcommands, commandRequest, ← (transportWord_spec _ _).1,
          transportWord, hencoder, List.append_assoc]
        rfl
      · rw [hwords]
        rfl

end Series

/-- **A series** of invocations on a camera that echoes the sequence number of
the last command in its status: although each is a process of its own, together
they are one encoder. Each succeeds, the mailboxes that are written are those of
the encoder that is at the camera's number, the words that are reported are
those that were written, and the camera's number is the encoder's in the end. -/
theorem runTransport_series {σ : Type} {camera : Camera σ} {counter : σ → ℕ} {host : Host}
    (hcamera : Echoes camera counter) {series : List TransportArgs}
    (hseries : ∀ arguments ∈ series, Automatic host arguments) (bus : Bus σ) :
    let encoder := TransportCommandEncoder.withSequence (UInt8.ofNat (counter bus.state))
    let sent := series.filterMap TransportArgs.sends
    let last := Mealy.final (invoke camera host) bus series
    (∀ result ∈ Mealy.outputs (invoke camera host) bus series, ∃ report, result = .ok report) ∧
      commands last.log = commands bus.log ++
        (mailboxBlocks encoder sent).map (.writeControl 0x40 0x88 0 commandBlockIndex) ∧
      (Mealy.outputs (invoke camera host) bus series).filterMap sentWord? =
        Mealy.outputs encodeNumbered encoder sent ∧
      counter last.state = (Mealy.final encodeNumbered encoder sent).sequence.toNat := by
  intro encoder sent last
  refine hcamera.invoke_series hseries ?_
  have hlt := hcamera.lt bus.state
  rw [toNat_withSequence, UInt8.toNat_ofNat', Nat.mod_eq_of_lt (hlt.trans (by decide)),
    Nat.mod_eq_of_lt hlt]

/-- A camera that takes commands: its number, and its clock. -/
def echoingCamera : Camera (ℕ × ℕ) where
  transfer
    | .readControl _ _ _ _ length, (number, now) =>
      (.ok ((UInt8.ofNat (16 * number) :: List.replicate 63 0).take length), number, now)
    | .writeControl _ _ _ _ data, (_, now) =>
      (.ok data.length, (data[61]?.getD 0).toNat / 16, now)
    | .setAlternateSetting _ _, state => (.ok (), state)
  sleep duration state := (state.1, state.2 + duration)
  now := Prod.snd
  now_sleep _ _ := Nat.le_refl _
  now_transfer request _ := by cases request <;> exact Nat.le_refl _

theorem echoes_echoingCamera : Echoes echoingCamera fun state => state.1 % 16 where
  status state := by
    refine ⟨UInt8.ofNat (16 * state.1) :: List.replicate 63 0, state, rfl, rfl, ?_, rfl⟩
    rw [List.headD_cons, UInt8.toNat_ofNat']
    omega
  command state q command hq := by
    refine ⟨(q, state.2), ?_, Nat.mod_eq_of_lt hq⟩
    have hnumber : (nibbles q 1).toNat / 16 = q := by
      rw [nibbles, UInt8.toNat_ofNat']
      omega
    have hlength : (transportBlock q command).length = commandBlockSize := by
      rw [transportBlock, List.length_append, List.length_replicate]
      rfl
    have hbyte : (transportBlock q command)[61]? = some (nibbles q 1) := by
      rw [transportBlock, List.getElem?_append_right (by simp), List.length_replicate]
      rfl
    change (Except.ok (transportBlock q command).length,
      ((transportBlock q command)[61]?.getD 0).toNat / 16, state.2) = _
    rw [hlength, hbyte, Option.getD_some, hnumber]
    rfl
  sleep _ _ := rfl

/-- The tape is played, looked at and stopped; a pause is only tried. -/
def transportSeries : List TransportArgs :=
  [⟨.play, none, none, 750, false⟩, ⟨.status, none, none, 750, false⟩,
    ⟨.pause, none, none, 750, true⟩, ⟨.stop, none, none, 750, false⟩]

/-- The number passes from 15 to 0. -/
theorem runTransport_series_echoingCamera :
    commands (Mealy.final (invoke echoingCamera openingHost) ⟨(14, 0), []⟩ transportSeries).log =
      [.writeControl 0x40 0x88 0 commandBlockIndex (transportBlock 15 .play),
        .writeControl 0x40 0x88 0 commandBlockIndex (transportBlock 0 .stop)] := by
  have hseries : ∀ arguments ∈ transportSeries, Automatic openingHost arguments := by
    intro arguments hmem
    have hpath : arguments.usbPath = none ∧ arguments.currentSequence = none := by
      revert arguments
      decide
    refine ⟨hpath.2, ⟨.ok ⟨vendorId, productId⟩, 1, .ok [2]⟩, [2], ?_, rfl, rfl⟩
    rw [hpath.1]
    decide
  have hblocks : mailboxBlocks (.withSequence 14) (transportSeries.filterMap TransportArgs.sends) =
      [transportBlock 15 .play, transportBlock 0 .stop] := by decide +kernel
  rw [(runTransport_series echoes_echoingCamera hseries ⟨(14, 0), []⟩).2.1]
  exact congrArg (List.map (Request.writeControl 0x40 0x88 0 commandBlockIndex)) hblocks

end Handycam
