import Handycam.Initialization
import Handycam.Selector
import Handycam.Worker

/-!
# Opening and closing the camera

`openWithInitStrategy` finds the camera, claims its interface, replays the
initialization plan and submits the transfers; `stop` takes all of that back.
Everything can fail, and what libusb and the camera answer is up to them.

* **the log** — what was done with the interface of the device, in order.
  `Attempted` says which logs an attempt to open the camera leaves, if a session
  that it opened is stopped.
* **discipline** — `Hold.step` is how an interface is to be used: it is claimed
  before anything is sent, no setting of another one is selected, it is put back
  to its first setting and released before it is claimed again, and no transfer
  is left behind.
-/

namespace Handycam

/-! ## Errors -/

/-- `UsbTransportError`. -/
inductive UsbTransportError where
  /-- "invalid USB path {0:?}; expected BUS-PORT[.PORT...]" -/
  | invalidUsbPath (value : List Char)
  /-- "Sony camera 054c:00c0 is not connected" -/
  | noCamera
  /-- "multiple Sony cameras match; select one with --usb-path: {0}" -/
  | ambiguousCamera (paths : List Char)
  /-- "USB operation failed: {0}", an error of libusb -/
  | usb (code : ℤ)
  /-- "interface 0 already has a kernel driver" -/
  | kernelDriverActive
  /-- "camera descriptors do not provide interface 0 alt 5 endpoints 0x81/0x82" -/
  | unexpectedDescriptors
  /-- "initialization control read index {index} returned {actual} bytes, expected {expected}" -/
  | shortControlRead (index : UInt16) (expected actual : ℕ)
  /-- "initialization control write index {index} wrote {actual} bytes, expected {expected}" -/
  | shortControlWrite (index : UInt16) (expected actual : ℕ)
  /-- "could not allocate an isochronous libusb transfer" -/
  | transferAllocation
  /-- "could not submit an isochronous transfer: libusb error {0}" -/
  | transferSubmission (code : ℤ)
  /-- "libusb event handling failed: {0}" -/
  | eventHandling (code : ℤ)
  /-- "startup command token {token} was not acknowledged within 500 ms" -/
  | statusPollTimeout (token lastStatus : UInt8)
  deriving DecidableEq

namespace UsbTransportError

/-- The errors of a selector. -/
def ofSelector : SelectorError → UsbTransportError
  | .invalidUsbPath value => .invalidUsbPath value
  | .noCamera => .noCamera
  | .ambiguousCamera paths => .ambiguousCamera paths
  | .usb code => .usb code

/-- The errors of an initialization. -/
def ofTransport : TransportError → UsbTransportError
  | .usb code => .usb code
  | .shortControlRead index expected actual => .shortControlRead index expected actual
  | .shortControlWrite index expected actual => .shortControlWrite index expected actual
  | .statusPollTimeout token lastStatus => .statusPollTimeout token lastStatus

end UsbTransportError

/-- `LIBUSB_ERROR_NOT_SUPPORTED`. -/
def errorNotSupported : ℤ := -12

/-! ## Descriptors -/

/-- `VIDEO_INTERFACE`. -/
def videoInterface : UInt8 := 0

/-- `VIDEO_ALT`. -/
def videoAlt : UInt8 := 5

/-- `EP_BOUNDARY`. -/
def epBoundary : UInt8 := 0x81

/-- `EP_VIDEO`. -/
def epVideo : UInt8 := 0x82

/-- `TransferType`. -/
inductive TransferType where
  /-- control transfers -/
  | control
  /-- isochronous transfers -/
  | isochronous
  /-- bulk transfers -/
  | bulk
  /-- interrupt transfers -/
  | interrupt
  deriving DecidableEq

/-- The descriptor of an endpoint. -/
structure EndpointDescriptor where
  /-- the address; its highest bit is the direction -/
  address : UInt8
  /-- how data is transferred -/
  transferType : TransferType
  /-- the size of its packets -/
  maxPacketSize : UInt16
  deriving DecidableEq

/-- `direction() == Direction::In`. -/
def EndpointDescriptor.isIn (endpoint : EndpointDescriptor) : Bool :=
  endpoint.address &&& 0x80 != 0

/-- The descriptor of a setting of an interface. -/
structure InterfaceDescriptor where
  /-- the number of the setting -/
  settingNumber : UInt8
  /-- its endpoints -/
  endpoints : List EndpointDescriptor
  deriving DecidableEq

/-- An interface of a device. -/
structure Interface where
  /-- its number -/
  number : UInt8
  /-- its settings -/
  descriptors : List InterfaceDescriptor
  deriving DecidableEq

/-- An isochronous endpoint into the host, at an address and with room for
packets of a size. -/
def EndpointDescriptor.serves (endpoint : EndpointDescriptor) (address : UInt8) (size : UInt16) :
    Bool :=
  endpoint.isIn && endpoint.transferType == .isochronous && endpoint.address == address &&
    size ≤ endpoint.maxPacketSize

/-- The setting has both endpoints. -/
def InterfaceDescriptor.streams (descriptor : InterfaceDescriptor) : Bool :=
  descriptor.endpoints.any (·.serves epBoundary 8) && descriptor.endpoints.any (·.serves epVideo 768)

/-- `validate_descriptors`, for the interfaces of the active configuration. -/
def validateDescriptors (interfaces : Except ℤ (List Interface)) :
    Except UsbTransportError Unit := do
  let interfaces ← interfaces.mapError .usb
  if interfaces.any fun interface =>
      interface.number == videoInterface && interface.descriptors.any fun descriptor =>
        descriptor.settingNumber == videoAlt && descriptor.streams then
    return
  throw .unexpectedDescriptors

theorem Except.mapError_eq_ok {ε ε' α : Type} {f : ε → ε'} {x : Except ε α} {a : α} :
    x.mapError f = .ok a ↔ x = .ok a := by
  cases x <;> simp [Except.mapError]

/-- Among some interfaces there is one that streams: the first interface has a
setting 5 with both isochronous endpoints. -/
def Streams (interfaces : List Interface) : Prop :=
  ∃ interface ∈ interfaces, interface.number = videoInterface ∧
    ∃ descriptor ∈ interface.descriptors, descriptor.settingNumber = videoAlt ∧
      (∃ endpoint ∈ descriptor.endpoints, endpoint.serves epBoundary 8 = true) ∧
      ∃ endpoint ∈ descriptor.endpoints, endpoint.serves epVideo 768 = true

theorem validateDescriptors_eq_ok {interfaces : Except ℤ (List Interface)} :
    validateDescriptors interfaces = .ok () ↔ ∃ list, interfaces = .ok list ∧ Streams list := by
  rcases interfaces with code | list
  · exact iff_of_false nofun (by simp)
  · have hany : list.any (fun interface =>
          interface.number == videoInterface && interface.descriptors.any fun descriptor =>
            descriptor.settingNumber == videoAlt && descriptor.streams) = true ↔ Streams list := by
      simp [Streams, InterfaceDescriptor.streams]
    rw [validateDescriptors, bind_of_ok (show Except.mapError _ _ = _ from rfl)]
    split
    · rename_i hstreams
      exact iff_of_true rfl ⟨list, rfl, hany.mp hstreams⟩
    · rename_i hstreams
      refine iff_of_false nofun ?_
      rintro ⟨other, hother, hlist⟩
      obtain rfl := Except.ok.inj hother
      exact hstreams (hany.mpr hlist)

/-! ## Selecting one -/

section Selected

variable {selector : CameraSelector} {device : UsbDevice}

/-- A device that the loop decides about is decided about as meant. -/
theorem selects_eq_ok {selected : Bool} (h : selects selector device = .ok selected) :
    selected = meant selector device := by
  -- the ports are read last, so a device may be passed over without them
  rcases hports : device.portNumbers with code | ports
  · rw [selects] at h
    split at h
    · rename_i hdescriptor
      obtain rfl := Except.ok.inj h
      simp [meant, UsbDevice.IsCamera, hdescriptor]
    rename_i descriptor hdescriptor
    split at h
    · rename_i hother
      obtain rfl := Except.ok.inj h
      obtain ⟨vendor, product⟩ := descriptor
      simp only [meant, UsbDevice.IsCamera, hdescriptor, Except.ok.injEq, DeviceDescriptor.mk.injEq]
      rw [decide_eq_false (by tauto), Bool.false_and]
    rename_i hcamera
    have hdecide : decide device.IsCamera = true := by
      obtain ⟨vendor, product⟩ := descriptor
      simp only [UsbDevice.IsCamera, hdescriptor, Except.ok.injEq, DeviceDescriptor.mk.injEq]
      exact decide_eq_true (by tauto)
    rw [meant, hdecide, Bool.true_and]
    rcases hbus : selector.bus with _ | bus
    · rw [hbus] at h
      obtain rfl := Except.ok.inj h
      rfl
    · rw [hbus] at h
      simp only at h
      split at h
      · rename_i hdifferent
        obtain rfl := Except.ok.inj h
        simp [hdifferent]
      · rw [hports] at h
        cases h
  · have hknown : device.portNumbers = .ok device.ports := by
      rw [UsbDevice.ports, hports]
      rfl
    rw [selects_eq hknown] at h
    exact (Except.ok.inj h).symm

/-- What the loop has collected are the devices that are meant. -/
theorem foldlM_collectMatch_eq_ok {devices found collected : List UsbDevice}
    (h : devices.foldlM (collectMatch selector) found = .ok collected) :
    collected = found ++ devices.filter (meant selector) := by
  induction devices generalizing found with
  | nil =>
    obtain rfl := Except.ok.inj h
    simp
  | cons device devices ih =>
    rw [List.foldlM_cons] at h
    rcases hselected : selects selector device with error | selected
    · rw [collectMatch, hselected] at h
      cases h
    · have hmeant := selects_eq_ok hselected
      have hturn : collectMatch selector found device =
          .ok (if meant selector device then found ++ [device] else found) := by
        refine (bind_of_ok hselected).trans ?_
        rw [← hmeant]
        split <;> rfl
      rw [bind_of_ok hturn] at h
      rw [ih h, List.filter_cons]
      split <;> simp

/-- A device is selected only when it is the one that is meant. -/
theorem selectDevice_eq_ok {devices : Except ℤ (List UsbDevice)}
    (h : selectDevice selector devices = .ok device) :
    ∃ list, devices = .ok list ∧ list.filter (meant selector) = [device] := by
  rcases devices with code | list
  · cases h
  refine ⟨list, rfl, ?_⟩
  rw [selectDevice, bind_of_ok (show Except.mapError _ _ = _ from rfl)] at h
  rcases hfold : list.foldlM (collectMatch selector) [] with error | collected
  · rw [hfold] at h
    cases h
  have hcollected := foldlM_collectMatch_eq_ok hfold
  rw [List.nil_append] at hcollected
  rw [bind_of_ok hfold] at h
  rw [← hcollected]
  split at h
  · cases h
  · obtain rfl := Except.ok.inj h
    rfl
  · cases h

end Selected

/-! ## The interface -/

/-- What was done with the interface of the device. -/
inductive HandleCall where
  /-- `claim_interface` -/
  | claim (answer : Except ℤ Unit)
  /-- something was exchanged with the camera -/
  | exchange (exchange : Exchange)
  /-- `allocate_and_submit` -/
  | submit (answer : Except UsbTransportError Unit)
  /-- the transfers were cancelled and reaped -/
  | reap
  /-- `release_interface` -/
  | release (answer : Except ℤ Unit)

/-- The state of the camera and the clock, and what was done so far. -/
structure Handle (σ : Type) where
  /-- the state of the camera and the clock -/
  state : σ
  /-- the calls so far -/
  calls : List HandleCall

/-- What libusb answers in one attempt to open the camera. -/
structure Host where
  /-- `Context::new` -/
  context : Except ℤ Unit
  /-- the devices of the context -/
  devices : Except ℤ (List UsbDevice)
  /-- `active_config_descriptor` of a device -/
  configuration : UsbDevice → Except ℤ (List Interface)
  /-- `Device::open` -/
  opened : Except ℤ Unit
  /-- `kernel_driver_active` -/
  kernelDriverActive : Except ℤ Bool
  /-- `claim_interface` -/
  claim : Except ℤ Unit
  /-- `allocate_and_submit` -/
  submit : Except UsbTransportError Unit
  /-- `release_interface` -/
  release : Except ℤ Unit

section Operations

variable {σ : Type} (camera : Camera σ)

/-- The device is the only camera that is meant, it streams, and no kernel
driver has its interface. -/
structure Usable (host : Host) (selector : CameraSelector) (device : UsbDevice) : Prop where
  /-- it is the only one -/
  only : ∃ list, host.devices = .ok list ∧ list.filter (meant selector) = [device]
  /-- it has the endpoints -/
  streams : ∃ interfaces, host.configuration device = .ok interfaces ∧ Streams interfaces
  /-- it was opened -/
  opened : host.opened = .ok ()
  /-- its interface is not in use -/
  driver : host.kernelDriverActive = .ok false ∨
    host.kernelDriverActive = .error errorNotSupported

/-- Note a call. -/
def noteCall (call : HandleCall) : EStateM UsbTransportError (Handle σ) Unit :=
  modify fun handle => { handle with calls := handle.calls ++ [call] }

/-- Exchange something with the camera. -/
def exchanging {α : Type} (program : EStateM TransportError (Bus σ) α) :
    EStateM UsbTransportError (Handle σ) α := fun handle =>
  match program.run ⟨handle.state, []⟩ with
  | .ok a bus => .ok a ⟨bus.state, handle.calls ++ bus.log.map .exchange⟩
  | .error error bus => .error (.ofTransport error) ⟨bus.state, handle.calls ++ bus.log.map .exchange⟩

/-- `set_alternate_setting(VIDEO_INTERFACE, 0)`, whatever comes of it. -/
def restoreAlternate : EStateM UsbTransportError (Handle σ) Unit :=
  tryCatch (exchanging (setAlternateSetting camera videoInterface 0)) fun _ => pure ()

/-- Put the interface back to its first setting, and release it. -/
def relinquish (host : Host) : EStateM UsbTransportError (Handle σ) Unit := do
  restoreAlternate camera
  noteCall (.release host.release)

/-- `stop`: what the session does with the interface. -/
def stopSession (host : Host) : EStateM UsbTransportError (Handle σ) Unit := do
  noteCall .reap
  relinquish camera host

/-- The part of `open_with_init_strategy` before the interface is claimed. -/
def findCamera (host : Host) (selector : CameraSelector) : Except UsbTransportError UsbDevice := do
  host.context.mapError .usb
  let device ← (selectDevice selector host.devices).mapError .ofSelector
  validateDescriptors (host.configuration device)
  let _portPath ← device.portNumbers.mapError .usb
  host.opened.mapError .usb
  match host.kernelDriverActive with
  | .ok true => throw .kernelDriverActive
  | .ok false => return device
  | .error code => if code = errorNotSupported then return device else throw (.usb code)

/-- `open_with_init_strategy`; a session that cannot submit its transfers is
dropped, which stops it. -/
def openWithInitStrategy (host : Host) (selector : CameraSelector) (plan : List InitOp)
    (strategy : InitStrategy) : EStateM UsbTransportError (Handle σ) UsbDevice := do
  match findCamera host selector with
  | .error error => throw error
  | .ok device =>
    noteCall (.claim host.claim)
    match host.claim with
    | .error code => throw (.usb code)
    | .ok () =>
      tryCatch (exchanging (replayInitialization camera plan strategy)) fun error => do
        relinquish camera host
        throw error
      noteCall (.submit host.submit)
      match host.submit with
      | .error error =>
        stopSession camera host
        throw error
      | .ok () => return device

/-- An attempt to open the camera; a session that it opens is stopped. -/
def openAndStop (host : Host) (selector : CameraSelector) (plan : List InitOp)
    (strategy : InitStrategy) : EStateM UsbTransportError (Handle σ) Unit := do
  let _session ← openWithInitStrategy camera host selector plan strategy
  stopSession camera host

end Operations

/-- A log of an attempt to open the camera, and what the attempt returned. -/
inductive Attempted (host : Host) (selector : CameraSelector) (plan : List InitOp)
    (strategy : InitStrategy) : List HandleCall → Except UsbTransportError Unit → Prop
  /-- no camera was found that can be used -/
  | notFound {error : UsbTransportError} (hfound : findCamera host selector = .error error) :
    Attempted host selector plan strategy [] (.error error)
  /-- the interface was not given -/
  | notClaimed {device : UsbDevice} {code : ℤ} (hfound : findCamera host selector = .ok device)
    (hclaim : host.claim = .error code) :
    Attempted host selector plan strategy [.claim (.error code)] (.error (.usb code))
  /-- the camera was not initialized -/
  | notInitialized {device : UsbDevice} {log : List Exchange} {error : UsbTransportError}
    (answer : Except ℤ Unit) (hfound : findCamera host selector = .ok device)
    (hlog : Interrupted strategy plan log) :
    Attempted host selector plan strategy
      (.claim (.ok ()) :: (log.map .exchange ++
        [.exchange (.sent (.setAlternateSetting videoInterface 0) answer), .release host.release]))
      (.error error)
  /-- the transfers were not submitted, or the session was stopped -/
  | initialized {device : UsbDevice} {log : List Exchange} (answer : Except ℤ Unit)
    (hfound : findCamera host selector = .ok device) (hlog : Replays strategy plan log []) :
    Attempted host selector plan strategy
      (.claim (.ok ()) :: (log.map .exchange ++ [.submit host.submit, .reap,
        .exchange (.sent (.setAlternateSetting videoInterface 0) answer), .release host.release]))
      host.submit

section Attempts

variable {σ : Type} (camera : Camera σ)

theorem noteCall_records (call : HandleCall) :
    Records Handle.calls (noteCall (σ := σ) call) (fun _ l => l = [call]) (fun _ _ => False) :=
  fun _ => ⟨[call], rfl, rfl⟩

/-- What is exchanged is noted. -/
theorem exchanging_records {α : Type} {program : EStateM TransportError (Bus σ) α}
    {success : α → List Exchange → Prop} {failure : TransportError → List Exchange → Prop}
    (h : Records Bus.log program success failure) :
    Records Handle.calls (exchanging program)
      (fun a l => ∃ log, success a log ∧ l = log.map .exchange)
      (fun _ l => ∃ error log, failure error log ∧ l = log.map .exchange) := by
  intro handle
  have hprogram := h ⟨handle.state, []⟩
  rw [EStateM.run, exchanging]
  rcases hrun : program.run ⟨handle.state, []⟩ with ⟨a, bus⟩ | ⟨error, bus⟩
  · rw [hrun] at hprogram
    obtain ⟨log, hlog, hsuccess⟩ := hprogram
    rw [List.nil_append] at hlog
    exact ⟨_, rfl, log, hsuccess, by rw [hlog]⟩
  · rw [hrun] at hprogram
    obtain ⟨log, hlog, hfailure⟩ := hprogram
    rw [List.nil_append] at hlog
    exact ⟨_, rfl, error, log, hfailure, by rw [hlog]⟩

theorem restoreAlternate_records :
    Records Handle.calls (restoreAlternate camera)
      (fun _ l => ∃ answer,
        l = [.exchange (.sent (.setAlternateSetting videoInterface 0) answer)])
      (fun _ _ => False) := by
  refine (exchanging_records (transfer_records camera _)).tryCatch ?_ ?_
  · rintro ⟨⟩ l ⟨log, rfl, rfl⟩
    exact ⟨.ok (), rfl⟩
  · rintro error l ⟨-, log, ⟨code, rfl⟩, rfl⟩
    exact .pure ⟨.error code, rfl⟩

/-- The interface is always put back, and then released. -/
theorem relinquish_records (host : Host) :
    Records Handle.calls (relinquish camera host)
      (fun _ l => ∃ answer,
        l = [.exchange (.sent (.setAlternateSetting videoInterface 0) answer),
          .release host.release])
      (fun _ _ => False) := by
  refine (restoreAlternate_records camera).bind (fun _ _ => id) ?_
  rintro ⟨⟩ l ⟨answer, rfl⟩
  refine (noteCall_records _).mono ?_ fun _ _ => id
  rintro ⟨⟩ l rfl
  exact ⟨answer, rfl⟩

theorem stopSession_records (host : Host) :
    Records Handle.calls (stopSession camera host)
      (fun _ l => ∃ answer,
        l = [.reap, .exchange (.sent (.setAlternateSetting videoInterface 0) answer),
          .release host.release])
      (fun _ _ => False) := by
  refine (noteCall_records _).bind (fun _ _ => id) ?_
  rintro ⟨⟩ l rfl
  refine (relinquish_records camera host).mono ?_ fun _ _ => id
  rintro ⟨⟩ l ⟨answer, rfl⟩
  exact ⟨answer, rfl⟩

variable (host : Host) (selector : CameraSelector) (plan : List InitOp) (strategy : InitStrategy)

/-- The camera is initialized, or the interface is given back. -/
theorem initialize_records {device : UsbDevice} (hfound : findCamera host selector = .ok device) :
    Records Handle.calls
      (tryCatch (exchanging (replayInitialization camera plan strategy)) fun error => do
        relinquish camera host
        throw error)
      (fun _ l => ∃ log, Replays strategy plan log [] ∧ l = log.map .exchange)
      (fun error l =>
        Attempted host selector plan strategy (.claim (.ok ()) :: l) (.error error)) := by
  refine (exchanging_records (replayInitialization_records camera plan strategy)).tryCatch
    (fun _ _ => id) ?_
  rintro error l ⟨-, log, hlog, rfl⟩
  refine (relinquish_records camera host).bind (fun _ _ hfalse => hfalse.elim) ?_
  rintro ⟨⟩ l ⟨answer, rfl⟩
  exact .throw (by simpa using Attempted.notInitialized answer hfound hlog)

/-- The calls of a session from its opening on, without those of its end. -/
def Opened (l : List HandleCall) : Prop :=
  ∃ device log, findCamera host selector = .ok device ∧ Replays strategy plan log [] ∧
    host.submit = .ok () ∧ l = .claim (.ok ()) :: (log.map .exchange ++ [.submit host.submit])

theorem openWithInitStrategy_records :
    Records Handle.calls (openWithInitStrategy camera host selector plan strategy)
      (fun _ l => Opened host selector plan strategy l)
      (fun error l => Attempted host selector plan strategy l (.error error)) := by
  rw [openWithInitStrategy]
  split
  · rename_i error hfound
    exact .throw (.notFound hfound)
  rename_i device hfound
  refine (noteCall_records _).bind (fun _ _ hfalse => hfalse.elim) ?_
  rintro ⟨⟩ l rfl
  split
  · rename_i code hclaim
    refine .throw ?_
    rw [hclaim]
    exact .notClaimed hfound hclaim
  rename_i hclaim
  rw [hclaim]
  refine (initialize_records camera host selector plan strategy hfound).bind
    (fun _ _ hattempted => hattempted) ?_
  rintro ⟨⟩ l ⟨log, hlog, rfl⟩
  refine (noteCall_records _).bind (fun _ _ hfalse => hfalse.elim) ?_
  rintro ⟨⟩ l rfl
  split
  · rename_i error hsubmit
    refine (stopSession_records camera host).bind (fun _ _ hfalse => hfalse.elim) ?_
    rintro ⟨⟩ l ⟨answer, rfl⟩
    refine .throw ?_
    rw [← hsubmit]
    simpa using Attempted.initialized answer hfound hlog
  · rename_i hsubmit
    exact .pure ⟨device, log, hfound, hlog, hsubmit, by simp⟩

/-- **One attempt**: whatever happens, what was claimed is given back. -/
theorem openAndStop_records :
    Records Handle.calls (openAndStop camera host selector plan strategy)
      (fun _ l => Attempted host selector plan strategy l (.ok ()))
      (fun error l => Attempted host selector plan strategy l (.error error)) := by
  refine (openWithInitStrategy_records camera host selector plan strategy).bind
    (fun _ _ => id) ?_
  rintro - l ⟨device, log, hfound, hlog, hsubmit, rfl⟩
  refine (stopSession_records camera host).mono ?_ fun _ _ hfalse => hfalse.elim
  rintro ⟨⟩ l ⟨answer, rfl⟩
  rw [← hsubmit]
  simpa using Attempted.initialized answer hfound hlog

end Attempts

/-- A camera that is found can be used. -/
theorem findCamera_usable {host : Host} {selector : CameraSelector} {device : UsbDevice}
    (h : findCamera host selector = .ok device) : Usable host selector device := by
  rw [findCamera] at h
  obtain ⟨⟨⟩, -, h⟩ := exists_of_bind_ok h
  obtain ⟨selected, hselect, h⟩ := exists_of_bind_ok h
  obtain ⟨⟨⟩, hvalidate, h⟩ := exists_of_bind_ok h
  obtain ⟨ports, -, h⟩ := exists_of_bind_ok h
  obtain ⟨⟨⟩, hopened, h⟩ := exists_of_bind_ok h
  have honly := selectDevice_eq_ok (Except.mapError_eq_ok.mp hselect)
  have hstreams := validateDescriptors_eq_ok.mp hvalidate
  have hopen : host.opened = .ok () := Except.mapError_eq_ok.mp hopened
  split at h
  · cases h
  · rename_i hdriver
    obtain rfl := Except.ok.inj h
    exact ⟨honly, hstreams, hopen, .inl hdriver⟩
  · rename_i code hdriver
    split at h
    · rename_i hcode
      obtain rfl := Except.ok.inj h
      exact ⟨honly, hstreams, hopen, .inr (by rw [hdriver, hcode])⟩
    · cases h

/-! ## Discipline -/

/-- How the host holds the interface. -/
inductive Hold where
  /-- it is not claimed -/
  | free
  /-- it is claimed -/
  | claimed
  /-- it is claimed, and was put back to its first setting -/
  | restored
  /-- transfers are submitted -/
  | submitted
  deriving DecidableEq

/-- The request selects no setting, or one of the interface that is claimed. -/
def Request.onVideoInterface : Request → Bool
  | .setAlternateSetting interface _ => interface == videoInterface
  | _ => true

/-- The exchange selects no setting, or one of the interface that is claimed. -/
def Exchange.onVideoInterface : Exchange → Bool
  | .slept _ => true
  | .sent request _ => request.onVideoInterface

/-- The plan selects no setting of another interface. -/
def OnVideoInterface (plan : List InitOp) : Prop :=
  ∀ operation ∈ plan, operation.toRequest.onVideoInterface = true

/-- Plans that are parsed name only the first interface, whatever the quality. -/
theorem onVideoInterface_of_parse {hexDecode : HexDecoder} {text : List Char} {plan : List InitOp}
    (h : parseInitPlan hexDecode text = .ok plan) (quality : Option ScaleFactor) :
    OnVideoInterface (configure plan quality) := by
  intro operation hoperation
  obtain ⟨entry, -, row, -, hadmits⟩ := exists_row (rows_admitted h quality) hoperation
  cases hadmits with
  | controlIn => rfl
  | controlOut => rfl
  | setInterface => rfl

/-- Neither does what is exchanged for the plan. -/
theorem Exchange.FromPlan.onVideoInterface {plan : List InitOp} (hplan : OnVideoInterface plan)
    {exchange : Exchange} (h : exchange.FromPlan plan) : exchange.onVideoInterface = true := by
  obtain hpoll | ⟨operation, hoperation, hof⟩ := h
  · cases hpoll with
    | slept => rfl
    | sent => rfl
  · cases hof with
    | slept => rfl
    | sent => exact hplan operation hoperation

/-- The exchange asks for the interface's first setting. -/
def Exchange.restores : Exchange → Bool
  | .sent (.setAlternateSetting interface alternate) _ =>
    interface == videoInterface && alternate == 0
  | _ => false

/-- How an interface is to be used; none is what must not happen. -/
def Hold.step : Hold → HandleCall → Option Hold
  | .free, .claim (.ok ()) => some .claimed
  | .free, .claim (.error _) => some .free
  | .claimed, .exchange exchange | .restored, .exchange exchange =>
    if exchange.onVideoInterface then some (if exchange.restores then .restored else .claimed)
    else none
  | .claimed, .submit _ | .restored, .submit _ => some .submitted
  | .submitted, .reap => some .claimed
  | .restored, .release _ => some .free
  | _, _ => none

/-- An exchange wants a claimed interface, and leaves it claimed. -/
theorem Hold.run_exchanges {hold : Hold} (hhold : hold = .claimed ∨ hold = .restored)
    {log : List Exchange} (hlog : ∀ exchange ∈ log, exchange.onVideoInterface = true) :
    ∃ next, Guarded.run Hold.step hold (log.map .exchange) = some next ∧
      (next = .claimed ∨ next = .restored) := by
  induction log generalizing hold with
  | nil => exact ⟨hold, rfl, hhold⟩
  | cons exchange log ih =>
    have hown := hlog exchange List.mem_cons_self
    have hstep : Hold.step hold (.exchange exchange) =
        some (if exchange.restores then .restored else .claimed) := by
      rcases hhold with rfl | rfl <;> exact if_pos hown
    have hnext : (if exchange.restores then Hold.restored else .claimed) = .claimed ∨
        (if exchange.restores then Hold.restored else .claimed) = .restored := by
      split <;> simp
    obtain ⟨next, hrun, hheld⟩ := ih hnext fun later hlater =>
      hlog later (List.mem_cons_of_mem _ hlater)
    exact ⟨next, Guarded.run_cons.mpr ⟨_, hstep, hrun⟩, hheld⟩

section Discipline

variable {host : Host} {selector : CameraSelector} {plan : List InitOp} {strategy : InitStrategy}
  {calls : List HandleCall} {result : Except UsbTransportError Unit}

/-- An attempt uses the interface as it is to be used, and leaves it free. -/
theorem Attempted.hold (h : Attempted host selector plan strategy calls result)
    (hplan : OnVideoInterface plan) :
    Guarded.run Hold.step .free calls = some .free := by
  cases h with
  | notFound => rfl
  | notClaimed => rfl
  | @notInitialized device log error answer hfound hlog =>
    obtain ⟨hold, hrun, hheld⟩ := Hold.run_exchanges (.inl rfl) fun exchange hmem =>
      (hlog.fromPlan exchange hmem).onVideoInterface hplan
    refine Guarded.run_cons.mpr ⟨.claimed, rfl, Guarded.run_append.mpr ⟨hold, hrun, ?_⟩⟩
    rcases hheld with rfl | rfl <;> rfl
  | @initialized device log answer hfound hlog =>
    obtain ⟨hold, hrun, hheld⟩ := Hold.run_exchanges (.inl rfl) fun exchange hmem =>
      (hlog.fromPlan exchange hmem).onVideoInterface hplan
    refine Guarded.run_cons.mpr ⟨.claimed, rfl, Guarded.run_append.mpr ⟨hold, hrun, ?_⟩⟩
    rcases hheld with rfl | rfl <;> rfl

/-- The exchanges among some calls. -/
def exchanges (calls : List HandleCall) : List Exchange :=
  calls.filterMap fun
    | .exchange exchange => some exchange
    | _ => none

theorem exchanges_claim (answer : Except ℤ Unit) (calls : List HandleCall) :
    exchanges (.claim answer :: calls) = exchanges calls := rfl

@[simp] theorem exchanges_append (first second : List HandleCall) :
    exchanges (first ++ second) = exchanges first ++ exchanges second := List.filterMap_append

@[simp] theorem exchanges_map (log : List Exchange) : exchanges (log.map .exchange) = log := by
  rw [exchanges, List.filterMap_map]
  exact List.filterMap_some

/-- What an attempt commands: nothing, or the first of the plan's commands and
the return to the first setting; all of the plan's commands if it succeeds. -/
theorem Attempted.commands (h : Attempted host selector plan strategy calls result) :
    (commands (exchanges calls) = [] ∧ result ≠ .ok ()) ∨
      ∃ sent, sent <+: planCommands plan ∧
        commands (exchanges calls) = sent ++ [.setAlternateSetting videoInterface 0] ∧
        (result = .ok () → sent = planCommands plan) := by
  cases h with
  | notFound => exact .inl ⟨rfl, nofun⟩
  | notClaimed => exact .inl ⟨rfl, nofun⟩
  | @notInitialized device log error answer hfound hlog =>
    refine .inr ⟨_, hlog.commands, ?_, nofun⟩
    rw [exchanges_claim, exchanges_append, exchanges_map, commands_append]
    rfl
  | @initialized device log answer hfound hlog =>
    have hplan : planCommands plan = Handycam.commands log := by simpa [planCommands] using hlog.commands
    refine .inr ⟨_, List.prefix_refl _, ?_, fun _ => rfl⟩
    rw [exchanges_claim, exchanges_append, exchanges_map, commands_append, hplan]
    rfl

end Discipline

/-! ## Series of attempts -/

/-- An attempt to open the camera. -/
structure Attempt where
  /-- what libusb answers -/
  host : Host
  /-- the camera that is meant -/
  selector : CameraSelector
  /-- the initialization plan -/
  plan : List InitOp
  /-- the strategy -/
  strategy : InitStrategy

section Series

variable {σ : Type} (camera : Camera σ)

/-- An attempt, and what it returned. -/
def Attempt.perform (attempt : Attempt) (handle : Handle σ) :
    Except UsbTransportError Unit × Handle σ :=
  outcome ((openAndStop camera attempt.host attempt.selector attempt.plan attempt.strategy).run
    handle)

/-- Attempts one after another, and what they returned. -/
def performAll : List Attempt → Handle σ → List (Except UsbTransportError Unit) × Handle σ
  | [], handle => ([], handle)
  | attempt :: attempts, handle =>
    let (result, handle) := attempt.perform camera handle
    let (results, handle) := performAll attempts handle
    (result :: results, handle)

theorem Attempt.perform_attempted (attempt : Attempt) (handle : Handle σ) :
    ∃ calls, (attempt.perform camera handle).2.calls = handle.calls ++ calls ∧
      Attempted attempt.host attempt.selector attempt.plan attempt.strategy calls
        (attempt.perform camera handle).1 := by
  have hrecords := openAndStop_records camera attempt.host attempt.selector attempt.plan
    attempt.strategy handle
  rw [Attempt.perform]
  rcases hrun : (openAndStop camera attempt.host attempt.selector attempt.plan
    attempt.strategy).run handle with ⟨⟨⟩, next⟩ | ⟨error, next⟩
  · rw [hrun] at hrecords
    exact hrecords
  · rw [hrun] at hrecords
    exact hrecords

/-- What one attempt of a series did, and what it returned. -/
structure Episode where
  /-- the calls -/
  calls : List HandleCall
  /-- the result -/
  result : Except UsbTransportError Unit

/-- An episode keeps to its attempt: it claims the interface only of a camera
that can be used, leaves it as it was, and commands the first of the plan's
commands, or all of them if it succeeds. -/
structure Episode.Keeps (episode : Episode) (attempt : Attempt) : Prop where
  /-- the calls are those of an attempt -/
  attempted : Attempted attempt.host attempt.selector attempt.plan attempt.strategy episode.calls
    episode.result
  /-- the interface claimed is that of a camera that can be used -/
  usable : episode.calls ≠ [] → ∃ device, Usable attempt.host attempt.selector device
  /-- what was commanded -/
  commands : (Handycam.commands (exchanges episode.calls) = [] ∧ episode.result ≠ .ok ()) ∨
    ∃ sent, sent <+: planCommands attempt.plan ∧
      Handycam.commands (exchanges episode.calls) =
        sent ++ [.setAlternateSetting videoInterface 0] ∧
      (episode.result = .ok () → sent = planCommands attempt.plan)

theorem Attempted.keeps {attempt : Attempt} {calls : List HandleCall}
    {result : Except UsbTransportError Unit}
    (h : Attempted attempt.host attempt.selector attempt.plan attempt.strategy calls result) :
    (Episode.mk calls result).Keeps attempt where
  attempted := h
  usable hcalls := by
    cases h with
    | notFound => exact absurd rfl hcalls
    | notClaimed hfound => exact ⟨_, findCamera_usable hfound⟩
    | notInitialized answer hfound => exact ⟨_, findCamera_usable hfound⟩
    | initialized answer hfound => exact ⟨_, findCamera_usable hfound⟩
  commands := h.commands

/-- **Discipline.** Over any series of attempts to open the camera, each stopped
if it succeeds, and whatever libusb and the camera answer: an attempt claims the
interface only of a camera that can be used, and commands no more than the first
commands of its plan. If no plan names another interface, the interface is
claimed before anything is sent, it is the only one of which a setting is
selected, it is put back to its first setting and released before it is claimed
again, and it is free in the end; transfers are submitted only while it is
claimed, and reaped. -/
theorem performAll_discipline (attempts : List Attempt) (state : σ) :
    ∃ episodes : List Episode,
      List.Forall₂ Episode.Keeps episodes attempts ∧
        (performAll camera attempts ⟨state, []⟩).1 = episodes.map Episode.result ∧
        (performAll camera attempts ⟨state, []⟩).2.calls = episodes.flatMap Episode.calls ∧
        ((∀ attempt ∈ attempts, OnVideoInterface attempt.plan) →
          Guarded.run Hold.step .free (performAll camera attempts ⟨state, []⟩).2.calls =
            some .free) := by
  suffices hseries : ∀ handle : Handle σ, ∃ episodes : List Episode,
      List.Forall₂ Episode.Keeps episodes attempts ∧
        (performAll camera attempts handle).1 = episodes.map Episode.result ∧
        (performAll camera attempts handle).2.calls =
          handle.calls ++ episodes.flatMap Episode.calls ∧
        ((∀ attempt ∈ attempts, OnVideoInterface attempt.plan) →
          Guarded.run Hold.step .free (episodes.flatMap Episode.calls) = some .free) by
    obtain ⟨episodes, hkeeps, hresults, hcalls, hhold⟩ := hseries ⟨state, []⟩
    rw [List.nil_append] at hcalls
    refine ⟨episodes, hkeeps, hresults, hcalls, fun hplans => ?_⟩
    rw [hcalls, hhold hplans]
  induction attempts with
  | nil => exact fun handle => ⟨[], .nil, rfl, (List.append_nil _).symm, fun _ => rfl⟩
  | cons attempt attempts ih =>
    intro handle
    obtain ⟨calls, hcalls, hattempted⟩ := attempt.perform_attempted camera handle
    obtain ⟨episodes, hkeeps, hresults, hrest, hhold⟩ := ih (attempt.perform camera handle).2
    refine ⟨⟨calls, (attempt.perform camera handle).1⟩ :: episodes, .cons hattempted.keeps hkeeps,
      ?_, ?_, ?_⟩
    · rw [performAll, List.map_cons, ← hresults]
    · rw [performAll, List.flatMap_cons, ← List.append_assoc, ← hcalls, ← hrest]
    · intro hplans
      rw [List.flatMap_cons]
      exact Guarded.run_append.mpr ⟨.free, hattempted.hold (hplans attempt List.mem_cons_self),
        hhold fun later hlater => hplans later (List.mem_cons_of_mem _ hlater)⟩

end Series

/-- A host with a camera that is not in use. -/
def openingHost : Host where
  context := .ok ()
  devices := .ok [⟨.ok ⟨vendorId, productId⟩, 1, .ok [2]⟩]
  configuration _ := .ok [⟨videoInterface, [⟨videoAlt,
    [⟨epBoundary, .isochronous, 8⟩, ⟨epVideo, .isochronous, 768⟩]⟩]⟩]
  opened := .ok ()
  kernelDriverActive := .ok false
  claim := .ok ()
  submit := .ok ()
  release := .ok ()

/-- An attempt that is refused the interface, and one that succeeds. -/
def sampleAttempts : List Attempt :=
  [⟨{ openingHost with claim := .error (-6) }, ⟨none, []⟩, scanPlan, .conditionPolling⟩,
    ⟨openingHost, ⟨none, []⟩, scanPlan, .conditionPolling⟩]

theorem performAll_discipline_sampleAttempts :
    (performAll steadyCamera sampleAttempts ⟨0, []⟩).1 = [.error (.usb (-6)), .ok ()] ∧
      Guarded.run Hold.step .free (performAll steadyCamera sampleAttempts ⟨0, []⟩).2.calls =
        some .free := by
  obtain ⟨episodes, -, -, -, hhold⟩ := performAll_discipline steadyCamera sampleAttempts 0
  have hplan : ∀ operation ∈ scanPlan, operation.toRequest.onVideoInterface = true := by decide
  refine ⟨by decide +kernel, hhold fun attempt hattempt => ?_⟩
  have heq : attempt.plan = scanPlan := by
    rcases List.mem_pair.mp hattempt with rfl | rfl <;> rfl
  rw [heq]
  exact hplan

end Handycam
