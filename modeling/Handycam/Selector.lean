import Mathlib
import Handycam.Extractor

/-!
# Selecting a camera

A camera is named by the path of its USB port, `BUS-PORT[.PORT...]`. When more
than one camera is attached, the error lists the paths, and the user is to pass
one of them back.

* **the selector** — how a path is printed and parsed;
* **the devices** — how `select_device` goes through them;
* **the round trip** — a path that is printed is parsed again, and selects the
  device it was printed for.
-/

namespace Handycam

/-! ## The selector -/

/-- `UsbTransportError`, as far as selecting a camera fails with it. -/
inductive SelectorError where
  /-- "invalid USB path {0:?}; expected BUS-PORT[.PORT...]" -/
  | invalidUsbPath (value : List Char)
  /-- "Sony camera 054c:00c0 is not connected" -/
  | noCamera
  /-- "multiple Sony cameras match; select one with --usb-path: {0}" -/
  | ambiguousCamera (paths : List Char)
  /-- an error of libusb -/
  | usb (code : ℤ)
  deriving DecidableEq

/-- Which camera is meant: any, or the one at a port. -/
structure CameraSelector where
  /-- the bus, unless any camera is meant -/
  bus : Option UInt8
  /-- the ports from the root hub on -/
  ports : List UInt8
  deriving DecidableEq

/-- `{n}` and `{n:03}` of a byte. -/
def formatByte (width : ℕ) (n : UInt8) : List Char := numeral 10 width n.toNat

/-- `str::parse::<u8>`. -/
def parseByte (text : List Char) : Option UInt8 :=
  (fromStrRadix text 10).bind fun n => if n ≤ 0xff then some n.toUInt8 else none

/-- `str::split_once`: what comes before the first separator, and what after. -/
def splitOnce (separator : Char) : List Char → Option (List Char × List Char)
  | [] => none
  | c :: text =>
    if c = separator then some ([], text)
    else (splitOnce separator text).map fun (before, after) => (c :: before, after)

namespace CameraSelector

/-- The ports, with a dot before all but the first. -/
def displayPorts (ports : List UInt8) : List Char :=
  ports.zipIdx.flatMap fun (port, index) =>
    (if index ≠ 0 then ['.'] else []) ++ formatByte 1 port

/-- `Display` of a selector. -/
def display (selector : CameraSelector) : List Char :=
  match selector.bus with
  | none => "any 054c:00c0 camera".toList
  | some bus => formatByte 3 bus ++ ['-'] ++ displayPorts selector.ports

/-- `FromStr` of a selector. -/
def fromStr (value : List Char) : Except SelectorError CameraSelector := do
  let invalid : SelectorError := .invalidUsbPath value
  let (bus, ports) ← (splitOnce '-' value).elim (.error invalid) .ok
  let bus ← (parseByte bus).elim (.error invalid) .ok
  let ports ← (ports.splitOn '.').mapM fun part => (parseByte part).elim (.error invalid) .ok
  if bus = 0 ∨ ports = [] ∨ 0 ∈ ports then
    throw invalid
  return { bus := some bus, ports := ports }

/-- The selectors of a port. -/
def IsPort (selector : CameraSelector) : Prop :=
  ∃ bus, selector.bus = some bus ∧ bus ≠ 0 ∧ selector.ports ≠ [] ∧ 0 ∉ selector.ports

end CameraSelector

/-! ## The devices -/

/-- USB vendor of the camera. -/
def vendorId : UInt16 := 0x054c

/-- USB product of the camera. -/
def productId : UInt16 := 0x00c0

/-- `DeviceDescriptor`, the fields in use. -/
structure DeviceDescriptor where
  /-- the vendor -/
  vendorId : UInt16
  /-- the product -/
  productId : UInt16
  deriving DecidableEq

/-- An attached device: what libusb answers about it. -/
structure UsbDevice where
  /-- `device_descriptor` -/
  descriptor : Except ℤ DeviceDescriptor
  /-- `bus_number` -/
  busNumber : UInt8
  /-- `port_numbers` -/
  portNumbers : Except ℤ (List UInt8)
  deriving DecidableEq

namespace UsbDevice

/-- The descriptor is that of the camera; a device without one is passed over. -/
def IsCamera (device : UsbDevice) : Prop :=
  device.descriptor = .ok ⟨Handycam.vendorId, Handycam.productId⟩

instance (device : UsbDevice) : Decidable device.IsCamera := inferInstanceAs (Decidable (_ = _))

/-- `port_numbers().unwrap_or_default()`. -/
def ports (device : UsbDevice) : List UInt8 := device.portNumbers.toOption.getD []

/-- The path of a device, as an error lists it. -/
def path (device : UsbDevice) : List Char :=
  formatByte 3 device.busNumber ++ ['-'] ++ List.intercalate ['.'] (device.ports.map (formatByte 1))

end UsbDevice

section Select

variable (selector : CameraSelector)

/-- Whether a device is one that is meant; the ports are only asked for on the
bus of the selector. -/
def selects (device : UsbDevice) : Except SelectorError Bool := do
  match device.descriptor with
  | .error _ => return false
  | .ok descriptor =>
    if descriptor.vendorId ≠ vendorId ∨ descriptor.productId ≠ productId then
      return false
    match selector.bus with
    | none => return true
    | some bus =>
      if device.busNumber ≠ bus then
        return false
      let ports ← device.portNumbers.mapError .usb
      return ports = selector.ports

/-- The turn of the loop for a device. -/
def collectMatch (found : List UsbDevice) (device : UsbDevice) :
    Except SelectorError (List UsbDevice) := do
  if ← selects selector device then return found ++ [device] else return found

/-- `select_device`, for the devices of a context. -/
def selectDevice (devices : Except ℤ (List UsbDevice)) : Except SelectorError UsbDevice := do
  let devices ← devices.mapError .usb
  match ← devices.foldlM (collectMatch selector) [] with
  | [] => throw .noCamera
  | [device] => return device
  | found => throw (.ambiguousCamera (List.intercalate [',', ' '] (found.map UsbDevice.path)))

end Select

/-! ## Bytes as texts -/

/-- `parse::<u8>` reads the numerals of bytes, and nothing else. -/
theorem parseByte_eq_some_iff (text : List Char) (n : UInt8) :
    parseByte text = some n ↔ IsNumeral 10 text n.toNat := by
  have hread := fromStrRadix_eq_some_iff (by decide : 0 < 10) text
  rw [parseByte, Option.bind_eq_some_iff]
  constructor
  · rintro ⟨wide, hwide, hn⟩
    split_ifs at hn with hbound
    obtain rfl := Option.some.inj hn
    rw [toNat_toUInt8 hbound]
    exact (hread wide).mp hwide
  · intro hnumeral
    have hsame : n.toUInt64.toNat = n.toNat := UInt8.toNat_toUInt64 n
    have hlt := n.toNat_lt
    refine ⟨n.toUInt64, (hread _).mpr (by rwa [hsame]), ?_⟩
    rw [if_pos (UInt64.le_iff_toNat_le.mpr (by rw [hsame]; exact Nat.le_of_lt_succ hlt)),
      UInt8.toUInt8_toUInt64]

/-- A byte that is printed is parsed again. -/
theorem parseByte_formatByte {width : ℕ} (hwidth : 0 < width) (n : UInt8) :
    parseByte (formatByte width n) = some n := by
  have hlt : n.toNat < 2 ^ 64 := n.toNat_lt.trans (by decide)
  exact (parseByte_eq_some_iff _ n).mpr (isNumeral_numeral (by decide) (by decide) hwidth hlt)

/-- A printed byte has digits only. -/
theorem mem_formatByte {width : ℕ} {n : UInt8} {c : Char} (h : c ∈ formatByte width n) :
    c ≠ '-' ∧ c ≠ '.' ∧ c ≠ ',' ∧ c ≠ ' ' := by
  rw [formatByte, numeral_eq_map] at h
  obtain ⟨d, hd, rfl⟩ := List.mem_map.mp h
  have hdigit : d < 10 := by
    rcases List.mem_append.mp hd with hd | hd
    · rw [List.eq_of_mem_replicate hd]
      decide
    · exact Nat.digits_lt_base (by decide) (List.mem_reverse.mp hd)
  have hchars : ∀ d < 10, Nat.digitChar d ≠ '-' ∧ Nat.digitChar d ≠ '.' ∧ Nat.digitChar d ≠ ',' ∧
      Nat.digitChar d ≠ ' ' := by decide
  exact hchars d hdigit

/-! ## Paths as texts -/

/-- A text is split at the first separator. -/
theorem splitOnce_append {separator : Char} {before : List Char} (h : separator ∉ before)
    (after : List Char) : splitOnce separator (before ++ separator :: after) = some (before, after) := by
  induction before with
  | nil => rw [List.nil_append, splitOnce, if_pos rfl]
  | cons c before ih =>
    rw [List.mem_cons, not_or] at h
    rw [List.cons_append, splitOnce, if_neg (Ne.symm h.1), ih h.2]
    rfl

/-- All parts but the first come after a separator. -/
theorem intercalate_cons (separator first : List Char) (rest : List (List Char)) :
    List.intercalate separator (first :: rest) = first ++ rest.flatMap (separator ++ ·) := by
  induction rest generalizing first with
  | nil => simp
  | cons next rest ih => rw [List.intercalate_cons_cons, ih, List.flatMap_cons, List.append_assoc,
      List.append_assoc]

/-- The two ways to print ports agree. -/
theorem displayPorts_eq (ports : List UInt8) :
    CameraSelector.displayPorts ports = List.intercalate ['.'] (ports.map (formatByte 1)) := by
  have hlater : ∀ (ports : List UInt8) (start : ℕ), (ports.zipIdx (start + 1)).flatMap
      (fun (port, index) => (if index ≠ 0 then ['.'] else []) ++ formatByte 1 port) =
        (ports.map (formatByte 1)).flatMap (['.'] ++ ·) := by
    intro ports
    induction ports with
    | nil => intro start; rfl
    | cons port ports ih =>
      intro start
      rw [List.zipIdx_cons, List.flatMap_cons, ih, List.map_cons, List.flatMap_cons]
      simp
  cases ports with
  | nil => rfl
  | cons port ports =>
    rw [CameraSelector.displayPorts, List.zipIdx_cons, List.flatMap_cons, hlater, List.map_cons,
      intercalate_cons]
    rfl

/-- Ports are parsed as they were printed. -/
theorem mapM_parse_ports {ε : Type} (invalid : ε) {ports : List UInt8} (hports : ports ≠ []) :
    ((List.intercalate ['.'] (ports.map (formatByte 1))).splitOn '.').mapM
      (fun part => (parseByte part).elim (.error invalid) Except.ok) = .ok ports := by
  have hsplit : (List.intercalate ['.'] (ports.map (formatByte 1))).splitOn '.' =
      ports.map (formatByte 1) := by
    refine List.splitOn_intercalate '.' ?_ (by simpa using hports)
    intro part hpart hmem
    obtain ⟨port, -, rfl⟩ := List.mem_map.mp hpart
    exact (mem_formatByte hmem).2.1 rfl
  rw [hsplit]
  clear hsplit hports
  induction ports with
  | nil => rfl
  | cons port ports ih =>
    rw [List.map_cons, List.mapM_cons, parseByte_formatByte (by decide), ih]
    rfl

theorem bind_of_ok {ε α β : Type} {program : Except ε α} {next : α → Except ε β} {a : α}
    (h : program = .ok a) : program >>= next = next a := by
  rw [h]
  rfl

namespace CameraSelector

/-- What `FromStr` accepts are the selectors of ports. -/
theorem isPort_of_fromStr {value : List Char} {selector : CameraSelector}
    (h : fromStr value = .ok selector) : selector.IsPort := by
  obtain ⟨⟨busText, portsText⟩, -, h⟩ := exists_of_bind_ok h
  obtain ⟨bus, -, h⟩ := exists_of_bind_ok h
  obtain ⟨ports, -, h⟩ := exists_of_bind_ok h
  by_cases hinvalid : bus = 0 ∨ ports = [] ∨ 0 ∈ ports
  · rw [if_pos hinvalid] at h
    cases h
  · rw [if_neg hinvalid] at h
    obtain rfl := Except.ok.inj h
    rw [not_or, not_or] at hinvalid
    exact ⟨bus, rfl, hinvalid⟩

theorem fromStr_eq_ok {value busText portsText : List Char} {bus : UInt8} {ports : List UInt8}
    (hsplit : splitOnce '-' value = some (busText, portsText)) (hbus : parseByte busText = some bus)
    (hports : (portsText.splitOn '.').mapM (fun part =>
      (parseByte part).elim (Except.error (SelectorError.invalidUsbPath value)) Except.ok) =
        .ok ports)
    (hvalid : ¬ (bus = 0 ∨ ports = [] ∨ 0 ∈ ports)) :
    fromStr value = .ok ⟨some bus, ports⟩ := by
  refine (bind_of_ok (congrArg (Option.elim · _ _) hsplit)).trans ?_
  refine (bind_of_ok (congrArg (Option.elim · _ _) hbus)).trans ?_
  refine (bind_of_ok hports).trans ?_
  exact if_neg hvalid

/-- The text of a port is parsed as its bus and its ports. -/
theorem fromStr_path {bus : UInt8} {ports : List UInt8} (hbus : bus ≠ 0) (hports : ports ≠ [])
    (hzero : 0 ∉ ports) :
    fromStr (formatByte 3 bus ++ ['-'] ++ List.intercalate ['.'] (ports.map (formatByte 1))) =
      .ok ⟨some bus, ports⟩ := by
  have hdash : '-' ∉ formatByte 3 bus := fun hmem => (mem_formatByte hmem).1 rfl
  refine fromStr_eq_ok ?_ (parseByte_formatByte (by decide : 0 < 3) bus) (mapM_parse_ports _ hports) ?_
  · rw [List.append_assoc]
    exact splitOnce_append hdash _
  · rw [not_or, not_or]
    exact ⟨hbus, hports, hzero⟩

/-- A selector that is printed is parsed again. -/
theorem fromStr_display {selector : CameraSelector} (h : selector.IsPort) :
    fromStr selector.display = .ok selector := by
  obtain ⟨_, ports⟩ := selector
  obtain ⟨bus, rfl, hbus, hports, hzero⟩ := h
  change fromStr (formatByte 3 bus ++ ['-'] ++ displayPorts ports) = _
  rw [displayPorts_eq]
  exact fromStr_path hbus hports hzero

end CameraSelector

/-! ## The loop over the devices -/

/-- A device that is meant by a selector. -/
def meant (selector : CameraSelector) (device : UsbDevice) : Bool :=
  decide device.IsCamera &&
    selector.bus.all fun bus => decide (device.busNumber = bus ∧ device.ports = selector.ports)

section Loop

variable {selector : CameraSelector} {devices : List UsbDevice}

/-- A device whose ports are known is meant or is not. -/
theorem selects_eq {device : UsbDevice} (hports : device.portNumbers = .ok device.ports) :
    selects selector device = .ok (meant selector device) := by
  rw [selects]
  split
  · next code hdescriptor =>
    have hother : ¬ device.IsCamera := by
      rw [UsbDevice.IsCamera, hdescriptor]
      exact nofun
    rw [meant, decide_eq_false hother]
    rfl
  · next descriptor hdescriptor =>
    have hcamera : device.IsCamera ↔
        ¬ (descriptor.vendorId ≠ vendorId ∨ descriptor.productId ≠ productId) := by
      obtain ⟨vendor, product⟩ := descriptor
      rw [UsbDevice.IsCamera, hdescriptor, Except.ok.injEq, DeviceDescriptor.mk.injEq]
      tauto
    by_cases hother : descriptor.vendorId ≠ vendorId ∨ descriptor.productId ≠ productId
    · rw [if_pos hother, meant, decide_eq_false (by rw [hcamera]; exact not_not.mpr hother)]
      rfl
    · rw [if_neg hother, meant, decide_eq_true (hcamera.mpr hother), Bool.true_and]
      cases selector.bus with
      | none => rfl
      | some bus =>
        rw [hports, Option.all_some]
        dsimp only
        by_cases hbus : device.busNumber = bus
        · rw [if_neg (not_not.mpr hbus)]
          simp only [hbus, true_and]
          rfl
        · rw [if_pos hbus]
          simp only [hbus, false_and, decide_false]
          rfl

/-- The loop collects the devices that are meant, in order. -/
theorem foldlM_collectMatch (hports : ∀ device ∈ devices, device.portNumbers = .ok device.ports)
    (found : List UsbDevice) :
    devices.foldlM (collectMatch selector) found = .ok (found ++ devices.filter (meant selector)) := by
  induction devices generalizing found with
  | nil => rw [List.filter_nil, List.append_nil]; rfl
  | cons device devices ih =>
    obtain ⟨hdevice, hdevices⟩ := List.forall_mem_cons.mp hports
    have hturn : collectMatch selector found device =
        .ok (if meant selector device then found ++ [device] else found) := by
      refine (bind_of_ok (selects_eq hdevice)).trans ?_
      split <;> rfl
    rw [List.foldlM_cons]
    refine (bind_of_ok hturn).trans ?_
    rw [ih hdevices, List.filter_cons]
    split_ifs <;> simp

/-- One device is selected, or none, or an error lists them. -/
theorem selectDevice_eq (hports : ∀ device ∈ devices, device.portNumbers = .ok device.ports) :
    selectDevice selector (.ok devices) =
      match devices.filter (meant selector) with
      | [] => .error .noCamera
      | [device] => .ok device
      | found => .error (.ambiguousCamera
          (List.intercalate [',', ' '] (found.map UsbDevice.path))) := by
  refine (bind_of_ok rfl).trans ?_
  refine (bind_of_ok (foldlM_collectMatch hports [])).trans ?_
  rw [List.nil_append]
  split <;> rfl

end Loop

/-! ## The paths of an error -/

/-- The paths of a list with commas. -/
def separated (paths : List Char) : List (List Char) :=
  (paths.splitOn ',').map (·.dropWhile (· = ' '))

/-- Attached devices, each of which libusb knows the ports of. -/
structure Attached (devices : List UsbDevice) : Prop where
  /-- the ports are known, and none is zero -/
  numbered : ∀ device ∈ devices,
    ∃ ports, device.portNumbers = .ok ports ∧ ports ≠ [] ∧ 0 ∉ ports
  /-- no two devices are at one port -/
  distinct : (devices.map fun device => (device.busNumber, device.ports)).Nodup

theorem mem_path {device : UsbDevice} {c : Char} (h : c ∈ device.path) : c ≠ ',' ∧ c ≠ ' ' := by
  rw [UsbDevice.path, List.mem_append, List.mem_append] at h
  rcases h with (h | h) | h
  · exact (mem_formatByte h).2.2
  · obtain rfl := List.mem_singleton.mp h
    decide
  · rcases mem_intercalate h with h | ⟨part, hpart, h⟩
    · obtain rfl := List.mem_singleton.mp h
      decide
    · obtain ⟨port, -, rfl⟩ := List.mem_map.mp hpart
      exact (mem_formatByte h).2.2

/-- A space before a path is dropped. -/
theorem separated_space (paths : List Char) : separated (' ' :: paths) = separated paths := by
  rw [separated, List.splitOn_cons_eq_if_modifyHead, if_neg (by decide), separated]
  cases paths.splitOn ',' with
  | nil => rfl
  | cons path rest => simp

theorem dropWhile_path (device : UsbDevice) : device.path.dropWhile (· = ' ') = device.path := by
  cases hpath : device.path with
  | nil => rfl
  | cons c rest =>
    have hc : c ≠ ' ' := (mem_path (hpath ▸ List.mem_cons_self : c ∈ device.path)).2
    exact List.dropWhile_cons_of_neg (by simpa using hc)

/-- The paths are separated as they were listed. -/
theorem separated_paths {found : List UsbDevice} (hfound : found ≠ []) :
    separated (List.intercalate [',', ' '] (found.map UsbDevice.path)) =
      found.map UsbDevice.path := by
  induction found with
  | nil => exact absurd rfl hfound
  | cons device found ih =>
    have hcomma : ',' ∉ device.path := fun hmem => (mem_path hmem).1 rfl
    cases found with
    | nil =>
      rw [List.map_singleton, List.intercalate_singleton, separated,
        List.splitOn_eq_singleton hcomma, List.map_singleton, dropWhile_path]
    | cons next found =>
      have hrest := ih (List.cons_ne_nil _ _)
      rw [← separated_space] at hrest
      rw [List.map_cons, List.map_cons, List.intercalate_cons_cons, List.append_assoc, separated,
        List.cons_append, List.splitOn_append_cons_self_of_not_mem hcomma, List.map_cons,
        dropWhile_path]
      exact congrArg (device.path :: ·) hrest

section Found

variable {devices : List UsbDevice} {device : UsbDevice}

theorem Attached.portNumbers (h : Attached devices) (hmem : device ∈ devices) :
    device.portNumbers = .ok device.ports ∧ device.ports ≠ [] ∧ 0 ∉ device.ports := by
  obtain ⟨ports, hports, hvalid⟩ := h.numbered device hmem
  have hsame : device.ports = ports := by
    rw [UsbDevice.ports, hports]
    rfl
  rw [hsame]
  exact ⟨hports, hvalid⟩

/-- The camera at a port is the only device that its own selector means. -/
theorem Attached.filter_meant (h : Attached devices) (hmem : device ∈ devices)
    (hcamera : device.IsCamera) :
    devices.filter (meant ⟨some device.busNumber, device.ports⟩) = [device] := by
  have hown : device ∈ devices.filter (meant ⟨some device.busNumber, device.ports⟩) :=
    List.mem_filter.mpr ⟨hmem, by simp [meant, hcamera]⟩
  -- what is meant is all at one port, so that there is no more than one of it
  have hsame : ∀ other ∈ devices.filter (meant ⟨some device.busNumber, device.ports⟩),
      (other.busNumber, other.ports) = (device.busNumber, device.ports) := by
    intro other hother
    have hmeant := (List.mem_filter.mp hother).2
    simp only [meant, Option.all_some, Bool.and_eq_true, decide_eq_true_eq] at hmeant
    rw [hmeant.2.1, hmeant.2.2]
  have hsublist : (devices.filter (meant ⟨some device.busNumber, device.ports⟩)).Sublist devices :=
    List.filter_sublist
  have hdistinct := (hsublist.map fun device => (device.busNumber, device.ports)).nodup h.distinct
  rw [List.map_congr_left hsame, List.map_const', List.nodup_replicate] at hdistinct
  generalize devices.filter (meant ⟨some device.busNumber, device.ports⟩) = found at hown hdistinct ⊢
  obtain ⟨other, rfl⟩ := List.length_eq_one_iff.mp
    (hdistinct.antisymm (List.length_pos_of_mem hown))
  rw [List.mem_singleton.mp hown]

end Found

/-- **A path that is printed selects the device it was printed for.** Selectors
of ports are what is parsed, and each is parsed again after it was printed. When
devices at different ports match, the error lists one path for each of them; a
path whose bus is not zero is parsed, and selects that device from the same
devices. -/
theorem selector_paths :
    (∀ selector : CameraSelector, selector.IsPort →
      CameraSelector.fromStr selector.display = .ok selector) ∧
    (∀ value selector, CameraSelector.fromStr value = .ok selector → selector.IsPort) ∧
    ∀ devices selector paths, Attached devices →
      selectDevice selector (.ok devices) = .error (.ambiguousCamera paths) →
      ∃ found, found.Sublist devices ∧ List.Forall₂
        (fun path device => path = device.path ∧
          (device.busNumber ≠ 0 → ∃ own, CameraSelector.fromStr path = .ok own ∧
            selectDevice own (.ok devices) = .ok device)) (separated paths) found := by
  refine ⟨fun selector => CameraSelector.fromStr_display,
    fun value selector => CameraSelector.isPort_of_fromStr, ?_⟩
  intro devices selector paths hattached hambiguous
  have hports : ∀ device ∈ devices, device.portNumbers = .ok device.ports := fun device hdevice =>
    (hattached.portNumbers hdevice).1
  rw [selectDevice_eq hports] at hambiguous
  have hcameras : ∀ device ∈ devices.filter (meant selector), device ∈ devices ∧ device.IsCamera := by
    intro device hdevice
    obtain ⟨hmem, hmeant⟩ := List.mem_filter.mp hdevice
    exact ⟨hmem, of_decide_eq_true (Bool.and_eq_true_iff.mp hmeant).1⟩
  refine ⟨devices.filter (meant selector), List.filter_sublist, ?_⟩
  generalize devices.filter (meant selector) = found at hambiguous hcameras ⊢
  have hpaths : paths = List.intercalate [',', ' '] (found.map UsbDevice.path) ∧ found ≠ [] := by
    match found, hambiguous with
    | _ :: _ :: _, hambiguous =>
      exact ⟨(SelectorError.ambiguousCamera.inj (Except.error.inj hambiguous)).symm,
        List.cons_ne_nil _ _⟩
  rw [hpaths.1, separated_paths hpaths.2, List.forall₂_map_left_iff, List.forall₂_same]
  intro device hdevice
  obtain ⟨hmem, hcamera⟩ := hcameras device hdevice
  obtain ⟨-, hnonempty, hnonzero⟩ := hattached.portNumbers hmem
  refine ⟨rfl, fun hbus => ⟨_, CameraSelector.fromStr_path hbus hnonempty hnonzero, ?_⟩⟩
  rw [selectDevice_eq hports, hattached.filter_meant hmem hcamera]

/-- A camera at a port. -/
def cameraAt (bus : UInt8) (ports : List UInt8) : UsbDevice :=
  ⟨.ok ⟨vendorId, productId⟩, bus, .ok ports⟩

/-- Two cameras on different buses. -/
theorem selector_paths_buses :
    CameraSelector.fromStr (CameraSelector.display ⟨some 1, [2, 3]⟩) = .ok ⟨some 1, [2, 3]⟩ ∧
      (⟨some 12, [1]⟩ : CameraSelector).IsPort ∧
      selectDevice ⟨none, []⟩ (.ok [cameraAt 1 [2, 3], cameraAt 12 [1]]) =
        .error (.ambiguousCamera "001-2.3, 012-1".toList) ∧
      ∃ found, found.Sublist [cameraAt 1 [2, 3], cameraAt 12 [1]] ∧ List.Forall₂
        (fun path device => path = device.path ∧
          (device.busNumber ≠ 0 → ∃ own, CameraSelector.fromStr path = .ok own ∧
            selectDevice own (.ok [cameraAt 1 [2, 3], cameraAt 12 [1]]) = .ok device))
        (separated "001-2.3, 012-1".toList) found := by
  have hattached : Attached [cameraAt 1 [2, 3], cameraAt 12 [1]] := by
    refine ⟨?_, by decide⟩
    intro device hdevice
    simp only [List.mem_cons, List.not_mem_nil, or_false] at hdevice
    rcases hdevice with rfl | rfl
    · exact ⟨_, rfl, by decide⟩
    · exact ⟨_, rfl, by decide⟩
  have hambiguous : selectDevice ⟨none, []⟩ (.ok [cameraAt 1 [2, 3], cameraAt 12 [1]]) =
      .error (.ambiguousCamera "001-2.3, 012-1".toList) := by
    decide +kernel
  have hparsed : CameraSelector.fromStr "012-1".toList = .ok ⟨some 12, [1]⟩ := by decide +kernel
  refine ⟨selector_paths.1 _ ⟨1, rfl, by decide⟩, selector_paths.2.1 _ _ hparsed, hambiguous, ?_⟩
  exact selector_paths.2.2 _ _ _ hattached hambiguous

/-- Two cameras, one of them on a bus zero: its path is listed, and not parsed. -/
theorem selector_paths_zero :
    Attached [cameraAt 0 [1], cameraAt 1 [1]] ∧
      selectDevice ⟨none, []⟩ (.ok [cameraAt 0 [1], cameraAt 1 [1]]) =
        .error (.ambiguousCamera "000-1, 001-1".toList) ∧
      separated "000-1, 001-1".toList = ["000-1".toList, "001-1".toList] ∧
      CameraSelector.fromStr "000-1".toList = .error (.invalidUsbPath "000-1".toList) := by
  refine ⟨⟨?_, by decide⟩, by decide +kernel, by decide +kernel, by decide +kernel⟩
  intro device hdevice
  simp only [List.mem_cons, List.not_mem_nil, or_false] at hdevice
  rcases hdevice with rfl | rfl
  · exact ⟨_, rfl, by decide⟩
  · exact ⟨_, rfl, by decide⟩

end Handycam
