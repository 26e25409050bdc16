import Mathlib.Algebra.Group.Int.Defs
import Mathlib.Algebra.Group.Nat.Defs
import Mathlib.Data.List.Forall2
import Handycam.Control

/-!
# Initialization plans

The camera is brought into its live mode by a recorded sequence of control
operations. A plan is a text with one operation a row, in eight fields
separated by tabs: the delay before the operation, the five numbers of a USB
control request, the payload in hexadecimal, and a reference to the recording
that is not read. `parseInitPlan` accepts three kinds of operation and no
others.

A text is a list of characters. Hexadecimal payloads are decoded by a library;
its decoder is a parameter.
-/

namespace Handycam

/-- One operation of a plan. -/
inductive InitOp where
  /-- a request that reads from the camera -/
  | controlIn (delayUs : UInt64) (requestType request : UInt8) (value index length : UInt16)
  /-- a request that writes to the camera -/
  | controlOut (delayUs : UInt64) (requestType request : UInt8) (value index : UInt16)
    (data : List UInt8)
  /-- the selection of an alternate setting -/
  | setInterface (delayUs : UInt64) (interface alternate : UInt8)
  deriving DecidableEq

/-- The delay before the operation, in microseconds. -/
def InitOp.delayUs : InitOp → UInt64
  | .controlIn delayUs _ _ _ _ _ => delayUs
  | .controlOut delayUs _ _ _ _ _ => delayUs
  | .setInterface delayUs _ _ => delayUs

/-- `InitPlanError`. -/
inductive InitPlanError where
  /-- a row has not eight fields -/
  | fieldCount (line count : ℕ)
  /-- a field is not a number, or too large -/
  | invalidNumber (line : ℕ) (field : String) (value : List Char)
  /-- the payload is not hexadecimal -/
  | invalidHex (line : ℕ) (source : String)
  /-- the payload has not the length that the row says -/
  | payloadLength (line expected actual : ℕ)
  /-- the request is not one of the supported ones -/
  | unsupported (line : ℕ) (requestType request : UInt8)
  deriving DecidableEq

/-! ## Lines and numbers -/

/-- `str::lines`: rows end in a line feed, and a carriage return before it
belongs to the end; the last row may have no end. -/
def lines (text : List Char) : List (List Char) :=
  let pieces := text.splitOn '\n'
  let withoutReturn (row : List Char) := if row.getLast? = some '\r' then row.dropLast else row
  pieces.dropLast.map withoutReturn ++ pieces.getLast?.toList.filter (· ≠ [])

/-- `char::to_digit`. -/
def toDigit (radix : ℕ) (c : Char) : Option ℕ :=
  let digit :=
    if '0' ≤ c ∧ c ≤ '9' then some (c.toNat - '0'.toNat)
    else if 'a' ≤ c ∧ c ≤ 'z' then some (c.toNat - 'a'.toNat + 10)
    else if 'A' ≤ c ∧ c ≤ 'Z' then some (c.toNat - 'A'.toNat + 10)
    else none
  digit.filter (· < radix)

/-- Append a digit to a number that fits into 64 bits. -/
def pushDigit (radix value : ℕ) (c : Char) : Option ℕ := do
  let digit ← toDigit radix c
  let next := value * radix + digit
  if next < 2 ^ 64 then some next else none

/-- `u64::from_str_radix`: one sign `+` may precede the digits. -/
def fromStrRadix (text : List Char) (radix : ℕ) : Option UInt64 :=
  let digits :=
    match text with
    | '+' :: digits => digits
    | _ => text
  if digits = [] then none else (digits.foldlM (pushDigit radix) 0).map UInt64.ofNat

/-- `parse_u64`: a number is decimal, or hexadecimal after `0x`. -/
def parseU64 (line : ℕ) (field : String) (value : List Char) : Except InitPlanError UInt64 :=
  let parsed :=
    match value with
    | '0' :: 'x' :: value => fromStrRadix value 16
    | _ => fromStrRadix value 10
  match parsed with
  | some parsed => .ok parsed
  | none => .error (.invalidNumber line field value)

/-- `parse_bounded`; the bound comes with the number. -/
def parseBounded (line : ℕ) (field : String) (value : List Char) (maximum : UInt64) :
    Except InitPlanError { parsed : UInt64 // parsed ≤ maximum } := do
  let parsed ← parseU64 line field value
  if h : parsed ≤ maximum then
    return ⟨parsed, h⟩
  else
    throw (.invalidNumber line field value)

/-! ## Rows -/

/-- The largest delay of a row, in microseconds. -/
def maximumDelayUs : UInt64 := 10000000

/-- The largest `wLength` of a row. -/
def maximumLength : UInt64 := 64

/-- The numbers on a row, in their ranges, and its payload field. -/
structure PlanRow where
  /-- the delay before the operation -/
  delayUs : UInt64
  /-- `bmRequestType` -/
  requestType : UInt8
  /-- `bRequest` -/
  request : UInt8
  /-- `wValue` -/
  value : UInt16
  /-- `wIndex` -/
  index : UInt16
  /-- `wLength` -/
  length : ℕ
  /-- the payload in hexadecimal -/
  payload : List Char
  /-- the delay has a limit -/
  delayUs_le : delayUs ≤ maximumDelayUs
  /-- the length has a limit -/
  length_le : length ≤ maximumLength.toNat

/-- Split a row, and read the numbers in its fields from left to right. -/
def parseFields (line : ℕ) (row : List Char) : Except InitPlanError PlanRow :=
  match row.splitOn '\t' with
  | [delayField, requestTypeField, requestField, valueField, indexField, lengthField, payload, _] => do
    let delayUs ← parseBounded line "delay_us" delayField maximumDelayUs
    let requestType ← parseBounded line "bmRequestType" requestTypeField 0xff
    let request ← parseBounded line "bRequest" requestField 0xff
    let value ← parseBounded line "wValue" valueField 0xffff
    let index ← parseBounded line "wIndex" indexField 0xffff
    let length ← parseBounded line "wLength" lengthField maximumLength
    return {
      delayUs := delayUs.val
      requestType := requestType.val.toUInt8
      request := request.val.toUInt8
      value := value.val.toUInt16
      index := index.val.toUInt16
      length := length.val.toNat
      payload := payload
      delayUs_le := delayUs.property
      length_le := length.property }
  | fields => .error (.fieldCount line fields.length)

/-- `hex::decode`: the bytes, or the text of an error. -/
abbrev HexDecoder : Type := List Char → Except String (List UInt8)

/-- The operation that a row describes. -/
def PlanRow.operation (hexDecode : HexDecoder) (line : ℕ) (row : PlanRow) :
    Except InitPlanError InitOp :=
  if row.requestType = 0x01 ∧ row.request = 0x0b ∧ row.index = 0 ∧ row.length = 0 then
    .ok (.setInterface row.delayUs row.index.toUInt8 row.value.toUInt8)
  else if row.requestType = 0xc0 ∧ row.request = 0x88 then
    .ok (.controlIn row.delayUs row.requestType row.request row.value row.index
      (UInt16.ofNat row.length))
  else if row.requestType = 0x40 ∧ row.request = 0x88 then
    match hexDecode row.payload with
    | .error source => .error (.invalidHex line source)
    | .ok data =>
      if data.length ≠ row.length then
        .error (.payloadLength line row.length data.length)
      else
        .ok (.controlOut row.delayUs row.requestType row.request row.value row.index data)
  else
    .error (.unsupported line row.requestType row.request)

/-- The turn of `parse_init_plan` for a row that is not skipped. -/
def parseRow (hexDecode : HexDecoder) (line : ℕ) (row : List Char) :
    Except InitPlanError InitOp := do
  (← parseFields line row).operation hexDecode line

/-- The rows with their line numbers; empty rows and comments are skipped. -/
def dataRows (text : List Char) : List (List Char × ℕ) :=
  ((lines text).zipIdx 1).filter fun (row, _) => row ≠ [] ∧ row.head? ≠ some '#'

/-- `parse_init_plan`: the operations of the rows, or the first error. -/
def parseInitPlan (hexDecode : HexDecoder) (text : List Char) :
    Except InitPlanError (List InitOp) :=
  (dataRows text).mapM fun (row, line) => parseRow hexDecode line row

/-! ## The scale factor -/

/-- Change the payload of a one-byte write to the scale-factor register. -/
def InitOp.withScaleFactor (scaleFactor : ScaleFactor) : InitOp → Option InitOp
  | .controlOut delayUs requestType request value index data =>
    if index = scaleFactorIndex ∧ data.length = 1 then
      some (.controlOut delayUs requestType request value index (data.set 0 scaleFactor.value))
    else
      none
  | _ => none

/-- Change the first operation that can be changed. -/
def overrideFirst (scaleFactor : ScaleFactor) : List InitOp → List InitOp × Bool
  | [] => ([], false)
  | operation :: operations =>
    match operation.withScaleFactor scaleFactor with
    | some changed => (changed :: operations, true)
    | none =>
      let (operations, found) := overrideFirst scaleFactor operations
      (operation :: operations, found)

/-- `override_record_mode_scale_factor`: the search runs backwards, so that
only the configured write changes. -/
def overrideRecordModeScaleFactor (operations : List InitOp) (scaleFactor : ScaleFactor) :
    List InitOp × Bool :=
  let (reversed, found) := overrideFirst scaleFactor operations.reverse
  (reversed.reverse, found)

/-- The plan that is replayed: the parsed one, with the scale factor that was
asked for. -/
def configure (plan : List InitOp) : Option ScaleFactor → List InitOp
  | none => plan
  | some scaleFactor => (overrideRecordModeScaleFactor plan scaleFactor).1

/-! ## Operations of accepted plans -/

/-- A row admits the operations that send its own numbers in one of the three
supported requests, with a payload of its own length. -/
inductive PlanRow.Admits (row : PlanRow) : InitOp → Prop
  /-- a vendor read -/
  | controlIn {length : UInt16} (htype : row.requestType = 0xc0) (hrequest : row.request = 0x88)
    (hlength : length.toNat = row.length) :
    row.Admits (.controlIn row.delayUs 0xc0 0x88 row.value row.index length)
  /-- a vendor write -/
  | controlOut {data : List UInt8} (htype : row.requestType = 0x40) (hrequest : row.request = 0x88)
    (hdata : data.length = row.length) :
    row.Admits (.controlOut row.delayUs 0x40 0x88 row.value row.index data)
  /-- an alternate setting of the first interface -/
  | setInterface (htype : row.requestType = 0x01) (hrequest : row.request = 0x0b)
    (hindex : row.index = 0) (hlength : row.length = 0) :
    row.Admits (.setInterface row.delayUs 0 row.value.toUInt8)

theorem PlanRow.length_lt (row : PlanRow) : row.length < 2 ^ 16 :=
  Nat.lt_of_le_of_lt row.length_le (by decide)

/-- The guards of the arms fix the request, and the third arm compares the
payload with the length. -/
theorem PlanRow.operation_admits {hexDecode : HexDecoder} {line : ℕ} {row : PlanRow}
    {operation : InitOp} (h : row.operation hexDecode line = .ok operation) :
    row.Admits operation := by
  rw [PlanRow.operation] at h
  split_ifs at h with hset hin hout
  · obtain ⟨htype, hrequest, hindex, hlength⟩ := hset
    cases h
    rw [hindex]
    exact .setInterface htype hrequest hindex hlength
  · cases h
    rw [hin.1, hin.2]
    exact .controlIn hin.1 hin.2 (UInt16.toNat_ofNat_of_lt' row.length_lt)
  · rw [hout.1, hout.2] at h
    cases hdecode : hexDecode row.payload with
    | error source => simp [hdecode] at h
    | ok data =>
      simp only [hdecode] at h
      split_ifs at h with hdata
      cases h
      exact .controlOut hout.1 hout.2 (not_not.mp hdata)

/-- The override keeps the length of the payload. -/
theorem PlanRow.Admits.withScaleFactor {scaleFactor : ScaleFactor} {row : PlanRow}
    {operation changed : InitOp} (hadmits : row.Admits operation)
    (h : operation.withScaleFactor scaleFactor = some changed) : row.Admits changed := by
  cases hadmits with
  | controlIn => cases h
  | setInterface => cases h
  | controlOut htype hrequest hdata =>
    rw [InitOp.withScaleFactor] at h
    split_ifs at h
    cases h
    exact .controlOut htype hrequest (by rw [List.length_set, hdata])

/-- A relation that one change keeps is kept by the override. -/
theorem forall₂_override {α : Type} {scaleFactor : ScaleFactor} {R : α → InitOp → Prop}
    (hchange : ∀ {a operation changed}, R a operation →
      operation.withScaleFactor scaleFactor = some changed → R a changed)
    {rows : List α} {plan : List InitOp} (h : List.Forall₂ R rows plan) :
    List.Forall₂ R rows (overrideRecordModeScaleFactor plan scaleFactor).1 := by
  have hfirst : ∀ {rows : List α} {plan : List InitOp}, List.Forall₂ R rows plan →
      List.Forall₂ R rows (overrideFirst scaleFactor plan).1 := by
    intro rows plan h
    induction h with
    | nil => exact .nil
    | cons hhead htail ih =>
      rw [overrideFirst]
      split
      · next changed hchanged => exact .cons (hchange hhead hchanged) htail
      · exact .cons hhead ih
  have hreverse := hfirst (List.forall₂_reverse_iff.mpr h)
  rw [← List.reverse_reverse rows]
  exact List.forall₂_reverse_iff.mpr hreverse

/-- A traversal that succeeds did so at each element. -/
theorem forall₂_of_mapM {α β ε : Type} {f : α → Except ε β} {as : List α} {bs : List β}
    (h : as.mapM f = .ok bs) : List.Forall₂ (fun a b => f a = .ok b) as bs := by
  induction as generalizing bs with
  | nil =>
    cases h
    exact .nil
  | cons a as ih =>
    rw [List.mapM_cons] at h
    cases hhead : f a with
    | error error => simp [hhead, bind, Except.bind] at h
    | ok b =>
      cases htail : as.mapM f with
      | error error => simp [hhead, htail, bind, Except.bind] at h
      | ok rest =>
        simp only [hhead, htail, bind, Except.bind, pure, Except.pure, Except.ok.injEq] at h
        subst h
        exact .cons hhead (ih htail)

/-- A row of a text whose numbers are in range. -/
def Row (entry : List Char × ℕ) (row : PlanRow) : Prop := parseFields entry.2 entry.1 = .ok row

/-- **Rows and operations correspond.** In an accepted text, each row that is
not skipped admits its operation, also when the scale factor is overridden. -/
theorem rows_admitted {hexDecode : HexDecoder} {text : List Char} {plan : List InitOp}
    (h : parseInitPlan hexDecode text = .ok plan) (quality : Option ScaleFactor) :
    List.Forall₂ (fun entry operation => ∃ row, Row entry row ∧ row.Admits operation)
      (dataRows text) (configure plan quality) := by
  have hparsed : List.Forall₂ (fun entry operation => ∃ row, Row entry row ∧ row.Admits operation)
      (dataRows text) plan := by
    refine (forall₂_of_mapM h).imp ?_
    rintro ⟨fields, line⟩ operation hrow
    replace hrow : parseRow hexDecode line fields = .ok operation := hrow
    rw [parseRow] at hrow
    cases hfields : parseFields line fields with
    | error error =>
      rw [hfields] at hrow
      cases hrow
    | ok row =>
      rw [hfields] at hrow
      exact ⟨row, hfields, PlanRow.operation_admits hrow⟩
  cases quality with
  | none => exact hparsed
  | some scaleFactor =>
    refine forall₂_override ?_ hparsed
    rintro entry operation changed ⟨row, hrow, hadmits⟩ hchanged
    exact ⟨row, hrow, hadmits.withScaleFactor hchanged⟩

/-- Each operation of a plan has its row. -/
theorem exists_row {rows : List (List Char × ℕ)} {plan : List InitOp}
    (h : List.Forall₂ (fun entry operation => ∃ row, Row entry row ∧ row.Admits operation) rows plan)
    {operation : InitOp} (hoperation : operation ∈ plan) :
    ∃ entry ∈ rows, ∃ row, Row entry row ∧ row.Admits operation := by
  induction h with
  | nil => cases hoperation
  | cons hhead htail ih =>
    rcases List.mem_cons.mp hoperation with rfl | hoperation
    · exact ⟨_, List.mem_cons_self, hhead⟩
    · obtain ⟨entry, hentry, hrow⟩ := ih hoperation
      exact ⟨entry, List.mem_cons_of_mem _ hentry, hrow⟩

end Handycam
