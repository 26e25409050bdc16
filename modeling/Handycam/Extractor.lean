import Mathlib
import Handycam.PlanGrammar

/-!
# The plan extractor

Plans are made from a USB capture by a script, `extract_sony_init.py`, which
writes one line for each control submission that it retains. The rows of the
capture are texts that `tshark` prints; how Python reads numbers from them is a
parameter.

What the script writes and what `parse_init_plan` reads agree except for one
kind of submission: an empty payload is written as `-`, which is not
hexadecimal.
-/

namespace Handycam

/-! ## Texts of numbers -/

/-- The digits of a number, filled up with zeros. -/
def numeral (base width n : ℕ) : List Char :=
  ((Nat.digits base n).reverse.map Nat.digitChar).leftpad width '0'

/-- An integer in a format string: decimal, or `x` with a width. -/
def formatInt (base width : ℕ) : ℤ → List Char
  | .ofNat n => numeral base width n
  | .negSucc n => '-' :: numeral base (width - 1) (n + 1)

/-! ## The script -/

/-- How Python reads numbers; `none` stands for an exception. -/
structure Python where
  /-- floating-point numbers -/
  Float : Type
  /-- `int(text, 0)` -/
  parseInt : List Char → Option ℤ
  /-- `float(text)` -/
  parseFloat : List Char → Option Float
  /-- `round((timestamp - previous_time) * 1_000_000)` -/
  roundedUs : Float → Float → Option ℤ

/-- A row of the capture. -/
structure TsharkRow where
  /-- `frame.number` -/
  frame : List Char
  /-- `frame.time_relative` -/
  time : List Char
  /-- `usb.bmRequestType` -/
  requestType : List Char
  /-- `usb.setup.bRequest` -/
  request : List Char
  /-- `usb.setup.wValue` -/
  value : List Char
  /-- `usb.setup.wIndex` -/
  index : List Char
  /-- `usb.setup.wLength` -/
  length : List Char
  /-- `usb.data_fragment` -/
  dataHex : List Char

/-- The errors of the script. -/
inductive PlanExtractError where
  /-- a text is not a number -/
  | number
  /-- the alternate setting of a frame is not known -/
  | unknownInterface (frame : ℤ)
  /-- a vendor request has another type -/
  | requestType (frame requestType : ℤ)
  /-- the payload has not the length that the request says -/
  | payload (frame expected : ℤ) (actual : ℕ)
  deriving DecidableEq

/-- A retained submission. -/
structure Submission where
  /-- microseconds since the submission before -/
  delayUs : ℤ
  /-- `bmRequestType` -/
  requestType : ℤ
  /-- `bRequest` -/
  request : ℤ
  /-- `wValue` -/
  value : ℤ
  /-- `wIndex` -/
  index : ℤ
  /-- `wLength` -/
  length : ℤ
  /-- the payload as it was captured, or `-` -/
  dataHex : List Char
  /-- the number of the frame -/
  frame : ℤ
  deriving DecidableEq

/-- `KNOWN_SET_INTERFACE`: interface and alternate setting by frame. -/
def knownSetInterface : ℤ → Option (ℤ × ℤ)
  | 4196 => some (2, 0)
  | 4200 => some (0, 0)
  | 4240 => some (0, 7)
  | 4246 => some (0, 5)
  | 4644 => some (2, 1)
  | _ => none

/-- What becomes of a row. -/
inductive RowOutcome (Float : Type) where
  /-- it is retained, with its time -/
  | retained (submission : Submission) (time : Float)
  /-- it sets another interface -/
  | skipped
  /-- it is another request -/
  | ignored

section Script

variable (python : Python)

/-- `parse_int`. -/
def parseInt (text : List Char) : Except PlanExtractError ℤ :=
  (python.parseInt text).elim (.error .number) .ok

/-- The delay since the last retained row. -/
def delaySince (previousTime : Option python.Float) (time : python.Float) :
    Except PlanExtractError ℤ :=
  match previousTime with
  | none => .ok 0
  | some previousTime => (python.roundedUs time previousTime).elim (.error .number) (.ok <| max 0 ·)

/-- The turn of `extract` for a row. -/
def extractRow (previousTime : Option python.Float) (row : TsharkRow) :
    Except PlanExtractError (RowOutcome python.Float) := do
  let frame ← parseInt python row.frame
  let time ← (python.parseFloat row.time).elim (.error .number) .ok
  let requestType ← parseInt python row.requestType
  let request ← parseInt python row.request
  if request = 11 then
    match knownSetInterface frame with
    | none => throw (.unknownInterface frame)
    | some (interface, alternate) =>
      if interface ≠ 0 then
        return .skipped
      else
        let delayUs ← delaySince python previousTime time
        return .retained ⟨delayUs, requestType, request, alternate, interface, 0, ['-'], frame⟩ time
  else if request = 136 then
    if requestType ≠ 0x40 ∧ requestType ≠ 0xc0 then
      throw (.requestType frame requestType)
    else
      let value ← parseInt python row.value
      let index ← parseInt python row.index
      let length ← parseInt python row.length
      if requestType = 0x40 ∧ (row.dataHex.length : ℤ) ≠ length * 2 then
        throw (.payload frame length (row.dataHex.length / 2))
      else
        let delayUs ← delaySince python previousTime time
        let dataHex := if requestType = 0x40 then row.dataHex else ['-']
        return .retained ⟨delayUs, requestType, request, value, index, length, dataHex, frame⟩ time
  else
    return .ignored

/-- The retained submissions, and how many rows were skipped. -/
def retain (previousTime : Option python.Float) :
    List TsharkRow → Except PlanExtractError (List Submission × ℕ)
  | [] => .ok ([], 0)
  | row :: rows => do
    match ← extractRow python previousTime row with
    | .retained submission time =>
      let (submissions, skipped) ← retain (some time) rows
      return (submission :: submissions, skipped)
    | .skipped =>
      let (submissions, skipped) ← retain previousTime rows
      return (submissions, skipped + 1)
    | .ignored => retain previousTime rows

/-- The comment at the start of a plan. -/
def headerLine : List Char :=
  "# delay_us\tbmRequestType\tbRequest\twValue\twIndex\twLength\tdata_hex\tcapture_frame".toList

/-- The fields of a submission. -/
def Submission.fields (submission : Submission) : List (List Char) :=
  [formatInt 10 1 submission.delayUs, '0' :: 'x' :: formatInt 16 2 submission.requestType,
    '0' :: 'x' :: formatInt 16 2 submission.request, '0' :: 'x' :: formatInt 16 4 submission.value,
    '0' :: 'x' :: formatInt 16 4 submission.index, formatInt 10 1 submission.length,
    if submission.dataHex = [] then ['-'] else submission.dataHex, formatInt 10 1 submission.frame]

/-- The line of a submission. -/
def Submission.line (submission : Submission) : List Char :=
  List.intercalate ['\t'] submission.fields

/-- The text that is written for the submissions. -/
def planText (submissions : List Submission) : List Char :=
  headerLine ++ '\n' :: submissions.flatMap fun submission => submission.line ++ ['\n']

/-- `extract_sony_init.extract`: the text of the plan, and the numbers of retained and skipped
submissions. -/
def extractSonyInit (rows : List TsharkRow) : Except PlanExtractError (List Char × ℕ × ℕ) := do
  let (submissions, skipped) ← retain python none rows
  return (planText submissions, submissions.length, skipped)

end Script

/-! ## Reading the texts -/

theorem toDigit_digitChar {base d : ℕ} (hbase : base ≤ 16) (hd : d < base) :
    toDigit base (Nat.digitChar d) = some d := by
  have hdigit : ∀ d < 16, toDigit 16 (Nat.digitChar d) = some d := by decide
  have hwide := hdigit d (by omega)
  rw [toDigit, Option.filter_eq_some_iff] at hwide ⊢
  exact ⟨hwide.1, decide_eq_true hd⟩

theorem mapM_toDigit {base : ℕ} (hbase : base ≤ 16) {digits : List ℕ}
    (hdigits : ∀ d ∈ digits, d < base) :
    (digits.map Nat.digitChar).mapM (toDigit base) = some digits := by
  induction digits with
  | nil => rfl
  | cons d digits ih =>
    obtain ⟨hhead, htail⟩ := List.forall_mem_cons.mp hdigits
    rw [List.map_cons, List.mapM_cons, toDigit_digitChar hbase hhead, ih htail]
    rfl

theorem numeral_eq_map (base width n : ℕ) :
    numeral base width n = (List.replicate (width - (Nat.digits base n).length) 0 ++
      (Nat.digits base n).reverse).map Nat.digitChar := by
  rw [numeral, List.leftpad, List.map_append, List.map_replicate, List.length_map,
    List.length_reverse]
  rfl

/-- A padded numeral stands for its number. -/
theorem isNumeral_numeral {base width n : ℕ} (hone : 1 < base) (hbase : base ≤ 16)
    (hwidth : 0 < width) (hn : n < 2 ^ 64) : IsNumeral base (numeral base width n) n := by
  have hdigits : ∀ d ∈ List.replicate (width - (Nat.digits base n).length) 0 ++
      (Nat.digits base n).reverse, d < base := by
    intro d hd
    rcases List.mem_append.mp hd with hd | hd
    · rw [List.eq_of_mem_replicate hd]
      omega
    · exact Nat.digits_lt_base hone (List.mem_reverse.mp hd)
  refine ⟨_, _, .inl rfl, ?_, by rw [numeral_eq_map]; exact mapM_toDigit hbase hdigits, ?_, hn⟩
  · intro hempty
    have hlength := congrArg List.length hempty
    rw [numeral, List.length_leftpad] at hlength
    have hzero : width ≤ 0 := (Nat.le_max_left _ _).trans_eq hlength
    omega
  · rw [List.reverse_append, List.reverse_reverse, List.reverse_replicate,
      Nat.ofDigits_append_replicate_zero, Nat.ofDigits_digits]

/-- A decimal numeral has no `x`. -/
theorem IsNumeral.isNumber {text : List Char} {n : ℕ} (h : IsNumeral 10 text n) :
    IsNumber text n := by
  unfold IsNumber
  split
  · next digits =>
    obtain ⟨digits', values, hdigits | hdigits, -, hvalues, -⟩ := h
    · rw [← hdigits, List.mapM_cons, List.mapM_cons, show toDigit 10 'x' = none from rfl] at hvalues
      simp at hvalues
    · cases hdigits
  · exact h

theorem isNumber_formatInt {n : ℕ} (hn : n < 2 ^ 64) : IsNumber (formatInt 10 1 n) n :=
  (isNumeral_numeral (by decide) (by decide) (by decide) hn).isNumber

theorem isNumber_formatHex {width n : ℕ} (hwidth : 0 < width) (hn : n < 2 ^ 64) :
    IsNumber ('0' :: 'x' :: formatInt 16 width n) n :=
  isNumeral_numeral (by decide) (by decide) hwidth hn

/-- Texts that stay within a field, and start no comment. -/
def Plain (text : List Char) : Prop :=
  ∀ c ∈ text, c ≠ '#' ∧ c ≠ '\t' ∧ c ≠ '\n' ∧ c ≠ '\r'

/-- Digits of any kind stay within a field. -/
theorem plain_of_toDigit {radix : ℕ} {c : Char} (h : toDigit radix c ≠ none) :
    c ≠ '#' ∧ c ≠ '\t' ∧ c ≠ '\n' ∧ c ≠ '\r' := by
  refine ⟨?_, ?_, ?_, ?_⟩
  · rintro rfl
    exact h rfl
  · rintro rfl
    exact h rfl
  · rintro rfl
    exact h rfl
  · rintro rfl
    exact h rfl

theorem plain_of_mapM {radix : ℕ} {text : List Char} {values : List ℕ}
    (h : text.mapM (toDigit radix) = some values) : Plain text := by
  induction text generalizing values with
  | nil => intro c hc; cases hc
  | cons c text ih =>
    rw [List.mapM_cons] at h
    cases hdigit : toDigit radix c with
    | none => simp [hdigit] at h
    | some value =>
      cases htail : text.mapM (toDigit radix) with
      | none => simp [htail] at h
      | some rest =>
        exact List.forall_mem_cons.mpr ⟨plain_of_toDigit (by rw [hdigit]; simp), ih htail⟩

theorem Plain.cons {c : Char} {text : List Char} (hc : c ≠ '#' ∧ c ≠ '\t' ∧ c ≠ '\n' ∧ c ≠ '\r')
    (h : Plain text) : Plain (c :: text) :=
  List.forall_mem_cons.mpr ⟨hc, h⟩

theorem plain_formatInt {base width : ℕ} (hone : 1 < base) (hbase : base ≤ 16) (n : ℤ) :
    Plain (formatInt base width n) := by
  have hnumeral : ∀ width n, Plain (numeral base width n) := by
    intro width n
    rw [numeral_eq_map]
    refine plain_of_mapM (mapM_toDigit hbase ?_)
    intro d hd
    rcases List.mem_append.mp hd with hd | hd
    · rw [List.eq_of_mem_replicate hd]
      omega
    · exact Nat.digits_lt_base hone (List.mem_reverse.mp hd)
  cases n with
  | ofNat n => exact hnumeral width n
  | negSucc n => exact (hnumeral _ _).cons (by decide)

theorem plain_of_hexBytes {text : List Char} {bytes : List UInt8} (h : hexBytes text = some bytes) :
    Plain text := by
  fun_induction hexBytes text generalizing bytes with
  | case1 => intro c hc; cases hc
  | case2 => cases h
  | case3 high low text ih =>
    obtain ⟨highDigit, hhigh, h⟩ := Option.bind_eq_some_iff.mp h
    obtain ⟨lowDigit, hlow, h⟩ := Option.bind_eq_some_iff.mp h
    obtain ⟨rest, hrest, -⟩ := Option.bind_eq_some_iff.mp h
    exact ((ih hrest).cons (plain_of_toDigit (by rw [hlow]; simp))).cons
      (plain_of_toDigit (by rw [hhigh]; simp))

/-! ## The lines that are written -/

/-- A text without line ends is one line. -/
theorem lines_singleton {row : List Char} (h : ∀ c ∈ row, c ≠ '\n' ∧ c ≠ '\r') :
    lines (row ++ ['\n']) = [row] := by
  have hfeed : '\n' ∉ row := fun hmem => (h _ hmem).1 rfl
  have hreturn : row.getLast? ≠ some '\r' := by
    intro hlast
    exact (h _ (List.mem_of_getLast? hlast)).2 rfl
  rw [lines, List.splitOn_append_cons_self_of_not_mem hfeed, List.splitOn_nil]
  simp [hreturn]

theorem mem_intercalate {sep : List Char} {fields : List (List Char)} {c : Char}
    (h : c ∈ List.intercalate sep fields) : c ∈ sep ∨ ∃ field ∈ fields, c ∈ field := by
  induction fields with
  | nil => cases h
  | cons field fields ih =>
    cases fields with
    | nil =>
      rw [List.intercalate_singleton] at h
      exact .inr ⟨field, List.mem_singleton_self field, h⟩
    | cons next fields =>
      rw [List.intercalate_cons_cons] at h
      simp only [List.mem_append] at h
      rcases h with (h | h) | h
      · exact .inr ⟨field, List.mem_cons_self, h⟩
      · exact .inl h
      · rcases ih h with h | ⟨other, hother, h⟩
        · exact .inl h
        · exact .inr ⟨other, List.mem_cons_of_mem _ hother, h⟩

/-- The numbers of a submission that `parse_init_plan` takes. -/
structure Submission.Bounded (submission : Submission) : Prop where
  /-- at most ten seconds -/
  delayUs : 0 ≤ submission.delayUs ∧ submission.delayUs ≤ 10000000
  /-- a byte -/
  requestType : 0 ≤ submission.requestType ∧ submission.requestType ≤ 255
  /-- a byte -/
  request : 0 ≤ submission.request ∧ submission.request ≤ 255
  /-- two bytes -/
  value : 0 ≤ submission.value ∧ submission.value ≤ 65535
  /-- two bytes -/
  index : 0 ≤ submission.index ∧ submission.index ≤ 65535
  /-- at most a register block -/
  length : 0 ≤ submission.length ∧ submission.length ≤ 64
  /-- the payload stays in its field -/
  dataHex : Plain submission.dataHex

section Lines

variable {submission : Submission}

theorem Submission.plain_fields (h : Plain submission.dataHex) :
    ∀ field ∈ submission.fields, Plain field := by
  have hhex : ∀ width n, Plain ('0' :: 'x' :: formatInt 16 width n) := fun width n =>
    ((plain_formatInt (by decide) (by decide) n).cons (by decide)).cons (by decide)
  have hdecimal : ∀ n, Plain (formatInt 10 1 n) := plain_formatInt (by decide) (by decide)
  simp only [Submission.fields, List.forall_mem_cons, List.not_mem_nil, false_implies,
    implies_true, and_true]
  refine ⟨hdecimal _, hhex _ _, hhex _ _, hhex _ _, hhex _ _, hdecimal _, ?_, hdecimal _⟩
  split_ifs
  · intro c hc
    obtain rfl := List.mem_singleton.mp hc
    decide
  · exact h

/-- A line is split into the fields that were written. -/
theorem Submission.splitOn_line (h : Plain submission.dataHex) :
    submission.line.splitOn '\t' = submission.fields := by
  refine List.splitOn_intercalate '\t' ?_ (List.cons_ne_nil _ _)
  intro field hfield hmem
  exact (Submission.plain_fields h field hfield _ hmem).2.1 rfl

theorem Submission.line_no_feed (h : Plain submission.dataHex) :
    ∀ c ∈ submission.line, c ≠ '\n' ∧ c ≠ '\r' := by
  intro c hc
  rcases mem_intercalate hc with hc | ⟨field, hfield, hc⟩
  · obtain rfl := List.mem_singleton.mp hc
    decide
  · exact (Submission.plain_fields h field hfield c hc).2.2

theorem Submission.field_line (h : Plain submission.dataHex) (place : ℕ) :
    field submission.line place = submission.fields.getD place [] := by
  rw [field, Submission.splitOn_line h]

theorem isNumber_decimal {n : ℤ} (hn : 0 ≤ n ∧ n ≤ 10000000) :
    IsNumber (formatInt 10 1 n) n.toNat := by
  obtain ⟨m, rfl⟩ := Int.eq_ofNat_of_zero_le hn.1
  exact isNumber_formatInt (by omega)

theorem isNumber_hex {width : ℕ} {n : ℤ} (hwidth : 0 < width) (hn : 0 ≤ n ∧ n ≤ 65535) :
    IsNumber ('0' :: 'x' :: formatInt 16 width n) n.toNat := by
  obtain ⟨m, rfl⟩ := Int.eq_ofNat_of_zero_le hn.1
  exact isNumber_formatHex hwidth (by omega)

/-- The numbers on a line are those of its submission. -/
theorem Submission.Bounded.hasNumbers (h : submission.Bounded) :
    HasNumbers submission.line submission.delayUs.toNat submission.requestType.toNat
      submission.request.toNat submission.value.toNat submission.index.toNat
      submission.length.toNat := by
  have hfield := Submission.field_line h.dataHex
  refine ⟨?_, ?_, ?_, ?_, ?_, ?_⟩
  · rw [hfield]
    exact isNumber_decimal h.delayUs
  · rw [hfield]
    exact isNumber_hex (by decide) ⟨h.requestType.1, h.requestType.2.trans (by decide)⟩
  · rw [hfield]
    exact isNumber_hex (by decide) ⟨h.request.1, h.request.2.trans (by decide)⟩
  · rw [hfield]
    exact isNumber_hex (by decide) h.value
  · rw [hfield]
    exact isNumber_hex (by decide) h.index
  · rw [hfield]
    exact isNumber_decimal ⟨h.length.1, h.length.2.trans (by decide)⟩

/-- The fields and the numbers of a line pass their checks. -/
theorem Submission.Bounded.passes (h : submission.Bounded) :
    ∀ check ∈ LineCheck.fieldCount :: columns.map .number, Passes submission.line check := by
  obtain ⟨hdelay, htype, hrequest, hvalue, hindex, hlength⟩ := h.hasNumbers
  simp only [columns, List.map_cons, List.map_nil, List.forall_mem_cons, List.not_mem_nil,
    false_implies, implies_true, and_true]
  refine ⟨?_, ⟨_, ?_, hdelay⟩, ⟨_, ?_, htype⟩, ⟨_, ?_, hrequest⟩, ⟨_, ?_, hvalue⟩,
    ⟨_, ?_, hindex⟩, ⟨_, ?_, hlength⟩⟩
  · exact congrArg List.length (Submission.splitOn_line h.dataHex)
  · exact Int.toNat_le.mpr h.delayUs.2
  · exact Int.toNat_le.mpr h.requestType.2
  · exact Int.toNat_le.mpr h.request.2
  · exact Int.toNat_le.mpr h.value.2
  · exact Int.toNat_le.mpr h.index.2
  · exact Int.toNat_le.mpr h.length.2

theorem Submission.Bounded.isRead_iff (h : submission.Bounded) :
    IsRead submission.line ↔ submission.requestType = 0xc0 ∧ submission.request = 0x88 := by
  obtain ⟨-, htype, hrequest, -, -, -⟩ := h.hasNumbers
  have htypeBound := h.requestType
  have hrequestBound := h.request
  rw [IsRead, htype.iff_eq, hrequest.iff_eq]
  omega

theorem Submission.Bounded.isWrite_iff (h : submission.Bounded) :
    IsWrite submission.line ↔ submission.requestType = 0x40 ∧ submission.request = 0x88 := by
  obtain ⟨-, htype, hrequest, -, -, -⟩ := h.hasNumbers
  have htypeBound := h.requestType
  have hrequestBound := h.request
  rw [IsWrite, htype.iff_eq, hrequest.iff_eq]
  omega

theorem Submission.Bounded.isSelection_iff (h : submission.Bounded) :
    IsSelection submission.line ↔ submission.requestType = 0x01 ∧ submission.request = 0x0b ∧
      submission.index = 0 ∧ submission.length = 0 := by
  obtain ⟨-, htype, hrequest, -, hindex, hlength⟩ := h.hasNumbers
  have htypeBound := h.requestType
  have hrequestBound := h.request
  have hindexBound := h.index
  have hlengthBound := h.length
  rw [IsSelection, htype.iff_eq, hrequest.iff_eq, hindex.iff_eq, hlength.iff_eq]
  omega

end Lines

/-! ## Submissions that correspond to operations -/

/-- The supported submissions. -/
inductive Submission.Supported (submission : Submission) : Prop
  /-- a vendor write with all of its payload -/
  | write {payload : List UInt8} (htype : submission.requestType = 0x40)
    (hrequest : submission.request = 0x88)
    (hvalue : 0 ≤ submission.value ∧ submission.value ≤ 65535)
    (hindex : 0 ≤ submission.index ∧ submission.index ≤ 65535)
    (hlength : 0 ≤ submission.length ∧ submission.length ≤ 64)
    (hpayload : hexBytes submission.dataHex = some payload)
    (hsize : (payload.length : ℤ) = submission.length)
  /-- a vendor read -/
  | read (htype : submission.requestType = 0xc0) (hrequest : submission.request = 0x88)
    (hvalue : 0 ≤ submission.value ∧ submission.value ≤ 65535)
    (hindex : 0 ≤ submission.index ∧ submission.index ≤ 65535)
    (hlength : 0 ≤ submission.length ∧ submission.length ≤ 64)
  /-- a selection on the first interface -/
  | selection (htype : submission.requestType = 0x01) (hrequest : submission.request = 0x0b)
    (hinterface : submission.index = 0)
    (halternate : 0 ≤ submission.value ∧ submission.value ≤ 255)

/-- What the script ensures of the submissions that it retains. -/
structure Submission.Extracted (submission : Submission) : Prop where
  /-- time does not run backwards -/
  delayUs : 0 ≤ submission.delayUs
  /-- a selection has no payload -/
  selection : submission.request = 11 → submission.length = 0 ∧ submission.dataHex = ['-']
  /-- a read has no payload -/
  read : submission.request = 136 → submission.requestType ≠ 0x40 → submission.dataHex = ['-']

/-- The operation has the numbers and the payload of the submission. -/
def Corresponds (submission : Submission) : InitOp → Prop
  | .controlIn delayUs requestType request value index length =>
    submission.requestType = 0xc0 ∧ submission.request = 0x88 ∧
      submission.delayUs = delayUs.toNat ∧ submission.requestType = requestType.toNat ∧
      submission.request = request.toNat ∧ submission.value = value.toNat ∧
      submission.index = index.toNat ∧ submission.length = length.toNat
  | .controlOut delayUs requestType request value index data =>
    submission.requestType = 0x40 ∧ submission.request = 0x88 ∧
      submission.delayUs = delayUs.toNat ∧ submission.requestType = requestType.toNat ∧
      submission.request = request.toNat ∧ submission.value = value.toNat ∧
      submission.index = index.toNat ∧ submission.length = data.length ∧
      hexBytes submission.dataHex = some data
  | .setInterface delayUs interface alternate =>
    submission.requestType = 0x01 ∧ submission.request = 0x0b ∧
      submission.delayUs = delayUs.toNat ∧ submission.value = alternate.toNat ∧
      submission.index = interface.toNat

section Submissions

variable {submission : Submission}

theorem Submission.Supported.bounded (h : submission.Supported)
    (hextracted : submission.Extracted) (hdelay : submission.delayUs ≤ 10000000) :
    submission.Bounded := by
  have hplain : Plain ['-'] := by
    intro c hc
    obtain rfl := List.mem_singleton.mp hc
    decide
  cases h with
  | write htype hrequest hvalue hindex hlength hpayload hsize =>
    exact ⟨⟨hextracted.delayUs, hdelay⟩, by omega, by omega, hvalue, hindex, hlength,
      plain_of_hexBytes hpayload⟩
  | read htype hrequest hvalue hindex hlength =>
    refine ⟨⟨hextracted.delayUs, hdelay⟩, by omega, by omega, hvalue, hindex, hlength, ?_⟩
    rw [hextracted.read hrequest (by omega)]
    exact hplain
  | selection htype hrequest hinterface halternate =>
    obtain ⟨hlength, hdata⟩ := hextracted.selection hrequest
    refine ⟨⟨hextracted.delayUs, hdelay⟩, by omega, by omega, by omega, by omega, by omega, ?_⟩
    rw [hdata]
    exact hplain

theorem hexBytes_eq_nil {text : List Char} (h : hexBytes text = some []) : text = [] := by
  fun_cases hexBytes text with
  | case1 => rfl
  | case2 => cases h
  | case3 high low text =>
    obtain ⟨highDigit, -, h⟩ := Option.bind_eq_some_iff.mp h
    obtain ⟨lowDigit, -, h⟩ := Option.bind_eq_some_iff.mp h
    obtain ⟨rest, -, h⟩ := Option.bind_eq_some_iff.mp h
    cases h

theorem Submission.field_payload (h : Plain submission.dataHex) :
    field submission.line 6 = if submission.dataHex = [] then ['-'] else submission.dataHex :=
  Submission.field_line h 6

/-- A line of a supported submission passes its checks, unless its payload is
the placeholder of an empty one. -/
theorem Submission.Supported.passes_iff (h : submission.Supported) (hbounded : submission.Bounded)
    (hextracted : submission.Extracted) :
    (∀ check ∈ lineChecks, Passes submission.line check) ↔
      (submission.requestType = 0x40 → submission.length ≠ 0) := by
  rw [lineChecks, List.forall_mem_append, and_iff_right hbounded.passes]
  cases h with
  | @write payload htype hrequest hvalue hindex hlength hpayload hsize =>
    have hkind := hbounded.isWrite_iff.mpr ⟨htype, hrequest⟩
    have hfield := Submission.field_payload hbounded.dataHex
    constructor
    · -- an empty payload is written as a placeholder, which does not pass as hex
      intro hpasses _ hzero
      obtain rfl : payload = [] := List.eq_nil_of_length_eq_zero (by omega)
      rw [if_pos (hexBytes_eq_nil hpayload)] at hfield
      obtain ⟨bytes, hbytes⟩ := hpasses .payloadHex (by simp) hkind
      rw [hfield] at hbytes
      cases hbytes
    · intro hlength
      have hne : submission.dataHex ≠ [] := by
        intro hempty
        rw [hempty] at hpayload
        cases hpayload
        exact hlength htype hsize.symm
      rw [if_neg hne] at hfield
      simp only [List.forall_mem_cons, List.not_mem_nil, false_implies, implies_true, and_true]
      refine ⟨.inr (.inl hkind), fun _ => ⟨payload, by rw [hfield, hpayload]⟩, ?_⟩
      intro _ bytes hbytes
      obtain rfl := Option.some.inj (hpayload.symm.trans (hfield ▸ hbytes))
      obtain ⟨-, -, -, -, -, hnumber⟩ := hbounded.hasNumbers
      rwa [← hsize, Int.toNat_natCast] at hnumber
  | read htype hrequest hvalue hindex hlength =>
    refine iff_of_true ?_ fun hwrite => by omega
    refine passes_of_not_isWrite (.inl (hbounded.isRead_iff.mpr ⟨htype, hrequest⟩)) ?_
    rw [hbounded.isWrite_iff]
    omega
  | selection htype hrequest hinterface halternate =>
    obtain ⟨hlength, -⟩ := hextracted.selection hrequest
    refine iff_of_true ?_ fun hwrite => by omega
    refine passes_of_not_isWrite
      (.inr (.inr (hbounded.isSelection_iff.mpr ⟨htype, hrequest, hinterface, hlength⟩))) ?_
    rw [hbounded.isWrite_iff]
    omega

/-- A line has the numbers of its submission, and no others. -/
theorem Submission.Bounded.numbers (h : submission.Bounded)
    {delayUs requestType request value index length : ℕ}
    (hnumbers : HasNumbers submission.line delayUs requestType request value index length) :
    submission.delayUs = delayUs ∧ submission.requestType = requestType ∧
      submission.request = request ∧ submission.value = value ∧ submission.index = index ∧
      submission.length = length := by
  obtain ⟨hdelay, htype, hrequest, hvalue, hindex, hlength⟩ := h.hasNumbers
  obtain ⟨hdelay', htype', hrequest', hvalue', hindex', hlength'⟩ := hnumbers
  rw [← hdelay.unique hdelay', ← htype.unique htype', ← hrequest.unique hrequest',
    ← hvalue.unique hvalue', ← hindex.unique hindex', ← hlength.unique hlength']
  refine ⟨?_, ?_, ?_, ?_, ?_, ?_⟩
  · exact (Int.toNat_of_nonneg h.delayUs.1).symm
  · exact (Int.toNat_of_nonneg h.requestType.1).symm
  · exact (Int.toNat_of_nonneg h.request.1).symm
  · exact (Int.toNat_of_nonneg h.value.1).symm
  · exact (Int.toNat_of_nonneg h.index.1).symm
  · exact (Int.toNat_of_nonneg h.length.1).symm

/-- What a line becomes is what was submitted. -/
theorem Submission.Bounded.corresponds {hexDecode : HexDecoder} (hdecode : ReadsHex hexDecode)
    (h : submission.Bounded) {operation : InitOp} (hkind : SameKind submission.line operation)
    (hsent : Unaltered hexDecode submission.line operation) : Corresponds submission operation := by
  cases operation with
  | controlIn delayUs requestType request value index length =>
    obtain ⟨hread, hreadRequest⟩ := h.isRead_iff.mp hkind
    exact ⟨hread, hreadRequest, h.numbers hsent⟩
  | controlOut delayUs requestType request value index data =>
    obtain ⟨hwrite, hwriteRequest⟩ := h.isWrite_iff.mp hkind
    obtain ⟨hnumbers, hdata⟩ := hsent
    obtain ⟨hdelay, htype, hrequest, hvalue, hindex, hlength⟩ := h.numbers hnumbers
    refine ⟨hwrite, hwriteRequest, hdelay, htype, hrequest, hvalue, hindex, hlength, ?_⟩
    have hbytes := hdecode (field submission.line 6)
    rw [hdata, Submission.field_payload h.dataHex] at hbytes
    split_ifs at hbytes
    · -- the placeholder of an empty payload is no hex
      cases hbytes
    · exact hbytes.symm
  | setInterface delayUs interface alternate =>
    obtain ⟨hselection, hselectionRequest, -, -⟩ := h.isSelection_iff.mp hkind
    obtain ⟨hdelay, -, -, hvalue, hindex, -⟩ := h.numbers hsent
    exact ⟨hselection, hselectionRequest, hdelay, hvalue, hindex⟩

/-- The alternate setting of a supported selection is a byte. -/
theorem Submission.Supported.fits (h : submission.Supported) (hbounded : submission.Bounded) :
    Fits submission.line := by
  intro hkind value hvalue
  have hselection := hbounded.isSelection_iff.mp hkind
  obtain ⟨-, -, -, hnumber, -, -⟩ := hbounded.hasNumbers
  have hsame := hvalue.unique hnumber
  cases h with
  | write htype => omega
  | read htype => omega
  | selection htype hrequest hinterface halternate => omega

end Submissions

/-! ## The text that is written -/

section Text

variable {submissions : List Submission}

theorem lines_flatMap (h : ∀ submission ∈ submissions, submission.Bounded) :
    lines (submissions.flatMap fun submission => submission.line ++ ['\n']) =
      submissions.map Submission.line := by
  induction submissions with
  | nil => rfl
  | cons submission submissions ih =>
    obtain ⟨hhead, htail⟩ := List.forall_mem_cons.mp h
    rw [List.flatMap_cons, List.append_assoc, List.singleton_append, lines_append,
      lines_singleton (Submission.line_no_feed hhead.dataHex), ih htail]
    rfl

theorem IsNumber.ne_nil {text : List Char} {n : ℕ} (h : IsNumber text n) : text ≠ [] := by
  rintro rfl
  obtain ⟨digits, values, hdigits | hdigits, hne, -⟩ := h
  · exact hne hdigits.symm
  · cases hdigits

/-- A line starts with the delay, so that it is not skipped. -/
theorem Submission.Bounded.isData {submission : Submission} (h : submission.Bounded) :
    IsData submission.line := by
  have hne : formatInt 10 1 submission.delayUs ≠ [] := (isNumber_decimal h.delayUs).ne_nil
  obtain ⟨c, digits, heq⟩ := List.exists_cons_of_ne_nil hne
  have hplain : Plain (formatInt 10 1 submission.delayUs) :=
    plain_formatInt (by decide) (by decide) _
  rw [IsData, Submission.line, Submission.fields, List.intercalate_cons_cons]
  rw [heq] at hplain ⊢
  refine ⟨List.cons_ne_nil _ _, ?_⟩
  intro hhash
  exact (hplain c List.mem_cons_self).1 (Option.some.inj hhash)

/-- The lines that are not skipped are those of the submissions. -/
theorem dataLines_planText (h : ∀ submission ∈ submissions, submission.Bounded) :
    dataLines (planText submissions) = submissions.map Submission.line := by
  have hheader : dataLines (headerLine ++ ['\n']) = [] := by decide +kernel
  rw [dataLines, planText, lines_append, List.filter_append, lines_flatMap h]
  refine (congrArg (· ++ _) hheader).trans ?_
  rw [List.nil_append, List.filter_eq_self, List.forall_mem_map]
  intro submission hsubmission
  exact decide_eq_true (h submission hsubmission).isData

end Text

/-! ## What the script retains -/

section Retain

variable {python : Python}

theorem delaySince_nonneg {previousTime : Option python.Float} {time : python.Float} {delayUs : ℤ}
    (h : delaySince python previousTime time = .ok delayUs) : 0 ≤ delayUs := by
  cases previousTime with
  | none =>
    cases h
    exact Int.le_refl 0
  | some previousTime =>
    rw [delaySince] at h
    cases hrounded : python.roundedUs time previousTime with
    | none =>
      rw [hrounded] at h
      cases h
    | some rounded =>
      rw [hrounded] at h
      cases h
      exact Int.le_max_left 0 rounded

theorem extractRow_extracted {previousTime : Option python.Float} {row : TsharkRow}
    {submission : Submission} {time : python.Float}
    (h : extractRow python previousTime row = .ok (.retained submission time)) :
    submission.Extracted := by
  rw [extractRow] at h
  obtain ⟨frame, -, h⟩ := exists_of_bind_ok h
  obtain ⟨now, -, h⟩ := exists_of_bind_ok h
  obtain ⟨requestType, -, h⟩ := exists_of_bind_ok h
  obtain ⟨request, -, h⟩ := exists_of_bind_ok h
  -- a selection has its operands from the table, anything else from the capture
  by_cases hselection : request = 11
  · rw [if_pos hselection] at h
    cases hknown : knownSetInterface frame with
    | none =>
      rw [hknown] at h
      cases h
    | some setting =>
      simp only [hknown] at h
      split_ifs at h with hinterface
      · cases h
      · obtain ⟨delayUs, hdelay, h⟩ := exists_of_bind_ok h
        cases h
        refine ⟨delaySince_nonneg hdelay, fun _ => ⟨rfl, rfl⟩, ?_⟩
        intro hother
        exact absurd (hselection.symm.trans hother) (by decide)
  rw [if_neg hselection] at h
  by_cases hvendor : request = 136
  · rw [if_pos hvendor] at h
    by_cases htype : requestType ≠ 0x40 ∧ requestType ≠ 0xc0
    · rw [if_pos htype] at h
      cases h
    rw [if_neg htype] at h
    obtain ⟨value, -, h⟩ := exists_of_bind_ok h
    obtain ⟨index, -, h⟩ := exists_of_bind_ok h
    obtain ⟨length, -, h⟩ := exists_of_bind_ok h
    by_cases hpayload : requestType = 0x40 ∧ (row.dataHex.length : ℤ) ≠ length * 2
    · rw [if_pos hpayload] at h
      cases h
    rw [if_neg hpayload] at h
    obtain ⟨delayUs, hdelay, h⟩ := exists_of_bind_ok h
    cases h
    refine ⟨delaySince_nonneg hdelay, ?_, fun _ hread => if_neg hread⟩
    intro hother
    exact absurd (hvendor.symm.trans hother) (by decide)
  · rw [if_neg hvendor] at h
    cases h

/-- What holds of the submission of each row holds of all of them. -/
theorem retain_extracted {previousTime : Option python.Float} {rows : List TsharkRow}
    {submissions : List Submission} {skipped : ℕ}
    (h : retain python previousTime rows = .ok (submissions, skipped)) :
    ∀ submission ∈ submissions, submission.Extracted := by
  induction rows generalizing previousTime submissions skipped with
  | nil =>
    cases h
    intro submission hsubmission
    cases hsubmission
  | cons row rows ih =>
    rw [retain] at h
    obtain ⟨outcome, houtcome, h⟩ := exists_of_bind_ok h
    cases outcome with
    | retained submission time =>
      obtain ⟨⟨rest, count⟩, hrest, h⟩ := exists_of_bind_ok h
      cases h
      exact List.forall_mem_cons.mpr ⟨extractRow_extracted houtcome, ih hrest⟩
    | skipped =>
      obtain ⟨⟨rest, count⟩, hrest, h⟩ := exists_of_bind_ok h
      cases h
      exact ih hrest
    | ignored => exact ih h

end Retain

/-! ## Extractor and parser -/

section Agreement

variable {hexDecode : HexDecoder} {python : Python} {submissions : List Submission}

/-- The text of supported submissions is accepted, unless a write has an empty
payload. -/
theorem planText_succeeds_iff (hdecode : ReadsHex hexDecode)
    (hextracted : ∀ submission ∈ submissions, submission.Extracted)
    (hbounded : ∀ submission ∈ submissions, submission.Bounded)
    (hsupported : ∀ submission ∈ submissions, submission.Supported) :
    (∃ plan, parseInitPlan hexDecode (planText submissions) = .ok plan) ↔
      ∀ submission ∈ submissions, submission.requestType = 0x40 → submission.length ≠ 0 := by
  rw [parseInitPlan_succeeds_iff hdecode, ← forall_dataLines (P := fun row =>
    ∀ check ∈ lineChecks, Passes row check), dataLines_planText hbounded, List.forall_mem_map]
  refine forall₂_congr fun submission hsubmission => ?_
  exact (hsupported submission hsubmission).passes_iff (hbounded submission hsubmission)
    (hextracted submission hsubmission)

/-- The operations of an accepted text are those of its submissions. -/
theorem corresponds_of_planText (hdecode : ReadsHex hexDecode)
    (hbounded : ∀ submission ∈ submissions, submission.Bounded)
    (hsupported : ∀ submission ∈ submissions, submission.Supported) {plan : List InitOp}
    (h : parseInitPlan hexDecode (planText submissions) = .ok plan) :
    List.Forall₂ Corresponds submissions plan := by
  have hkinds := sameKind_of_parseInitPlan hdecode h
  have hsent := forall₂_unaltered_iff h
  rw [dataLines_planText hbounded, List.forall₂_map_left_iff] at hkinds hsent
  clear h
  induction hkinds with
  | nil => exact .nil
  | cons hkind hkinds ih =>
    rw [List.forall₂_cons] at hsent
    rw [List.forall_mem_cons] at hbounded hsupported
    refine .cons ?_ (ih hbounded.2 hsupported.2 hsent.2)
    exact hbounded.1.corresponds hdecode hkind (hsent.1.mpr (hsupported.1.fits hbounded.1))

/-- **Extractor and parser.** The text that the script writes for supported
submissions, at most ten seconds apart, is parsed into the corresponding
operations exactly if no write among them has an empty payload. -/
theorem extract_parsed_iff (hdecode : ReadsHex hexDecode) {rows : List TsharkRow} {skipped : ℕ}
    (h : retain python none rows = .ok (submissions, skipped))
    (hdelay : ∀ submission ∈ submissions, submission.delayUs ≤ 10000000)
    (hsupported : ∀ submission ∈ submissions, submission.Supported) :
    ∃ text, extractSonyInit python rows = .ok (text, submissions.length, skipped) ∧
      ((∃ plan, parseInitPlan hexDecode text = .ok plan ∧
          List.Forall₂ Corresponds submissions plan) ↔
        ∀ submission ∈ submissions, submission.requestType = 0x40 → submission.length ≠ 0) := by
  have hextracted := retain_extracted h
  have hbounded : ∀ submission ∈ submissions, submission.Bounded := fun submission hsubmission =>
    (hsupported submission hsubmission).bounded (hextracted submission hsubmission)
      (hdelay submission hsubmission)
  refine ⟨planText submissions, by rw [extractSonyInit, h]; rfl, ?_⟩
  rw [← planText_succeeds_iff hdecode hextracted hbounded hsupported]
  constructor
  · rintro ⟨plan, hplan, -⟩
    exact ⟨plan, hplan⟩
  · rintro ⟨plan, hplan⟩
    exact ⟨plan, hplan, corresponds_of_planText hdecode hbounded hsupported hplan⟩

/-- Python on unsigned numbers and whole seconds. -/
def wholeSeconds : Python where
  Float := ℤ
  parseInt text := (parseU64 0 "" text).toOption.map fun n => n.toNat
  parseFloat text := (fromStrRadix text 10).map fun n => n.toNat
  roundedUs time previousTime := some ((time - previousTime) * 1000000)

/-- A write to the scale-factor register, and the selection of the video setting. -/
def twoRows : List TsharkRow :=
  [⟨"7".toList, "1".toList, "0x40".toList, "136".toList, "0".toList, "0x7c".toList, "1".toList,
      "50".toList⟩,
    ⟨"4240".toList, "3".toList, "0x01".toList, "11".toList, [], [], [], []⟩]

/-- The submissions of the two rows. -/
def twoSubmissions : List Submission :=
  [⟨0, 0x40, 136, 0, 0x7c, 1, "50".toList, 7⟩, ⟨2000000, 0x01, 11, 7, 0, 0, ['-'], 4240⟩]

theorem extract_parsed_iff_twoRows :
    ∃ text, extractSonyInit wholeSeconds twoRows = .ok (text, 2, 0) ∧
      ∃ plan, parseInitPlan decodeHex text = .ok plan ∧
        List.Forall₂ Corresponds twoSubmissions plan := by
  have hsupported : ∀ submission ∈ twoSubmissions, submission.Supported := by
    simp only [twoSubmissions, List.forall_mem_cons]
    refine ⟨.write rfl rfl (by decide) (by decide) (by decide)
        (by decide : hexBytes "50".toList = some [0x50]) rfl,
      .selection rfl rfl rfl (by decide), ?_⟩
    intro submission hsubmission
    cases hsubmission
  obtain ⟨text, htext, hparsed⟩ := extract_parsed_iff readsHex_decodeHex
    (by decide +kernel : retain wholeSeconds none twoRows = .ok (twoSubmissions, 0)) (by decide)
    hsupported
  exact ⟨text, htext, hparsed.mpr (by decide)⟩

/-- A write without payload. -/
def emptyWriteRow : TsharkRow :=
  ⟨"7".toList, "1".toList, "0x40".toList, "136".toList, "1".toList, "0x7c".toList, "0".toList, []⟩

/-- The payload of an empty write is written as `-`, which is no hexadecimal. -/
theorem extract_emptyWrite :
    ∃ submission text, retain wholeSeconds none [emptyWriteRow] = .ok ([submission], 0) ∧
      submission.Supported ∧ submission.delayUs ≤ 10000000 ∧
      extractSonyInit wholeSeconds [emptyWriteRow] = .ok (text, 1, 0) ∧
      parseInitPlan decodeHex text = .error (.invalidHex 2 "Odd number of digits") := by
  refine ⟨⟨0, 0x40, 136, 1, 0x7c, 0, [], 7⟩, planText [⟨0, 0x40, 136, 1, 0x7c, 0, [], 7⟩],
    by decide +kernel, ?_, by decide, by decide +kernel, by decide +kernel⟩
  exact .write rfl rfl (by decide) (by decide) (by decide) (by decide : hexBytes [] = some []) rfl

end Agreement

end Handycam
