import Mathlib
import Handycam.InitPlan
import Handycam.Validation

/-!
# The grammar of initialization plans

What a plan text has to be, said without the parser. A number is a numeral in
base ten, or in base sixteen after `0x`; a line is checked field by field, and
then for its request and its payload. `parseInitPlan` accepts a text exactly if
every line passes its checks, and otherwise reports the first check that the
first defective line fails.
-/

namespace Handycam

/-! ## Numbers -/

/-- A text of digits, perhaps after a sign, that stands for a number of 64
bits. -/
def IsNumeral (radix : ℕ) (text : List Char) (n : ℕ) : Prop :=
  ∃ digits values, (text = digits ∨ text = '+' :: digits) ∧ digits ≠ [] ∧
    digits.mapM (toDigit radix) = some values ∧ Nat.ofDigits radix values.reverse = n ∧ n < 2 ^ 64

/-- A decimal numeral, or a hexadecimal one after `0x`. -/
def IsNumber (text : List Char) (n : ℕ) : Prop :=
  match text with
  | '0' :: 'x' :: digits => IsNumeral 16 digits n
  | _ => IsNumeral 10 text n

theorem foldl_digits (radix v : ℕ) (values : List ℕ) :
    values.foldl (fun v digit => v * radix + digit) v =
      v * radix ^ values.length + Nat.ofDigits radix values.reverse := by
  induction values generalizing v with
  | nil => simp
  | cons value values ih =>
    rw [List.foldl_cons, ih, List.reverse_cons, Nat.ofDigits_append, Nat.ofDigits_singleton,
      List.length_reverse, List.length_cons]
    ring

/-- Digits are appended until one is none, or the number has too many bits. -/
theorem foldlM_pushDigit {radix v : ℕ} (hradix : 0 < radix) (hv : v < 2 ^ 64)
    (digits : List Char) (n : ℕ) :
    digits.foldlM (pushDigit radix) v = some n ↔
      ∃ values, digits.mapM (toDigit radix) = some values ∧
        values.foldl (fun v digit => v * radix + digit) v = n ∧ n < 2 ^ 64 := by
  induction digits generalizing v with
  | nil =>
    constructor
    · intro h
      obtain rfl := Option.some.inj h
      exact ⟨[], rfl, rfl, hv⟩
    · rintro ⟨values, hvalues, hn, -⟩
      obtain rfl := Option.some.inj hvalues
      rw [← hn]
      rfl
  | cons digit digits ih =>
    rw [List.foldlM_cons, List.mapM_cons]
    cases hdigit : toDigit radix digit with
    | none => simp [pushDigit, hdigit]
    | some value =>
      by_cases hnext : v * radix + value < 2 ^ 64
      · have hpush : pushDigit radix v digit = some (v * radix + value) := by
          simp only [pushDigit, hdigit, Option.bind_eq_bind, Option.bind_some, if_pos hnext]
        rw [hpush]
        refine (ih hnext).trans ?_
        cases digits.mapM (toDigit radix) with
        | none => simp
        | some values => simp
      · have hpush : pushDigit radix v digit = none := by
          simp only [pushDigit, hdigit, Option.bind_eq_bind, Option.bind_some, if_neg hnext]
        rw [hpush]
        -- what is too large already does not get smaller
        have hgrows : ∀ values : List ℕ, v * radix + value ≤
            values.foldl (fun v digit => v * radix + digit) (v * radix + value) := by
          intro values
          rw [foldl_digits]
          have hpow : 0 < radix ^ values.length := Nat.pow_pos hradix
          have hmul := Nat.le_mul_of_pos_right (v * radix + value) hpow
          omega
        constructor
        · intro h
          cases h
        · rintro ⟨values, hvalues, hn, hlt⟩
          cases htail : digits.mapM (toDigit radix) with
          | none => simp [htail] at hvalues
          | some rest =>
            have hcons : value :: rest = values := by simpa [htail] using hvalues
            have hge := hgrows rest
            rw [← hcons, List.foldl_cons] at hn
            omega

theorem toDigit_plus (radix : ℕ) : toDigit radix '+' = none := rfl

/-- `from_str_radix` reads numerals, and nothing else. -/
theorem fromStrRadix_eq_some_iff {radix : ℕ} (hradix : 0 < radix) (text : List Char) (n : UInt64) :
    fromStrRadix text radix = some n ↔ IsNumeral radix text n.toNat := by
  -- what is left after the sign is read digit by digit
  have hread : ∀ digits : List Char,
      (if digits = [] then none else (digits.foldlM (pushDigit radix) 0).map UInt64.ofNat) =
          some n ↔
        digits ≠ [] ∧ ∃ values, digits.mapM (toDigit radix) = some values ∧
          Nat.ofDigits radix values.reverse = n.toNat ∧ n.toNat < 2 ^ 64 := by
    intro digits
    by_cases hempty : digits = []
    · simp [hempty]
    · rw [if_neg hempty, Option.map_eq_some_iff]
      simp only [foldlM_pushDigit hradix (by decide : 0 < 2 ^ 64), foldl_digits, Nat.zero_mul,
        Nat.zero_add]
      constructor
      · rintro ⟨m, ⟨values, hvalues, hm, hlt⟩, rfl⟩
        rw [UInt64.toNat_ofNat_of_lt' hlt]
        exact ⟨hempty, values, hvalues, hm, hlt⟩
      · rintro ⟨-, values, hvalues, hm, hlt⟩
        exact ⟨n.toNat, ⟨values, hvalues, hm, hlt⟩, UInt64.ofNat_toNat⟩
  by_cases hplus : ∃ rest, text = '+' :: rest
  · obtain ⟨rest, rfl⟩ := hplus
    refine (hread rest).trans ?_
    constructor
    · rintro ⟨hne, values, hvalues, hn, hlt⟩
      exact ⟨rest, values, .inr rfl, hne, hvalues, hn, hlt⟩
    · rintro ⟨digits, values, hdigits | hdigits, hne, hvalues, hn, hlt⟩
      · -- the sign itself is no digit
        rw [← hdigits, List.mapM_cons, toDigit_plus] at hvalues
        cases hvalues
      · obtain rfl := (List.cons.inj hdigits).2
        exact ⟨hne, values, hvalues, hn, hlt⟩
  · have hsame : fromStrRadix text radix =
        if text = [] then none else (text.foldlM (pushDigit radix) 0).map UInt64.ofNat := by
      rcases text with _ | ⟨c, rest⟩
      · rfl
      · have hc : c ≠ '+' := by
          rintro rfl
          exact hplus ⟨rest, rfl⟩
        simp [fromStrRadix, hc]
    rw [hsame, hread]
    constructor
    · rintro ⟨hne, values, hvalues, hn, hlt⟩
      exact ⟨text, values, .inl rfl, hne, hvalues, hn, hlt⟩
    · rintro ⟨digits, values, rfl | hdigits, hne, hvalues, hn, hlt⟩
      · exact ⟨hne, values, hvalues, hn, hlt⟩
      · exact absurd ⟨digits, hdigits⟩ hplus

/-- A number without the marker is decimal. -/
theorem isNumber_of_no_marker {text : List Char} {n : ℕ}
    (h : ∀ digits, text ≠ '0' :: 'x' :: digits) : IsNumber text n ↔ IsNumeral 10 text n := by
  unfold IsNumber
  split
  · next digits => exact absurd rfl (h digits)
  · exact Iff.rfl

theorem parseU64_marked (line : ℕ) (field : String) (digits : List Char) :
    parseU64 line field ('0' :: 'x' :: digits) =
      (fromStrRadix digits 16).elim (.error (.invalidNumber line field ('0' :: 'x' :: digits)))
        .ok := by
  rw [parseU64]
  cases fromStrRadix digits 16 <;> rfl

theorem parseU64_no_marker (line : ℕ) (field : String) {text : List Char}
    (h : ∀ digits, text ≠ '0' :: 'x' :: digits) :
    parseU64 line field text =
      (fromStrRadix text 10).elim (.error (.invalidNumber line field text)) .ok := by
  rw [parseU64.eq_2 _ _ _ h]
  cases fromStrRadix text 10 <;> rfl

theorem elim_eq_ok {α ε : Type} {parsed : Option α} {error : ε} {n : α} :
    parsed.elim (.error error) .ok = (.ok n : Except ε α) ↔ parsed = some n := by
  cases parsed <;> simp

theorem elim_eq_error {α ε : Type} {parsed : Option α} {error e : ε}
    (h : parsed.elim (.error error) .ok = (.error e : Except ε α)) : e = error := by
  cases parsed with
  | none => exact (Except.error.inj h).symm
  | some parsed => cases h

/-- `parse_u64` reads numbers, and nothing else. -/
theorem parseU64_eq_ok_iff (line : ℕ) (field : String) (text : List Char) (n : UInt64) :
    parseU64 line field text = .ok n ↔ IsNumber text n.toNat := by
  by_cases hmarker : ∃ digits, text = '0' :: 'x' :: digits
  · obtain ⟨digits, rfl⟩ := hmarker
    rw [parseU64_marked, elim_eq_ok]
    exact fromStrRadix_eq_some_iff (by decide : 0 < 16) digits n
  · have hdecimal : ∀ digits, text ≠ '0' :: 'x' :: digits := fun digits h => hmarker ⟨digits, h⟩
    rw [parseU64_no_marker line field hdecimal, elim_eq_ok, isNumber_of_no_marker hdecimal]
    exact fromStrRadix_eq_some_iff (by decide : 0 < 10) text n

theorem parseU64_error {line : ℕ} {field : String} {text : List Char} {e : InitPlanError}
    (h : parseU64 line field text = .error e) : e = .invalidNumber line field text := by
  by_cases hmarker : ∃ digits, text = '0' :: 'x' :: digits
  · obtain ⟨digits, rfl⟩ := hmarker
    rw [parseU64_marked] at h
    exact elim_eq_error h
  · rw [parseU64_no_marker line field fun digits h => hmarker ⟨digits, h⟩] at h
    exact elim_eq_error h

theorem IsNumber.lt {text : List Char} {n : ℕ} (h : IsNumber text n) : n < 2 ^ 64 := by
  have hlt : ∀ {radix : ℕ} {digits : List Char}, IsNumeral radix digits n → n < 2 ^ 64 := by
    rintro radix digits ⟨_, _, -, -, -, -, hlt⟩
    exact hlt
  unfold IsNumber at h
  split at h
  · exact hlt h
  · exact hlt h

/-- A text stands for one number at most. -/
theorem IsNumber.unique {text : List Char} {n m : ℕ} (hn : IsNumber text n)
    (hm : IsNumber text m) : n = m := by
  have hparsed : ∀ {k : ℕ}, IsNumber text k → parseU64 0 "" text = .ok (UInt64.ofNat k) := by
    intro k hk
    refine (parseU64_eq_ok_iff 0 "" text _).mpr ?_
    rwa [UInt64.toNat_ofNat_of_lt' hk.lt]
  have hsame := (hparsed hn).symm.trans (hparsed hm)
  rw [← UInt64.toNat_ofNat_of_lt' hn.lt, Except.ok.inj hsame, UInt64.toNat_ofNat_of_lt' hm.lt]

theorem IsNumber.iff_eq {text : List Char} {n m : ℕ} (h : IsNumber text n) :
    IsNumber text m ↔ n = m := by
  constructor
  · exact h.unique
  · rintro rfl
    exact h

/-! ## Lines -/

/-- A field of a line. -/
def field (row : List Char) (place : ℕ) : List Char := (row.splitOn '\t').getD place []

/-- A column of numbers. -/
structure Column where
  /-- its name -/
  name : String
  /-- its place on the line -/
  place : ℕ
  /-- its largest number -/
  maximum : ℕ

/-- The columns of numbers, from left to right. -/
def columns : List Column :=
  [⟨"delay_us", 0, 10000000⟩, ⟨"bmRequestType", 1, 255⟩, ⟨"bRequest", 2, 255⟩,
    ⟨"wValue", 3, 65535⟩, ⟨"wIndex", 4, 65535⟩, ⟨"wLength", 5, 64⟩]

/-- A vendor read. -/
def IsRead (row : List Char) : Prop := IsNumber (field row 1) 0xc0 ∧ IsNumber (field row 2) 0x88

/-- A vendor write. -/
def IsWrite (row : List Char) : Prop := IsNumber (field row 1) 0x40 ∧ IsNumber (field row 2) 0x88

/-- The selection of an alternate setting of the first interface. -/
def IsSelection (row : List Char) : Prop :=
  IsNumber (field row 1) 0x01 ∧ IsNumber (field row 2) 0x0b ∧ IsNumber (field row 4) 0 ∧
    IsNumber (field row 5) 0

/-- Bytes as pairs of hexadecimal digits. -/
def hexBytes : List Char → Option (List UInt8)
  | [] => some []
  | [_] => none
  | high :: low :: text => do
    let high ← toDigit 16 high
    let low ← toDigit 16 low
    let bytes ← hexBytes text
    return UInt8.ofNat (16 * high + low) :: bytes

/-- What is checked about a line. -/
inductive LineCheck where
  /-- the line has eight fields -/
  | fieldCount
  /-- the column has a number in its range -/
  | number (column : Column)
  /-- the request is a supported one -/
  | request
  /-- the payload of a write is hexadecimal -/
  | payloadHex
  /-- the payload of a write has the length that the line says -/
  | payloadLength

/-- The checks in their order. -/
def lineChecks : List LineCheck :=
  .fieldCount :: columns.map .number ++ [.request, .payloadHex, .payloadLength]

/-- A line passes a check. -/
def Passes (row : List Char) : LineCheck → Prop
  | .fieldCount => (row.splitOn '\t').length = 8
  | .number column => ∃ n ≤ column.maximum, IsNumber (field row column.place) n
  | .request => IsRead row ∨ IsWrite row ∨ IsSelection row
  | .payloadHex => IsWrite row → ∃ bytes, hexBytes (field row 6) = some bytes
  | .payloadLength => IsWrite row →
    ∀ bytes, hexBytes (field row 6) = some bytes → IsNumber (field row 5) bytes.length

/-- The error that reports a failed check. -/
inductive ReportsCheck (hexDecode : HexDecoder) (line : ℕ) (row : List Char) :
    LineCheck → InitPlanError → Prop
  /-- the number of fields -/
  | fieldCount : ReportsCheck hexDecode line row .fieldCount
    (.fieldCount line (row.splitOn '\t').length)
  /-- the column and its text -/
  | number (column : Column) : ReportsCheck hexDecode line row (.number column)
    (.invalidNumber line column.name (field row column.place))
  /-- the type of the request, and the request -/
  | request {requestType request : UInt8} (htype : IsNumber (field row 1) requestType.toNat)
    (hrequest : IsNumber (field row 2) request.toNat) : ReportsCheck hexDecode line row .request
      (.unsupported line requestType request)
  /-- the error of the decoder -/
  | payloadHex {source : String} (hsource : hexDecode (field row 6) = .error source) :
    ReportsCheck hexDecode line row .payloadHex (.invalidHex line source)
  /-- the two lengths -/
  | payloadLength {expected : ℕ} {bytes : List UInt8} (hexpected : IsNumber (field row 5) expected)
    (hbytes : hexBytes (field row 6) = some bytes) : ReportsCheck hexDecode line row .payloadLength
      (.payloadLength line expected bytes.length)

/-- The decoder reads pairs of hexadecimal digits. -/
def ReadsHex (hexDecode : HexDecoder) : Prop := ∀ text, (hexDecode text).toOption = hexBytes text

/-! ## Reading a line -/

/-- The numbers of a row are those on the line. -/
structure Reads (row : List Char) (numbers : PlanRow) : Prop where
  /-- the first column -/
  delayUs : IsNumber (field row 0) numbers.delayUs.toNat
  /-- the second column -/
  requestType : IsNumber (field row 1) numbers.requestType.toNat
  /-- the third column -/
  request : IsNumber (field row 2) numbers.request.toNat
  /-- the fourth column -/
  value : IsNumber (field row 3) numbers.value.toNat
  /-- the fifth column -/
  index : IsNumber (field row 4) numbers.index.toNat
  /-- the sixth column -/
  length : IsNumber (field row 5) numbers.length
  /-- the seventh column -/
  payload : numbers.payload = field row 6

theorem toNat_toUInt8 {n : UInt64} (h : n ≤ 0xff) : n.toUInt8.toNat = n.toNat := by
  have hle : n.toNat ≤ 0xff := h
  rw [UInt64.toNat_toUInt8]
  omega

theorem toNat_toUInt16 {n : UInt64} (h : n ≤ 0xffff) : n.toUInt16.toNat = n.toNat := by
  have hle : n.toNat ≤ 0xffff := h
  rw [UInt64.toNat_toUInt16]
  omega

section Kinds

variable {row : List Char} {numbers : PlanRow}

theorem Reads.requestType_iff (h : Reads row numbers) (requestType : UInt8) :
    IsNumber (field row 1) requestType.toNat ↔ numbers.requestType = requestType :=
  h.requestType.iff_eq.trans UInt8.toNat_inj

theorem Reads.request_iff (h : Reads row numbers) (request : UInt8) :
    IsNumber (field row 2) request.toNat ↔ numbers.request = request :=
  h.request.iff_eq.trans UInt8.toNat_inj

theorem Reads.index_iff (h : Reads row numbers) (index : UInt16) :
    IsNumber (field row 4) index.toNat ↔ numbers.index = index :=
  h.index.iff_eq.trans UInt16.toNat_inj

theorem Reads.isRead_iff (h : Reads row numbers) :
    IsRead row ↔ numbers.requestType = 0xc0 ∧ numbers.request = 0x88 :=
  and_congr (h.requestType_iff 0xc0) (h.request_iff 0x88)

theorem Reads.isWrite_iff (h : Reads row numbers) :
    IsWrite row ↔ numbers.requestType = 0x40 ∧ numbers.request = 0x88 :=
  and_congr (h.requestType_iff 0x40) (h.request_iff 0x88)

theorem Reads.isSelection_iff (h : Reads row numbers) :
    IsSelection row ↔ numbers.requestType = 0x01 ∧ numbers.request = 0x0b ∧ numbers.index = 0 ∧
      numbers.length = 0 :=
  and_congr (h.requestType_iff 0x01) (and_congr (h.request_iff 0x0b)
    (and_congr (h.index_iff 0) h.length.iff_eq))

end Kinds

section Line

variable {hexDecode : HexDecoder} {line : ℕ} {row : List Char}

/-- `parse_bounded` makes one check. -/
theorem parseBounded_validates (column : Column) {maximum : UInt64}
    (hmaximum : maximum.toNat = column.maximum) :
    Validates (Passes row) (ReportsCheck hexDecode line row) [.number column]
      (parseBounded line column.name (field row column.place) maximum)
      fun parsed => IsNumber (field row column.place) parsed.val.toNat := by
  rw [parseBounded]
  cases hparsed : parseU64 line column.name (field row column.place) with
  | error e =>
    rw [parseU64_error hparsed]
    refine .error (.singleton ?_) (.number column)
    rintro ⟨n, -, hn⟩
    rw [← UInt64.toNat_ofNat_of_lt' hn.lt] at hn
    rw [(parseU64_eq_ok_iff line column.name _ _).mpr hn] at hparsed
    cases hparsed
  | ok parsed =>
    have hnumber := (parseU64_eq_ok_iff line column.name _ _).mp hparsed
    by_cases hle : parsed ≤ maximum
    · simp only [bind, Except.bind, dif_pos hle, pure, Except.pure]
      refine .ok ?_ hnumber
      intro check hcheck
      obtain rfl := List.mem_singleton.mp hcheck
      exact ⟨parsed.toNat, hmaximum ▸ hle, hnumber⟩
    · simp only [bind, Except.bind, dif_neg hle]
      refine .error (.singleton ?_) (.number column)
      rintro ⟨n, hmax, hn⟩
      rw [hn.unique hnumber] at hmax
      exact hle (UInt64.le_iff_toNat_le.mpr (hmaximum ▸ hmax))

/-- `parse_init_plan` counts the fields, and reads the numbers from left to
right. -/
theorem parseFields_validates :
    Validates (Passes row) (ReportsCheck hexDecode line row) (.fieldCount :: columns.map .number)
      (parseFields line row) (Reads row) := by
  unfold parseFields
  split
  · next delay requestType request value index length payload last hfields =>
    have hcount : ∀ check ∈ [LineCheck.fieldCount], Passes row check := by
      intro check hcheck
      obtain rfl := List.mem_singleton.mp hcheck
      exact congrArg List.length hfields
    have hcolumn : ∀ {name place text maximum number}, field row place = text →
        maximum.toNat = number →
        Validates (Passes row) (ReportsCheck hexDecode line row) [.number ⟨name, place, number⟩]
          (parseBounded line name text maximum)
          fun parsed => IsNumber (field row place) parsed.val.toNat := by
      rintro name place text maximum number rfl hmaximum
      exact parseBounded_validates ⟨name, place, number⟩ hmaximum
    have hfield : ∀ place, field row place =
        [delay, requestType, request, value, index, length, payload, last].getD place [] := by
      intro place
      rw [field, hfields]
    refine Validates.after ?_ hcount
    refine (hcolumn (hfield 0) rfl).bind fun delayUs hdelayUs => ?_
    refine (hcolumn (hfield 1) rfl).bind fun requestType hrequestType => ?_
    refine (hcolumn (hfield 2) rfl).bind fun request hrequest => ?_
    refine (hcolumn (hfield 3) rfl).bind fun value hvalue => ?_
    refine (hcolumn (hfield 4) rfl).bind fun index hindex => ?_
    refine (hcolumn (hfield 5) rfl).bind fun length hlength => ?_
    refine .ok (by simp) ?_
    -- the numbers fit, so that narrowing keeps them
    exact {
      delayUs := hdelayUs
      requestType := by rwa [toNat_toUInt8 requestType.property]
      request := by rwa [toNat_toUInt8 request.property]
      value := by rwa [toNat_toUInt16 value.property]
      index := by rwa [toNat_toUInt16 index.property]
      length := hlength
      payload := (hfield 6).symm }
  · next fields hfields =>
    refine .error (.append (.singleton ?_) _) .fieldCount
    intro hcount
    refine hfields (field row 0) (field row 1) (field row 2) (field row 3) (field row 4)
      (field row 5) (field row 6) (field row 7) (List.ext_getElem hcount ?_)
    intro place hplace hbound
    rw [← List.getD_eq_getElem _ [] hplace]
    have hlt : place < 8 := hbound
    interval_cases place <;> rfl

/-- The operation is of the kind of the line. -/
def SameKind (row : List Char) : InitOp → Prop
  | .controlIn .. => IsRead row
  | .controlOut .. => IsWrite row
  | .setInterface .. => IsSelection row

/-- Only a write has its payload checked. -/
theorem passes_of_not_isWrite (hrequest : Passes row .request) (hwrite : ¬ IsWrite row) :
    ∀ check ∈ [LineCheck.request, .payloadHex, .payloadLength], Passes row check := by
  simp only [List.forall_mem_cons]
  refine ⟨hrequest, fun h => absurd h hwrite, fun h => absurd h hwrite, ?_⟩
  intro check hcheck
  cases hcheck

/-- `parse_init_plan` looks at the request, and then at the payload of a write. -/
theorem operation_validates (hdecode : ReadsHex hexDecode) {numbers : PlanRow}
    (hreads : Reads row numbers) :
    Validates (Passes row) (ReportsCheck hexDecode line row)
      [.request, .payloadHex, .payloadLength] (numbers.operation hexDecode line) (SameKind row) := by
  rw [PlanRow.operation]
  split_ifs with hselection hread hwrite
  · have hkind := hreads.isSelection_iff.mpr hselection
    refine .ok (passes_of_not_isWrite (.inr (.inr hkind)) ?_) hkind
    intro hwrite
    have hne := (hreads.isWrite_iff.mp hwrite).1.symm.trans hselection.1
    cases hne
  · have hkind := hreads.isRead_iff.mpr hread
    refine .ok (passes_of_not_isWrite (.inl hkind) ?_) hkind
    intro hwrite
    have hne := (hreads.isWrite_iff.mp hwrite).1.symm.trans hread.1
    cases hne
  · have hkind := hreads.isWrite_iff.mpr hwrite
    have hrequest : Passes row .request := .inr (.inl hkind)
    have hbytes := hdecode (field row 6)
    rw [hreads.payload]
    cases hpayload : hexDecode (field row 6) with
    | error source =>
      -- the request passes, the payload does not, and its length is not looked at
      rw [hpayload] at hbytes
      refine .error ⟨[.request], [.payloadLength], rfl, ?_, ?_⟩ (.payloadHex hpayload)
      · intro check hcheck
        obtain rfl := List.mem_singleton.mp hcheck
        exact hrequest
      · intro hpasses
        obtain ⟨bytes, hhex⟩ := hpasses hkind
        rw [hhex] at hbytes
        cases hbytes
    | ok data =>
      rw [hpayload] at hbytes
      have hhex : Passes row .payloadHex := fun _ => ⟨data, hbytes.symm⟩
      by_cases hlength : data.length = numbers.length
      · simp only [ne_eq, hlength, not_true_eq_false, if_false]
        refine .ok ?_ hkind
        simp only [List.forall_mem_cons]
        refine ⟨hrequest, hhex, ?_, fun check hcheck => by cases hcheck⟩
        intro _ bytes hsame
        obtain rfl := Option.some.inj (hbytes.trans hsame)
        rw [hlength]
        exact hreads.length
      · simp only [ne_eq, hlength, not_false_eq_true, if_true]
        refine .error ⟨[.request, .payloadHex], [], rfl, ?_, ?_⟩
          (.payloadLength hreads.length hbytes.symm)
        · simp only [List.forall_mem_cons]
          exact ⟨hrequest, hhex, fun check hcheck => by cases hcheck⟩
        · intro hpasses
          exact hlength ((hpasses hkind data hbytes.symm).unique hreads.length)
  · refine .error (.append (.singleton ?_) _) (.request hreads.requestType hreads.request)
    rintro (hkind | hkind | hkind)
    · exact hread (hreads.isRead_iff.mp hkind)
    · exact hwrite (hreads.isWrite_iff.mp hkind)
    · exact hselection (hreads.isSelection_iff.mp hkind)

/-- A line is parsed by making the checks in their order. -/
theorem parseRow_validates (hdecode : ReadsHex hexDecode) :
    Validates (Passes row) (ReportsCheck hexDecode line row) lineChecks
      (parseRow hexDecode line row) (SameKind row) :=
  parseFields_validates.bind fun _ hreads => operation_validates hdecode hreads

end Line

/-! ## Texts -/

/-- The lines that are not skipped. -/
def IsData (row : List Char) : Prop := row ≠ [] ∧ row.head? ≠ some '#'

instance : DecidablePred IsData := fun _ => instDecidableAnd

/-- The lines of a text that are not skipped. -/
def dataLines (text : List Char) : List (List Char) := (lines text).filter fun row => IsData row

theorem dataRows_eq (text : List Char) :
    dataRows text = ((lines text).zipIdx 1).filter fun entry => IsData entry.1 := rfl

theorem map_fst_dataRows (text : List Char) : (dataRows text).map Prod.fst = dataLines text := by
  rw [dataLines, ← List.zipIdx_map_fst 1 (lines text), List.filter_map]
  rfl

theorem forall_dataLines {text : List Char} {P : List Char → Prop} :
    (∀ row ∈ dataLines text, P row) ↔ ∀ row ∈ lines text, IsData row → P row := by
  simp only [dataLines, List.mem_filter, decide_eq_true_eq, and_imp]

theorem forall_dataRows {text : List Char} {P : List Char → Prop} :
    (∀ entry ∈ dataRows text, P entry.1) ↔ ∀ row ∈ lines text, IsData row → P row := by
  rw [← List.forall_mem_map, map_fst_dataRows, forall_dataLines]

/-- A row that is not skipped has its physical line number, and the rows before
it come from the lines before it. -/
theorem exists_of_dataRows_eq {text : List Char} {before after : List (List Char × ℕ)}
    {entry : List Char × ℕ} (h : dataRows text = before ++ entry :: after) :
    ∃ earlier later, lines text = earlier ++ entry.1 :: later ∧ entry.2 = earlier.length + 1 ∧
      IsData entry.1 ∧ ∀ row ∈ earlier, IsData row → row ∈ before.map Prod.fst := by
  obtain ⟨l₁, l₂, hsplit, hbefore, hrest⟩ := List.filter_eq_append_iff.mp h
  obtain ⟨l₃, l₄, hl₂, hskipped, hdata, -⟩ := List.filter_eq_cons_iff.mp hrest
  rw [hl₂, ← List.append_assoc] at hsplit
  obtain ⟨earlier, rest, hlines, hearlier, hlater⟩ := List.zipIdx_eq_append_iff.mp hsplit
  obtain ⟨row, later, rfl⟩ : ∃ row later, rest = row :: later := by
    cases rest with
    | nil => cases hlater
    | cons row later => exact ⟨row, later, rfl⟩
  rw [List.zipIdx_cons] at hlater
  obtain ⟨rfl, -⟩ := List.cons.inj hlater
  refine ⟨earlier, later, hlines, Nat.add_comm _ _, of_decide_eq_true hdata, ?_⟩
  intro row' hrow hrowData
  rw [← List.zipIdx_map_fst 1 earlier, ← hearlier] at hrow
  obtain ⟨entry', hentry, rfl⟩ := List.mem_map.mp hrow
  refine List.mem_map_of_mem ?_
  rcases List.mem_append.mp hentry with hentry | hentry
  · rw [← hbefore]
    exact List.mem_filter.mpr ⟨hentry, decide_eq_true hrowData⟩
  · exact absurd (decide_eq_true hrowData) (hskipped entry' hentry)

/-- A line feed ends the lines of a text. -/
theorem lines_append (first second : List Char) :
    lines (first ++ '\n' :: second) = lines (first ++ ['\n']) ++ lines second := by
  have hsecond : second.splitOn '\n' ≠ [] := List.splitOn_ne_nil _ _
  simp only [lines, List.splitOn_append_cons_self, List.splitOn_nil,
    List.dropLast_append_of_ne_nil hsecond, List.getLast?_append_of_ne_nil _ hsecond,
    List.map_append, List.append_assoc]
  simp

/-- An error on another line. -/
def InitPlanError.shift (count : ℕ) : InitPlanError → InitPlanError
  | .fieldCount line fields => .fieldCount (line + count) fields
  | .invalidNumber line field value => .invalidNumber (line + count) field value
  | .invalidHex line source => .invalidHex (line + count) source
  | .payloadLength line expected actual => .payloadLength (line + count) expected actual
  | .unsupported line requestType request => .unsupported (line + count) requestType request

section Shift

variable (hexDecode : HexDecoder) (line count : ℕ)

theorem parseBounded_shift (name : String) (text : List Char) (maximum : UInt64) :
    parseBounded (line + count) name text maximum =
      (parseBounded line name text maximum).mapError (InitPlanError.shift count) := by
  have hparsed : parseU64 (line + count) name text =
      (parseU64 line name text).mapError (InitPlanError.shift count) := by
    cases hfirst : parseU64 line name text with
    | ok parsed => exact (parseU64_eq_ok_iff _ _ _ _).mpr ((parseU64_eq_ok_iff _ _ _ _).mp hfirst)
    | error e =>
      rw [parseU64_error hfirst]
      cases hsecond : parseU64 (line + count) name text with
      | error e => rw [parseU64_error hsecond]; rfl
      | ok parsed =>
        rw [(parseU64_eq_ok_iff _ _ _ _).mpr ((parseU64_eq_ok_iff _ _ _ _).mp hsecond)] at hfirst
        cases hfirst
  rw [parseBounded, parseBounded, mapError_bind, hparsed]
  congr 1
  funext parsed
  split_ifs <;> rfl

/-- Parsing a row on another line moves its error. -/
theorem parseRow_shift (row : List Char) :
    parseRow hexDecode (line + count) row =
      (parseRow hexDecode line row).mapError (InitPlanError.shift count) := by
  rw [parseRow, parseRow, mapError_bind]
  have hfields : parseFields (line + count) row =
      (parseFields line row).mapError (InitPlanError.shift count) := by
    unfold parseFields
    split
    · simp only [mapError_bind, parseBounded_shift]
      rfl
    · rfl
  rw [hfields]
  congr 1
  funext numbers
  rw [PlanRow.operation, PlanRow.operation]
  split_ifs
  · rfl
  · rfl
  · cases hexDecode numbers.payload with
    | error source => rfl
    | ok data => simp only []; split_ifs <;> rfl
  · rfl

theorem dataRows_append (first second : List Char) :
    dataRows (first ++ '\n' :: second) = dataRows (first ++ ['\n']) ++
      (dataRows second).map (Prod.map id (· + (lines (first ++ ['\n'])).length)) := by
  rw [dataRows_eq, dataRows_eq, dataRows_eq, lines_append, List.zipIdx_append, List.filter_append,
    Nat.add_comm, ← List.map_snd_add_zipIdx_eq_zipIdx, List.filter_map]
  rfl

/-- **Plans compose.** After a text that ends a line, a second one is parsed on
its own, and its errors are counted from there. -/
theorem parseInitPlan_append (first second : List Char) :
    parseInitPlan hexDecode (first ++ '\n' :: second) = do
      let operations ← parseInitPlan hexDecode (first ++ ['\n'])
      let more ← (parseInitPlan hexDecode second).mapError
        (InitPlanError.shift (lines (first ++ ['\n'])).length)
      return operations ++ more := by
  have hsecond : ((dataRows second).map
      (Prod.map id (· + (lines (first ++ ['\n'])).length))).mapM
        (fun entry => parseRow hexDecode entry.2 entry.1) =
      (parseInitPlan hexDecode second).mapError
        (InitPlanError.shift (lines (first ++ ['\n'])).length) := by
    rw [parseInitPlan, mapError_mapM, List.mapM_map]
    simp only [← parseRow_shift]
    rfl
  change (dataRows _).mapM (fun entry => parseRow hexDecode entry.2 entry.1) = _
  rw [dataRows_append, List.mapM_append, hsecond]
  rfl

end Shift

/-! ## The grammar -/

section Grammar

variable {hexDecode : HexDecoder}

/-- What `parse_init_plan` says of a text, line by line. -/
theorem parseInitPlan_succeeds_iff (hdecode : ReadsHex hexDecode) (text : List Char) :
    (∃ plan, parseInitPlan hexDecode text = .ok plan) ↔
      ∀ row ∈ lines text, IsData row → ∀ check ∈ lineChecks, Passes row check := by
  rw [← forall_dataRows (P := fun row => ∀ check ∈ lineChecks, Passes row check)]
  refine mapM_succeeds_iff.trans (forall₂_congr fun entry _ => ?_)
  exact (parseRow_validates hdecode).succeeds_iff

/-- Operations and lines have the same kinds. -/
theorem sameKind_of_parseInitPlan (hdecode : ReadsHex hexDecode) {text : List Char}
    {plan : List InitOp} (h : parseInitPlan hexDecode text = .ok plan) :
    List.Forall₂ SameKind (dataLines text) plan := by
  rw [← map_fst_dataRows, List.forall₂_map_left_iff]
  refine (forall₂_of_mapM h).imp ?_
  intro entry operation hrow
  exact (parseRow_validates hdecode).of_ok hrow

/-- An error is about the first line that fails a check, and about the first
check that it fails. -/
theorem exists_of_parseInitPlan_error (hdecode : ReadsHex hexDecode) {text : List Char}
    {e : InitPlanError} (h : parseInitPlan hexDecode text = .error e) :
    ∃ before row after check, lines text = before ++ row :: after ∧ IsData row ∧
      (∀ earlier ∈ before, IsData earlier → ∀ check ∈ lineChecks, Passes earlier check) ∧
      FirstFailure (Passes row) lineChecks check ∧
      ReportsCheck hexDecode (before.length + 1) row check e := by
  obtain ⟨passed, entry, rest, hrows, hpassed, herror⟩ := exists_of_mapM_error h
  obtain ⟨before, after, hlines, hline, hdata, hbefore⟩ := exists_of_dataRows_eq hrows
  obtain ⟨check, hfirst, hreports⟩ := (parseRow_validates hdecode).of_error herror
  rw [hline] at hreports
  refine ⟨before, entry.1, after, check, hlines, hdata, ?_, hfirst, hreports⟩
  intro earlier hearlier hearlierData
  obtain ⟨entry', hentry, rfl⟩ := List.mem_map.mp (hbefore earlier hearlier hearlierData)
  exact (parseRow_validates hdecode).succeeds_iff.mp (hpassed entry' hentry)

/-- **The grammar of plans.** A text is accepted exactly if every line that is
not skipped passes every check, and then has one operation of the same kind for
each such line. Otherwise the error is about the first line that fails a check,
under its number in the whole text, and about the first check that it fails.
A text that ends in a line feed may be followed by another. -/
theorem parseInitPlan_grammar (hdecode : ReadsHex hexDecode) (text : List Char) :
    ((∃ plan, parseInitPlan hexDecode text = .ok plan) ↔
      ∀ row ∈ lines text, IsData row → ∀ check ∈ lineChecks, Passes row check) ∧
    (∀ plan, parseInitPlan hexDecode text = .ok plan →
      List.Forall₂ SameKind (dataLines text) plan) ∧
    (∀ e, parseInitPlan hexDecode text = .error e →
      ∃ before row after check, lines text = before ++ row :: after ∧ IsData row ∧
        (∀ earlier ∈ before, IsData earlier → ∀ check ∈ lineChecks, Passes earlier check) ∧
        FirstFailure (Passes row) lineChecks check ∧
        ReportsCheck hexDecode (before.length + 1) row check e) ∧
    (text.getLast? = some '\n' → ∀ second, parseInitPlan hexDecode (text ++ second) = do
      let operations ← parseInitPlan hexDecode text
      let more ← (parseInitPlan hexDecode second).mapError
        (InitPlanError.shift (lines text).length)
      return operations ++ more) := by
  refine ⟨parseInitPlan_succeeds_iff hdecode text, fun plan => sameKind_of_parseInitPlan hdecode,
    fun e => exists_of_parseInitPlan_error hdecode, ?_⟩
  intro hend second
  obtain ⟨first, rfl⟩ := List.getLast?_eq_some_iff.mp hend
  rw [List.append_assoc, List.singleton_append]
  exact parseInitPlan_append hexDecode first second

/-- Decoding of hexadecimal digits. -/
def decodeHex (text : List Char) : Except String (List UInt8) :=
  match hexBytes text with
  | some bytes => .ok bytes
  | none => .error (if text.length % 2 = 0 then "Invalid character" else "Odd number of digits")

theorem readsHex_decodeHex : ReadsHex decodeHex := by
  intro text
  rw [decodeHex]
  cases hexBytes text <;> rfl

/-- A comment, an empty line, a write, and a write whose payload is too short. -/
def shortPayloadText : List Char :=
  "# delay\n\n10\t0x40\t0x88\t0\t0x7c\t1\t50\ttrace\n0\t0x40\t0x88\t0\t0x7c\t2\t50\ttrace\n".toList

theorem parseInitPlan_grammar_shortPayload :
    parseInitPlan decodeHex shortPayloadText = .error (.payloadLength 4 2 1) ∧
      ∃ before row after check, lines shortPayloadText = before ++ row :: after ∧ IsData row ∧
        (∀ earlier ∈ before, IsData earlier → ∀ check ∈ lineChecks, Passes earlier check) ∧
        FirstFailure (Passes row) lineChecks check ∧
        ReportsCheck decodeHex (before.length + 1) row check (.payloadLength 4 2 1) := by
  have herror : parseInitPlan decodeHex shortPayloadText = .error (.payloadLength 4 2 1) := by
    decide +kernel
  exact ⟨herror, (parseInitPlan_grammar readsHex_decodeHex shortPayloadText).2.2.1 _ herror⟩

end Grammar

/-! ## The numbers that are sent -/

/-- The numbers on a line, from left to right. -/
def HasNumbers (row : List Char) (delayUs requestType request value index length : ℕ) : Prop :=
  IsNumber (field row 0) delayUs ∧ IsNumber (field row 1) requestType ∧
    IsNumber (field row 2) request ∧ IsNumber (field row 3) value ∧ IsNumber (field row 4) index ∧
    IsNumber (field row 5) length

/-- An operation sends the numbers and the payload that its line has. -/
def Unaltered (hexDecode : HexDecoder) (row : List Char) : InitOp → Prop
  | .controlIn delayUs requestType request value index length =>
    HasNumbers row delayUs.toNat requestType.toNat request.toNat value.toNat index.toNat
      length.toNat
  | .controlOut delayUs requestType request value index data =>
    HasNumbers row delayUs.toNat requestType.toNat request.toNat value.toNat index.toNat
      data.length ∧ hexDecode (field row 6) = .ok data
  | .setInterface delayUs interface alternate =>
    HasNumbers row delayUs.toNat 0x01 0x0b alternate.toNat interface.toNat 0

/-- The `wValue` of a selection fits into the alternate setting. -/
def Fits (row : List Char) : Prop :=
  IsSelection row → ∀ value, IsNumber (field row 3) value → value ≤ 255

section Unaltered

variable {hexDecode : HexDecoder} {line : ℕ} {row : List Char}

theorem Reads.hasNumbers {numbers : PlanRow} (h : Reads row numbers) :
    HasNumbers row numbers.delayUs.toNat numbers.requestType.toNat numbers.request.toNat
      numbers.value.toNat numbers.index.toNat numbers.length :=
  ⟨h.delayUs, h.requestType, h.request, h.value, h.index, h.length⟩

/-- The alternate setting is the low byte of `wValue`; nothing else is
narrowed below its bound. -/
theorem unaltered_iff_fits {numbers : PlanRow} {operation : InitOp} (hreads : Reads row numbers)
    (h : numbers.operation hexDecode line = .ok operation) :
    Unaltered hexDecode row operation ↔ Fits row := by
  have hnumbers := hreads.hasNumbers
  have hlength : (UInt16.ofNat numbers.length).toNat = numbers.length :=
    UInt16.toNat_ofNat_of_lt' numbers.length_lt
  rw [PlanRow.operation] at h
  split_ifs at h with hselection hread hwrite
  · have hkind := hreads.isSelection_iff.mpr hselection
    obtain ⟨htype, hrequest, hindex, hzero⟩ := hselection
    cases h
    have halternate : numbers.value.toUInt8.toNat = numbers.value.toNat % 2 ^ 8 :=
      UInt16.toNat_toUInt8 _
    constructor
    · rintro ⟨-, -, -, hvalue, -, -⟩ _ value hnumber
      rw [hnumber.unique hvalue]
      have hbyte := numbers.value.toUInt8.toNat_lt
      omega
    · intro hfits
      have hle := hfits hkind _ hreads.value
      have hsame : numbers.value.toUInt8.toNat = numbers.value.toNat := by omega
      rw [htype, hrequest, hindex, hzero] at hnumbers
      rw [Unaltered, hindex, hsame]
      exact hnumbers
  · cases h
    refine iff_of_true ?_ fun hkind => absurd (hreads.isSelection_iff.mp hkind) hselection
    rw [Unaltered, hlength]
    exact hnumbers
  · cases hdecode : hexDecode numbers.payload with
    | error source => simp [hdecode] at h
    | ok data =>
      simp only [hdecode] at h
      split_ifs at h with hdata
      cases h
      refine iff_of_true ?_ fun hkind => absurd (hreads.isSelection_iff.mp hkind) hselection
      rw [Unaltered, not_not.mp hdata, ← hreads.payload]
      exact ⟨hnumbers, hdecode⟩

/-- The numbers of a line that is read. -/
theorem reads_of_parseFields {numbers : PlanRow} (h : parseFields line row = .ok numbers) :
    Reads row numbers := by
  have hvalidates : Validates (Passes row) (ReportsCheck decodeHex line row)
      (.fieldCount :: columns.map .number) (parseFields line row) (Reads row) :=
    parseFields_validates
  exact hvalidates.of_ok h

theorem parseRow_unaltered_iff {operation : InitOp}
    (h : parseRow hexDecode line row = .ok operation) :
    Unaltered hexDecode row operation ↔ Fits row := by
  rw [parseRow] at h
  cases hfields : parseFields line row with
  | error e =>
    rw [hfields] at h
    cases h
  | ok numbers =>
    rw [hfields] at h
    exact unaltered_iff_fits (reads_of_parseFields hfields) h

/-- Every line of an accepted text has its operation. -/
theorem forall₂_unaltered_iff {text : List Char} {plan : List InitOp}
    (h : parseInitPlan hexDecode text = .ok plan) :
    List.Forall₂ (fun row operation => Unaltered hexDecode row operation ↔ Fits row)
      (dataLines text) plan := by
  rw [← map_fst_dataRows, List.forall₂_map_left_iff]
  exact (forall₂_of_mapM h).imp fun _ _ hrow => parseRow_unaltered_iff hrow

/-- **What is sent.** The operations of an accepted text send the numbers and
payloads of their lines exactly if the `wValue` of every selection fits into
the alternate setting. -/
theorem parseInitPlan_unaltered_iff {text : List Char} {plan : List InitOp}
    (h : parseInitPlan hexDecode text = .ok plan) :
    List.Forall₂ (Unaltered hexDecode) (dataLines text) plan ↔
      ∀ row ∈ lines text, IsData row → Fits row := by
  have hrows := forall₂_unaltered_iff h
  rw [← forall_dataLines]
  generalize dataLines text = rows at hrows
  clear h
  induction hrows with
  | nil => simp
  | cons hhead htail ih =>
    rw [List.forall₂_cons, List.forall_mem_cons]
    exact and_congr hhead ih

theorem parseInitPlan_unaltered_iff_selection :
    List.Forall₂ (Unaltered decodeHex) (dataLines "0\t1\t11\t7\t0\t0\t-\t".toList)
        [.setInterface 0 0 7] ↔
      ∀ row ∈ lines "0\t1\t11\t7\t0\t0\t-\t".toList, IsData row → Fits row :=
  parseInitPlan_unaltered_iff (by decide +kernel)

/-- The alternate setting 261 is not sent: the low byte of the number is 5. -/
theorem parseInitPlan_truncates :
    parseInitPlan decodeHex "0\t1\t11\t261\t0\t0\t-\t".toList = .ok [.setInterface 0 0 5] ∧
      ¬ List.Forall₂ (Unaltered decodeHex) (dataLines "0\t1\t11\t261\t0\t0\t-\t".toList)
        [.setInterface 0 0 5] := by
  refine ⟨by decide +kernel, ?_⟩
  have hline : dataLines "0\t1\t11\t261\t0\t0\t-\t".toList = ["0\t1\t11\t261\t0\t0\t-\t".toList] := by
    decide +kernel
  have hfield : field "0\t1\t11\t261\t0\t0\t-\t".toList 3 = "261".toList := by decide +kernel
  have hnumber : IsNumber "261".toList 261 :=
    (parseU64_eq_ok_iff 0 "" _ 261).mp (by decide +kernel)
  rw [hline, List.forall₂_cons]
  rintro ⟨⟨-, -, -, hvalue, -, -⟩, -⟩
  rw [hfield] at hvalue
  exact absurd (hnumber.unique hvalue) (by decide)

end Unaltered

end Handycam
