import Mathlib.Data.Nat.Log
import Mathlib.Tactic.Ring
import Handycam.Framing

/-!
# EBML

The container format under Matroska: a stream of elements, each with an ID,
the size of its payload, and the payload. ID and size are integers of variable
length, whose first byte tells how many bytes they have. The payload of a
master element is a stream of elements again.

* **numbers** — `bytesBE` and `valueBE`: big-endian bytes of a given width;
* **variable-length integers** — `readVint`, and the two uses `readId`, which
  keeps the length marker, and `readSize`, which removes it and knows the
  pattern for an unknown size; sizes are a prefix code (`sizeBytes_prefixFree`);
* **trees** — `readForest` reads a whole stream, given which IDs are masters,
  and `readForest_forestBytes` is the round trip: a forest is the only reading
  of its bytes.
-/

namespace Ebml

/-! ## Big-endian numbers -/

/-- The last `width` big-endian bytes of a number. -/
def bytesBE : ℕ → ℕ → List UInt8
  | 0, _ => []
  | width + 1, n => UInt8.ofNat (n / 256 ^ width) :: bytesBE width n

/-- The number with given big-endian bytes. -/
def valueBE (bytes : List UInt8) : ℕ := bytes.foldl (fun n byte => n * 256 + byte.toNat) 0

@[simp] theorem length_bytesBE (width n : ℕ) : (bytesBE width n).length = width := by
  induction width with
  | zero => rfl
  | succ width ih => simp [bytesBE, ih]

theorem foldl_valueBE (bytes : List UInt8) (n : ℕ) :
    bytes.foldl (fun n byte => n * 256 + byte.toNat) n =
      n * 256 ^ bytes.length + valueBE bytes := by
  induction bytes generalizing n with
  | nil => simp [valueBE]
  | cons byte bytes ih =>
    rw [valueBE, List.foldl_cons, List.foldl_cons, ih, ih, List.length_cons]
    ring

theorem valueBE_cons (byte : UInt8) (bytes : List UInt8) :
    valueBE (byte :: bytes) = byte.toNat * 256 ^ bytes.length + valueBE bytes := by
  rw [valueBE, List.foldl_cons, foldl_valueBE]
  simp

@[simp] theorem valueBE_bytesBE (width n : ℕ) : valueBE (bytesBE width n) = n % 256 ^ width := by
  induction width with
  | zero => simp [bytesBE, valueBE, Nat.mod_one]
  | succ width ih =>
    have hbyte : (UInt8.ofNat (n / 256 ^ width)).toNat = n / 256 ^ width % 256 :=
      UInt8.toNat_ofNat'
    rw [bytesBE, valueBE_cons, ih, length_bytesBE, hbyte, Nat.pow_succ, Nat.mod_mul,
      Nat.mul_comm, Nat.add_comm]

/-- Bytes beyond the length of a number do not matter. -/
theorem drop_bytesBE (extra width n : ℕ) : (bytesBE (width + extra) n).drop extra = bytesBE width n := by
  induction extra with
  | zero => rfl
  | succ extra ih => rw [← Nat.add_assoc, bytesBE, List.drop_succ_cons, ih]

/-- The first byte that is not zero, in a number that needs all of `width`
bytes and is written in more. -/
theorem findIdx?_bytesBE {width n : ℕ} (extra : ℕ) (hlow : 256 ^ width ≤ n)
    (hhigh : n < 256 ^ (width + 1)) :
    (bytesBE (width + 1 + extra) n).findIdx? (· != 0) = some extra := by
  have hpos : 0 < 256 ^ width := Nat.pow_pos (by decide)
  induction extra with
  | zero =>
    have hone : 1 ≤ n / 256 ^ width := (Nat.one_le_div_iff hpos).mpr hlow
    have hbyte : n / 256 ^ width < 256 := by
      rw [Nat.div_lt_iff_lt_mul hpos, Nat.mul_comm, ← Nat.pow_succ]
      exact hhigh
    have hne : UInt8.ofNat (n / 256 ^ width) ≠ 0 := by
      rw [Ne, ← UInt8.toNat_inj, UInt8.toNat_ofNat', UInt8.toNat_zero]
      omega
    simp [bytesBE, List.findIdx?_cons, hne]
  | succ extra ih =>
    have hzero : n / 256 ^ (width + 1 + extra) = 0 :=
      Nat.div_eq_of_lt (hhigh.trans_le (Nat.pow_le_pow_right (by decide) (Nat.le_add_right _ _)))
    have hhead : bytesBE (width + 1 + (extra + 1)) n = 0 :: bytesBE (width + 1 + extra) n := by
      rw [← Nat.add_assoc, bytesBE, hzero]
      rfl
    rw [hhead, List.findIdx?_cons, ih]
    rfl

/-- The bytes of a number without leading zeros; zero is one byte. -/
def minBytes (n : ℕ) : List UInt8 := bytesBE (Nat.log 256 n + 1) n

theorem lt_minBytes (n : ℕ) : n < 256 ^ (Nat.log 256 n + 1) :=
  Nat.lt_pow_succ_log_self (by decide) n

@[simp] theorem valueBE_minBytes (n : ℕ) : valueBE (minBytes n) = n := by
  rw [minBytes, valueBE_bytesBE, Nat.mod_eq_of_lt (lt_minBytes n)]

/-- Cutting the leading zeros off `width` bytes, but not the last one, leaves
the shortest bytes. -/
theorem drop_leadingZeros {width n : ℕ} (hn : n < 256 ^ (width + 1)) :
    (bytesBE (width + 1) n).drop (((bytesBE (width + 1) n).findIdx? (· != 0)).getD width) =
      minBytes n := by
  have hlog : Nat.log 256 n ≤ width := by
    rcases Nat.eq_zero_or_pos n with rfl | hpos
    · simp
    · exact Nat.le_of_lt_succ (Nat.log_lt_of_lt_pow hpos.ne' hn)
  obtain ⟨extra, rfl⟩ := Nat.exists_eq_add_of_le hlog
  have hwidth : Nat.log 256 n + extra + 1 = Nat.log 256 n + 1 + extra := by omega
  rw [hwidth]
  rcases Nat.eq_zero_or_pos n with hzero | hpos
  · have hnone : ∀ w, (bytesBE w 0).findIdx? (· != 0) = none := by
      intro w
      induction w with
      | zero => rfl
      | succ w ih => simp [bytesBE, List.findIdx?_cons, ih]
    subst hzero
    rw [hnone, Option.getD_none, minBytes, Nat.log_zero_right, Nat.zero_add, drop_bytesBE]
  · rw [findIdx?_bytesBE extra (Nat.pow_log_le_self 256 hpos.ne') (lt_minBytes n),
      Option.getD_some, drop_bytesBE, minBytes]

/-! ## Variable-length integers -/

/-- Read an integer whose first byte has as many leading zero bits as bytes
follow it: its width, its value with the marker bit, and the rest. -/
def readVint (stream : List UInt8) : Option ((ℕ × ℕ) × List UInt8) :=
  match stream with
  | [] => none
  | first :: _ =>
    let width := 8 - first.toNat.log2
    if first = 0 ∨ stream.length < width then none
    else some ((width, valueBE (stream.take width)), stream.drop width)

/-- The integers of a width: their marker is bit `7 * width`. -/
def Marked (width n : ℕ) : Prop := 2 ^ (7 * width) ≤ n ∧ n < 2 ^ (7 * width + 1)

instance (width n : ℕ) : Decidable (Marked width n) := inferInstanceAs (Decidable (_ ∧ _))

/-- The end of the integers of a width is twice their start. -/
theorem two_pow_marked (width : ℕ) : 2 ^ (7 * width + 1) = 2 * 2 ^ (7 * width) := by
  rw [Nat.pow_succ, Nat.mul_comm]

theorem Marked.lt {width n : ℕ} (h : Marked (width + 1) n) : n < 256 ^ (width + 1) := by
  have hpow : (256 : ℕ) ^ (width + 1) = 2 ^ (8 * (width + 1)) := by
    rw [Nat.pow_mul]
  rw [hpow]
  exact h.2.trans_le (Nat.pow_le_pow_right (by decide) (by omega))

theorem Marked.ge {width n : ℕ} (hwidth : width < 8) (h : Marked (width + 1) n) :
    2 ^ (7 - width) ≤ n / 256 ^ width ∧ n / 256 ^ width < 2 ^ (7 - width + 1) := by
  have hpow : (256 : ℕ) ^ width = 2 ^ (8 * width) := by
    rw [Nat.pow_mul]
  rw [hpow]
  refine ⟨?_, ?_⟩
  · rw [Nat.le_div_iff_mul_le (Nat.pow_pos (by decide)), ← Nat.pow_add]
    exact (Nat.pow_le_pow_right (by decide) (by omega)).trans h.1
  · rw [Nat.div_lt_iff_lt_mul (Nat.pow_pos (by decide)), ← Nat.pow_add]
    exact h.2.trans_le (Nat.pow_le_pow_right (by decide) (by omega))

/-- **A marked integer is read back**, whatever follows. -/
theorem readVint_bytesBE {width n : ℕ} (hwidth : width < 8) (h : Marked (width + 1) n)
    (rest : List UInt8) :
    readVint (bytesBE (width + 1) n ++ rest) = some ((width + 1, n), rest) := by
  obtain ⟨hlow, hhigh⟩ := h.ge hwidth
  have hpos : 0 < n / 256 ^ width := (Nat.pow_pos (by decide)).trans_le hlow
  have hbyte : n / 256 ^ width < 256 :=
    hhigh.trans_le (Nat.pow_le_pow_right (n := 2) (by decide) (by omega : 7 - width + 1 ≤ 8))
  have hfirst : (UInt8.ofNat (n / 256 ^ width)).toNat = n / 256 ^ width := by
    rw [UInt8.toNat_ofNat', Nat.mod_eq_of_lt hbyte]
  have hlog : (n / 256 ^ width).log2 = 7 - width :=
    (Nat.log2_eq_iff hpos.ne').mpr ⟨hlow, hhigh⟩
  have hmarker : 8 - (UInt8.ofNat (n / 256 ^ width)).toNat.log2 = width + 1 := by
    rw [hfirst, hlog]
    omega
  have hne : UInt8.ofNat (n / 256 ^ width) ≠ 0 := by
    rw [Ne, ← UInt8.toNat_inj, hfirst]
    exact hpos.ne'
  have hlength : ¬ (bytesBE (width + 1) n ++ rest).length < width + 1 := by
    rw [List.length_append, length_bytesBE]
    omega
  have htake : (bytesBE (width + 1) n ++ rest).take (width + 1) = bytesBE (width + 1) n :=
    List.take_left' (length_bytesBE _ _)
  have hdrop : (bytesBE (width + 1) n ++ rest).drop (width + 1) = rest :=
    List.drop_left' (length_bytesBE _ _)
  have hcons : bytesBE (width + 1) n ++ rest =
      UInt8.ofNat (n / 256 ^ width) :: (bytesBE width n ++ rest) := rfl
  rw [hcons] at hlength htake hdrop ⊢
  rw [readVint]
  simp only [hmarker]
  rw [if_neg (not_or.mpr ⟨hne, hlength⟩), htake, hdrop, valueBE_bytesBE,
    Nat.mod_eq_of_lt h.lt]

/-! ## IDs and sizes -/

/-- Read an ID, of four bytes at most. -/
def readId (stream : List UInt8) : Option (ℕ × List UInt8) :=
  match readVint stream with
  | some ((width, id), rest) => if width ≤ 4 then some (id, rest) else none
  | none => none

/-- Read a size; all ones is an unknown size. -/
def readSize (stream : List UInt8) : Option (Option ℕ × List UInt8) :=
  match readVint stream with
  | some ((width, n), rest) =>
    some (if n = 2 ^ (7 * width + 1) - 1 then none else some (n - 2 ^ (7 * width)), rest)
  | none => none

/-- A number that is an ID: its highest bit is the marker of its width. -/
def IsId (id : ℕ) : Prop := id.log2 ∈ [7, 14, 21, 28]

instance (id : ℕ) : Decidable (IsId id) := inferInstanceAs (Decidable (_ ∈ _))

/-- The bytes of an ID. -/
def idBytes (id : ℕ) : List UInt8 := minBytes id

theorem IsId.marked {id : ℕ} (h : IsId id) :
    ∃ width < 4, Nat.log 256 id = width ∧ Marked (width + 1) id := by
  have hne : id ≠ 0 := by
    rintro rfl
    exact absurd h (by decide)
  have hmarked : ∀ width < 4, id.log2 = 7 * (width + 1) → Nat.log 256 id = width ∧
      Marked (width + 1) id := by
    intro width hwidth hlog
    have hmarked : Marked (width + 1) id := (Nat.log2_eq_iff hne).mp hlog
    refine ⟨?_, hmarked⟩
    have hlow : 256 ^ width ≤ id := by
      have hpow : (256 : ℕ) ^ width = 2 ^ (8 * width) := by rw [Nat.pow_mul]
      rw [hpow]
      exact (Nat.pow_le_pow_right (by decide) (by omega)).trans hmarked.1
    exact (Nat.log_eq_iff (.inr ⟨by decide, hne⟩)).mpr ⟨hlow, hmarked.lt⟩
  have hcases : id.log2 = 7 ∨ id.log2 = 14 ∨ id.log2 = 21 ∨ id.log2 = 28 := by
    simpa [IsId] using h
  rcases hcases with hlog | hlog | hlog | hlog
  · exact ⟨0, by decide, hmarked 0 (by decide) hlog⟩
  · exact ⟨1, by decide, hmarked 1 (by decide) hlog⟩
  · exact ⟨2, by decide, hmarked 2 (by decide) hlog⟩
  · exact ⟨3, by decide, hmarked 3 (by decide) hlog⟩

theorem readId_idBytes {id : ℕ} (h : IsId id) (rest : List UInt8) :
    readId (idBytes id ++ rest) = some (id, rest) := by
  obtain ⟨width, hwidth, hlog, hmarked⟩ := h.marked
  rw [idBytes, minBytes, hlog, readId, readVint_bytesBE (by omega) hmarked]
  exact if_pos hwidth

/-- Sizes from here on cannot be written. -/
def sizeLimit : ℕ := 2 ^ 56 - 1

/-- The least width of a size, one byte more than the value. -/
def sizeWidth (size : ℕ) : ℕ :=
  ((List.range 8).find? fun width => decide (size < 2 ^ (7 * (width + 1)) - 1)).getD 7

/-- The bytes of a size. -/
def sizeBytes (size : ℕ) : List UInt8 :=
  bytesBE (sizeWidth size + 1) (size + 2 ^ (7 * (sizeWidth size + 1)))

/-- The pattern of a width that stands for an unknown size: all ones. -/
def unknownBytes (width : ℕ) : List UInt8 := bytesBE width (2 ^ (7 * width + 1) - 1)

/-- The bytes of an unknown size. -/
def unknownSize : List UInt8 := [0x01, 0xff, 0xff, 0xff, 0xff, 0xff, 0xff, 0xff]

theorem sizeWidth_spec {size : ℕ} (h : size < sizeLimit) :
    sizeWidth size < 8 ∧ size < 2 ^ (7 * (sizeWidth size + 1)) - 1 := by
  rw [sizeWidth]
  rcases hfind : (List.range 8).find? fun width => decide (size < 2 ^ (7 * (width + 1)) - 1)
    with _ | width
  · exact ⟨by decide, h⟩
  · have hsize := List.find?_some hfind
    exact ⟨List.mem_range.mp (List.mem_of_find?_eq_some hfind), of_decide_eq_true hsize⟩

/-- No smaller width has room for the size. -/
theorem le_of_lt_sizeWidth {size width : ℕ} (h : width < sizeWidth size) :
    2 ^ (7 * (width + 1)) - 1 ≤ size := by
  rw [sizeWidth] at h
  rcases hfind : (List.range 8).find? fun width => decide (size < 2 ^ (7 * (width + 1)) - 1)
    with _ | found
  · -- no width has
    rw [hfind, Option.getD_none] at h
    have hnot := List.find?_eq_none.mp hfind width (List.mem_range.mpr (by omega))
    simpa using hnot
  · rw [hfind, Option.getD_some] at h
    have hnot := (List.find?_range_eq_some.mp hfind).2.2 width h
    simpa using hnot

theorem readSize_sizeBytes {size : ℕ} (h : size < sizeLimit) (rest : List UInt8) :
    readSize (sizeBytes size ++ rest) = some (some size, rest) := by
  obtain ⟨hwidth, hsize⟩ := sizeWidth_spec h
  have hdouble := two_pow_marked (sizeWidth size + 1)
  have hmarked : Marked (sizeWidth size + 1) (size + 2 ^ (7 * (sizeWidth size + 1))) := by
    refine ⟨Nat.le_add_left _ _, ?_⟩
    rw [hdouble]
    omega
  rw [sizeBytes, readSize, readVint_bytesBE hwidth hmarked]
  simp only [hdouble]
  rw [if_neg (by omega), Nat.add_sub_cancel]

/-- The reserved pattern of any width is read as an unknown size. -/
theorem readSize_unknownBytes {width : ℕ} (hwidth : width < 8) (rest : List UInt8) :
    readSize (unknownBytes (width + 1) ++ rest) = some (none, rest) := by
  have hdouble := two_pow_marked (width + 1)
  have hpos : 0 < 2 ^ (7 * (width + 1)) := Nat.pow_pos (by decide)
  have hmarked : Marked (width + 1) (2 ^ (7 * (width + 1) + 1) - 1) := by
    refine ⟨?_, ?_⟩ <;> omega
  rw [unknownBytes, readSize, readVint_bytesBE hwidth hmarked]
  simp only
  rw [if_pos trivial]

theorem readSize_unknownSize (rest : List UInt8) :
    readSize (unknownSize ++ rest) = some (none, rest) := by
  have hbytes : unknownSize = unknownBytes (7 + 1) := by decide
  rw [hbytes, readSize_unknownBytes (by decide)]

/-- A size is never written as a reserved pattern. -/
theorem sizeBytes_ne_unknownBytes {size width : ℕ} (h : size < sizeLimit) (hwidth : width < 8) :
    sizeBytes size ≠ unknownBytes (width + 1) := by
  intro heq
  have hread := readSize_sizeBytes h []
  rw [heq, readSize_unknownBytes hwidth] at hread
  cases (Prod.mk.inj (Option.some.inj hread)).1

/-- **Sizes are a prefix code.** -/
theorem sizeBytes_prefixFree {size other : ℕ} (h : size < sizeLimit) (hother : other < sizeLimit)
    (hinitial : sizeBytes size <+: sizeBytes other) : size = other :=
  Option.some.inj (Framing.prefixFree_of_read (readSize_sizeBytes h) (readSize_sizeBytes hother)
    hinitial).1

/-! ## Elements -/

/-- An element whose payload has not been looked into. -/
structure Element where
  /-- the ID, with its marker -/
  id : ℕ
  /-- the size is known -/
  sized : Bool
  /-- the payload -/
  payload : List UInt8
  deriving DecidableEq

/-- Read an element. A payload of unknown size extends to the end of the
stream. -/
def readElement (stream : List UInt8) : Option (Element × List UInt8) :=
  match readId stream with
  | none => none
  | some (id, rest) =>
    match readSize rest with
    | none => none
    | some (none, rest) => some (⟨id, false, rest⟩, [])
    | some (some size, rest) =>
      if rest.length < size then none else some (⟨id, true, rest.take size⟩, rest.drop size)

/-- The bytes of an element. -/
def elementBytes (id : ℕ) (sized : Bool) (payload : List UInt8) : List UInt8 :=
  idBytes id ++ (if sized then sizeBytes payload.length else unknownSize) ++ payload

theorem readElement_sized {id : ℕ} (hid : IsId id) {payload : List UInt8}
    (hpayload : payload.length < sizeLimit) (rest : List UInt8) :
    readElement (elementBytes id true payload ++ rest) = some (⟨id, true, payload⟩, rest) := by
  have hassoc : elementBytes id true payload ++ rest =
      idBytes id ++ (sizeBytes payload.length ++ (payload ++ rest)) := by
    simp [elementBytes]
  have hlength : ¬ (payload ++ rest).length < payload.length := by simp
  rw [hassoc, readElement, readId_idBytes hid]
  simp only [readSize_sizeBytes hpayload]
  rw [if_neg hlength, List.take_left, List.drop_left]

theorem readElement_unsized {id : ℕ} (hid : IsId id) (payload : List UInt8) :
    readElement (elementBytes id false payload) = some (⟨id, false, payload⟩, []) := by
  have hassoc : elementBytes id false payload = idBytes id ++ (unknownSize ++ payload) := by
    simp [elementBytes]
  rw [hassoc, readElement, readId_idBytes hid]
  simp only [readSize_unknownSize]

theorem length_lt_elementBytes (id : ℕ) (sized : Bool) (payload : List UInt8) :
    payload.length < (elementBytes id sized payload).length := by
  cases sized <;> simp [elementBytes, sizeBytes, unknownSize] <;> omega

theorem length_elementBytes_le {id : ℕ} (hid : IsId id) {payload : List UInt8}
    (hpayload : payload.length < sizeLimit) :
    (elementBytes id true payload).length ≤ payload.length + 12 := by
  obtain ⟨width, hwidth, hlog, -⟩ := hid.marked
  have hsize := (sizeWidth_spec hpayload).1
  simp [elementBytes, idBytes, minBytes, sizeBytes, hlog]
  omega

/-! ## Trees -/

/-- What a stream of elements stands for. -/
inductive Tree where
  /-- an element with data -/
  | leaf (id : ℕ) (payload : List UInt8)
  /-- an element with elements; its size may be unknown -/
  | master (id : ℕ) (sized : Bool) (children : List Tree)

mutual

/-- The bytes of a tree. -/
def Tree.bytes : Tree → List UInt8
  | .leaf id payload => elementBytes id true payload
  | .master id sized children => elementBytes id sized (forestBytes children)

/-- The bytes of trees one after another. -/
def forestBytes : List Tree → List UInt8
  | [] => []
  | tree :: forest => tree.bytes ++ forestBytes forest

end

mutual

/-- A tree that a reader of the given masters can find again. -/
def Tree.Readable (isMaster : ℕ → Bool) : Tree → Prop
  | .leaf id payload => IsId id ∧ isMaster id = false ∧ payload.length < sizeLimit
  | .master id sized children =>
    IsId id ∧ isMaster id = true ∧ (sized = true → (forestBytes children).length < sizeLimit) ∧
      ForestReadable isMaster children

/-- Such trees; only the last one may have an unknown size. -/
def ForestReadable (isMaster : ℕ → Bool) : List Tree → Prop
  | [] => True
  | tree :: forest =>
    tree.Readable isMaster ∧ ((∃ id children, tree = .master id false children) → forest = []) ∧
      ForestReadable isMaster forest

end

/-- Look into the payload of an element, if it is a master. -/
def expand (isMaster : ℕ → Bool) (read : List UInt8 → Option (List Tree)) (element : Element) :
    Option Tree :=
  if isMaster element.id then (read element.payload).map (.master element.id element.sized)
  else some (.leaf element.id element.payload)

/-- `readForest` with a bound on the nesting. -/
def readForestUpTo (isMaster : ℕ → Bool) : ℕ → List UInt8 → Option (List Tree)
  | 0, _ => none
  | depth + 1, stream =>
    (Framing.readAll readElement stream).bind
      (List.mapM (expand isMaster (readForestUpTo isMaster depth)))

/-- Read trees until nothing is left. A payload is shorter than its element,
so the length of the stream bounds the nesting. -/
def readForest (isMaster : ℕ → Bool) (stream : List UInt8) : Option (List Tree) :=
  readForestUpTo isMaster (stream.length + 1) stream

/-- The element of a tree. -/
def Tree.element : Tree → Element
  | .leaf id payload => ⟨id, true, payload⟩
  | .master id sized children => ⟨id, sized, forestBytes children⟩

theorem Tree.bytes_eq (tree : Tree) :
    tree.bytes = elementBytes tree.element.id tree.element.sized tree.element.payload := by
  cases tree <;> simp [Tree.bytes, Tree.element]

theorem forestBytes_eq (forest : List Tree) : forestBytes forest = forest.flatMap Tree.bytes := by
  induction forest with
  | nil => simp [forestBytes]
  | cons tree forest ih => rw [forestBytes, ih, List.flatMap_cons]

/-- A partial function that gives a result everywhere on a list. -/
theorem mapM_eq_some {α β : Type*} {f : α → Option β} {g : α → β} {as : List α}
    (h : ∀ a ∈ as, f a = some (g a)) : as.mapM f = some (as.map g) := by
  induction as with
  | nil => rfl
  | cons a as ih =>
    rw [List.mapM_cons, h a (List.mem_cons_self ..), ih fun b hb => h b (List.mem_cons_of_mem _ hb)]
    rfl

section Readable

variable {isMaster : ℕ → Bool} {tree : Tree} {forest : List Tree}

theorem ForestReadable.suffix {tail : List Tree} (h : ForestReadable isMaster forest)
    (hsuffix : tail <:+ forest) : ForestReadable isMaster tail := by
  induction forest with
  | nil =>
    rw [List.suffix_nil.mp hsuffix]
    exact h
  | cons tree forest ih =>
    rcases List.suffix_cons_iff.mp hsuffix with rfl | hsuffix
    · exact h
    · rw [ForestReadable] at h
      exact ih h.2.2 hsuffix

theorem ForestReadable.mem (h : ForestReadable isMaster forest) (hmem : tree ∈ forest) :
    tree.Readable isMaster := by
  obtain ⟨before, tail, rfl⟩ := List.append_of_mem hmem
  have htail := h.suffix (List.suffix_append before _)
  rw [ForestReadable] at htail
  exact htail.1

theorem Tree.Readable.length_leaf {id : ℕ} {payload : List UInt8}
    (h : (Tree.leaf id payload).Readable isMaster) : payload.length < sizeLimit := by
  rw [Tree.Readable] at h
  exact h.2.2

theorem Tree.Readable.length_master {id : ℕ} {children : List Tree}
    (h : (Tree.master id true children).Readable isMaster) :
    (forestBytes children).length < sizeLimit := by
  rw [Tree.Readable] at h
  exact h.2.2.1 rfl

theorem Tree.Readable.children {id : ℕ} {sized : Bool} {children : List Tree}
    (h : (Tree.master id sized children).Readable isMaster) : ForestReadable isMaster children := by
  rw [Tree.Readable] at h
  exact h.2.2.2

/-- The element of a tree is read back in front of what may follow it. -/
theorem readElement_tree (h : ForestReadable isMaster (tree :: forest)) :
    readElement (tree.bytes ++ forestBytes forest) = some (tree.element, forestBytes forest) := by
  rw [ForestReadable] at h
  obtain ⟨htree, hlast, -⟩ := h
  rw [Tree.bytes_eq]
  cases tree with
  | leaf id payload =>
    have hpayload := htree.length_leaf
    rw [Tree.Readable] at htree
    exact readElement_sized htree.1 hpayload _
  | master id sized children =>
    rw [Tree.Readable] at htree
    cases sized with
    | true => exact readElement_sized htree.1 (htree.2.2.1 rfl) _
    | false =>
      rw [hlast ⟨id, children, rfl⟩, forestBytes, List.append_nil]
      exact readElement_unsized htree.1 _

theorem readAll_forestBytes (h : ForestReadable isMaster forest) :
    Framing.readAll readElement (forestBytes forest) = some (forest.map Tree.element) := by
  rw [forestBytes_eq]
  refine Framing.readAll_flatMap ?_ ?_
  · intro tree tail hsuffix
    rw [← forestBytes_eq]
    exact readElement_tree (h.suffix hsuffix)
  · intro tree _
    rw [Tree.bytes_eq]
    exact List.ne_nil_of_length_pos (Nat.zero_lt_of_lt (length_lt_elementBytes _ _ _))

theorem length_children_lt {id : ℕ} {sized : Bool} {children : List Tree}
    (hmem : .master id sized children ∈ forest) :
    (forestBytes children).length < (forestBytes forest).length := by
  have htree := length_lt_elementBytes id sized (forestBytes children)
  have hle : ((Tree.master id sized children).bytes).length ≤
      (forest.flatMap Tree.bytes).length := by
    obtain ⟨before, tail, rfl⟩ := List.append_of_mem hmem
    simp
    omega
  rw [forestBytes_eq forest]
  rw [Tree.bytes] at hle
  omega

/-- **The round trip of a stream.** A readable forest is what a reader finds in
its bytes, down to the leaves and without remainder. -/
theorem readForest_forestBytes (h : ForestReadable isMaster forest) :
    readForest isMaster (forestBytes forest) = some forest := by
  have hdepth : ∀ depth forest, ForestReadable isMaster forest →
      (forestBytes forest).length < depth →
        readForestUpTo isMaster depth (forestBytes forest) = some forest := by
    intro depth
    induction depth with
    | zero =>
      intro forest _ hlt
      exact absurd hlt (Nat.not_lt_zero _)
    | succ depth ih =>
      intro forest hforest hlt
      have hexpand : ∀ tree ∈ forest,
          expand isMaster (readForestUpTo isMaster depth) tree.element = some tree := by
        intro tree hmem
        have htree := hforest.mem hmem
        cases tree with
        | leaf id payload =>
          rw [Tree.Readable] at htree
          simp [expand, Tree.element, htree.2.1]
        | master id sized children =>
          have hshort := length_children_lt hmem
          have hchildren := ih children htree.children (by omega)
          rw [Tree.Readable] at htree
          simp [expand, Tree.element, htree.2.1, hchildren]
      have hall := mapM_eq_some hexpand
      rw [readForestUpTo, readAll_forestBytes hforest, Option.bind_some, List.mapM_map]
      exact hall.trans (congrArg some (List.map_id' forest))
  exact hdepth _ forest h (Nat.lt_succ_self _)

/-- Trees of known size are readable one after another. -/
theorem forestReadable_of_sized (h : ∀ tree ∈ forest, tree.Readable isMaster ∧
    tree.element.sized = true) : ForestReadable isMaster forest := by
  induction forest with
  | nil => rw [ForestReadable]; trivial
  | cons tree forest ih =>
    obtain ⟨htree, hsized⟩ := h tree (List.mem_cons_self ..)
    rw [ForestReadable]
    refine ⟨htree, ?_, ih fun other hmem => h other (List.mem_cons_of_mem _ hmem)⟩
    rintro ⟨id, children, rfl⟩
    exact absurd hsized (by simp [Tree.element])

/-! ## Short trees -/

/-- A readable tree of known size, of at most so many bytes. -/
def Tree.Short (isMaster : ℕ → Bool) (limit : ℕ) (tree : Tree) : Prop :=
  tree.Readable isMaster ∧ tree.element.sized = true ∧ tree.bytes.length ≤ limit

theorem short_leaf {id limit : ℕ} {payload : List UInt8} (hid : IsId id)
    (hleaf : isMaster id = false) (hpayload : payload.length ≤ limit) (hlimit : limit < sizeLimit) :
    (Tree.leaf id payload).Short isMaster (limit + 12) := by
  have hlength := length_elementBytes_le hid (hpayload.trans_lt hlimit)
  refine ⟨?_, rfl, ?_⟩
  · rw [Tree.Readable]
    exact ⟨hid, hleaf, hpayload.trans_lt hlimit⟩
  · rw [Tree.bytes]
    omega

theorem length_forestBytes_le {limit : ℕ} (h : ∀ tree ∈ forest, tree.bytes.length ≤ limit) :
    (forestBytes forest).length ≤ limit * forest.length := by
  induction forest with
  | nil => simp [forestBytes]
  | cons tree forest ih =>
    have htree := h tree (List.mem_cons_self ..)
    have hforest := ih fun other hmem => h other (List.mem_cons_of_mem _ hmem)
    rw [forestBytes, List.length_append, List.length_cons, Nat.mul_succ]
    omega

theorem short_master {id limit bound : ℕ} {children : List Tree} (count : ℕ) (hid : IsId id)
    (hmaster : isMaster id = true) (hcount : children.length = count)
    (hchildren : ∀ tree ∈ children, tree.Short isMaster limit)
    (hbound : limit * count + 12 ≤ bound) (hsize : bound < sizeLimit) :
    (Tree.master id true children).Short isMaster bound := by
  have hpayload : (forestBytes children).length ≤ limit * count := by
    rw [← hcount]
    exact length_forestBytes_le fun tree hmem => (hchildren tree hmem).2.2
  have hlimit : (forestBytes children).length < sizeLimit := by omega
  have hlength := length_elementBytes_le hid hlimit
  refine ⟨?_, rfl, ?_⟩
  · rw [Tree.Readable]
    refine ⟨hid, hmaster, fun _ => hlimit, forestReadable_of_sized ?_⟩
    exact fun tree hmem => ⟨(hchildren tree hmem).1, (hchildren tree hmem).2.1⟩
  · rw [Tree.bytes]
    omega

theorem Tree.Short.mono {limit bound : ℕ} (h : tree.Short isMaster limit) (hle : limit ≤ bound) :
    tree.Short isMaster bound := ⟨h.1, h.2.1, h.2.2.trans hle⟩

end Readable

end Ebml
