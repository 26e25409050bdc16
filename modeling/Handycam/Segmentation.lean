import Mathlib.Algebra.BigOperators.Intervals
import Mathlib.Data.List.GetD
import Handycam.Stream

/-!
# Reference segmentation

What the frame assembler is for, said without its state. In a list of packets
received since the start or since a reset, a header-shaped video packet is
*accepted* when a boundary was announced after the previous accepted header.
The accepted headers `h(0), h(1), …` cut the list into records: record `i` is
the payload of `h(i)` after its eight header bytes, followed by every video
packet before `h(i + 1)`. Record 0 is dropped, and record `i + 1` is reported
at `h(i + 2)`.

`pushPacket_abstract` says that the state of the assembler is the function
`abstractDecoder` of the packets consumed; `outputs_fresh` draws from it that
a fresh assembler answers as `segmentation` does.
-/

namespace Handycam

open Finset (Ico)

/-! ## Accepted headers -/

/-- An active boundary packet. -/
def EndpointPacket.announces (packet : EndpointPacket) : Bool :=
  packet.endpoint == .boundary && isActiveBoundary packet.data

/-- A video packet with a record header, accepted or not. -/
def EndpointPacket.looksLikeHeader (packet : EndpointPacket) : Bool :=
  packet.endpoint == .video && isHeader packet.data

/-- The bytes a packet adds to an open record. -/
def EndpointPacket.videoData (packet : EndpointPacket) : List UInt8 :=
  if packet.endpoint = .video then packet.data else []

/-- A boundary was announced and no header-shaped packet came after it. -/
def boundarySince (packets : List EndpointPacket) : Bool :=
  packets.foldl (fun pending packet => packet.announces || (pending && !packet.looksLikeHeader))
    false

/-- The positions of the accepted headers, in order. -/
def acceptedHeaders (packets : List EndpointPacket) : List ℕ :=
  (List.range packets.length).filter fun n =>
    packets[n]?.any EndpointPacket.looksLikeHeader && boundarySince (packets.take n)

/-! ## Records -/

/-- The position of `h(i)`; past the last header, the end of the list. -/
def headerPosition (packets : List EndpointPacket) (i : ℕ) : ℕ :=
  (acceptedHeaders packets).getD i packets.length

/-- The payload of `h(i)`. -/
def headerData (packets : List EndpointPacket) (i : ℕ) : List UInt8 :=
  (packets[headerPosition packets i]?.map EndpointPacket.data).getD []

/-- The entropy of record `i`. -/
def recordEntropy (packets : List EndpointPacket) (i : ℕ) : List UInt8 :=
  (headerData packets i).drop 8 ++
    ((packets.take (headerPosition packets (i + 1))).drop (headerPosition packets i + 1)).flatMap
      EndpointPacket.videoData

/-- Camera time from `h(i)` to `h(i + 1)`, modulo the period of the camera clock. -/
def recordDelta (packets : List EndpointPacket) (i : ℕ) : ℕ :=
  (((headerTimestamp (headerData packets (i + 1))).toNat -
    (headerTimestamp (headerData packets i)).toNat : ℤ) % 2048).toNat

/-- Camera time from `h(1)` to `h(i)`. -/
def recordClock (packets : List EndpointPacket) (i : ℕ) : ℕ :=
  ∑ j ∈ Ico 1 i, recordDelta packets j

/-- Record `i` has nothing but padding. -/
def recordEmpty (packets : List EndpointPacket) (i : ℕ) : Prop :=
  ∀ byte ∈ recordEntropy packets i, byte = 0

instance (packets : List EndpointPacket) (i : ℕ) : Decidable (recordEmpty packets i) :=
  inferInstanceAs (Decidable (∀ byte ∈ recordEntropy packets i, byte = 0))

/-- How many of the records `1, …, i - 1` give a frame. -/
def framesBefore (packets : List EndpointPacket) (i : ℕ) : ℕ :=
  ((Ico 1 i).filter fun j => ¬ recordEmpty packets j).card

/-- What is reported about record `i`. -/
def recordReport (packets : List EndpointPacket) (i : ℕ) : PushResult :=
  if recordEmpty packets i then
    .error (.frameConversion .emptyEntropy)
  else
    match reconstructJpeg (recordEntropy packets i) with
    | .error error => .error (.frameConversion error)
    | .ok jpeg =>
      .ok (some
        { sequence := UInt64.ofNat (framesBefore packets i)
          timestamp11bitMs := headerTimestamp (headerData packets i)
          timestampUnwrappedMs := UInt64.ofNat (recordClock packets i)
          timestampDeltaToNextMs := UInt16.ofNat (recordDelta packets i)
          flags := headerFlags (headerData packets i)
          jpeg := jpeg })

/-- The reference: record `i + 1` is reported at `h(i + 2)`, and nothing is
reported anywhere else. -/
def segmentation (packets : List EndpointPacket) : List PushResult :=
  (List.range packets.length).map fun n =>
    match (acceptedHeaders packets).idxOf? n with
    | some (i + 2) => recordReport packets (i + 1)
    | _ => .ok none

/-- The entropy buffered after all the packets. -/
def bufferedEntropy (packets : List EndpointPacket) : List UInt8 :=
  match (acceptedHeaders packets).length with
  | 0 => []
  | i + 1 => recordEntropy packets i

/-- No buffered record ever exceeds the limit. -/
def WithinLimit (maximum : ℕ) (packets : List EndpointPacket) : Prop :=
  ∀ n ≤ packets.length, (bufferedEntropy (packets.take n)).length ≤ maximum

instance (maximum : ℕ) (packets : List EndpointPacket) : Decidable (WithinLimit maximum packets) :=
  inferInstanceAs (Decidable (∀ n ≤ packets.length, _))

/-! ## Accepted headers of a longer list -/

theorem boundarySince_concat (packets : List EndpointPacket) (packet : EndpointPacket) :
    boundarySince (packets ++ [packet]) =
      (packet.announces || (boundarySince packets && !packet.looksLikeHeader)) := by
  simp [boundarySince]

theorem acceptedHeaders_concat (packets : List EndpointPacket) (packet : EndpointPacket) :
    acceptedHeaders (packets ++ [packet]) =
      acceptedHeaders packets ++
        if packet.looksLikeHeader && boundarySince packets then [packets.length] else [] := by
  have hold : (List.range packets.length).filter (fun n =>
      (packets ++ [packet])[n]?.any EndpointPacket.looksLikeHeader &&
        boundarySince ((packets ++ [packet]).take n)) = acceptedHeaders packets := by
    refine List.filter_congr fun n hn => ?_
    have hlt : n < packets.length := List.mem_range.mp hn
    rw [List.getElem?_append_left hlt, List.take_append_of_le_length hlt.le]
  rw [acceptedHeaders, List.length_append, List.length_singleton, List.range_succ,
    List.filter_append, hold]
  by_cases h : packet.looksLikeHeader && boundarySince packets <;> simp [h]

theorem acceptedHeaders_lt {packets : List EndpointPacket} {n : ℕ}
    (h : n ∈ acceptedHeaders packets) : n < packets.length := by
  simpa using (List.mem_filter.mp h).1

theorem acceptedHeaders_sorted (packets : List EndpointPacket) :
    (acceptedHeaders packets).Pairwise (· < ·) :=
  List.pairwise_lt_range.filter _

/-- The accepted headers of a list stay accepted when packets follow, and the
new ones are among those packets. -/
theorem acceptedHeaders_append (packets rest : List EndpointPacket) :
    ∃ more, acceptedHeaders (packets ++ rest) = acceptedHeaders packets ++ more ∧
      ∀ n ∈ more, packets.length ≤ n := by
  induction rest using List.reverseRecOn with
  | nil => exact ⟨[], by simp, by simp⟩
  | append_singleton rest packet ih =>
    obtain ⟨more, heq, hmore⟩ := ih
    rw [← List.append_assoc, acceptedHeaders_concat, heq, List.append_assoc]
    refine ⟨_, rfl, fun n hn => ?_⟩
    rcases List.mem_append.mp hn with hn | hn
    · exact hmore n hn
    · split at hn
      · obtain rfl := List.mem_singleton.mp hn
        simp
      · cases hn

/-- A boundary is pending exactly when one was announced after the last
accepted header. -/
theorem boundarySince_iff (packets : List EndpointPacket) :
    boundarySince packets ↔ ∃ k < packets.length,
      packets[k]?.any EndpointPacket.announces ∧
        ∀ j, k < j → j < packets.length → j ∉ acceptedHeaders packets := by
  induction packets using List.reverseRecOn with
  | nil => simp [boundarySince]
  | append_singleton packets packet ih =>
    rw [boundarySince_concat]
    by_cases hann : packet.announces
    · refine iff_of_true (by simp [hann]) ⟨packets.length, by simp, by simp [hann], ?_⟩
      intro j hj hlt
      simp only [List.length_append, List.length_singleton] at hlt
      omega
    · have hnot : packet.announces = false := by simpa using hann
      rw [hnot, Bool.false_or, Bool.and_eq_true, ih]
      constructor
      · rintro ⟨⟨k, hk, hkann, hlast⟩, hshape⟩
        have hshape' : packet.looksLikeHeader = false := by simpa using hshape
        refine ⟨k, by simp; omega, by rwa [List.getElem?_append_left hk], ?_⟩
        intro j hj hlt hmem
        rw [acceptedHeaders_concat, hshape', Bool.false_and, if_neg (by simp),
          List.append_nil] at hmem
        exact hlast j hj (acceptedHeaders_lt hmem) hmem
      · rintro ⟨k, hk, hkann, hlast⟩
        have hne : k ≠ packets.length := by
          rintro rfl
          simp [hnot] at hkann
        have hk' : k < packets.length := by
          simp only [List.length_append, List.length_singleton] at hk
          omega
        rw [List.getElem?_append_left hk'] at hkann
        have hpast : ∀ j, k < j → j < packets.length → j ∉ acceptedHeaders packets := by
          intro j hj hlt hmem
          refine hlast j hj (by simp; omega) ?_
          rw [acceptedHeaders_concat]
          exact List.mem_append_left _ hmem
        refine ⟨⟨k, hk', hkann, hpast⟩, ?_⟩
        -- a header-shaped packet here would have been accepted
        have hpending : boundarySince packets := ih.mpr ⟨k, hk', hkann, hpast⟩
        by_contra hshape
        have hshape' : packet.looksLikeHeader = true := by simpa using hshape
        refine hlast packets.length hk' (by simp) ?_
        rw [acceptedHeaders_concat, hshape', hpending]
        simp

/-- **Accepted headers.** A header is accepted exactly when a boundary was
announced after the previous accepted header. -/
theorem mem_acceptedHeaders (packets : List EndpointPacket) (n : ℕ) :
    n ∈ acceptedHeaders packets ↔ packets[n]?.any EndpointPacket.looksLikeHeader ∧
      ∃ k < n, packets[k]?.any EndpointPacket.announces ∧
        ∀ j, k < j → j < n → j ∉ acceptedHeaders packets := by
  rcases Nat.lt_or_ge n packets.length with hn | hn
  · have hlen : (packets.take n).length = n := List.length_take_of_le hn.le
    have hmem : n ∈ acceptedHeaders packets ↔
        packets[n]?.any EndpointPacket.looksLikeHeader ∧ boundarySince (packets.take n) := by
      rw [acceptedHeaders, List.mem_filter, List.mem_range, Bool.and_eq_true]
      exact and_iff_right hn
    have hpast : ∀ j < n, (j ∈ acceptedHeaders (packets.take n) ↔ j ∈ acceptedHeaders packets) := by
      intro j hj
      obtain ⟨more, heq, hmore⟩ := acceptedHeaders_append (packets.take n) (packets.drop n)
      rw [List.take_append_drop] at heq
      rw [heq, List.mem_append, or_iff_left]
      intro hin
      have := hmore j hin
      omega
    rw [hmem, boundarySince_iff, hlen]
    refine and_congr_right fun _ => exists_congr fun k => and_congr_right fun hk => ?_
    rw [List.getElem?_take_of_lt hk]
    refine and_congr_right fun _ => forall_congr' fun j => ?_
    exact forall_congr' fun _ => forall_congr' fun hj => not_congr (hpast j hj)
  · refine iff_of_false (fun h => absurd (acceptedHeaders_lt h) (by omega)) ?_
    rintro ⟨h, -⟩
    rw [List.getElem?_eq_none hn] at h
    cases h

/-! ## Records of a longer list

A record that is closed within `packets` is the same record when more packets
follow. -/

section Longer

variable {packets : List EndpointPacket} {i : ℕ}

theorem headerPosition_lt (h : i < (acceptedHeaders packets).length) :
    headerPosition packets i < packets.length := by
  rw [headerPosition, List.getD_eq_getElem _ _ h]
  exact acceptedHeaders_lt (List.getElem_mem h)

theorem headerPosition_mem (h : i < (acceptedHeaders packets).length) :
    headerPosition packets i ∈ acceptedHeaders packets := by
  rw [headerPosition, List.getD_eq_getElem _ _ h]
  exact List.getElem_mem h

theorem headerPosition_lt_succ (h : i + 1 < (acceptedHeaders packets).length) :
    headerPosition packets i < headerPosition packets (i + 1) := by
  rw [headerPosition, headerPosition, List.getD_eq_getElem _ _ h,
    List.getD_eq_getElem _ _ (Nat.lt_of_succ_lt h)]
  exact List.pairwise_iff_getElem.mp (acceptedHeaders_sorted packets) _ _ _ _ (Nat.lt_succ_self i)

theorem headerPosition_append (rest : List EndpointPacket)
    (h : i < (acceptedHeaders packets).length) :
    headerPosition (packets ++ rest) i = headerPosition packets i := by
  obtain ⟨more, heq, -⟩ := acceptedHeaders_append packets rest
  rw [headerPosition, headerPosition, heq, List.getD_eq_getElem _ _ h,
    List.getD_eq_getElem _ _ (by simp; omega), List.getElem_append_left h]

theorem headerData_append (rest : List EndpointPacket)
    (h : i < (acceptedHeaders packets).length) :
    headerData (packets ++ rest) i = headerData packets i := by
  rw [headerData, headerData, headerPosition_append rest h,
    List.getElem?_append_left (headerPosition_lt h)]

theorem recordEntropy_append (rest : List EndpointPacket)
    (h : i + 1 < (acceptedHeaders packets).length) :
    recordEntropy (packets ++ rest) i = recordEntropy packets i := by
  rw [recordEntropy, recordEntropy, headerData_append rest (by omega),
    headerPosition_append rest h, headerPosition_append rest (by omega),
    List.take_append_of_le_length (headerPosition_lt h).le]

theorem recordDelta_append (rest : List EndpointPacket)
    (h : i + 1 < (acceptedHeaders packets).length) :
    recordDelta (packets ++ rest) i = recordDelta packets i := by
  rw [recordDelta, recordDelta, headerData_append rest h, headerData_append rest (by omega)]

theorem recordClock_append (rest : List EndpointPacket)
    (h : i < (acceptedHeaders packets).length) :
    recordClock (packets ++ rest) i = recordClock packets i := by
  refine Finset.sum_congr rfl fun j hj => recordDelta_append rest ?_
  have := (Finset.mem_Ico.mp hj).2
  omega

theorem framesBefore_append (rest : List EndpointPacket)
    (h : i < (acceptedHeaders packets).length) :
    framesBefore (packets ++ rest) i = framesBefore packets i := by
  rw [framesBefore, framesBefore]
  congr 1
  refine Finset.filter_congr fun j hj => ?_
  have := (Finset.mem_Ico.mp hj).2
  rw [recordEmpty, recordEmpty, recordEntropy_append rest (by omega)]

theorem recordReport_append (rest : List EndpointPacket)
    (h : i + 1 < (acceptedHeaders packets).length) :
    recordReport (packets ++ rest) i = recordReport packets i := by
  have hi : i < (acceptedHeaders packets).length := by omega
  have hempty : recordEmpty (packets ++ rest) i ↔ recordEmpty packets i := by
    rw [recordEmpty, recordEmpty, recordEntropy_append rest h]
  simp only [recordReport, hempty, recordEntropy_append rest h, framesBefore_append rest hi,
    recordClock_append rest hi, recordDelta_append rest h, headerData_append rest hi]

theorem recordClock_succ (packets : List EndpointPacket) (i : ℕ) :
    recordClock packets (i + 2) = recordClock packets (i + 1) + recordDelta packets (i + 1) :=
  Finset.sum_Ico_succ_top (by omega) _

theorem framesBefore_succ (packets : List EndpointPacket) (i : ℕ) :
    framesBefore packets (i + 2) =
      framesBefore packets (i + 1) + if recordEmpty packets (i + 1) then 0 else 1 := by
  rw [framesBefore, framesBefore, Finset.card_filter, Finset.card_filter,
    Finset.sum_Ico_succ_top (by omega)]
  by_cases h : recordEmpty packets (i + 1) <;> simp [h]

end Longer

/-! ## The open record -/

section Open

variable {packets : List EndpointPacket} {packet : EndpointPacket} {i : ℕ}

/-- Past the last header the position is the end of the list. -/
theorem headerPosition_end (h : (acceptedHeaders packets).length ≤ i) :
    headerPosition packets i = packets.length :=
  List.getD_eq_default _ _ h

theorem acceptedHeaders_accept (h : packet.looksLikeHeader && boundarySince packets) :
    acceptedHeaders (packets ++ [packet]) = acceptedHeaders packets ++ [packets.length] := by
  rw [acceptedHeaders_concat, if_pos h]

theorem acceptedHeaders_continue (h : ¬ (packet.looksLikeHeader && boundarySince packets)) :
    acceptedHeaders (packets ++ [packet]) = acceptedHeaders packets := by
  rw [acceptedHeaders_concat, if_neg h, List.append_nil]

/-- The header just accepted sits at the end. -/
theorem headerPosition_accept (h : packet.looksLikeHeader && boundarySince packets) :
    headerPosition (packets ++ [packet]) (acceptedHeaders packets).length = packets.length := by
  rw [headerPosition, acceptedHeaders_accept h, List.getD_eq_getElem _ _ (by simp)]
  simp

theorem headerData_accept (h : packet.looksLikeHeader && boundarySince packets) :
    headerData (packets ++ [packet]) (acceptedHeaders packets).length = packet.data := by
  rw [headerData, headerPosition_accept h]
  simp

/-- A record starts with what its header packet carries after the header. -/
theorem recordEntropy_accept (h : packet.looksLikeHeader && boundarySince packets) :
    recordEntropy (packets ++ [packet]) (acceptedHeaders packets).length =
      packet.data.drop 8 := by
  have hend : headerPosition (packets ++ [packet]) ((acceptedHeaders packets).length + 1) =
      (packets ++ [packet]).length :=
    headerPosition_end (by rw [acceptedHeaders_accept h]; simp)
  rw [recordEntropy, headerData_accept h, hend, headerPosition_accept h]
  simp

/-- A header closes the record before it and adds nothing to it. -/
theorem recordEntropy_close (h : packet.looksLikeHeader && boundarySince packets)
    (hi : (acceptedHeaders packets).length = i + 1) :
    recordEntropy (packets ++ [packet]) i = recordEntropy packets i := by
  have hclose : headerPosition (packets ++ [packet]) (i + 1) = packets.length := by
    rw [← hi, headerPosition_accept h]
  have hend : headerPosition packets (i + 1) = packets.length := headerPosition_end hi.le
  rw [recordEntropy, recordEntropy, headerData_append _ (by omega), hclose,
    headerPosition_append _ (by omega), hend]
  simp

/-- Any other packet adds its video bytes to the open record. -/
theorem recordEntropy_continue (h : ¬ (packet.looksLikeHeader && boundarySince packets))
    (hi : (acceptedHeaders packets).length = i + 1) :
    recordEntropy (packets ++ [packet]) i = recordEntropy packets i ++ packet.videoData := by
  have hlt : headerPosition packets i < packets.length := headerPosition_lt (by omega)
  have hend : headerPosition packets (i + 1) = packets.length := headerPosition_end hi.le
  have hend' : headerPosition (packets ++ [packet]) (i + 1) = (packets ++ [packet]).length :=
    headerPosition_end (by rw [acceptedHeaders_continue h, hi])
  rw [recordEntropy, recordEntropy, headerData_append _ (by omega), hend',
    headerPosition_append _ (by omega), hend, List.take_length, List.drop_append_of_le_length (by omega),
    List.flatMap_append, List.append_assoc]
  simp

/-- The delta to a header just accepted is the one the assembler computes. -/
theorem recordDelta_accept (h : packet.looksLikeHeader && boundarySince packets)
    (hi : (acceptedHeaders packets).length = i + 1) :
    recordDelta (packets ++ [packet]) i =
      (timestampDelta (headerTimestamp (headerData packets i))
        (headerTimestamp packet.data)).toNat := by
  rw [recordDelta, ← hi, headerData_accept h, headerData_append _ (by omega),
    ← timestampDelta_toNat, Int.toNat_natCast]

/-- An accepted header uses the boundary up. -/
theorem boundarySince_accept (h : packet.looksLikeHeader && boundarySince packets) :
    boundarySince (packets ++ [packet]) = false := by
  obtain ⟨hshape, -⟩ := Bool.and_eq_true_iff.mp h
  have hvideo : packet.endpoint = .video := by
    have := (Bool.and_eq_true_iff.mp hshape).1
    simpa using this
  rw [boundarySince_concat, hshape, EndpointPacket.announces, hvideo]
  simp

/-- Any other packet may announce a boundary, and leaves a pending one. -/
theorem boundarySince_continue (h : ¬ (packet.looksLikeHeader && boundarySince packets)) :
    boundarySince (packets ++ [packet]) = (packet.announces || boundarySince packets) := by
  rw [boundarySince_concat]
  cases hb : boundarySince packets
  · simp
  · have hshape : packet.looksLikeHeader = false := by simpa [hb] using h
    simp [hshape]

end Open

/-! ## The assembler's state, from the packets it consumed -/

/-- The open record after all the packets. -/
def openRecord (packets : List EndpointPacket) : Option PendingRecord :=
  match (acceptedHeaders packets).length with
  | 0 => none
  | i + 1 => some
      { timestamp := headerTimestamp (headerData packets i)
        unwrappedTimestamp := UInt64.ofNat (recordClock packets i)
        flags := headerFlags (headerData packets i)
        entropy := recordEntropy packets i }

/-- The state of an assembler that was fresh before all the packets. -/
def abstractDecoder (maximum : ℕ) (packets : List EndpointPacket) : StreamDecoder where
  boundaryPending := boundarySince packets
  current := openRecord packets
  discardFirstRecord := decide ((acceptedHeaders packets).length < 2)
  nextSequence := UInt64.ofNat (framesBefore packets ((acceptedHeaders packets).length - 1))
  maxRecordSize := maximum

/-- What is reported at `packet` after `packets`. -/
def reportAt (packets : List EndpointPacket) (packet : EndpointPacket) : PushResult :=
  if packet.looksLikeHeader && boundarySince packets then
    match (acceptedHeaders packets).length with
    | i + 2 => recordReport (packets ++ [packet]) (i + 1)
    | _ => .ok none
  else
    .ok none

theorem abstractDecoder_nil (maximum : ℕ) :
    abstractDecoder maximum [] = StreamDecoder.withMaxRecordSize maximum := rfl

theorem openRecord_zero {packets : List EndpointPacket}
    (h : (acceptedHeaders packets).length = 0) : openRecord packets = none := by
  rw [openRecord, h]

theorem openRecord_succ {packets : List EndpointPacket} {i : ℕ}
    (h : (acceptedHeaders packets).length = i + 1) :
    openRecord packets = some
      { timestamp := headerTimestamp (headerData packets i)
        unwrappedTimestamp := UInt64.ofNat (recordClock packets i)
        flags := headerFlags (headerData packets i)
        entropy := recordEntropy packets i } := by
  rw [openRecord, h]

section Step

variable {packets : List EndpointPacket} {packet : EndpointPacket} {i : ℕ} (maximum : ℕ)

/-- The record a header opens. -/
theorem openRecord_accept (h : packet.looksLikeHeader && boundarySince packets) :
    openRecord (packets ++ [packet]) = some (StreamDecoder.opened packet.data
      (UInt64.ofNat (recordClock (packets ++ [packet]) (acceptedHeaders packets).length))) := by
  have hlen : (acceptedHeaders (packets ++ [packet])).length =
      (acceptedHeaders packets).length + 1 := by
    rw [acceptedHeaders_accept h, List.length_append, List.length_singleton]
  rw [openRecord_succ hlen, headerData_accept h, recordEntropy_accept h, StreamDecoder.opened]

/-- The state after a header, from the number of headers before it. -/
theorem abstractDecoder_accept (h : packet.looksLikeHeader && boundarySince packets) :
    abstractDecoder maximum (packets ++ [packet]) =
      { boundaryPending := false
        current := some (StreamDecoder.opened packet.data
          (UInt64.ofNat (recordClock (packets ++ [packet]) (acceptedHeaders packets).length)))
        discardFirstRecord := decide ((acceptedHeaders packets).length < 1)
        nextSequence :=
          UInt64.ofNat (framesBefore (packets ++ [packet]) (acceptedHeaders packets).length)
        maxRecordSize := maximum } := by
  have hlen : (acceptedHeaders (packets ++ [packet])).length =
      (acceptedHeaders packets).length + 1 := by
    rw [acceptedHeaders_accept h, List.length_append, List.length_singleton]
  simp [abstractDecoder, boundarySince_accept h, openRecord_accept h, hlen]

/-- The camera clock that the assembler computes at the end of a record. -/
theorem recordClock_accept (h : packet.looksLikeHeader && boundarySince packets)
    (hi : (acceptedHeaders packets).length = i + 2) :
    UInt64.ofNat (recordClock (packets ++ [packet]) (i + 2)) =
      UInt64.ofNat (recordClock packets (i + 1)) +
        (timestampDelta (headerTimestamp (headerData packets (i + 1)))
          (headerTimestamp packet.data)).toUInt64 := by
  rw [recordClock_succ, recordDelta_accept h hi, recordClock_append _ (by omega),
    UInt64.ofNat_add]
  congr 1
  exact UInt64.toNat_inj.mp (by simp)

theorem recordEmpty_close (h : packet.looksLikeHeader && boundarySince packets)
    (hi : (acceptedHeaders packets).length = i + 1) :
    recordEmpty (packets ++ [packet]) i ↔ recordEmpty packets i := by
  rw [recordEmpty, recordEmpty, recordEntropy_close h hi]

/-- The frame of record `i + 1`, as the assembler builds it and as the
reference describes it. -/
theorem recordReport_frame (h : packet.looksLikeHeader && boundarySince packets)
    (hi : (acceptedHeaders packets).length = i + 2) {record : PendingRecord} {jpeg : List UInt8}
    (hrecord : openRecord packets = some record)
    (hempty : ¬ recordEmpty packets (i + 1))
    (hjpeg : reconstructJpeg (recordEntropy packets (i + 1)) = .ok jpeg) :
    recordReport (packets ++ [packet]) (i + 1) =
      .ok (some ((abstractDecoder maximum packets).finishedFrame record packet.data jpeg)) := by
  rw [openRecord_succ hi] at hrecord
  obtain rfl := Option.some.inj hrecord
  rw [recordReport, if_neg (by rwa [recordEmpty_close h hi]), recordEntropy_close h hi, hjpeg]
  simp only [StreamDecoder.finishedFrame, abstractDecoder, hi, framesBefore_append [packet]
    (show i + 1 < (acceptedHeaders packets).length by omega),
    recordClock_append [packet] (show i + 1 < (acceptedHeaders packets).length by omega),
    headerData_append [packet] (show i + 1 < (acceptedHeaders packets).length by omega),
    recordDelta_accept h hi, UInt16.ofNat_toNat, Nat.add_one_sub_one]

/-- The header branch follows the reference. -/
theorem acceptHeader_abstract (h : packet.looksLikeHeader && boundarySince packets) :
    (abstractDecoder maximum packets).acceptHeader packet.data =
      (abstractDecoder maximum (packets ++ [packet]), reportAt packets packet) := by
  rw [abstractDecoder_accept maximum h, reportAt, if_pos h]
  rcases hm : (acceptedHeaders packets).length with _ | _ | i
  · -- the first header: no record to end
    rw [StreamDecoder.acceptHeader_none (openRecord_zero hm)]
    simp [abstractDecoder, hm, recordClock, framesBefore]
  · -- the second header: the first record is dropped
    have hdiscard : (abstractDecoder maximum packets).discardFirstRecord = true := by
      simp [abstractDecoder, hm]
    rw [StreamDecoder.acceptHeader_discard (openRecord_succ hm) hdiscard]
    simp [abstractDecoder, hm, recordClock, framesBefore]
  · -- any later header: record `i + 1` is reported
    have hdiscard : (abstractDecoder maximum packets).discardFirstRecord = false := by
      simp [abstractDecoder, hm]
    have hclock := recordClock_accept h hm
    have hframes : framesBefore (packets ++ [packet]) (i + 2) =
        framesBefore packets (i + 1) + if recordEmpty packets (i + 1) then 0 else 1 := by
      rw [framesBefore_succ, framesBefore_append _ (by omega)]
      simp only [recordEmpty_close h hm]
    by_cases hempty : recordEmpty packets (i + 1)
    · have herror : reconstructJpeg (recordEntropy packets (i + 1)) = .error .emptyEntropy :=
        reconstructJpeg_error.mpr ⟨rfl, hempty⟩
      rw [StreamDecoder.acceptHeader_error (openRecord_succ hm) hdiscard herror]
      have hreport : recordReport (packets ++ [packet]) (i + 1) =
          .error (.frameConversion .emptyEntropy) :=
        if_pos ((recordEmpty_close h hm).mpr hempty)
      simp [abstractDecoder, StreamDecoder.nextUnwrapped, hm, hreport, hclock, hframes, hempty]
    · obtain ⟨jpeg, hjpeg⟩ : ∃ jpeg, reconstructJpeg (recordEntropy packets (i + 1)) = .ok jpeg := by
        rw [recordEmpty] at hempty
        push Not at hempty
        exact ⟨_, reconstructJpeg_ok hempty⟩
      rw [StreamDecoder.acceptHeader_frame (openRecord_succ hm) hdiscard hjpeg]
      have hreport := recordReport_frame maximum h hm (openRecord_succ hm) hempty hjpeg
      simp [abstractDecoder, StreamDecoder.nextUnwrapped, hm, hreport, hclock, hframes, hempty]

/-- A packet that ends no record keeps the counters and lets the open record
grow. -/
theorem abstractDecoder_continue (h : ¬ (packet.looksLikeHeader && boundarySince packets)) :
    abstractDecoder maximum (packets ++ [packet]) =
      { abstractDecoder maximum packets with
        boundaryPending := packet.announces || boundarySince packets
        current := (openRecord packets).map fun record =>
          { record with entropy := record.entropy ++ packet.videoData } } := by
  have hpending := boundarySince_continue h
  have hlen : (acceptedHeaders (packets ++ [packet])).length =
      (acceptedHeaders packets).length := by rw [acceptedHeaders_continue h]
  rcases hm : (acceptedHeaders packets).length with _ | i
  · rw [hm] at hlen
    simp [abstractDecoder, hpending, openRecord_zero hm, openRecord_zero hlen, hm, hlen,
      framesBefore]
  · rw [hm] at hlen
    have hi : i < (acceptedHeaders packets).length := by omega
    simp [abstractDecoder, hpending, openRecord_succ hm, openRecord_succ hlen, hm, hlen,
      framesBefore_append [packet] hi, recordClock_append [packet] hi,
      headerData_append [packet] hi, recordEntropy_continue h hm]

theorem bufferedEntropy_succ (h : (acceptedHeaders packets).length = i + 1) :
    bufferedEntropy packets = recordEntropy packets i := by
  rw [bufferedEntropy, h]

/-- A packet that ends no record follows the reference, as long as the open
record has room for it. -/
theorem pushPacket_abstract_continue (h : ¬ (packet.looksLikeHeader && boundarySince packets))
    (hfits : packet.endpoint = .video → ∀ record, openRecord packets = some record →
      record.entropy.length + packet.data.length ≤ maximum) :
    (abstractDecoder maximum packets).pushPacket packet =
      (abstractDecoder maximum (packets ++ [packet]), reportAt packets packet) := by
  rw [reportAt, if_neg h, abstractDecoder_continue maximum h]
  rcases hend : packet.endpoint with _ | _
  · rw [StreamDecoder.pushPacket_boundary hend]
    simp [abstractDecoder, EndpointPacket.announces, EndpointPacket.videoData, hend]
  · have hnot : ¬ (isHeader packet.data && (abstractDecoder maximum packets).boundaryPending) := by
      simpa [EndpointPacket.looksLikeHeader, hend, abstractDecoder] using h
    have hann : packet.announces = false := by simp [EndpointPacket.announces, hend]
    have hdata : packet.videoData = packet.data := by simp [EndpointPacket.videoData, hend]
    rw [StreamDecoder.pushPacket_continue hend hnot, StreamDecoder.continueRecord]
    rcases hopen : openRecord packets with _ | record
    · simp [abstractDecoder, hopen, hann]
    · have hroom := hfits hend record hopen
      simp only [abstractDecoder, hopen, Option.map_some, hann, hdata,
        if_neg (Nat.not_lt.mpr hroom), Bool.false_or]

/-- A header follows it, however many bytes it has. -/
theorem pushPacket_abstract_accept (h : packet.looksLikeHeader && boundarySince packets) :
    (abstractDecoder maximum packets).pushPacket packet =
      (abstractDecoder maximum (packets ++ [packet]), reportAt packets packet) := by
  obtain ⟨hshape, hpending⟩ := Bool.and_eq_true_iff.mp h
  obtain ⟨hvideo, hheader⟩ := Bool.and_eq_true_iff.mp hshape
  rw [StreamDecoder.pushPacket_header (by simpa using hvideo) hheader hpending]
  exact acceptHeader_abstract maximum h

/-- **The assembler follows the reference**: in the state of the packets
consumed so far, it answers the next packet with the reference's report and
goes to the state of the packets with it, as long as the record stays within
the limit. -/
theorem pushPacket_abstract
    (hlimit : (bufferedEntropy (packets ++ [packet])).length ≤ maximum) :
    (abstractDecoder maximum packets).pushPacket packet =
      (abstractDecoder maximum (packets ++ [packet]), reportAt packets packet) := by
  by_cases h : packet.looksLikeHeader && boundarySince packets
  · exact pushPacket_abstract_accept maximum h
  · refine pushPacket_abstract_continue maximum h fun hend record hrecord => ?_
    have hdata : packet.videoData = packet.data := by simp [EndpointPacket.videoData, hend]
    rcases hm : (acceptedHeaders packets).length with _ | i
    · rw [openRecord_zero hm] at hrecord
      cases hrecord
    · rw [openRecord_succ hm] at hrecord
      obtain rfl := Option.some.inj hrecord
      have hlen : (acceptedHeaders (packets ++ [packet])).length = i + 1 := by
        rw [acceptedHeaders_continue h, hm]
      rwa [bufferedEntropy_succ hlen, recordEntropy_continue h hm, hdata,
        List.length_append] at hlimit

/-- So does any packet that is answered without an error, whatever the limit. -/
theorem pushPacket_abstract_answered {next : StreamDecoder} {answer : Option CompressedFrame}
    (hanswer : (abstractDecoder maximum packets).pushPacket packet = (next, .ok answer)) :
    next = abstractDecoder maximum (packets ++ [packet]) ∧ reportAt packets packet = .ok answer := by
  suffices hpush : (abstractDecoder maximum packets).pushPacket packet =
      (abstractDecoder maximum (packets ++ [packet]), reportAt packets packet) by
    rw [hpush] at hanswer
    obtain ⟨hnext, hreport⟩ := Prod.mk.inj hanswer
    exact ⟨hnext.symm, hreport⟩
  by_cases h : packet.looksLikeHeader && boundarySince packets
  · exact pushPacket_abstract_accept maximum h
  · refine pushPacket_abstract_continue maximum h fun hend record hrecord => ?_
    have hnot : ¬ (isHeader packet.data && (abstractDecoder maximum packets).boundaryPending) := by
      simpa [EndpointPacket.looksLikeHeader, hend, abstractDecoder] using h
    by_contra hlarge
    -- the packet would be refused
    rw [StreamDecoder.pushPacket_continue hend hnot, StreamDecoder.continueRecord] at hanswer
    simp only [abstractDecoder, hrecord, if_pos (Nat.not_le.mp hlarge)] at hanswer
    cases (Prod.mk.inj hanswer).2

end Step

/-! ## Runs -/

/-- A fresh assembler's results, each from the packets before it. -/
theorem outputs_fresh_history {maximum : ℕ} {packets : List EndpointPacket}
    (hlimit : WithinLimit maximum packets) :
    Mealy.final StreamDecoder.pushPacket (StreamDecoder.withMaxRecordSize maximum) packets =
        abstractDecoder maximum packets ∧
      Mealy.outputs StreamDecoder.pushPacket (StreamDecoder.withMaxRecordSize maximum) packets =
        Mealy.history reportAt [] packets := by
  have hstep : ∀ past packet, (bufferedEntropy (past ++ [packet])).length ≤ maximum →
      (abstractDecoder maximum past).pushPacket packet =
        (abstractDecoder maximum (past ++ [packet]), reportAt past packet) :=
    fun _ _ h => pushPacket_abstract maximum h
  have hrun := Mealy.outputs_eq_history
    (fun past => (bufferedEntropy past).length ≤ maximum) hstep [] hlimit
  rwa [abstractDecoder_nil, List.nil_append] at hrun

/-- The report at a packet does not depend on the packets after it. -/
theorem reportAt_eq (past rest : List EndpointPacket) (packet : EndpointPacket) :
    reportAt past packet =
      match (acceptedHeaders (past ++ packet :: rest)).idxOf? past.length with
      | some (i + 2) => recordReport (past ++ packet :: rest) (i + 1)
      | _ => .ok none := by
  have hsplit : past ++ packet :: rest = (past ++ [packet]) ++ rest := by simp
  obtain ⟨more, heq, hmore⟩ := acceptedHeaders_append (past ++ [packet]) rest
  have hnot : past.length ∉ acceptedHeaders past := fun h => absurd (acceptedHeaders_lt h) (by simp)
  rw [hsplit, heq, reportAt]
  by_cases h : packet.looksLikeHeader && boundarySince past
  · have hidx : (acceptedHeaders (past ++ [packet]) ++ more).idxOf? past.length =
        some (acceptedHeaders past).length := by
      rw [acceptedHeaders_accept h, List.append_assoc, List.idxOf?, List.findIdx?_append,
        List.findIdx?_eq_none_iff.mpr]
      · simp [List.findIdx?_cons]
      · intro n hn
        simpa using fun hn' : n = past.length => hnot (hn' ▸ hn)
    rw [if_pos h, hidx]
    rcases hm : (acceptedHeaders past).length with _ | _ | i
    · rfl
    · rfl
    · refine (recordReport_append rest ?_).symm
      rw [acceptedHeaders_accept h, List.length_append, hm]
      simp
  · have hidx : (acceptedHeaders (past ++ [packet]) ++ more).idxOf? past.length = none := by
      rw [acceptedHeaders_continue h, List.idxOf?_eq_none_iff, List.mem_append, not_or]
      refine ⟨hnot, fun hin => ?_⟩
      have := hmore _ hin
      simp at this
    rw [if_neg h, hidx]

/-- The reference says at each position what the history says. -/
theorem history_eq_segmentation (packets : List EndpointPacket) :
    Mealy.history reportAt [] packets = segmentation packets := by
  apply List.ext_getElem?
  intro n
  rw [Mealy.getElem?_history, List.nil_append, segmentation, List.getElem?_map]
  rcases Nat.lt_or_ge n packets.length with hn | hn
  · have hsplit : packets.take n ++ packets[n] :: packets.drop (n + 1) = packets := by
      rw [← List.drop_eq_getElem_cons hn, List.take_append_drop]
    have hreport := reportAt_eq (packets.take n) (packets.drop (n + 1)) packets[n]
    rw [hsplit, List.length_take_of_le hn.le] at hreport
    simp [hreport, hn]
  · simp [hn]

/-- **A fresh assembler answers a list of packets as the reference does.** -/
theorem outputs_fresh {maximum : ℕ} {packets : List EndpointPacket}
    (hlimit : WithinLimit maximum packets) :
    Mealy.outputs StreamDecoder.pushPacket (StreamDecoder.withMaxRecordSize maximum) packets =
      segmentation packets := by
  rw [(outputs_fresh_history hlimit).2, history_eq_segmentation]

/-- The report of a record, spelled out. -/
theorem recordReport_cases (packets : List EndpointPacket) (i : ℕ) :
    (recordEmpty packets i ∧
        recordReport packets i = .error (.frameConversion .emptyEntropy)) ∨
      (¬ recordEmpty packets i ∧ ∃ jpeg, reconstructJpeg (recordEntropy packets i) = .ok jpeg ∧
        recordReport packets i = .ok (some
          { sequence := UInt64.ofNat (framesBefore packets i)
            timestamp11bitMs := headerTimestamp (headerData packets i)
            timestampUnwrappedMs := UInt64.ofNat (recordClock packets i)
            timestampDeltaToNextMs := UInt16.ofNat (recordDelta packets i)
            flags := headerFlags (headerData packets i)
            jpeg := jpeg })) := by
  by_cases hempty : recordEmpty packets i
  · exact .inl ⟨hempty, if_pos hempty⟩
  · have hbyte : ∃ byte ∈ recordEntropy packets i, byte ≠ 0 := by
      rw [recordEmpty] at hempty
      push Not at hempty
      exact hempty
    refine .inr ⟨hempty, _, reconstructJpeg_ok hbyte, ?_⟩
    rw [recordReport, if_neg hempty, reconstructJpeg_ok hbyte]

/-- **The assembler is the reference segmentation.** Whatever packets are
pushed and wherever the resets fall, as long as no buffered record exceeds the
limit, each stretch between resets is answered as its segmentation says:
headers are accepted by the boundary rule, record `i + 1` is reported at
`h(i + 2)`, as an error when it has nothing but padding and as its frame
otherwise, and nothing is reported anywhere else. -/
theorem runCalls_eq_segmentation (maximum : ℕ) (calls : List DecoderCall)
    (hlimit : ∀ stretch ∈ stretches calls, WithinLimit maximum stretch) :
    runCalls (StreamDecoder.withMaxRecordSize maximum) calls =
        (stretches calls).flatMap segmentation ∧
      ∀ stretch ∈ stretches calls,
        (∀ n, n ∈ acceptedHeaders stretch ↔
          stretch[n]?.any EndpointPacket.looksLikeHeader ∧
            ∃ k < n, stretch[k]?.any EndpointPacket.announces ∧
              ∀ j, k < j → j < n → j ∉ acceptedHeaders stretch) ∧
        ∀ i, (recordEmpty stretch i ∧
            recordReport stretch i = .error (.frameConversion .emptyEntropy)) ∨
          (¬ recordEmpty stretch i ∧ ∃ jpeg, reconstructJpeg (recordEntropy stretch i) = .ok jpeg ∧
            recordReport stretch i = .ok (some
              { sequence := UInt64.ofNat (framesBefore stretch i)
                timestamp11bitMs := headerTimestamp (headerData stretch i)
                timestampUnwrappedMs := UInt64.ofNat (recordClock stretch i)
                timestampDeltaToNextMs := UInt16.ofNat (recordDelta stretch i)
                flags := headerFlags (headerData stretch i)
                jpeg := jpeg })) := by
  refine ⟨?_, fun stretch _ =>
    ⟨mem_acceptedHeaders stretch, recordReport_cases stretch⟩⟩
  have hfirst := outputs_fresh (hlimit _ (List.mem_cons_self ..))
  have hlater : (laterStretches calls).flatMap (Mealy.outputs StreamDecoder.pushPacket
      (StreamDecoder.withMaxRecordSize maximum)) =
      (laterStretches calls).flatMap segmentation :=
    List.flatMap_congr fun stretch hmem =>
      outputs_fresh (hlimit stretch (List.mem_cons_of_mem _ hmem))
  rw [runCalls_eq, stretches, List.flatMap_cons, hfirst]
  exact congrArg (segmentation (firstStretch calls) ++ ·) hlater

/-- Three records with a reset between the second and the third, and a header
without a boundary inside the second. -/
def sampleCalls : List DecoderCall :=
  let boundary : DecoderCall := .push ⟨.boundary, [0x08]⟩
  let header (timestamp entropy : UInt8) : DecoderCall :=
    .push ⟨.video, List.replicate 6 0xff ++ [0x00, timestamp, entropy]⟩
  [boundary, header 0x64 0x01, boundary, header 0x8c 0x02, header 0x8d 0x03, boundary,
    header 0xb4 0x04, .reset, boundary, header 0x10 0x05, .push ⟨.video, [0x06]⟩]

theorem runCalls_sampleCalls :
    runCalls (StreamDecoder.withMaxRecordSize 16) sampleCalls =
      (stretches sampleCalls).flatMap segmentation :=
  (runCalls_eq_segmentation 16 sampleCalls (by decide)).1

end Handycam
