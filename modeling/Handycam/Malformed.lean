import Handycam.Session

/-!
# What a malformed record costs the driver

A record of nothing but padding gives no frame. The assembler reports it at the
header that ends it, and has by then opened the next record; the driver answers
the report with a reset, which forgets that record and makes the one after it
the first. So a malformed record that is reported takes the two records after
it with it, malformed or not.

`lostFrom` counts how many records in a row are lost in this way, and
`session_frames_iff` says when no well-formed record is among them: when the
malformed records before each come in threes.
-/

namespace Handycam

/-! ## Sessions of packets -/

/-- A packet event of a session, and what the sink would say to a frame. -/
structure Arrival where
  /-- the packet -/
  packet : EndpointPacket
  /-- when its callback ran -/
  receivedAt : Instant
  /-- the answer of `try_send` -/
  answer : TrySend

/-- The event that the driver takes from its queue. -/
def Arrival.event (arrival : Arrival) : SessionEvent × TrySend :=
  (.packet arrival.packet.endpoint arrival.packet.data arrival.receivedAt, arrival.answer)

/-- The frames that the driver assembles in a session of packets. -/
def assembledFrom (arrivals : List Arrival) : List CompressedFrame :=
  (runSession ⟨.new, {}, [], []⟩ (arrivals.map Arrival.event)).1.assembled

/-- The driver assembles `frame` when it handles event `n`. -/
def EmitsAt (arrivals : List Arrival) (n : ℕ) (frame : CompressedFrame) : Prop :=
  assembledFrom (arrivals.take (n + 1)) = assembledFrom (arrivals.take n) ++ [frame]

/-- `frame` is made of record `i`. -/
structure FrameOf (packets : List EndpointPacket) (i : ℕ) (frame : CompressedFrame) : Prop where
  /-- the image is made of the record's entropy -/
  jpeg : reconstructJpeg (recordEntropy packets i) = .ok frame.jpeg
  /-- the timestamp is the record's -/
  timestamp : frame.timestamp11bitMs = headerTimestamp (headerData packets i)
  /-- the delta leads to the next record -/
  delta : frame.timestampDeltaToNextMs.toNat = recordDelta packets i
  /-- the flags are the record's -/
  flags : frame.flags = headerFlags (headerData packets i)

/-! ## Lost records -/

/-- How many records from record `i` on give no frame, whatever they hold. The
first record of a session is dropped. -/
def lostFrom (packets : List EndpointPacket) : ℕ → ℕ
  | 0 => 1
  | i + 1 =>
    match lostFrom packets i with
    | 0 => if recordEmpty packets i then 2 else 0
    | lost + 1 => lost

/-- How many malformed records stand directly before record `i`, not counting
the first record of the session. -/
def emptyRun (packets : List EndpointPacket) : ℕ → ℕ
  | 0 => 0
  | 1 => 0
  | i + 2 => if recordEmpty packets (i + 1) then emptyRun packets (i + 1) + 1 else 0

/-- The losses at a record depend on the records before it. -/
theorem lostFrom_append {packets : List EndpointPacket} (rest : List EndpointPacket) {i : ℕ}
    (h : i < (acceptedHeaders packets).length) :
    lostFrom (packets ++ rest) i = lostFrom packets i := by
  induction i with
  | zero => rfl
  | succ i ih =>
    have hempty : recordEmpty (packets ++ rest) i ↔ recordEmpty packets i := by
      rw [recordEmpty, recordEmpty, recordEntropy_append rest h]
    rw [lostFrom, lostFrom, ih (by omega)]
    simp only [hempty]

/-- While no well-formed record is lost, the losses follow the malformed
records three by three. -/
theorem lostFrom_eq {packets : List EndpointPacket} {i : ℕ} (hpos : 1 ≤ i)
    (h : ∀ j, 1 ≤ j → j < i → ¬ recordEmpty packets j → lostFrom packets j = 0) :
    lostFrom packets i = 2 * emptyRun packets i % 3 := by
  induction i, hpos using Nat.le_induction with
  | base => rfl
  | succ i hpos ih =>
    obtain ⟨j, rfl⟩ : ∃ j, i = j + 1 := ⟨i - 1, by omega⟩
    have hlost := ih fun k hk hlt => h k hk (Nat.lt_succ_of_lt hlt)
    rw [lostFrom, emptyRun]
    by_cases hempty : recordEmpty packets (j + 1)
    · rw [if_pos hempty, if_pos hempty]
      rcases hvalue : lostFrom packets (j + 1) with _ | lost <;> rw [hvalue] at hlost <;> simp only <;>
        omega
    · have hzero := h (j + 1) hpos (Nat.lt_succ_self _) hempty
      rw [if_neg hempty, if_neg hempty, hzero]

/-- No well-formed record is lost exactly when the malformed records before
each come in threes. -/
theorem lostFrom_eq_zero_iff (packets : List EndpointPacket) (n : ℕ) :
    (∀ i, 1 ≤ i → i < n → ¬ recordEmpty packets i → lostFrom packets i = 0) ↔
      ∀ i, 1 ≤ i → i < n → ¬ recordEmpty packets i → 3 ∣ emptyRun packets i := by
  constructor
  · intro h i hpos hlt hempty
    have hlost := lostFrom_eq hpos fun j hj hji => h j hj (hji.trans hlt)
    rw [h i hpos hlt hempty] at hlost
    omega
  · intro h i
    induction i using Nat.strong_induction_on with
    | _ i ih =>
      intro hpos hlt hempty
      have hlost := lostFrom_eq hpos fun j hj hji => ih j hji hj (hji.trans hlt)
      have hthree := h i hpos hlt hempty
      omega

/-! ## The assembler of a session -/

/-- The driver's assembler after `packets`: idle while the open record is
lost with the one after it, or none was opened yet, and else in the open
record. -/
inductive Follows (packets : List EndpointPacket) (decoder : StreamDecoder) : Prop where
  /-- nothing is open -/
  | idle (hcurrent : decoder.current = none) (hdiscard : decoder.discardFirstRecord = true)
      (hlost : ∀ i, (acceptedHeaders packets).length = i + 1 → lostFrom packets i = 2)
  /-- record `i` is open -/
  | inside (i : ℕ) (record : PendingRecord) (hlength : (acceptedHeaders packets).length = i + 1)
      (hcurrent : decoder.current = some record)
      (hentropy : record.entropy = recordEntropy packets i)
      (htimestamp : record.timestamp = headerTimestamp (headerData packets i))
      (hflags : record.flags = headerFlags (headerData packets i))
      (hlost : lostFrom packets i = if decoder.discardFirstRecord then 1 else 0)

/-- The driver's assembler after `packets`. -/
structure Assembling (packets : List EndpointPacket) (decoder : StreamDecoder) : Prop where
  /-- a boundary is pending as the reference says -/
  pending : decoder.boundaryPending = boundarySince packets
  /-- the limit of the driver's assembler -/
  maximum : decoder.maxRecordSize = StreamDecoder.defaultMaxRecordSize
  /-- what is open -/
  follows : Follows packets decoder

theorem assembling_new : Assembling [] .new :=
  ⟨rfl, rfl, .idle rfl rfl fun _ h => by cases h⟩

section Step

variable {packets : List EndpointPacket} {decoder : StreamDecoder} {packet : EndpointPacket}

theorem Assembling.accepts_eq (h : Assembling packets decoder) (packet : EndpointPacket) :
    decoder.accepts packet = (packet.looksLikeHeader && boundarySince packets) := by
  rw [StreamDecoder.accepts, EndpointPacket.looksLikeHeader, h.pending, Bool.and_assoc]

theorem feedPacket_ok {next : StreamDecoder} {frame : Option CompressedFrame}
    (h : decoder.pushPacket packet = (next, .ok frame)) : feedPacket decoder packet = (next, frame) := by
  rw [feedPacket, h]

theorem feedPacket_error {next : StreamDecoder} {error : StreamDecodeError}
    (h : decoder.pushPacket packet = (next, .error error)) :
    feedPacket decoder packet = (next.reset, none) := by
  rw [feedPacket, h]

/-- The open record grows by the video bytes of a packet that is no header. -/
theorem Follows.continue {next : StreamDecoder} (h : Follows packets decoder)
    (hnot : ¬ (packet.looksLikeHeader && boundarySince packets))
    (hdiscard : next.discardFirstRecord = decoder.discardFirstRecord)
    (hcurrent : next.current = decoder.current.map fun record =>
      { record with entropy := record.entropy ++ packet.videoData }) :
    Follows (packets ++ [packet]) next := by
  have hheaders := acceptedHeaders_continue hnot
  cases h with
  | idle hnone hfirst hlost =>
    rw [hnone] at hcurrent
    refine .idle hcurrent (hdiscard.trans hfirst) fun i hi => ?_
    rw [hheaders] at hi
    rw [lostFrom_append _ (by omega)]
    exact hlost i hi
  | inside i record hlength hsome hentropy htimestamp hflags hlost =>
    rw [hsome] at hcurrent
    refine .inside i _ (by rw [hheaders, hlength]) hcurrent ?_ ?_ ?_ ?_
    · rw [recordEntropy_continue hnot hlength, ← hentropy]
    · rw [headerData_append _ (by omega), ← htimestamp]
    · rw [headerData_append _ (by omega), ← hflags]
    · rw [lostFrom_append _ (by omega), hlost, hdiscard]

/-- The bytes of the open record and of a packet that continues it. -/
theorem Follows.length_le {record : PendingRecord} (h : Follows packets decoder)
    (hnot : ¬ (packet.looksLikeHeader && boundarySince packets))
    (hcurrent : decoder.current = some record) :
    (bufferedEntropy (packets ++ [packet])).length =
      record.entropy.length + packet.videoData.length := by
  cases h with
  | idle hnone =>
    rw [hnone] at hcurrent
    cases hcurrent
  | inside i opened hlength hsome hentropy =>
    obtain rfl : opened = record := Option.some.inj (hsome.symm.trans hcurrent)
    have hlength' : (acceptedHeaders (packets ++ [packet])).length = i + 1 := by
      rw [acceptedHeaders_continue hnot, hlength]
    rw [bufferedEntropy_succ hlength', recordEntropy_continue hnot hlength, hentropy,
      List.length_append]

/-- A packet that ends no record. -/
theorem Assembling.continue (h : Assembling packets decoder)
    (hnot : ¬ (packet.looksLikeHeader && boundarySince packets))
    (hlimit : (bufferedEntropy (packets ++ [packet])).length ≤ StreamDecoder.defaultMaxRecordSize) :
    Assembling (packets ++ [packet]) (feedPacket decoder packet).1 ∧
      (feedPacket decoder packet).2 = none := by
  have hpending := boundarySince_continue hnot
  have haccepts : decoder.accepts packet = false := by
    rw [h.accepts_eq]
    exact Bool.eq_false_iff.mpr hnot
  have hcase := StreamDecoder.pushPacket_case decoder packet
  generalize hpushed : decoder.pushPacket packet = pushed at hcase
  cases hcase with
  | boundary hboundary =>
    rw [feedPacket_ok hpushed]
    have hannounces : packet.announces = isActiveBoundary packet.data := by
      simp [EndpointPacket.announces, hboundary]
    have hnone : packet.videoData = [] := by
      simp [EndpointPacket.videoData, hboundary]
    refine ⟨⟨?_, h.maximum, h.follows.continue hnot rfl ?_⟩, rfl⟩
    · rw [hpending, hannounces, ← h.pending]
    · simp [hnone]
  | ignored hvideo _ hcurrent =>
    rw [feedPacket_ok hpushed]
    have hannounces : packet.announces = false := by
      simp [EndpointPacket.announces, hvideo]
    refine ⟨⟨?_, h.maximum, h.follows.continue hnot rfl ?_⟩, rfl⟩
    · rw [hpending, hannounces, Bool.false_or, h.pending]
    · rw [hcurrent]
      rfl
  | refused record hvideo _ hcurrent hlarge =>
    -- the reference's record would be too large as well
    have hdata : packet.videoData = packet.data := if_pos hvideo
    rw [h.follows.length_le hnot hcurrent, hdata] at hlimit
    rw [h.maximum] at hlarge
    omega
  | continued record hvideo _ hcurrent hfits =>
    rw [feedPacket_ok hpushed]
    have hannounces : packet.announces = false := by
      simp [EndpointPacket.announces, hvideo]
    have hdata : packet.videoData = packet.data := if_pos hvideo
    refine ⟨⟨?_, h.maximum, h.follows.continue hnot rfl ?_⟩, rfl⟩
    · rw [hpending, hannounces, Bool.false_or, ← h.pending]
    · rw [hcurrent, hdata]
      rfl
  | opens htrue | discards _ htrue | malformed _ _ htrue | emits _ _ htrue =>
    rw [haccepts] at htrue
    cases htrue

/-- The losses at the record that a header opens. -/
theorem lostFrom_header {i : ℕ} (hheader : packet.looksLikeHeader && boundarySince packets)
    (hlength : (acceptedHeaders packets).length = i + 1) :
    lostFrom (packets ++ [packet]) (i + 1) =
      match lostFrom packets i with
      | 0 => if recordEmpty packets i then 2 else 0
      | lost + 1 => lost := by
  rw [lostFrom, lostFrom_append _ (by omega)]
  simp only [recordEmpty_close hheader hlength]

/-- A header opens the next record. -/
theorem Follows.header {next : StreamDecoder} {clock : UInt64}
    (hheader : packet.looksLikeHeader && boundarySince packets)
    (hcurrent : next.current = some (StreamDecoder.opened packet.data clock))
    (hlost : lostFrom (packets ++ [packet]) (acceptedHeaders packets).length =
      if next.discardFirstRecord then 1 else 0) : Follows (packets ++ [packet]) next := by
  refine .inside (acceptedHeaders packets).length _ ?_ hcurrent ?_ ?_ ?_ hlost
  · rw [acceptedHeaders_accept hheader, List.length_append, List.length_singleton]
  · rw [recordEntropy_accept hheader, StreamDecoder.opened]
  · rw [headerData_accept hheader, StreamDecoder.opened]
  · rw [headerData_accept hheader, StreamDecoder.opened]

/-- After a reset the record that the header opened is lost. -/
theorem Follows.reset {next : StreamDecoder} {i : ℕ}
    (hheader : packet.looksLikeHeader && boundarySince packets)
    (hlength : (acceptedHeaders packets).length = i + 1)
    (hlost : lostFrom (packets ++ [packet]) (i + 1) = 2) :
    Follows (packets ++ [packet]) next.reset := by
  refine .idle rfl rfl fun j hj => ?_
  rw [acceptedHeaders_accept hheader, List.length_append, List.length_singleton, hlength] at hj
  rw [← Nat.succ.inj hj, hlost]

/-- The frame of the open record is made of it. -/
theorem frameOf_finished {i : ℕ} {record : PendingRecord} {jpeg : List UInt8}
    (hheader : packet.looksLikeHeader && boundarySince packets)
    (hlength : (acceptedHeaders packets).length = i + 1)
    (hentropy : record.entropy = recordEntropy packets i)
    (htimestamp : record.timestamp = headerTimestamp (headerData packets i))
    (hflags : record.flags = headerFlags (headerData packets i))
    (hjpeg : reconstructJpeg record.entropy = .ok jpeg) :
    FrameOf (packets ++ [packet]) i (decoder.finishedFrame record packet.data jpeg) := by
  refine ⟨?_, ?_, ?_, ?_⟩
  · rw [recordEntropy_close hheader hlength, ← hentropy, hjpeg]
    rfl
  · rw [headerData_append _ (by omega), ← htimestamp]
    rfl
  · rw [recordDelta_accept hheader hlength, ← htimestamp]
    rfl
  · rw [headerData_append _ (by omega), ← hflags]
    rfl

/-- A header that ends record `i`, if there is one. -/
theorem Assembling.header (h : Assembling packets decoder)
    (hheader : packet.looksLikeHeader && boundarySince packets) :
    Assembling (packets ++ [packet]) (feedPacket decoder packet).1 ∧
      ∀ i, (acceptedHeaders packets).length = i + 1 →
        if lostFrom packets i = 0 ∧ ¬ recordEmpty packets i then
          ∃ frame, (feedPacket decoder packet).2 = some frame ∧ FrameOf (packets ++ [packet]) i frame
        else (feedPacket decoder packet).2 = none := by
  have hpending := boundarySince_accept hheader
  have haccepts : decoder.accepts packet = true := by
    rw [h.accepts_eq]
    exact hheader
  obtain ⟨-, hmaximum, hfollows⟩ := h
  cases hfollows with
  | idle hcurrent hdiscard hlost =>
    rw [feedPacket_ok (StreamDecoder.PushCase.opens haccepts hcurrent).eq]
    refine ⟨⟨hpending.symm, hmaximum, .header hheader rfl ?_⟩, fun i hi => ?_⟩
    · rcases hm : (acceptedHeaders packets).length with _ | i
      · simp [lostFrom, hdiscard]
      · simp [lostFrom_header hheader hm, hlost i hm, hdiscard]
    · simp [hlost i hi]
  | inside i record hlength hcurrent hentropy htimestamp hflags hlost =>
    have hindex : ∀ j, (acceptedHeaders packets).length = j + 1 → j = i := fun j hj => by omega
    -- the losses at record `i` say whether the assembler drops it
    have hnext := lostFrom_header hheader hlength
    rcases hdiscard : decoder.discardFirstRecord with _ | _ <;> rw [hdiscard] at hlost <;>
      simp only [if_true, Bool.false_eq_true, if_false] at hlost <;> rw [hlost] at hnext
    · by_cases hempty : recordEmpty packets i
      · -- the report makes the driver forget the record just opened
        have herror : reconstructJpeg record.entropy = .error .emptyEntropy :=
          reconstructJpeg_error.mpr ⟨rfl, by rw [hentropy]; exact hempty⟩
        rw [feedPacket_error
          (StreamDecoder.PushCase.malformed record _ haccepts hcurrent hdiscard herror).eq]
        refine ⟨⟨hpending.symm, hmaximum, .reset hheader hlength ?_⟩, fun j hj => ?_⟩
        · simpa [hempty] using hnext
        · obtain rfl := hindex j hj
          simp [hempty]
      · obtain ⟨jpeg, hjpeg⟩ : ∃ jpeg, reconstructJpeg record.entropy = .ok jpeg := by
          rw [recordEmpty] at hempty
          push Not at hempty
          rw [hentropy]
          exact ⟨_, reconstructJpeg_ok hempty⟩
        rw [feedPacket_ok
          (StreamDecoder.PushCase.emits record jpeg haccepts hcurrent hdiscard hjpeg).eq]
        refine ⟨⟨hpending.symm, hmaximum, .header hheader rfl ?_⟩, fun j hj => ?_⟩
        · simpa [hlength, hempty, hdiscard] using hnext
        · obtain rfl := hindex j hj
          rw [if_pos ⟨hlost, hempty⟩]
          exact ⟨_, rfl,
            frameOf_finished hheader hlength hentropy htimestamp hflags hjpeg⟩
    · rw [feedPacket_ok
        (StreamDecoder.PushCase.discards record haccepts hcurrent hdiscard).eq]
      refine ⟨⟨hpending.symm, hmaximum, .header hheader rfl ?_⟩, fun j hj => ?_⟩
      · simpa [hlength] using hnext
      · obtain rfl := hindex j hj
        simp [hlost]

end Step

/-! ## Runs -/

theorem WithinLimit.of_append {maximum : ℕ} {packets rest : List EndpointPacket}
    (h : WithinLimit maximum (packets ++ rest)) : WithinLimit maximum packets := by
  intro n hn
  have hbound := h n (by rw [List.length_append]; omega)
  rwa [List.take_append_of_le_length hn] at hbound

/-- One packet, whatever it does. -/
theorem Assembling.step {packets : List EndpointPacket} {decoder : StreamDecoder}
    {packet : EndpointPacket} (h : Assembling packets decoder)
    (hlimit : WithinLimit StreamDecoder.defaultMaxRecordSize (packets ++ [packet])) :
    Assembling (packets ++ [packet]) (feedPacket decoder packet).1 := by
  by_cases hheader : packet.looksLikeHeader && boundarySince packets
  · exact (h.header hheader).1
  · have hbound := hlimit _ le_rfl
    rw [List.take_length] at hbound
    exact (h.continue hheader hbound).1

/-- The driver's assembler after a session's packets. -/
theorem assembling_final {packets : List EndpointPacket}
    (hlimit : WithinLimit StreamDecoder.defaultMaxRecordSize packets) :
    Assembling packets (Mealy.final feedPacket .new packets) := by
  induction packets using List.reverseRecOn with
  | nil => exact assembling_new
  | append_singleton packets packet ih =>
    rw [Mealy.final_append]
    exact (ih hlimit.of_append).step hlimit

/-- The driver assembles what the packets give. -/
theorem assembledFrom_eq {arrivals : List Arrival}
    (hanswers : ∀ arrival ∈ arrivals, arrival.answer ≠ .disconnected) :
    assembledFrom arrivals =
      (Mealy.outputs feedPacket .new (arrivals.map Arrival.packet)).reduceOption := by
  have hsame : ∀ decoder : StreamDecoder,
      Mealy.outputs decodeEvent decoder ((arrivals.map Arrival.event).map Prod.fst) =
        Mealy.outputs feedPacket decoder (arrivals.map Arrival.packet) := by
    clear hanswers
    induction arrivals with
    | nil => exact fun _ => rfl
    | cons arrival arrivals ih => exact fun decoder => congrArg _ (ih _)
  rw [assembledFrom, runSession_assembled, hsame, List.nil_append]
  intro event hevent
  obtain ⟨arrival, harrival, rfl⟩ := List.mem_map.mp hevent
  exact ⟨rfl, hanswers arrival harrival⟩

/-- What the driver assembles at an event is what its packet gives. -/
theorem emitsAt_iff {arrivals : List Arrival}
    (hanswers : ∀ arrival ∈ arrivals, arrival.answer ≠ .disconnected)
    {past rest : List EndpointPacket} {packet : EndpointPacket}
    (hsplit : arrivals.map Arrival.packet = past ++ packet :: rest) (frame : CompressedFrame) :
    EmitsAt arrivals past.length frame ↔
      (feedPacket (Mealy.final feedPacket .new past) packet).2 = some frame := by
  have htake : ∀ n, assembledFrom (arrivals.take n) =
      (Mealy.outputs feedPacket .new ((arrivals.map Arrival.packet).take n)).reduceOption := by
    intro n
    rw [assembledFrom_eq fun arrival h => hanswers arrival (List.mem_of_mem_take h), List.map_take]
  have hnow : (past ++ packet :: rest).take (past.length + 1) = past ++ [packet] := by
    rw [List.take_length_add_append]
    rfl
  rw [EmitsAt, htake, htake, hsplit, hnow, List.take_left, Mealy.outputs_append,
    List.reduceOption_append, List.append_cancel_left_eq]
  rcases hframe : (feedPacket (Mealy.final feedPacket .new past) packet).2 with _ | emitted
  · simp [hframe]
  · simp [hframe]

/-! ## Records of a session -/

theorem headerPosition_strictMono {packets : List EndpointPacket} {i j : ℕ} (hij : i < j)
    (hj : j < (acceptedHeaders packets).length) :
    headerPosition packets i < headerPosition packets j := by
  rw [headerPosition, headerPosition, List.getD_eq_getElem _ _ hj,
    List.getD_eq_getElem _ _ (hij.trans hj)]
  exact List.pairwise_iff_getElem.mp (acceptedHeaders_sorted packets) _ _ _ _ hij

/-- Header `k`, with the packets before and after it. -/
theorem header_split {packets : List EndpointPacket} {k : ℕ}
    (hk : k < (acceptedHeaders packets).length) :
    ∃ past packet rest, packets = past ++ packet :: rest ∧ past.length = headerPosition packets k ∧
      (acceptedHeaders past).length = k ∧ (packet.looksLikeHeader && boundarySince past) := by
  have hlt := headerPosition_lt hk
  have hmem := headerPosition_mem hk
  obtain ⟨past, packet, rest, hsplit, hlength⟩ : ∃ past packet rest,
      packets = past ++ packet :: rest ∧ past.length = headerPosition packets k :=
    ⟨_, _, _, by rw [← List.drop_eq_getElem_cons hlt, List.take_append_drop],
      List.length_take_of_le hlt.le⟩
  refine ⟨past, packet, rest, hsplit, hlength, ?_, ?_⟩
  · have hpast : ∀ j < (acceptedHeaders past).length,
        headerPosition packets j = headerPosition past j := by
      intro j hj
      rw [hsplit, headerPosition_append _ hj]
    rcases Nat.lt_trichotomy k (acceptedHeaders past).length with hbelow | hexact | habove
    · have hsmall := headerPosition_lt hbelow
      rw [← hpast k hbelow] at hsmall
      omega
    · exact hexact.symm
    · -- the header after the last one of `past` would be one of `past`
      have hbefore := headerPosition_strictMono habove hk
      have hin := headerPosition_mem (habove.trans hk)
      obtain ⟨more, heq, hmore⟩ := acceptedHeaders_append past (packet :: rest)
      rw [← hsplit] at heq
      rw [heq] at hin
      rcases List.mem_append.mp hin with hin | hin
      · obtain ⟨j, hj, hget⟩ := List.mem_iff_getElem.mp hin
        have hsame : headerPosition packets j =
            headerPosition packets (acceptedHeaders past).length := by
          rw [hpast j hj, headerPosition, List.getD_eq_getElem _ _ hj, hget]
        have hless := headerPosition_strictMono hj (habove.trans hk)
        omega
      · have hlate := hmore _ hin
        omega
  · rw [acceptedHeaders, List.mem_filter, ← hlength, hsplit] at hmem
    simpa using hmem.2

/-- The frame of a closed record stays its frame when packets follow. -/
theorem frameOf_append {packets : List EndpointPacket} (rest : List EndpointPacket) {i : ℕ}
    (hclosed : i + 1 < (acceptedHeaders packets).length) (frame : CompressedFrame) :
    FrameOf (packets ++ rest) i frame ↔ FrameOf packets i frame := by
  have hentropy := recordEntropy_append rest hclosed
  have hdata := headerData_append rest (Nat.lt_of_succ_lt hclosed)
  have hdelta := recordDelta_append rest hclosed
  constructor
  · rintro ⟨hjpeg, htimestamp, hdelta', hflags⟩
    rw [hentropy] at hjpeg
    rw [hdata] at htimestamp hflags
    rw [hdelta] at hdelta'
    exact ⟨hjpeg, htimestamp, hdelta', hflags⟩
  · rintro ⟨hjpeg, htimestamp, hdelta', hflags⟩
    exact ⟨by rw [hentropy, hjpeg], by rw [hdata, htimestamp], by rw [hdelta, hdelta'],
      by rw [hdata, hflags]⟩

/-- A record that two accepted headers bound gives its frame at the second of
them, or nothing, according to the losses before it. -/
theorem emitsAt_header {arrivals : List Arrival}
    (hanswers : ∀ arrival ∈ arrivals, arrival.answer ≠ .disconnected)
    (hlimit : WithinLimit StreamDecoder.defaultMaxRecordSize (arrivals.map Arrival.packet)) {i : ℕ}
    (hi : i + 1 < (acceptedHeaders (arrivals.map Arrival.packet)).length)
    (hempty : ¬ recordEmpty (arrivals.map Arrival.packet) i) :
    (∃ frame, EmitsAt arrivals (headerPosition (arrivals.map Arrival.packet) (i + 1)) frame ∧
        FrameOf (arrivals.map Arrival.packet) i frame) ↔
      lostFrom (arrivals.map Arrival.packet) i = 0 := by
  obtain ⟨past, packet, rest, hsplit, hposition, hlength, hheader⟩ := header_split hi
  have hsplit' : past ++ packet :: rest = (past ++ [packet]) ++ rest := by simp
  have hclosed : i + 1 < (acceptedHeaders (past ++ [packet])).length := by
    rw [acceptedHeaders_accept hheader, List.length_append, List.length_singleton, hlength]
    exact Nat.lt_succ_self _
  rw [hsplit] at hlimit
  have hstep := ((assembling_final hlimit.of_append).header hheader).2 i hlength
  have hlost : lostFrom (arrivals.map Arrival.packet) i = lostFrom past i := by
    rw [hsplit, lostFrom_append _ (by omega)]
  have hfull : ¬ recordEmpty past i := by
    rw [hsplit, hsplit', recordEmpty, recordEntropy_append _ hclosed] at hempty
    exact fun h => hempty ((recordEmpty_close hheader hlength).mpr h)
  have hframe : ∀ frame, FrameOf (arrivals.map Arrival.packet) i frame ↔
      FrameOf (past ++ [packet]) i frame := by
    intro frame
    rw [hsplit, hsplit']
    exact frameOf_append rest hclosed frame
  rw [hlost, ← hposition]
  constructor
  · rintro ⟨frame, hemits, -⟩
    rw [emitsAt_iff hanswers hsplit] at hemits
    -- after a loss the header gives nothing
    by_contra hne
    rw [if_neg fun h => hne h.1, hemits] at hstep
    cases hstep
  · intro hzero
    rw [if_pos ⟨hzero, hfull⟩] at hstep
    obtain ⟨frame, hsome, hof⟩ := hstep
    exact ⟨frame, (emitsAt_iff hanswers hsplit frame).mpr hsome, (hframe frame).mpr hof⟩

/-- **What malformed records cost.** In a session of packets without an
oversized record, while the sink is there, the driver emits a frame for every
well-formed record that two accepted headers bound, except the first, exactly
when the malformed records directly before each such record come in threes. -/
theorem session_frames_iff (arrivals : List Arrival)
    (hanswers : ∀ arrival ∈ arrivals, arrival.answer ≠ .disconnected)
    (hlimit : WithinLimit StreamDecoder.defaultMaxRecordSize (arrivals.map Arrival.packet)) :
    let packets := arrivals.map Arrival.packet
    (∀ i, 1 ≤ i → i + 1 < (acceptedHeaders packets).length → ¬ recordEmpty packets i →
        ∃ frame, EmitsAt arrivals (headerPosition packets (i + 1)) frame ∧
          FrameOf packets i frame) ↔
      ∀ i, 1 ≤ i → i + 1 < (acceptedHeaders packets).length → ¬ recordEmpty packets i →
        3 ∣ emptyRun packets i := by
  intro packets
  have hcount := lostFrom_eq_zero_iff packets ((acceptedHeaders packets).length - 1)
  have hbound : ∀ i, i < (acceptedHeaders packets).length - 1 ↔
      i + 1 < (acceptedHeaders packets).length := fun i => Nat.lt_sub_iff_add_lt
  simp only [hbound] at hcount
  rw [← hcount]
  refine forall_congr' fun i => forall_congr' fun _ => forall_congr' fun hi => ?_
  exact forall_congr' fun hempty => emitsAt_header hanswers hlimit hi hempty

/-- A boundary, and a header with one byte of entropy; `answer` is what the
sink would say. -/
def sampleArrivals (entropy : List UInt8) : List Arrival :=
  entropy.flatMap fun byte =>
    [⟨⟨.boundary, [0x08]⟩, 0, .taken⟩,
      ⟨⟨.video, List.replicate 6 0xff ++ [0x00, 0x28, byte]⟩, 0, .taken⟩]

theorem sampleArrivals_answer (entropy : List UInt8) :
    ∀ arrival ∈ sampleArrivals entropy, arrival.answer ≠ .disconnected := by
  intro arrival harrival
  obtain ⟨byte, -, hmem⟩ := List.mem_flatMap.mp harrival
  rcases List.mem_cons.mp hmem with rfl | hmem
  · simp
  · rw [List.mem_singleton.mp hmem]
    simp

/-- Three malformed records in a row cost themselves only. -/
theorem session_frames_three :
    let arrivals := sampleArrivals [1, 2, 0, 0, 0, 3, 4]
    let packets := arrivals.map Arrival.packet
    ∀ i, 1 ≤ i → i + 1 < (acceptedHeaders packets).length → ¬ recordEmpty packets i →
      ∃ frame, EmitsAt arrivals (headerPosition packets (i + 1)) frame ∧
        FrameOf packets i frame := by
  intro arrivals packets
  have hcount : (acceptedHeaders packets).length = 7 := by decide +kernel
  have hthrees : ∀ i < 6, 1 ≤ i → ¬ recordEmpty packets i → 3 ∣ emptyRun packets i := by
    decide +kernel
  refine (session_frames_iff arrivals (sampleArrivals_answer _) (by decide +kernel)).mpr ?_
  intro i hpos hi hempty
  have hlt : i < 6 := by
    rw [hcount] at hi
    omega
  exact hthrees i hlt hpos hempty

/-- **A malformed record costs more than itself.** The record after it, which
two accepted headers bound, gives no frame. -/
theorem session_frames_lost : ¬ ∀ arrivals : List Arrival,
    (∀ arrival ∈ arrivals, arrival.answer ≠ .disconnected) →
    WithinLimit StreamDecoder.defaultMaxRecordSize (arrivals.map Arrival.packet) →
    ∀ i, 1 ≤ i → i + 1 < (acceptedHeaders (arrivals.map Arrival.packet)).length →
      ¬ recordEmpty (arrivals.map Arrival.packet) i →
        ∃ frame, EmitsAt arrivals (headerPosition (arrivals.map Arrival.packet) (i + 1)) frame ∧
          FrameOf (arrivals.map Arrival.packet) i frame := by
  intro h
  obtain ⟨frame, hemits, -⟩ := h (sampleArrivals [1, 0, 2, 3]) (sampleArrivals_answer _)
    (by decide +kernel) 2 (by decide) (by decide +kernel) (by decide +kernel)
  have hnone : (assembledFrom ((sampleArrivals [1, 0, 2, 3]).take (headerPosition
      ((sampleArrivals [1, 0, 2, 3]).map Arrival.packet) 3 + 1))).length = 0 := by decide +kernel
  rw [hemits, List.length_append] at hnone
  simp at hnone

end Handycam
