import Handycam.ReplayCapture

/-!
# Extracting a packet capture

A URB of a packet capture has a group of descriptors, and one list of payloads
for those that have one. `extract_sony_stream.py` takes the groups apart. Here
the URBs are arbitrary; what comes out is the recording of their descriptors.

* **the format** — `UrbRow.Consistent`: the lists of a URB fit together;
* **the recorder** — `extract_iff`: it takes the captures whose URBs are
  consistent, and those only, and an error is that of the first URB that is not;
* **the replay** — `extract_replayed`: the replay command writes the images that
  an assembler makes of the descriptors.
-/

namespace Handycam

/-! ## The descriptors of a URB -/

/-- The descriptor of a URB with an index. -/
def UrbRow.descriptor (urb : UrbRow) (index : ℕ) (status : ℤ) (payload : List UInt8) :
    IsoCompletion where
  endpoint := urb.endpoint
  status := status
  payload := payload
  captureFrame := urb.captureFrame
  startFrame := urb.startFrame + index
  receivedAt := 0

/-- The descriptors from the one with index `index` on, each with its payload. -/
def descriptorsFrom (urb : UrbRow) : ℕ → List (ℕ × ℤ) → List (List UInt8) → List IsoCompletion
  | _, [], _ => []
  | index, (0, status) :: rest, chunks =>
    urb.descriptor index status [] :: descriptorsFrom urb (index + 1) rest chunks
  | index, (_ + 1, status) :: rest, chunks =>
    urb.descriptor index status (chunks.headD []) ::
      descriptorsFrom urb (index + 1) rest chunks.tail

namespace UrbRow

/-- The descriptors of a URB. -/
def completions (urb : UrbRow) : List IsoCompletion :=
  descriptorsFrom urb 0 (urb.lengths.zip urb.statuses) urb.chunks

/-- The lists of a URB fit together. -/
structure Consistent (urb : UrbRow) : Prop where
  /-- each descriptor has a length -/
  lengths : urb.lengths.length = urb.descriptorCount
  /-- each descriptor has a status -/
  statuses : urb.statuses.length = urb.descriptorCount
  /-- each descriptor that is not empty has a payload, of its length -/
  chunks : urb.chunks.map List.length = urb.lengths.filter (· ≠ 0)
  /-- the lengths add up -/
  total : urb.lengths.sum = urb.urbLength

end UrbRow

/-- The frame that an error names. -/
def ExtractError.frame : ExtractError → ℤ
  | .lengthCount frame .. => frame
  | .statusCount frame .. => frame
  | .chunkCount frame .. => frame
  | .lengthSum frame .. => frame
  | .chunkLength frame .. => frame

/-! ## The recorder -/

section Recorder

variable {urb : UrbRow} {past : List IsoCompletion} {index : ℕ} {status : ℤ}

/-- The row of a descriptor without a payload. -/
theorem writeRow_empty :
    writeRow (recording past) urb index 0 status none =
      recording (past ++ [urb.descriptor index status []]) := by
  rw [recording_concat]
  rcases hend : urb.endpoint with _ | _ <;>
    simp [UrbRow.descriptor, writeRow, IsoCompletion.row, Recording.append, hend]

/-- The row of a descriptor with one, and its payload at the end of its file. -/
theorem writeRow_chunk {chunk : List UInt8} (hchunk : chunk ≠ []) :
    writeRow ((recording past).append chunk urb.endpoint) urb index chunk.length status
        (some ((recording past).file urb.endpoint).length) =
      recording (past ++ [urb.descriptor index status chunk]) := by
  rw [recording_concat, recording_file]
  rcases hend : urb.endpoint with _ | _ <;>
    simp [UrbRow.descriptor, writeRow, IsoCompletion.row, Recording.append, hend, hchunk]

/-- **The descriptors of a URB** are recorded if each payload has its length;
there are as many payloads as descriptors that are not empty. -/
theorem extractDescriptors_eq {pairs : List (ℕ × ℤ)} {chunks : List (List UInt8)}
    (hcount : chunks.length = ((pairs.map Prod.fst).filter (· ≠ 0)).length) :
    (chunks.map List.length = (pairs.map Prod.fst).filter (· ≠ 0) ∧
      extractDescriptors urb (recording past) index pairs chunks =
        .ok (recording (past ++ descriptorsFrom urb index pairs chunks))) ∨
    (chunks.map List.length ≠ (pairs.map Prod.fst).filter (· ≠ 0) ∧
      ∃ error, extractDescriptors urb (recording past) index pairs chunks = .error error ∧
        error.frame = urb.captureFrame) := by
  -- only descriptors that are not empty take a payload, so the payloads go with their lengths
  induction pairs generalizing past index chunks with
  | nil =>
    obtain rfl := List.length_eq_zero_iff.mp hcount
    exact .inl ⟨rfl, by rw [extractDescriptors, descriptorsFrom, List.append_nil]⟩
  | cons pair pairs ih =>
    obtain ⟨length, status⟩ := pair
    cases length with
    | zero =>
      have hrest := @ih (past ++ [urb.descriptor index status []]) (index + 1) chunks hcount
      rw [List.append_assoc, List.singleton_append] at hrest
      rw [extractDescriptors, writeRow_empty, descriptorsFrom]
      exact hrest
    | succ length =>
      have hkeep : (((length + 1, status) :: pairs).map Prod.fst).filter (· ≠ 0) =
          (length + 1) :: (pairs.map Prod.fst).filter (· ≠ 0) := by simp
      rw [hkeep] at hcount ⊢
      rcases chunks with _ | ⟨chunk, chunks⟩
      · cases hcount
      · rw [extractDescriptors, descriptorsFrom, List.headD_cons, List.tail_cons, List.map_cons]
        by_cases hlength : chunk.length = length + 1
        · have hchunk : chunk ≠ [] := List.ne_nil_of_length_eq_add_one hlength
          have hrest := @ih (past ++ [urb.descriptor index status chunk]) (index + 1) chunks
            (Nat.succ.inj hcount)
          rw [List.append_assoc, List.singleton_append] at hrest
          rw [if_neg (not_not.mpr hlength), ← hlength]
          dsimp only
          rw [writeRow_chunk hchunk]
          obtain ⟨hsame, hextract⟩ | ⟨hother, hextract⟩ := hrest
          · exact .inl ⟨by rw [hsame], hextract⟩
          · exact .inr ⟨fun hsame => hother (List.cons.inj hsame).2, hextract⟩
        · rw [if_pos hlength]
          exact .inr ⟨fun hsame => hlength (List.cons.inj hsame).1, _, rfl, rfl⟩

/-- **One URB**: a consistent one is recorded, any other is refused. -/
theorem extractUrb_eq (past : List IsoCompletion) (urb : UrbRow) :
    (urb.Consistent ∧
      extractUrb (recording past) urb = .ok (recording (past ++ urb.completions))) ∨
    (¬ urb.Consistent ∧ ∃ error, extractUrb (recording past) urb = .error error ∧
      error.frame = urb.captureFrame) := by
  rw [extractUrb]
  split
  · exact .inr ⟨fun h => ‹urb.lengths.length ≠ _› h.lengths, _, rfl, rfl⟩
  · split
    · exact .inr ⟨fun h => ‹urb.statuses.length ≠ _› h.statuses, _, rfl, rfl⟩
    · split
      · rename_i hchunks
        refine .inr ⟨fun h => hchunks ?_, _, rfl, rfl⟩
        rw [← h.chunks, List.length_map]
      · split
        · exact .inr ⟨fun h => ‹urb.lengths.sum ≠ _› h.total, _, rfl, rfl⟩
        · rename_i hlengths hstatuses hchunks htotal
          rw [not_not] at hlengths hstatuses hchunks htotal
          have hfst : (urb.lengths.zip urb.statuses).map Prod.fst = urb.lengths :=
            List.map_fst_zip (by rw [hlengths, hstatuses])
          have hdescriptors := @extractDescriptors_eq urb past 0 (urb.lengths.zip urb.statuses)
            urb.chunks (by rw [hfst, hchunks])
          rw [hfst] at hdescriptors
          obtain ⟨hsame, hextract⟩ | ⟨hother, hextract⟩ := hdescriptors
          · exact .inl ⟨⟨hlengths, hstatuses, hsame, htotal⟩, hextract⟩
          · exact .inr ⟨fun h => hother h.chunks, hextract⟩

end Recorder

/-- The first URB that is not consistent, if there is one, decides. -/
theorem foldlM_extractUrb (past : List IsoCompletion) (urbs : List UrbRow) :
    ((∀ urb ∈ urbs, urb.Consistent) ∧ urbs.foldlM extractUrb (recording past) =
      .ok (recording (past ++ urbs.flatMap UrbRow.completions))) ∨
    ∃ before urb rest error, urbs = before ++ urb :: rest ∧
      (∀ earlier ∈ before, earlier.Consistent) ∧ ¬ urb.Consistent ∧
      urbs.foldlM extractUrb (recording past) = .error error ∧
      error.frame = urb.captureFrame := by
  induction urbs generalizing past with
  | nil =>
    refine .inl ⟨List.forall_mem_nil _, ?_⟩
    rw [List.flatMap_nil, List.append_nil]
    rfl
  | cons urb urbs ih =>
    rw [List.foldlM_cons]
    obtain ⟨hurb, hextract⟩ | ⟨hurb, error, hextract, hframe⟩ := extractUrb_eq past urb
    · rw [hextract]
      obtain ⟨hurbs, hrest⟩ | ⟨before, other, rest, error, rfl, hbefore, hother, hrest, hframe⟩ :=
        ih (past ++ urb.completions)
      · refine .inl ⟨List.forall_mem_cons.mpr ⟨hurb, hurbs⟩, ?_⟩
        rw [List.flatMap_cons, ← List.append_assoc]
        exact hrest
      · exact .inr ⟨urb :: before, other, rest, error, rfl,
          List.forall_mem_cons.mpr ⟨hurb, hbefore⟩, hother, hrest, hframe⟩
    · rw [hextract]
      exact .inr ⟨[], urb, urbs, error, rfl, List.forall_mem_nil _, hurb, rfl, hframe⟩

/-- A descriptor has its status, its length, and its payload if it is not empty. -/
theorem descriptorsFrom_spec {urb : UrbRow} {index : ℕ} {pairs : List (ℕ × ℤ)}
    {chunks : List (List UInt8)}
    (hchunks : chunks.map List.length = (pairs.map Prod.fst).filter (· ≠ 0)) :
    (descriptorsFrom urb index pairs chunks).map
        (fun completion => (completion.payload.length, completion.status)) = pairs ∧
      ((descriptorsFrom urb index pairs chunks).map IsoCompletion.payload).filter (· ≠ []) =
        chunks ∧
      ∀ completion ∈ descriptorsFrom urb index pairs chunks, completion.endpoint = urb.endpoint := by
  -- the same recursion as above: an empty descriptor leaves the payloads alone
  induction pairs generalizing index chunks with
  | nil =>
    obtain rfl := List.map_eq_nil_iff.mp hchunks
    exact ⟨rfl, rfl, List.forall_mem_nil _⟩
  | cons pair pairs ih =>
    obtain ⟨length, status⟩ := pair
    cases length with
    | zero =>
      obtain ⟨hpairs, hpayloads, hendpoint⟩ := @ih (index + 1) chunks hchunks
      rw [descriptorsFrom]
      refine ⟨?_, ?_, List.forall_mem_cons.mpr ⟨rfl, hendpoint⟩⟩
      · rw [List.map_cons, hpairs]
        rfl
      · rw [List.map_cons, List.filter_cons_of_neg (by simp [UrbRow.descriptor]), hpayloads]
    | succ length =>
      have hkeep : (((length + 1, status) :: pairs).map Prod.fst).filter (· ≠ 0) =
          (length + 1) :: (pairs.map Prod.fst).filter (· ≠ 0) := by simp
      rw [hkeep] at hchunks
      rcases chunks with _ | ⟨chunk, chunks⟩
      · cases hchunks
      · obtain ⟨hlength, hrest⟩ := List.cons.inj hchunks
        have hchunk : chunk ≠ [] := List.ne_nil_of_length_eq_add_one hlength
        obtain ⟨hpairs, hpayloads, hendpoint⟩ := @ih (index + 1) chunks hrest
        rw [descriptorsFrom, List.headD_cons, List.tail_cons]
        refine ⟨?_, ?_, List.forall_mem_cons.mpr ⟨rfl, hendpoint⟩⟩
        · rw [List.map_cons, hpairs]
          simp only [UrbRow.descriptor, hlength]
        · rw [List.map_cons, List.filter_cons_of_pos (by simp [UrbRow.descriptor, hchunk]),
            hpayloads]
          rfl

/-- The descriptors of a consistent URB are what it says. -/
theorem UrbRow.Consistent.completions {urb : UrbRow} (h : urb.Consistent) :
    urb.completions.map (·.payload.length) = urb.lengths ∧
      urb.completions.map IsoCompletion.status = urb.statuses ∧
      (urb.completions.map IsoCompletion.payload).filter (· ≠ []) = urb.chunks ∧
      ∀ completion ∈ urb.completions, completion.endpoint = urb.endpoint := by
  have hsame : urb.lengths.length = urb.statuses.length := by rw [h.lengths, h.statuses]
  have hfst := List.map_fst_zip hsame.le
  have hsnd := List.map_snd_zip hsame.ge
  have hchunks := h.chunks
  rw [← hfst] at hchunks
  obtain ⟨hpairs, hpayloads, hendpoint⟩ := @descriptorsFrom_spec urb 0 _ urb.chunks hchunks
  refine ⟨?_, ?_, hpayloads, hendpoint⟩
  · rw [← hfst, ← hpairs, List.map_map]
    rfl
  · rw [← hsnd, ← hpairs, List.map_map]
    rfl

/-- **The recorder** takes the captures whose URBs are all consistent, and no
other. What it writes is the recording of their descriptors, in order, which
are those that the URBs say; and it names the first URB that is not
consistent. -/
theorem extract_iff (urbs : List UrbRow) :
    (∀ recorded, extract urbs = .ok recorded ↔
      (∀ urb ∈ urbs, urb.Consistent) ∧
        recorded = recording (urbs.flatMap UrbRow.completions)) ∧
    (∀ urb ∈ urbs, urb.Consistent →
      urb.completions.map (·.payload.length) = urb.lengths ∧
        urb.completions.map IsoCompletion.status = urb.statuses ∧
        (urb.completions.map IsoCompletion.payload).filter (· ≠ []) = urb.chunks ∧
        ∀ completion ∈ urb.completions, completion.endpoint = urb.endpoint) ∧
    ∀ error, extract urbs = .error error →
      ∃ before urb rest, urbs = before ++ urb :: rest ∧
        (∀ earlier ∈ before, earlier.Consistent) ∧ ¬ urb.Consistent ∧
        error.frame = urb.captureFrame := by
  have hempty : Recording.empty = recording [] := rfl
  refine ⟨?_, fun urb _ hurb => hurb.completions, ?_⟩
  · intro recorded
    rw [extract, hempty]
    -- the recorder takes every URB, or stops at the first that is not consistent
    obtain ⟨hurbs, hextract⟩ | ⟨before, urb, rest, error, rfl, -, hurb, hextract, -⟩ :=
      foldlM_extractUrb [] urbs
    · rw [hextract, List.nil_append]
      exact ⟨fun heq => ⟨hurbs, (Except.ok.inj heq).symm⟩, fun h => by rw [h.2]⟩
    · rw [hextract]
      constructor
      · intro heq
        cases heq
      · rintro ⟨hurbs, -⟩
        exact absurd (hurbs urb (List.mem_append_right _ List.mem_cons_self)) hurb
  · intro error herror
    rw [extract, hempty] at herror
    obtain ⟨-, hextract⟩ | ⟨before, urb, rest, other, hsplit, hbefore, hurb, hextract, hframe⟩ :=
      foldlM_extractUrb [] urbs
    · rw [hextract] at herror
      cases herror
    · rw [hextract] at herror
      obtain rfl := Except.error.inj herror
      exact ⟨before, urb, rest, hsplit, hbefore, hurb, hframe⟩

/-! ## The replay of a capture -/

/-- The packets of a URB: its payloads, in order. -/
def UrbRow.packets (urb : UrbRow) : List EndpointPacket :=
  urb.chunks.map fun chunk => ⟨urb.endpoint, chunk⟩

/-- The packets of some completions. -/
def payloadPackets (completions : List IsoCompletion) : List EndpointPacket :=
  (completions.filter fun completion => completion.payload ≠ []).map IsoCompletion.packet

theorem UrbRow.Consistent.payloadPackets {urb : UrbRow} (h : urb.Consistent) :
    payloadPackets urb.completions = urb.packets := by
  obtain ⟨-, -, hpayloads, hendpoint⟩ := h.completions
  rw [UrbRow.packets, ← hpayloads, List.filter_map, List.map_map, Handycam.payloadPackets]
  refine List.map_congr_left ?_
  intro completion hcompletion
  rw [IsoCompletion.packet, hendpoint completion (List.mem_of_mem_filter hcompletion)]
  rfl

/-- The replay feeds the packets, and skips what is empty. -/
theorem outputs_replayStep (decoder : StreamDecoder) (completions : List IsoCompletion) :
    (Mealy.outputs IsoCompletion.replayStep decoder completions).reduceOption =
      (Mealy.outputs feedPacket decoder (payloadPackets completions)).reduceOption := by
  induction completions generalizing decoder with
  | nil => rfl
  | cons completion completions ih =>
    rw [Mealy.outputs_cons, IsoCompletion.replayStep, payloadPackets]
    by_cases hempty : completion.payload = []
    · rw [if_pos hempty, List.reduceOption_cons_of_none, ih,
        List.filter_cons_of_neg (by simp [hempty]), payloadPackets]
    · have hrest := ih (feedPacket decoder completion.packet).1
      rw [payloadPackets] at hrest
      rw [if_neg hempty, List.filter_cons_of_pos (by simp [hempty]), List.map_cons,
        Mealy.outputs_cons]
      rcases (feedPacket decoder completion.packet).2 with _ | frame
      · rw [List.reduceOption_cons_of_none, List.reduceOption_cons_of_none, hrest]
      · rw [List.reduceOption_cons_of_some, List.reduceOption_cons_of_some, hrest]

/-- The frames that an assembler makes of a capture. -/
def extractedFrames (urbs : List UrbRow) : List CompressedFrame :=
  (Mealy.outputs feedPacket .new (urbs.flatMap UrbRow.packets)).reduceOption

/-- **Extracting and replaying a capture.** What the recorder takes, the replay
command takes, if its payload files have less than 2⁶⁴ bytes: however the two
threads of the replay interleave, at either speed, it ends without an error,
and has written the images that an assembler makes of the payloads of the
capture, in order, and nothing else. -/
theorem extract_replayed {decoder : JpegDecoder} {urbs : List UrbRow} {recorded : Recording}
    {realtime : Bool} {now : Instant} {actions : List (Threads.Action ReplayInput)}
    {next : ReplayThreads CaptureReplay Vec} {result : Except ReplayFailure Unit}
    (hextract : extract urbs = .ok recorded)
    (hfits : ∀ endpoint, (recorded.file endpoint).length < 2 ^ 64)
    (hrun : runLoop (stdoutOutput decoder .mjpeg)
      (captureLoop recorded (recorded.rows.map .row) realtime)
      (startLoop (captureLoop recorded (recorded.rows.map .row) realtime) [] now) actions =
        some next)
    (hreturned : next.client.point = .returned result) :
    result = .ok () ∧ next.worker.world = (extractedFrames urbs).flatMap CompressedFrame.jpeg := by
  have hempty : Recording.empty = recording [] := rfl
  rw [extract, hempty] at hextract
  obtain ⟨hurbs, hrecorded⟩ | ⟨-, -, -, error, -, -, -, herror, -⟩ := foldlM_extractUrb [] urbs
  · rw [hextract, List.nil_append] at hrecorded
    obtain rfl := Except.ok.inj hrecorded
    have hmemory : FitsMemory (urbs.flatMap UrbRow.completions) := by
      intro endpoint
      rw [← recording_file]
      exact hfits endpoint
    have hpackets : payloadPackets (urbs.flatMap UrbRow.completions) =
        urbs.flatMap UrbRow.packets := by
      rw [payloadPackets, List.filter_flatMap, List.map_flatMap]
      exact List.flatMap_congr fun urb hurb => (hurbs urb hurb).payloadPackets
    have hreplay := replayRows_rowsFrom hmemory (List.nil_append _).symm .new 1
    rw [outputs_replayStep, hpackets] at hreplay
    exact runReplayCapture_recording hreplay hrun hreturned
  · rw [hextract] at herror
    cases herror

/-- An empty descriptor between two headers, after their boundaries. -/
def sampleUrbs : List UrbRow :=
  [⟨1, .boundary, 1, 7, 1, [1], [0], [[0x08]]⟩,
    ⟨2, .video, 18, 7, 3, [9, 0, 9], [0, 1, 0],
      [List.replicate 6 0xff ++ [0x00, 0x28, 1], List.replicate 9 2]⟩,
    ⟨3, .boundary, 1, 8, 1, [1], [0], [[0x08]]⟩,
    ⟨4, .video, 9, 8, 1, [9], [0], [List.replicate 6 0xff ++ [0x00, 0x50, 3]]⟩,
    ⟨5, .boundary, 1, 9, 1, [1], [0], [[0x08]]⟩,
    ⟨6, .video, 9, 9, 1, [9], [0], [List.replicate 6 0xff ++ [0x00, 0x78, 4]]⟩]

/-- What the recorder makes of them. -/
def sampleRecorded : Recording := recording (sampleUrbs.flatMap UrbRow.completions)

/-- A replay of it. -/
def sampleUrbsReplay : List (Threads.Action ReplayInput) :=
  workerSteps 1 ++ turnsAt 0 12 ++ workerSteps 6 ++ turnsAt 0 3

theorem extract_replayed_sampleUrbs :
    ∃ recorded, ∃ next : ReplayThreads CaptureReplay Vec, extract sampleUrbs = .ok recorded ∧
      (extractedFrames sampleUrbs).length = 1 ∧
      next.worker.world = (extractedFrames sampleUrbs).flatMap CompressedFrame.jpeg := by
  have hextract : extract sampleUrbs = .ok sampleRecorded := rfl
  have hany : ((runLoop (stdoutOutput noDecoder .mjpeg)
      (captureLoop sampleRecorded (sampleRecorded.rows.map .row) false)
      (startLoop (captureLoop sampleRecorded (sampleRecorded.rows.map .row) false) ([] : Vec) 0)
        sampleUrbsReplay).any fun next => next.client.point.succeeded) = true := by
    decide +kernel
  obtain ⟨next, hrun, hnext⟩ := Option.any_eq_true _ _ |>.mp hany
  refine ⟨sampleRecorded, next, hextract, by decide +kernel, ?_⟩
  refine (extract_replayed hextract ?_ hrun (ReplayPoint.succeeded_iff.mp hnext)).2
  intro endpoint
  cases endpoint <;> decide

end Handycam
