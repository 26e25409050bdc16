import Handycam.Segmentation

/-!
# The record limit

The assembler refuses a record that outgrows `maxRecordSize`. This file says
what the limit bounds and what its refusal leaves behind, for an assembler
that was used in any way — `decoderAfter` is its state after any list of calls.

* `recordLimit_iff` — a continuation packet is measured before it is added, but
  the bytes that come with a record header are not. The bound holds throughout
  a run exactly when no header packet brings more than the limit by itself.
* `outputs_recordTooLarge` — after a refusal the assembler goes on as a fresh
  one, but for its frame counter.
-/

namespace Handycam

/-! ## States of a used assembler -/

/-- The assembler after a call. -/
def StreamDecoder.call (decoder : StreamDecoder) : DecoderCall → StreamDecoder
  | .push packet => (decoder.pushPacket packet).1
  | .reset => decoder.reset

/-- The assembler with limit `maximum` after a list of calls. -/
def decoderAfter (maximum : ℕ) (calls : List DecoderCall) : StreamDecoder :=
  calls.foldl StreamDecoder.call (StreamDecoder.withMaxRecordSize maximum)

/-- The packets since the last reset, or since the start. -/
def sinceReset (calls : List DecoderCall) : List EndpointPacket :=
  calls.foldl (fun packets call =>
    match call with
    | .push packet => packets ++ [packet]
    | .reset => []) []

theorem decoderAfter_push (maximum : ℕ) (calls : List DecoderCall) (packet : EndpointPacket) :
    decoderAfter maximum (calls ++ [.push packet]) =
      ((decoderAfter maximum calls).pushPacket packet).1 := by
  simp [decoderAfter, StreamDecoder.call]

theorem decoderAfter_reset (maximum : ℕ) (calls : List DecoderCall) :
    decoderAfter maximum (calls ++ [.reset]) = (decoderAfter maximum calls).reset := by
  simp [decoderAfter, StreamDecoder.call]

@[simp] theorem decoderAfter_maxRecordSize (maximum : ℕ) (calls : List DecoderCall) :
    (decoderAfter maximum calls).maxRecordSize = maximum := by
  induction calls using List.reverseRecOn with
  | nil => rfl
  | append_singleton calls call ih =>
    cases call with
    | push packet => rw [decoderAfter_push, StreamDecoder.pushPacket_maxRecordSize, ih]
    | reset =>
      rw [decoderAfter_reset]
      exact ih

/-- Only the packets since the last reset count. -/
theorem decoderAfter_eq_final (maximum : ℕ) (calls : List DecoderCall) :
    decoderAfter maximum calls =
      Mealy.final StreamDecoder.pushPacket (StreamDecoder.withMaxRecordSize maximum)
        (sinceReset calls) := by
  induction calls using List.reverseRecOn with
  | nil => rfl
  | append_singleton calls call ih =>
    cases call with
    | push packet =>
      have hsince : sinceReset (calls ++ [.push packet]) = sinceReset calls ++ [packet] := by
        simp [sinceReset]
      rw [decoderAfter_push, ih, hsince, Mealy.final_append]
      rfl
    | reset =>
      have hsince : sinceReset (calls ++ [.reset]) = [] := by
        simp [sinceReset]
      rw [decoderAfter_reset, StreamDecoder.reset_eq, decoderAfter_maxRecordSize, hsince]
      rfl

/-! ## The bound -/

namespace StreamDecoder

/-- How many bytes of entropy are buffered. -/
def buffered (decoder : StreamDecoder) : ℕ :=
  (decoder.current.map fun record => record.entropy.length).getD 0

/-- How many bytes the open record has once `packet` is taken in: those that
come with a header, or those buffered and what a video packet adds. -/
def collected (decoder : StreamDecoder) (packet : EndpointPacket) : ℕ :=
  if decoder.accepts packet then packet.data.length - 8
  else if decoder.current.isSome then decoder.buffered + packet.videoData.length
  else 0

/-- The limit is kept at a packet: what is buffered afterwards, a record that
becomes a frame, and the answer to a record that grows past the limit. -/
structure KeepsLimit (maximum : ℕ) (decoder : StreamDecoder) (packet : EndpointPacket) : Prop where
  /-- the buffered entropy is bounded -/
  buffered : (decoder.pushPacket packet).1.buffered ≤ maximum
  /-- a frame comes from a record within the limit -/
  emitted : ∀ frame, (decoder.pushPacket packet).2 = .ok (some frame) →
    ∃ record, decoder.current = some record ∧ record.entropy.length ≤ maximum ∧
      reconstructJpeg record.entropy = .ok frame.jpeg
  /-- a record past the limit is refused -/
  answered : maximum < decoder.collected packet →
    (decoder.pushPacket packet).2 = .error (.recordTooLarge maximum)

theorem buffered_some {decoder : StreamDecoder} {record : PendingRecord}
    (h : decoder.current = some record) : decoder.buffered = record.entropy.length := by
  rw [buffered, h]
  rfl

/-- A header leaves its own bytes in the buffer, however many they are. -/
theorem buffered_accepts {decoder : StreamDecoder} {packet : EndpointPacket}
    (h : decoder.accepts packet = true) :
    (decoder.pushPacket packet).1.buffered = packet.data.length - 8 := by
  have hcase := pushPacket_case decoder packet
  generalize decoder.pushPacket packet = pushed at hcase ⊢
  cases hcase with
  | boundary hboundary => simp [accepts, hboundary] at h
  | ignored _ hnot | refused _ _ hnot | continued _ _ hnot =>
    rw [hnot] at h
    cases h
  | opens | discards | malformed | emits => simp [buffered, opened]

/-- A packet keeps the limit exactly when it is no header with more bytes than
the limit. -/
theorem keepsLimit_iff {maximum : ℕ} {decoder : StreamDecoder} {packet : EndpointPacket}
    (hmaximum : decoder.maxRecordSize = maximum) (hbuffered : decoder.buffered ≤ maximum) :
    KeepsLimit maximum decoder packet ↔
      (decoder.accepts packet = true → packet.data.length ≤ maximum + 8) := by
  constructor
  · intro hkeeps haccepts
    have hbound := hkeeps.buffered
    rw [buffered_accepts haccepts] at hbound
    omega
  · intro hheader
    have hcase := pushPacket_case decoder packet
    have hpushed := @buffered_accepts decoder packet
    have hcollected : ∀ data, packet.endpoint = .video → packet.data = data →
        packet.videoData = data := by
      rintro _ hvideo rfl
      exact if_pos hvideo
    refine ⟨?_, ?_, ?_⟩
    · -- a header starts the buffer anew, anything else is measured before it is added
      generalize decoder.pushPacket packet = pushed at hcase hpushed ⊢
      cases hcase with
      | boundary | ignored => exact hbuffered
      | refused => exact Nat.zero_le _
      | continued record hvideo hnot hcurrent hfits =>
        simpa [buffered, hmaximum] using hfits
      | opens haccepts | discards _ haccepts | malformed _ _ haccepts | emits _ _ haccepts =>
        rw [hpushed haccepts]
        have := hheader haccepts
        omega
    · intro frame hframe
      generalize decoder.pushPacket packet = pushed at hcase hframe
      cases hcase with
      | boundary | ignored | refused | continued | opens | discards | malformed => cases hframe
      | emits record jpeg haccepts hcurrent hdiscard hjpeg =>
        obtain rfl := Option.some.inj (Except.ok.inj hframe)
        rw [buffered_some hcurrent] at hbuffered
        exact ⟨record, hcurrent, hbuffered, hjpeg⟩
    · -- what is refused is a continuation, as a header fits by assumption
      intro hlarge
      rw [collected] at hlarge
      generalize decoder.pushPacket packet = pushed at hcase ⊢
      cases hcase with
      | boundary hboundary =>
        have hnot : decoder.accepts packet = false := by
          simp [accepts, hboundary]
        have hnone : packet.videoData = [] := by
          simp [EndpointPacket.videoData, hboundary]
        rw [hnot, hnone] at hlarge
        split at hlarge
        · contradiction
        · split at hlarge
          · exact absurd hlarge (Nat.not_lt.mpr hbuffered)
          · cases hlarge
      | ignored hvideo hnot hcurrent => simp [hnot, hcurrent] at hlarge
      | refused => rw [hmaximum]
      | continued record hvideo hnot hcurrent hfits =>
        simp [hnot, hcurrent, buffered_some hcurrent, hcollected _ hvideo rfl] at hlarge
        omega
      | opens haccepts | discards _ haccepts | malformed _ _ haccepts | emits _ _ haccepts =>
        have := hheader haccepts
        rw [if_pos haccepts] at hlarge
        omega

end StreamDecoder

/-- Every header accepted in a list of calls brings at most `maximum` bytes. -/
def HeadersFit (maximum : ℕ) (calls : List DecoderCall) : Prop :=
  ∀ past packet rest, calls = past ++ .push packet :: rest →
    (decoderAfter maximum past).accepts packet = true → packet.data.length ≤ maximum + 8

/-- The record limit is an invariant of a list of calls: it bounds the buffer
in every state, and every packet keeps it. -/
def LimitInvariant (maximum : ℕ) (calls : List DecoderCall) : Prop :=
  (∀ past rest, calls = past ++ rest → (decoderAfter maximum past).buffered ≤ maximum) ∧
    ∀ past packet rest, calls = past ++ .push packet :: rest →
      StreamDecoder.KeepsLimit maximum (decoderAfter maximum past) packet

/-- While the headers fit, the buffer stays within the limit. -/
theorem buffered_le {maximum : ℕ} {calls : List DecoderCall} (hfit : HeadersFit maximum calls) :
    (decoderAfter maximum calls).buffered ≤ maximum := by
  induction calls using List.reverseRecOn with
  | nil => exact Nat.zero_le _
  | append_singleton calls call ih =>
    have hbefore : HeadersFit maximum calls := by
      rintro past packet rest rfl
      exact hfit past packet (rest ++ [call]) (by simp)
    cases call with
    | reset =>
      rw [decoderAfter_reset]
      exact Nat.zero_le _
    | push packet =>
      have hheader := hfit calls packet [] rfl
      have hkeeps := (StreamDecoder.keepsLimit_iff (decoderAfter_maxRecordSize maximum calls)
        (ih hbefore)).mpr hheader
      rw [decoderAfter_push]
      exact hkeeps.buffered

/-- **The record limit.** In a run of an assembler, with resets anywhere, the
buffered entropy stays within the limit, frames come from records within it and
a record that grows past it is refused, exactly when no accepted header packet
brings more bytes than the limit by itself. -/
theorem recordLimit_iff (maximum : ℕ) (calls : List DecoderCall) :
    LimitInvariant maximum calls ↔ HeadersFit maximum calls := by
  constructor
  · rintro ⟨hbuffered, hkeeps⟩ past packet rest hsplit
    have hbound := hbuffered past (.push packet :: rest) hsplit
    exact (StreamDecoder.keepsLimit_iff (decoderAfter_maxRecordSize maximum past) hbound).mp
      (hkeeps past packet rest hsplit)
  · intro hfit
    have hpast : ∀ past rest, calls = past ++ rest →
        (decoderAfter maximum past).buffered ≤ maximum := by
      rintro past rest rfl
      refine buffered_le ?_
      rintro earlier packet between rfl
      exact hfit earlier packet (between ++ rest) (by simp)
    refine ⟨hpast, fun past packet rest hsplit => ?_⟩
    have hbound := hpast past _ hsplit
    exact (StreamDecoder.keepsLimit_iff (decoderAfter_maxRecordSize maximum past) hbound).mpr
      (hfit past packet rest hsplit)

/-- **A header packet is not measured.** With a limit of four bytes, a header
that brings five leaves all five in the buffer. -/
theorem recordLimit_header : ¬ ∀ maximum calls, LimitInvariant maximum calls := by
  intro h
  have hbound := (h 4 [.push ⟨.boundary, [0x08]⟩,
    .push ⟨.video, List.replicate 6 0xff ++ [0x00, 0x64, 1, 2, 3, 4, 5]⟩]).1 _ []
    (List.append_nil _).symm
  exact absurd hbound (by decide)

/-! ## After a refusal -/

/-- A result with the frame counter set off by `offset`. -/
def renumber (offset : UInt64) (result : PushResult) : PushResult :=
  result.map (Option.map fun frame => { frame with sequence := frame.sequence + offset })

/-- The frames among the results. -/
def framesOf (results : List PushResult) : List CompressedFrame :=
  results.filterMap fun
    | .ok (some frame) => some frame
    | _ => none

namespace StreamDecoder

/-- An assembler with its frame counter set off by `offset`. -/
def advance (decoder : StreamDecoder) (offset : UInt64) : StreamDecoder :=
  { decoder with nextSequence := decoder.nextSequence + offset }

/-- The frame counter numbers the frames and does nothing else. -/
theorem pushPacket_advance (decoder : StreamDecoder) (offset : UInt64) (packet : EndpointPacket) :
    (decoder.advance offset).pushPacket packet =
      ((decoder.pushPacket packet).1.advance offset,
        renumber offset (decoder.pushPacket packet).2) := by
  have hnext : (decoder.advance offset).nextSequence + 1 = decoder.nextSequence + 1 + offset := by
    rw [advance, UInt64.add_assoc, UInt64.add_comm offset 1, ← UInt64.add_assoc]
  have hcase := pushPacket_case decoder packet
  generalize decoder.pushPacket packet = pushed at hcase ⊢
  apply PushCase.eq
  cases hcase with
  | boundary hboundary => exact .boundary hboundary
  | ignored hvideo hnot hcurrent => exact .ignored hvideo hnot hcurrent
  | refused record hvideo hnot hcurrent hlarge => exact .refused record hvideo hnot hcurrent hlarge
  | continued record hvideo hnot hcurrent hfits =>
    exact .continued record hvideo hnot hcurrent hfits
  | opens haccepts hcurrent => exact .opens haccepts hcurrent
  | discards record haccepts hcurrent hdiscard => exact .discards record haccepts hcurrent hdiscard
  | malformed record error haccepts hcurrent hdiscard herror =>
    exact .malformed record error haccepts hcurrent hdiscard herror
  | emits record jpeg haccepts hcurrent hdiscard hjpeg =>
    have hemits : PushCase (decoder.advance offset) packet _ :=
      .emits record jpeg haccepts hcurrent hdiscard hjpeg
    rw [hnext] at hemits
    exact hemits

/-- A refusal leaves a fresh assembler, but for the frame counter. -/
theorem pushPacket_refused {decoder : StreamDecoder} {packet : EndpointPacket} {maximum : ℕ}
    (h : (decoder.pushPacket packet).2 = .error (.recordTooLarge maximum)) :
    (decoder.pushPacket packet).1 =
      (withMaxRecordSize decoder.maxRecordSize).advance decoder.nextSequence := by
  have hcase := pushPacket_case decoder packet
  generalize decoder.pushPacket packet = pushed at hcase h ⊢
  cases hcase with
  | refused => simp [advance, withMaxRecordSize]
  | boundary | ignored | continued | opens | discards | malformed | emits => cases h

/-- A frame takes the number of the counter, which goes on by one. -/
theorem pushPacket_nextSequence (decoder : StreamDecoder) (packet : EndpointPacket) :
    (decoder.pushPacket packet).1.nextSequence =
        decoder.nextSequence + UInt64.ofNat (framesOf [(decoder.pushPacket packet).2]).length ∧
      ∀ frame ∈ framesOf [(decoder.pushPacket packet).2], frame.sequence = decoder.nextSequence := by
  have hcase := pushPacket_case decoder packet
  generalize decoder.pushPacket packet = pushed at hcase ⊢
  cases hcase with
  | emits => simp [framesOf, finishedFrame]
  | boundary | ignored | refused | continued | opens | discards | malformed => simp [framesOf]

end StreamDecoder

theorem framesOf_append (results more : List PushResult) :
    framesOf (results ++ more) = framesOf results ++ framesOf more :=
  List.filterMap_append

/-- The counter of a run, and the numbers of its frames. -/
theorem outputs_sequence (decoder : StreamDecoder) (packets : List EndpointPacket) :
    (Mealy.final StreamDecoder.pushPacket decoder packets).nextSequence =
        decoder.nextSequence + UInt64.ofNat
          (framesOf (Mealy.outputs StreamDecoder.pushPacket decoder packets)).length ∧
      ∀ i frame, (framesOf (Mealy.outputs StreamDecoder.pushPacket decoder packets))[i]? =
        some frame → frame.sequence = decoder.nextSequence + UInt64.ofNat i := by
  induction packets using List.reverseRecOn with
  | nil => simp [framesOf]
  | append_singleton packets packet ih =>
    obtain ⟨hcounter, hnumbers⟩ := ih
    obtain ⟨hnext, hframe⟩ := StreamDecoder.pushPacket_nextSequence
      (Mealy.final StreamDecoder.pushPacket decoder packets) packet
    have houtputs : framesOf (Mealy.outputs StreamDecoder.pushPacket decoder (packets ++ [packet])) =
        framesOf (Mealy.outputs StreamDecoder.pushPacket decoder packets) ++
          framesOf [((Mealy.final StreamDecoder.pushPacket decoder packets).pushPacket packet).2] := by
      rw [Mealy.outputs_append, framesOf_append]
      rfl
    rw [houtputs, Mealy.final_append]
    constructor
    · rw [List.length_append, UInt64.ofNat_add, ← UInt64.add_assoc, ← hcounter, ← hnext]
      rfl
    · intro i frame hi
      rcases Nat.lt_or_ge i
        (framesOf (Mealy.outputs StreamDecoder.pushPacket decoder packets)).length with hlt | hge
      · rw [List.getElem?_append_left hlt] at hi
        exact hnumbers i frame hi
      · -- at most one frame comes with the last packet
        rw [List.getElem?_append_right hge] at hi
        obtain ⟨hbound, -⟩ := List.getElem?_eq_some_iff.mp hi
        have hone := List.length_filterMap_le (l := [((Mealy.final StreamDecoder.pushPacket decoder
          packets).pushPacket packet).2]) (f := fun
            | .ok (some frame) => some frame
            | _ => none)
        rw [hframe frame (List.mem_of_getElem? hi), hcounter]
        have hlast : i = (framesOf (Mealy.outputs StreamDecoder.pushPacket decoder packets)).length := by
          simp only [framesOf, List.length_singleton] at hbound hone hge ⊢
          omega
        rw [hlast]

/-- The run of an assembler whose counter is set off. -/
theorem outputs_advance (decoder : StreamDecoder) (offset : UInt64) (packets : List EndpointPacket) :
    Mealy.outputs StreamDecoder.pushPacket (decoder.advance offset) packets =
      (Mealy.outputs StreamDecoder.pushPacket decoder packets).map (renumber offset) := by
  induction packets generalizing decoder with
  | nil => rfl
  | cons packet packets ih =>
    rw [Mealy.outputs_cons, StreamDecoder.pushPacket_advance, ih]
    rfl

theorem imageOf_renumber (offset : UInt64) (result : PushResult) :
    imageOf (renumber offset result) = imageOf result := by
  rcases result with error | _ | frame <;> rfl

/-- **After a refusal.** Whatever was done to an assembler before, once it has
refused a record it answers any packets as a fresh one with the same limit
does, but that its frames are numbered on from those emitted since the last
reset. The images it gives come from the later packets alone, and the numbers
of the frames run on across the error. -/
theorem outputs_recordTooLarge (maximum limit : ℕ) (calls : List DecoderCall)
    (packet : EndpointPacket)
    (h : ((decoderAfter maximum calls).pushPacket packet).2 = .error (.recordTooLarge limit))
    (packets : List EndpointPacket) :
    let fresh := StreamDecoder.withMaxRecordSize maximum
    let emitted := framesOf (Mealy.outputs StreamDecoder.pushPacket fresh (sinceReset calls))
    let later := Mealy.outputs StreamDecoder.pushPacket
      (decoderAfter maximum (calls ++ [.push packet])) packets
    later = (Mealy.outputs StreamDecoder.pushPacket fresh packets).map
        (renumber (UInt64.ofNat emitted.length)) ∧
      later.map imageOf = (Mealy.outputs StreamDecoder.pushPacket fresh packets).map imageOf ∧
      ∀ i frame, (emitted ++ framesOf later)[i]? = some frame →
        frame.sequence = UInt64.ofNat i := by
  intro fresh emitted later
  have hmaximum : (decoderAfter maximum calls).maxRecordSize = maximum :=
    decoderAfter_maxRecordSize maximum calls
  have hcounter : (decoderAfter maximum calls).nextSequence = UInt64.ofNat emitted.length := by
    rw [decoderAfter_eq_final, (outputs_sequence fresh (sinceReset calls)).1]
    exact UInt64.zero_add _
  have hstate : decoderAfter maximum (calls ++ [.push packet]) =
      fresh.advance (UInt64.ofNat emitted.length) := by
    rw [decoderAfter_push, StreamDecoder.pushPacket_refused h, hmaximum, hcounter]
  have hlater : later = (Mealy.outputs StreamDecoder.pushPacket fresh packets).map
      (renumber (UInt64.ofNat emitted.length)) := by
    rw [← outputs_advance, ← hstate]
  refine ⟨hlater, ?_, ?_⟩
  · rw [hlater, List.map_map]
    exact List.map_congr_left fun result _ => imageOf_renumber _ result
  · -- all of it is one run of a fresh assembler
    have hrun : framesOf (Mealy.outputs StreamDecoder.pushPacket fresh
        (sinceReset calls ++ packet :: packets)) = emitted ++ framesOf later := by
      have hfinal := decoderAfter_eq_final maximum calls
      rw [Mealy.outputs_append, Mealy.outputs_cons, ← hfinal, h, ← decoderAfter_push,
        framesOf_append]
      rfl
    intro i frame hi
    rw [← hrun] at hi
    rw [(outputs_sequence fresh _).2 i frame hi]
    exact UInt64.zero_add _

/-- Three records of one byte, and a fourth that outgrows a limit of four. -/
def outgrown : List DecoderCall :=
  let boundary : DecoderCall := .push ⟨.boundary, [0x08]⟩
  let header (timestamp entropy : UInt8) : DecoderCall :=
    .push ⟨.video, List.replicate 6 0xff ++ [0x00, timestamp, entropy]⟩
  [boundary, header 0x10 1, boundary, header 0x38 2, boundary, header 0x60 3]

theorem outputs_recordTooLarge_outgrown :
    Mealy.outputs StreamDecoder.pushPacket
        (decoderAfter 4 (outgrown ++ [.push ⟨.video, [4, 5, 6, 7]⟩])) (sinceReset outgrown) =
      (Mealy.outputs StreamDecoder.pushPacket (StreamDecoder.withMaxRecordSize 4)
        (sinceReset outgrown)).map (renumber (UInt64.ofNat (framesOf (Mealy.outputs
          StreamDecoder.pushPacket (StreamDecoder.withMaxRecordSize 4)
            (sinceReset outgrown))).length)) := by
  have hrefused : ((decoderAfter 4 outgrown).pushPacket ⟨.video, [4, 5, 6, 7]⟩).2 =
      .error (.recordTooLarge 4) := by decide +kernel
  exact (outputs_recordTooLarge 4 4 outgrown _ hrefused (sinceReset outgrown)).1

end Handycam
