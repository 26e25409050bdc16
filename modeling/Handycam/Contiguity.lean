import Mathlib
import Handycam.Sync

/-!
# Contiguous audio

Where a PCM block ends is the sum of two conversions to microseconds, each of
them rounded down; where the next block begins is one conversion. So blocks
that follow each other without a missing frame may still look like a gap.

* **rounding** — `div_add_div_iff`: the remainders decide;
* **the last block** — the block that a gap is measured from is the last one
  that was accepted;
* **gaps** — `contiguous_audio_iff`.
-/

namespace Handycam

/-! ## Rounding -/

/-- Rounding the parts is rounding the sum, exactly when the remainders stay
below the divisor together. -/
theorem div_add_div_iff {r : ℕ} (hr : 0 < r) (a b c : ℕ) :
    (a + b + c) / r = a / r + b / r ↔ a % r + b % r + c < r := by
  have hsplit : a + b + c = a % r + b % r + c + r * (a / r + b / r) := by
    have ha := Nat.mod_add_div a r
    have hb := Nat.mod_add_div b r
    rw [Nat.mul_add]
    omega
  rw [hsplit, Nat.add_mul_div_left _ _ hr, Nat.add_eq_right, Nat.div_eq_zero_iff_lt hr]

/-! ## The last accepted event -/

/-- The last accepted event of a track before a position. -/
theorem getLast?_acceptedOn {start : MonotonicTimestamp} {track : MediaTrack}
    {events : List TimedMediaEvent} (htrack : ∀ event ∈ events, event.track = track) {k : ℕ}
    (hk : k ≤ events.length) {last : TimedMediaEvent} :
    (acceptedOn start track (events.take k)).getLast? = some last ↔
      ∃ i < k, events[i]? = some last ∧ last.accepted start ∧
        ∀ j other, i < j → j < k → events[j]? = some other → ¬other.accepted start := by
  induction k with
  | zero => simp [acceptedOn]
  | succ k ih =>
    have hlt : k < events.length := hk
    have htake : events.take (k + 1) = events.take k ++ [events[k]] := by
      rw [List.take_add_one, List.getElem?_eq_getElem hlt]
      rfl
    have hsame : events[k].track = track := htrack _ (List.getElem_mem hlt)
    rw [htake, acceptedOn_concat, hsame, beq_self_eq_true, Bool.true_and]
    by_cases haccepted : events[k].accepted start
    · -- the event itself is the last one
      rw [if_pos haccepted, List.getLast?_append, List.getLast?_singleton]
      constructor
      · intro heq
        obtain rfl : events[k] = last := by simpa using heq
        exact ⟨k, Nat.lt_succ_self k, List.getElem?_eq_getElem hlt, haccepted,
          fun j other hkj hj => absurd hj (by omega)⟩
      · rintro ⟨i, hi, hget, -, hnone⟩
        have hik : i = k := by
          by_contra hne
          exact hnone k _ (by omega) (Nat.lt_succ_self k) (List.getElem?_eq_getElem hlt) haccepted
        subst hik
        rw [List.getElem?_eq_getElem hlt] at hget
        rw [Option.some.inj hget]
        rfl
    · rw [if_neg haccepted, List.append_nil, ih (Nat.le_of_lt hlt)]
      constructor
      · rintro ⟨i, hi, hget, hlast, hnone⟩
        refine ⟨i, by omega, hget, hlast, fun j other hij hj hother => ?_⟩
        obtain hj | rfl := Nat.lt_succ_iff_lt_or_eq.mp hj
        · exact hnone j other hij hj hother
        · rw [List.getElem?_eq_getElem hlt] at hother
          rwa [← Option.some.inj hother]
      · rintro ⟨i, hi, hget, hlast, hnone⟩
        have hik : i ≠ k := by
          rintro rfl
          rw [List.getElem?_eq_getElem hlt] at hget
          exact haccepted (Option.some.inj hget ▸ hlast)
        exact ⟨i, by omega, hget, hlast, fun j other hij hj => hnone j other hij (by omega)⟩

/-! ## Blocks -/

/-- The numbering of `AudioClock`: a block begins where the one before it ends. -/
def Contiguous (chunks : List TimedAudioChunk) : Prop :=
  chunks.IsChain fun chunk next =>
    next.chunk.startSampleFrame.toNat =
      chunk.chunk.startSampleFrame.toNat + chunk.chunk.sampleFrames.toNat

/-- Nothing saturates when the ends of the block are converted. -/
def TimedAudioChunk.InRange (chunk : TimedAudioChunk) : Prop :=
  (chunk.chunk.startSampleFrame.toNat + chunk.chunk.sampleFrames.toNat) * 1000000 < 2 ^ 64

instance (chunk : TimedAudioChunk) : Decidable chunk.InRange :=
  inferInstanceAs (Decidable (_ < _))

/-- No audio event that is timed is reported as a gap. -/
def NoAudioGap (streamStart : MonotonicTimestamp) (events : List TimedMediaEvent) : Prop :=
  ∀ event timing,
    (event, Except.ok timing) ∈ timed streamStart (fun event => event.track == .audio) events →
      timing.discontinuity = false

section Pair

variable {chunk next : TimedAudioChunk}

theorem toNat_samplesToUs {sampleFrames : UInt64} {sampleRateHz : UInt32}
    (hrange : sampleFrames.toNat * 1000000 < 2 ^ 64) :
    (samplesToUs sampleFrames sampleRateHz).toNat =
      sampleFrames.toNat * 1000000 / sampleRateHz.toNat := by
  have hmega : (1000000 : UInt64).toNat = 1000000 := rfl
  rw [samplesToUs, UInt64.toNat_div, UInt64.toNat_saturatingMul, hmega, UInt32.toNat_toUInt64,
    Nat.min_eq_left (by omega)]

/-- Where a block ends: each of its two parts is rounded. -/
theorem endUs_audio (hrange : chunk.InRange) :
    endUs (.audio chunk) =
      chunk.chunk.startSampleFrame.toNat * 1000000 / chunk.format.sampleRateHz.toNat +
        chunk.chunk.sampleFrames.toNat * 1000000 / chunk.format.sampleRateHz.toNat := by
  have hsum : chunk.chunk.startSampleFrame.toNat * 1000000 +
      chunk.chunk.sampleFrames.toNat * 1000000 < 2 ^ 64 := by
    rw [← Nat.add_mul]
    exact hrange
  have hstart : (TimedMediaEvent.audio chunk).positionUs.toNat =
      chunk.chunk.startSampleFrame.toNat * 1000000 / chunk.format.sampleRateHz.toNat :=
    toNat_samplesToUs (Nat.lt_of_le_of_lt (Nat.le_add_right _ _) hsum)
  have hframes : (TimedMediaEvent.audio chunk).durationUs.toNat =
      chunk.chunk.sampleFrames.toNat * 1000000 / chunk.format.sampleRateHz.toNat :=
    toNat_samplesToUs (Nat.lt_of_le_of_lt (Nat.le_add_left _ _) hsum)
  have hend : chunk.chunk.startSampleFrame.toNat * 1000000 / chunk.format.sampleRateHz.toNat +
      chunk.chunk.sampleFrames.toNat * 1000000 / chunk.format.sampleRateHz.toNat < 2 ^ 64 :=
    Nat.lt_of_le_of_lt (Nat.add_le_add (Nat.div_le_self _ _) (Nat.div_le_self _ _)) hsum
  rw [endUs, hstart, hframes, Nat.min_eq_left (Nat.le_sub_one_of_lt hend)]

/-- A block continues another one of its format when the remainders, and the
frames that are missing between them, stay below the rate. -/
theorem continues_iff (hrate : next.format.sampleRateHz = chunk.format.sampleRateHz)
    (horder : chunk.chunk.startSampleFrame.toNat + chunk.chunk.sampleFrames.toNat ≤
      next.chunk.startSampleFrame.toNat)
    (hrange : chunk.InRange) (hnext : next.InRange) :
    (TimedMediaEvent.audio next).positionUs.toNat = endUs (.audio chunk) ↔
      chunk.chunk.startSampleFrame.toNat * 1000000 % chunk.format.sampleRateHz.toNat +
          chunk.chunk.sampleFrames.toNat * 1000000 % chunk.format.sampleRateHz.toNat +
          (next.chunk.startSampleFrame.toNat -
            (chunk.chunk.startSampleFrame.toNat + chunk.chunk.sampleFrames.toNat)) * 1000000 <
        chunk.format.sampleRateHz.toNat := by
  have hpositive : 0 < chunk.format.sampleRateHz.toNat :=
    Nat.pos_of_ne_zero fun hzero => chunk.format.sampleRateHz_ne (UInt32.toNat_inj.mp hzero)
  have hstart : (TimedMediaEvent.audio next).positionUs.toNat =
      next.chunk.startSampleFrame.toNat * 1000000 / next.format.sampleRateHz.toNat :=
    toNat_samplesToUs
      (Nat.lt_of_le_of_lt (Nat.mul_le_mul_right _ (Nat.le_add_right _ _)) hnext)
  rw [endUs_audio hrange, hstart, hrate, ← div_add_div_iff hpositive]
  have hsum : chunk.chunk.startSampleFrame.toNat * 1000000 +
      chunk.chunk.sampleFrames.toNat * 1000000 +
      (next.chunk.startSampleFrame.toNat -
        (chunk.chunk.startSampleFrame.toNat + chunk.chunk.sampleFrames.toNat)) * 1000000 =
      next.chunk.startSampleFrame.toNat * 1000000 := by
    rw [← Nat.add_mul, ← Nat.add_mul, Nat.add_sub_cancel' horder]
  rw [hsum]

end Pair

theorem Contiguous.le {chunks : List TimedAudioChunk} (hcontiguous : Contiguous chunks) {i k : ℕ}
    {chunk next : TimedAudioChunk} (hik : i < k) (hchunk : chunks[i]? = some chunk)
    (hnext : chunks[k]? = some next) :
    chunk.chunk.startSampleFrame.toNat + chunk.chunk.sampleFrames.toNat ≤
      next.chunk.startSampleFrame.toNat := by
  have hsteps := List.isChain_iff_getElem.mp hcontiguous
  induction k generalizing next with
  | zero => exact absurd hik (Nat.not_lt_zero i)
  | succ k ih =>
    obtain ⟨hk, rfl⟩ := List.getElem?_eq_some_iff.mp hnext
    have hstep := hsteps k hk
    obtain hlt | rfl := Nat.lt_succ_iff_lt_or_eq.mp hik
    · have hbefore := ih hlt (List.getElem?_eq_getElem (Nat.lt_of_succ_lt hk))
      omega
    · obtain ⟨_, rfl⟩ := List.getElem?_eq_some_iff.mp hchunk
      exact hstep.ge

/-- A block after an accepted one is reported as a gap unless it starts where
that one ends. -/
theorem any_getLast?_eq_false {before : List TimedMediaEvent} {last : TimedMediaEvent}
    (hlast : before.getLast? = some last) (position : ℕ) :
    before.getLast?.any (fun last => position != endUs last) = false ↔ position = endUs last := by
  rw [hlast, Option.any_some]
  generalize endUs last = endPosition
  exact bne_eq_false_iff_eq

/-- **Contiguous audio.** Blocks of one format that follow each other on the
audio clock are free of gaps exactly when, from each accepted block to the
next one, the remainders of the two conversions stay below the rate. -/
theorem contiguous_audio_iff (streamStart : MonotonicTimestamp) (format : AudioFormat)
    (chunks : List TimedAudioChunk) (events : List TimedMediaEvent)
    (hevents : (events.filter fun event => event.track == .audio) = chunks.map .audio)
    (hformat : ∀ chunk ∈ chunks, chunk.format = format) (hcontiguous : Contiguous chunks)
    (hrange : ∀ chunk ∈ chunks, chunk.InRange)
    (hsource : ∀ chunk ∈ chunks, chunk.sourceDiscontinuity = false) :
    NoAudioGap streamStart events ↔
      ∀ (i k : ℕ) (chunk next : TimedAudioChunk), i < k → chunks[i]? = some chunk →
        chunks[k]? = some next →
        (TimedMediaEvent.audio chunk).accepted streamStart →
        (TimedMediaEvent.audio next).accepted streamStart →
        (∀ (j : ℕ) (other : TimedAudioChunk), i < j → j < k → chunks[j]? = some other →
          ¬(TimedMediaEvent.audio other).accepted streamStart) →
        chunk.chunk.startSampleFrame.toNat * 1000000 % format.sampleRateHz.toNat +
            chunk.chunk.sampleFrames.toNat * 1000000 % format.sampleRateHz.toNat +
            (next.chunk.startSampleFrame.toNat -
              (chunk.chunk.startSampleFrame.toNat + chunk.chunk.sampleFrames.toNat)) * 1000000 <
          format.sampleRateHz.toNat := by
  have htrack : ∀ event ∈ chunks.map TimedMediaEvent.audio, event.track = .audio := by
    intro event hevent
    obtain ⟨chunk, -, rfl⟩ := List.mem_map.mp hevent
    rfl
  have hpair : ∀ (i k : ℕ) (chunk next : TimedAudioChunk), i < k → chunks[i]? = some chunk →
      chunks[k]? = some next →
      ((TimedMediaEvent.audio next).positionUs.toNat = endUs (.audio chunk) ↔
        chunk.chunk.startSampleFrame.toNat * 1000000 % format.sampleRateHz.toNat +
            chunk.chunk.sampleFrames.toNat * 1000000 % format.sampleRateHz.toNat +
            (next.chunk.startSampleFrame.toNat -
              (chunk.chunk.startSampleFrame.toNat + chunk.chunk.sampleFrames.toNat)) * 1000000 <
          format.sampleRateHz.toNat) := by
    intro i k chunk next hik hchunk hnext
    have hmem := List.mem_of_getElem? hchunk
    have hmem' := List.mem_of_getElem? hnext
    have hrate : next.format.sampleRateHz = chunk.format.sampleRateHz := by
      rw [hformat chunk hmem, hformat next hmem']
    rw [continues_iff hrate (hcontiguous.le hik hchunk hnext) (hrange chunk hmem)
      (hrange next hmem'), hformat chunk hmem]
  constructor
  · -- the block before `next` on the timeline is `chunk`
    intro hgap i k chunk next hik hchunk hnext haccepted hnextAccepted hnone
    have hk : k < chunks.length := (List.getElem?_eq_some_iff.mp hnext).1
    have hevent : (chunks.map TimedMediaEvent.audio)[k]? = some (.audio next) := by
      rw [List.getElem?_map, hnext]
      rfl
    have hlast : (acceptedOn streamStart .audio
        ((chunks.map TimedMediaEvent.audio).take k)).getLast? = some (.audio chunk) := by
      refine (getLast?_acceptedOn htrack (by simpa using hk.le)).mpr ⟨i, hik, ?_, haccepted, ?_⟩
      · rw [List.getElem?_map, hchunk]
        rfl
      · intro j other hij hjk hother
        rw [List.getElem?_map, Option.map_eq_some_iff] at hother
        obtain ⟨otherChunk, hother, rfl⟩ := hother
        exact hnone j otherChunk hij hjk hother
    have hfalse := hgap (.audio next) _ (mem_timed_track.mpr ⟨k, by rw [hevents, hevent], by
      rw [hevents, expectedResult, if_pos hnextAccepted]⟩)
    refine (hpair i k chunk next hik hchunk hnext).mp ?_
    rw [expectedTiming, expectedDiscontinuity] at hfalse
    exact (any_getLast?_eq_false hlast _).mp (Bool.or_eq_false_iff.mp hfalse).2
  · intro hsmall event timing hmem
    obtain ⟨k, hevent, hresult⟩ := mem_timed_track.mp hmem
    rw [hevents] at hevent hresult
    rw [List.getElem?_map, Option.map_eq_some_iff] at hevent
    obtain ⟨next, hnext, rfl⟩ := hevent
    rw [expectedResult] at hresult
    split at hresult
    · rename_i hnextAccepted
      obtain rfl := Except.ok.inj hresult
      have hk : k < chunks.length := (List.getElem?_eq_some_iff.mp hnext).1
      rw [expectedTiming, expectedDiscontinuity, TimedMediaEvent.sourceDiscontinuity,
        hsource next (List.mem_of_getElem? hnext), Bool.false_or]
      rcases hlast : (acceptedOn streamStart .audio
          ((chunks.map TimedMediaEvent.audio).take k)).getLast? with _ | last
      · -- the first block follows none
        exact congrArg (Option.any _) hlast
      · obtain ⟨i, hik, hchunk, haccepted, hnone⟩ :=
          (getLast?_acceptedOn htrack (by simpa using hk.le)).mp hlast
        rw [List.getElem?_map, Option.map_eq_some_iff] at hchunk
        obtain ⟨chunk, hchunk, rfl⟩ := hchunk
        refine (any_getLast?_eq_false hlast _).mpr ((hpair i k chunk next hik hchunk hnext).mpr
          (hsmall i k chunk next hik hchunk hnext haccepted hnextAccepted ?_))
        intro j other hij hjk hother
        refine hnone j (.audio other) hij hjk ?_
        rw [List.getElem?_map, hother]
        rfl
    · cases hresult

/-- A block of `sampleFrames` frames at 16 kHz. -/
def sampleBlock (startSampleFrame : UInt64) (sampleFrames : UInt32) : TimedAudioChunk where
  observedStart := .fromMicros 0
  timestampAccuracy := .hardware
  format := ⟨16000, 2, .signed16LittleEndian, sixteenKilohertz_ne, stereo_ne⟩
  chunk := ⟨[], startSampleFrame, sampleFrames⟩
  sourceDiscontinuity := false

/-- Blocks of 40 ms leave no remainders. -/
theorem contiguous_audio_iff_periods :
    NoAudioGap (.fromMicros 0)
      ([sampleBlock 0 640, sampleBlock 640 640].map TimedMediaEvent.audio) := by
  refine (contiguous_audio_iff (.fromMicros 0) (sampleBlock 0 640).format
    [sampleBlock 0 640, sampleBlock 640 640] _ rfl ?_ ?_ ?_ ?_).mpr ?_
  · decide
  · exact List.isChain_pair.mpr rfl
  · decide +kernel
  · decide
  · intro i k chunk next hik hchunk hnext _ _ _
    have hk : k < 2 := (List.getElem?_eq_some_iff.mp hnext).1
    obtain ⟨rfl, rfl⟩ : i = 0 ∧ k = 1 := by omega
    obtain rfl : sampleBlock 0 640 = chunk := Option.some.inj hchunk
    obtain rfl : sampleBlock 640 640 = next := Option.some.inj hnext
    decide +kernel

/-- At 16 kHz a frame lasts 62.5 µs: of three blocks with one frame each, the
last one is a gap. -/
theorem contiguous_audio_gap :
    Contiguous [sampleBlock 0 1, sampleBlock 1 1, sampleBlock 2 1] ∧
      ¬NoAudioGap (.fromMicros 0)
        ([sampleBlock 0 1, sampleBlock 1 1, sampleBlock 2 1].map TimedMediaEvent.audio) := by
  refine ⟨List.isChain_cons_cons.mpr ⟨rfl, List.isChain_pair.mpr rfl⟩, fun hgap => ?_⟩
  have hmem : (TimedMediaEvent.audio (sampleBlock 2 1), Except.ok ⟨125, 62, -125, true⟩) ∈
      timed (.fromMicros 0) (fun event => event.track == .audio)
        ([sampleBlock 0 1, sampleBlock 1 1, sampleBlock 2 1].map TimedMediaEvent.audio) := by
    decide +kernel
  cases hgap _ _ hmem

end Handycam
