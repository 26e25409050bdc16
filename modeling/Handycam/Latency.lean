import Mathlib
import Handycam.Alsa

/-!
# Timestamps and reader latency

An ideal device captures frames at its rate, whoever reads them and when. The
loop reads a period late, asks for the status, and counts back over the frames
that are captured by then. What it arrives at is the time of the first frame
of the period, but for the age of the frame that is being captured and one
rounding.
-/

namespace Handycam

/-- The frames an ideal device has captured at a time. -/
def capturedFrames (sampleRateHz : UInt32) (startNs now : ℕ) : ℕ :=
  (now - startNs) * sampleRateHz.toNat / 1000000000

/-- A period that was read before a status query: the device has captured it,
and the products of the conversion have 64 bits. -/
structure IdealRead (sampleRateHz : UInt32) (startNs frame period : ℕ) (now : UInt64) : Prop where
  /-- the device runs -/
  started : startNs ≤ now.toNat
  /-- the period is captured -/
  captured : frame + period ≤ capturedFrames sampleRateHz startNs now.toNat
  /-- no product saturates -/
  inRange : (capturedFrames sampleRateHz startNs now.toNat - frame) * 1000000000 < 2 ^ 64

/-- What the loop computes for a period that begins with `frame`, when the
status says how many frames are behind it. -/
def readTimestampNs (sampleRateHz : UInt32) (startNs frame period : ℕ) (now : UInt64) : UInt64 :=
  firstSampleTimestampNs now
    (UInt64.ofNat (capturedFrames sampleRateHz startNs now.toNat - frame - period))
    (UInt64.ofNat period) sampleRateHz

/-- Counting back `q` nanoseconds over the frames since `f`, when `H` frames are
captured after `T` nanoseconds. -/
theorem count_back {r T H f q : ℕ} (hr : 0 < r) (hf : f ≤ H) (hfloor : H * 1000000000 ≤ T * r)
    (hceil : T * r < H * 1000000000 + 1000000000) (hback : q * r ≤ (H - f) * 1000000000)
    (hnext : (H - f) * 1000000000 < q * r + r) :
    (f : ℚ) * 10 ^ 9 / r ≤ T - q ∧ (T : ℚ) - q < (f + 1) * 10 ^ 9 / r + 1 := by
  have hr' : (0 : ℚ) < r := by exact_mod_cast hr
  have hbehind : ((H - f : ℕ) : ℚ) = H - f := Nat.cast_sub hf
  have hfloor' : (H : ℚ) * 10 ^ 9 ≤ T * r := by exact_mod_cast hfloor
  have hceil' : (T : ℚ) * r < H * 10 ^ 9 + 10 ^ 9 := by exact_mod_cast hceil
  have hback' : (q : ℚ) * r ≤ (H - f) * 10 ^ 9 := by
    rw [← hbehind]
    exact_mod_cast hback
  have hnext' : ((H : ℚ) - f) * 10 ^ 9 < q * r + r := by
    rw [← hbehind]
    exact_mod_cast hnext
  constructor
  · rw [div_le_iff₀ hr']
    linarith
  · rw [← sub_lt_iff_lt_add, lt_div_iff₀ hr']
    linarith

/-- Two times that are rounded down to microseconds. -/
theorem abs_div_thousand_lt {first second origin : ℕ} {gap tolerance : ℚ} (hfirst : origin ≤ first)
    (hsecond : origin ≤ second) (h : |(second : ℚ) - first - gap| < tolerance + 1) :
    |(((second - origin) / 1000 : ℕ) : ℚ) - ((first - origin) / 1000 : ℕ) - gap / 1000| <
      tolerance / 1000 + 1 / 1000 + 1 := by
  have hsplit : ∀ n : ℕ, origin ≤ n → (n : ℚ) - origin - 1000 < 1000 * ((n - origin) / 1000 : ℕ) ∧
      1000 * (((n - origin) / 1000 : ℕ) : ℚ) ≤ n - origin := by
    intro n hn
    have hlow : n < origin + 1000 + 1000 * ((n - origin) / 1000) := by omega
    have hhigh : 1000 * ((n - origin) / 1000) + origin ≤ n := by omega
    have hlow' : (n : ℚ) < origin + 1000 + 1000 * ((n - origin) / 1000 : ℕ) := by
      exact_mod_cast hlow
    have hhigh' : 1000 * (((n - origin) / 1000 : ℕ) : ℚ) + origin ≤ n := by exact_mod_cast hhigh
    constructor <;> linarith
  obtain ⟨hlow, hhigh⟩ := hsplit first hfirst
  obtain ⟨hlow', hhigh'⟩ := hsplit second hsecond
  rw [abs_lt] at h ⊢
  constructor <;> linarith

section Read

variable {sampleRateHz : UInt32} {startNs frame period : ℕ} {now : UInt64}

/-- The frames after the beginning of the period, as a time. -/
theorem toNat_readTimestampNs (h : IdealRead sampleRateHz startNs frame period now) :
    (readTimestampNs sampleRateHz startNs frame period now).toNat =
      now.toNat - (capturedFrames sampleRateHz startNs now.toNat - frame) * 1000000000 /
        sampleRateHz.toNat := by
  obtain ⟨-, hcaptured, hrange⟩ := h
  rw [readTimestampNs]
  generalize capturedFrames sampleRateHz startNs now.toNat = captured at *
  have hnano : (1000000000 : UInt64).toNat = 1000000000 := rfl
  have hbehind : (UInt64.ofNat (captured - frame - period)).toNat = captured - frame - period := by
    rw [UInt64.toNat_ofNat']
    exact Nat.mod_eq_of_lt (by omega)
  have hperiod : (UInt64.ofNat period).toNat = period := by
    rw [UInt64.toNat_ofNat']
    exact Nat.mod_eq_of_lt (by omega)
  have hsum : min (captured - frame - period + period) (2 ^ 64 - 1) = captured - frame := by
    omega
  rw [firstSampleTimestampNs, UInt64.toNat_saturatingSub, UInt64.toNat_div,
    UInt64.toNat_saturatingMul, UInt64.toNat_saturatingAdd, hbehind, hperiod, hsum, hnano,
    UInt32.toNat_toUInt64, Nat.min_eq_left (Nat.le_sub_one_of_lt hrange)]

/-- **One period.** Its timestamp is not before its first frame, and less than
one frame and one nanosecond after it. -/
theorem readTimestampNs_mem (hrate : sampleRateHz ≠ 0)
    (h : IdealRead sampleRateHz startNs frame period now) :
    (startNs : ℚ) + frame * 10 ^ 9 / sampleRateHz.toNat ≤
        (readTimestampNs sampleRateHz startNs frame period now).toNat ∧
      ((readTimestampNs sampleRateHz startNs frame period now).toNat : ℚ) <
        startNs + (frame + 1) * 10 ^ 9 / sampleRateHz.toNat + 1 := by
  have hpositive : 0 < sampleRateHz.toNat :=
    Nat.pos_of_ne_zero fun hzero => hrate (UInt32.toNat_inj.mp hzero)
  rw [toNat_readTimestampNs h]
  obtain ⟨hstarted, hcaptured, -⟩ := h
  -- the frames that are captured, and the time that is counted back
  have hfloor := Nat.div_mul_le_self ((now.toNat - startNs) * sampleRateHz.toNat) 1000000000
  have hceil : (now.toNat - startNs) * sampleRateHz.toNat <
      (now.toNat - startNs) * sampleRateHz.toNat / 1000000000 * 1000000000 + 1000000000 :=
    Nat.lt_div_mul_add (by decide)
  rw [← capturedFrames] at hfloor hceil
  generalize capturedFrames sampleRateHz startNs now.toNat = captured at *
  have hback := Nat.div_mul_le_self ((captured - frame) * 1000000000) sampleRateHz.toNat
  have hnext : (captured - frame) * 1000000000 <
      (captured - frame) * 1000000000 / sampleRateHz.toNat * sampleRateHz.toNat +
        sampleRateHz.toNat :=
    Nat.lt_div_mul_add hpositive
  obtain ⟨hlow, hhigh⟩ := count_back hpositive (by omega) hfloor hceil hback hnext
  generalize (captured - frame) * 1000000000 / sampleRateHz.toNat = back at *
  have hage : ((now.toNat - startNs : ℕ) : ℚ) = now.toNat - startNs := Nat.cast_sub hstarted
  rw [hage] at hlow hhigh
  have hzero : (0 : ℚ) ≤ frame * 10 ^ 9 / sampleRateHz.toNat := by positivity
  have hle : back ≤ now.toNat := by
    have : (back : ℚ) ≤ now.toNat := by linarith
    exact_mod_cast this
  rw [Nat.cast_sub hle]
  constructor <;> linarith

/-- A read is not before the start. -/
theorem le_readTimestampNs (hrate : sampleRateHz ≠ 0)
    (h : IdealRead sampleRateHz startNs frame period now) :
    startNs ≤ (readTimestampNs sampleRateHz startNs frame period now).toNat := by
  obtain ⟨hlow, -⟩ := readTimestampNs_mem hrate h
  have hzero : (0 : ℚ) ≤ frame * 10 ^ 9 / sampleRateHz.toNat := by positivity
  have hstart : (startNs : ℚ) ≤ (readTimestampNs sampleRateHz startNs frame period now).toNat := by
    linarith
  exact_mod_cast hstart

/-- Two reads are as far apart as their periods, but for less than a frame. -/
theorem readTimestampNs_next (hrate : sampleRateHz ≠ 0)
    (h : IdealRead sampleRateHz startNs frame period now) {next : ℕ} {later : UInt64}
    (hlater : IdealRead sampleRateHz startNs (frame + period) next later) :
    |((readTimestampNs sampleRateHz startNs (frame + period) next later).toNat : ℚ) -
        (readTimestampNs sampleRateHz startNs frame period now).toNat -
        period * 10 ^ 9 / sampleRateHz.toNat| < (10 : ℚ) ^ 9 / sampleRateHz.toNat + 1 := by
  obtain ⟨hlow, hhigh⟩ := readTimestampNs_mem hrate h
  obtain ⟨hlow', hhigh'⟩ := readTimestampNs_mem hrate hlater
  have hsum : ((frame + period : ℕ) : ℚ) * 10 ^ 9 / sampleRateHz.toNat =
      frame * 10 ^ 9 / sampleRateHz.toNat + period * 10 ^ 9 / sampleRateHz.toNat := by
    push_cast
    ring
  have hnext : (((frame + period : ℕ) : ℚ) + 1) * 10 ^ 9 / sampleRateHz.toNat =
      frame * 10 ^ 9 / sampleRateHz.toNat + period * 10 ^ 9 / sampleRateHz.toNat +
        10 ^ 9 / sampleRateHz.toNat := by
    push_cast
    ring
  have hone : ((frame : ℚ) + 1) * 10 ^ 9 / sampleRateHz.toNat =
      frame * 10 ^ 9 / sampleRateHz.toNat + 10 ^ 9 / sampleRateHz.toNat := by
    ring
  rw [hsum] at hlow'
  rw [hnext] at hhigh'
  rw [hone] at hhigh
  rw [abs_lt]
  constructor <;> linarith

/-- **Reader latency.** Whenever a period is read, its timestamp is that of its
first frame, but for one frame and one rounding; and the timestamps of two
periods in a row are one period apart, with the same tolerance. -/
theorem readTimestampNs_bounds (hrate : sampleRateHz ≠ 0)
    (h : IdealRead sampleRateHz startNs frame period now) :
    ((startNs : ℚ) + frame * 10 ^ 9 / sampleRateHz.toNat ≤
        (readTimestampNs sampleRateHz startNs frame period now).toNat ∧
      ((readTimestampNs sampleRateHz startNs frame period now).toNat : ℚ) <
        startNs + (frame + 1) * 10 ^ 9 / sampleRateHz.toNat + 1) ∧
    ∀ (next : ℕ) (later : UInt64),
      IdealRead sampleRateHz startNs (frame + period) next later →
        |((readTimestampNs sampleRateHz startNs (frame + period) next later).toNat : ℚ) -
            (readTimestampNs sampleRateHz startNs frame period now).toNat -
            period * 10 ^ 9 / sampleRateHz.toNat| < (10 : ℚ) ^ 9 / sampleRateHz.toNat + 1 ∧
        ∀ origin : UInt64, origin.toNat ≤ startNs →
          |(((readTimestampNs sampleRateHz startNs (frame + period) next later).saturatingSub
                origin / 1000).toNat : ℚ) -
              ((readTimestampNs sampleRateHz startNs frame period now).saturatingSub
                origin / 1000).toNat -
              period * 10 ^ 6 / sampleRateHz.toNat| <
            (10 : ℚ) ^ 6 / sampleRateHz.toNat + 1 / 1000 + 1 := by
  refine ⟨readTimestampNs_mem hrate h, fun next later hlater => ?_⟩
  have hnear := readTimestampNs_next hrate h hlater
  refine ⟨hnear, fun origin horigin => ?_⟩
  have hthousand : (1000 : UInt64).toNat = 1000 := rfl
  -- neither subtraction saturates
  have hbefore := horigin.trans (le_readTimestampNs hrate h)
  have hafter := horigin.trans (le_readTimestampNs hrate hlater)
  rw [UInt64.toNat_div, UInt64.toNat_div, UInt64.toNat_saturatingSub, UInt64.toNat_saturatingSub,
    hthousand]
  generalize (readTimestampNs sampleRateHz startNs frame period now).toNat = first at *
  generalize (readTimestampNs sampleRateHz startNs (frame + period) next later).toNat = second at *
  have hmicros : (period : ℚ) * 10 ^ 6 / sampleRateHz.toNat =
      period * 10 ^ 9 / sampleRateHz.toNat / 1000 := by
    ring
  have hsample : (10 : ℚ) ^ 6 / sampleRateHz.toNat = 10 ^ 9 / sampleRateHz.toNat / 1000 := by
    ring
  rw [hmicros, hsample]
  exact abs_div_thousand_lt hbefore hafter hnear

end Read

/-- Two periods, read 1 ms and 0.5 ms after they were captured. -/
theorem readTimestampNs_bounds_periods :
    |((readTimestampNs 16000 0 640 640 80500000).toNat : ℚ) -
        (readTimestampNs 16000 0 0 640 41000000).toNat -
        ((640 : ℕ) : ℚ) * 10 ^ 9 / (16000 : UInt32).toNat| <
      (10 : ℚ) ^ 9 / (16000 : UInt32).toNat + 1 := by
  have hfirst : IdealRead 16000 0 0 640 41000000 := ⟨by decide, by decide, by decide⟩
  have hsecond : IdealRead 16000 0 (0 + 640) 640 80500000 := ⟨by decide, by decide, by decide⟩
  exact ((readTimestampNs_bounds (by decide) hfirst).2 640 80500000 hsecond).1

end Handycam
