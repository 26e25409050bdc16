import Mathlib
import Handycam.Jpeg

/-!
# The colours of the uncompressed path

`rgbToYuv` computes limited-range BT.601 with eight fractional bits, and
`yuyvPairs` gives each pair of pixels the mean of their chroma, rounded up.
This file compares both with the rational values of the standard.

A shift by eight is a division rounded down, so that each component lies
within a bound of its exact value that is linear in the three colours. The
bounds are taken over ℚ from the two inequalities of that division.
-/

namespace Handycam

/-! ## Pixels -/

/-- One pixel. -/
structure Rgb where
  /-- red -/
  red : UInt8
  /-- green -/
  green : UInt8
  /-- blue -/
  blue : UInt8

/-- Pixel `j` of an RGB24 buffer. -/
def pixelAt (rgb : List UInt8) (j : ℕ) : Rgb where
  red := rgb.getD (3 * j) 0
  green := rgb.getD (3 * j + 1) 0
  blue := rgb.getD (3 * j + 2) 0

namespace Rgb

/-- A pixel without colour. -/
def Grey (pixel : Rgb) : Prop := pixel.red = pixel.green ∧ pixel.green = pixel.blue

/-- The three components of a pixel. -/
def toYuv (pixel : Rgb) : UInt8 × UInt8 × UInt8 := rgbToYuv pixel.red pixel.green pixel.blue

/-- The luma before it is clamped. -/
def fixedLuma (pixel : Rgb) : ℤ :=
  16 + ((66 * (pixel.red.toNat : ℤ) + 129 * pixel.green.toNat + 25 * pixel.blue.toNat + 128) >>> (8 : ℕ))

/-- The blue difference before it is clamped. -/
def fixedBlue (pixel : Rgb) : ℤ :=
  128 + ((-38 * (pixel.red.toNat : ℤ) - 74 * pixel.green.toNat + 112 * pixel.blue.toNat + 128) >>> (8 : ℕ))

/-- The red difference before it is clamped. -/
def fixedRed (pixel : Rgb) : ℤ :=
  128 + ((112 * (pixel.red.toNat : ℤ) - 94 * pixel.green.toNat - 18 * pixel.blue.toNat + 128) >>> (8 : ℕ))

/-- The luma of the standard. -/
def exactLuma (pixel : Rgb) : ℚ :=
  16 + (65.481 * pixel.red.toNat + 128.553 * pixel.green.toNat + 24.966 * pixel.blue.toNat) / 255

/-- The blue difference of the standard. -/
def exactBlue (pixel : Rgb) : ℚ :=
  128 + (-37.797 * pixel.red.toNat - 74.203 * pixel.green.toNat + 112 * pixel.blue.toNat) / 255

/-- The red difference of the standard. -/
def exactRed (pixel : Rgb) : ℚ :=
  128 + (112 * pixel.red.toNat - 93.786 * pixel.green.toNat - 18.214 * pixel.blue.toNat) / 255

end Rgb

/-! ## One pixel -/

section Pixel

variable (pixel : Rgb)

/-- A colour is a byte. -/
theorem colours_le : pixel.red.toNat ≤ 255 ∧ pixel.green.toNat ≤ 255 ∧ pixel.blue.toNat ≤ 255 :=
  ⟨Nat.le_of_lt_succ pixel.red.toNat_lt, Nat.le_of_lt_succ pixel.green.toNat_lt,
    Nat.le_of_lt_succ pixel.blue.toNat_lt⟩

theorem fixedLuma_range : 16 ≤ pixel.fixedLuma ∧ pixel.fixedLuma ≤ 235 := by
  obtain ⟨hred, hgreen, hblue⟩ := colours_le pixel
  rw [Rgb.fixedLuma, Int.shiftRight_eq_div_pow]
  omega

theorem fixedBlue_range : 16 ≤ pixel.fixedBlue ∧ pixel.fixedBlue ≤ 240 := by
  obtain ⟨hred, hgreen, hblue⟩ := colours_le pixel
  rw [Rgb.fixedBlue, Int.shiftRight_eq_div_pow]
  omega

theorem fixedRed_range : 16 ≤ pixel.fixedRed ∧ pixel.fixedRed ≤ 240 := by
  obtain ⟨hred, hgreen, hblue⟩ := colours_le pixel
  rw [Rgb.fixedRed, Int.shiftRight_eq_div_pow]
  omega

/-- A value that is a byte is not changed by the clamp and the cast. -/
theorem toNat_clampByte {x : ℤ} (hlow : 0 ≤ x) (hhigh : x ≤ 255) : ((clampByte x).toNat : ℤ) = x := by
  rw [clampByte, max_eq_left hlow, min_eq_left hhigh, UInt8.toNat_ofNat']
  omega

/-- **The clamps and casts change nothing.** -/
theorem toYuv_eq :
    (pixel.toYuv.1.toNat : ℤ) = pixel.fixedLuma ∧ (pixel.toYuv.2.1.toNat : ℤ) = pixel.fixedBlue ∧
      (pixel.toYuv.2.2.toNat : ℤ) = pixel.fixedRed := by
  obtain ⟨hluma, hluma'⟩ := fixedLuma_range pixel
  obtain ⟨hblue, hblue'⟩ := fixedBlue_range pixel
  obtain ⟨hred, hred'⟩ := fixedRed_range pixel
  have hshift : ∀ x : ℤ, x >>> (8 : ℤ) = x >>> (8 : ℕ) :=
    fun x => Int.shiftRight_natCast_right x 8
  have hcomponents : pixel.toYuv =
      (clampByte pixel.fixedLuma, clampByte pixel.fixedBlue, clampByte pixel.fixedRed) := by
    simp only [Rgb.toYuv, rgbToYuv, hshift, Nat.cast_ofNat, Rgb.fixedLuma, Rgb.fixedBlue,
      Rgb.fixedRed]
  rw [hcomponents]
  exact ⟨toNat_clampByte (by omega) (by omega), toNat_clampByte (by omega) (by omega),
    toNat_clampByte (by omega) (by omega)⟩

/-- A shift by eight, over the rationals. -/
theorem shift_eight (x : ℤ) :
    (256 : ℚ) * ((x >>> (8 : ℕ) : ℤ) : ℚ) ≤ x ∧ (x : ℚ) ≤ 256 * ((x >>> (8 : ℕ) : ℤ) : ℚ) + 255 := by
  have hlow : 256 * (x >>> (8 : ℕ)) ≤ x := by
    rw [Int.shiftRight_eq_div_pow]
    omega
  have hhigh : x ≤ 256 * (x >>> (8 : ℕ)) + 255 := by
    rw [Int.shiftRight_eq_div_pow]
    omega
  exact ⟨by exact_mod_cast hlow, by exact_mod_cast hhigh⟩

/-- The colours over the rationals. -/
theorem colours_rat :
    (0 ≤ (pixel.red.toNat : ℚ) ∧ (pixel.red.toNat : ℚ) ≤ 255) ∧
      (0 ≤ (pixel.green.toNat : ℚ) ∧ (pixel.green.toNat : ℚ) ≤ 255) ∧
        0 ≤ (pixel.blue.toNat : ℚ) ∧ (pixel.blue.toNat : ℚ) ≤ 255 := by
  obtain ⟨hred, hgreen, hblue⟩ := colours_le pixel
  exact ⟨⟨by positivity, by exact_mod_cast hred⟩, ⟨by positivity, by exact_mod_cast hgreen⟩,
    by positivity, by exact_mod_cast hblue⟩

/-- The luma of a pixel is less than one off. -/
theorem luma_error : |(pixel.fixedLuma : ℚ) - pixel.exactLuma| < 1 := by
  obtain ⟨⟨hred, hred'⟩, ⟨hgreen, hgreen'⟩, hblue, hblue'⟩ := colours_rat pixel
  obtain ⟨hlow, hhigh⟩ := shift_eight
    (66 * (pixel.red.toNat : ℤ) + 129 * pixel.green.toNat + 25 * pixel.blue.toNat + 128)
  rw [Rgb.fixedLuma, Rgb.exactLuma, abs_lt]
  push_cast at hlow hhigh ⊢
  constructor <;> linarith

/-- The blue difference of a pixel is less than 0.995 off. -/
theorem blue_error : |(pixel.fixedBlue : ℚ) - pixel.exactBlue| < 0.995 := by
  obtain ⟨⟨hred, hred'⟩, ⟨hgreen, hgreen'⟩, hblue, hblue'⟩ := colours_rat pixel
  obtain ⟨hlow, hhigh⟩ := shift_eight
    (-38 * (pixel.red.toNat : ℤ) - 74 * pixel.green.toNat + 112 * pixel.blue.toNat + 128)
  rw [Rgb.fixedBlue, Rgb.exactBlue, abs_lt]
  push_cast at hlow hhigh ⊢
  constructor <;> linarith

/-- The red difference of a pixel is less than 0.995 off. -/
theorem red_error : |(pixel.fixedRed : ℚ) - pixel.exactRed| < 0.995 := by
  obtain ⟨⟨hred, hred'⟩, ⟨hgreen, hgreen'⟩, hblue, hblue'⟩ := colours_rat pixel
  obtain ⟨hlow, hhigh⟩ := shift_eight
    (112 * (pixel.red.toNat : ℤ) - 94 * pixel.green.toNat - 18 * pixel.blue.toNat + 128)
  rw [Rgb.fixedRed, Rgb.exactRed, abs_lt]
  push_cast at hlow hhigh ⊢
  constructor <;> linarith

end Pixel

/-! ## Pairs of pixels -/

/-- The mean of two chroma bytes, rounded up. -/
def chromaMean (first second : UInt8) : UInt8 := ((first.toUInt16 + second.toUInt16 + 1) / 2).toUInt8

/-- The four bytes of a pair. -/
def pairBytes (first second : Rgb) : List UInt8 :=
  [first.toYuv.1, chromaMean first.toYuv.2.1 second.toYuv.2.1,
    second.toYuv.1, chromaMean first.toYuv.2.2 second.toYuv.2.2]

/-- Four bytes are a faithful conversion of two pixels. -/
structure FaithfulPair (first second : Rgb) (y₀ u y₁ v : UInt8) : Prop where
  /-- luma is limited to 16 to 235 -/
  luma_range : (16 ≤ y₀.toNat ∧ y₀.toNat ≤ 235) ∧ 16 ≤ y₁.toNat ∧ y₁.toNat ≤ 235
  /-- chroma is limited to 16 to 240 -/
  chroma_range : (16 ≤ u.toNat ∧ u.toNat ≤ 240) ∧ 16 ≤ v.toNat ∧ v.toNat ≤ 240
  /-- the clamps and casts of the luma change nothing -/
  luma_eq : (y₀.toNat : ℤ) = first.fixedLuma ∧ (y₁.toNat : ℤ) = second.fixedLuma
  /-- neither do those of the chroma -/
  chroma_eq : (u.toNat : ℤ) = (first.fixedBlue + second.fixedBlue + 1) / 2 ∧
    (v.toNat : ℤ) = (first.fixedRed + second.fixedRed + 1) / 2
  /-- luma is less than one off -/
  luma_error : |(y₀.toNat : ℚ) - first.exactLuma| < 1 ∧ |(y₁.toNat : ℚ) - second.exactLuma| < 1
  /-- chroma is less than one and a half off the mean of the pair -/
  chroma_error : |(u.toNat : ℚ) - (first.exactBlue + second.exactBlue) / 2| < 1.5 ∧
    |(v.toNat : ℚ) - (first.exactRed + second.exactRed) / 2| < 1.5
  /-- grey has no chroma -/
  grey : first.Grey → second.Grey → u = 128 ∧ v = 128

/-- The sum of two bytes fits 16 bits, and half of it fits a byte. -/
theorem toNat_chromaMean (first second : UInt8) :
    (chromaMean first second).toNat = (first.toNat + second.toNat + 1) / 2 := by
  have hfirst := first.toNat_lt
  have hsecond := second.toNat_lt
  rw [chromaMean, UInt16.toNat_toUInt8, UInt16.toNat_div, UInt16.toNat_add, UInt16.toNat_add,
    UInt8.toNat_toUInt16, UInt8.toNat_toUInt16]
  simp only [UInt16.toNat_one, UInt16.reduceToNat]
  omega

/-- The mean of two components that are close to `exact` and `exact'`. -/
theorem mean_error {fixed fixed' : ℤ} {exact exact' : ℚ} (h : |(fixed : ℚ) - exact| < 0.995)
    (h' : |(fixed' : ℚ) - exact'| < 0.995) :
    |(((fixed + fixed' + 1) / 2 : ℤ) : ℚ) - (exact + exact') / 2| < 1.5 := by
  have hlow : fixed + fixed' ≤ 2 * ((fixed + fixed' + 1) / 2) := by omega
  have hhigh : 2 * ((fixed + fixed' + 1) / 2) ≤ fixed + fixed' + 1 := by omega
  have hlow' : (fixed : ℚ) + fixed' ≤ 2 * (((fixed + fixed' + 1) / 2 : ℤ) : ℚ) := by
    exact_mod_cast hlow
  have hhigh' : 2 * (((fixed + fixed' + 1) / 2 : ℤ) : ℚ) ≤ fixed + fixed' + 1 := by
    exact_mod_cast hhigh
  rw [abs_lt] at h h' ⊢
  constructor <;> linarith [h.1, h.2, h'.1, h'.2]

/-- A grey pixel has no chroma. -/
theorem fixed_grey {pixel : Rgb} (h : pixel.Grey) : pixel.fixedBlue = 128 ∧ pixel.fixedRed = 128 := by
  obtain ⟨hgreen, hblue⟩ := h
  rw [Rgb.fixedBlue, Rgb.fixedRed, hgreen, hblue, Int.shiftRight_eq_div_pow,
    Int.shiftRight_eq_div_pow]
  omega

/-- The bytes of a pair are a faithful conversion of it. -/
theorem pairBytes_faithful (first second : Rgb) :
    FaithfulPair first second first.toYuv.1 (chromaMean first.toYuv.2.1 second.toYuv.2.1)
      second.toYuv.1 (chromaMean first.toYuv.2.2 second.toYuv.2.2) := by
  obtain ⟨hluma, hblue, hred⟩ := toYuv_eq first
  obtain ⟨hluma', hblue', hred'⟩ := toYuv_eq second
  have hblueMean : ((chromaMean first.toYuv.2.1 second.toYuv.2.1).toNat : ℤ) =
      (first.fixedBlue + second.fixedBlue + 1) / 2 := by
    rw [toNat_chromaMean, ← hblue, ← hblue']
    push_cast
    rfl
  have hredMean : ((chromaMean first.toYuv.2.2 second.toYuv.2.2).toNat : ℤ) =
      (first.fixedRed + second.fixedRed + 1) / 2 := by
    rw [toNat_chromaMean, ← hred, ← hred']
    push_cast
    rfl
  have hluma_range := fixedLuma_range first
  have hluma_range' := fixedLuma_range second
  have hblue_range := fixedBlue_range first
  have hblue_range' := fixedBlue_range second
  have hred_range := fixedRed_range first
  have hred_range' := fixedRed_range second
  have hcast : ∀ {byte : UInt8} {fixed : ℤ}, (byte.toNat : ℤ) = fixed →
      (byte.toNat : ℚ) = (fixed : ℚ) := by
    rintro byte _ rfl
    push_cast
    rfl
  refine ⟨by omega, by omega, ⟨hluma, hluma'⟩, ⟨hblueMean, hredMean⟩, ?_, ?_, ?_⟩
  · rw [hcast hluma, hcast hluma']
    exact ⟨luma_error first, luma_error second⟩
  · rw [hcast hblueMean, hcast hredMean]
    exact ⟨mean_error (blue_error first) (blue_error second),
      mean_error (red_error first) (red_error second)⟩
  · -- grey pixels have both chroma values in the middle
    intro hgrey hgrey'
    obtain ⟨hblue₀, hred₀⟩ := fixed_grey hgrey
    obtain ⟨hblue₁, hred₁⟩ := fixed_grey hgrey'
    rw [hblue₀, hblue₁] at hblueMean
    rw [hred₀, hred₁] at hredMean
    have hbyte : (128 : UInt8).toNat = 128 := rfl
    exact ⟨UInt8.toNat_inj.mp (by omega), UInt8.toNat_inj.mp (by omega)⟩

/-! ## The loop -/

theorem pixelAt_drop (r₀ g₀ b₀ r₁ g₁ b₁ : UInt8) (rest : List UInt8) (j : ℕ) :
    pixelAt (r₀ :: g₀ :: b₀ :: r₁ :: g₁ :: b₁ :: rest) (j + 2) = pixelAt rest j := by
  have hindex : 3 * (j + 2) = 3 * j + 6 := by ring
  simp [pixelAt, hindex, Nat.add_assoc]

/-- A list with bytes for `n + 1` pairs starts with the six of one. -/
theorem exists_pair {rgb : List UInt8} {n : ℕ} (h : rgb.length = 6 * (n + 1)) :
    ∃ r₀ g₀ b₀ r₁ g₁ b₁ rest, rgb = r₀ :: g₀ :: b₀ :: r₁ :: g₁ :: b₁ :: rest ∧
      rest.length = 6 * n := by
  rcases rgb with
    _ | ⟨r₀, _ | ⟨g₀, _ | ⟨b₀, _ | ⟨r₁, _ | ⟨g₁, _ | ⟨b₁, rest⟩⟩⟩⟩⟩⟩ <;>
    simp only [List.length_cons, List.length_nil] at h
  case cons.cons.cons.cons.cons.cons => exact ⟨r₀, g₀, b₀, r₁, g₁, b₁, rest, rfl, by omega⟩
  all_goals omega

/-- The loop gives the four bytes of each pair, in order. -/
theorem yuyvPairs_drop {rgb : List UInt8} {n : ℕ} (h : rgb.length = 6 * n) :
    (yuyvPairs rgb).length = 4 * n ∧
      ∀ k < n, ((yuyvPairs rgb).drop (4 * k)).take 4 =
        pairBytes (pixelAt rgb (2 * k)) (pixelAt rgb (2 * k + 1)) := by
  induction n generalizing rgb with
  | zero =>
    rw [List.length_eq_zero_iff.mp h]
    exact ⟨rfl, fun k hk => absurd hk (Nat.not_lt_zero k)⟩
  | succ n ih =>
    obtain ⟨r₀, g₀, b₀, r₁, g₁, b₁, rest, rfl, hrest⟩ := exists_pair h
    obtain ⟨hlength, hpairs⟩ := ih hrest
    have hcons : yuyvPairs (r₀ :: g₀ :: b₀ :: r₁ :: g₁ :: b₁ :: rest) =
        pairBytes ⟨r₀, g₀, b₀⟩ ⟨r₁, g₁, b₁⟩ ++ yuyvPairs rest := rfl
    have hfour : (pairBytes ⟨r₀, g₀, b₀⟩ ⟨r₁, g₁, b₁⟩).length = 4 := rfl
    rw [hcons]
    refine ⟨by rw [List.length_append, hfour, hlength]; ring, fun k hk => ?_⟩
    cases k with
    | zero => rfl
    | succ k =>
      have hindex : 4 * (k + 1) = (pairBytes ⟨r₀, g₀, b₀⟩ ⟨r₁, g₁, b₁⟩).length + 4 * k := by
        rw [hfour]
        ring
      have hpixel : 2 * (k + 1) = 2 * k + 2 := by ring
      have hnext : 2 * k + 2 + 1 = 2 * k + 1 + 2 := by ring
      rw [hindex, List.drop_length_add_append, hpixel, hnext, pixelAt_drop, pixelAt_drop]
      exact hpairs k (Nat.lt_of_succ_lt_succ hk)

/-- **The conversion is faithful.** For every buffer with three bytes for each
pixel of an image, the loop gives two bytes a pixel; a pair of pixels lies in
one row, and its four bytes are a faithful conversion of it. No pixel at all
is changed by the clamps and casts of its components. -/
theorem yuyvPairs_faithful (rgb : List UInt8) (hrgb : rgb.length = 3 * (width * height)) :
    (yuyvPairs rgb).length = width * height * 2 ∧
      (∀ k, 2 * k + 1 < width * height →
        2 * k / width = (2 * k + 1) / width ∧
          ∃ y₀ u y₁ v, ((yuyvPairs rgb).drop (4 * k)).take 4 = [y₀, u, y₁, v] ∧
            FaithfulPair (pixelAt rgb (2 * k)) (pixelAt rgb (2 * k + 1)) y₀ u y₁ v) ∧
      ∀ j < width * height, ((pixelAt rgb j).toYuv.1.toNat : ℤ) = (pixelAt rgb j).fixedLuma ∧
        ((pixelAt rgb j).toYuv.2.1.toNat : ℤ) = (pixelAt rgb j).fixedBlue ∧
          ((pixelAt rgb j).toYuv.2.2.toNat : ℤ) = (pixelAt rgb j).fixedRed := by
  have hwidth : width = 320 := rfl
  have hheight : height = 240 := rfl
  have hpairs : rgb.length = 6 * 38400 := by
    rw [hrgb, hwidth, hheight]
  obtain ⟨hlength, hbytes⟩ := yuyvPairs_drop hpairs
  refine ⟨by rw [hlength, hwidth, hheight], fun k hk => ?_, fun j _ => toYuv_eq (pixelAt rgb j)⟩
  rw [hwidth, hheight] at hk
  have hrow : 2 * k / width = (2 * k + 1) / width := by
    rw [hwidth]
    omega
  exact ⟨hrow, _, _, _, _, hbytes k (by omega), pairBytes_faithful _ _⟩

theorem pixelAt_replicate {n j : ℕ} (byte : UInt8) (h : j < n) :
    pixelAt (List.replicate (3 * n) byte) j = ⟨byte, byte, byte⟩ := by
  have hget : ∀ i < 3 * n, (List.replicate (3 * n) byte).getD i 0 = byte := fun i hi => by
    rw [List.getD_eq_getElem _ _ (by rwa [List.length_replicate]), List.getElem_replicate]
  rw [pixelAt, hget _ (by omega), hget _ (by omega), hget _ (by omega)]

/-- An image of one grey: what becomes of its eighth pair. -/
theorem yuyvPairs_faithful_replicate :
    ((yuyvPairs (List.replicate (3 * (width * height)) 0x80)).drop (4 * 7)).take 4 =
      [126, 128, 126, 128] := by
  obtain ⟨-, y₀, u, y₁, v, hbytes, hpair⟩ :=
    (yuyvPairs_faithful _ (List.length_replicate ..)).2.1 7 (by decide)
  rw [pixelAt_replicate 0x80 (by decide), pixelAt_replicate 0x80 (by decide)] at hpair
  obtain ⟨rfl, rfl⟩ := hpair.grey ⟨rfl, rfl⟩ ⟨rfl, rfl⟩
  have hluma : Rgb.fixedLuma ⟨0x80, 0x80, 0x80⟩ = 126 := by decide
  obtain ⟨hfirst, hsecond⟩ := hpair.luma_eq
  rw [hluma] at hfirst hsecond
  obtain rfl : y₀ = 126 := UInt8.toNat_inj.mp (by exact_mod_cast hfirst)
  obtain rfl : y₁ = 126 := UInt8.toNat_inj.mp (by exact_mod_cast hsecond)
  exact hbytes

end Handycam
