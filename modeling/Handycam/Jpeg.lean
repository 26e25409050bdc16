import Mathlib
import Handycam.Stuffing

/-!
# JPEG reconstruction

The camera sends the entropy-coded scan of a baseline JPEG without byte
stuffing, padded with zeros, and without any header. `reconstructJpeg` turns
one such record into a complete image: it trims the padding, stuffs the scan,
and puts the canonical header and the EOI marker around it. `jpegToYuyv` is
the uncompressed output path.
-/

namespace Handycam

/-- Camera frame dimensions. -/
def width : ℕ := 320

/-- Camera frame dimensions. -/
def height : ℕ := 240

/-- The canonical JFIF header of the verified 320x240, baseline, quality-50,
4:2:0 format: SOI through SOS, with no entropy and no EOI. -/
def jpegHeader : List UInt8 :=
  [0xff, 0xd8, 0xff, 0xe0, 0x00, 0x10, 0x4a, 0x46, 0x49, 0x46, 0x00, 0x01, 0x01, 0x00, 0x00, 0x01,
   0x00, 0x01, 0x00, 0x00, 0xff, 0xdb, 0x00, 0x43, 0x00, 0x10, 0x0b, 0x0c, 0x0e, 0x0c, 0x0a, 0x10,
   0x0e, 0x0d, 0x0e, 0x12, 0x11, 0x10, 0x13, 0x18, 0x28, 0x1a, 0x18, 0x16, 0x16, 0x18, 0x31, 0x23,
   0x25, 0x1d, 0x28, 0x3a, 0x33, 0x3d, 0x3c, 0x39, 0x33, 0x38, 0x37, 0x40, 0x48, 0x5c, 0x4e, 0x40,
   0x44, 0x57, 0x45, 0x37, 0x38, 0x50, 0x6d, 0x51, 0x57, 0x5f, 0x62, 0x67, 0x68, 0x67, 0x3e, 0x4d,
   0x71, 0x79, 0x70, 0x64, 0x78, 0x5c, 0x65, 0x67, 0x63, 0xff, 0xdb, 0x00, 0x43, 0x01, 0x11, 0x12,
   0x12, 0x18, 0x15, 0x18, 0x2f, 0x1a, 0x1a, 0x2f, 0x63, 0x42, 0x38, 0x42, 0x63, 0x63, 0x63, 0x63,
   0x63, 0x63, 0x63, 0x63, 0x63, 0x63, 0x63, 0x63, 0x63, 0x63, 0x63, 0x63, 0x63, 0x63, 0x63, 0x63,
   0x63, 0x63, 0x63, 0x63, 0x63, 0x63, 0x63, 0x63, 0x63, 0x63, 0x63, 0x63, 0x63, 0x63, 0x63, 0x63,
   0x63, 0x63, 0x63, 0x63, 0x63, 0x63, 0x63, 0x63, 0x63, 0x63, 0x63, 0x63, 0x63, 0x63, 0xff, 0xc0,
   0x00, 0x11, 0x08, 0x00, 0xf0, 0x01, 0x40, 0x03, 0x01, 0x22, 0x00, 0x02, 0x11, 0x01, 0x03, 0x11,
   0x01, 0xff, 0xc4, 0x00, 0x1f, 0x00, 0x00, 0x01, 0x05, 0x01, 0x01, 0x01, 0x01, 0x01, 0x01, 0x00,
   0x00, 0x00, 0x00, 0x00, 0x00, 0x00, 0x00, 0x01, 0x02, 0x03, 0x04, 0x05, 0x06, 0x07, 0x08, 0x09,
   0x0a, 0x0b, 0xff, 0xc4, 0x00, 0xb5, 0x10, 0x00, 0x02, 0x01, 0x03, 0x03, 0x02, 0x04, 0x03, 0x05,
   0x05, 0x04, 0x04, 0x00, 0x00, 0x01, 0x7d, 0x01, 0x02, 0x03, 0x00, 0x04, 0x11, 0x05, 0x12, 0x21,
   0x31, 0x41, 0x06, 0x13, 0x51, 0x61, 0x07, 0x22, 0x71, 0x14, 0x32, 0x81, 0x91, 0xa1, 0x08, 0x23,
   0x42, 0xb1, 0xc1, 0x15, 0x52, 0xd1, 0xf0, 0x24, 0x33, 0x62, 0x72, 0x82, 0x09, 0x0a, 0x16, 0x17,
   0x18, 0x19, 0x1a, 0x25, 0x26, 0x27, 0x28, 0x29, 0x2a, 0x34, 0x35, 0x36, 0x37, 0x38, 0x39, 0x3a,
   0x43, 0x44, 0x45, 0x46, 0x47, 0x48, 0x49, 0x4a, 0x53, 0x54, 0x55, 0x56, 0x57, 0x58, 0x59, 0x5a,
   0x63, 0x64, 0x65, 0x66, 0x67, 0x68, 0x69, 0x6a, 0x73, 0x74, 0x75, 0x76, 0x77, 0x78, 0x79, 0x7a,
   0x83, 0x84, 0x85, 0x86, 0x87, 0x88, 0x89, 0x8a, 0x92, 0x93, 0x94, 0x95, 0x96, 0x97, 0x98, 0x99,
   0x9a, 0xa2, 0xa3, 0xa4, 0xa5, 0xa6, 0xa7, 0xa8, 0xa9, 0xaa, 0xb2, 0xb3, 0xb4, 0xb5, 0xb6, 0xb7,
   0xb8, 0xb9, 0xba, 0xc2, 0xc3, 0xc4, 0xc5, 0xc6, 0xc7, 0xc8, 0xc9, 0xca, 0xd2, 0xd3, 0xd4, 0xd5,
   0xd6, 0xd7, 0xd8, 0xd9, 0xda, 0xe1, 0xe2, 0xe3, 0xe4, 0xe5, 0xe6, 0xe7, 0xe8, 0xe9, 0xea, 0xf1,
   0xf2, 0xf3, 0xf4, 0xf5, 0xf6, 0xf7, 0xf8, 0xf9, 0xfa, 0xff, 0xc4, 0x00, 0x1f, 0x01, 0x00, 0x03,
   0x01, 0x01, 0x01, 0x01, 0x01, 0x01, 0x01, 0x01, 0x01, 0x00, 0x00, 0x00, 0x00, 0x00, 0x00, 0x01,
   0x02, 0x03, 0x04, 0x05, 0x06, 0x07, 0x08, 0x09, 0x0a, 0x0b, 0xff, 0xc4, 0x00, 0xb5, 0x11, 0x00,
   0x02, 0x01, 0x02, 0x04, 0x04, 0x03, 0x04, 0x07, 0x05, 0x04, 0x04, 0x00, 0x01, 0x02, 0x77, 0x00,
   0x01, 0x02, 0x03, 0x11, 0x04, 0x05, 0x21, 0x31, 0x06, 0x12, 0x41, 0x51, 0x07, 0x61, 0x71, 0x13,
   0x22, 0x32, 0x81, 0x08, 0x14, 0x42, 0x91, 0xa1, 0xb1, 0xc1, 0x09, 0x23, 0x33, 0x52, 0xf0, 0x15,
   0x62, 0x72, 0xd1, 0x0a, 0x16, 0x24, 0x34, 0xe1, 0x25, 0xf1, 0x17, 0x18, 0x19, 0x1a, 0x26, 0x27,
   0x28, 0x29, 0x2a, 0x35, 0x36, 0x37, 0x38, 0x39, 0x3a, 0x43, 0x44, 0x45, 0x46, 0x47, 0x48, 0x49,
   0x4a, 0x53, 0x54, 0x55, 0x56, 0x57, 0x58, 0x59, 0x5a, 0x63, 0x64, 0x65, 0x66, 0x67, 0x68, 0x69,
   0x6a, 0x73, 0x74, 0x75, 0x76, 0x77, 0x78, 0x79, 0x7a, 0x82, 0x83, 0x84, 0x85, 0x86, 0x87, 0x88,
   0x89, 0x8a, 0x92, 0x93, 0x94, 0x95, 0x96, 0x97, 0x98, 0x99, 0x9a, 0xa2, 0xa3, 0xa4, 0xa5, 0xa6,
   0xa7, 0xa8, 0xa9, 0xaa, 0xb2, 0xb3, 0xb4, 0xb5, 0xb6, 0xb7, 0xb8, 0xb9, 0xba, 0xc2, 0xc3, 0xc4,
   0xc5, 0xc6, 0xc7, 0xc8, 0xc9, 0xca, 0xd2, 0xd3, 0xd4, 0xd5, 0xd6, 0xd7, 0xd8, 0xd9, 0xda, 0xe2,
   0xe3, 0xe4, 0xe5, 0xe6, 0xe7, 0xe8, 0xe9, 0xea, 0xf2, 0xf3, 0xf4, 0xf5, 0xf6, 0xf7, 0xf8, 0xf9,
   0xfa, 0xff, 0xda, 0x00, 0x0c, 0x03, 0x01, 0x00, 0x02, 0x11, 0x03, 0x11, 0x00, 0x3f, 0x00]

/-- What the sinks are asked to write. -/
inductive OutputFormat where
  /-- the reconstructed JPEG as it is -/
  | mjpeg
  /-- packed limited-range BT.601 YUYV422 -/
  | yuyv
  deriving DecidableEq

/-- Pixel formats of the JPEG decoder. -/
inductive PixelFormat where
  /-- 8-bit luminance -/
  | l8
  /-- 16-bit luminance -/
  | l16
  /-- 8-bit RGB -/
  | rgb24
  /-- 8-bit CMYK -/
  | cmyk32
  deriving DecidableEq

/-- Why a record gives no frame. -/
inductive FrameConversionError where
  /-- the record contains no entropy payload -/
  | emptyEntropy
  /-- the JPEG decoder failed -/
  | decode (error : String)
  /-- the decoded JPEG has no image information -/
  | missingImageInfo
  /-- the decoded image does not have the camera's dimensions -/
  | dimensions (actual expected : UInt16 × UInt16)
  /-- the decoded image is not RGB24 -/
  | pixelFormat (actual : PixelFormat)
  deriving DecidableEq

/-! ## From a record to an image -/

/-- The index of the last element that satisfies `p`. -/
def rposition {α : Type} (p : α → Bool) : List α → Option ℕ
  | [] => none
  | a :: as =>
    match rposition p as with
    | some i => some (i + 1)
    | none => if p a then some 0 else none

/-- Convert the camera's unescaped entropy scan into a complete baseline JPEG. -/
def reconstructJpeg (entropyWithPadding : List UInt8) : Except FrameConversionError (List UInt8) :=
  let entropyEnd := ((rposition (· != 0) entropyWithPadding).map (· + 1)).getD 0
  let entropy := entropyWithPadding.take entropyEnd
  if entropy.isEmpty then
    .error .emptyEntropy
  else
    .ok (jpegHeader ++ (entropy.flatMap fun byte => if byte = 0xff then [byte, 0x00] else [byte])
      ++ [0xff, 0xd9])

/-- A record without its alignment padding. -/
def trimPadding (record : List UInt8) : List UInt8 := record.rdropWhile (· == 0)

/-- The image whose scan carries `entropy`. -/
def jpegImage (entropy : List UInt8) : List UInt8 :=
  jpegHeader ++ Stuffing.stuff 0xff 0x00 entropy ++ [0xff, 0xd9]

theorem rposition_eq_none {α : Type} {p : α → Bool} {as : List α} :
    rposition p as = none ↔ ∀ a ∈ as, p a = false := by
  induction as with
  | nil => simp [rposition]
  | cons a as ih =>
    rw [rposition, List.forall_mem_cons, ← ih]
    rcases rposition p as with _ | i <;> simp

/-- Taking up to the last byte that is not zero drops exactly the padding. -/
theorem take_rposition (record : List UInt8) :
    record.take (((rposition (· != 0) record).map (· + 1)).getD 0) = trimPadding record := by
  induction record with
  | nil => rfl
  | cons a as ih =>
    unfold trimPadding at ih ⊢
    rcases h : rposition (· != 0) as with _ | i
    · have hzero : ∀ b ∈ as, (b == 0) = true := by
        intro b hb
        simpa using rposition_eq_none.mp h b hb
      have hcons : a :: as = [a] ++ as := rfl
      rw [rposition, h, hcons, List.rdropWhile, List.reverse_append,
        List.dropWhile_append_of_pos (by simpa using hzero)]
      by_cases ha : a = 0 <;> simp [ha]
    · have hne : ¬ ∀ b ∈ as, (b == 0) = true := by
        intro hzero
        have : rposition (· != 0) as = none :=
          rposition_eq_none.mpr fun b hb => by simpa using hzero b hb
        rw [h] at this
        cases this
      have hrec : (a :: as).rdropWhile (· == 0) = a :: as.rdropWhile (· == 0) := by
        rw [List.rdropWhile, List.reverse_cons, List.dropWhile_append]
        have : (as.reverse.dropWhile (· == 0)).isEmpty = false := by
          rw [List.isEmpty_eq_false_iff]
          simpa [List.dropWhile_eq_nil_iff] using hne
        simp [this, List.rdropWhile]
      rw [h] at ih
      rw [rposition, h, hrec]
      simpa using ih

theorem trimPadding_eq_nil {record : List UInt8} :
    trimPadding record = [] ↔ ∀ byte ∈ record, byte = 0 := by
  simp [trimPadding]

/-- A record with a byte that is not padding becomes the image of its trimmed
bytes; any other record is refused. -/
theorem reconstructJpeg_eq (record : List UInt8) :
    reconstructJpeg record =
      if trimPadding record = [] then .error .emptyEntropy
      else .ok (jpegImage (trimPadding record)) := by
  have hstuff : ∀ entropy : List UInt8,
      (entropy.flatMap fun byte => if byte = 0xff then [byte, 0x00] else [byte]) =
        Stuffing.stuff 0xff 0x00 entropy := by
    intro entropy
    refine List.flatMap_congr fun byte _ => ?_
    by_cases h : byte = 0xff <;> simp [h]
  simp only [reconstructJpeg, take_rposition, List.isEmpty_iff, jpegImage, hstuff]

theorem reconstructJpeg_error {record : List UInt8} {error : FrameConversionError} :
    reconstructJpeg record = .error error ↔
      error = .emptyEntropy ∧ ∀ byte ∈ record, byte = 0 := by
  rw [reconstructJpeg_eq, ← trimPadding_eq_nil]
  by_cases h : trimPadding record = [] <;> simp [h, eq_comm]

theorem reconstructJpeg_ok {record : List UInt8} (h : ∃ byte ∈ record, byte ≠ 0) :
    reconstructJpeg record = .ok (jpegImage (trimPadding record)) := by
  rw [reconstructJpeg_eq, if_neg]
  rw [trimPadding_eq_nil]
  push Not
  exact h

/-! ## The uncompressed path

The decoder itself is a library the crate calls; it is a parameter here. -/

/-- What the JPEG decoder reports about an image. -/
structure ImageInfo where
  /-- width in pixels -/
  width : UInt16
  /-- height in pixels -/
  height : UInt16
  /-- pixel format of the decoded bytes -/
  pixelFormat : PixelFormat

/-- The JPEG decoder: the decoded bytes of an image, and its information. -/
structure JpegDecoder where
  /-- decode a complete image -/
  decode : List UInt8 → Except String (List UInt8)
  /-- the image information, once decoded -/
  info : List UInt8 → Option ImageInfo

/-- `i32::clamp(0, 255) as u8`. -/
def clampByte (x : ℤ) : UInt8 := UInt8.ofNat (min (max x 0) 255).toNat

/-- Fixed-point BT.601 of one pixel. -/
def rgbToYuv (red green blue : UInt8) : UInt8 × UInt8 × UInt8 :=
  let red : ℤ := red.toNat
  let green : ℤ := green.toNat
  let blue : ℤ := blue.toNat
  let y := 16 + ((66 * red + 129 * green + 25 * blue + 128) >>> 8)
  let u := 128 + ((-38 * red - 74 * green + 112 * blue + 128) >>> 8)
  let v := 128 + ((112 * red - 94 * green - 18 * blue + 128) >>> 8)
  (clampByte y, clampByte u, clampByte v)

/-- The conversion loop over pairs of pixels; a remainder shorter than a pair
is left out, as `chunks_exact` does. -/
def yuyvPairs : List UInt8 → List UInt8
  | r₀ :: g₀ :: b₀ :: r₁ :: g₁ :: b₁ :: rest =>
    let (y₀, u₀, v₀) := rgbToYuv r₀ g₀ b₀
    let (y₁, u₁, v₁) := rgbToYuv r₁ g₁ b₁
    [y₀, ((u₀.toUInt16 + u₁.toUInt16 + 1) / 2).toUInt8,
      y₁, ((v₀.toUInt16 + v₁.toUInt16 + 1) / 2).toUInt8] ++ yuyvPairs rest
  | _ => []

/-- Decode a reconstructed frame and convert it to packed YUYV422. -/
def jpegToYuyv (decoder : JpegDecoder) (jpeg : List UInt8) :
    Except FrameConversionError (List UInt8) :=
  match decoder.decode jpeg with
  | .error error => .error (.decode error)
  | .ok rgb =>
    match decoder.info jpeg with
    | none => .error .missingImageInfo
    | some info =>
      if (info.width, info.height) ≠ (UInt16.ofNat width, UInt16.ofNat height) then
        .error (.dimensions (info.width, info.height) (UInt16.ofNat width, UInt16.ofNat height))
      else if info.pixelFormat ≠ .rgb24 then
        .error (.pixelFormat info.pixelFormat)
      else
        .ok (yuyvPairs rgb)

end Handycam
