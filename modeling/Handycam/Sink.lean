import Handycam.Framing
import Handycam.Io
import Handycam.Stream

/-!
# The MJPEG byte stream

The stdout sink writes the images one after another with nothing between them.
`readImage` is a reader that knows the canonical header and how a JPEG scan
ends, and nothing about the images. `readImages` is its use over a whole
stream; it finds the images again, and in them the camera's entropy.
-/

namespace Handycam

/-- Errors of an output worker. -/
inductive SinkError where
  /-- the frame could not be converted -/
  | conversion (error : FrameConversionError)
  /-- the output failed -/
  | io (error : IoError)
  deriving DecidableEq

/-- The bytes of a frame in an output format. -/
def frameData (decoder : JpegDecoder) (frame : CompressedFrame) :
    OutputFormat → Except FrameConversionError (List UInt8)
  | .mjpeg => .ok frame.jpeg
  | .yuyv => jpegToYuyv decoder frame.jpeg

/-- One turn of the stdout worker. -/
def writeFrame {W : Type} [Write W] (decoder : JpegDecoder) (format : OutputFormat)
    (frame : CompressedFrame) : EStateM SinkError W Unit :=
  match frameData decoder frame format with
  | .error error => throw (.conversion error)
  | .ok data => do
    EStateM.adaptExcept .io (Write.writeAll data)
    EStateM.adaptExcept .io Write.flush

/-- The stdout worker: the frames received until the channel closes, each
written and flushed. -/
def runStdout {W : Type} [Write W] (decoder : JpegDecoder) (format : OutputFormat)
    (frames : List CompressedFrame) : EStateM SinkError W Unit := do
  forM frames (writeFrame decoder format)
  EStateM.adaptExcept .io Write.flush

/-- A file that starts and ends as a JPEG does. -/
def isCompleteJpeg (data : List UInt8) : Bool :=
  [0xff, 0xd8].isPrefixOf data && [0xff, 0xd9].isSuffixOf data

/-! ## The reader -/

/-- Read one image: the canonical header, then stuffed entropy up to the first
marker, which has to be EOI. The result is the image, its entropy and the rest
of the stream. -/
def readImage (stream : List UInt8) :
    Option ((List UInt8 × List UInt8) × List UInt8) :=
  if jpegHeader.isPrefixOf stream then
    match Stuffing.scan 0xff 0x00 (stream.drop jpegHeader.length) with
    | some (entropy, 0xd9, rest) =>
      some ((stream.take (stream.length - rest.length), entropy), rest)
    | _ => none
  else
    none

/-- Read images until the stream ends. -/
def readImages (stream : List UInt8) : Option (List (List UInt8 × List UInt8)) :=
  Framing.readAll readImage stream

/-! ## Images and streams of images -/

theorem jpegImage_append (entropy rest : List UInt8) :
    jpegImage entropy ++ rest =
      jpegHeader ++ (Stuffing.stuff 0xff 0x00 entropy ++ 0xff :: 0xd9 :: rest) := by
  simp [jpegImage]

/-- The scan of an image has no marker before its EOI, which ends the image. -/
theorem scan_jpegImage (entropy : List UInt8) :
    Stuffing.scan 0xff 0x00 ((jpegImage entropy).drop jpegHeader.length) =
      some (entropy, 0xd9, []) := by
  have himage := jpegImage_append entropy []
  rw [List.append_nil] at himage
  rw [himage, List.drop_left]
  exact Stuffing.scan_stuff (by decide) entropy []

theorem readImage_jpegImage (entropy rest : List UInt8) :
    readImage (jpegImage entropy ++ rest) = some ((jpegImage entropy, entropy), rest) := by
  have hpre : jpegHeader.isPrefixOf (jpegImage entropy ++ rest) = true := by
    rw [jpegImage_append, List.isPrefixOf_iff_prefix]
    exact List.prefix_append _ _
  have hscan : Stuffing.scan 0xff 0x00 ((jpegImage entropy ++ rest).drop jpegHeader.length) =
      some (entropy, 0xd9, rest) := by
    rw [jpegImage_append, List.drop_left]
    exact Stuffing.scan_stuff (by decide) entropy rest
  rw [readImage, if_pos hpre, hscan]
  simp

theorem jpegImage_ne_nil (entropy : List UInt8) : jpegImage entropy ≠ [] := by
  simp [jpegImage]

theorem isCompleteJpeg_jpegImage (entropy : List UInt8) :
    isCompleteJpeg (jpegImage entropy) = true := by
  have hstart : [0xff, 0xd8] <+: jpegHeader := ⟨jpegHeader.drop 2, rfl⟩
  have hend : [0xff, 0xd9] <:+ jpegImage entropy := List.suffix_append _ _
  rw [isCompleteJpeg, Bool.and_eq_true, List.isPrefixOf_iff_prefix, List.isSuffixOf_iff_suffix]
  refine ⟨hstart.trans ?_, hend⟩
  rw [jpegImage, List.append_assoc]
  exact List.prefix_append _ _

theorem run_writeFrame_mjpeg (decoder : JpegDecoder) (frame : CompressedFrame) (written : Vec) :
    (writeFrame decoder .mjpeg frame).run written = .ok () (written ++ frame.jpeg) := by
  simp [writeFrame, frameData]

/-- What the stdout worker writes in MJPEG format is the images and nothing
else. -/
theorem run_runStdout_mjpeg (decoder : JpegDecoder) (frames : List CompressedFrame)
    (written : Vec) :
    (runStdout decoder .mjpeg frames).run written =
      .ok () (written ++ frames.flatMap CompressedFrame.jpeg) := by
  have hforM : (forM frames (writeFrame decoder .mjpeg)).run written =
      .ok () (written ++ frames.flatMap CompressedFrame.jpeg) := by
    induction frames generalizing written with
    | nil => simp
    | cons frame frames ih =>
      rw [List.forM_cons, EStateM.run_bind, run_writeFrame_mjpeg]
      simp [ih]
  rw [runStdout, EStateM.run_bind, hforM]
  simp

/-! ## Records -/

/-- Every record with a byte that is not padding gives its image. -/
theorem map_reconstructJpeg {records : List (List UInt8)}
    (hrecords : ∀ record ∈ records, ∃ byte ∈ record, byte ≠ 0) :
    records.map reconstructJpeg =
      (records.map fun record => jpegImage (trimPadding record)).map .ok := by
  rw [List.map_map]
  exact List.map_congr_left fun record hmem => reconstructJpeg_ok (hrecords record hmem)

/-- Images written one after another are read back, each with its entropy. -/
theorem readImages_flatten (records : List (List UInt8)) :
    readImages (records.map fun record => jpegImage (trimPadding record)).flatten =
      some (records.map fun record => (jpegImage (trimPadding record), trimPadding record)) := by
  rw [← List.flatMap_def]
  refine Framing.readAll_flatMap ?_ ?_
  · intro record tail _
    exact readImage_jpegImage (trimPadding record) _
  · intro record _
    exact jpegImage_ne_nil (trimPadding record)

/-- **The MJPEG stream splits in one way, and loses nothing.** A record is
refused exactly when it has nothing but padding. For records that are not, the
sink writes the concatenation of their images; a reader of headers and scans
splits it into these images, in order, and recovers each record without its
padding. No scan has a marker before the EOI that ends its image. -/
theorem runStdout_splits (decoder : JpegDecoder) :
    (∀ record, reconstructJpeg record = .error .emptyEntropy ↔ ∀ byte ∈ record, byte = 0) ∧
      ∀ records : List (List UInt8), (∀ record ∈ records, ∃ byte ∈ record, byte ≠ 0) →
        ∃ images : List (List UInt8),
          records.map reconstructJpeg = images.map .ok ∧
          (∀ frames : List CompressedFrame, frames.map CompressedFrame.jpeg = images →
            (runStdout decoder .mjpeg frames).run ([] : Vec) = .ok () images.flatten) ∧
          readImages images.flatten = some (images.zip (records.map trimPadding)) ∧
          (∀ p ∈ images.zip records, Stuffing.scan 0xff 0x00 (p.1.drop jpegHeader.length) =
            some (trimPadding p.2, 0xd9, [])) ∧
          ∀ image ∈ images, isCompleteJpeg image = true := by
  refine ⟨fun record => by simp [reconstructJpeg_error], fun records hrecords => ?_⟩
  refine ⟨_, map_reconstructJpeg hrecords, ?_, ?_, ?_, ?_⟩
  · intro frames hframes
    rw [run_runStdout_mjpeg, ← hframes, List.nil_append, List.flatMap_def]
  · rw [readImages_flatten, List.zip_map', List.map_congr_left]
    intro record _
    rfl
  · intro p hp
    obtain ⟨record, -, rfl⟩ : ∃ record ∈ records, (jpegImage (trimPadding record), record) = p := by
      have hzip : (records.map fun record => jpegImage (trimPadding record)).zip records =
          records.map fun record => (jpegImage (trimPadding record), record) := by
        conv_lhs => rw [← List.map_id records]
        rw [List.map_map, List.zip_map']
        rfl
      rw [hzip] at hp
      exact List.mem_map.mp hp
    exact scan_jpegImage (trimPadding record)
  · intro image himage
    obtain ⟨record, -, rfl⟩ := List.mem_map.mp himage
    exact isCompleteJpeg_jpegImage (trimPadding record)

/-- A record that ends in an escape symbol and padding, and one that looks
like the end of an image. -/
def sampleRecords : List (List UInt8) := [[0x12, 0xff, 0x00, 0x00], [0xff, 0xd9]]

theorem runStdout_splits_sample :
    ∃ images : List (List UInt8), sampleRecords.map reconstructJpeg = images.map .ok ∧
      readImages images.flatten = some (images.zip [[0x12, 0xff], [0xff, 0xd9]]) := by
  have hrecords : ∀ record ∈ sampleRecords, ∃ byte ∈ record, byte ≠ 0 := by decide
  have htrim : sampleRecords.map trimPadding = [[0x12, 0xff], [0xff, 0xd9]] := by decide
  let decoder : JpegDecoder := ⟨fun _ => .error "no decoder", fun _ => none⟩
  obtain ⟨images, himages, -, hread, -⟩ := (runStdout_splits decoder).2 sampleRecords hrecords
  rw [htrim] at hread
  exact ⟨images, himages, hread⟩

end Handycam
