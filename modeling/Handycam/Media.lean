import Handycam.Stream
import Handycam.Words

/-!
# Timed media

Video frames and PCM blocks with the time at which a backend observed them.
Timestamps are microseconds of one monotonic clock; the values a validated
format or timestamp may not have cannot be built.
-/

namespace Handycam

/-- A timestamp in a backend-defined monotonic clock domain. -/
structure MonotonicTimestamp where
  /-- microseconds since the epoch of the domain -/
  micros : UInt64
  deriving DecidableEq

namespace MonotonicTimestamp

/-- `from_micros`. -/
def fromMicros (microseconds : UInt64) : MonotonicTimestamp := ⟨microseconds⟩

/-- The time since an earlier timestamp; none when it is not earlier. -/
def durationSince (timestamp earlier : MonotonicTimestamp) : Option UInt64 :=
  timestamp.micros.checkedSub earlier.micros

end MonotonicTimestamp

/-! ## Audio -/

/-- Encodings of PCM samples. -/
inductive PcmEncoding where
  /-- two bytes a sample -/
  | signed16LittleEndian
  deriving DecidableEq

/-- Where the timestamp of a PCM block comes from. -/
inductive TimestampAccuracy where
  /-- a device or API sample clock -/
  | hardware
  /-- delivery time and payload duration -/
  | estimated
  deriving DecidableEq

/-- A validated PCM stream description. -/
structure AudioFormat where
  /-- sample frames a second -/
  sampleRateHz : UInt32
  /-- samples in a sample frame -/
  channels : UInt32
  /-- how a sample is written -/
  encoding : PcmEncoding
  /-- `NonZeroU32` of the rate -/
  sampleRateHz_ne : sampleRateHz ≠ 0
  /-- `NonZeroU32` of the channel count -/
  channels_ne : channels ≠ 0
  deriving DecidableEq

theorem sixteenKilohertz_ne : (16000 : UInt32) ≠ 0 := by decide

theorem stereo_ne : (2 : UInt32) ≠ 0 := by decide

/-- Why a format is refused. -/
inductive AudioFormatError where
  /-- "audio sample rate must be non-zero" -/
  | zeroSampleRate
  /-- "audio channel count must be non-zero" -/
  | zeroChannels
  deriving DecidableEq

/-- A 16-bit little-endian format; the rate is checked first. -/
def AudioFormat.pcmS16le (sampleRateHz channels : UInt32) : Except AudioFormatError AudioFormat :=
  if hrate : sampleRateHz = 0 then .error .zeroSampleRate
  else if hchannels : channels = 0 then .error .zeroChannels
  else .ok ⟨sampleRateHz, channels, .signed16LittleEndian, hrate, hchannels⟩

/-- A PCM chunk positioned on the counted device-audio clock. -/
structure AudioChunk where
  /-- interleaved samples -/
  pcm : List UInt8
  /-- position of the first sample frame -/
  startSampleFrame : UInt64
  /-- number of sample frames -/
  sampleFrames : UInt32
  deriving DecidableEq

/-- `AudioPacketError`. -/
inductive AudioPacketError where
  /-- the bytes are no whole number of sample frames -/
  | misalignedLength (length : ℕ)
  /-- the sample frames do not fit into a chunk -/
  | tooLarge (length : ℕ)
  deriving DecidableEq

/-- `AUDIO_BYTES_PER_SAMPLE_FRAME`. -/
def audioBytesPerSampleFrame : ℕ := 4

/-- A counter of sample frames. -/
structure AudioClock where
  /-- the position of the next sample frame -/
  nextSampleFrame : UInt64
  deriving DecidableEq

/-- `push_pcm`: a chunk at the counted position, and the clock after it. -/
def AudioClock.pushPcm (clock : AudioClock) (pcm : List UInt8) :
    Except AudioPacketError (AudioChunk × AudioClock) :=
  if pcm.length % audioBytesPerSampleFrame ≠ 0 then .error (.misalignedLength pcm.length)
  else
    let sampleFrames := pcm.length / audioBytesPerSampleFrame
    if sampleFrames < 2 ^ 32 then
      .ok (⟨pcm, clock.nextSampleFrame, UInt32.ofNat sampleFrames⟩,
        ⟨clock.nextSampleFrame + UInt64.ofNat sampleFrames⟩)
    else .error (.tooLarge pcm.length)

/-! ## Events -/

/-- A camera frame and the time it was observed at. -/
structure TimedVideoFrame where
  /-- observation time -/
  observedAt : MonotonicTimestamp
  /-- the frame -/
  frame : CompressedFrame
  /-- transport data was lost before this frame -/
  sourceDiscontinuity : Bool
  deriving DecidableEq

/-- A PCM block and the time its first sample was captured at. -/
structure TimedAudioChunk where
  /-- capture time of the first sample -/
  observedStart : MonotonicTimestamp
  /-- where that time comes from -/
  timestampAccuracy : TimestampAccuracy
  /-- how the samples are written -/
  format : AudioFormat
  /-- the samples -/
  chunk : AudioChunk
  /-- samples were lost before this block -/
  sourceDiscontinuity : Bool
  deriving DecidableEq

/-- A media event of either track. -/
inductive TimedMediaEvent where
  /-- a video frame -/
  | video (frame : TimedVideoFrame)
  /-- a PCM block -/
  | audio (chunk : TimedAudioChunk)
  deriving DecidableEq

/-- What the audio worker sends. -/
inductive AudioCaptureEvent where
  /-- a PCM block -/
  | chunk (chunk : TimedAudioChunk)
  /-- the worker failed -/
  | failed (error : String)
  /-- the worker ended -/
  | closed
  deriving DecidableEq

end Handycam
