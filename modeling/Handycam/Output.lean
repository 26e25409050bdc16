import Handycam.Sink
import Handycam.Worker

/-!
# The output worker

Decoded frames leave the program through a thread of their own, which writes
them to the standard output or to a V4L2 node. `Output` is what the two have in
common: what is done before the first frame, for a frame, and after the last
one. `Output.service` makes a worker of it, with the reports that `spawn` sends.

* **stdout** — `stdoutOutput` runs `runStdout` over the frames it receives.
* **V4L2** — `v4l2Output` negotiates a format with a node, which is a parameter,
  and gives it every frame in one write of its own.
-/

namespace Handycam

/-- Errors of an output worker: those of the byte stream, and those of V4L2. -/
inductive OutputError where
  /-- "frame conversion failed: {0}" -/
  | conversion (error : FrameConversionError)
  /-- "output I/O failed: {0}" -/
  | io (error : IoError)
  /-- "V4L2 node does not support single-planar video output and read/write I/O" -/
  | notOutputDevice
  /-- "V4L2 rejected requested format; received {width}x{height} {fourcc}" -/
  | formatRejected (width height : ℕ) (fourcc : List UInt8)
  /-- "V4L2 accepted only {actual} of {required} frame bytes" -/
  | shortWrite (actual required : ℕ)
  deriving DecidableEq

/-- The errors of a byte stream among those of a worker. -/
def OutputError.ofSink : SinkError → OutputError
  | .conversion error => .conversion error
  | .io error => .io error

/-- What an output worker reports. -/
inductive OutputStatus where
  /-- frames are taken -/
  | ready
  /-- the worker ended -/
  | closed
  /-- the worker failed -/
  | failed (error : OutputError)
  deriving DecidableEq

/-- The last report of `spawn`'s thread: a closed pipe is no failure. -/
def lastStatus : Except OutputError Unit → OutputStatus
  | .ok () => .closed
  | .error (.io .brokenPipe) => .closed
  | .error error => .failed error

/-- A failure is reported with its error, and only a failure is. -/
theorem lastStatus_eq_failed {result : Except OutputError Unit} {error : OutputError} :
    lastStatus result = .failed error ↔ result = .error error ∧ error ≠ .io .brokenPipe := by
  unfold lastStatus
  split
  · simp
  · rename_i h
    simp only [reduceCtorEq, Except.error.injEq, false_iff, not_and, not_not]
    exact Eq.symm
  · rename_i failure hpipe
    constructor
    · intro h
      obtain rfl := OutputStatus.failed.inj h
      exact ⟨rfl, fun hbroken => hpipe (by rw [hbroken])⟩
    · rintro ⟨h, -⟩
      rw [Except.error.inj h]

/-- A worker that is closed has ended well, or its pipe was closed. -/
theorem lastStatus_eq_closed {result : Except OutputError Unit} :
    lastStatus result = .closed ↔ result = .ok () ∨ result = .error (.io .brokenPipe) := by
  unfold lastStatus
  split
  · simp
  · simp
  · rename_i error hpipe
    simp only [reduceCtorEq, Except.error.injEq, false_or, false_iff]
    exact fun hbroken => hpipe (by rw [hbroken])

/-- What is done with the frames, on a world `W`. -/
structure Output (W : Type) where
  /-- before the first frame -/
  start : EStateM OutputError W Unit
  /-- for a frame -/
  handle : CompressedFrame → EStateM OutputError W Unit
  /-- after the last frame -/
  finish : EStateM OutputError W Unit

/-- `spawn`: the worker with an output. -/
def Output.service {W : Type} (output : Output W) :
    Service CompressedFrame OutputError OutputStatus W where
  start := output.start
  handle := output.handle
  finish := output.finish
  ready := .ready
  report := lastStatus

/-- A worker that has ended is not ready. -/
theorem lastStatus_ne_ready (result : Except OutputError Unit) : lastStatus result ≠ .ready := by
  unfold lastStatus
  split <;> exact nofun

section Reports

variable {W : Type} {output : Output W} {world : W}
  {worker : Worker CompressedFrame OutputError OutputStatus W}

/-- The reports of an output worker: that it is ready, unless it could not
start, and how it ended. -/
theorem reports_cases (h : worker.Valid output.service world) :
    worker.statuses.accepted <+: [.ready] ∨
      ∃ result, (worker.point = .reported result ∨ worker.point = .exited result) ∧
        (worker.statuses.accepted = [.ready, lastStatus result] ∨
          worker.statuses.accepted = [lastStatus result] ∧
            ∃ error after, output.start.run world = .error error after) := by
  have hready : (Worker.readyReport output.service world = [.ready]) ∨
      Worker.readyReport output.service world = [] ∧
        ∃ error after, output.start.run world = .error error after := by
    rw [Worker.readyReport]
    split
    · exact .inl rfl
    · exact .inr ⟨rfl, _, _, ‹_›⟩
  have hends : ∀ result, Worker.readyReport output.service world ++ [lastStatus result] =
        [.ready, lastStatus result] ∨
      Worker.readyReport output.service world ++ [lastStatus result] = [lastStatus result] ∧
        ∃ error after, output.start.run world = .error error after := by
    intro result
    obtain hready | ⟨hready, hstart⟩ := hready
    · exact .inl (by rw [hready]; rfl)
    · exact .inr ⟨by rw [hready]; rfl, hstart⟩
  have hopen : Worker.readyReport output.service world <+: [.ready] := by
    obtain hready | ⟨hready, -⟩ := hready <;> rw [hready]
    · exact List.nil_prefix
  have hstatuses := h.statuses
  -- the last report is sent in the step before the worker exits
  rcases hpoint : worker.point with _ | _ | message | _ | result | result | result <;>
    rw [hpoint] at hstatuses <;> rw [hstatuses]
  · exact .inl List.nil_prefix
  · exact .inl hopen
  · exact .inl hopen
  · exact .inl hopen
  · exact .inl hopen
  · exact .inr ⟨result, .inl rfl, hends result⟩
  · exact .inr ⟨result, .inr rfl, hends result⟩

/-- A worker that reported its end no longer listens, and how it ended is what
its program gave. -/
theorem ended_of_reported (h : worker.Valid output.service world)
    {result : Except OutputError Unit}
    (hpoint : worker.point = .reported result ∨ worker.point = .exited result) :
    worker.inbox.receiverAlive = false ∧
      outcome ((output.service.program worker.inbox.received).run world) =
        (result, worker.world) := by
  have hran := h.ran
  rw [h.listener]
  rw [Worker.Ran] at hran
  obtain hpoint | hpoint := hpoint <;> simp only [hpoint] at hran ⊢ <;> exact ⟨rfl, hran.1⟩

end Reports

/-! ## The standard output -/

/-- `run_stdout`. -/
def stdoutOutput {W : Type} [Write W] (decoder : JpegDecoder) (format : OutputFormat) :
    Output W where
  start := pure ()
  handle frame := EStateM.adaptExcept .ofSink (writeFrame decoder format frame)
  finish := EStateM.adaptExcept .ofSink (EStateM.adaptExcept .io Write.flush)

section Stdout

variable {W : Type} [Write W] (decoder : JpegDecoder) (format : OutputFormat)

theorem adaptExcept_bind {ε ε' σ α β : Type} (f : ε → ε') (x : EStateM ε σ α)
    (k : α → EStateM ε σ β) :
    EStateM.adaptExcept f (x >>= k) =
      EStateM.adaptExcept f x >>= fun a => EStateM.adaptExcept f (k a) := by
  funext s
  simp only [EStateM.adaptExcept, bind, EStateM.bind]
  cases x s <;> rfl

theorem opening_stdoutOutput (frames : List CompressedFrame) :
    (stdoutOutput (W := W) decoder format).service.opening frames =
      EStateM.adaptExcept .ofSink (forM frames (writeFrame decoder format)) := by
  have hforM : (forM frames fun frame =>
        EStateM.adaptExcept OutputError.ofSink (writeFrame (W := W) decoder format frame)) =
      EStateM.adaptExcept .ofSink (forM frames (writeFrame decoder format)) := by
    induction frames with
    | nil => rfl
    | cons frame frames ih => rw [List.forM_cons, List.forM_cons, adaptExcept_bind, ih]
  rw [Service.opening]
  exact (pure_bind _ _).trans hforM

/-- The stdout worker runs `runStdout` over the frames it receives. -/
theorem program_stdoutOutput (frames : List CompressedFrame) :
    (stdoutOutput (W := W) decoder format).service.program frames =
      EStateM.adaptExcept .ofSink (runStdout decoder format frames) := by
  rw [Service.program, opening_stdoutOutput, runStdout, adaptExcept_bind]
  rfl

/-- The stdout worker never fails on bytes in memory; they are the images of the
frames it has handled. -/
theorem stdoutOutput_rule (decoder : JpegDecoder) :
    Service.Rule (stdoutOutput (W := Vec) decoder .mjpeg).service ([] : Vec)
      (fun frames written => written = frames.flatMap CompressedFrame.jpeg)
      (fun frames result written =>
        result = .ok () ∧ written = frames.flatMap CompressedFrame.jpeg) where
  start written hstart := by
    cases hstart
    rfl
  refuse e written hstart := by cases hstart
  handle past frame written after hpast hhandle := by
    change (EStateM.adaptExcept .ofSink (writeFrame decoder .mjpeg frame)).run written = _ at hhandle
    rw [EStateM.run_adaptExcept, run_writeFrame_mjpeg] at hhandle
    cases hhandle
    simp [hpast]
  fail past frame rest e written after hpast hhandle := by
    change (EStateM.adaptExcept .ofSink (writeFrame decoder .mjpeg frame)).run written = _ at hhandle
    rw [EStateM.run_adaptExcept, run_writeFrame_mjpeg] at hhandle
    cases hhandle
  finish frames result written after hframes hfinish := by
    obtain ⟨rfl, rfl⟩ := Prod.mk.inj hfinish
    exact ⟨rfl, hframes⟩

end Stdout

/-! ## A V4L2 node -/

/-- `Colorspace`, as far as it is used. -/
inductive Colorspace where
  /-- `Colorspace::JPEG` -/
  | jpeg
  /-- `Colorspace::SMPTE170M` -/
  | smpte170m
  deriving DecidableEq

/-- `Quantization`, as far as it is used. -/
inductive Quantization where
  /-- `Quantization::FullRange` -/
  | fullRange
  /-- `Quantization::LimitedRange` -/
  | limitedRange
  deriving DecidableEq

/-- A format of a V4L2 node. -/
structure V4l2Format where
  /-- pixels in a line -/
  width : ℕ
  /-- lines -/
  height : ℕ
  /-- the code of the pixel format -/
  fourcc : List UInt8
  /-- bytes in a line, or 0 -/
  stride : ℕ
  /-- bytes in a frame -/
  size : ℕ
  /-- the colour space -/
  colorspace : Colorspace
  /-- the range of the samples -/
  quantization : Quantization
  deriving DecidableEq

/-- The code of an output format: "MJPG" or "YUYV". -/
def OutputFormat.fourcc : OutputFormat → List UInt8
  | .mjpeg => [0x4d, 0x4a, 0x50, 0x47]
  | .yuyv => [0x59, 0x55, 0x59, 0x56]

/-- The format that `run_v4l2` requests. -/
def requestedFormat : OutputFormat → V4l2Format
  | .mjpeg =>
    { width := width
      height := height
      fourcc := OutputFormat.fourcc .mjpeg
      stride := 0
      size := 256 * 1024
      colorspace := .jpeg
      quantization := .fullRange }
  | .yuyv =>
    { width := width
      height := height
      fourcc := OutputFormat.fourcc .yuyv
      stride := width * 2
      size := width * height * 2
      colorspace := .smpte170m
      quantization := .limitedRange }

/-- `V4L2_CAP_VIDEO_OUTPUT | V4L2_CAP_READWRITE`. -/
def requiredCapabilities : UInt32 := 0x2 ||| 0x1000000

/-- Frames a second. -/
def fps : ℕ := 25

/-- What a V4L2 node answers; `σ` is the state of the node. -/
structure V4l2Node (σ : Type) where
  /-- `Device::with_path` -/
  withPath : EStateM IoError σ Unit
  /-- `query_caps` -/
  queryCaps : EStateM IoError σ UInt32
  /-- `set_format`; the node answers with the format it will use -/
  setFormat : V4l2Format → EStateM IoError σ V4l2Format
  /-- `set_params`, with the frames in a second -/
  setParams : ℕ → EStateM IoError σ Unit
  /-- `write`; the node answers with the number of bytes it took -/
  write : List UInt8 → EStateM IoError σ ℕ

/-- A node, and what was done to it. -/
structure V4l2World (σ : Type) where
  /-- the state of the node -/
  node : σ
  /-- the format it has accepted -/
  accepted : Option V4l2Format
  /-- every buffer written, with the node's answer -/
  buffers : List (List UInt8 × Except IoError ℕ)

namespace V4l2Node

variable {σ : Type} (node : V4l2Node σ)

/-- A call to the node. -/
def call {α : Type} (operation : EStateM IoError σ α) : EStateM OutputError (V4l2World σ) α :=
  fun world =>
    match operation.run world.node with
    | .ok a next => .ok a { world with node := next }
    | .error error next => .error (.io error) { world with node := next }

/-- A call of `set_format`. -/
def callSetFormat (format : V4l2Format) : EStateM OutputError (V4l2World σ) V4l2Format :=
  fun world =>
    match (node.setFormat format).run world.node with
    | .ok accepted next => .ok accepted { world with node := next, accepted := some accepted }
    | .error error next => .error (.io error) { world with node := next }

/-- A call of `write`. -/
def callWrite (data : List UInt8) : EStateM OutputError (V4l2World σ) ℕ :=
  fun world =>
    match (node.write data).run world.node with
    | .ok written next =>
      .ok written { world with node := next, buffers := world.buffers ++ [(data, .ok written)] }
    | .error error next =>
      .error (.io error)
        { world with node := next, buffers := world.buffers ++ [(data, .error error)] }

/-- `run_v4l2` up to its loop. -/
def configure (format : OutputFormat) : EStateM OutputError (V4l2World σ) Unit := do
  call node.withPath
  let capabilities ← call node.queryCaps
  if capabilities &&& requiredCapabilities ≠ requiredCapabilities then
    throw .notOutputDevice
  let accepted ← node.callSetFormat (requestedFormat format)
  if accepted.width ≠ width ∨ accepted.height ≠ height ∨ accepted.fourcc ≠ format.fourcc then
    throw (.formatRejected accepted.width accepted.height accepted.fourcc)
  call (node.setParams fps)

/-- One turn of the loop in `run_v4l2`. -/
def writeV4l2 (decoder : JpegDecoder) (format : OutputFormat) (frame : CompressedFrame) :
    EStateM OutputError (V4l2World σ) Unit :=
  match frameData decoder frame format with
  | .error error => throw (.conversion error)
  | .ok data => do
    let written ← node.callWrite data
    if written ≠ data.length then throw (.shortWrite written data.length)

end V4l2Node

/-- `run_v4l2`. -/
def v4l2Output {σ : Type} (node : V4l2Node σ) (decoder : JpegDecoder) (format : OutputFormat) :
    Output (V4l2World σ) where
  start := node.configure format
  handle := node.writeV4l2 decoder format
  finish := pure ()

/-- The node accepted the camera's dimensions and the format's code. -/
def V4l2World.Negotiated {σ : Type} (world : V4l2World σ) (format : OutputFormat) : Prop :=
  ∃ accepted, world.accepted = some accepted ∧ accepted.width = width ∧
    accepted.height = height ∧ accepted.fourcc = format.fourcc

/-- The node took whole frames, each in a buffer of its own. -/
def V4l2World.Took {σ : Type} (world : V4l2World σ) (decoder : JpegDecoder)
    (format : OutputFormat) (frames : List CompressedFrame) : Prop :=
  ∃ images : List (List UInt8),
    frames.map (frameData decoder · format) = images.map .ok ∧
      world.buffers = images.map fun image => (image, .ok image.length)

/-- What kept a frame from the node: it could not be converted, or the node
failed, or the node took a part of it. -/
inductive V4l2World.Refused {σ : Type} (world : V4l2World σ) (decoder : JpegDecoder)
    (format : OutputFormat) (frames : List CompressedFrame) (frame : CompressedFrame) :
    OutputError → Prop
  /-- nothing was written for the frame -/
  | conversion {error : FrameConversionError} (took : world.Took decoder format frames)
    (h : frameData decoder frame format = .error error) :
    Refused world decoder format frames frame (.conversion error)
  /-- the write failed -/
  | io {image : List UInt8} {error : IoError} {earlier : V4l2World σ}
    (took : earlier.Took decoder format frames) (h : frameData decoder frame format = .ok image)
    (hbuffers : world.buffers = earlier.buffers ++ [(image, .error error)]) :
    Refused world decoder format frames frame (.io error)
  /-- the write was short, or long -/
  | short {image : List UInt8} {written : ℕ} {earlier : V4l2World σ}
    (took : earlier.Took decoder format frames) (h : frameData decoder frame format = .ok image)
    (hbuffers : world.buffers = earlier.buffers ++ [(image, .ok written)])
    (hlength : written ≠ image.length) :
    Refused world decoder format frames frame (.shortWrite written image.length)

section V4l2

variable {σ : Type} {node : V4l2Node σ} {decoder : JpegDecoder} {format : OutputFormat}
  {world after : V4l2World σ}

/-- A call to the node changes the node only. -/
theorem V4l2Node.call_frame {α : Type} (operation : EStateM IoError σ α) (world : V4l2World σ) :
    (∃ a next, (call operation).run world = .ok a { world with node := next }) ∨
      ∃ error next, (call operation).run world = .error (.io error) { world with node := next } := by
  rcases h : operation.run world.node with ⟨a, next⟩ | ⟨error, next⟩
  · refine .inl ⟨a, next, ?_⟩
    simp [call, EStateM.run, show operation world.node = _ from h]
  · refine .inr ⟨error, next, ?_⟩
    simp [call, EStateM.run, show operation world.node = _ from h]

theorem V4l2Node.callSetFormat_frame (node : V4l2Node σ) (requested : V4l2Format)
    (world : V4l2World σ) :
    (∃ accepted next, (node.callSetFormat requested).run world =
        .ok accepted { world with node := next, accepted := some accepted }) ∨
      ∃ error next, (node.callSetFormat requested).run world =
        .error (.io error) { world with node := next } := by
  rcases h : (node.setFormat requested).run world.node with ⟨accepted, next⟩ | ⟨error, next⟩
  · refine .inl ⟨accepted, next, ?_⟩
    simp [callSetFormat, EStateM.run, show node.setFormat requested world.node = _ from h]
  · refine .inr ⟨error, next, ?_⟩
    simp [callSetFormat, EStateM.run, show node.setFormat requested world.node = _ from h]

theorem V4l2Node.callWrite_frame (node : V4l2Node σ) (data : List UInt8) (world : V4l2World σ) :
    (∃ written next, (node.callWrite data).run world =
        .ok written
          { world with node := next, buffers := world.buffers ++ [(data, .ok written)] }) ∨
      ∃ error next, (node.callWrite data).run world =
        .error (.io error)
          { world with node := next, buffers := world.buffers ++ [(data, .error error)] } := by
  rcases h : (node.write data).run world.node with ⟨written, next⟩ | ⟨error, next⟩
  · refine .inl ⟨written, next, ?_⟩
    simp [callWrite, EStateM.run, show node.write data world.node = _ from h]
  · refine .inr ⟨error, next, ?_⟩
    simp [callWrite, EStateM.run, show node.write data world.node = _ from h]

/-- Nothing is written before a format is negotiated. -/
theorem V4l2Node.configure_outcome {result : Except OutputError Unit}
    (h : outcome ((node.configure format).run world) = (result, after)) :
    after.buffers = world.buffers ∧ (result = .ok () → after.Negotiated format) := by
  rw [configure] at h
  rw [EStateM.run_bind] at h
  -- four calls in a row, each of which may fail, and none of which writes
  obtain ⟨_, opened, hopen⟩ | ⟨error, opened, hopen⟩ := call_frame node.withPath world
  case inr =>
    rw [hopen] at h
    obtain ⟨rfl, rfl⟩ := Prod.mk.inj h
    exact ⟨rfl, nofun⟩
  rw [hopen] at h
  dsimp only at h
  rw [EStateM.run_bind] at h
  obtain ⟨capabilities, queried, hquery⟩ | ⟨error, queried, hquery⟩ :=
    call_frame node.queryCaps { world with node := opened }
  case inr =>
    rw [hquery] at h
    obtain ⟨rfl, rfl⟩ := Prod.mk.inj h
    exact ⟨rfl, nofun⟩
  rw [hquery] at h
  dsimp only at h
  split at h
  case isTrue =>
    obtain ⟨rfl, rfl⟩ := Prod.mk.inj h
    exact ⟨rfl, nofun⟩
  rw [EStateM.run_bind] at h
  obtain ⟨accepted, set, hset⟩ | ⟨error, set, hset⟩ :=
    node.callSetFormat_frame (requestedFormat format) { world with node := queried }
  case inr =>
    rw [hset] at h
    obtain ⟨rfl, rfl⟩ := Prod.mk.inj h
    exact ⟨rfl, nofun⟩
  rw [hset] at h
  dsimp only at h
  split at h
  case isTrue =>
    obtain ⟨rfl, rfl⟩ := Prod.mk.inj h
    exact ⟨rfl, nofun⟩
  rename_i hformat
  simp only [ne_eq, not_or, not_not] at hformat
  obtain ⟨_, timed, htime⟩ | ⟨error, timed, htime⟩ :=
    call_frame (node.setParams fps) { world with node := set, accepted := some accepted }
  · rw [htime] at h
    obtain ⟨rfl, rfl⟩ := Prod.mk.inj h
    exact ⟨rfl, fun _ => ⟨accepted, rfl, hformat⟩⟩
  · rw [htime] at h
    obtain ⟨rfl, rfl⟩ := Prod.mk.inj h
    exact ⟨rfl, nofun⟩

/-- A turn of the loop gives the node the whole frame, or fails. -/
theorem V4l2Node.writeV4l2_outcome {frames : List CompressedFrame} {frame : CompressedFrame}
    {result : Except OutputError Unit} (htook : world.Took decoder format frames)
    (h : outcome ((node.writeV4l2 decoder format frame).run world) = (result, after)) :
    after.accepted = world.accepted ∧
      (result = .ok () → after.Took decoder format (frames ++ [frame])) ∧
      ∀ error, result = .error error → after.Refused decoder format frames frame error := by
  -- three ways to fail: the picture, the write, and a write that is short
  rw [writeV4l2] at h
  split at h
  · rename_i error hframe
    obtain ⟨rfl, rfl⟩ := Prod.mk.inj h
    refine ⟨rfl, nofun, fun error herror => ?_⟩
    obtain rfl := Except.error.inj herror
    exact .conversion htook hframe
  · rename_i image hframe
    rw [EStateM.run_bind] at h
    obtain ⟨written, next, hwrite⟩ | ⟨error, next, hwrite⟩ := node.callWrite_frame image world
    · rw [hwrite] at h
      dsimp only at h
      split at h
      · rename_i hlength
        obtain ⟨rfl, rfl⟩ := Prod.mk.inj h
        refine ⟨rfl, nofun, fun error herror => ?_⟩
        obtain rfl := Except.error.inj herror
        exact .short htook hframe rfl hlength
      · rename_i hlength
        obtain rfl := not_ne_iff.mp hlength
        obtain ⟨rfl, rfl⟩ := Prod.mk.inj h
        refine ⟨rfl, fun _ => ?_, nofun⟩
        obtain ⟨images, himages, hbuffers⟩ := htook
        exact ⟨images ++ [image], by simp [himages, hframe], by simp [hbuffers]⟩
    · rw [hwrite] at h
      obtain ⟨rfl, rfl⟩ := Prod.mk.inj h
      refine ⟨rfl, nofun, fun error herror => ?_⟩
      obtain rfl := Except.error.inj herror
      exact .io htook hframe rfl

/-- What the V4L2 worker ends with, over some frames. -/
structure V4l2World.Ended {σ : Type} (world : V4l2World σ) (decoder : JpegDecoder)
    (format : OutputFormat) (frames : List CompressedFrame) (result : Except OutputError Unit) :
    Prop where
  /-- every frame was taken -/
  ok : result = .ok () → world.Negotiated format ∧ world.Took decoder format frames
  /-- nothing was written, or every frame was taken before one was refused -/
  error : ∀ error, result = .error error → world.buffers = [] ∨
    world.Negotiated format ∧ ∃ past frame rest, frames = past ++ frame :: rest ∧
      world.Refused decoder format past frame error

/-- What holds of the V4L2 worker, on a node in any state. -/
theorem v4l2Output_rule (node : V4l2Node σ) (decoder : JpegDecoder) (format : OutputFormat) (s : σ) :
    Service.Rule (v4l2Output node decoder format).service ⟨s, none, []⟩
      (fun frames world => world.Negotiated format ∧ world.Took decoder format frames)
      (fun frames result world => world.Ended decoder format frames result) where
  start world hstart := by
    obtain ⟨hbuffers, hformat⟩ := V4l2Node.configure_outcome (congrArg outcome hstart)
    exact ⟨hformat rfl, [], rfl, hbuffers⟩
  refuse e world hstart frames := by
    obtain ⟨hbuffers, -⟩ := V4l2Node.configure_outcome (congrArg outcome hstart)
    exact ⟨nofun, fun _ _ => .inl hbuffers⟩
  handle past frame world after hpast hhandle := by
    obtain ⟨haccepted, htook, -⟩ := V4l2Node.writeV4l2_outcome hpast.2 (congrArg outcome hhandle)
    refine ⟨?_, htook rfl⟩
    obtain ⟨accepted, hformat⟩ := hpast.1
    exact ⟨accepted, haccepted ▸ hformat⟩
  fail past frame rest e world after hpast hhandle := by
    obtain ⟨haccepted, -, hrefused⟩ := V4l2Node.writeV4l2_outcome hpast.2 (congrArg outcome hhandle)
    refine ⟨nofun, fun error herror => .inr ⟨?_, past, frame, rest, rfl, hrefused error herror⟩⟩
    obtain ⟨accepted, hformat⟩ := hpast.1
    exact ⟨accepted, haccepted ▸ hformat⟩
  finish frames result world after hframes hfinish := by
    obtain ⟨rfl, rfl⟩ := Prod.mk.inj hfinish
    exact ⟨fun _ => hframes, nofun⟩

/-- The node has been given whole frames of a negotiated format only, one in
each buffer, and took all but the last of them whole. -/
structure V4l2World.Given {σ : Type} (world : V4l2World σ) (decoder : JpegDecoder)
    (format : OutputFormat) (frames : List CompressedFrame) : Prop where
  /-- a buffer is a frame, and they are in order -/
  whole : (world.buffers.map fun buffer => Except.ok buffer.1) <+:
    frames.map (frameData decoder · format)
  /-- the worker stops at the first buffer that is not taken whole -/
  taken : ∀ buffer ∈ world.buffers.dropLast, buffer.2 = .ok buffer.1.length
  /-- there is no buffer without a format -/
  negotiated : world.buffers ≠ [] → world.Negotiated format

theorem V4l2World.given_empty {frames : List CompressedFrame} (h : world.buffers = []) :
    world.Given decoder format frames where
  whole := by simp [h]
  taken := by simp [h]
  negotiated := fun hne => absurd h hne

/-- The same frames, and more. -/
theorem V4l2World.Given.mono {frames more : List CompressedFrame}
    (h : world.Given decoder format frames) (hmore : frames <+: more) :
    world.Given decoder format more :=
  ⟨h.whole.trans (hmore.map _), h.taken, h.negotiated⟩

theorem V4l2World.Took.given {frames : List CompressedFrame}
    (h : world.Took decoder format frames) (hformat : world.Negotiated format) :
    world.Given decoder format frames := by
  obtain ⟨images, himages, hbuffers⟩ := h
  refine ⟨?_, fun buffer hbuffer => ?_, fun _ => hformat⟩
  · rw [himages, hbuffers, List.map_map]
    exact List.prefix_refl _
  · have hmem := List.mem_of_mem_dropLast hbuffer
    rw [hbuffers] at hmem
    obtain ⟨image, -, rfl⟩ := List.mem_map.mp hmem
    rfl

/-- One more buffer, with any answer. -/
theorem V4l2World.Took.given_concat {earlier : V4l2World σ} {frames : List CompressedFrame}
    {frame : CompressedFrame} {image : List UInt8} {answer : Except IoError ℕ}
    (h : earlier.Took decoder format frames) (hframe : frameData decoder frame format = .ok image)
    (hbuffers : world.buffers = earlier.buffers ++ [(image, answer)])
    (hformat : world.Negotiated format) : world.Given decoder format (frames ++ [frame]) := by
  obtain ⟨images, himages, hearlier⟩ := h
  refine ⟨?_, fun buffer hbuffer => ?_, fun _ => hformat⟩
  · rw [hbuffers, hearlier, List.map_append, List.map_append, himages, List.map_map]
    simp [hframe, Function.comp_def]
  · rw [hbuffers, List.dropLast_concat, hearlier] at hbuffer
    obtain ⟨image, -, rfl⟩ := List.mem_map.mp hbuffer
    rfl

theorem V4l2World.Refused.given {frames : List CompressedFrame} {frame : CompressedFrame}
    {error : OutputError} (h : world.Refused decoder format frames frame error)
    (hformat : world.Negotiated format) : world.Given decoder format (frames ++ [frame]) := by
  cases h with
  | conversion took => exact (took.given hformat).mono (List.prefix_append _ _)
  | io took hframe hbuffers => exact took.given_concat hframe hbuffers hformat
  | short took hframe hbuffers => exact took.given_concat hframe hbuffers hformat

theorem V4l2World.Ended.given {frames : List CompressedFrame} {result : Except OutputError Unit}
    (h : world.Ended decoder format frames result) : world.Given decoder format frames := by
  rcases result with error | ⟨⟩
  · obtain hnone | ⟨hformat, past, frame, rest, rfl, hrefused⟩ := h.error error rfl
    · exact given_empty hnone
    · exact (hrefused.given hformat).mono ⟨rest, by rw [List.append_assoc, List.singleton_append]⟩
  · obtain ⟨hformat, htook⟩ := h.ok rfl
    exact htook.given hformat

variable {M I : Type} {client : M}
  {clientStep : M → Worker CompressedFrame OutputError OutputStatus (V4l2World σ) → I →
    Option (M × Worker CompressedFrame OutputError OutputStatus (V4l2World σ))}
  {actions : List (Threads.Action I)}
  {next : Threads M CompressedFrame OutputError OutputStatus (V4l2World σ)}

/-- **What a V4L2 node gets.** Whatever the node answers, whatever the thread
that feeds the worker does and however the two interleave: the node is given
whole frames, one in each buffer, in the order in which the worker's channel
took them. Before the first of them it has accepted the camera's dimensions and
the code of the format. A buffer that it does not take whole is the last one.
When the worker reports no failure, and no closed pipe, it has taken every frame
that the channel took. -/
theorem v4l2_given (s : σ) (capacity : Option ℕ) (hclient : Threads.Respects clientStep)
    (hrun : Guarded.run (Threads.step (v4l2Output node decoder format).service clientStep)
      ⟨client, .spawn capacity ⟨s, none, []⟩⟩ actions = some next) :
    next.worker.world.Given decoder format next.worker.inbox.accepted ∧
      ∀ result, next.worker.point = .exited result →
        next.worker.world.Ended decoder format next.worker.inbox.received result ∧
          (result = .ok () → next.worker.world.Took decoder format next.worker.inbox.accepted) := by
  have hvalid := Threads.valid_run hclient
    (Worker.valid_spawn (v4l2Output node decoder format).service capacity ⟨s, none, []⟩) hrun
  have hholds := hvalid.holds (v4l2Output_rule node decoder format s)
  have htaken := next.worker.inbox.taken
  constructor
  · suffices next.worker.world.Given decoder format next.worker.inbox.received from
      this.mono htaken
    split at hholds
    · rw [hholds.2]
      exact V4l2World.given_empty rfl
    · exact hholds.2.given hholds.1
    · exact hholds.2.given hholds.1
    · obtain ⟨frames, hreceived, hformat, htook⟩ := hholds
      rw [hreceived]
      exact (htook.given hformat).mono (List.prefix_append _ _)
    · exact hholds.given
    · exact hholds.given
    · exact hholds.given
  · intro result hpoint
    have hran := hvalid.ran
    simp only [hpoint] at hholds
    simp only [Worker.Ran, hpoint] at hran
    refine ⟨hholds, fun hok => ?_⟩
    rw [← (hran.2 hok).2]
    exact (hholds.ok hok).2

end V4l2

/-- A JPEG decoder that decodes nothing. -/
def noDecoder : JpegDecoder := ⟨fun _ => .error "no decoder", fun _ => none⟩

/-- A node that accepts every format and takes every buffer. -/
def acceptingNode : V4l2Node Unit where
  withPath := pure ()
  queryCaps := pure requiredCapabilities
  setFormat := pure
  setParams _ := pure ()
  write data := pure data.length

/-- A client that sends frames, whether there is room for them or not. -/
def feedFrames {W : Type} (client : Unit)
    (worker : Worker CompressedFrame OutputError OutputStatus W) (frame : CompressedFrame) :
    Option (Unit × Worker CompressedFrame OutputError OutputStatus W) :=
  some (client, { worker with inbox := worker.inbox.send frame })

theorem respects_feedFrames {W : Type} : Threads.Respects (feedFrames (W := W)) := by
  rintro client worker frame ⟨next, worker'⟩ h
  obtain ⟨-, rfl⟩ := Prod.mk.inj (Option.some.inj h)
  exact .single (.send worker frame)

theorem v4l2_given_acceptingNode :
    ∃ next : Threads Unit CompressedFrame OutputError OutputStatus (V4l2World Unit),
      next.worker.world.buffers.map Prod.fst = [[0xff, 0xd8, 0xff, 0xd9]] ∧
        next.worker.world.Given noDecoder .mjpeg next.worker.inbox.accepted := by
  let frame : CompressedFrame := ⟨0, 0, 0, 40, 0, [0xff, 0xd8, 0xff, 0xd9]⟩
  have hany : ((Guarded.run
      (Threads.step (v4l2Output acceptingNode noDecoder .mjpeg).service feedFrames)
      ⟨(), .spawn (some 1) ⟨(), none, []⟩⟩
      [.client frame, .worker, .worker, .worker]).any fun next =>
        next.worker.world.buffers.map Prod.fst = [[0xff, 0xd8, 0xff, 0xd9]]) = true := by
    decide +kernel
  obtain ⟨next, hrun, hnext⟩ := Option.any_eq_true _ _ |>.mp hany
  exact ⟨next, of_decide_eq_true hnext, (v4l2_given () (some 1) respects_feedFrames hrun).1⟩

end Handycam
