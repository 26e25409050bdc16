import Handycam.Replay
import Handycam.ReplayCapture

/-!
# The replay of images

`run_replay` sends the images of a directory, or a single one, at the camera's
rate: once, or over and over. Like `run_stream` it does not wait for the queue,
which may drop an image, but it keeps to the times at which they are due.
-/

namespace Handycam

/-! ## The images -/

/-- An entry of a directory. -/
structure DirectoryEntry where
  /-- its name -/
  name : List UInt8
  /-- it is a file -/
  isFile : Bool

/-- The files of a replay, as far as it looks at them. -/
structure ReplayFiles where
  /-- the path is a directory, with these entries, unless they cannot be read -/
  directory : Option (Option (List (Option DirectoryEntry)))
  /-- what is read from a file of the directory, or at the path itself -/
  read : Option (List UInt8) → Option (List UInt8)

/-- Errors of `load_replay_frames`; a file is one of the directory, or that at
the path itself. -/
inductive ReplayLoadError where
  /-- "could not read replay input {path}: {source}" -/
  | readReplay (file : Option (List UInt8))
  /-- "replay input {0} contains no JPEG files" -/
  | noReplayFrames
  /-- "replay input is not a complete JPEG: {0}" -/
  | invalidReplayFrame (file : Option (List UInt8))
  deriving DecidableEq

/-- The extension of a file name: what follows the last dot, unless this is also
the first byte. -/
def extension (name : List UInt8) : Option (List UInt8) :=
  let last := (name.reverse.takeWhile fun byte => byte ≠ 0x2e).reverse
  if last.length + 1 < name.length then some last else none

/-- An ASCII letter in lower case. -/
def asciiLower (byte : UInt8) : UInt8 := if 0x41 ≤ byte ∧ byte ≤ 0x5a then byte + 0x20 else byte

/-- The entry is an image by its name: "jpg" or "jpeg" in either case. -/
def DirectoryEntry.isImage (entry : DirectoryEntry) : Bool :=
  entry.isFile && (extension entry.name).any fun extension =>
    let lower := extension.map asciiLower
    lower = [0x6a, 0x70, 0x67] || lower = [0x6a, 0x70, 0x65, 0x67]

/-- The files to replay, in the order of their names. -/
def replayPaths (files : ReplayFiles) : Except ReplayLoadError (List (Option (List UInt8))) :=
  match files.directory with
  | none => .ok [none]
  | some none => .error (.readReplay none)
  | some (some entries) => do
    let found ← entries.mapM fun entry => (entry.elim (.error (.readReplay none)) .ok)
    let names := (found.filter DirectoryEntry.isImage).map DirectoryEntry.name
    return (names.mergeSort fun first second => first ≤ second).map some

/-- `load_replay_frames`. -/
def loadReplayFrames (files : ReplayFiles) : Except ReplayLoadError (List (List UInt8)) := do
  let paths ← replayPaths files
  if paths = [] then throw .noReplayFrames
  paths.mapM fun path =>
    match files.read path with
    | none => throw (.readReplay path)
    | some jpeg => if isCompleteJpeg jpeg then return jpeg else throw (.invalidReplayFrame path)

/-- There is an image to replay, and every image is complete. -/
theorem loadReplayFrames_ok {files : ReplayFiles} {images : List (List UInt8)}
    (h : loadReplayFrames files = .ok images) :
    images ≠ [] ∧ ∃ paths, replayPaths files = .ok paths ∧
      List.Forall₂ (fun path jpeg => files.read path = some jpeg ∧ isCompleteJpeg jpeg = true)
        paths images := by
  obtain ⟨paths, hpaths, hload⟩ := exists_of_bind_ok h
  have hne : paths ≠ [] := by
    rintro rfl
    cases hload
  dsimp only at hload
  rw [if_neg hne] at hload
  have hall := forall₂_of_mapM hload
  refine ⟨?_, paths, hpaths, hall.imp fun path jpeg hjpeg => ?_⟩
  · rintro rfl
    exact hne (List.forall₂_nil_right_iff.mp hall)
  · split at hjpeg
    · cases hjpeg
    · rename_i found hfound
      split at hjpeg
      · obtain rfl := Except.ok.inj hjpeg
        exact ⟨hfound, ‹_›⟩
      · cases hjpeg

/-! ## The loop -/

/-- The frame that an image is sent as. -/
def replayFrame (sequence : UInt64) (jpeg : List UInt8) : CompressedFrame where
  sequence := sequence
  timestamp11bitMs := ((sequence * 40) &&& 0x7ff).toUInt16
  timestampUnwrappedMs := sequence * 40
  timestampDeltaToNextMs := 40
  flags := 0
  jpeg := jpeg

/-- The variables of the loop. -/
structure FrameReplay where
  /-- the images that are left in this round -/
  remaining : List (List UInt8)
  /-- the number of the next frame -/
  sequence : UInt64
  /-- when the next frame is due -/
  deadline : Instant
  /-- waiting for that time -/
  pausing : Bool
  /-- when the loop began -/
  begun : Instant
  /-- the last time the loop looked at the clock -/
  looked : Instant
  /-- the frames so far, each with the last time before it that the loop looked
  at the clock -/
  offered : List (Instant × CompressedFrame)

/-- A turn of the loop in `run_replay`; none if the thread sleeps. -/
def frameTurn {W : Type} (images : List (List UInt8)) (repeats stopping : Bool) (now : Instant)
    (inner : FrameReplay) (worker : OutputWorker W) :
    Option (LoopTurn × FrameReplay × OutputWorker W) :=
  if inner.pausing then
    if inner.deadline ≤ now then
      some (.stays, { inner with pausing := false, looked := now }, worker)
    else if stopping then some (.leaves none, inner, worker)
    else none
  else
    match inner.remaining with
    | [] =>
      if repeats then some (.stays, { inner with remaining := images }, worker)
      else some (.leaves none, inner, worker)
    | jpeg :: remaining =>
      if stopping then some (.leaves none, inner, worker)
      else
        match checkSink worker with
        | (some (.error error), worker) => some (.leaves (some error), inner, worker)
        | (some (.ok ()), worker) => some (.leaves none, inner, worker)
        | (none, worker) =>
          match trySend worker with
          | .disconnected => some (.leaves none, inner, worker)
          | _ =>
            let frame := replayFrame inner.sequence jpeg
            some (.stays,
              { inner with
                remaining := remaining
                sequence := inner.sequence + 1
                deadline := inner.deadline + frameInterval
                pausing := true
                offered := inner.offered ++ [(inner.looked, frame)] },
              sendFrame worker (some frame))

/-- `run_replay`: it handles signals, and the last failure that the worker
reported is its result. -/
def frameLoop {W : Type} (images : List (List UInt8)) (repeats : Bool) : ReplayLoop FrameReplay W where
  handlesSignals := true
  begins now := ⟨images, 0, now, false, now, now, []⟩
  turn := frameTurn images repeats
  drainsOn := true

/-! ## What the worker gets -/

/-- What the frames so far are: the images one after another, round by round, none
before its time; and the queue took some of them, in order. -/
structure FrameReplay.Offers (images : List (List UInt8)) (repeats : Bool) (inner : FrameReplay)
    (queued : List CompressedFrame) : Prop where
  /-- the frames are numbered -/
  sequence : inner.sequence = UInt64.ofNat inner.offered.length
  /-- they are due one interval after another -/
  deadline : inner.deadline = inner.begun + inner.offered.length * frameInterval
  /-- the next frame's time has come, or it is waited for -/
  looked : inner.pausing = false → inner.deadline ≤ inner.looked
  /-- how far the loop is with its rounds -/
  round : ∃ rounds sent, inner.offered.length = images.length * rounds + sent ∧
    sent ≤ images.length ∧ inner.remaining = images.drop sent ∧ (repeats = false → rounds = 0)
  /-- every frame is that of its image -/
  frames : ∀ i time frame, inner.offered[i]? = some (time, frame) →
    inner.begun + i * frameInterval ≤ time ∧
      frame = replayFrame (UInt64.ofNat i) frame.jpeg ∧
        images[i % images.length]? = some frame.jpeg
  /-- what was queued -/
  queued : queued.Sublist (inner.offered.map Prod.snd)

section Loop

variable {W : Type} {output : Output W} {world : W} {images : List (List UInt8)} {repeats : Bool}

namespace FrameReplay.Offers

variable {inner : FrameReplay} {queued : List CompressedFrame}

/-- The loop goes on with the next round. -/
theorem nextRound (h : inner.Offers images true queued) (hremaining : inner.remaining = []) :
    FrameReplay.Offers images true { inner with remaining := images } queued where
  sequence := h.sequence
  deadline := h.deadline
  looked := h.looked
  round := by
    obtain ⟨rounds, sent, hlength, hsent, hdrop, -⟩ := h.round
    have hall : sent = images.length := by
      rw [hremaining] at hdrop
      exact Nat.le_antisymm hsent (List.drop_eq_nil_iff.mp hdrop.symm)
    exact ⟨rounds + 1, 0, by rw [hlength, hall, Nat.mul_succ, Nat.add_zero], Nat.zero_le _, rfl, nofun⟩
  frames := h.frames
  queued := h.queued

/-- A frame is offered, whether the queue takes it or not. -/
theorem offer (h : inner.Offers images repeats queued) (hpausing : inner.pausing = false)
    {jpeg : List UInt8} {remaining : List (List UInt8)}
    (hremaining : inner.remaining = jpeg :: remaining) {taken : List CompressedFrame}
    (htaken : taken = [replayFrame inner.sequence jpeg] ∨ taken = []) :
    FrameReplay.Offers images repeats
      { inner with
        remaining := remaining
        sequence := inner.sequence + 1
        deadline := inner.deadline + frameInterval
        pausing := true
        offered := inner.offered ++ [(inner.looked, replayFrame inner.sequence jpeg)] }
      (queued ++ taken) := by
  -- the image offered is the next one of the round, whatever became of those before it
  obtain ⟨rounds, sent, hlength, hsent, hdrop, hrepeats⟩ := h.round
  rw [hremaining] at hdrop
  have hless : sent < images.length := by
    by_contra hnot
    rw [List.drop_eq_nil_of_le (Nat.le_of_not_lt hnot)] at hdrop
    cases hdrop
  have hcons := List.drop_eq_getElem_cons hless
  rw [← hdrop] at hcons
  obtain ⟨hjpeg, hrest⟩ := List.cons.inj hcons
  refine ⟨?_, ?_, nofun, ⟨rounds, sent + 1, ?_, hless, hrest, hrepeats⟩, ?_, ?_⟩
  · simp [h.sequence]
  · simp only [List.length_append, List.length_singleton, h.deadline]
    ring
  · simp [hlength, Nat.add_assoc]
  · intro i time frame hget
    by_cases hi : i < inner.offered.length
    · rw [List.getElem?_append_left hi] at hget
      exact h.frames i time frame hget
    · rw [List.getElem?_append_right (Nat.le_of_not_lt hi)] at hget
      obtain ⟨hzero, hlast⟩ := List.getElem?_eq_some_iff.mp hget
      have hle : i ≤ inner.offered.length := Nat.sub_eq_zero_iff_le.mp (Nat.lt_one_iff.mp hzero)
      obtain rfl := Nat.le_antisymm hle (Nat.le_of_not_lt hi)
      obtain ⟨rfl, rfl⟩ : inner.looked = time ∧ replayFrame inner.sequence jpeg = frame := by
        simpa using hlast
      have hmod : inner.offered.length % images.length = sent := by
        rw [hlength, Nat.mul_add_mod, Nat.mod_eq_of_lt hless]
      refine ⟨?_, ?_, ?_⟩
      · rw [← h.deadline]
        exact h.looked hpausing
      · rw [← h.sequence]
        rfl
      · rw [hmod, List.getElem?_eq_getElem hless, ← hjpeg]
        rfl
  · rw [List.map_append]
    refine h.queued.append ?_
    obtain rfl | rfl := htaken
    · exact List.Sublist.refl _
    · exact List.nil_sublist _

end FrameReplay.Offers

/-- What a worker that has ended has reported. -/
theorem SinkCheck.tracks {worker worker' : OutputWorker W} {result : Except StreamError Unit}
    (h : SinkCheck worker (some result) worker') (hvalid : worker.Valid output.service world)
    (hsender : worker.inbox.senderAlive = true)
    (hreceived : worker.statuses.received = [.ready]) :
    Tracks (match result with
      | .error error => some error
      | .ok () => none) worker' ∧ worker'.Failed := by
  have hvalid' := Threads.valid_clientSteps hvalid h.clientSteps
  cases h with
  | @closed statuses hreceive =>
    obtain ⟨-, hnext, -⟩ := Channel.receive_eq_some hreceive
    have hclosed : OutputStatus.closed ∈ statuses.received := by
      rw [hnext]
      simp
    refine ⟨fun error hmem => ?_,
      hvalid'.failed (receiverAlive_of_report hvalid' hclosed nofun) hsender⟩
    change OutputStatus.failed error ∈ statuses.received at hmem
    rw [hnext, hreceived] at hmem
    simp at hmem
  | @failed error statuses hreceive =>
    obtain ⟨-, hnext, -⟩ := Channel.receive_eq_some hreceive
    have hfailed : OutputStatus.failed error ∈ statuses.received := by
      rw [hnext]
      simp
    exact ⟨⟨error, rfl, hfailed⟩,
      hvalid'.failed (receiverAlive_of_report hvalid' hfailed nofun) hsender⟩
  | gone hreceive halive =>
    have hbuffer := Channel.receive_eq_none.mp hreceive
    exact absurd hbuffer (buffer_ne_nil_of_gone hvalid halive (by rw [hreceived]))

/-- The loop goes through the images. -/
theorem frameLoop_rule (output : Output W) (world : W) (images : List (List UInt8))
    (repeats : Bool) :
    (frameLoop images repeats).Rule output world
      (fun inner queued => inner.Offers images repeats queued)
      (fun stopping inner _ =>
        stopping = true ∨ repeats = false ∧ inner.offered.length = images.length)
      (fun _ _ _ => False) where
  begins now :=
    { sequence := rfl
      deadline := by simp [frameLoop]
      looked := fun _ => Nat.le_refl now
      round := ⟨0, 0, rfl, Nat.zero_le _, rfl, fun _ => rfl⟩
      frames := nofun
      queued := List.Sublist.refl _ }
  late := fun h => .inl rfl
  turns := by
    intro stopping now inner worker turned inner' worker' hvalid hsender hreceived hoffers hturn
    change frameTurn images repeats stopping now inner worker = _ at hturn
    -- the worker has sent one report, and that was no failure
    have htracks : Tracks none worker := by
      intro error hmem
      rw [hreceived] at hmem
      simp at hmem
    rw [frameTurn] at hturn
    split at hturn
    · split at hturn
      · obtain ⟨rfl, rfl, rfl⟩ := hturn
        refine ⟨.refl, hsender, ?_, hreceived⟩
        exact ⟨hoffers.sequence, hoffers.deadline, fun _ => ‹_›, hoffers.round, hoffers.frames,
          hoffers.queued⟩
      · split at hturn
        · obtain ⟨rfl, rfl, rfl⟩ := hturn
          exact ⟨.refl, hsender, hoffers, htracks, .inr (.inl ‹_›)⟩
        · cases hturn
    · rename_i hpausing
      replace hpausing := Bool.eq_false_of_not_eq_true hpausing
      split at hturn
      · rename_i hremaining
        split at hturn
        · rename_i hrepeats
          subst hrepeats
          obtain ⟨rfl, rfl, rfl⟩ := hturn
          exact ⟨.refl, hsender, hoffers.nextRound hremaining, hreceived⟩
        · rename_i hrepeats
          replace hrepeats := Bool.eq_false_of_not_eq_true hrepeats
          obtain ⟨rfl, rfl, rfl⟩ := hturn
          refine ⟨.refl, hsender, hoffers, htracks, .inr (.inr ⟨hrepeats, ?_⟩)⟩
          obtain ⟨rounds, sent, hlength, hsent, hdrop, hrounds⟩ := hoffers.round
          rw [hremaining] at hdrop
          have hall := List.drop_eq_nil_iff.mp hdrop.symm
          rw [hlength, hrounds hrepeats]
          omega
      · rename_i jpeg remaining hremaining
        split at hturn
        · obtain ⟨rfl, rfl, rfl⟩ := hturn
          exact ⟨.refl, hsender, hoffers, htracks, .inr (.inl ‹_›)⟩
        · have hcheck := sinkCheck worker
          have hinbox := hcheck.inbox
          split at hturn <;> rename_i hfound <;> rw [hfound] at hcheck hinbox
          · obtain ⟨rfl, rfl, rfl⟩ := hturn
            obtain ⟨htracks', hfailed⟩ := hcheck.tracks hvalid hsender hreceived
            exact ⟨hcheck.clientSteps, by rw [hinbox, hsender], by rw [hinbox]; exact hoffers,
              htracks', .inl hfailed⟩
          · obtain ⟨rfl, rfl, rfl⟩ := hturn
            obtain ⟨htracks', hfailed⟩ := hcheck.tracks hvalid hsender hreceived
            exact ⟨hcheck.clientSteps, by rw [hinbox, hsender], by rw [hinbox]; exact hoffers,
              htracks', .inl hfailed⟩
          · rename_i later
            have hready : later.statuses.received = [.ready] :=
              hcheck.informed false hvalid hsender hreceived
            have hlater : later.inbox.senderAlive = true := by rw [hinbox, hsender]
            split at hturn
            · rename_i hgone
              obtain ⟨rfl, rfl, rfl⟩ := hturn
              have hvalid' := Threads.valid_clientSteps hvalid hcheck.clientSteps
              refine ⟨hcheck.clientSteps, hlater, by rw [hinbox]; exact hoffers, ?_,
                .inl (hvalid'.failed (trySend_disconnected hgone) hlater)⟩
              intro error hmem
              rw [hready] at hmem
              simp at hmem
            · obtain ⟨rfl, rfl, rfl⟩ := hturn
              refine ⟨hcheck.clientSteps.trans (sendFrame_clientSteps later _),
                by rw [sendFrame_senderAlive, hlater], ?_, hready⟩
              rw [sendFrame_accepted hlater, hinbox]
              refine hoffers.offer hpausing hremaining ?_
              split
              · exact .inl rfl
              · exact .inr rfl

/-- How many turns the loop has left, by whether a signal came. -/
def FrameReplay.turnsLeft (stopping : Bool) (inner : FrameReplay) : ℕ :=
  (if inner.pausing then 1 else 0) +
    if stopping then if inner.remaining = [] then 1 else 0 else 4 * inner.remaining.length + 1

/-- When the loop wakes. -/
def FrameReplay.wakes (inner : FrameReplay) : Instant := if inner.pausing then inner.deadline else 0

/-- The loop ends after a round, or when a signal comes. -/
theorem frameLoop_ends (output : Output W) (images : List (List UInt8)) (repeats : Bool)
    (himages : images ≠ []) (P : FrameReplay → List CompressedFrame → Prop) :
    (frameLoop images repeats).Ends output P (!repeats) FrameReplay.wakes FrameReplay.turnsLeft
      (4 * images.length + 1) where
  begins stopping now := by
    cases stopping <;> simp [frameLoop, FrameReplay.turnsLeft, himages]
  signal inner := by
    have hround : (if inner.remaining = [] then 1 else 0) ≤ 4 * inner.remaining.length + 1 := by
      split <;> omega
    simpa [FrameReplay.turnsLeft] using hround
  waits := by
    intro stopping now inner worker hlistens hsender hcapacity hturn
    change frameTurn images repeats stopping now inner worker = none at hturn
    rw [frameTurn] at hturn
    split at hturn
    · rename_i hpausing
      split at hturn
      · cases hturn
      · rename_i hlate
        rw [FrameReplay.wakes, if_pos hpausing]
        exact .inr (Nat.lt_of_not_le hlate)
    · split at hturn
      · split at hturn <;> cases hturn
      · split at hturn
        · cases hturn
        · split at hturn
          · cases hturn
          · cases hturn
          · split at hturn <;> cases hturn
  shrinks := by
    intro stopping now inner worker turned inner' worker' hfinite _ hturn
    change frameTurn images repeats stopping now inner worker = _ at hturn
    rw [frameTurn] at hturn
    split at hturn
    · rename_i hpausing
      split at hturn
      · obtain ⟨rfl, rfl, rfl⟩ := hturn
        simp only [FrameReplay.turnsLeft, hpausing, if_true, Bool.false_eq_true, if_false]
        omega
      · split at hturn
        · obtain ⟨rfl, rfl, rfl⟩ := hturn
          simp
        · cases hturn
    · rename_i hpausing
      split at hturn
      · rename_i hremaining
        split at hturn
        · rename_i hrepeats
          -- another round begins, only to end at its first image
          obtain rfl : stopping = true := by simpa [hrepeats] using hfinite
          obtain ⟨rfl, rfl, rfl⟩ := hturn
          simp only [FrameReplay.turnsLeft, hpausing, hremaining, himages, if_true, if_false]
          omega
        · obtain ⟨rfl, rfl, rfl⟩ := hturn
          simp
      · rename_i jpeg remaining hremaining
        split at hturn
        · obtain ⟨rfl, rfl, rfl⟩ := hturn
          simp
        · rename_i hrunning
          have hstepsLeft := (sinkCheck worker).stepsLeft
          split at hturn <;> rename_i hfound <;> rw [hfound] at hstepsLeft <;>
            dsimp only at hstepsLeft
          · obtain ⟨rfl, rfl, rfl⟩ := hturn
            simp only
            omega
          · obtain ⟨rfl, rfl, rfl⟩ := hturn
            simp only
            omega
          · rename_i later
            split at hturn
            · obtain ⟨rfl, rfl, rfl⟩ := hturn
              simp only
              omega
            · obtain ⟨rfl, rfl, rfl⟩ := hturn
              have hsend := stepsLeft_sendFrame later (some (replayFrame inner.sequence jpeg))
              simp only [FrameReplay.turnsLeft, hpausing, hrunning, hremaining, List.length_cons,
                if_true, if_false, Bool.false_eq_true]
              omega

variable {files : ReplayFiles} {now : Instant} {actions : List (Threads.Action ReplayInput)}
  {next : ReplayThreads FrameReplay W}

/-- **What the replay of images sends.** In every run, whatever the output does:
the frames are the images that were loaded one after another, round by round,
each with its number and a camera time of 40 ms a frame; each is the content of
its file, and complete; none is sent before its time, counted from the beginning
and not from the frame before; and the queue takes some of them, in order. -/
theorem runReplay_frames (hload : loadReplayFrames files = .ok images)
    (hrun : runLoop output (frameLoop images repeats)
      (startLoop (frameLoop images repeats) world now) actions = some next) :
    next.worker.inbox.received <+: next.worker.inbox.accepted ∧
      next.worker.inbox.accepted.Sublist (next.client.loop.offered.map Prod.snd) ∧
      ∃ paths, replayPaths files = .ok paths ∧
        ∀ i time frame, next.client.loop.offered[i]? = some (time, frame) →
          next.client.loop.begun + i * frameInterval ≤ time ∧
            frame = replayFrame (UInt64.ofNat i) frame.jpeg ∧
              images[i % images.length]? = some frame.jpeg ∧
                isCompleteJpeg frame.jpeg = true ∧
                  ∃ path, paths[i % paths.length]? = some path ∧
                    files.read path = some frame.jpeg := by
  have hqueue : next.client.loop.Offers images repeats next.worker.inbox.accepted :=
    (held_run (frameLoop_rule output world images repeats) hrun).queue
  obtain ⟨-, paths, hpaths, hread⟩ := loadReplayFrames_ok hload
  refine ⟨next.worker.inbox.taken, hqueue.queued, paths, hpaths, fun i time frame hframe => ?_⟩
  obtain ⟨hdue, hnumber, himage⟩ := hqueue.frames i time frame hframe
  obtain ⟨hlength, hfiles⟩ := List.forall₂_iff_get.mp hread
  obtain ⟨hlt, hget⟩ := List.getElem?_eq_some_iff.mp himage
  have hlt' : i % paths.length < paths.length := by rwa [hlength]
  have hfile := hfiles (i % paths.length) hlt' (hlength ▸ hlt')
  simp only [List.get_eq_getElem, hlength, hget] at hfile
  refine ⟨hdue, hnumber, himage, hfile.2, _, List.getElem?_eq_getElem hlt', ?_⟩
  simpa only [hlength] using hfile.1

/-- **What the replay of images returns.** However the threads interleave:
without an error, the output's pipe was closed, or the output has handled all
frames in the queue, and a signal came or every image was sent once; otherwise
the error is that of the output, on the frames it received. -/
theorem runReplay_returned {result : Except ReplayFailure Unit}
    (hrun : runLoop output (frameLoop images repeats)
      (startLoop (frameLoop images repeats) world now) actions = some next)
    (hreturned : next.client.point = .returned result) :
    ReplayMeaning output world
      (fun stopping inner _ =>
        stopping = true ∨ repeats = false ∧ inner.offered.length = images.length)
      (fun _ _ _ => False) next result :=
  runLoop_returned (frameLoop_rule output world images repeats) hrun hreturned

/-- **The replay of images ends.** Until it has returned one of its threads can
take a step, at the latest when the next frame is due. Unless it is to be
repeated, or once a signal has come, there is a number of steps that bounds what
both threads still do. -/
theorem runReplay_ends (hload : loadReplayFrames files = .ok images)
    (hrun : runLoop output (frameLoop images repeats)
      (startLoop (frameLoop images repeats) world now) actions = some next) :
    ((∀ result, next.client.point ≠ .returned result) →
        (next.worker.step output.service).isSome = true ∨
          ∀ later, next.client.clock ≤ later → next.client.loop.wakes ≤ later →
            (replayStep (frameLoop images repeats) next.client next.worker
              (.turn later)).isSome = true) ∧
      (repeats = false ∨ next.client.stopping = true →
        ∀ rest last, runLoop output (frameLoop images repeats) next rest = some last →
          (rest.countP fun action => !isReplaySignal action) +
              last.stepsLeft FrameReplay.turnsLeft (4 * images.length + 1) ≤
            next.stepsLeft FrameReplay.turnsLeft (4 * images.length + 1)) := by
  have rule := frameLoop_rule output world images repeats
  have ends := frameLoop_ends output images repeats (loadReplayFrames_ok hload).1
    (fun inner queued => inner.Offers images repeats queued)
  refine ⟨runLoop_progress rule ends hrun, fun hfinite rest last hrest => ?_⟩
  have hstops : (!repeats) = true ∨ next.client.stopping = true :=
    hfinite.imp_left fun hrepeats => by rw [hrepeats]; rfl
  exact runLoop_bounded rule ends hrun hstops hrest

end Loop

/-- One image. -/
def sampleImages : List (List UInt8) := [[0xff, 0xd8, 0xff, 0xd9]]

/-- A directory with "a.JPG" and "b.txt". -/
def sampleFiles : ReplayFiles where
  directory := some (some [some ⟨[0x62, 0x2e, 0x74, 0x78, 0x74], true⟩,
    some ⟨[0x61, 0x2e, 0x4a, 0x50, 0x47], true⟩])
  read _ := some [0xff, 0xd8, 0xff, 0xd9]

theorem loadReplayFrames_sampleFiles : loadReplayFrames sampleFiles = .ok sampleImages := by
  have hpaths : replayPaths sampleFiles = .ok [some [0x61, 0x2e, 0x4a, 0x50, 0x47]] := by
    change Except.ok ((List.mergeSort [[0x61, 0x2e, 0x4a, 0x50, 0x47]] _).map some) = _
    rw [List.mergeSort_singleton]
    rfl
  rw [loadReplayFrames, hpaths]
  rfl

/-- A replay that sends it at once, and again after 40 ms, before a signal comes. -/
def sampleFrames : List (Threads.Action ReplayInput) :=
  workerSteps 1 ++ turnsAt 0 2 ++ workerSteps 2 ++ turnsAt frameInterval 3 ++ workerSteps 2 ++
    [.client .signal] ++ turnsAt frameInterval 2 ++ workerSteps 4 ++ turnsAt frameInterval 3

/-- The sample returns, after two frames. -/
theorem sampleFrames_returns :
    ∃ next, runLoop (stdoutOutput noDecoder .mjpeg) (frameLoop sampleImages true)
        (startLoop (frameLoop sampleImages true) ([] : Vec) 0) sampleFrames = some next ∧
      next.client.point = .returned (.ok ()) ∧
        next.client.loop.offered = [(0, replayFrame 0 [0xff, 0xd8, 0xff, 0xd9]),
          (40000000, replayFrame 1 [0xff, 0xd8, 0xff, 0xd9])] := by
  have hany : ((runLoop (stdoutOutput noDecoder .mjpeg) (frameLoop sampleImages true)
      (startLoop (frameLoop sampleImages true) ([] : Vec) 0) sampleFrames).any fun next =>
        next.client.point.succeeded &&
        next.client.loop.offered = [(0, replayFrame 0 [0xff, 0xd8, 0xff, 0xd9]),
          (40000000, replayFrame 1 [0xff, 0xd8, 0xff, 0xd9])]) = true := by decide +kernel
  obtain ⟨next, hrun, hnext⟩ := Option.any_eq_true _ _ |>.mp hany
  obtain ⟨hpoint, hoffered⟩ := Bool.and_eq_true_iff.mp hnext
  exact ⟨next, hrun, ReplayPoint.succeeded_iff.mp hpoint, of_decide_eq_true hoffered⟩

theorem runReplay_frames_sampleFrames :
    ∃ next : ReplayThreads FrameReplay Vec,
      next.client.loop.offered[1]? = some (40000000, replayFrame 1 [0xff, 0xd8, 0xff, 0xd9]) ∧
        next.client.loop.begun + 1 * frameInterval ≤ 40000000 := by
  obtain ⟨next, hrun, -, hoffered⟩ := sampleFrames_returns
  have hsecond : next.client.loop.offered[1]? =
      some (40000000, replayFrame 1 [0xff, 0xd8, 0xff, 0xd9]) := by rw [hoffered]; rfl
  obtain ⟨-, -, paths, -, hframes⟩ := runReplay_frames loadReplayFrames_sampleFiles hrun
  exact ⟨next, hsecond, (hframes 1 _ _ hsecond).1⟩

theorem runReplay_returned_sampleFrames :
    ∃ next : ReplayThreads FrameReplay Vec, next.client.loop.offered.length = 2 ∧
      ∃ result, next.worker.point = .exited result := by
  obtain ⟨next, hrun, hreturned, hoffered⟩ := sampleFrames_returns
  obtain ⟨result, hexited, -⟩ := runReplay_returned hrun hreturned
  exact ⟨next, by rw [hoffered]; rfl, result, hexited⟩

/-- A signal comes when the second image is in the queue. -/
theorem runReplay_ends_sampleFrames :
    ∃ next : ReplayThreads FrameReplay Vec, next.worker.inbox.buffer.length = 1 ∧
      next.client.loop.offered.length = 2 ∧
      ∀ rest last,
        runLoop (stdoutOutput noDecoder .mjpeg) (frameLoop sampleImages true) next rest =
            some last →
          (rest.countP fun action => !isReplaySignal action) ≤ 14 := by
  have hany : ((runLoop (stdoutOutput noDecoder .mjpeg) (frameLoop sampleImages true)
      (startLoop (frameLoop sampleImages true) ([] : Vec) 0)
        (sampleFrames.take 8 ++ [.client .signal])).any fun next =>
          next.worker.inbox.buffer.length == 1 && (next.client.loop.offered.length == 2 &&
            (next.client.stopping && next.stepsLeft FrameReplay.turnsLeft
              (4 * sampleImages.length + 1) == 14))) = true := by decide +kernel
  obtain ⟨next, hrun, hnext⟩ := Option.any_eq_true _ _ |>.mp hany
  simp only [Bool.and_eq_true, beq_iff_eq] at hnext
  obtain ⟨hbuffer, hoffered, hstopping, hleft⟩ := hnext
  refine ⟨next, hbuffer, hoffered, fun rest last hrest => ?_⟩
  have hbound := (runReplay_ends loadReplayFrames_sampleFiles hrun).2 (.inr hstopping) rest last hrest
  omega

end Handycam
