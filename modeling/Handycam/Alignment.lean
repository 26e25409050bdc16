import Mathlib
import Handycam.Alsa
import Handycam.Sync

/-!
# Audio alignment across overruns

A device with an exact clock plays beside the capture loop: it counts the
frames it captured, the ones nobody read included, and its status times are
those of its frames. Where each period really began is then known, and the
presentation timestamps can be compared with it.

* **the device** — `AlsaDevice.step`; it refuses a status that is not its own;
* **the chunks** — `captured_chunks`: the observed start of each chunk is the
  time of its first frame;
* **the timeline** — the frames lost to recoveries are the lag of the
  presentation timestamps, for the counter of the loop does not see them.
-/

namespace Handycam

/-! ## The device -/

/-- How long a frame takes on an exact 16 kHz clock, in nanoseconds. -/
def sampleFrameNs : ℕ := 62500

/-- The frames that fit into the buffer of the device. -/
def bufferSampleFrames : ℕ := periodSampleFrames * 4

/-- A device with an exact clock. -/
structure AlsaDevice where
  /-- when its frame `0` is captured -/
  startNs : ℕ
  /-- how many frames are lost by each recovery -/
  lost : ℕ → ℕ

/-- What the device knows. -/
structure AlsaDeviceState where
  /-- the frame that is read next -/
  position : ℕ
  /-- how many recoveries there were -/
  recoveries : ℕ
  /-- where each period began -/
  starts : List ℕ
  deriving DecidableEq

namespace AlsaDevice

/-- When a frame is captured. -/
def frameNs (device : AlsaDevice) (frame : ℕ) : ℕ := device.startNs + sampleFrameNs * frame

/-- A status is exact: its time is that of the frame behind those available. -/
def Tells (device : AlsaDevice) (position : ℕ) (status : PcmStatus) : Prop :=
  0 ≤ status.avail.toInt ∧ status.avail.toInt ≤ bufferSampleFrames ∧
    0 ≤ status.seconds.toInt ∧ 0 ≤ status.nanoseconds.toInt ∧
    status.seconds.toInt * 1000000000 + status.nanoseconds.toInt =
      device.frameNs (position + status.avail.toInt.toNat) ∧
    device.frameNs (position + status.avail.toInt.toNat) < 2 ^ 64

instance (device : AlsaDevice) (position : ℕ) (status : PcmStatus) :
    Decidable (device.Tells position status) :=
  inferInstanceAs (Decidable (_ ∧ _))

/-- What an answer means for the device; none when it is not its own. -/
def step (device : AlsaDevice) (state : AlsaDeviceState) : AlsaAction → Option AlsaDeviceState
  | .read (.ok block) => some { state with position := state.position + block.length / audioChannels }
  | .recovered (.ok _) =>
    some { state with
      position := state.position + device.lost state.recoveries
      recoveries := state.recoveries + 1 }
  | .queried (.ok status) =>
    if device.Tells state.position status then
      some { state with starts := state.starts ++ [state.position - periodSampleFrames] }
    else none
  | _ => some state

/-- The device after some answers. -/
def play (device : AlsaDevice) (actions : List AlsaAction) : Option AlsaDeviceState :=
  actions.foldlM device.step ⟨0, 0, []⟩

/-- The time of a frame after the origin, in microseconds. -/
def observedUs (device : AlsaDevice) (monotonicOriginNs : UInt64) (frame : ℕ) : ℕ :=
  (device.frameNs frame - monotonicOriginNs.toNat) / 1000

theorem play_concat {device : AlsaDevice} {actions : List AlsaAction} {action : AlsaAction}
    {state : AlsaDeviceState} (hplay : device.play (actions ++ [action]) = some state) :
    ∃ before, device.play actions = some before ∧ device.step before action = some state := by
  rw [play, List.foldlM_append] at hplay
  obtain ⟨before, hbefore, hlast⟩ := Option.bind_eq_some_iff.mp hplay
  refine ⟨before, hbefore, ?_⟩
  simpa only [List.foldlM_cons, List.foldlM_nil, bind_pure] using hlast

theorem toNat_timespecNs {seconds nanoseconds : Int64} (hseconds : 0 ≤ seconds.toInt)
    (hnanoseconds : 0 ≤ nanoseconds.toInt) {ns : ℕ}
    (htime : seconds.toInt * 1000000000 + nanoseconds.toInt = ns) (hrange : ns < 2 ^ 64) :
    (timespecNs seconds nanoseconds).toNat = ns := by
  have hnano : (1000000000 : UInt64).toNat = 1000000000 := rfl
  rw [timespecNs, UInt64.toNat_saturatingAdd, UInt64.toNat_saturatingMul, UInt64.toNat_ofNat',
    UInt64.toNat_ofNat', hnano, Nat.mod_eq_of_lt (by omega), Nat.mod_eq_of_lt (by omega)]
  omega

/-- With few frames behind the period the conversion of frames is exact. -/
theorem toNat_firstSampleTimestampNs {statusNs : UInt64} {frames : ℕ}
    (hframes : frames ≤ bufferSampleFrames) :
    (firstSampleTimestampNs statusNs (UInt64.ofNat frames) (UInt64.ofNat periodSampleFrames)
      audioSampleRateHz).toNat =
      statusNs.toNat - sampleFrameNs * (frames + periodSampleFrames) := by
  have hrate : audioSampleRateHz.toUInt64.toNat = 16000 := rfl
  have hnano : (1000000000 : UInt64).toNat = 1000000000 := rfl
  simp only [bufferSampleFrames, periodSampleFrames] at hframes
  simp only [firstSampleTimestampNs, UInt64.toNat_saturatingSub, UInt64.toNat_div,
    UInt64.toNat_saturatingMul, UInt64.toNat_saturatingAdd, UInt64.toNat_ofNat', hrate, hnano,
    periodSampleFrames, sampleFrameNs]
  rw [Nat.mod_eq_of_lt (by omega : frames < 2 ^ 64)]
  omega

/-- **The hardware time of a period.** From an exact status the loop computes
the time of the first frame of the period that was just read. -/
theorem observedUs_of_tells {device : AlsaDevice} {monotonicOriginNs : UInt64} {position : ℕ}
    {status : PcmStatus} (htells : device.Tells position status)
    (hperiod : periodSampleFrames ≤ position)
    (horigin : monotonicOriginNs.toNat ≤ device.startNs) :
    (status.observedUs monotonicOriginNs).toNat =
      device.observedUs monotonicOriginNs (position - periodSampleFrames) := by
  obtain ⟨havail, hbuffer, hseconds, hnanoseconds, htime, hrange⟩ := htells
  have hstatus := toNat_timespecNs hseconds hnanoseconds htime hrange
  have hthousand : (1000 : UInt64).toNat = 1000 := rfl
  rw [PcmStatus.observedUs]
  simp only [UInt64.toNat_div, UInt64.toNat_saturatingSub, hthousand]
  rw [toNat_firstSampleTimestampNs (by omega), hstatus]
  simp only [observedUs, frameNs, sampleFrameNs, periodSampleFrames] at hperiod ⊢
  omega

/-! ## The chunks -/

/-- Periods do not overlap. -/
def Spaced (starts : List ℕ) : Prop :=
  starts.IsChain fun start next => start + periodSampleFrames ≤ next

theorem Spaced.getElem {starts : List ℕ} (hspaced : Spaced starts) {j k : ℕ} (hjk : j ≤ k)
    (hk : k < starts.length) :
    starts[j] + periodSampleFrames * (k - j) ≤ starts[k] := by
  induction k, hjk using Nat.le_induction with
  | base => simp
  | succ k hjk ih =>
    have hnext : starts[k] + periodSampleFrames ≤ starts[k + 1] :=
      List.isChain_iff_getElem.mp hspaced k hk
    have := ih (by omega)
    rw [Nat.succ_sub hjk, Nat.mul_succ]
    omega

/-- What holds between the device and the account of the loop. -/
structure Placed (device : AlsaDevice) (monotonicOriginNs : UInt64) (state : AlsaDeviceState)
    (account : AlsaAccount) : Prop where
  /-- what is unfinished was read -/
  read : account.unfinished.length / audioChannels ≤ state.position
  /-- the next period begins with what is unfinished -/
  spaced : Spaced (state.starts ++ [state.position - account.unfinished.length / audioChannels])
  /-- each period is observed when its first frame is captured -/
  observed : state.starts.map (device.observedUs monotonicOriginNs) =
    account.periods.map fun period => (period.status.observedUs monotonicOriginNs).toNat
  /-- the time of each period is in range -/
  range : ∀ start ∈ state.starts, device.frameNs start < 2 ^ 64

theorem Spaced.later {starts : List ℕ} {start later : ℕ} (hspaced : Spaced (starts ++ [start]))
    (hlater : start ≤ later) : Spaced (starts ++ [later]) := by
  obtain ⟨hstarts, -, hlast⟩ := List.isChain_append.mp hspaced
  refine List.isChain_append.mpr ⟨hstarts, List.isChain_singleton _, ?_⟩
  intro last hmem next hnext
  obtain rfl : later = next := by simpa using hnext
  exact (hlast last hmem start rfl).trans hlater

section Step

variable {device : AlsaDevice} {monotonicOriginNs : UInt64} {state after : AlsaDeviceState}
  {worker next : AlsaWorker} {account : AlsaAccount}

/-- A read goes on with the period. -/
theorem Placed.fill (hplaced : Placed device monotonicOriginNs state account)
    {block : List Int16} (hwhole : block.length % audioChannels = 0) :
    Placed device monotonicOriginNs
      { state with position := state.position + block.length / audioChannels }
      { account with unfinished := account.unfinished ++ block } := by
  have hframes : (account.unfinished ++ block).length / audioChannels =
      account.unfinished.length / audioChannels + block.length / audioChannels := by
    rw [List.length_append]
    exact Nat.add_div_of_dvd_left (Nat.dvd_of_mod_eq_zero hwhole)
  have hread := hplaced.read
  refine ⟨?_, ?_, hplaced.observed, hplaced.range⟩
  · rw [hframes]
    exact Nat.add_le_add_right hread _
  · have hspaced := hplaced.spaced
    rwa [hframes, Nat.add_sub_add_right]

/-- A recovery loses frames before the next period. -/
theorem Placed.recover (hplaced : Placed device monotonicOriginNs state account) (lost : ℕ) :
    Placed device monotonicOriginNs
      { state with position := state.position + lost, recoveries := state.recoveries + 1 }
      (account.note (.recovered (.ok ()))) := by
  have hnone : (account.note (.recovered (.ok ()))).unfinished.length / audioChannels = 0 :=
    Nat.zero_div _
  refine ⟨hnone ▸ Nat.zero_le _, ?_, ?_, hplaced.range⟩
  · refine hplaced.spaced.later ?_
    rw [hnone]
    exact (Nat.sub_le _ _).trans (Nat.le_add_right _ _)
  · have hperiods : (account.note (.recovered (.ok ()))).periods = account.periods := by
      simp only [AlsaAccount.note, AlsaAccount.periods, List.filterMap_append]
      exact List.append_nil _
    rw [hperiods]
    exact hplaced.observed

/-- A period begins with its first frame. -/
theorem Placed.complete (hplaced : Placed device monotonicOriginNs state account)
    (hfull : account.unfinished.length = periodSampleFrames * audioChannels)
    (horigin : monotonicOriginNs.toNat ≤ device.startNs) {status : PcmStatus}
    (htells : device.Tells state.position status) :
    Placed device monotonicOriginNs
      { state with starts := state.starts ++ [state.position - periodSampleFrames] }
      (account.note (.queried (.ok status))) := by
  have hframes : account.unfinished.length / audioChannels = periodSampleFrames := by
    rw [hfull]
    exact Nat.mul_div_cancel _ (by decide)
  have hread := hplaced.read
  have hspaced := hplaced.spaced
  have hnone : (account.note (.queried (.ok status))).unfinished.length / audioChannels = 0 :=
    Nat.zero_div _
  rw [hframes] at hread hspaced
  refine ⟨hnone ▸ Nat.zero_le _, ?_, ?_, ?_⟩
  · refine List.isChain_append.mpr ⟨hspaced, List.isChain_singleton _, ?_⟩
    intro last hlast next hnext
    obtain rfl : state.position - periodSampleFrames = last := by simpa using hlast
    obtain rfl : state.position = next := by
      simpa [AlsaAccount.note] using hnext
    omega
  · have hperiods : (account.note (.queried (.ok status))).periods =
        account.periods ++ [⟨account.unfinished, account.recovered, status⟩] := by
      simp only [AlsaAccount.note, AlsaAccount.periods, List.filterMap_append]
      rfl
    rw [hperiods, List.map_append, List.map_append, hplaced.observed, List.map_singleton,
      List.map_singleton, observedUs_of_tells htells hread horigin]
  · intro start hstart
    rw [List.mem_append, List.mem_singleton] at hstart
    obtain hstart | hlast := hstart
    · exact hplaced.range start hstart
    · obtain ⟨-, -, -, -, -, hrange⟩ := htells
      rw [hlast]
      refine Nat.lt_of_le_of_lt (Nat.add_le_add_left (Nat.mul_le_mul_left _ ?_) _) hrange
      exact (Nat.sub_le _ _).trans (Nat.le_add_right _ _)

theorem Placed.step {action : AlsaAction}
    (hplaced : Placed device monotonicOriginNs state account)
    (hsound : worker.Sound monotonicOriginNs account)
    (horigin : monotonicOriginNs.toNat ≤ device.startNs)
    (hstep : worker.step monotonicOriginNs action = some next)
    (hdevice : device.step state action = some after) :
    Placed device monotonicOriginNs after (account.note action) := by
  cases action with
  | read result =>
    cases result with
    | error error =>
      obtain rfl := Option.some.inj hdevice
      exact hplaced
    | ok block =>
      obtain rfl := Option.some.inj hdevice
      exact hplaced.fill (AlsaWorker.whole_of_step hstep)
  | recovered result =>
    cases result with
    | error error =>
      obtain rfl := Option.some.inj hdevice
      exact hplaced
    | ok _ =>
      obtain rfl := Option.some.inj hdevice
      exact hplaced.recover _
  | queried result =>
    cases result with
    | error error =>
      obtain rfl := Option.some.inj hdevice
      exact hplaced
    | ok status =>
      rw [AlsaDevice.step] at hdevice
      split at hdevice
      · rename_i htells
        obtain rfl := Option.some.inj hdevice
        have hpoint := hsound.point
        rw [AlsaWorker.AtPoint, AlsaWorker.querying_of_step hstep] at hpoint
        exact hplaced.complete (hpoint.2 ▸ hpoint.1) horigin htells
      · cases hdevice
  | stop | turn | opened | waited | sent =>
    obtain rfl := Option.some.inj hdevice
    exact hplaced

end Step

theorem placed_of_run {device : AlsaDevice} {monotonicOriginNs : UInt64}
    {actions : List AlsaAction} {worker : AlsaWorker} {state : AlsaDeviceState}
    (horigin : monotonicOriginNs.toNat ≤ device.startNs)
    (hrun : AlsaWorker.run monotonicOriginNs actions = some worker)
    (hplay : device.play actions = some state) :
    Placed device monotonicOriginNs state (.after actions) := by
  refine (AlsaWorker.run_induction (P := fun actions worker =>
    worker.Sound monotonicOriginNs (.after actions) ∧
      ∀ state, device.play actions = some state →
        Placed device monotonicOriginNs state (.after actions)) ?_ ?_ hrun).2 state hplay
  · refine ⟨AlsaWorker.sound_start monotonicOriginNs, fun state hplay => ?_⟩
    obtain rfl := Option.some.inj hplay
    exact ⟨Nat.le_refl _, List.isChain_singleton _, rfl, nofun⟩
  · rintro actions action worker next ⟨hsound, hplaced⟩ hstep
    rw [AlsaAccount.after_concat]
    refine ⟨hsound.step hstep, fun state hplay => ?_⟩
    obtain ⟨before, hbefore, hdevice⟩ := play_concat hplay
    exact (hplaced before hbefore).step hsound horigin hstep hdevice

end AlsaDevice

/-! ## The timeline -/

/-- Every audio event that is timed at all is placed within 1 ms of its
observed time after stream start. -/
def AudioAligned (streamStart : MonotonicTimestamp) (events : List TimedMediaEvent) : Prop :=
  ∀ event timing,
    (event, Except.ok timing) ∈ timed streamStart (fun event => event.track == .audio) events →
      |(timing.ptsUs.toNat : ℤ) - event.elapsed streamStart| ≤ 1000

/-- The position of the `k`-th chunk on the audio clock, in microseconds. -/
def countedUs (k : ℕ) : ℕ := min (640 * k * 1000000) (2 ^ 64 - 1) / 16000

section Counter

variable {j k : ℕ}

theorem countedUs_mono (hjk : j ≤ k) : countedUs j ≤ countedUs k := by
  have : 640 * j * 1000000 ≤ 640 * k * 1000000 := by omega
  exact Nat.div_le_div_right (min_le_min_right _ this)

theorem countedUs_eq (hjk : j ≤ k) (hk : 640 * k * 1000000 < 2 ^ 64) :
    countedUs k = countedUs j + 40000 * (k - j) := by
  rw [countedUs, countedUs, Nat.min_eq_left (by omega), Nat.min_eq_left (by omega)]
  omega

/-- Once the multiplication saturates, the counter falls behind. -/
theorem countedUs_stuck (hjk : j < k) (hk : 2 ^ 64 ≤ 640 * k * 1000000) :
    countedUs k + 33154 ≤ countedUs j + 40000 * (k - j) := by
  rw [countedUs, countedUs, Nat.min_eq_right (by omega)]
  by_cases hj : 640 * j * 1000000 < 2 ^ 64
  · rw [Nat.min_eq_left (by omega)]
    omega
  · rw [Nat.min_eq_right (by omega)]
    omega

theorem countedUs_le (hjk : j ≤ k) : countedUs k ≤ countedUs j + 40000 * (k - j) := by
  by_cases hfit : 640 * k * 1000000 < 2 ^ 64
  · exact Nat.le_of_eq (countedUs_eq hjk hfit)
  · obtain rfl | hlt := Nat.eq_or_lt_of_le hjk
    · exact Nat.le_add_right _ _
    · exact (Nat.le_add_right _ _).trans (countedUs_stuck hlt (Nat.not_lt.mp hfit))

theorem lost_le_iff (ns lost : ℕ) :
    (ns + 62500 * lost) / 1000 ≤ ns / 1000 + 1000 ↔ lost ≤ 16 := by
  omega

/-- **The lag of a chunk.** Its presentation timestamp is within 1 ms of the
time of its first frame exactly when at most 16 frames were lost since the
anchor and the counter is not stuck. -/
theorem deviation_iff {ns start next origin : ℕ} (hjk : j ≤ k)
    (hspaced : start + 640 * (k - j) ≤ next)
    (horigin : origin ≤ (ns + 62500 * start) / 1000) (hrange : (ns + 62500 * next) / 1000 < 2 ^ 64) :
    |max 0 (min (2 ^ 64 - 1) ((((ns + 62500 * start) / 1000 : ℕ) : ℤ) - origin +
        ((countedUs k : ℤ) - countedUs j))) - ((((ns + 62500 * next) / 1000 : ℕ) : ℤ) - origin)| ≤
        1000 ↔
      next ≤ start + 640 * (k - j) + 16 ∧ (j = k ∨ 640 * k * 1000000 < 2 ^ 64) := by
  obtain ⟨lost, rfl⟩ := Nat.exists_eq_add_of_le hspaced
  have hnext : (ns + 62500 * (start + 640 * (k - j) + lost)) / 1000 =
      (ns + 62500 * start + 62500 * lost) / 1000 + 40000 * (k - j) := by
    rw [← Nat.add_mul_div_right _ _ (by decide : 0 < 1000)]
    congr 1
    ring
  have hlag := lost_le_iff (ns + 62500 * start) lost
  have hless : (ns + 62500 * start) / 1000 ≤ (ns + 62500 * start + 62500 * lost) / 1000 :=
    Nat.div_le_div_right (Nat.le_add_right _ _)
  have hmono := countedUs_mono hjk
  have hle := countedUs_le hjk
  have hexact : 640 * k * 1000000 < 2 ^ 64 → countedUs k = countedUs j + 40000 * (k - j) :=
    countedUs_eq hjk
  have hstuck : j < k → 2 ^ 64 ≤ 640 * k * 1000000 →
      countedUs k + 33154 ≤ countedUs j + 40000 * (k - j) := countedUs_stuck
  rw [hnext] at hrange ⊢
  generalize (ns + 62500 * start + 62500 * lost) / 1000 = later at *
  generalize (ns + 62500 * start) / 1000 = first at *
  generalize countedUs k = counted at *
  generalize countedUs j = anchor at *
  -- the counter never runs ahead of the device, so nothing is clamped
  have hclamp : max 0 (min (2 ^ 64 - 1) ((first : ℤ) - origin + ((counted : ℤ) - anchor))) =
      (first : ℤ) - origin + ((counted : ℤ) - anchor) := by
    omega
  rw [hclamp, abs_le]
  by_cases hfit : 640 * k * 1000000 < 2 ^ 64
  · have hcounted := hexact hfit
    rw [Nat.add_le_add_iff_left, ← hlag]
    constructor
    · intro h
      exact ⟨by omega, .inr hfit⟩
    · rintro ⟨h, -⟩
      omega
  · obtain rfl | hlt := Nat.eq_or_lt_of_le hjk
    · rw [Nat.add_le_add_iff_left, ← hlag]
      constructor
      · intro h
        exact ⟨by omega, .inl rfl⟩
      · rintro ⟨h, -⟩
        omega
    · have := hstuck hlt (Nat.not_lt.mp hfit)
      constructor
      · intro h
        omega
      · rintro ⟨-, rfl | h⟩
        · exact absurd hlt (Nat.lt_irrefl _)
        · exact absurd h hfit

end Counter

namespace AlsaDevice

theorem Spaced.getElem? {starts : List ℕ} (hspaced : Spaced starts) {j k start next : ℕ}
    (hjk : j ≤ k) (hj : starts[j]? = some start) (hk : starts[k]? = some next) :
    start + periodSampleFrames * (k - j) ≤ next := by
  obtain ⟨_, rfl⟩ := List.getElem?_eq_some_iff.mp hj
  obtain ⟨hlt, rfl⟩ := List.getElem?_eq_some_iff.mp hk
  exact hspaced.getElem hjk hlt

theorem exists_chunk {device : AlsaDevice} {monotonicOriginNs : UInt64}
    {state : AlsaDeviceState} {account : AlsaAccount}
    (hplaced : Placed device monotonicOriginNs state account) {k start : ℕ}
    (hstart : state.starts[k]? = some start) :
    ∃ event, ((account.periods.mapIdx (AlsaPeriod.chunk monotonicOriginNs)).map
      TimedMediaEvent.audio)[k]? = some event := by
  have hlength := congrArg List.length hplaced.observed
  rw [List.length_map, List.length_map] at hlength
  have hk := (List.getElem?_eq_some_iff.mp hstart).1
  refine ⟨_, List.getElem?_eq_getElem ?_⟩
  rw [List.length_map, List.length_mapIdx]
  omega

/-- What a chunk of the loop has to do with the device. -/
theorem captured_chunk {device : AlsaDevice} {monotonicOriginNs : UInt64}
    {state : AlsaDeviceState} {account : AlsaAccount}
    (hplaced : Placed device monotonicOriginNs state account) {k : ℕ} {event : TimedMediaEvent}
    (hevent : ((account.periods.mapIdx (AlsaPeriod.chunk monotonicOriginNs)).map .audio)[k]? =
      some event) :
    ∃ start, state.starts[k]? = some start ∧ event.track = .audio ∧
      event.observed.micros.toNat = device.observedUs monotonicOriginNs start ∧
      event.positionUs.toNat = countedUs k := by
  rw [List.getElem?_map, List.getElem?_mapIdx, Option.map_map, Option.map_eq_some_iff] at hevent
  obtain ⟨period, hperiod, rfl⟩ := hevent
  have hobserved : (state.starts.map (device.observedUs monotonicOriginNs))[k]? =
      some (period.status.observedUs monotonicOriginNs).toNat := by
    rw [hplaced.observed, List.getElem?_map, hperiod]
    rfl
  rw [List.getElem?_map, Option.map_eq_some_iff] at hobserved
  obtain ⟨start, hstart, hus⟩ := hobserved
  refine ⟨start, hstart, rfl, hus.symm, ?_⟩
  -- the frames before the chunk are numbered by a word
  obtain ⟨hk, hget⟩ := List.getElem?_eq_some_iff.mp hstart
  have hframes : 640 * k < 2 ^ 64 := by
    have hfirst := Spaced.getElem (List.isChain_append.mp hplaced.spaced).1 (Nat.zero_le k) hk
    have hrange := hplaced.range start (List.mem_of_getElem? hstart)
    simp only [frameNs, sampleFrameNs, periodSampleFrames, Nat.sub_zero] at hfirst hrange
    omega
  have hrate : audioSampleRateHz.toUInt64.toNat = 16000 := rfl
  have hmega : (1000000 : UInt64).toNat = 1000000 := rfl
  have hword : (UInt64.ofNat (periodSampleFrames * k)).toNat = 640 * k := by
    rw [UInt64.toNat_ofNat']
    exact Nat.mod_eq_of_lt hframes
  calc (samplesToUs (UInt64.ofNat (periodSampleFrames * k)) audioSampleRateHz).toNat
      = min (640 * k * 1000000) (2 ^ 64 - 1) / 16000 := by
        rw [samplesToUs, UInt64.toNat_div, UInt64.toNat_saturatingMul, hword, hrate, hmega]
    _ = countedUs k := rfl

theorem observedUs_eq {device : AlsaDevice} {monotonicOriginNs : UInt64}
    (horigin : monotonicOriginNs.toNat ≤ device.startNs) (frame : ℕ) :
    device.observedUs monotonicOriginNs frame =
      (device.startNs - monotonicOriginNs.toNat + 62500 * frame) / 1000 := by
  rw [observedUs, frameNs, sampleFrameNs, Nat.sub_add_comm horigin]

/-- A chunk against the anchor of its track. -/
theorem timing_iff {device : AlsaDevice} {monotonicOriginNs : UInt64}
    (horigin : monotonicOriginNs.toNat ≤ device.startNs) {streamStart : MonotonicTimestamp}
    {first event : TimedMediaEvent} {j k start next : ℕ} (hjk : j ≤ k)
    (hspaced : start + 640 * (k - j) ≤ next) (haccepted : first.accepted streamStart)
    (hfirst : first.observed.micros.toNat = device.observedUs monotonicOriginNs start)
    (hevent : event.observed.micros.toNat = device.observedUs monotonicOriginNs next)
    (hfirstUs : first.positionUs.toNat = countedUs j)
    (heventUs : event.positionUs.toNat = countedUs k) :
    |expectedPts streamStart first event - event.elapsed streamStart| ≤ 1000 ↔
      next ≤ start + 640 * (k - j) + 16 ∧ (j = k ∨ 640 * k * 1000000 < 2 ^ 64) := by
  have hstart := accepted_iff.mp haccepted
  have hrange := event.observed.micros.toNat_lt
  rw [hfirst, observedUs_eq horigin] at hstart
  rw [hevent, observedUs_eq horigin] at hrange
  rw [expectedPts, TimedMediaEvent.elapsed, TimedMediaEvent.elapsed, hfirst, hevent, hfirstUs,
    heventUs, observedUs_eq horigin, observedUs_eq horigin]
  exact deviation_iff hjk hspaced hstart hrange

end AlsaDevice

theorem toNat_expectedTiming_ptsUs (start : MonotonicTimestamp) (before : List TimedMediaEvent)
    (event : TimedMediaEvent) :
    ((expectedTiming start before event).ptsUs.toNat : ℤ) =
      expectedPts start (before.headD event) event := by
  have hlow : 0 ≤ expectedPts start (before.headD event) event := le_max_left _ _
  have hhigh : expectedPts start (before.headD event) event ≤ 2 ^ 64 - 1 :=
    max_le (by decide) (min_le_left _ _)
  rw [expectedTiming, UInt64.toNat_ofNat', Nat.mod_eq_of_lt (by omega)]
  exact Int.toNat_of_nonneg hlow

/-- **Alignment across overruns.** On a device with an exact clock the chunks
of a run are aligned exactly when at most 16 frames, one millisecond, are lost
between any two of them that are timed, and the counter does not saturate. -/
theorem audio_aligned_iff (device : AlsaDevice) (monotonicOriginNs : UInt64)
    (actions : List AlsaAction) (worker : AlsaWorker) (state : AlsaDeviceState)
    (streamStart : MonotonicTimestamp) (events : List TimedMediaEvent)
    (hrun : AlsaWorker.run monotonicOriginNs actions = some worker)
    (hplay : device.play actions = some state)
    (horigin : monotonicOriginNs.toNat ≤ device.startNs)
    (hevents : (events.filter fun event => event.track == .audio) =
      (worker.chunksSent ++ worker.chunkPending).map .audio) :
    AudioAligned streamStart events ↔
      ∀ j k start next, j ≤ k → state.starts[j]? = some start → state.starts[k]? = some next →
        streamStart.micros.toNat ≤ device.observedUs monotonicOriginNs start →
        next ≤ start + 640 * (k - j) + 16 ∧ (j = k ∨ 640 * k * 1000000 < 2 ^ 64) := by
  have hplaced := AlsaDevice.placed_of_run horigin hrun hplay
  have hchunks := (AlsaWorker.ends_of_run hrun).1.chunks
  have hspaced : AlsaDevice.Spaced state.starts := (List.isChain_append.mp hplaced.spaced).1
  rw [hchunks] at hevents
  have htrack : ∀ event ∈ (events.filter fun event => event.track == .audio),
      event.track = .audio := fun event hevent => by simpa using List.of_mem_filter hevent
  -- a chunk and the anchor it is placed from
  have hpair : ∀ j k first event start next, j ≤ k →
      (events.filter fun event => event.track == .audio)[j]? = some first →
      (events.filter fun event => event.track == .audio)[k]? = some event →
      state.starts[j]? = some start → state.starts[k]? = some next →
      first.accepted streamStart →
      (|expectedPts streamStart first event - event.elapsed streamStart| ≤ 1000 ↔
        next ≤ start + 640 * (k - j) + 16 ∧ (j = k ∨ 640 * k * 1000000 < 2 ^ 64)) := by
    intro j k first event start next hjk hfirst hevent hstart hnext haccepted
    rw [hevents] at hfirst hevent
    obtain ⟨_, hj, -, hfirstObserved, hfirstUs⟩ := AlsaDevice.captured_chunk hplaced hfirst
    obtain ⟨_, hk, -, heventObserved, heventUs⟩ := AlsaDevice.captured_chunk hplaced hevent
    obtain rfl := Option.some.inj (hstart.symm.trans hj)
    obtain rfl := Option.some.inj (hnext.symm.trans hk)
    exact AlsaDevice.timing_iff horigin hjk (hspaced.getElem? hjk hstart hnext) haccepted
      hfirstObserved heventObserved hfirstUs heventUs
  constructor
  · intro haligned j k start next hjk hj hk hstream
    obtain ⟨event, hevent⟩ := AlsaDevice.exists_chunk hplaced hk
    obtain ⟨other, hother⟩ := AlsaDevice.exists_chunk hplaced hj
    obtain ⟨_, hk', -, hobserved, -⟩ := AlsaDevice.captured_chunk hplaced hevent
    obtain ⟨_, hj', -, hotherObserved, -⟩ := AlsaDevice.captured_chunk hplaced hother
    obtain rfl := Option.some.inj (hk.symm.trans hk')
    obtain rfl := Option.some.inj (hj.symm.trans hj')
    have hbetween : start + 640 * (k - j) ≤ next := hspaced.getElem? hjk hj hk
    have hother' : other.accepted streamStart :=
      accepted_iff.mpr (hotherObserved ▸ hstream)
    have haccepted : event.accepted streamStart := by
      refine accepted_iff.mpr (hobserved ▸ hstream.trans ?_)
      rw [AlsaDevice.observedUs_eq horigin, AlsaDevice.observedUs_eq horigin]
      exact Nat.div_le_div_right (by omega)
    rw [← hevents] at hevent hother
    -- the anchor is not after the earlier of the two
    obtain ⟨i, first, hik, hfirst, hfirst', hhead, hleast⟩ :=
      exists_anchor htrack hevent haccepted
    have hij := hleast j other hother hother'
    obtain ⟨origin, hi, -, -, -⟩ := AlsaDevice.captured_chunk hplaced (hevents ▸ hfirst)
    have hfromOrigin : origin + 640 * (j - i) ≤ start := hspaced.getElem? hij hi hj
    have hnear : |expectedPts streamStart first event - event.elapsed streamStart| ≤ 1000 := by
      rw [← hhead, ← toNat_expectedTiming_ptsUs]
      refine haligned event _ (mem_timed_track.mpr ⟨k, hevent, ?_⟩)
      rw [expectedResult, if_pos haccepted, htrack event (List.mem_of_getElem? hevent)]
    obtain ⟨hlost, hfit⟩ := (hpair i k first event origin next hik hfirst hevent hi hk hfirst').mp hnear
    exact ⟨by omega, hfit.imp_left fun hik => by omega⟩
  · intro hlost event timing hmem
    obtain ⟨k, hevent, hresult⟩ := mem_timed_track.mp hmem
    rw [expectedResult] at hresult
    split at hresult
    · rename_i haccepted
      obtain rfl := Except.ok.inj hresult
      obtain ⟨i, first, hik, hfirst, hfirst', hhead, -⟩ := exists_anchor htrack hevent haccepted
      obtain ⟨origin, hi, -, hobserved, -⟩ := AlsaDevice.captured_chunk hplaced (hevents ▸ hfirst)
      obtain ⟨next, hk, -, -, -⟩ := AlsaDevice.captured_chunk hplaced (hevents ▸ hevent)
      rw [toNat_expectedTiming_ptsUs, htrack event (List.mem_of_getElem? hevent), hhead]
      refine (hpair i k first event origin next hik hfirst hevent hi hk hfirst').mpr ?_
      exact hlost i k origin next hik hi hk (hobserved ▸ accepted_iff.mp hfirst')
    · cases hresult

/-- A period is read and sent, an overrun removes what is read of the next one,
and another period is read and sent. -/
def overrunRun (dropped : List Int16) (status : PcmStatus) : List AlsaAction :=
  [.opened (.ok ()), .turn, .waited (.ok true),
    .turn, .read (.ok (List.replicate 1280 0)), .turn, .queried (.ok ⟨1, 40000000, 0⟩), .sent true,
    .turn, .waited (.ok true), .turn, .read (.ok dropped),
    .turn, .read (.error ⟨32, "Broken pipe"⟩), .recovered (.ok ()),
    .turn, .read (.ok (List.replicate 1280 0)), .turn, .queried (.ok status), .sent true]

/-- An overrun that loses one millisecond leaves the chunks aligned. -/
theorem audio_aligned_iff_shortOverrun : ∃ worker,
    AlsaWorker.run 0 (overrunRun [] ⟨1, 81000000, 0⟩) = some worker ∧
    AudioAligned (.fromMicros 0) ((worker.chunksSent ++ worker.chunkPending).map .audio) := by
  have hsome : (AlsaWorker.run 0 (overrunRun [] ⟨1, 81000000, 0⟩)).isSome := by decide +kernel
  obtain ⟨worker, hrun⟩ := Option.isSome_iff_exists.mp hsome
  have hplay : (⟨1000000000, fun _ => 16⟩ : AlsaDevice).play (overrunRun [] ⟨1, 81000000, 0⟩) =
      some ⟨1296, 1, [0, 656]⟩ := by decide +kernel
  have hevents : ((worker.chunksSent ++ worker.chunkPending).map TimedMediaEvent.audio).filter
      (fun event => event.track == .audio) =
        (worker.chunksSent ++ worker.chunkPending).map .audio := by
    refine List.filter_eq_self.mpr fun event hevent => ?_
    obtain ⟨chunk, -, rfl⟩ := List.mem_map.mp hevent
    rfl
  refine ⟨worker, hrun, (audio_aligned_iff _ 0 _ worker _ (.fromMicros 0) _ hrun hplay
    (by decide) hevents).mpr ?_⟩
  intro j k start next hjk hj hk _
  obtain ⟨hjlt, hj⟩ := List.getElem?_eq_some_iff.mp hj
  obtain ⟨hklt, hk⟩ := List.getElem?_eq_some_iff.mp hk
  simp only [List.length_cons, List.length_nil] at hjlt hklt
  interval_cases k <;> interval_cases j <;> simp at hj hk <;> omega

/-- An overrun that loses the buffer: the second chunk begins 201 ms after the
first one, and is placed 40 ms after it. -/
theorem audio_lags : ∃ worker,
    AlsaWorker.run 0 (overrunRun (List.replicate 34 0) ⟨1, 241062500, 0⟩) = some worker ∧
    (⟨1000000000, fun _ => 2560⟩ : AlsaDevice).play
      (overrunRun (List.replicate 34 0) ⟨1, 241062500, 0⟩) = some ⟨3857, 1, [0, 3217]⟩ ∧
    ¬AudioAligned (.fromMicros 0) ((worker.chunksSent ++ worker.chunkPending).map .audio) := by
  have hresults : (AlsaWorker.run 0 (overrunRun (List.replicate 34 0) ⟨1, 241062500, 0⟩)).map
      (fun worker =>
        (timed (.fromMicros 0) (fun event => event.track == .audio)
          ((worker.chunksSent ++ worker.chunkPending).map .audio)).map fun result =>
            (result.2.toOption.map MediaTiming.ptsUs, result.1.elapsed (.fromMicros 0))) =
      some [(some 1000000, 1000000), (some 1040000, 1201062)] := by decide +kernel
  obtain ⟨worker, hrun, hworker⟩ := Option.map_eq_some_iff.mp hresults
  refine ⟨worker, hrun, by decide +kernel, fun haligned => ?_⟩
  have hmem : ((some 1040000, 1201062) : Option UInt64 × ℤ) ∈
      ([(some 1000000, 1000000), (some 1040000, 1201062)] : List (Option UInt64 × ℤ)) := by decide
  rw [← hworker, List.mem_map] at hmem
  obtain ⟨⟨event, result⟩, htimed, heq⟩ := hmem
  obtain ⟨hpts, helapsed⟩ := Prod.mk.inj heq
  cases result with
  | error error => cases hpts
  | ok timing =>
    have hnear := haligned event timing htimed
    rw [Option.some.inj hpts, helapsed] at hnear
    exact absurd hnear (by decide)

end Handycam
