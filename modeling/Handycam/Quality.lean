import Mathlib
import Handycam.Initialization

/-!
# Quality selection

The JPEG scale factor is chosen by changing the plan before it is replayed: the
last one-byte write to the scale-factor register gets the chosen value. What
the camera keeps is what it received last.
-/

namespace Handycam

/-! ## The write that changes -/

section Override

variable {scaleFactor : ScaleFactor}

/-- A change keeps everything but the payload. -/
theorem InitOp.withScaleFactor_eq_some {operation changed : InitOp}
    (h : operation.withScaleFactor scaleFactor = some changed) :
    ∃ delayUs requestType request value old,
      operation = .controlOut delayUs requestType request value scaleFactorIndex [old] ∧
      changed = .controlOut delayUs requestType request value scaleFactorIndex
        [scaleFactor.value] := by
  cases operation with
  | controlIn => cases h
  | setInterface => cases h
  | controlOut delayUs requestType request value index data =>
    rw [InitOp.withScaleFactor] at h
    split_ifs at h with hwrite
    obtain ⟨rfl, hlength⟩ := hwrite
    obtain ⟨old, rfl⟩ := List.length_eq_one_iff.mp hlength
    cases h
    exact ⟨delayUs, requestType, request, value, old, rfl, rfl⟩

/-- Which operations can be changed does not depend on the factor. -/
theorem InitOp.withScaleFactor_eq_none_iff {operation : InitOp} (other : ScaleFactor) :
    operation.withScaleFactor scaleFactor = none ↔ operation.withScaleFactor other = none := by
  cases operation with
  | controlIn => exact Iff.rfl
  | setInterface => exact Iff.rfl
  | controlOut =>
    rw [InitOp.withScaleFactor, InitOp.withScaleFactor]
    split_ifs
    · simp
    · exact Iff.rfl

/-- A second change makes the first one forgotten. -/
theorem InitOp.withScaleFactor_withScaleFactor {operation first : InitOp} {other : ScaleFactor}
    (h : operation.withScaleFactor other = some first) :
    first.withScaleFactor scaleFactor = operation.withScaleFactor scaleFactor := by
  obtain ⟨delayUs, requestType, request, value, old, rfl, rfl⟩ := InitOp.withScaleFactor_eq_some h
  rfl

theorem overrideFirst_eq_self {plan : List InitOp}
    (h : ∀ operation ∈ plan, operation.withScaleFactor scaleFactor = none) :
    overrideFirst scaleFactor plan = (plan, false) := by
  induction plan with
  | nil => rfl
  | cons operation plan ih =>
    obtain ⟨hhead, htail⟩ := List.forall_mem_cons.mp h
    rw [overrideFirst, hhead, ih htail]

theorem overrideFirst_append {before after : List InitOp} {operation changed : InitOp}
    (hbefore : ∀ earlier ∈ before, earlier.withScaleFactor scaleFactor = none)
    (hchanged : operation.withScaleFactor scaleFactor = some changed) :
    overrideFirst scaleFactor (before ++ operation :: after) =
      (before ++ changed :: after, true) := by
  induction before with
  | nil => rw [List.nil_append, List.nil_append, overrideFirst, hchanged]
  | cons earlier before ih =>
    obtain ⟨hhead, htail⟩ := List.forall_mem_cons.mp hbefore
    rw [List.cons_append, overrideFirst, hhead, ih htail, List.cons_append]

theorem override_eq_self {plan : List InitOp}
    (h : ∀ operation ∈ plan, operation.withScaleFactor scaleFactor = none) :
    overrideRecordModeScaleFactor plan scaleFactor = (plan, false) := by
  have hreverse : ∀ operation ∈ plan.reverse, operation.withScaleFactor scaleFactor = none :=
    fun operation hoperation => h operation (List.mem_reverse.mp hoperation)
  rw [overrideRecordModeScaleFactor, overrideFirst_eq_self hreverse]
  exact congrArg (·, false) (List.reverse_reverse plan)

/-- The last operation that can be changed is changed. -/
theorem override_append {before after : List InitOp} {operation changed : InitOp}
    (hafter : ∀ later ∈ after, later.withScaleFactor scaleFactor = none)
    (hchanged : operation.withScaleFactor scaleFactor = some changed) :
    overrideRecordModeScaleFactor (before ++ operation :: after) scaleFactor =
      (before ++ changed :: after, true) := by
  have hreverse : ∀ later ∈ after.reverse, later.withScaleFactor scaleFactor = none :=
    fun later hlater => hafter later (List.mem_reverse.mp hlater)
  have hsplit : ∀ middle : InitOp, (before ++ middle :: after).reverse =
      after.reverse ++ middle :: before.reverse := by
    intro middle
    simp
  rw [overrideRecordModeScaleFactor, hsplit, overrideFirst_append hreverse hchanged]
  refine congrArg (·, true) ?_
  rw [← hsplit, List.reverse_reverse]

/-- Either nothing can be changed, or there is a last operation that can. -/
theorem exists_last_change (scaleFactor : ScaleFactor) (plan : List InitOp) :
    (∀ operation ∈ plan, operation.withScaleFactor scaleFactor = none) ∨
      ∃ before operation changed after, plan = before ++ operation :: after ∧
        operation.withScaleFactor scaleFactor = some changed ∧
        ∀ later ∈ after, later.withScaleFactor scaleFactor = none := by
  induction plan with
  | nil => exact .inl fun operation hoperation => by cases hoperation
  | cons operation plan ih =>
    rcases ih with hnone | ⟨before, last, changed, after, rfl, hchanged, hafter⟩
    · cases hhead : operation.withScaleFactor scaleFactor with
      | none => exact .inl (List.forall_mem_cons.mpr ⟨hhead, hnone⟩)
      | some changed => exact .inr ⟨[], operation, changed, plan, rfl, hhead, hnone⟩
    · exact .inr ⟨operation :: before, last, changed, after, rfl, hchanged, hafter⟩

/-- **The last choice counts.** Of two overrides, the second one is left. -/
theorem override_override (plan : List InitOp) (first second : ScaleFactor) :
    overrideRecordModeScaleFactor (overrideRecordModeScaleFactor plan first).1 second =
      overrideRecordModeScaleFactor plan second := by
  rcases exists_last_change first plan with hnone |
    ⟨before, operation, changed, after, rfl, hchanged, hafter⟩
  · rw [override_eq_self hnone]
  · have hlater : ∀ later ∈ after, later.withScaleFactor second = none :=
      fun later hlater => (InitOp.withScaleFactor_eq_none_iff first).mpr (hafter later hlater)
    rw [override_append hafter hchanged]
    cases hsecond : operation.withScaleFactor second with
    | none =>
      rw [(InitOp.withScaleFactor_eq_none_iff second).mpr hsecond] at hchanged
      cases hchanged
    | some other =>
      rw [override_append hlater hsecond]
      exact override_append hlater ((InitOp.withScaleFactor_withScaleFactor hchanged).trans hsecond)

end Override

/-! ## What the register receives -/

/-- The payload of a write to the scale-factor register. -/
def Request.scaleFactorPayload : Request → Option (List UInt8)
  | .writeControl _ _ _ index data => if index = scaleFactorIndex then some data else none
  | _ => none

/-- The payloads that the scale-factor register receives, in order. -/
def scaleFactorPayloads (requests : List Request) : List (List UInt8) :=
  requests.filterMap Request.scaleFactorPayload

/-- The writes to the register are commands. -/
theorem scaleFactorPayloads_filter (requests : List Request) :
    scaleFactorPayloads (requests.filter Request.isCommand) = scaleFactorPayloads requests := by
  rw [scaleFactorPayloads, List.filterMap_filter]
  refine List.filterMap_congr ?_
  intro request _
  cases request <;> rfl

/-- All writes of a plan to the register have one byte. -/
def OneByteWrites (plan : List InitOp) : Prop :=
  ∀ operation ∈ plan, ∀ data, operation.toRequest.scaleFactorPayload = some data → data.length = 1

/-- A write to the register with one byte can be changed. -/
theorem withScaleFactor_eq_none_iff_payload {plan : List InitOp} (hplan : OneByteWrites plan)
    (scaleFactor : ScaleFactor) {operation : InitOp} (hoperation : operation ∈ plan) :
    operation.withScaleFactor scaleFactor = none ↔
      operation.toRequest.scaleFactorPayload = none := by
  have hbyte := hplan operation hoperation
  cases operation with
  | controlIn => exact iff_of_true rfl rfl
  | setInterface => exact iff_of_true rfl rfl
  | controlOut delayUs requestType request value index data =>
    by_cases hindex : index = scaleFactorIndex
    · have hlength := hbyte data (by simp [InitOp.toRequest, Request.scaleFactorPayload, hindex])
      simp [InitOp.withScaleFactor, InitOp.toRequest, Request.scaleFactorPayload, hindex, hlength]
    · simp [InitOp.withScaleFactor, InitOp.toRequest, Request.scaleFactorPayload, hindex]

section Quality

variable {σ : Type}

/-- What a replay sends to the register is what the plan writes there. -/
theorem scaleFactorPayloads_of_replay {camera : Camera σ} {plan : List InitOp}
    {strategy : InitStrategy} {state : σ} {bus : Bus σ}
    (h : (replayInitialization camera plan strategy).run ⟨state, []⟩ = .ok () bus) :
    scaleFactorPayloads (requests bus.log) = scaleFactorPayloads (plan.map InitOp.toRequest) := by
  have hrun := replayInitialization_records camera plan strategy ⟨state, []⟩
  rw [h] at hrun
  obtain ⟨log, hlog, hreplays⟩ := hrun
  rw [List.nil_append] at hlog
  rw [hlog, ← scaleFactorPayloads_filter, ← scaleFactorPayloads_filter (plan.map _)]
  have hcommands := hreplays.commands
  rw [show planCommands ([] : List InitOp) = [] from rfl, List.append_nil] at hcommands
  exact congrArg scaleFactorPayloads hcommands.symm

/-- **Quality selection.** In a plan whose writes to the scale-factor register
have one byte, an override changes the payload of the last of them and nothing
else, so that a replay that succeeds leaves the chosen factor in the register,
whatever the strategy. A plan without such writes is not changed. -/
theorem override_selects {plan : List InitOp} (hplan : OneByteWrites plan)
    (scaleFactor : ScaleFactor) :
    ((∃ operation ∈ plan, operation.toRequest.scaleFactorPayload ≠ none) →
      (∃ before after delayUs requestType request value old,
        plan = before ++ .controlOut delayUs requestType request value scaleFactorIndex [old] ::
          after ∧
        (∀ later ∈ after, later.toRequest.scaleFactorPayload = none) ∧
        overrideRecordModeScaleFactor plan scaleFactor =
          (before ++ .controlOut delayUs requestType request value scaleFactorIndex
            [scaleFactor.value] :: after, true)) ∧
      ∀ (camera : Camera σ) (strategy : InitStrategy) (state : σ) (bus : Bus σ),
        (replayInitialization camera (overrideRecordModeScaleFactor plan scaleFactor).1
          strategy).run ⟨state, []⟩ = .ok () bus →
        (scaleFactorPayloads (requests bus.log)).getLast? = some [scaleFactor.value]) ∧
    ((∀ operation ∈ plan, operation.toRequest.scaleFactorPayload = none) →
      overrideRecordModeScaleFactor plan scaleFactor = (plan, false)) ∧
    ∀ other, overrideRecordModeScaleFactor (overrideRecordModeScaleFactor plan scaleFactor).1 other =
      overrideRecordModeScaleFactor plan other := by
  refine ⟨?_, ?_, override_override plan scaleFactor⟩
  · rintro ⟨operation, hoperation, hpayload⟩
    obtain ⟨before, last, changed, after, heq, hchanged, hafter⟩ :=
      (exists_last_change scaleFactor plan).resolve_left fun hnone =>
        hpayload ((withScaleFactor_eq_none_iff_payload hplan _ hoperation).mp
          (hnone operation hoperation))
    have hoverride : overrideRecordModeScaleFactor plan scaleFactor =
        (before ++ changed :: after, true) := heq ▸ override_append hafter hchanged
    have hlater : ∀ later ∈ after, later.toRequest.scaleFactorPayload = none := by
      intro later hlater
      have hmem : later ∈ plan := by simp [heq, hlater]
      exact (withScaleFactor_eq_none_iff_payload hplan _ hmem).mp (hafter later hlater)
    obtain ⟨delayUs, requestType, request, value, old, rfl, rfl⟩ :=
      InitOp.withScaleFactor_eq_some hchanged
    refine ⟨⟨before, after, delayUs, requestType, request, value, old, heq, hlater, hoverride⟩, ?_⟩
    intro camera strategy state bus hrun
    have hnone : scaleFactorPayloads (after.map InitOp.toRequest) = [] := by
      rw [scaleFactorPayloads, List.filterMap_eq_nil_iff, List.forall_mem_map]
      exact hlater
    rw [scaleFactorPayloads_of_replay hrun, hoverride, List.map_append, scaleFactorPayloads,
      List.filterMap_append, List.map_cons, List.filterMap_cons]
    refine (congrArg List.getLast? (congrArg _ (congrArg _ hnone))).trans ?_
    exact List.getLast?_concat
  · intro hnone
    exact override_eq_self fun operation hoperation =>
      (withScaleFactor_eq_none_iff_payload hplan _ hoperation).mpr (hnone operation hoperation)

end Quality

/-- The register is written twice, with a selection between. -/
def twoWrites : List InitOp :=
  [.controlOut 0 0x40 0x88 0 scaleFactorIndex [0x10], .setInterface 3 0 5,
    .controlOut 7 0x40 0x88 0 scaleFactorIndex [0x20]]

theorem override_selects_twoWrites :
    ∃ bus, (replayInitialization steadyCamera
        (overrideRecordModeScaleFactor twoWrites ⟨80, by decide, by decide⟩).1 .conditionPolling).run
        ⟨0, []⟩ = .ok () bus ∧
      (scaleFactorPayloads (requests bus.log)).getLast? = some [80] := by
  have hplan : OneByteWrites twoWrites := by
    intro operation hoperation data hdata
    simp only [twoWrites, List.mem_cons, List.not_mem_nil, or_false] at hoperation
    rcases hoperation with rfl | rfl | rfl
    · cases hdata
      rfl
    · cases hdata
    · cases hdata
      rfl
  have hselects := ((override_selects hplan ⟨80, by decide, by decide⟩).1
    ⟨_, List.mem_cons_self, by simp [InitOp.toRequest, Request.scaleFactorPayload]⟩).2
      steadyCamera .conditionPolling 0
  have hok : ((replayInitialization steadyCamera
      (overrideRecordModeScaleFactor twoWrites ⟨80, by decide, by decide⟩).1
      .conditionPolling).run' ⟨0, []⟩).isSome = true := by decide +kernel
  rw [EStateM.run'] at hok
  generalize (replayInitialization steadyCamera
    (overrideRecordModeScaleFactor twoWrites ⟨80, by decide, by decide⟩).1
      .conditionPolling).run ⟨0, []⟩ = result at hselects hok ⊢
  cases result with
  | ok a bus => exact ⟨bus, rfl, hselects bus rfl⟩
  | error error bus => cases hok

end Handycam
