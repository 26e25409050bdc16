import Mathlib.Data.List.Basic

/-!
# Programs that record events

A program over a state that holds a log of events, and may fail. `Records`
says which events a program appends: one predicate for its successes, and one
for its failures, since a failing program keeps what it recorded before.

The rules follow the program: `Records.bind` joins the events of two parts, and
`Records.mono` weakens the predicates.
-/

namespace Handycam

section Records

variable {ε S E α β : Type} (log : S → List E)

/-- The result of a program that started in `s` appended events as told. -/
def Recorded (s : S) (success : α → List E → Prop) (failure : ε → List E → Prop) :
    EStateM.Result ε S α → Prop
  | .ok a s' => ∃ events, log s' = log s ++ events ∧ success a events
  | .error e s' => ∃ events, log s' = log s ++ events ∧ failure e events

/-- From every state, the program appends events as told. -/
def Records (program : EStateM ε S α) (success : α → List E → Prop)
    (failure : ε → List E → Prop) : Prop :=
  ∀ s, Recorded log s success failure (program.run s)

variable {log} {program : EStateM ε S α} {success success' : α → List E → Prop}
  {failure failure' : ε → List E → Prop}

theorem Recorded.mono {s : S} {result : EStateM.Result ε S α}
    (h : Recorded log s success failure result) (hsuccess : ∀ a l, success a l → success' a l)
    (hfailure : ∀ e l, failure e l → failure' e l) : Recorded log s success' failure' result := by
  cases result with
  | ok a s' =>
    obtain ⟨events, hlog, hevents⟩ := h
    exact ⟨events, hlog, hsuccess a events hevents⟩
  | error e s' =>
    obtain ⟨events, hlog, hevents⟩ := h
    exact ⟨events, hlog, hfailure e events hevents⟩

theorem Records.mono (h : Records log program success failure)
    (hsuccess : ∀ a l, success a l → success' a l)
    (hfailure : ∀ e l, failure e l → failure' e l) : Records log program success' failure' :=
  fun s => (h s).mono hsuccess hfailure

theorem Records.pure {a : α} (h : success a []) :
    Records log (pure a : EStateM ε S α) success failure :=
  fun _ => ⟨[], (List.append_nil _).symm, h⟩

theorem Records.throw {e : ε} (h : failure e []) :
    Records log (throw e : EStateM ε S α) success failure :=
  fun _ => ⟨[], (List.append_nil _).symm, h⟩

/-- Events of a first part stand before those of what follows it. -/
theorem Recorded.append {s s' : S} {first : List E} (hfirst : log s' = log s ++ first)
    {result : EStateM.Result ε S α}
    (h : Recorded log s' (fun a l => success a (first ++ l)) (fun e l => failure e (first ++ l))
      result) : Recorded log s success failure result := by
  cases result with
  | ok a t =>
    obtain ⟨events, hlog, hevents⟩ := h
    exact ⟨first ++ events, by rw [hlog, hfirst, List.append_assoc], hevents⟩
  | error e t =>
    obtain ⟨events, hlog, hevents⟩ := h
    exact ⟨first ++ events, by rw [hlog, hfirst, List.append_assoc], hevents⟩

/-- **Sequencing.** The first part's failures are failures of the whole; after
its successes the second part appends. -/
theorem Records.bind {next : α → EStateM ε S β} {success' : β → List E → Prop}
    (h : Records log program success failure) (hfailure : ∀ e l, failure e l → failure' e l)
    (hnext : ∀ a l, success a l →
      Records log (next a) (fun b l' => success' b (l ++ l')) (fun e l' => failure' e (l ++ l'))) :
    Records log (program >>= next) success' failure' := by
  intro s
  have hprogram := h s
  rw [EStateM.run_bind]
  generalize program.run s = result at hprogram
  cases result with
  | ok a s' =>
    obtain ⟨events, hlog, hevents⟩ := hprogram
    exact (hnext a events hevents s').append hlog
  | error e s' =>
    obtain ⟨events, hlog, hevents⟩ := hprogram
    exact ⟨events, hlog, hfailure e events hevents⟩

/-- **Recovery.** After a failure of the first part the handler appends. -/
theorem Records.tryCatch {handler : ε → EStateM ε S α}
    (h : Records log program success failure) (hsuccess : ∀ a l, success a l → success' a l)
    (hhandler : ∀ e l, failure e l →
      Records log (handler e) (fun a l' => success' a (l ++ l'))
        (fun e' l' => failure' e' (l ++ l'))) :
    Records log (tryCatch program handler) success' failure' := by
  intro s
  have hprogram := h s
  rcases hrun : program.run s with ⟨a, s'⟩ | ⟨e, s'⟩
  · rw [hrun] at hprogram
    obtain ⟨events, hlog, hevents⟩ := hprogram
    have hcatch : (MonadExcept.tryCatch program handler).run s = .ok a s' := by
      change EStateM.tryCatch program handler s = _
      rw [EStateM.tryCatch, show program s = _ from hrun]
    rw [hcatch]
    exact ⟨events, hlog, hsuccess a events hevents⟩
  · rw [hrun] at hprogram
    obtain ⟨events, hlog, hevents⟩ := hprogram
    have hcatch : (MonadExcept.tryCatch program handler).run s = (handler e).run s' := by
      change EStateM.tryCatch program handler s = _
      rw [EStateM.tryCatch, show program s = _ from hrun]
      rfl
    rw [hcatch]
    exact (hhandler e events hevents s').append hlog

end Records

end Handycam
