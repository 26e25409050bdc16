import Mathlib.Algebra.Ring.Nat
import Mathlib.Data.List.Induction

/-!
# Machines that wait

A step function `step : σ → α → Option σ` takes an action if the state lets
it. A run is a list of actions each of which the state before it lets. This
file has the rules for such runs:

* **by an invariant** — `run_invariant`: what every step keeps, a run keeps;
  `run_history` is the same for a property of the state and the actions so far;
* **by a measure** — `run_bounded`: when every step uses up some of a measure,
  the measure bounds the length of a run.
-/

namespace Guarded

universe u v

variable {σ : Type u} {α : Type v} {step : σ → α → Option σ}

/-- The state after some actions, if each was possible. -/
def run (step : σ → α → Option σ) : σ → List α → Option σ
  | s, [] => some s
  | s, a :: as => (step s a).bind fun t => run step t as

@[simp] theorem run_nil (s : σ) : run step s [] = some s := rfl

theorem run_cons {s t : σ} {a : α} {as : List α} :
    run step s (a :: as) = some t ↔ ∃ r, step s a = some r ∧ run step r as = some t :=
  Option.bind_eq_some_iff

theorem run_append {s t : σ} {as bs : List α} :
    run step s (as ++ bs) = some t ↔ ∃ r, run step s as = some r ∧ run step r bs = some t := by
  induction as generalizing s with
  | nil => simp
  | cons a as ih =>
    rw [List.cons_append, run_cons]
    constructor
    · rintro ⟨r, hr, hrest⟩
      obtain ⟨q, hq, hbs⟩ := ih.mp hrest
      exact ⟨q, run_cons.mpr ⟨r, hr, hq⟩, hbs⟩
    · rintro ⟨q, hq, hbs⟩
      obtain ⟨r, hr, has⟩ := run_cons.mp hq
      exact ⟨r, hr, ih.mpr ⟨q, has, hbs⟩⟩

theorem run_concat {s t : σ} {as : List α} {a : α} :
    run step s (as ++ [a]) = some t ↔ ∃ r, run step s as = some r ∧ step r a = some t := by
  rw [run_append]
  simp [run]

/-- What every step keeps, a run keeps. -/
theorem run_invariant {P : σ → Prop} (hstep : ∀ s a t, P s → step s a = some t → P t) {s t : σ}
    {as : List α} (hs : P s) (hrun : run step s as = some t) : P t := by
  induction as generalizing s with
  | nil =>
    obtain rfl := Option.some.inj hrun
    exact hs
  | cons a as ih =>
    obtain ⟨r, hr, hrest⟩ := run_cons.mp hrun
    exact ih (hstep s a r hs hr) hrest

/-- A property of the actions so far and the state is kept by a run when each
step keeps it. -/
theorem run_history {P : List α → σ → Prop} {s t : σ} {as : List α} (hs : P [] s)
    (hstep : ∀ past r a next, P past r → step r a = some next → P (past ++ [a]) next)
    (hrun : run step s as = some t) : P as t := by
  induction as using List.reverseRecOn generalizing t with
  | nil =>
    obtain rfl := Option.some.inj hrun
    exact hs
  | append_singleton past a ih =>
    obtain ⟨r, hr, hlast⟩ := run_concat.mp hrun
    exact hstep past r a t (ih hr) hlast

/-- When every step uses up what its action costs of a measure, the measure
bounds the cost of a run. -/
theorem run_bounded {P : σ → Prop} {measure : σ → ℕ} {cost : α → ℕ}
    (hstep : ∀ s a t, P s → step s a = some t → P t ∧ measure t + cost a ≤ measure s) {s t : σ}
    {as : List α} (hs : P s) (hrun : run step s as = some t) :
    measure t + (as.map cost).sum ≤ measure s := by
  induction as generalizing s with
  | nil =>
    obtain rfl := Option.some.inj hrun
    exact Nat.le_of_eq (Nat.add_zero _)
  | cons a as ih =>
    obtain ⟨r, hr, hrest⟩ := run_cons.mp hrun
    obtain ⟨hP, hcost⟩ := hstep s a r hs hr
    have hlater := ih hP hrest
    rw [List.map_cons, List.sum_cons]
    omega

end Guarded
