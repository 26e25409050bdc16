import Mathlib.Data.List.Basic

/-!
# Mealy machines over lists

A step function `step : σ → α → σ × β` consumes one input and answers with one
output. This file has the runs of such a machine over a finite list of inputs,
and the two ways a run is reasoned about:

* **by a simulation** — `outputs_simulation`: two machines in related states
  answer alike for as long as each step keeps them related;
* **by its history** — `outputs_eq_history`: when the state is a function of
  the inputs consumed so far, the output at a position is a function of the
  inputs before it and the input at it, and of nothing else.
-/

namespace Mealy

universe u v w x

variable {σ : Type u} {τ : Type v} {α : Type w} {β : Type x}

/-! ## Runs -/

section Run

variable (step : σ → α → σ × β)

/-- The state after all the inputs. -/
def final : σ → List α → σ
  | s, [] => s
  | s, a :: as => final (step s a).1 as

/-- The outputs, one for each input. -/
def outputs : σ → List α → List β
  | _, [] => []
  | s, a :: as => (step s a).2 :: outputs (step s a).1 as

@[simp] theorem final_nil (s : σ) : final step s [] = s := rfl

@[simp] theorem final_cons (s : σ) (a : α) (as : List α) :
    final step s (a :: as) = final step (step s a).1 as := rfl

@[simp] theorem outputs_nil (s : σ) : outputs step s [] = [] := rfl

@[simp] theorem outputs_cons (s : σ) (a : α) (as : List α) :
    outputs step s (a :: as) = (step s a).2 :: outputs step (step s a).1 as := rfl

theorem final_append (s : σ) (as bs : List α) :
    final step s (as ++ bs) = final step (final step s as) bs := by
  induction as generalizing s with
  | nil => rfl
  | cons a as ih => exact ih _

theorem outputs_append (s : σ) (as bs : List α) :
    outputs step s (as ++ bs) = outputs step s as ++ outputs step (final step s as) bs := by
  induction as generalizing s with
  | nil => rfl
  | cons a as ih =>
    rw [List.cons_append, outputs_cons, ih]
    rfl

@[simp] theorem length_outputs (s : σ) (as : List α) :
    (outputs step s as).length = as.length := by
  induction as generalizing s with
  | nil => rfl
  | cons a as ih => simp [ih]

end Run

/-! ## Simulations -/

/-- Two machines in related states give outputs with the same view, provided
each pair of steps that the guard admits keeps the states related. -/
theorem outputs_simulation {γ : Type*} {β' : Type*} {step : σ → α → σ × β}
    {step' : τ → α → τ × β'} {view : β → γ} {view' : β' → γ} {R : σ → τ → Prop}
    {Guard : σ → α → Prop}
    (hR : ∀ s t a, R s t → Guard s a →
      R (step s a).1 (step' t a).1 ∧ view (step s a).2 = view' (step' t a).2)
    {s : σ} {t : τ} (hst : R s t) {as : List α}
    (hguard : ∀ pre a post, as = pre ++ a :: post → Guard (final step s pre) a) :
    R (final step s as) (final step' t as) ∧
      (outputs step s as).map view = (outputs step' t as).map view' := by
  induction as generalizing s t with
  | nil => exact ⟨hst, rfl⟩
  | cons a as ih =>
    obtain ⟨hnext, hview⟩ := hR s t a hst (hguard [] a as rfl)
    obtain ⟨hfinal, hrest⟩ := ih hnext fun pre b post h =>
      hguard (a :: pre) b post (congrArg (a :: ·) h)
    refine ⟨hfinal, ?_⟩
    simp only [outputs_cons, List.map_cons, hview, hrest]

/-! ## Histories -/

section History

/-- The outputs of a machine whose answer depends on the inputs before it
(`past`) and on the input it answers. -/
def history (out : List α → α → β) : List α → List α → List β
  | _, [] => []
  | past, a :: as => out past a :: history out (past ++ [a]) as

variable {out : List α → α → β}

@[simp] theorem length_history (past as : List α) :
    (history out past as).length = as.length := by
  induction as generalizing past with
  | nil => rfl
  | cons a as ih => simp [history, ih]

theorem history_concat (past as : List α) (a : α) :
    history out past (as ++ [a]) = history out past as ++ [out (past ++ as) a] := by
  induction as generalizing past with
  | nil => simp [history]
  | cons b as ih => simp [history, ih]

/-- The output at position `n` is computed from the inputs before `n` and the
input at `n`. -/
theorem getElem?_history (past as : List α) (n : ℕ) :
    (history out past as)[n]? = as[n]?.map (out (past ++ as.take n)) := by
  induction as generalizing past n with
  | nil => simp [history]
  | cons a as ih =>
    cases n with
    | zero => simp [history]
    | succ n => simp [history, ih]

/-- **History abstraction.** If the state after the inputs `past` is `abs past`,
as long as those inputs satisfy a property `Ok` of input lists, then a run
over inputs whose prefixes are all `Ok` ends in `abs` of them and its outputs
are those of the history. -/
theorem outputs_eq_history {step : σ → α → σ × β} {abs : List α → σ} (Ok : List α → Prop)
    (hstep : ∀ past a, Ok (past ++ [a]) → step (abs past) a = (abs (past ++ [a]), out past a))
    (past : List α) {as : List α} (hok : ∀ n ≤ as.length, Ok (past ++ as.take n)) :
    final step (abs past) as = abs (past ++ as) ∧
      outputs step (abs past) as = history out past as := by
  induction as generalizing past with
  | nil => simp [history]
  | cons a as ih =>
    have h₁ : Ok (past ++ [a]) := by simpa using hok 1 (by simp)
    have hrest : ∀ n ≤ as.length, Ok ((past ++ [a]) ++ as.take n) := by
      intro n hn
      simpa using hok (n + 1) (by simpa using hn)
    obtain ⟨hfinal, houts⟩ := ih (past ++ [a]) hrest
    simp only [final_cons, outputs_cons, hstep past a h₁, hfinal, houts, history,
      List.append_assoc, List.singleton_append, and_self]

/-- **Inputs that leave no trace.** If the answers to the inputs of a class
depend only on the earlier inputs of that class, the class is answered as if
the other inputs had not been there. -/
theorem history_filter {p : α → Bool} (hout : ∀ past a, p a → out past a = out (past.filter p) a)
    (past as : List α) :
    (as.zip (history out past as)).filter (fun x => p x.1) =
      (as.filter p).zip (history out (past.filter p) (as.filter p)) := by
  induction as generalizing past with
  | nil => rfl
  | cons a as ih =>
    have hrest := ih (past ++ [a])
    rw [List.filter_append] at hrest
    by_cases ha : p a
    · rw [List.filter_singleton, ha] at hrest
      simp [history, ha, hrest, hout past a ha]
    · rw [List.filter_singleton, Bool.eq_false_iff.mpr ha] at hrest
      simpa [history, ha] using hrest

end History

end Mealy
