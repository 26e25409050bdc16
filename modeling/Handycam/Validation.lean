import Mathlib

/-!
# Programs that check their input

A program that fails with an error makes some checks in order. `Validates` says
which: it succeeds exactly if all of them hold, and its error reports the first
one that does not.

The rules follow the program: `Validates.bind` joins the checks of two parts.
A traversal fails where the first element does.
-/

namespace Handycam

section Validates

variable {C ε α β : Type} (holds : C → Prop) (reports : C → ε → Prop)

/-- The first check that does not hold. -/
def FirstFailure (checks : List C) (check : C) : Prop :=
  ∃ passed rest, checks = passed ++ check :: rest ∧ (∀ earlier ∈ passed, holds earlier) ∧ ¬ holds check

/-- A program makes the checks in order, and its value is as told. -/
def Validates (checks : List C) (program : Except ε α) (result : α → Prop) : Prop :=
  match program with
  | .ok a => (∀ check ∈ checks, holds check) ∧ result a
  | .error e => ∃ check, FirstFailure holds checks check ∧ reports check e

variable {holds reports} {checks checks' : List C} {program : Except ε α} {result : α → Prop}

theorem FirstFailure.singleton {check : C} (h : ¬ holds check) :
    FirstFailure holds [check] check := by
  refine ⟨[], [], rfl, ?_, h⟩
  intro earlier hearlier
  cases hearlier

theorem FirstFailure.append {check : C} (h : FirstFailure holds checks check) (rest : List C) :
    FirstFailure holds (checks ++ rest) check := by
  obtain ⟨passed, later, rfl, hpassed, hcheck⟩ := h
  exact ⟨passed, later ++ rest, by rw [List.append_assoc, List.cons_append], hpassed, hcheck⟩

theorem FirstFailure.after {check : C} (h : FirstFailure holds checks check)
    (hbefore : ∀ earlier ∈ checks', holds earlier) :
    FirstFailure holds (checks' ++ checks) check := by
  obtain ⟨passed, rest, rfl, hpassed, hcheck⟩ := h
  refine ⟨checks' ++ passed, rest, (List.append_assoc _ _ _).symm, ?_, hcheck⟩
  intro earlier hearlier
  rcases List.mem_append.mp hearlier with hearlier | hearlier
  · exact hbefore earlier hearlier
  · exact hpassed earlier hearlier

theorem Validates.ok {a : α} (hchecks : ∀ check ∈ checks, holds check) (h : result a) :
    Validates holds reports checks (.ok a) result := ⟨hchecks, h⟩

theorem Validates.error {check : C} {e : ε} (h : FirstFailure holds checks check)
    (hreports : reports check e) : Validates holds reports checks (.error e : Except ε α) result :=
  ⟨check, h, hreports⟩

/-- **Sequencing.** The second part checks only what passed the first. -/
theorem Validates.bind {next : α → Except ε β} {result' : β → Prop}
    (h : Validates holds reports checks program result)
    (hnext : ∀ a, result a → Validates holds reports checks' (next a) result') :
    Validates holds reports (checks ++ checks') (program >>= next) result' := by
  cases program with
  | error e =>
    obtain ⟨check, hfirst, hreports⟩ := h
    exact ⟨check, hfirst.append checks', hreports⟩
  | ok a =>
    obtain ⟨hchecks, ha⟩ := h
    have hsecond := hnext a ha
    change Validates holds reports (checks ++ checks') (next a) result'
    generalize next a = outcome at hsecond ⊢
    cases outcome with
    | error e =>
      obtain ⟨check, hfirst, hreports⟩ := hsecond
      exact ⟨check, hfirst.after hchecks, hreports⟩
    | ok b =>
      refine ⟨?_, hsecond.2⟩
      intro check hcheck
      rcases List.mem_append.mp hcheck with hcheck | hcheck
      · exact hchecks check hcheck
      · exact hsecond.1 check hcheck

/-- Checks that hold may stand before the others. -/
theorem Validates.after (h : Validates holds reports checks program result)
    (hbefore : ∀ check ∈ checks', holds check) :
    Validates holds reports (checks' ++ checks) program result := by
  have hpassed : Validates holds reports checks' (.ok () : Except ε Unit) fun _ => True :=
    .ok hbefore trivial
  exact hpassed.bind fun _ _ => h

/-- Success means that all checks hold. -/
theorem Validates.succeeds_iff (h : Validates holds reports checks program result) :
    (∃ a, program = .ok a) ↔ ∀ check ∈ checks, holds check := by
  cases program with
  | ok a => exact ⟨fun _ => h.1, fun _ => ⟨a, rfl⟩⟩
  | error e =>
    obtain ⟨check, ⟨passed, rest, rfl, -, hcheck⟩, -⟩ := h
    constructor
    · rintro ⟨a, ha⟩
      cases ha
    · intro hall
      exact absurd (hall check (by simp)) hcheck

theorem Validates.of_ok {a : α} (h : Validates holds reports checks program result)
    (hok : program = .ok a) : result a := by
  subst hok
  exact h.2

theorem Validates.of_error {e : ε} (h : Validates holds reports checks program result)
    (herror : program = .error e) : ∃ check, FirstFailure holds checks check ∧ reports check e := by
  subst herror
  exact h

end Validates

section Traversal

variable {ε α β : Type} {f : α → Except ε β} {as : List α}

/-- A sequence succeeds if both parts do. -/
theorem exists_of_bind_ok {program : Except ε α} {next : α → Except ε β} {b : β}
    (h : program >>= next = .ok b) : ∃ a, program = .ok a ∧ next a = .ok b := by
  cases program with
  | error e => cases h
  | ok a => exact ⟨a, rfl, h⟩

/-- A traversal succeeds if every element does. -/
theorem mapM_succeeds_iff : (∃ bs, as.mapM f = .ok bs) ↔ ∀ a ∈ as, ∃ b, f a = .ok b := by
  induction as with
  | nil =>
    constructor
    · intro _ a ha
      cases ha
    · intro _
      exact ⟨[], rfl⟩
  | cons a as ih =>
    rw [List.mapM_cons, List.forall_mem_cons, ← ih]
    cases hhead : f a with
    | error e => simp [bind, Except.bind]
    | ok b =>
      cases htail : as.mapM f with
      | error e => simp [bind, Except.bind]
      | ok bs => simp [bind, Except.bind, pure, Except.pure]

/-- A traversal fails with the error of the first element that fails. -/
theorem exists_of_mapM_error {e : ε} (h : as.mapM f = .error e) :
    ∃ before a after, as = before ++ a :: after ∧ (∀ b ∈ before, ∃ r, f b = .ok r) ∧
      f a = .error e := by
  induction as with
  | nil => cases h
  | cons a as ih =>
    rw [List.mapM_cons] at h
    cases hhead : f a with
    | error e' =>
      rw [hhead] at h
      cases h
      refine ⟨[], a, as, rfl, ?_, hhead⟩
      intro b hb
      cases hb
    | ok r =>
      rw [hhead] at h
      cases htail : as.mapM f with
      | ok rs =>
        rw [htail] at h
        cases h
      | error e' =>
        rw [htail] at h
        cases h
        obtain ⟨before, failing, after, rfl, hbefore, hfailing⟩ := ih htail
        refine ⟨a :: before, failing, after, rfl, ?_, hfailing⟩
        intro b hb
        rcases List.mem_cons.mp hb with rfl | hb
        · exact ⟨r, hhead⟩
        · exact hbefore b hb

/-- Errors may be translated in each part. -/
theorem mapError_bind {ε' : Type} (translate : ε → ε') (program : Except ε α)
    (next : α → Except ε β) :
    (program >>= next).mapError translate =
      program.mapError translate >>= fun a => (next a).mapError translate := by
  cases program <;> rfl

/-- Errors may be translated at each element. -/
theorem mapError_mapM {ε' : Type} (translate : ε → ε') (f : α → Except ε β) (as : List α) :
    (as.mapM f).mapError translate = as.mapM fun a => (f a).mapError translate := by
  induction as with
  | nil => rfl
  | cons a as ih =>
    rw [List.mapM_cons, List.mapM_cons, mapError_bind, ← ih]
    cases f a with
    | error e => rfl
    | ok b => cases as.mapM f <;> rfl

end Traversal

end Handycam
