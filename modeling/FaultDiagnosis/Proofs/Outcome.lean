import Mathlib.Data.List.Forall2

/-!
# Success of a computation that may fail

Checks, loading and contributing all answer with an `Except`. What is said about them elsewhere is
mostly *when* they succeed, and the lemmas here take such a statement apart: a sequence succeeds
exactly when its steps do (`Outcome.bind_eq_ok`), and a guard exactly when its condition fails
(`Outcome.guard_eq_ok`).
-/

namespace FaultDiagnosis.Outcome

variable {ε ε' α β : Type}

/-- **A sequence succeeds exactly when both of its steps do.** -/
theorem bind_eq_ok {x : Except ε α} {f : α → Except ε β} {b : β} :
    (x >>= f) = .ok b ↔ ∃ a, x = .ok a ∧ f a = .ok b := by
  cases x with
  | error e => simp [bind, Except.bind]
  | ok a => simp [bind, Except.bind]

/-- A check in front of a computation has to pass, and adds nothing else. -/
theorem then_eq_ok {x : Except ε Unit} {k : Except ε β} {b : β} :
    (x >>= fun _ => k) = .ok b ↔ x = .ok () ∧ k = .ok b := by
  rw [bind_eq_ok]
  exact ⟨fun ⟨_, hx, hk⟩ => ⟨hx, hk⟩, fun ⟨hx, hk⟩ => ⟨(), hx, hk⟩⟩

theorem pure_eq_ok {a b : α} : (pure a : Except ε α) = .ok b ↔ a = b := by
  simp [pure, Except.pure]

theorem throw_ne_ok {e : ε} {a : α} : (throw e : Except ε α) ≠ .ok a := by
  intro h
  cases h

theorem mapError_eq_ok {x : Except ε α} {f : ε → ε'} {a : α} :
    x.mapError f = .ok a ↔ x = .ok a := by
  cases x with
  | error e =>
    constructor
    · rintro ⟨⟩
    · rintro ⟨⟩
  | ok b =>
    constructor
    · rintro ⟨⟩
      rfl
    · rintro ⟨⟩
      rfl

/-- A guard in front of a computation lets it run exactly when its condition fails. -/
theorem guard_eq_ok {c : Prop} [Decidable c] {e : ε} {f : β → Except ε α} {k : Except ε α} {a : α} :
    (if c then (throw e : Except ε β) >>= f else k) = .ok a ↔ ¬c ∧ k = .ok a := by
  by_cases h : c
  · simp [h, bind, Except.bind, throw, throwThe, MonadExceptOf.throw]
  · simp [h]

/-- A guard at the end of a computation. -/
theorem guard_last_eq_ok {c : Prop} [Decidable c] {e : ε} {u : Unit} :
    (if c then (throw e : Except ε Unit) else pure ()) = .ok u ↔ ¬c := by
  by_cases h : c
  · simp [h, throw, throwThe, MonadExceptOf.throw]
  · simp [h, pure, Except.pure]

/-- A computation for every element of a list succeeds exactly when each one does. -/
theorem mapM_eq_ok_iff {f : α → Except ε β} {as : List α} {bs : List β} :
    as.mapM f = .ok bs ↔ List.Forall₂ (fun a b => f a = .ok b) as bs := by
  induction as generalizing bs with
  | nil =>
    rw [List.mapM_nil, pure_eq_ok, List.forall₂_nil_left_iff]
    exact eq_comm
  | cons a as ih =>
    simp only [List.mapM_cons, bind_eq_ok, pure_eq_ok, ih, List.forall₂_cons_left_iff]
    constructor
    · rintro ⟨b, hb, bs', hbs', rfl⟩
      exact ⟨b, bs', hb, hbs', rfl⟩
    · rintro ⟨b, bs', hb, hbs', rfl⟩
      exact ⟨b, hb, bs', hbs', rfl⟩

end FaultDiagnosis.Outcome
