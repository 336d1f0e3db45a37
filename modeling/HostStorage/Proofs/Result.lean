import Mathlib.Data.List.Forall2

/-!
# Results in sequence

A step that may fail, followed by another one or taken for each element of a list: when all of them
succeed, and which error is surfaced.
-/
namespace HostStorage

variable {ε α β : Type}

/-- A step that has a value has succeeded with it. -/
theorem eq_ok_of_toOption {step : Except ε α} {a : α} (told : step.toOption = some a) :
    step = .ok a := by
  cases step with
  | error e => cases told
  | ok b =>
    cases told
    rfl

/-- Two steps succeed when the first one does and the second one does with its value. -/
theorem bind_eq_ok_iff {step : Except ε α} {next : α → Except ε β} {b : β} :
    (step >>= next) = .ok b ↔ ∃ a, step = .ok a ∧ next a = .ok b := by
  cases step with
  | error e => simp [bind, Except.bind]
  | ok a => simp [bind, Except.bind]

/-- Two steps fail with the error of the first one, or of the second one after a success. -/
theorem bind_eq_error_iff {step : Except ε α} {next : α → Except ε β} {e : ε} :
    (step >>= next) = .error e ↔ step = .error e ∨ ∃ a, step = .ok a ∧ next a = .error e := by
  cases step with
  | error failure => simp [bind, Except.bind]
  | ok a => simp [bind, Except.bind]

/-- A step for each element of a list succeeds when each one does. -/
theorem mapM_eq_ok_iff {step : α → Except ε β} {xs : List α} {ys : List β} :
    xs.mapM step = .ok ys ↔ List.Forall₂ (fun x y => step x = .ok y) xs ys := by
  induction xs generalizing ys with
  | nil => cases ys <;> simp [pure, Except.pure]
  | cons x rest ih =>
    simp only [List.mapM_cons, bind_eq_ok_iff, ih, pure, Except.pure, Except.ok.injEq]
    cases ys with
    | nil => simp
    | cons y others =>
      rw [List.forall₂_cons]
      constructor
      · rintro ⟨b, succeeded, bs, tail, same⟩
        cases same
        exact ⟨succeeded, tail⟩
      · rintro ⟨succeeded, tail⟩
        exact ⟨y, succeeded, others, tail, rfl⟩

/-- A step for each element of a list fails with the error of the first one that fails. -/
theorem mapM_eq_error_iff {step : α → Except ε β} {xs : List α} {e : ε} :
    xs.mapM step = .error e ↔ ∃ before x after, xs = before ++ x :: after ∧
      (∀ earlier ∈ before, ∃ b, step earlier = .ok b) ∧ step x = .error e := by
  induction xs with
  | nil => simp [pure, Except.pure]
  | cons x rest ih =>
    rw [List.mapM_cons, bind_eq_error_iff]
    constructor
    · rintro (failed | ⟨b, succeeded, failed⟩)
      · exact ⟨[], x, rest, rfl, by simp, failed⟩
      · rw [bind_eq_error_iff, ih] at failed
        rcases failed with ⟨before, y, after, rfl, earlier, failed⟩ | ⟨bs, _, failed⟩
        · refine ⟨x :: before, y, after, rfl, ?_, failed⟩
          exact List.forall_mem_cons.2 ⟨⟨b, succeeded⟩, earlier⟩
        · cases failed
    · rintro ⟨before, y, after, whole, earlier, failed⟩
      cases before with
      | nil =>
        cases whole
        exact Or.inl failed
      | cons first before =>
        cases whole
        obtain ⟨⟨b, succeeded⟩, earlier⟩ := List.forall_mem_cons.1 earlier
        refine Or.inr ⟨b, succeeded, bind_eq_error_iff.2 (Or.inl (ih.2 ?_))⟩
        exact ⟨before, y, after, rfl, earlier, failed⟩

end HostStorage
