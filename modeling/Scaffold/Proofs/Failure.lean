import Mathlib.Data.List.Forall2
import Scaffold.Failure

/-!
Contract: steps that may fail, one behind the other.

Owns:
- when two steps succeed together, and when they fail;
- when a step succeeds on every element of a list, and when it fails on one.
-/

namespace Scaffold

theorem except_bind_eq_ok
    {ε α β : Type}
    {first : Except ε α}
    {next : α → Except ε β}
    {result : β} :
    (first >>= next) = .ok result ↔ ∃ value, first = .ok value ∧ next value = .ok result := by
  cases first with
  | error failure => simp [bind, Except.bind]
  | ok value => simp [bind, Except.bind]

theorem except_bind_eq_error
    {ε α β : Type}
    {first : Except ε α}
    {next : α → Except ε β}
    {failure : ε} :
    (first >>= next) = .error failure
      ↔ first = .error failure ∨ ∃ value, first = .ok value ∧ next value = .error failure := by
  cases first with
  | error other => simp [bind, Except.bind]
  | ok value => simp [bind, Except.bind]

/-- Steps that all succeed, one for each element. -/
theorem except_mapM_eq_ok
    {ε α β : Type}
    {step : α → Except ε β}
    {elements : List α}
    {results : List β} :
    elements.mapM step = .ok results
      ↔ List.Forall₂ (fun element result => step element = .ok result) elements results := by
  induction elements generalizing results with
  | nil =>
      rw [List.mapM_nil, List.forall₂_nil_left_iff]
      simp [pure, Except.pure, eq_comm]
  | cons element rest inductionHypothesis =>
      rw [List.mapM_cons, except_bind_eq_ok, List.forall₂_cons_left_iff]
      constructor
      · rintro ⟨value, succeeds, restSucceeds⟩
        obtain ⟨values, valuesFound, returned⟩ := except_bind_eq_ok.mp restSucceeds
        cases returned
        exact ⟨value, values, succeeds, inductionHypothesis.mp valuesFound, rfl⟩
      · rintro ⟨value, values, succeeds, valuesFound, rfl⟩
        refine ⟨value, succeeds, ?_⟩
        rw [except_bind_eq_ok]
        exact ⟨values, inductionHypothesis.mpr valuesFound, rfl⟩

/-- Where steps fail together, the first that fails does so for the same reason. -/
theorem exists_first_of_except_mapM_eq_error
    {ε α β : Type}
    {step : α → Except ε β}
    {elements : List α}
    {failure : ε}
    (fails : elements.mapM step = .error failure) :
    ∃ before element after, elements = before ++ element :: after
      ∧ (∀ earlier ∈ before, ∃ result, step earlier = .ok result)
      ∧ step element = .error failure := by
  induction elements with
  | nil => cases fails
  | cons element rest inductionHypothesis =>
      rw [List.mapM_cons] at fails
      rcases except_bind_eq_error.mp fails with failsFirst | ⟨result, succeeds, failsLater⟩
      · exact ⟨[], element, rest, rfl, by simp, failsFirst⟩
      · rcases except_bind_eq_error.mp failsLater with failsRest | ⟨_, _, returns⟩
        · obtain ⟨before, other, after, rfl, succeed, failsOther⟩ := inductionHypothesis failsRest
          exact ⟨element :: before, other, after, rfl,
            List.forall_mem_cons.mpr ⟨⟨result, succeeds⟩, succeed⟩, failsOther⟩
        · cases returns

end Scaffold
