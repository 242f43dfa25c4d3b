import Mathlib.Tactic.Lemma

/-!
# Results

What is known of a result without an error: each of the results that it was made from is one too.
-/

namespace DocTables

/-- A result that was bound without an error comes from one without an error. -/
lemma exists_of_bind_eq_ok {ε α β : Type} {result : Except ε α} {next : α → Except ε β} {final : β}
    (h : result >>= next = .ok final) : ∃ value, result = .ok value ∧ next value = .ok final := by
  cases result with
  | error reason => cases h
  | ok value => exact ⟨value, rfl, h⟩

/-- The error of a result that was bound is that of one of its two parts. -/
lemma cases_of_bind_eq_error {ε α β : Type} {result : Except ε α} {next : α → Except ε β}
    {reason : ε} (h : result >>= next = .error reason) :
    result = .error reason ∨ ∃ value, result = .ok value ∧ next value = .error reason := by
  cases result with
  | error other => exact .inl (congrArg _ (Except.error.inj h))
  | ok value => exact .inr ⟨value, rfl, h⟩

/-- A result that was changed without an error comes from one without an error. -/
lemma exists_of_map_eq_ok {ε α β : Type} {result : Except ε α} {change : α → β} {final : β}
    (h : result.map change = .ok final) : ∃ value, result = .ok value ∧ change value = final := by
  cases result with
  | error reason => cases h
  | ok value => exact ⟨value, rfl, Except.ok.inj h⟩

/-- A result that is a value is one without an error. -/
lemma eq_ok_of_toOption {ε α : Type} {result : Except ε α} {value : α}
    (h : result.toOption = some value) : result = .ok value := by
  cases result with
  | error reason => cases h
  | ok value => exact congrArg Except.ok (Option.some.inj h)

/-- A result in which something is found is one without an error. -/
lemma eq_ok_of_toOption_join {ε α : Type} {result : Except ε (Option α)} {found : α}
    (h : result.toOption.join = some found) : result = .ok (some found) :=
  eq_ok_of_toOption (Option.join_eq_some_iff.mp h)

end DocTables
