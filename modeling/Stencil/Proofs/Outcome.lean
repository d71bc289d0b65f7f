/-!
# Outcomes

Functions that may fail return either a result or the reason of the failure.
This file says when such a function succeeds if it is built from another one.
-/

namespace Stencil.Outcome

variable {Reason Input Output : Type}

theorem map_eq_ok_iff {function : Input → Output} {outcome : Except Reason Input}
    {output : Output} :
    outcome.map function = .ok output ↔ ∃ input, outcome = .ok input ∧ function input = output := by
  cases outcome with
  | error reason => simp [Except.map]
  | ok input => simp [Except.map]

theorem map_eq_error_iff {function : Input → Output} {outcome : Except Reason Input}
    {reason : Reason} : outcome.map function = .error reason ↔ outcome = .error reason := by
  cases outcome with
  | error other => simp [Except.map]
  | ok input => simp [Except.map]

@[simp]
theorem mapError_error {Other : Type} (function : Reason → Other) (reason : Reason) :
    (.error reason : Except Reason Output).mapError function = .error (function reason) := rfl

@[simp]
theorem mapError_ok {Other : Type} (function : Reason → Other) (output : Output) :
    (.ok output : Except Reason Output).mapError function = .ok output := rfl

theorem mapError_eq_ok_iff {Other : Type} {function : Reason → Other}
    {outcome : Except Reason Output} {output : Output} :
    outcome.mapError function = .ok output ↔ outcome = .ok output := by
  cases outcome with
  | error reason => simp
  | ok found => simp

theorem mapError_eq_error_iff {Other : Type} {function : Reason → Other}
    {outcome : Except Reason Output} {other : Other} :
    outcome.mapError function = .error other ↔
      ∃ reason, outcome = .error reason ∧ function reason = other := by
  cases outcome with
  | error reason => simp
  | ok found => simp

theorem mapError_map {Other : Type} (onReason : Reason → Other) (function : Input → Output)
    (outcome : Except Reason Input) :
    (outcome.map function).mapError onReason = (outcome.mapError onReason).map function := by
  cases outcome with
  | error reason => rfl
  | ok input => rfl

theorem bind_eq_ok_iff {next : Input → Except Reason Output} {outcome : Except Reason Input}
    {output : Output} :
    outcome >>= next = .ok output ↔ ∃ input, outcome = .ok input ∧ next input = .ok output := by
  cases outcome with
  | error reason => simp [bind, Except.bind]
  | ok input => simp [bind, Except.bind]

theorem ite_error_eq_ok_iff {condition : Prop} [Decidable condition] {reason : Reason}
    {result output : Output} :
    (if condition then .ok result else .error reason) = (.ok output : Except Reason Output) ↔
      condition ∧ result = output := by
  by_cases holds : condition
  · simp [holds]
  · simp [holds]

end Stencil.Outcome
