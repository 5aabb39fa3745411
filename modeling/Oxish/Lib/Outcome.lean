import Mathlib.Data.List.Basic

/-! Sequencing of computations that return a value or stop: how a bind evaluates, and what
its success says about the two parts. -/

namespace Outcome

variable {ε α β : Type}

@[simp] theorem ok_bind (value : α) (next : α → Except ε β) :
    (Except.ok value >>= next) = next value := rfl

@[simp] theorem error_bind (cause : ε) (next : α → Except ε β) :
    (Except.error cause >>= next) = Except.error cause := rfl

@[simp] theorem map_ok (value : α) (transform : α → β) :
    (Except.ok value : Except ε α).map transform = .ok (transform value) := rfl

@[simp] theorem map_error (cause : ε) (transform : α → β) :
    (Except.error cause : Except ε α).map transform = .error cause := rfl

theorem bind_eq_ok {first : Except ε α} {next : α → Except ε β} {result : β} :
    (first >>= next) = .ok result ↔ ∃ value, first = .ok value ∧ next value = .ok result := by
  cases first with
  | error cause => simp
  | ok value => simp

theorem bind_eq_error {first : Except ε α} {next : α → Except ε β} {cause : ε} :
    (first >>= next) = .error cause ↔
      first = .error cause ∨ ∃ value, first = .ok value ∧ next value = .error cause := by
  cases first with
  | error other => simp
  | ok value => simp

theorem bind_of_ok {first : Except ε α} {value : α} (done : first = .ok value)
    (next : α → Except ε β) : (first >>= next) = next value := by
  rw [done, ok_bind]

theorem bind_ok {first : Except ε α} {next : α → Except ε β} {value : α} {result : β}
    (done : first = .ok value) (rest : next value = .ok result) : (first >>= next) = .ok result :=
  bind_eq_ok.mpr ⟨value, done, rest⟩

theorem map_eq_ok {outcome : Except ε α} {transform : α → β} {result : β} :
    outcome.map transform = .ok result ↔ ∃ value, outcome = .ok value ∧ transform value = result := by
  cases outcome with
  | error cause => simp
  | ok value => simp

theorem isOk_iff {outcome : Except ε α} : outcome.isOk = true ↔ ∃ value, outcome = .ok value := by
  cases outcome with
  | error cause => simp [Except.isOk, Except.toBool]
  | ok value => simp [Except.isOk, Except.toBool]

theorem not_isOk_iff {outcome : Except ε α} :
    outcome.isOk = false ↔ ∃ cause, outcome = .error cause := by
  cases outcome with
  | error cause => simp [Except.isOk, Except.toBool]
  | ok value => simp [Except.isOk, Except.toBool]

end Outcome
