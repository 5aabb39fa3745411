import Mathlib.Data.Nat.Basic

/-!
Computations in which an operation out of its range is a fault, and the same computations without
the checks. The two agree when no fault occurs: the values are the same, an error is the same
error, and it is one of those that are allowed.
-/

namespace Faults

variable {ε δ α β : Type}

def sub (fault : δ) (left right : Nat) : Except δ Nat :=
  if right ≤ left then .ok (left - right) else .error fault

def expect (fault : δ) : Option α → Except δ α
  | some value => .ok value
  | none => .error fault

theorem sub_ok {fault : δ} {left right : Nat} (enough : right ≤ left) :
    sub fault left right = .ok (left - right) := if_pos enough

def Agrees (allowed : ε → Prop) (embed : ε → δ) (checked : Except δ α) (plain : Except ε α) : Prop :=
  match plain with
  | .ok value => checked = .ok value
  | .error cause => checked = .error (embed cause) ∧ allowed cause

variable {allowed : ε → Prop} {embed : ε → δ}

namespace Agrees

theorem ok (value : α) : Agrees allowed embed (.ok value) (.ok value) := rfl

theorem error {cause : ε} (permitted : allowed cause) :
    Agrees allowed embed (.error (embed cause) : Except δ α) (.error cause) := ⟨rfl, permitted⟩

theorem bind {checked : Except δ α} {plain : Except ε α} {next : α → Except δ β}
    {continued : α → Except ε β} (first : Agrees allowed embed checked plain)
    (second : ∀ value, plain = .ok value → Agrees allowed embed (next value) (continued value)) :
    Agrees allowed embed (checked >>= next) (plain >>= continued) := by
  cases plain with
  | ok value =>
      have same : checked = .ok value := first
      rw [same]
      exact second value rfl
  | error cause =>
      obtain ⟨same, permitted⟩ := first
      rw [same]
      exact ⟨rfl, permitted⟩

theorem map {checked : Except δ α} {plain : Except ε α} (first : Agrees allowed embed checked plain)
    (transform : α → β) : Agrees allowed embed (checked.map transform) (plain.map transform) := by
  cases plain with
  | ok value =>
      have same : checked = .ok value := first
      rw [same]
      rfl
  | error cause =>
      obtain ⟨same, permitted⟩ := first
      rw [same]
      exact ⟨rfl, permitted⟩

theorem ite {condition : Prop} [Decidable condition] {checked other : Except δ α}
    {plain rest : Except ε α} (yes : Agrees allowed embed checked plain)
    (no : Agrees allowed embed other rest) :
    Agrees allowed embed (if condition then checked else other)
      (if condition then plain else rest) := by
  by_cases holds : condition
  · rw [if_pos holds, if_pos holds]
    exact yes
  · rw [if_neg holds, if_neg holds]
    exact no

theorem mono {other : ε → Prop} {checked : Except δ α} {plain : Except ε α}
    (agrees : Agrees allowed embed checked plain) (weaker : ∀ cause, allowed cause → other cause) :
    Agrees other embed checked plain := by
  cases plain with
  | ok value => exact agrees
  | error cause => exact ⟨agrees.1, weaker cause agrees.2⟩

theorem allowed_error {checked : Except δ α} {plain : Except ε α} {cause : ε}
    (agrees : Agrees allowed embed checked plain) (failed : plain = .error cause) :
    allowed cause := by
  subst failed
  exact agrees.2

theorem accepted {checked : Except δ α} {plain : Except ε α} {value : α}
    (agrees : Agrees allowed embed checked plain) (done : checked = .ok value) :
    plain = .ok value := by
  cases plain with
  | ok other =>
      have same : checked = .ok other := agrees
      cases same.symm.trans done
      rfl
  | error cause =>
      have same : checked = .error (embed cause) := agrees.1
      rw [done] at same
      cases same

theorem stopped {checked : Except δ α} {plain : Except ε α} {fault : δ}
    (agrees : Agrees allowed embed checked plain) (ended : checked = .error fault) :
    ∃ cause, fault = embed cause ∧ plain = .error cause ∧ allowed cause := by
  cases plain with
  | ok value =>
      have same : checked = .ok value := agrees
      rw [ended] at same
      cases same
  | error cause =>
      obtain ⟨same, permitted⟩ := agrees
      rw [ended] at same
      cases same
      exact ⟨cause, rfl, rfl, permitted⟩

end Agrees

end Faults
