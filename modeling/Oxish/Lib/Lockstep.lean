import Oxish.Lib.Stateful

/-!
Two computations side by side. They run in lockstep when, from every state, they leave the same
state and either stop for the same cause or end with related values.
-/

namespace Stateful

variable {ε τ α α' β β' ι : Type}

/-- Two outcomes that show the same, as far as the relation on the values goes. -/
def SameOutcome (R : α → α' → Prop) : Except ε α × τ → Except ε α' × τ → Prop
  | (.ok value, last), (.ok other, otherLast) => R value other ∧ last = otherLast
  | (.error cause, last), (.error otherCause, otherLast) => cause = otherCause ∧ last = otherLast
  | _, _ => False

def Lockstep (R : α → α' → Prop) (program : Run ε τ α) (other : Run ε τ α') : Prop :=
  ∀ state, SameOutcome R (exec program state) (exec other state)

variable {R : α → α' → Prop} {Q : β → β' → Prop}

theorem lockstep_pure {value : α} {other : α'} (related : R value other) :
    Lockstep R (pure value : Run ε τ α) (pure other) :=
  fun _ => ⟨related, rfl⟩

theorem lockstep_throw (cause : ε) : Lockstep R (throw cause : Run ε τ α) (throw cause) :=
  fun _ => ⟨rfl, rfl⟩

theorem lockstep_self (program : Run ε τ α) : Lockstep Eq program program := by
  intro state
  generalize exec program state = outcome
  obtain ⟨result, last⟩ := outcome
  cases result with
  | ok value => exact ⟨rfl, rfl⟩
  | error cause => exact ⟨rfl, rfl⟩

theorem Lockstep.bind {program : Run ε τ α} {other : Run ε τ α'} {next : α → Run ε τ β}
    {otherNext : α' → Run ε τ β'} (first : Lockstep R program other)
    (second : ∀ {value otherValue}, R value otherValue →
      Lockstep Q (next value) (otherNext otherValue)) :
    Lockstep Q (program >>= next) (other >>= otherNext) := by
  intro state
  have same := first state
  rw [exec_bind, exec_bind]
  generalize exec program state = outcome at same ⊢
  generalize exec other state = otherOutcome at same ⊢
  obtain ⟨result, last⟩ := outcome
  obtain ⟨otherResult, otherLast⟩ := otherOutcome
  cases result with
  | ok value =>
      cases otherResult with
      | ok otherValue =>
          obtain ⟨related, rfl⟩ := same
          exact second related last
      | error cause => exact same.elim
  | error cause =>
      cases otherResult with
      | ok otherValue => exact same.elim
      | error otherCause => exact same

theorem Lockstep.bind_self {program : Run ε τ ι} {next : ι → Run ε τ β}
    {otherNext : ι → Run ε τ β'} (second : ∀ value, Lockstep Q (next value) (otherNext value)) :
    Lockstep Q (program >>= next) (program >>= otherNext) := by
  refine (lockstep_self program).bind ?_
  rintro value _ rfl
  exact second value

theorem lockstep_foldlM {step : α → ι → Run ε τ α} {otherStep : α' → ι → Run ε τ α'}
    {inputs : List ι}
    (kept : ∀ input ∈ inputs, ∀ {value otherValue}, R value otherValue →
      Lockstep R (step value input) (otherStep otherValue input))
    {value : α} {other : α'} (related : R value other) :
    Lockstep R (inputs.foldlM step value) (inputs.foldlM otherStep other) := by
  induction inputs generalizing value other with
  | nil => exact lockstep_pure related
  | cons input rest ih =>
      rw [List.foldlM_cons, List.foldlM_cons]
      refine (kept input List.mem_cons_self related).bind ?_
      intro middle otherMiddle stillRelated
      exact ih (fun later member => kept later (List.mem_cons_of_mem _ member)) stillRelated

theorem Lockstep.mono {S : α → α' → Prop} {program : Run ε τ α} {other : Run ε τ α'}
    (lockstep : Lockstep R program other) (weaker : ∀ {value otherValue}, R value otherValue →
      S value otherValue) : Lockstep S program other := by
  intro state
  have same := lockstep state
  generalize exec program state = outcome at same ⊢
  generalize exec other state = otherOutcome at same ⊢
  obtain ⟨result, last⟩ := outcome
  obtain ⟨otherResult, otherLast⟩ := otherOutcome
  cases result with
  | ok value =>
      cases otherResult with
      | ok otherValue => exact ⟨weaker same.1, same.2⟩
      | error cause => exact same
  | error cause =>
      cases otherResult with
      | ok otherValue => exact same
      | error otherCause => exact same

end Stateful
