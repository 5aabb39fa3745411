import Oxish.Lib.History

/-!
Runs that come to an end. A measure that every admissible step decreases bounds the length of a
run, and if every state that is not yet final admits a step, a final state can be reached from
wherever a run stands.
-/

namespace History

variable {S C : Type} {step : S → C → Option S} {P Final : S → Prop} {Good : S → C → Prop}
  {measure : S → Nat}

/-- What a step has to do so that a run can only go on for so long. -/
def Decreases (step : S → C → Option S) (P : S → Prop) (Good : S → C → Prop) (measure : S → Nat) :
    Prop :=
  ∀ ⦃state input next⦄, P state → Good state input → step state input = some next →
    P next ∧ measure next < measure state

theorem Throughout.head {start : S} {input : C} {inputs : List C}
    (good : Throughout step start (input :: inputs) Good) : Good start input :=
  good [] input inputs start rfl rfl

theorem Throughout.tail {start next : S} {input : C} {inputs : List C}
    (good : Throughout step start (input :: inputs) Good) (stepped : step start input = some next) :
    Throughout step next inputs Good := by
  intro before other after state split reached
  refine good (input :: before) other after state (by rw [split, List.cons_append]) ?_
  rw [run, List.foldlM_cons, stepped]
  exact reached

theorem length_add_measure_le (decreases : Decreases step P Good measure) {start last : S}
    {inputs : List C} (initial : P start) (good : Throughout step start inputs Good)
    (ran : run step start inputs = some last) :
    P last ∧ inputs.length + measure last ≤ measure start := by
  induction inputs generalizing start with
  | nil =>
      cases ran
      exact ⟨initial, by simp⟩
  | cons input inputs ih =>
      rw [run, List.foldlM_cons] at ran
      obtain ⟨next, stepped, rest⟩ := Option.bind_eq_some_iff.mp ran
      obtain ⟨kept, less⟩ := decreases initial good.head stepped
      obtain ⟨ended, bound⟩ := ih kept (good.tail stepped) rest
      refine ⟨ended, ?_⟩
      rw [List.length_cons]
      omega

theorem Throughout.cons {start next : S} {input : C} {inputs : List C} (good : Good start input)
    (stepped : step start input = some next) (rest : Throughout step next inputs Good) :
    Throughout step start (input :: inputs) Good := by
  intro before other after state split reached
  cases before with
  | nil =>
      cases split
      cases reached
      exact good
  | cons first before =>
      rw [List.cons_append] at split
      obtain ⟨rfl, later⟩ := List.cons.inj split
      rw [run, List.foldlM_cons, stepped] at reached
      exact rest before other after state later reached

/-- From a state with the property the run can be brought to a final state. -/
theorem exists_run_final (decreases : Decreases step P Good measure)
    (onward : ∀ {state}, P state → ¬ Final state →
      ∃ input next, Good state input ∧ step state input = some next)
    {start : S} (initial : P start) :
    ∃ inputs last, run step start inputs = some last ∧ Throughout step start inputs Good ∧
      Final last := by
  induction count : measure start using Nat.strongRecOn generalizing start with
  | ind count ih =>
      by_cases final : Final start
      · refine ⟨[], start, rfl, ?_, final⟩
        intro before input after state split
        cases List.nil_eq_append_iff.mp split with
        | intro _ other => cases other
      · obtain ⟨input, next, good, stepped⟩ := onward initial final
        obtain ⟨kept, less⟩ := decreases initial good stepped
        obtain ⟨inputs, last, ran, rest, ended⟩ := ih (measure next) (by omega) kept rfl
        refine ⟨input :: inputs, last, ?_, .cons good stepped rest, ended⟩
        rw [run, List.foldlM_cons, stepped]
        exact ran

end History
