import Mathlib.Data.List.Induction

/-!
Runs of a partial step, and properties of the state a run reaches that speak about everything
that happened on the way.
-/

namespace History

variable {S C : Type}

def run (step : S → C → Option S) (state : S) (inputs : List C) : Option S :=
  inputs.foldlM step state

variable {step : S → C → Option S}

theorem run_append (state : S) (before after : List C) :
    run step state (before ++ after) =
      (run step state before).bind fun last => run step last after := by
  simp only [run, List.foldlM_append]
  rfl

theorem run_snoc (state : S) (inputs : List C) (input : C) :
    run step state (inputs ++ [input]) = (run step state inputs).bind fun last => step last input := by
  simp only [run, List.foldlM_append, List.foldlM_cons, List.foldlM_nil, bind_pure]
  rfl

theorem run_snoc_some {state next : S} {inputs : List C} {input : C}
    (ran : run step state (inputs ++ [input]) = some next) :
    ∃ last, run step state inputs = some last ∧ step last input = some next := by
  rw [run_snoc] at ran
  exact Option.bind_eq_some_iff.mp ran

theorem run_through {start state last : S} {inputs before after : List C} {input : C}
    (ran : run step start inputs = some last) (split : inputs = before ++ input :: after)
    (reached : run step start before = some state) : ∃ next, step state input = some next := by
  rw [split, ← List.singleton_append, ← List.append_assoc, run_append] at ran
  obtain ⟨next, through, _⟩ := Option.bind_eq_some_iff.mp ran
  rw [run_snoc, reached] at through
  exact ⟨next, through⟩

/-- A property of a history and the state it leads to holds of every run if it holds at the
start and every step keeps it. -/
theorem run_invariant {start : S} {Inv : List C → S → Prop} (initial : Inv [] start)
    (preserved : ∀ {past state input next}, run step start past = some state → Inv past state →
      step state input = some next → Inv (past ++ [input]) next)
    {inputs : List C} {last : S} (ran : run step start inputs = some last) : Inv inputs last := by
  induction inputs using List.reverseRecOn generalizing last with
  | nil =>
      cases ran
      exact initial
  | append_singleton past input ih =>
      obtain ⟨state, before, stepped⟩ := run_snoc_some ran
      exact preserved before (ih before) stepped

/-- The property holds in every state a run comes through, its start and its end included. -/
def Always (step : S → C → Option S) (start : S) (inputs : List C) (P : S → Prop) : Prop :=
  ∀ before after state, inputs = before ++ after → run step start before = some state → P state

/-- The condition holds of every input, in the state in which the run meets it. -/
def Throughout (step : S → C → Option S) (start : S) (inputs : List C) (Good : S → C → Prop) :
    Prop :=
  ∀ before input after state, inputs = before ++ input :: after →
    run step start before = some state → Good state input

theorem throughout_nil {start : S} {Good : S → C → Prop} : Throughout step start [] Good := by
  intro before input after state split
  exact absurd split (by simp)

theorem throughout_cons {start : S} {input : C} {inputs : List C} {Good : S → C → Prop} :
    Throughout step start (input :: inputs) Good ↔
      Good start input ∧ ∀ next, step start input = some next → Throughout step next inputs Good := by
  constructor
  · intro good
    refine ⟨good [] input inputs start rfl rfl, ?_⟩
    intro next stepped before other after state split ran
    refine good (input :: before) other after state (congrArg _ split) ?_
    rw [run, List.foldlM_cons, stepped]
    exact ran
  · rintro ⟨here, onward⟩ before other after state split ran
    cases before with
    | nil =>
        cases split
        cases ran
        exact here
    | cons first before =>
        cases split
        rw [run, List.foldlM_cons] at ran
        obtain ⟨next, stepped, ran⟩ := Option.bind_eq_some_iff.mp ran
        exact onward next stepped before other after state rfl ran

theorem Throughout.before {start : S} {inputs later : List C} {Good : S → C → Prop}
    (good : Throughout step start (inputs ++ later) Good) : Throughout step start inputs Good := by
  intro before input after state split reached
  refine good before input (after ++ later) state ?_ reached
  rw [split, List.append_assoc, List.cons_append]

theorem Throughout.later {start state : S} {inputs later : List C} {Good : S → C → Prop}
    (good : Throughout step start (inputs ++ later) Good)
    (reached : run step start inputs = some state) : Throughout step state later Good := by
  intro before input after last split ran
  refine good (inputs ++ before) input after last ?_ ?_
  · rw [split, List.append_assoc]
  · rw [run_append, reached]
    exact ran

/-- The property holds of every step of the run, with the states before and after it. -/
def EveryStep (step : S → C → Option S) (start : S) (inputs : List C) (Q : S → C → S → Prop) :
    Prop :=
  ∀ before input after state next, inputs = before ++ input :: after →
    run step start before = some state → step state input = some next → Q state input next

theorem always_of_kept {start : S} {inputs : List C} {P : S → Prop} (initial : P start)
    (kept : EveryStep step start inputs fun state _ next => P state → P next) :
    Always step start inputs P := by
  intro before
  induction before using List.reverseRecOn with
  | nil =>
      intro after state split ran
      cases ran
      exact initial
  | append_singleton past input ih =>
      intro after state split ran
      rw [List.append_assoc, List.singleton_append] at split
      obtain ⟨middle, reached, stepped⟩ := run_snoc_some ran
      exact kept past input after middle state split reached stepped
        (ih (input :: after) middle split reached)

theorem Always.after {start : S} {inputs : List C} {P : S → Prop}
    (always : Always step start inputs P) : EveryStep step start inputs fun _ _ next => P next := by
  intro before input after state next split reached stepped
  refine always (before ++ [input]) after next ?_ ?_
  · rw [split, List.append_assoc, List.singleton_append]
  · rw [run_snoc, reached]
    exact stepped

theorem always_of_throughout {start : S} {inputs : List C} {P : S → Prop} {Good : S → C → Prop}
    (initial : P start)
    (preserved : ∀ {state input next}, Good state input → P state →
      step state input = some next → P next)
    (good : Throughout step start inputs Good) : Always step start inputs P := by
  refine always_of_kept initial ?_
  intro before input after state next split reached stepped holds
  exact preserved (good before input after state split reached) holds stepped

/-- If a step out of a state with the property keeps it exactly when the condition is met, then
the property holds all along exactly when every step that is taken meets the condition. -/
theorem always_iff_everyStep_good {start : S} {inputs : List C} {P : S → Prop}
    {Good : S → C → Prop} (initial : P start)
    (tight : ∀ {state input next}, P state → step state input = some next →
      (P next ↔ Good state input)) :
    Always step start inputs P ↔
      EveryStep step start inputs fun state input _ => Good state input := by
  constructor
  · intro always before input after state next split reached stepped
    have here := always before (input :: after) state split reached
    exact (tight here stepped).mp (always.after before input after state next split reached stepped)
  · intro good
    refine always_of_kept initial ?_
    intro before input after state next split reached stepped holds
    exact (tight holds stepped).mpr (good before input after state next split reached stepped)

theorem everyStep_good_iff_throughout {start last : S} {inputs : List C} {Good : S → C → Prop}
    (ran : run step start inputs = some last) :
    (EveryStep step start inputs fun state input _ => Good state input) ↔
      Throughout step start inputs Good := by
  constructor
  · intro every before input after state split reached
    obtain ⟨next, stepped⟩ := run_through ran split reached
    exact every before input after state next split reached stepped
  · intro good before input after state next split reached _
    exact good before input after state split reached

theorem always_iff_throughout {start last : S} {inputs : List C} {P : S → Prop}
    {Good : S → C → Prop} (initial : P start)
    (tight : ∀ {state input next}, P state → step state input = some next →
      (P next ↔ Good state input))
    (ran : run step start inputs = some last) :
    Always step start inputs P ↔ Throughout step start inputs Good :=
  (always_iff_everyStep_good initial tight).trans (everyStep_good_iff_throughout ran)

theorem everyStep_iff_throughout {start last : S} {inputs : List C} {P : S → Prop}
    {Q : S → C → S → Prop} {Good : S → C → Prop} (initial : P start)
    (sound : ∀ {state input next}, P state → step state input = some next → Good state input →
      Q state input next ∧ P next)
    (complete : ∀ {state input next}, P state → step state input = some next →
      Q state input next → Good state input)
    (ran : run step start inputs = some last) :
    EveryStep step start inputs Q ↔ Throughout step start inputs Good := by
  rw [← everyStep_good_iff_throughout ran]
  constructor
  · intro every
    have holds : Always step start inputs P := by
      refine always_of_kept initial ?_
      intro before input after state next split reached stepped here
      have good := complete here stepped (every before input after state next split reached stepped)
      exact (sound here stepped good).2
    intro before input after state next split reached stepped
    exact complete (holds before (input :: after) state split reached) stepped
      (every before input after state next split reached stepped)
  · intro good
    have holds : Always step start inputs P := by
      refine always_of_kept initial ?_
      intro before input after state next split reached stepped here
      exact (sound here stepped (good before input after state next split reached stepped)).2
    intro before input after state next split reached stepped
    exact (sound (holds before (input :: after) state split reached) stepped
      (good before input after state next split reached stepped)).1

theorem always_iff_everyStep {start : S} {inputs : List C} {P : S → Prop} (initial : P start) :
    Always step start inputs P ↔ EveryStep step start inputs fun _ _ next => P next := by
  constructor
  · exact Always.after
  · intro every
    refine always_of_kept initial ?_
    intro before input after state next split reached stepped _
    exact every before input after state next split reached stepped

end History
