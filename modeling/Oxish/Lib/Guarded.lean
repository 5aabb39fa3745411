import Mathlib.Data.List.Basic

/-!
Machines that accept their inputs in turn and fail closed. A live machine is at a numbered
stage; an accepted input is one the stage allows and moves the machine to the following stage,
and a refused input stops it for good. What a whole run can look like follows from the step.
-/

namespace Guarded

structure Machine (S C R : Type) where
  step : S → C → S × R
  accepted : R → Bool
  stage : S → Option Nat
  following : Nat → Option Nat
  Allowed : Nat → C → R → Prop
  closed : R
  allowed_of_accepted : ∀ {state input number}, stage state = some number →
    accepted (step state input).2 = true → Allowed number input (step state input).2
  stage_of_accepted : ∀ {state input number}, stage state = some number →
    accepted (step state input).2 = true → stage (step state input).1 = following number
  stage_of_refused : ∀ {state input},
    accepted (step state input).2 = false → stage (step state input).1 = none
  closed_of_stopped : ∀ {state input}, stage state = none → (step state input).2 = closed
  closed_refused : accepted closed = false

namespace Machine

variable {S C R : Type} (machine : Machine S C R)

def run : S → List C → List R × S
  | state, [] => ([], state)
  | state, input :: inputs =>
    let (next, result) := machine.step state input
    let (results, last) := run next inputs
    (result :: results, last)

def results (state : S) (inputs : List C) : List R := (machine.run state inputs).1

def after (state : S) (inputs : List C) : S := (machine.run state inputs).2

def stageAfter (start : Option Nat) : Nat → Option Nat
  | 0 => start
  | count + 1 => (start.bind machine.following).elim none fun next =>
    stageAfter (some next) count

theorem results_cons (state : S) (input : C) (inputs : List C) :
    machine.results state (input :: inputs) =
      (machine.step state input).2 :: machine.results (machine.step state input).1 inputs := rfl

theorem after_cons (state : S) (input : C) (inputs : List C) :
    machine.after state (input :: inputs) =
      machine.after (machine.step state input).1 inputs := rfl

theorem stageAfter_succ (number count : Nat) :
    machine.stageAfter (some number) (count + 1) =
      machine.stageAfter (machine.following number) count := by
  cases next : machine.following number with
  | none =>
      simp only [stageAfter, Option.bind_some, next, Option.elim_none]
      cases count with
      | zero => rfl
      | succ count => rfl
  | some following => simp only [stageAfter, Option.bind_some, next, Option.elim_some]

theorem length_results (state : S) (inputs : List C) :
    (machine.results state inputs).length = inputs.length := by
  induction inputs generalizing state with
  | nil => rfl
  | cons input inputs ih => rw [results_cons, List.length_cons, List.length_cons, ih]

theorem stopped_run {state : S} (stopped : machine.stage state = none) (inputs : List C) :
    (∀ result ∈ machine.results state inputs, result = machine.closed) ∧
      machine.stage (machine.after state inputs) = none := by
  induction inputs generalizing state with
  | nil =>
      refine ⟨fun result member => ?_, stopped⟩
      cases member
  | cons input inputs ih =>
      have answer : (machine.step state input).2 = machine.closed :=
        machine.closed_of_stopped stopped
      have refused : machine.accepted (machine.step state input).2 = false :=
        answer ▸ machine.closed_refused
      obtain ⟨others, last⟩ := ih (machine.stage_of_refused refused)
      refine ⟨fun result member => ?_, last⟩
      rw [results_cons] at member
      rcases List.mem_cons.mp member with rfl | member
      · exact answer
      · exact others result member

theorem stopped_not_accepted {state : S} (stopped : machine.stage state = none)
    {inputs : List C} {index : Nat} {result : R}
    (found : (machine.results state inputs)[index]? = some result) :
    machine.accepted result = false := by
  have answer := (machine.stopped_run stopped inputs).1 result (List.mem_of_getElem? found)
  exact answer ▸ machine.closed_refused

theorem stage_after_step {state : S} {number : Nat} (live : machine.stage state = some number)
    (input : C) :
    machine.stage (machine.step state input).1 = machine.following number ∨
      machine.stage (machine.step state input).1 = none := by
  cases first : machine.accepted (machine.step state input).2 with
  | true => exact Or.inl (machine.stage_of_accepted live first)
  | false => exact Or.inr (machine.stage_of_refused first)

theorem result_at {state : S} {number : Nat} (live : machine.stage state = some number)
    (inputs : List C) {index : Nat} {input : C} {result : R}
    (given : inputs[index]? = some input)
    (found : (machine.results state inputs)[index]? = some result) :
    (∃ stage current, machine.stageAfter (some number) index = some stage ∧
      machine.stage current = some stage ∧ result = (machine.step current input).2) ∨
    result = machine.closed := by
  induction inputs generalizing state number index with
  | nil => cases given
  | cons first inputs ih =>
      rw [results_cons] at found
      cases index with
      | zero =>
          simp only [List.getElem?_cons_zero, Option.some.injEq] at given found
          subst given found
          exact Or.inl ⟨number, state, rfl, live, rfl⟩
      | succ index =>
          rw [List.getElem?_cons_succ] at given found
          rw [stageAfter_succ]
          cases moved : machine.stage (machine.step state first).1 with
          | none =>
              have stopped := machine.stopped_run moved inputs
              exact Or.inr (stopped.1 result (List.mem_of_getElem? found))
          | some next =>
              rcases machine.stage_after_step live first with following | stopped
              · rw [← following, moved]
                exact ih moved given found
              · rw [stopped] at moved
                cases moved

theorem closed_forever {state : S} {number : Nat} (live : machine.stage state = some number)
    (inputs : List C) {index later : Nat} {result other : R}
    (found : (machine.results state inputs)[index]? = some result)
    (ended : machine.accepted result = false ∨
      machine.stageAfter (some number) (index + 1) = none)
    (order : index < later)
    (foundLater : (machine.results state inputs)[later]? = some other) :
    other = machine.closed := by
  induction inputs generalizing state number index later with
  | nil => cases found
  | cons input inputs ih =>
      rw [results_cons] at found foundLater
      obtain ⟨later, rfl⟩ := Nat.exists_eq_succ_of_ne_zero (Nat.ne_zero_of_lt order)
      rw [List.getElem?_cons_succ] at foundLater
      cases moved : machine.stage (machine.step state input).1 with
      | none =>
          have stopped := machine.stopped_run moved inputs
          exact stopped.1 other (List.mem_of_getElem? foundLater)
      | some next =>
          have following := machine.stage_after_step live input
          rw [moved] at following
          obtain following | stopped := following
          · cases index with
            | zero =>
                exfalso
                simp only [List.getElem?_cons_zero, Option.some.injEq] at found
                rcases ended with refused | past
                · rw [machine.stage_of_refused (found ▸ refused)] at moved
                  cases moved
                · rw [stageAfter_succ, ← following] at past
                  cases past
            | succ index =>
                rw [List.getElem?_cons_succ] at found
                rw [stageAfter_succ, ← following] at ended
                exact ih moved found ended (by omega) foundLater
          · cases stopped

theorem accepted_run {state : S} {number : Nat} (live : machine.stage state = some number)
    (inputs : List C) {index : Nat} {result : R}
    (found : (machine.results state inputs)[index]? = some result)
    (accepted : machine.accepted result = true) {earlier : Nat} (order : earlier ≤ index) :
    ∃ stage input output, machine.stageAfter (some number) earlier = some stage ∧
      inputs[earlier]? = some input ∧
      (machine.results state inputs)[earlier]? = some output ∧
      machine.accepted output = true ∧ machine.Allowed stage input output := by
  induction inputs generalizing state number index earlier with
  | nil => simp [results, run] at found
  | cons input inputs ih =>
      rw [results_cons] at found ⊢
      have first : machine.accepted (machine.step state input).2 = true := by
        by_contra refused
        have stopped := machine.stage_of_refused (Bool.eq_false_iff.mpr refused)
        cases index with
        | zero =>
            simp only [List.getElem?_cons_zero, Option.some.injEq] at found
            exact refused (found ▸ accepted)
        | succ index =>
            rw [List.getElem?_cons_succ] at found
            exact Bool.false_ne_true ((machine.stopped_not_accepted stopped found).symm.trans accepted)
      cases earlier with
      | zero =>
          exact ⟨number, input, _, rfl, rfl, rfl, first,
            machine.allowed_of_accepted live first⟩
      | succ earlier =>
          cases index with
          | zero => omega
          | succ index =>
              rw [List.getElem?_cons_succ] at found
              have moved := machine.stage_of_accepted live first
              cases next : machine.following number with
              | none =>
                  rw [next] at moved
                  have refused := machine.stopped_not_accepted moved found
                  rw [accepted] at refused
                  cases refused
              | some following =>
                  rw [next] at moved
                  rw [stageAfter_succ, next, List.getElem?_cons_succ, List.getElem?_cons_succ]
                  exact ih moved found (by omega)

theorem stage_after {state : S} {number : Nat} (live : machine.stage state = some number)
    (inputs : List C) :
    ((∀ result ∈ machine.results state inputs, machine.accepted result = true) →
      machine.stage (machine.after state inputs) =
        machine.stageAfter (some number) inputs.length) ∧
    ((∃ result ∈ machine.results state inputs, machine.accepted result = false) →
      machine.stage (machine.after state inputs) = none) := by
  induction inputs generalizing state number with
  | nil =>
      refine ⟨fun _ => live, fun ⟨result, member, _⟩ => ?_⟩
      cases member
  | cons input inputs ih =>
      rw [results_cons, after_cons]
      cases first : machine.accepted (machine.step state input).2 with
      | false =>
          have stopped := machine.stage_of_refused first
          refine ⟨fun all => ?_, fun _ => (machine.stopped_run stopped inputs).2⟩
          have accepted := all _ List.mem_cons_self
          rw [first] at accepted
          cases accepted
      | true =>
          have moved := machine.stage_of_accepted live first
          cases next : machine.following number with
          | none =>
              rw [next] at moved
              obtain ⟨_, last⟩ := machine.stopped_run moved inputs
              refine ⟨fun _ => ?_, fun _ => last⟩
              rw [last, List.length_cons, stageAfter_succ, next]
              cases inputs.length with
              | zero => rfl
              | succ count => rfl
          | some following =>
              rw [next] at moved
              obtain ⟨going, broken⟩ := ih moved
              refine ⟨fun all => ?_, ?_⟩
              · rw [List.length_cons, stageAfter_succ, next]
                exact going fun result member => all result (List.mem_cons_of_mem _ member)
              · rintro ⟨result, member, refused⟩
                rcases List.mem_cons.mp member with rfl | member
                · rw [first] at refused
                  cases refused
                · exact broken ⟨result, member, refused⟩

end Machine

end Guarded
