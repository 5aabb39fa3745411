import Mathlib.Data.List.Basic
import Mathlib.Logic.Relation

/-!
Computations that change a state and may stop. The state survives a stop. A computation is
run from a state to its outcome and the state it leaves; running a bind runs its two parts.
A computation stays within a step relation when every run that succeeds is a series of such
steps; whatever a step keeps, it keeps. A computation that is built from primitives has every
property that its primitives have and that sequencing keeps.
-/

namespace Stateful

abbrev Run (ε τ α : Type) := ExceptT ε (StateM τ) α

variable {ε τ α β : Type}

def exec (program : Run ε τ α) (state : τ) : Except ε α × τ := program.run.run state

@[simp] theorem exec_pure (value : α) (state : τ) :
    exec (pure value : Run ε τ α) state = (.ok value, state) := rfl

@[simp] theorem exec_throw (cause : ε) (state : τ) :
    exec (throw cause : Run ε τ α) state = (.error cause, state) := rfl

theorem exec_mk (step : τ → Except ε α × τ) (state : τ) :
    exec (ExceptT.mk step : Run ε τ α) state = step state := rfl

theorem exec_bind (program : Run ε τ α) (next : α → Run ε τ β) (state : τ) :
    exec (program >>= next) state =
      match exec program state with
      | (.ok value, middle) => exec (next value) middle
      | (.error cause, middle) => (.error cause, middle) := by
  simp only [exec, ExceptT.run_bind, StateT.run_bind]
  change (match program.run.run state with
    | (result, middle) => _) = _
  generalize program.run.run state = outcome
  obtain ⟨result, middle⟩ := outcome
  cases result with
  | ok value => rfl
  | error cause => rfl

theorem exec_map (f : α → β) (program : Run ε τ α) (state : τ) :
    exec (f <$> program) state = ((exec program state).1.map f, (exec program state).2) := by
  rw [map_eq_pure_bind, exec_bind]
  generalize exec program state = outcome
  obtain ⟨result, last⟩ := outcome
  cases result with
  | ok value => rfl
  | error cause => rfl

theorem exec_bind_ok {program : Run ε τ α} {next : α → Run ε τ β} {state last : τ} {result : β} :
    exec (program >>= next) state = (.ok result, last) ↔
      ∃ value middle, exec program state = (.ok value, middle) ∧
        exec (next value) middle = (.ok result, last) := by
  rw [exec_bind]
  generalize exec program state = outcome
  obtain ⟨first, middle⟩ := outcome
  cases first with
  | ok value => simp
  | error cause => simp

theorem exec_bind_error {program : Run ε τ α} {next : α → Run ε τ β} {state last : τ} {cause : ε} :
    exec (program >>= next) state = (.error cause, last) ↔
      exec program state = (.error cause, last) ∨
        ∃ value middle, exec program state = (.ok value, middle) ∧
          exec (next value) middle = (.error cause, last) := by
  rw [exec_bind]
  generalize exec program state = outcome
  obtain ⟨first, middle⟩ := outcome
  cases first with
  | ok value => simp
  | error other => simp

section Within

variable {step : τ → τ → Prop}

def Within (step : τ → τ → Prop) (program : Run ε τ α) : Prop :=
  ∀ ⦃state value last⦄, exec program state = (.ok value, last) →
    Relation.ReflTransGen step state last

theorem within_pure (value : α) : Within step (pure value : Run ε τ α) := by
  intro state other last done
  obtain ⟨_, rfl⟩ := Prod.mk.inj done
  exact .refl

theorem within_throw (cause : ε) : Within step (throw cause : Run ε τ α) := by
  intro state value last done
  cases done

theorem Within.bind {program : Run ε τ α} {next : α → Run ε τ β} (first : Within step program)
    (second : ∀ value, Within step (next value)) : Within step (program >>= next) := by
  intro state result last done
  obtain ⟨value, middle, ran, rest⟩ := exec_bind_ok.mp done
  exact (first ran).trans (second value rest)

theorem kept {Inv : τ → Prop} {state last : τ} (steps : Relation.ReflTransGen step state last)
    (keeps : ∀ {before after}, step before after → Inv before → Inv after) (start : Inv state) :
    Inv last := by
  induction steps with
  | refl => exact start
  | tail _ moved ih => exact keeps moved ih

end Within

section Ensures

variable {pre : τ → Prop} {stop : τ → Prop}

/-- From a state with the precondition a run ends with its value and the postcondition, or it
stops in a state of which `stop` holds. -/
def Ensures (pre : τ → Prop) (program : Run ε τ α) (post : α → τ → Prop) (stop : τ → Prop) : Prop :=
  ∀ ⦃state⦄, pre state →
    match exec program state with
    | (.ok value, last) => post value last
    | (.error _, last) => stop last

theorem Ensures.ok {program : Run ε τ α} {post : α → τ → Prop} {state last : τ} {value : α}
    (ensures : Ensures pre program post stop) (start : pre state)
    (done : exec program state = (.ok value, last)) : post value last := by
  have ended := ensures start
  rw [done] at ended
  exact ended

theorem Ensures.error {program : Run ε τ α} {post : α → τ → Prop} {state last : τ} {cause : ε}
    (ensures : Ensures pre program post stop) (start : pre state)
    (failed : exec program state = (.error cause, last)) : stop last := by
  have ended := ensures start
  rw [failed] at ended
  exact ended

theorem ensures_of_cases {program : Run ε τ α} {post : α → τ → Prop}
    (ok : ∀ {state value last}, pre state → exec program state = (.ok value, last) →
      post value last)
    (error : ∀ {state cause last}, pre state → exec program state = (.error cause, last) →
      stop last) : Ensures pre program post stop := by
  intro state start
  split
  · rename_i value last done
    exact ok start done
  · rename_i cause last failed
    exact error start failed

theorem ensures_pure {post : α → τ → Prop} {value : α} (holds : ∀ state, pre state → post value state) :
    Ensures pre (pure value : Run ε τ α) post stop := by
  intro state start
  exact holds state start

theorem ensures_throw {post : α → τ → Prop} (cause : ε) (holds : ∀ state, pre state → stop state) :
    Ensures pre (throw cause : Run ε τ α) post stop := by
  intro state start
  exact holds state start

theorem Ensures.bind {program : Run ε τ α} {next : α → Run ε τ β} {middle : α → τ → Prop}
    {post : β → τ → Prop} (first : Ensures pre program middle stop)
    (second : ∀ value, Ensures (middle value) (next value) post stop) :
    Ensures pre (program >>= next) post stop := by
  intro state start
  have ended := first start
  rw [exec_bind]
  split at ended
  · rename_i value between done
    exact second value ended
  · exact ended

theorem Ensures.mono {program : Run ε τ α} {weaker : τ → Prop} {post after : α → τ → Prop}
    {halt : τ → Prop} (ensures : Ensures pre program post stop)
    (before : ∀ state, weaker state → pre state) (ok : ∀ value state, post value state → after value state)
    (error : ∀ state, stop state → halt state) : Ensures weaker program after halt := by
  apply ensures_of_cases
  · intro state value last start done
    exact ok value last (ensures.ok (before state start) done)
  · intro state cause last start failed
    exact error last (ensures.error (before state start) failed)

theorem ensures_exists {ι : Type} {given : ι → τ → Prop} {program : Run ε τ α}
    {post : α → τ → Prop} (ensures : ∀ index, Ensures (given index) program post stop) :
    Ensures (fun state => ∃ index, given index state) program post stop := by
  intro state ⟨index, start⟩
  exact ensures index start

theorem ensures_and {fact : Prop} {program : Run ε τ α} {post : α → τ → Prop}
    (ensures : fact → Ensures pre program post stop) :
    Ensures (fun state => fact ∧ pre state) program post stop := by
  intro state ⟨known, start⟩
  exact ensures known start

abbrev Keeps (Inv : τ → Prop) (program : Run ε τ α) : Prop :=
  Ensures Inv program (fun _ => Inv) Inv

theorem Keeps.last {Inv : τ → Prop} {program : Run ε τ α} (kept : Keeps Inv program) (state : τ)
    (start : Inv state) : Inv (exec program state).2 := by
  have ended := kept start
  split at ended
  · rename_i value last done
    rw [done]
    exact ended
  · rename_i cause last failed
    rw [failed]
    exact ended

theorem keeps_of_last {Inv : τ → Prop} {program : Run ε τ α}
    (kept : ∀ {state}, Inv state → Inv (exec program state).2) : Keeps Inv program := by
  apply ensures_of_cases
  · intro state value last start done
    have ended := kept start
    rw [done] at ended
    exact ended
  · intro state cause last start failed
    have ended := kept start
    rw [failed] at ended
    exact ended

end Ensures

/-- Computations that are put together from primitives. -/
inductive Built (Primitive : ∀ α : Type, Run ε τ α → Prop) : ∀ {α : Type}, Run ε τ α → Prop
  | pure {α : Type} (value : α) : Built Primitive (pure value : Run ε τ α)
  | throw {α : Type} (cause : ε) : Built Primitive (throw cause : Run ε τ α)
  | primitive {α : Type} {program : Run ε τ α} (is : Primitive α program) : Built Primitive program
  | bind {α β : Type} {program : Run ε τ α} {next : α → Run ε τ β}
      (first : Built Primitive program) (second : ∀ value, Built Primitive (next value)) :
      Built Primitive (program >>= next)

namespace Built

variable {Primitive : ∀ α : Type, Run ε τ α → Prop} {program : Run ε τ α}

theorem within {step : τ → τ → Prop} (built : Built Primitive program)
    (moves : ∀ {α : Type} {program : Run ε τ α}, Primitive α program → Within step program) :
    Within step program := by
  induction built with
  | pure value => exact within_pure value
  | throw cause => exact within_throw cause
  | primitive is => exact moves is
  | bind _ _ first second => exact first.bind second

theorem keeps {Inv : τ → Prop} (built : Built Primitive program)
    (kept : ∀ {α : Type} {program : Run ε τ α}, Primitive α program → Keeps Inv program) :
    Keeps Inv program := by
  induction built with
  | pure value => exact ensures_pure fun _ start => start
  | throw cause => exact ensures_throw cause fun _ start => start
  | primitive is => exact kept is
  | bind _ _ first second => exact first.bind second

end Built

end Stateful
