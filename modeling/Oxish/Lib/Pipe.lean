import Mathlib.Data.List.Basic

/-!
A pipe takes items at one end and hands them on at the other, in order. What it has taken is what
it has handed on followed by what is still pending.
-/

/-- All items taken so far, and how many of them were handed on. -/
structure Pipe (α : Type) where
  taken : List α
  count : Nat
  within : count ≤ taken.length

namespace Pipe

variable {α : Type}

def empty : Pipe α := ⟨[], 0, Nat.le_refl 0⟩

def handed (pipe : Pipe α) : List α := pipe.taken.take pipe.count

def pending (pipe : Pipe α) : List α := pipe.taken.drop pipe.count

theorem handed_pending (pipe : Pipe α) : pipe.handed ++ pipe.pending = pipe.taken :=
  List.take_append_drop _ _

def accept (pipe : Pipe α) (items : List α) : Pipe α where
  taken := pipe.taken ++ items
  count := pipe.count
  within := by
    have := pipe.within
    rw [List.length_append]
    omega

@[simp] theorem handed_accept (pipe : Pipe α) (items : List α) :
    (pipe.accept items).handed = pipe.handed :=
  List.take_append_of_le_length pipe.within

@[simp] theorem pending_accept (pipe : Pipe α) (items : List α) :
    (pipe.accept items).pending = pipe.pending ++ items :=
  List.drop_append_of_le_length pipe.within

def hand (pipe : Pipe α) (count : Nat) (enough : count ≤ pipe.pending.length) : Pipe α where
  taken := pipe.taken
  count := pipe.count + count
  within := by
    have := pipe.within
    rw [pending, List.length_drop] at enough
    omega

@[simp] theorem handed_hand (pipe : Pipe α) {count : Nat} (enough : count ≤ pipe.pending.length) :
    (pipe.hand count enough).handed = pipe.handed ++ pipe.pending.take count :=
  List.take_add

@[simp] theorem pending_hand (pipe : Pipe α) {count : Nat} (enough : count ≤ pipe.pending.length) :
    (pipe.hand count enough).pending = pipe.pending.drop count :=
  List.drop_drop.symm

end Pipe
