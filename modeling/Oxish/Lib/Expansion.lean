import Mathlib.Data.List.Basic

/-!
Output that is expanded block by block: the first block is given and each later one is computed
from all the blocks before it. A loop that fills an output of a fixed length and cuts its last
block off has filled it with a beginning of the blocks, whatever their number.
-/

namespace Expansion

variable {β : Type} {first : List β} {next : List β → List β} {blockLen len : Nat}

def blocks (first : List β) (next : List β → List β) : Nat → List (List β)
  | 0 => []
  | 1 => [first]
  | count + 2 => blocks first next (count + 1) ++ [next (blocks first next (count + 1)).flatten]

def output (first : List β) (next : List β → List β) (count : Nat) : List β :=
  (blocks first next count).flatten

theorem output_one : output first next 1 = first := by simp [output, blocks]

theorem output_succ {count : Nat} (begun : 0 < count) :
    output first next (count + 1) = output first next count ++ next (output first next count) := by
  obtain ⟨count, rfl⟩ := Nat.exists_eq_succ_of_ne_zero (by omega : count ≠ 0)
  simp [output, blocks]

structure Uniform (first : List β) (next : List β → List β) (blockLen : Nat) : Prop where
  first : first.length = blockLen
  next : ∀ earlier, (next earlier).length = blockLen

theorem Uniform.length_output (uniform : Uniform first next blockLen) (count : Nat) :
    (output first next count).length = count * blockLen := by
  induction count with
  | zero => simp [output, blocks]
  | succ count ih =>
      by_cases begun : 0 < count
      · rw [output_succ begun, List.length_append, ih, uniform.next]
        exact (Nat.succ_mul count blockLen).symm
      · have none : count = 0 := by omega
        subst none
        rw [output_one, uniform.first]
        omega

theorem output_front {count later : Nat} (more : count ≤ later) :
    output first next count <+: output first next later := by
  induction later with
  | zero =>
      have none : count = 0 := by omega
      subst none
      exact List.prefix_refl _
  | succ later ih =>
      by_cases same : count = later + 1
      · subst same
        exact List.prefix_refl _
      · have earlier := ih (by omega)
        by_cases begun : 0 < later
        · rw [output_succ begun]
          exact earlier.trans (List.prefix_append _ _)
        · have none : count = 0 := by omega
          subst none
          exact List.nil_prefix

theorem Uniform.take_output (uniform : Uniform first next blockLen) {count other : Nat}
    (enough : len ≤ count * blockLen) (others : len ≤ other * blockLen) :
    (output first next count).take len = (output first next other).take len := by
  have shorter {few many : Nat} (fewer : few ≤ many) (enough : len ≤ few * blockLen) :
      (output first next few).take len = (output first next many).take len := by
    obtain ⟨rest, whole⟩ := @output_front β first next few many fewer
    rw [← whole, List.take_append_of_le_length]
    rw [uniform.length_output]
    exact enough
  rcases Nat.le_total count other with fewer | more
  · exact shorter fewer enough
  · exact (shorter more others).symm

/-- The filled part of an output of length `len`: whole blocks, or all of it. -/
structure FilledBy (first : List β) (next : List β → List β) (blockLen len : Nat) (part : List β) :
    Prop where
  within : part.length ≤ len
  whole : part.length < len → ∃ count, 0 < count ∧ part = output first next count
  complete : ∀ count, part.length ≤ count * blockLen →
    part = (output first next count).take part.length

theorem Uniform.filled_take (uniform : Uniform first next blockLen) {count : Nat}
    (begun : 0 < count) :
    FilledBy first next blockLen len ((output first next count).take (min (count * blockLen) len)) := by
  have length : ((output first next count).take (min (count * blockLen) len)).length =
      min (count * blockLen) len := by
    rw [List.length_take, uniform.length_output]
    omega
  constructor
  · omega
  · intro short
    refine ⟨count, begun, ?_⟩
    rw [List.take_of_length_le]
    rw [uniform.length_output]
    omega
  · intro other others
    rw [length] at others ⊢
    exact uniform.take_output (by omega) others

theorem Uniform.filled_first (uniform : Uniform first next blockLen) :
    FilledBy first next blockLen len (first.take (min blockLen len)) := by
  have filled := @Uniform.filled_take β first next blockLen len uniform 1 (by omega)
  rw [output_one, Nat.one_mul] at filled
  exact filled

theorem Uniform.filled_next (uniform : Uniform first next blockLen) {part : List β}
    (filled : FilledBy first next blockLen len part) (short : part.length < len) :
    FilledBy first next blockLen len
      (part ++ (next part).take (min blockLen (len - part.length))) := by
  obtain ⟨count, begun, rfl⟩ := filled.whole short
  have length := uniform.length_output count
  have more : (count + 1) * blockLen = count * blockLen + blockLen := Nat.succ_mul count blockLen
  have grown := @Uniform.filled_take β first next blockLen len uniform (count + 1) (by omega)
  rw [output_succ begun, List.take_append, List.take_of_length_le (by omega), length] at grown
  rw [length]
  have same : min ((count + 1) * blockLen) len - count * blockLen =
      min blockLen (len - count * blockLen) := by omega
  rw [same] at grown
  exact grown

theorem FilledBy.eq_take {part : List β} (filled : FilledBy first next blockLen len part)
    (full : part.length = len) {count : Nat} (enough : len ≤ count * blockLen) :
    part = (output first next count).take len := by
  have same := filled.complete count (by omega)
  rw [full] at same
  exact same

end Expansion
