import Mathlib.Data.List.Basic

/-!
Texts as lines. A line ends with a line feed, or with a carriage return and a line feed, and the
last one may do without; the lines of a text come without their ends. A long text is cut into
chunks of one size to be written as lines.
-/

namespace Lines

def trimReturn (line : List Char) : List Char :=
  if line.getLast? = some '\r' then line.dropLast else line

def linesFrom : (line : List Char) → List Char → List (List Char)
  | [], [] => []
  | line, [] => [line]
  | line, char :: rest =>
    if char = '\n' then trimReturn line :: linesFrom [] rest else linesFrom (line ++ [char]) rest

def lines (text : List Char) : List (List Char) := linesFrom [] text

def ofText (text : String) : List String := (lines text.toList).map String.ofList

def terminated (lines : List (List Char)) : List Char := lines.flatMap (· ++ ['\n'])

theorem linesFrom_append {line : List Char} (unbroken : '\n' ∉ line) (before rest : List Char) :
    linesFrom before (line ++ '\n' :: rest) = trimReturn (before ++ line) :: lines rest := by
  induction line generalizing before with
  | nil =>
      rw [List.nil_append, List.append_nil, linesFrom, if_pos rfl]
      rfl
  | cons char line ih =>
      have other : char ≠ '\n' := by
        rintro rfl
        exact unbroken List.mem_cons_self
      have later : '\n' ∉ line := fun member => unbroken (List.mem_cons_of_mem _ member)
      rw [List.cons_append, linesFrom, if_neg other, ih later, List.append_assoc]
      rfl

theorem lines_terminated {written : List (List Char)}
    (clean : ∀ line ∈ written, '\n' ∉ line ∧ '\r' ∉ line) :
    lines (terminated written) = written := by
  induction written with
  | nil => rfl
  | cons line rest ih =>
      obtain ⟨unbroken, bare⟩ := clean line List.mem_cons_self
      have kept : trimReturn line = line := by
        apply if_neg
        intro last
        exact bare (List.mem_of_getLast? last)
      have later := ih fun other member => clean other (List.mem_cons_of_mem _ member)
      rw [terminated, List.flatMap_cons, List.append_assoc, List.singleton_append, lines,
        linesFrom_append unbroken, List.nil_append, kept]
      exact congrArg _ later

variable {α : Type}

def chunks (size : Nat) (items : List α) : List (List α) :=
  if 0 < size ∧ items ≠ [] then items.take size :: chunks size (items.drop size) else []
termination_by items.length
decreasing_by
  rename_i positive
  have some := List.length_pos_iff.mpr positive.2
  rw [List.length_drop]
  omega

theorem flatten_chunks {size : Nat} (positive : 0 < size) (items : List α) :
    (chunks size items).flatten = items := by
  induction items using chunks.induct size with
  | case1 items more ih =>
      rw [chunks, if_pos more, List.flatten_cons, ih, List.take_append_drop]
  | case2 items none =>
      have empty : items = [] := by
        by_contra more
        exact none ⟨positive, more⟩
      rw [chunks, if_neg none, empty, List.flatten_nil]

end Lines
