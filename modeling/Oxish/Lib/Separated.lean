import Mathlib.Data.Set.List

/-! Lists of items that are written one after the other, each by its own code. Where a separator
is written by one mark that no other item's code contains, splitting the written form at the
marks is splitting the items at the separators. -/

namespace Separated

variable {α β : Type} [DecidableEq α] [DecidableEq β] {code : α → List β} {separator : α} {mark : β}

structure Marks (code : α → List β) (separator : α) (mark : β) : Prop where
  written : code separator = [mark]
  free : ∀ item, item ≠ separator → mark ∉ code item

omit [DecidableEq α] in
theorem splitOn_append {head : List β} (free : mark ∉ head) (rest : List β) :
    (head ++ rest).splitOn mark = (rest.splitOn mark).modifyHead (head ++ ·) := by
  induction head with
  | nil =>
      rw [List.nil_append]
      cases rest.splitOn mark with
      | nil => rfl
      | cons piece pieces => rfl
  | cons item head ih =>
      have other : (item == mark) = false := by
        apply beq_eq_false_iff_ne.mpr
        rintro rfl
        exact free List.mem_cons_self
      rw [List.cons_append, List.splitOn_cons_eq_if_modifyHead, other,
        ih fun member => free (List.mem_cons_of_mem _ member)]
      cases rest.splitOn mark with
      | nil => rfl
      | cons piece pieces => rfl

theorem splitOn_flatMap (marks : Marks code separator mark) (items : List α) :
    (items.flatMap code).splitOn mark = (items.splitOn separator).map (·.flatMap code) := by
  induction items with
  | nil => rfl
  | cons item items ih =>
      rw [List.flatMap_cons, List.splitOn_cons_eq_if_modifyHead]
      by_cases here : item = separator
      · subst here
        rw [marks.written, List.singleton_append, List.splitOn_cons_eq_if_modifyHead, ih]
        simp
      · rw [splitOn_append (marks.free item here), ih, if_neg (by simpa using here)]
        cases items.splitOn separator with
        | nil => rfl
        | cons piece pieces => simp

omit [DecidableEq α] [DecidableEq β] in
theorem flatMap_intercalate (written : code separator = [mark]) (pieces : List (List α)) :
    ([separator].intercalate pieces).flatMap code =
      [mark].intercalate (pieces.map (·.flatMap code)) := by
  induction pieces with
  | nil => rfl
  | cons piece pieces ih =>
      cases pieces with
      | nil => simp
      | cons other pieces =>
          rw [List.map_cons] at ih
          rw [List.intercalate_cons_cons, List.map_cons, List.map_cons, List.intercalate_cons_cons,
            ← ih]
          simp [written]

theorem exists_flatMap_iff (marks : Marks code separator mark) (list : List β) :
    (∃ items : List α, items.flatMap code = list) ↔
      ∀ piece ∈ list.splitOn mark, ∃ items : List α, items.flatMap code = piece := by
  constructor
  · rintro ⟨items, rfl⟩ piece member
    rw [splitOn_flatMap marks] at member
    obtain ⟨part, _, same⟩ := List.mem_map.mp member
    exact ⟨part, same⟩
  · intro every
    have parts : list.splitOn mark ∈
        Set.range (List.map fun items : List α => items.flatMap code) := by
      rw [Set.range_list_map]
      exact every
    obtain ⟨parts, same⟩ := parts
    refine ⟨[separator].intercalate parts, ?_⟩
    rw [flatMap_intercalate marks.written, same, List.intercalate_splitOn]

end Separated
