import Mathlib.Data.List.Induction

/-! Finite maps as lists of entries. An entry that is inserted takes the place of an earlier one
with its key, so that after any number of insertions a key has its latest value. -/

namespace Association

variable {κ ν : Type} [DecidableEq κ]

def insert (entries : List (κ × ν)) (entry : κ × ν) : List (κ × ν) :=
  entry :: entries.filter (·.1 ≠ entry.1)

def collect (entries pairs : List (κ × ν)) : List (κ × ν) := pairs.foldl insert entries

/-- Each key is there once, with the value of the last pair that has it, and no other key is. -/
structure Latest (pairs entries : List (κ × ν)) : Prop where
  once : (entries.map Prod.fst).Nodup
  found : ∀ key value, entries.lookup key = some value ↔
    ∃ before after, pairs = before ++ (key, value) :: after ∧ ∀ later ∈ after, later.1 ≠ key
  absent : ∀ key, entries.lookup key = none ↔ ∀ pair ∈ pairs, pair.1 ≠ key

theorem lookup_filter_ne {key other : κ} (different : key ≠ other) (entries : List (κ × ν)) :
    (entries.filter (·.1 ≠ other)).lookup key = entries.lookup key := by
  induction entries with
  | nil => rfl
  | cons entry entries ih =>
      obtain ⟨first, value⟩ := entry
      by_cases dropped : first = other
      · subst dropped
        have unequal : (key == first) = false := beq_eq_false_iff_ne.mpr different
        rw [List.filter_cons_of_neg (by simp), ih, List.lookup_cons, unequal]
      · rw [List.filter_cons_of_pos (by simpa using dropped), List.lookup_cons, List.lookup_cons, ih]

theorem lookup_insert_self (entries : List (κ × ν)) (key : κ) (value : ν) :
    (insert entries (key, value)).lookup key = some value := by
  rw [insert, List.lookup_cons, beq_self_eq_true]

theorem lookup_insert_of_ne {key other : κ} (different : key ≠ other) (entries : List (κ × ν))
    (value : ν) : (insert entries (other, value)).lookup key = entries.lookup key := by
  have unequal : (key == other) = false := beq_eq_false_iff_ne.mpr different
  rw [insert, List.lookup_cons, unequal]
  exact lookup_filter_ne different entries

omit [DecidableEq κ] in
theorem split_snoc {pairs : List (κ × ν)} {entry : κ × ν} {key : κ} {value : ν} :
    (∃ before after, pairs ++ [entry] = before ++ (key, value) :: after ∧
      ∀ later ∈ after, later.1 ≠ key) ↔
    entry = (key, value) ∨ (entry.1 ≠ key ∧
      ∃ before after, pairs = before ++ (key, value) :: after ∧ ∀ later ∈ after, later.1 ≠ key) := by
  constructor
  · rintro ⟨before, after, split, fresh⟩
    rcases List.eq_nil_or_concat after with rfl | ⟨rest, last, rfl⟩
    · obtain ⟨_, same⟩ := List.append_inj' split rfl
      exact .inl (List.singleton_inj.mp same)
    · rw [List.concat_eq_append, ← List.cons_append, ← List.append_assoc] at split
      obtain ⟨earlier, same⟩ := List.append_inj' split rfl
      have ends : entry = last := List.singleton_inj.mp same
      subst ends
      refine .inr ⟨fresh entry (by simp), before, rest, earlier, ?_⟩
      intro later member
      exact fresh later (by simp [member])
  · rintro (rfl | ⟨other, before, after, rfl, fresh⟩)
    · exact ⟨pairs, [], rfl, by simp⟩
    · refine ⟨before, after ++ [entry], by simp, ?_⟩
      intro later member
      rcases List.mem_append.mp member with earlier | last
      · exact fresh later earlier
      · rw [List.mem_singleton.mp last]
        exact other

theorem Latest.insert {pairs entries : List (κ × ν)} (latest : Latest pairs entries)
    (entry : κ × ν) : Latest (pairs ++ [entry]) (insert entries entry) := by
  obtain ⟨other, stored⟩ := entry
  constructor
  case once =>
    rw [Association.insert, List.map_cons, List.nodup_cons]
    constructor
    · intro member
      obtain ⟨pair, kept, same⟩ := List.mem_map.mp member
      simpa [same] using (List.mem_filter.mp kept).2
    · exact latest.once.sublist (List.filter_sublist.map Prod.fst)
  case found =>
    intro key value
    rw [split_snoc]
    by_cases here : other = key
    · subst here
      rw [lookup_insert_self]
      simp
    · rw [lookup_insert_of_ne (Ne.symm here), latest.found]
      simp [here]
  case absent =>
    intro key
    by_cases here : other = key
    · subst here
      rw [lookup_insert_self]
      simp
    · rw [lookup_insert_of_ne (Ne.symm here), latest.absent]
      simp only [List.forall_mem_append, List.forall_mem_singleton]
      exact ⟨fun earlier => ⟨earlier, here⟩, fun every => every.1⟩

theorem latest_nil : Latest ([] : List (κ × ν)) [] := by
  constructor
  case once => exact List.nodup_nil
  case found => simp
  case absent => simp

theorem latest_collect (pairs : List (κ × ν)) : Latest pairs (collect [] pairs) := by
  induction pairs using List.reverseRecOn with
  | nil => exact latest_nil
  | append_singleton pairs entry ih =>
      rw [collect, List.foldl_append]
      exact ih.insert entry

end Association
