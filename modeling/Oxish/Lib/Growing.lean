/-! Calls that are made again with more room. The caller knows from an answer whether to ask again,
and with how much; as the room grows at each call and is bounded, some call is the last. -/

structure Growth (β : Type) where
  next : Nat → β → Option Nat
  bound : Nat
  rises : ∀ {len answer more}, 0 < len → next len answer = some more → len < more ∧ more ≤ bound

namespace Growth

variable {β : Type} (growth : Growth β) (call : Nat → β)

def last (len : Nat) (positive : 0 < len) : Nat :=
  match asked : growth.next len (call len) with
  | none => len
  | some more => last more (Nat.lt_trans positive (growth.rises positive asked).1)
termination_by growth.bound - len
decreasing_by
  have rises := growth.rises positive asked
  omega

variable {growth call}

theorem last_le (len : Nat) (positive : 0 < len) (within : len ≤ growth.bound) :
    growth.last call len positive ≤ growth.bound := by
  fun_induction growth.last call len positive with
  | case1 len positive stops => exact within
  | case2 len positive more asked ih => exact ih (growth.rises positive asked).2

end Growth
