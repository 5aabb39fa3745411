import Mathlib.Data.List.DropRight
import Oxish.Lib.BigEndian

/-! Numbers of variable width: big-endian digit strings whose first bit is a sign. The
non-negative ones have one shortest string, which is found by dropping the leading zeros and
putting one back where the first bit would be set. No other string of the number is as short. -/

namespace Mpint

def trim (digits : List UInt8) : List UInt8 := digits.dropWhile (· == 0)

def signed : List UInt8 → Bool
  | byte :: _ => byte &&& 0x80 != 0
  | [] => false

def minimal (digits : List UInt8) : List UInt8 :=
  if signed (trim digits) then 0 :: trim digits else trim digits

/-- The digits are those of a non-negative number, and no leading digit could be left out. -/
def Canonical (digits : List UInt8) : Prop :=
  signed digits = false ∧
    match digits with
    | 0 :: later => signed later = true
    | _ => True

theorem trim_trim (digits : List UInt8) : trim (trim digits) = trim digits :=
  List.dropWhile_idempotent _ _

theorem trim_zero (digits : List UInt8) : trim (0 :: digits) = trim digits :=
  List.dropWhile_cons_of_pos rfl

theorem trim_of_ne {byte : UInt8} (nonzero : byte ≠ 0) (digits : List UInt8) :
    trim (byte :: digits) = byte :: digits :=
  List.dropWhile_cons_of_neg (by simpa using nonzero)

theorem length_trim_le (digits : List UInt8) : (trim digits).length ≤ digits.length :=
  (List.dropWhile_suffix _).length_le

theorem head_trim {digits later : List UInt8} {byte : UInt8} (trimmed : trim digits = byte :: later) :
    byte ≠ 0 := by
  rintro rfl
  have again := trim_trim digits
  rw [trimmed, trim_zero] at again
  have longer := congrArg List.length again
  have bound := length_trim_le later
  rw [List.length_cons] at longer
  omega

theorem trim_eq_self_of_signed {digits : List UInt8} (set : signed digits = true) :
    trim digits = digits := by
  cases digits with
  | nil => cases set
  | cons byte digits =>
      apply trim_of_ne
      rintro rfl
      cases set

theorem trim_minimal (digits : List UInt8) : trim (minimal digits) = trim digits := by
  unfold minimal
  split
  · rw [trim_zero, trim_trim]
  · exact trim_trim digits

theorem length_minimal_le (digits : List UInt8) :
    (minimal digits).length ≤ digits.length + 1 := by
  have shorter := length_trim_le digits
  unfold minimal
  split
  · simpa using shorter
  · omega

theorem minimal_of_canonical {digits other : List UInt8} (canonical : Canonical digits)
    (same : trim digits = trim other) : minimal other = digits := by
  obtain ⟨positive, shortest⟩ := canonical
  unfold minimal
  rw [← same]
  cases digits with
  | nil => rfl
  | cons byte digits =>
      by_cases zero : byte = 0
      · subst zero
        have set : signed digits = true := shortest
        rw [trim_zero, trim_eq_self_of_signed set, if_pos set]
      · rw [trim_of_ne zero, if_neg (by simp [positive])]

theorem padded_trim {digits : List UInt8} {width : Nat} (length : digits.length = width) :
    List.replicate (width - (trim digits).length) 0 ++ trim digits = digits := by
  have whole := List.takeWhile_append_dropWhile (p := (· == (0 : UInt8))) (l := digits)
  have counted := congrArg List.length whole
  rw [List.length_append] at counted
  have zeros : digits.takeWhile (· == 0) = List.replicate (digits.takeWhile (· == 0)).length 0 := by
    rw [List.eq_replicate_iff]
    refine ⟨rfl, fun byte member => ?_⟩
    simpa using List.mem_takeWhile_imp member
  have many : (digits.takeWhile (· == 0)).length = width - (trim digits).length := by
    unfold trim
    omega
  rw [← many, ← zeros]
  exact whole

theorem trim_padded (count : Nat) (digits : List UInt8) :
    trim (List.replicate count 0 ++ digits) = trim digits := by
  induction count with
  | zero => rfl
  | succ count ih => rw [List.replicate_succ, List.cons_append, trim_zero, ih]

theorem decode_trim (digits : List UInt8) :
    BigEndian.decode (trim digits) = BigEndian.decode digits := by
  have padded := BigEndian.decode_padded (digits.length - (trim digits).length) (trim digits)
  rw [padded_trim rfl] at padded
  exact padded.symm

theorem trim_eq_iff {left right : List UInt8} :
    trim left = trim right ↔ BigEndian.decode left = BigEndian.decode right := by
  constructor
  · intro same
    rw [← decode_trim left, same, decode_trim]
  · intro same
    -- at one length, digits are determined by their number
    have padded : List.replicate right.length 0 ++ left = List.replicate left.length 0 ++ right := by
      apply BigEndian.decode_injective
      · simp only [List.length_append, List.length_replicate]
        omega
      · rw [BigEndian.decode_padded, BigEndian.decode_padded, same]
    rw [← trim_padded right.length left, padded, trim_padded]

theorem minimal_eq_iff {left right : List UInt8} :
    minimal left = minimal right ↔ BigEndian.decode left = BigEndian.decode right := by
  rw [← trim_eq_iff]
  constructor
  · intro same
    rw [← trim_minimal left, same, trim_minimal]
  · intro same
    rw [minimal, minimal, same]

theorem minimal_eq_nil {digits : List UInt8} :
    minimal digits = [] ↔ BigEndian.decode digits = 0 :=
  @minimal_eq_iff digits []

def value (digits : List UInt8) : Int :=
  if signed digits then (BigEndian.decode digits : Int) - (256 ^ digits.length : Nat)
  else BigEndian.decode digits

theorem value_eq_natCast {digits : List UInt8} {number : Nat} :
    value digits = number ↔ signed digits = false ∧ BigEndian.decode digits = number := by
  have bound := BigEndian.decode_lt digits
  unfold value
  cases signed digits with
  | true =>
      simp only [↓reduceIte, Bool.true_eq_false, false_and, iff_false]
      omega
  | false =>
      simp only [Bool.false_eq_true, ↓reduceIte, true_and]
      omega

theorem signed_minimal (digits : List UInt8) : signed (minimal digits) = false := by
  unfold minimal
  by_cases set : signed (trim digits) = true
  · rw [if_pos set]
    rfl
  · rw [if_neg set]
    simpa using set

theorem value_minimal (digits : List UInt8) : value (minimal digits) = BigEndian.decode digits :=
  value_eq_natCast.mpr ⟨signed_minimal digits, trim_eq_iff.mp (trim_minimal digits)⟩

theorem minimal_suffix {digits : List UInt8} (positive : signed digits = false) :
    minimal digits <:+ digits := by
  induction digits with
  | nil => exact List.nil_suffix
  | cons byte digits ih =>
      by_cases zero : byte = 0
      · subst zero
        have same : minimal (0 :: digits) = minimal digits :=
          minimal_eq_iff.mpr (BigEndian.decode_zero_cons digits)
        rw [same]
        by_cases set : signed digits = true
        · have whole : minimal digits = 0 :: digits := by
            rw [minimal, trim_eq_self_of_signed set, if_pos set]
          exact ⟨[], whole⟩
        · exact (ih (by simpa using set)).trans (List.suffix_cons 0 digits)
      · have whole : minimal (byte :: digits) = byte :: digits := by
          rw [minimal, trim_of_ne zero, if_neg (by simp [positive])]
        exact ⟨[], whole⟩

theorem minimal_shortest {digits other : List UInt8}
    (same : value other = BigEndian.decode digits) :
    other = minimal digits ∨ (minimal digits).length < other.length := by
  obtain ⟨positive, number⟩ := value_eq_natCast.mp same
  have ends := minimal_suffix positive
  rw [minimal_eq_iff.mpr number] at ends
  by_cases length : (minimal digits).length = other.length
  · exact .inl (ends.eq_of_length length).symm
  · have shorter := ends.length_le
    right
    omega

end Mpint
