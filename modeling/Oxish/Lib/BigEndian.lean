import Mathlib.Algebra.GroupWithZero.Nat
import Mathlib.Data.List.Basic

/-! Fixed-width big-endian numerals over bytes: the digits of a natural number, the
value of a digit string, and the two round trips between them. -/

namespace BigEndian

def encode : Nat → Nat → List UInt8
  | 0, _ => []
  | width + 1, value => UInt8.ofNat (value / 256 ^ width) :: encode width value

def decode : List UInt8 → Nat
  | [] => 0
  | byte :: bytes => byte.toNat * 256 ^ bytes.length + decode bytes

@[simp] theorem length_encode (width value : Nat) : (encode width value).length = width := by
  induction width with
  | zero => rfl
  | succ width ih => simp [encode, ih]

theorem decode_lt (bytes : List UInt8) : decode bytes < 256 ^ bytes.length := by
  induction bytes with
  | nil => simp [decode]
  | cons byte bytes ih =>
      have digit : byte.toNat + 1 ≤ 256 := byte.toNat_lt
      have scaled := Nat.mul_le_mul_right (256 ^ bytes.length) digit
      simp only [decode, List.length_cons, Nat.pow_succ]
      rw [Nat.add_mul, Nat.one_mul] at scaled
      omega

theorem decode_encode (width value : Nat) :
    decode (encode width value) = value % 256 ^ width := by
  induction width with
  | zero => simp [encode, decode, Nat.mod_one]
  | succ width ih =>
      have digit : (UInt8.ofNat (value / 256 ^ width)).toNat = value / 256 ^ width % 256 := by
        simp
      simp only [encode, decode, length_encode, ih, digit, Nat.pow_succ]
      rw [Nat.mod_mul, Nat.mul_comm (256 ^ width)]
      omega

theorem decode_encode_of_lt {width value : Nat} (bound : value < 256 ^ width) :
    decode (encode width value) = value := by
  rw [decode_encode, Nat.mod_eq_of_lt bound]

theorem decode_zero_cons (bytes : List UInt8) : decode (0 :: bytes) = decode bytes := by
  simp [decode]

theorem decode_padded (count : Nat) (bytes : List UInt8) :
    decode (List.replicate count 0 ++ bytes) = decode bytes := by
  induction count with
  | zero => rfl
  | succ count ih => rw [List.replicate_succ, List.cons_append, decode_zero_cons, ih]

theorem leading_digit (high : Nat) {low scale : Nat} (bound : low < scale) :
    (high * scale + low) / scale = high := by
  rw [Nat.mul_comm, Nat.mul_add_div (by omega), Nat.div_eq_of_lt bound, Nat.add_zero]

theorem decode_injective {left right : List UInt8} (sameLength : left.length = right.length)
    (sameValue : decode left = decode right) : left = right := by
  induction left generalizing right with
  | nil => exact (List.length_eq_zero_iff.mp sameLength.symm).symm
  | cons leftByte leftBytes ih =>
      cases right with
      | nil => simp at sameLength
      | cons rightByte rightBytes =>
          have tails : leftBytes.length = rightBytes.length := by simpa using sameLength
          have leftBound := decode_lt leftBytes
          have rightBound := decode_lt rightBytes
          simp only [decode, tails] at sameValue
          rw [tails] at leftBound
          have heads : leftByte.toNat = rightByte.toNat := by
            rw [← leading_digit leftByte.toNat leftBound, sameValue,
              leading_digit rightByte.toNat rightBound]
          have rest : decode leftBytes = decode rightBytes := by
            rw [heads] at sameValue
            omega
          rw [UInt8.toNat_inj.mp heads, ih tails rest]

theorem encode_decode {width : Nat} {bytes : List UInt8} (length : bytes.length = width) :
    encode width (decode bytes) = bytes := by
  apply decode_injective
  · simp [length]
  · have bound := decode_lt bytes
    rw [length] at bound
    exact decode_encode_of_lt bound

end BigEndian
