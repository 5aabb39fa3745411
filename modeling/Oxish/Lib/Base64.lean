import Mathlib.Data.List.Basic

/-!
Base64 with the standard alphabet and padding. Every three bytes are four digits of six bits; a
last group of one or two bytes is filled up with zero bits and marked by padding characters.
Decoding undoes encoding, and an encoding consists of digits and padding; a codec is any pair of an
encoder and a decoder of which that is known.
-/

namespace Base64

def digit (value : Nat) : UInt8 :=
  if value < 26 then UInt8.ofNat (65 + value)
  else if value < 52 then UInt8.ofNat (97 + (value - 26))
  else if value < 62 then UInt8.ofNat (48 + (value - 52))
  else if value = 62 then 43
  else 47

def value? (char : UInt8) : Option Nat :=
  if 65 ≤ char ∧ char ≤ 90 then some (char.toNat - 65)
  else if 97 ≤ char ∧ char ≤ 122 then some (char.toNat - 97 + 26)
  else if 48 ≤ char ∧ char ≤ 57 then some (char.toNat - 48 + 52)
  else if char = 43 then some 62
  else if char = 47 then some 63
  else none

def padding : UInt8 := 61

theorem value_digit {value : Nat} (bound : value < 64) : value? (digit value) = some value := by
  revert value
  decide

theorem digit_ne_padding {value : Nat} (bound : value < 64) : digit value ≠ padding := by
  revert value
  decide

def encode : List UInt8 → List UInt8
  | [] => []
  | [first] =>
    let group := first.toNat * 16
    [digit (group / 64), digit (group % 64), padding, padding]
  | [first, second] =>
    let group := first.toNat * 1024 + second.toNat * 4
    [digit (group / 4096), digit (group / 64 % 64), digit (group % 64), padding]
  | first :: second :: third :: rest =>
    let group := first.toNat * 65536 + second.toNat * 256 + third.toNat
    digit (group / 262144) :: digit (group / 4096 % 64) :: digit (group / 64 % 64) ::
      digit (group % 64) :: encode rest

def decode : List UInt8 → Option (List UInt8)
  | [] => some []
  | first :: second :: third :: fourth :: rest => do
    let high ← value? first
    let group := high * 64 + (← value? second)
    if fourth = padding then
      if rest ≠ [] then none
      else if third = padding then
        if group % 16 = 0 then some [UInt8.ofNat (group / 16)] else none
      else
        let group := group * 64 + (← value? third)
        if group % 4 = 0 then some [UInt8.ofNat (group / 1024), UInt8.ofNat (group / 4)] else none
    else
      let group := (group * 64 + (← value? third)) * 64 + (← value? fourth)
      let later ← decode rest
      some (UInt8.ofNat (group / 65536) :: UInt8.ofNat (group / 256) :: UInt8.ofNat group :: later)
  | _ => none

theorem ofNat_eq (byte : UInt8) {value : Nat} (same : value % 256 = byte.toNat) :
    UInt8.ofNat value = byte := by
  apply UInt8.toNat_inj.mp
  rw [UInt8.toNat_ofNat', same]

theorem decode_encode (data : List UInt8) : decode (encode data) = some data := by
  induction data using encode.induct with
  | case1 => rfl
  | case2 first =>
      have small := first.toNat_lt
      have high : first.toNat * 16 / 64 < 64 := by omega
      have low : first.toNat * 16 % 64 < 64 := by omega
      simp only [encode, decode, value_digit high, value_digit low, Option.bind_eq_bind,
        Option.bind_some, ↓reduceIte, ne_eq, not_true_eq_false]
      rw [if_pos (by omega), ofNat_eq]
      omega
  | case3 first second =>
      have firstSmall := first.toNat_lt
      have secondSmall := second.toNat_lt
      generalize grouped : first.toNat * 1024 + second.toNat * 4 = group
      have high : group / 4096 < 64 := by omega
      have middle : group / 64 % 64 < 64 := by omega
      have low : group % 64 < 64 := by omega
      simp only [encode, decode, grouped, value_digit high, value_digit middle, value_digit low,
        digit_ne_padding low, Option.bind_eq_bind, Option.bind_some, ↓reduceIte, ne_eq,
        not_true_eq_false]
      rw [if_pos (by omega), ofNat_eq first (by omega), ofNat_eq second (by omega)]
  | case4 first second third rest ih =>
      have firstSmall := first.toNat_lt
      have secondSmall := second.toNat_lt
      have thirdSmall := third.toNat_lt
      generalize grouped : first.toNat * 65536 + second.toNat * 256 + third.toNat = group
      have high : group / 262144 < 64 := by omega
      have upper : group / 4096 % 64 < 64 := by omega
      have lower : group / 64 % 64 < 64 := by omega
      have low : group % 64 < 64 := by omega
      simp only [encode, decode, grouped, value_digit high, value_digit upper, value_digit lower,
        value_digit low, digit_ne_padding low, ih, Option.bind_eq_bind, Option.bind_some, ↓reduceIte]
      rw [ofNat_eq first (by omega), ofNat_eq second (by omega),
        ofNat_eq third (by omega)]

theorem mem_encode {data : List UInt8} {char : UInt8} (member : char ∈ encode data) :
    char = padding ∨ ∃ value < 64, char = digit value := by
  induction data using encode.induct with
  | case1 => cases member
  | case2 first =>
      have small := first.toNat_lt
      simp only [encode, List.mem_cons, List.not_mem_nil, or_false] at member
      rcases member with rfl | rfl | rfl | rfl
      · exact .inr ⟨_, by omega, rfl⟩
      · exact .inr ⟨_, by omega, rfl⟩
      · exact .inl rfl
      · exact .inl rfl
  | case3 first second =>
      have firstSmall := first.toNat_lt
      have secondSmall := second.toNat_lt
      simp only [encode, List.mem_cons, List.not_mem_nil, or_false] at member
      rcases member with rfl | rfl | rfl | rfl
      · exact .inr ⟨_, by omega, rfl⟩
      · exact .inr ⟨_, by omega, rfl⟩
      · exact .inr ⟨_, by omega, rfl⟩
      · exact .inl rfl
  | case4 first second third rest ih =>
      have firstSmall := first.toNat_lt
      have secondSmall := second.toNat_lt
      have thirdSmall := third.toNat_lt
      simp only [encode, List.mem_cons] at member
      rcases member with rfl | rfl | rfl | rfl | later
      · exact .inr ⟨_, by omega, rfl⟩
      · exact .inr ⟨_, by omega, rfl⟩
      · exact .inr ⟨_, by omega, rfl⟩
      · exact .inr ⟨_, by omega, rfl⟩
      · exact ih later

structure Codec where
  encode : List UInt8 → List UInt8
  decode : List UInt8 → Option (List UInt8)
  alphabet : ∀ {data char}, char ∈ encode data → char = padding ∨ ∃ value < 64, char = digit value
  undoes : ∀ data, decode (encode data) = some data

def standard : Codec := ⟨encode, decode, mem_encode, decode_encode⟩

end Base64
