import Oxish.SignatureFraming

/-!
Numbers on the wire. Shared secrets, signatures and private scalars are written as mpints: a
length field and the shortest digits whose first bit is their sign. Two of them are encoded
alike exactly when they are the same number.
-/

namespace Oxish

theorem length_minimal_fits {value : Bytes} (short : value.length < 2 ^ 32 - 1) :
    (Mpint.minimal value).length < 2 ^ 32 := by
  have longest := Mpint.length_minimal_le value
  omega

/-- The body of an encoded number: the field in front of it holds its length, it has the number's
value with a sign, and every other body with that value is longer. -/
structure MpintBody (value body : Bytes) : Prop where
  encoded : encodeMpint value = BigEndian.encode 4 body.length ++ body
  counted : body.length < 2 ^ 32
  number : Mpint.value body = BigEndian.decode value
  shortest : ∀ other, Mpint.value other = BigEndian.decode value →
    other = body ∨ body.length < other.length
  empty : body = [] ↔ BigEndian.decode value = 0

theorem mpintBody_minimal {value : Bytes} (short : value.length < 2 ^ 32 - 1) :
    MpintBody value (Mpint.minimal value) := by
  have fits := length_minimal_fits short
  constructor
  case encoded => rw [encodeMpint_eq, encodeBytes, encodeU32, toNat_ofNat_of_lt fits]
  case counted => exact fits
  case number => exact Mpint.value_minimal value
  case shortest =>
    intro other same
    exact Mpint.minimal_shortest same
  case empty => exact Mpint.minimal_eq_nil

/-- An encoded number is its length field and its only shortest digits, so that its encoding
depends on nothing but the number. -/
theorem mpint_canonical {value : Bytes} (short : value.length < 2 ^ 32 - 1) :
    (∃ body, MpintBody value body) ∧
    ∀ other : Bytes, other.length < 2 ^ 32 - 1 →
      (encodeMpint value = encodeMpint other ↔ BigEndian.decode value = BigEndian.decode other) := by
  constructor
  · exact ⟨Mpint.minimal value, mpintBody_minimal short⟩
  · intro other otherShort
    rw [encodeMpint_eq, encodeMpint_eq,
      encodeBytes_inj (length_minimal_fits short) (length_minimal_fits otherShort)]
    exact Mpint.minimal_eq_iff

theorem mpint_canonical_signed :
    (∃ body, MpintBody [0, 0x80, 1] body) ∧
    (encodeMpint [0, 0x80, 1] = encodeMpint [0x80, 1] ↔
      BigEndian.decode [0, 0x80, 1] = BigEndian.decode [0x80, 1]) :=
  ⟨(mpint_canonical (by decide)).1, (mpint_canonical (by decide)).2 _ (by decide)⟩

end Oxish
