import Oxish.DecoderSafety
import Oxish.HandoffState
import Oxish.Lib.Mpint

/-!
Signatures on the wire. What the server frames after signing is read back by the code that reads
a client's signature, and the two halves of an ECDSA signature keep the values of its numbers.
-/

namespace Oxish

theorem encodeMpint_eq (value : Bytes) : encodeMpint value = encodeBytes (Mpint.minimal value) := by
  change encodeU32 (UInt32.ofNat ((Mpint.trim value).length +
      if Mpint.signed (Mpint.trim value) then 1 else 0)) ++
    (if Mpint.signed (Mpint.trim value) then [0] else []) ++ Mpint.trim value = _
  cases set : Mpint.signed (Mpint.trim value) with
  | true => simp [Mpint.minimal, set, encodeBytes]
  | false => simp [Mpint.minimal, set, encodeBytes]

theorem unsigned_value (mpint : Bytes) :
    BigEndian.decode (Checked.unsigned mpint) = BigEndian.decode mpint := by
  unfold Checked.unsigned
  split
  · exact (BigEndian.decode_zero_cons _).symm
  · rfl

theorem mpintToFixed_value {mpint fixed : Bytes} {width : Nat}
    (converted : mpintToFixed mpint width = some fixed) :
    BigEndian.decode fixed = BigEndian.decode mpint := by
  rw [mpintToFixed_eq] at converted
  split at converted
  · cases converted
    rw [BigEndian.decode_padded, unsigned_value]
  · cases converted

theorem unsigned_of_ne {byte : UInt8} (nonzero : byte ≠ 0) (later : Bytes) :
    Checked.unsigned (byte :: later) = byte :: later := by
  unfold Checked.unsigned
  split
  · rename_i same
    cases same
    exact absurd rfl nonzero
  · rfl

theorem unsigned_minimal (value : Bytes) :
    Checked.unsigned (Mpint.minimal value) = Mpint.trim value := by
  unfold Mpint.minimal
  cases digits : Mpint.trim value with
  | nil => rfl
  | cons byte later =>
      by_cases set : Mpint.signed (byte :: later) = true
      · rw [if_pos set]
        rfl
      · rw [if_neg set]
        exact unsigned_of_ne (Mpint.head_trim digits) later

theorem mpintToFixed_minimal {value : Bytes} {width : Nat} (length : value.length = width) :
    mpintToFixed (Mpint.minimal value) width = some value := by
  have fits : (Mpint.trim value).length ≤ width := length ▸ Mpint.length_trim_le value
  rw [mpintToFixed_eq, unsigned_minimal, if_pos fits, Mpint.padded_trim length]

namespace TaggedSignature

/-- The bytes that are verified, after a signature was framed, read and converted. -/
def reread (tagged : TaggedSignature) : Except (Stop ProtoError) Bytes := do
  let framed ← tagged.encode
  let ⟨signature, _⟩ ← raise (Signature.decode framed)
  raise signature.encode

end TaggedSignature

theorem Signature.decode_framed (algorithm : PublicKeyAlgorithm) (blob : Bytes)
    (known : Named.typed (Named.name algorithm) = algorithm)
    (fits : (encodeNamed algorithm ++ encodeBytes blob).length < 2 ^ 32) :
    Signature.decode (encodeBytes (encodeNamed algorithm ++ encodeBytes blob)) =
      .ok ⟨⟨algorithm, blob⟩, []⟩ := by
  have whole := decodeBytes_encodeBytes fits []
  rw [List.append_nil] at whole
  simp only [encodeNamed, List.length_append, length_encodeBytes] at fits
  have short : blob.length < 2 ^ 32 := by omega
  have tail := decodeBytes_encodeBytes short []
  rw [List.append_nil] at tail
  have named : decodeNamed (encodeNamed algorithm ++ encodeBytes blob) =
      .ok ⟨algorithm, encodeBytes blob⟩ := by
    refine Outcome.bind_ok (decodeBytes_encodeBytes (by omega) _) ?_
    simp only [fromUtf8_strBytes, known]
  refine Outcome.bind_ok whole ?_
  refine Outcome.bind_ok named ?_
  exact Outcome.bind_ok tail rfl

theorem Signature.decode_fits {content : Bytes} {decoded : Decoded Signature}
    (done : Signature.decode (encodeBytes content) = .ok decoded) : content.length < 2 ^ 32 := by
  obtain ⟨⟨value, next⟩, read, done⟩ := Outcome.bind_eq_ok.mp done
  dsimp only at done
  split at done
  · rename_i empty
    cases List.isEmpty_iff.mp empty
    exact (decodeBytes_whole read).2
  · cases done

theorem length_encodeNamed_ed25519 : (encodeNamed PublicKeyAlgorithm.ed25519).length = 15 := by
  decide

theorem length_encodeNamed_ecdsaSha2Nistp256 :
    (encodeNamed PublicKeyAlgorithm.ecdsaSha2Nistp256).length = 23 := by
  decide

theorem TaggedSignature.reread_ed25519 (signature : Bytes) :
    TaggedSignature.reread ⟨.ed25519, signature⟩ = .ok signature ↔ signature.length + 19 < 2 ^ 32 := by
  have inside : (encodeNamed PublicKeyAlgorithm.ed25519 ++ encodeBytes signature).length =
      signature.length + 19 := by
    rw [List.length_append, length_encodeNamed_ed25519, length_encodeBytes]
    omega
  constructor
  · intro done
    obtain ⟨framed, written, done⟩ := Outcome.bind_eq_ok.mp done
    cases written
    obtain ⟨read, raised, _⟩ := Outcome.bind_eq_ok.mp done
    have decoded := raise_eq_ok.mp raised
    exact inside ▸ Signature.decode_fits decoded
  · intro fits
    have decoded := Signature.decode_framed .ed25519 signature rfl (inside ▸ fits)
    refine Outcome.bind_ok rfl ?_
    exact Outcome.bind_ok (raise_eq_ok.mpr decoded) rfl

theorem Signature.encode_numbers {r s : Bytes} (high : r.length = 32) (low : s.length = 32) :
    Signature.encode ⟨.ecdsaSha2Nistp256, encodeMpint r ++ encodeMpint s⟩ = .ok (r ++ s) := by
  have highFits := Mpint.length_minimal_le r
  have lowFits := Mpint.length_minimal_le s
  have short : (Mpint.minimal s).length < 2 ^ 32 := by omega
  have last := decodeBytes_encodeBytes short []
  rw [List.append_nil] at last
  rw [encodeMpint_eq, encodeMpint_eq]
  refine Outcome.bind_ok (decodeBytes_encodeBytes (by omega) _) ?_
  refine Outcome.bind_ok last ?_
  dsimp only
  rw [mpintToFixed_minimal high, mpintToFixed_minimal low]
  rfl

theorem TaggedSignature.reread_ecdsa {signature : Bytes} (length : signature.length = 64) :
    TaggedSignature.reread ⟨.ecdsaSha2Nistp256, signature⟩ = .ok signature := by
  have high : (signature.take (signature.length / 2)).length = 32 := by
    rw [List.length_take]
    omega
  have low : (signature.drop (signature.length / 2)).length = 32 := by
    rw [List.length_drop]
    omega
  have numbers := Signature.encode_numbers high low
  rw [List.take_append_drop] at numbers
  have highFits := Mpint.length_minimal_le (signature.take (signature.length / 2))
  have lowFits := Mpint.length_minimal_le (signature.drop (signature.length / 2))
  have decoded := Signature.decode_framed .ecdsaSha2Nistp256
    (encodeMpint (signature.take (signature.length / 2)) ++
      encodeMpint (signature.drop (signature.length / 2))) rfl (by
        simp only [encodeMpint_eq, List.length_append, length_encodeNamed_ecdsaSha2Nistp256,
          length_encodeBytes]
        omega)
  refine Outcome.bind_ok rfl ?_
  exact Outcome.bind_ok (raise_eq_ok.mpr decoded) (raise_eq_ok.mpr numbers)

theorem Signature.encode_values {blob fixed : Bytes}
    (accepted : Signature.encode ⟨.ecdsaSha2Nistp256, blob⟩ = .ok fixed) :
    ∃ r s rest, decodeBytes blob = .ok ⟨r, rest⟩ ∧ decodeBytes rest = .ok ⟨s, []⟩ ∧
      fixed.length = 64 ∧
      BigEndian.decode (fixed.take 32) = BigEndian.decode r ∧
      BigEndian.decode (fixed.drop 32) = BigEndian.decode s := by
  obtain ⟨⟨r, rest⟩, first, accepted⟩ := Outcome.bind_eq_ok.mp accepted
  obtain ⟨⟨s, next⟩, second, accepted⟩ := Outcome.bind_eq_ok.mp accepted
  dsimp only at accepted second
  split at accepted
  · rename_i empty
    cases List.isEmpty_iff.mp empty
    split at accepted
    · cases accepted
    · rename_i high converted
      split at accepted
      · cases accepted
      · rename_i low convertedLow
        cases accepted
        have highLength := mpintToFixed_length converted
        have lowLength := mpintToFixed_length convertedLow
        refine ⟨r, s, rest, first, second, ?_, ?_, ?_⟩
        · rw [List.length_append, highLength, lowLength]
        · rw [List.take_left' highLength, mpintToFixed_value converted]
        · rw [List.drop_left' highLength, mpintToFixed_value convertedLow]
  · cases accepted

/-- Framing a signature and reading it back gives the signature for every ECDSA signature and for
the Ed25519 byte strings whose frame has a length that fits its field; and an accepted ECDSA
signature keeps the values of its two numbers. -/
theorem signature_framing :
    (∀ signature, signature.length = 64 →
      TaggedSignature.reread ⟨.ecdsaSha2Nistp256, signature⟩ = .ok signature) ∧
    (∀ signature, TaggedSignature.reread ⟨.ed25519, signature⟩ = .ok signature ↔
      signature.length + 19 < 2 ^ 32) ∧
    ∀ blob fixed, Signature.encode ⟨.ecdsaSha2Nistp256, blob⟩ = .ok fixed →
      ∃ r s rest, decodeBytes blob = .ok ⟨r, rest⟩ ∧ decodeBytes rest = .ok ⟨s, []⟩ ∧
        fixed.length = 64 ∧
        BigEndian.decode (fixed.take 32) = BigEndian.decode r ∧
        BigEndian.decode (fixed.drop 32) = BigEndian.decode s := by
  refine ⟨?_, TaggedSignature.reread_ed25519, ?_⟩
  · intro signature length
    exact TaggedSignature.reread_ecdsa length
  · intro blob fixed accepted
    exact Signature.encode_values accepted

theorem signature_framing_zero :
    TaggedSignature.reread ⟨.ecdsaSha2Nistp256, List.replicate 64 0⟩ = .ok (List.replicate 64 0) ∧
    TaggedSignature.reread ⟨.ed25519, []⟩ = .ok [] ∧
    ∃ r s rest, decodeBytes (encodeBytes [0, 200] ++ encodeBytes [7]) = .ok ⟨r, rest⟩ ∧
      decodeBytes rest = .ok ⟨s, []⟩ ∧
      (List.replicate 31 0 ++ [200] ++ List.replicate 31 0 ++ [7] : Bytes).length = 64 ∧
      BigEndian.decode
        ((List.replicate 31 0 ++ [200] ++ List.replicate 31 0 ++ [7] : Bytes).take 32) =
        BigEndian.decode r ∧
      BigEndian.decode
        ((List.replicate 31 0 ++ [200] ++ List.replicate 31 0 ++ [7] : Bytes).drop 32) =
        BigEndian.decode s :=
  ⟨signature_framing.1 _ (by decide), (signature_framing.2.1 []).mpr (by decide),
    signature_framing.2.2 (encodeBytes [0, 200] ++ encodeBytes [7]) _ (by decide)⟩

/-- The shortest byte string that does not fit: with the name of the algorithm and the two inner
lengths it fills 2 ^ 32 bytes, one more than a length field can count. -/
theorem long_signature_not_reread :
    TaggedSignature.reread ⟨.ed25519, List.replicate (2 ^ 32 - 19) 0⟩ ≠
      .ok (List.replicate (2 ^ 32 - 19) 0) := by
  intro reread
  have fits := (TaggedSignature.reread_ed25519 _).mp reread
  rw [List.length_replicate] at fits
  omega

end Oxish
