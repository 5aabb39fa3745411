import Oxish.PacketEncoding

/-!
The padding of outgoing packets. Its length is computed by two rounding rules, one for the block
size and the smallest packet and one for the smallest padding; together they always give a frame
of whole blocks whose padding fits its one-byte field.
-/

namespace Oxish.WriteState

theorem nextMultipleOf_bounds {factor : Nat} (positive : 0 < factor) (value : Nat) :
    value ≤ nextMultipleOf value factor ∧ nextMultipleOf value factor < value + factor := by
  have remainder : value % factor < factor := Nat.mod_lt value positive
  unfold nextMultipleOf
  split
  · omega
  · omega

theorem dvd_nextMultipleOf {factor : Nat} (positive : 0 < factor) (value : Nat) :
    factor ∣ nextMultipleOf value factor := by
  unfold nextMultipleOf
  split
  · rename_i whole
    exact Nat.dvd_of_mod_eq_zero whole
  · have remainder : value % factor < factor := Nat.mod_lt value positive
    have split := Nat.div_add_mod value factor
    refine ⟨value / factor + 1, ?_⟩
    rw [Nat.mul_add, Nat.mul_one]
    omega

theorem paddingLen_bounds {blockSize region : Nat} (large : 8 ≤ blockSize)
    (small : blockSize ≤ 252) :
    4 ≤ paddingLen blockSize region ∧ paddingLen blockSize region ≤ 255 := by
  have rounded := nextMultipleOf_bounds (show 0 < blockSize by omega) region
  unfold paddingLen
  simp only
  split
  · omega
  · omega

theorem region_add_paddingLen {blockSize : Nat} (positive : 0 < blockSize) (region : Nat) :
    region + paddingLen blockSize region = max (nextMultipleOf region blockSize) 16 ∨
      region + paddingLen blockSize region = max (nextMultipleOf region blockSize) 16 + blockSize := by
  have rounded := nextMultipleOf_bounds positive region
  unfold paddingLen
  simp only
  split
  · right
    omega
  · left
    omega

theorem padded_region {blockSize region : Nat} (positive : 0 < blockSize)
    (blocks : blockSize ∣ 16 ∨ 16 ≤ blockSize) (nonempty : 1 ≤ region) :
    blockSize ∣ region + paddingLen blockSize region ∧
      16 ≤ region + paddingLen blockSize region := by
  have whole := dvd_nextMultipleOf positive region
  have rounded := nextMultipleOf_bounds positive region
  have least : blockSize ∣ max (nextMultipleOf region blockSize) 16 := by
    rcases blocks with divides | large
    · rcases Nat.le_total (nextMultipleOf region blockSize) 16 with below | above
      · rwa [Nat.max_eq_right below]
      · rwa [Nat.max_eq_left above]
    · have reached := Nat.le_of_dvd (by omega) whole
      rwa [Nat.max_eq_left (by omega)]
  rcases region_add_paddingLen positive region with same | same
  · rw [same]
    exact ⟨least, by omega⟩
  · rw [same]
    exact ⟨Nat.dvd_add least (Nat.dvd_refl _), by omega⟩

variable {σ : Type} [SealingKey σ]

theorem eight_le_blockSize (sealer : Option σ) : 8 ≤ blockSize sealer := Nat.le_max_right _ _

theorem blockSize_le {sealer : Option σ} {bound : Nat} (large : 8 ≤ bound)
    (small : ∀ key, sealer = some key → SealingKey.blockLen key ≤ bound) :
    blockSize sealer ≤ bound := by
  cases sealer with
  | none =>
      rw [blockSize]
      omega
  | some key =>
      have block := small key rfl
      rw [blockSize]
      omega

theorem drawPadding_bounds {writer : WriteState σ} (payload : Bytes)
    (small : ∀ sealer, writer.sealer = some sealer → SealingKey.blockLen sealer ≤ 252) :
    4 ≤ (writer.drawPadding payload).bytes.val.length ∧
      (writer.drawPadding payload).bytes.val.length ≤ 255 := by
  rw [(writer.drawPadding payload).bytes.property]
  exact paddingLen_bounds (eight_le_blockSize _) (blockSize_le (by decide) small)

theorem blockSize_power {sealer : Option σ}
    (power : ∀ key, sealer = some key → ∃ exponent, SealingKey.blockLen key = 2 ^ exponent) :
    blockSize sealer ∣ 16 ∨ 16 ≤ blockSize sealer := by
  cases sealer with
  | none =>
      left
      change 8 ∣ 16
      decide
  | some key =>
      obtain ⟨exponent, block⟩ := power key rfl
      simp only [blockSize, block]
      by_cases small : exponent ≤ 3
      · left
        have fits : 2 ^ exponent ≤ 8 := Nat.pow_le_pow_right (by decide) small
        rw [Nat.max_eq_right fits]
        decide
      · right
        have reaches : 2 ^ 4 ≤ 2 ^ exponent := Nat.pow_le_pow_right (by decide) (by omega)
        omega

/-- A frame with its padding: the two fields say how long it is, and the region that is padded is
made of whole blocks. -/
structure WellPadded (sealer : Option σ) (payload padding : Bytes) : Prop where
  enough : 4 ≤ padding.length
  small : padding.length ≤ 255
  lengthField : BigEndian.decode ((packet payload padding).take 4) =
    1 + payload.length + padding.length
  paddingField : ∃ byte, (packet payload padding)[4]? = some byte ∧ byte.toNat = padding.length
  aligned : blockSize sealer ∣ (packet payload padding).length - unencryptedLen sealer
  least : 16 ≤ (packet payload padding).length - unencryptedLen sealer

theorem packet_lengthField {payload padding : Bytes}
    (fits : 1 + payload.length + padding.length < 2 ^ 32) :
    BigEndian.decode ((packet payload padding).take 4) = 1 + payload.length + padding.length := by
  rw [packet, List.take_left' (length_encodeU32 _), encodeU32, toNat_ofNat_of_lt fits]
  exact BigEndian.decode_encode_of_lt fits

theorem packet_paddingField {payload padding : Bytes} (small : padding.length ≤ 255) :
    ∃ byte, (packet payload padding)[4]? = some byte ∧ byte.toNat = padding.length := by
  refine ⟨UInt8.ofNat padding.length, ?_, ?_⟩
  · have front := length_encodeU32 (UInt32.ofNat (1 + payload.length + padding.length))
    rw [packet, List.getElem?_append_right (by omega), front]
    rfl
  · rw [UInt8.toNat_ofNat', Nat.mod_eq_of_lt (by omega)]

theorem drawPadding_wellPadded (state : WriteState σ) (payload : Bytes)
    (blocks : ∀ sealer, state.sealer = some sealer →
      ∃ exponent ≤ 7, SealingKey.blockLen sealer = 2 ^ exponent)
    (fits : 1 + payload.length + (state.drawPadding payload).bytes.val.length < 2 ^ 32) :
    WellPadded state.sealer payload (state.drawPadding payload).bytes.val := by
  have power : ∀ sealer, state.sealer = some sealer →
      ∃ exponent, SealingKey.blockLen sealer = 2 ^ exponent := by
    intro sealer installed
    obtain ⟨exponent, _, block⟩ := blocks sealer installed
    exact ⟨exponent, block⟩
  have narrow : ∀ sealer, state.sealer = some sealer → SealingKey.blockLen sealer ≤ 252 := by
    intro sealer installed
    obtain ⟨exponent, bound, block⟩ := blocks sealer installed
    have reaches : 2 ^ exponent ≤ 2 ^ 7 := Nat.pow_le_pow_right (by decide) bound
    omega
  obtain ⟨enough, small⟩ := drawPadding_bounds payload narrow
  have clear : unencryptedLen state.sealer ≤ 4 := by
    unfold unencryptedLen
    split
    · exact Nat.le_refl 4
    · exact Nat.zero_le 4
  have region : (packet payload (state.drawPadding payload).bytes.val).length -
      unencryptedLen state.sealer = regionLen state.sealer payload +
        paddingLen (blockSize state.sealer) (regionLen state.sealer payload) := by
    rw [length_packet, (state.drawPadding payload).bytes.property, regionLen]
    omega
  have large := eight_le_blockSize state.sealer
  have nonempty : 1 ≤ regionLen state.sealer payload := by
    rw [regionLen]
    omega
  obtain ⟨aligned, least⟩ := padded_region (show 0 < blockSize state.sealer by omega)
    (blockSize_power power) nonempty
  exact ⟨enough, small, packet_lengthField fits, packet_paddingField small, region ▸ aligned,
    region ▸ least⟩

theorem encodeKx_ok_iff (state : WriteState σ) (payload : Bytes)
    (exchangeHash : Option HandshakeHash) :
    (state.encodeKx payload exchangeHash).result = .ok () ↔
      (state.drawPadding payload).result = .ok () ∧ ∀ sealer, state.sealer = some sealer →
        (state.sealDrawn payload sealer).result = .ok () := by
  constructor
  · exact encodeKx_ok state payload exchangeHash
  · rintro ⟨drawn, sealed⟩
    rcases Option.eq_none_or_eq_some state.sealer with unsealed | ⟨sealer, installed⟩
    · rw [encodeKx_plain state payload exchangeHash drawn unsealed]
    · rw [encodeKx_sealed state payload exchangeHash drawn installed, sealed sealer installed]

/-- Every packet that is emitted is a frame with well-formed padding: as it is without a sealer,
and as the sealer's input, with a tag of the sealer's length behind it, otherwise. -/
theorem padding_rules (state : WriteState σ) (payload : Bytes) (exchangeHash : Option HandshakeHash)
    (blocks : ∀ sealer, state.sealer = some sealer →
      ∃ exponent ≤ 7, SealingKey.blockLen sealer = 2 ^ exponent)
    (fits : 1 + payload.length +
      paddingLen (blockSize state.sealer) (regionLen state.sealer payload) < 2 ^ 32) :
    ((state.encodeKx payload exchangeHash).result = .ok () ↔
      (state.drawPadding payload).result = .ok () ∧ ∀ sealer, state.sealer = some sealer →
        (state.sealDrawn payload sealer).result = .ok ()) ∧
    ((state.encodeKx payload exchangeHash).result = .ok () →
      ∃ padding, WellPadded state.sealer payload padding ∧
        (state.sealer = none →
          (state.encodeKx payload exchangeHash).state.buf = state.buf ++ packet payload padding) ∧
        ∀ sealer, state.sealer = some sealer →
          ∃ sealed : SealOutcome σ (packet payload padding).length
              (List.replicate (SealingKey.tagLen sealer) (0 : UInt8)).length,
            sealed = SealingKey.sealInPlace sealer state.sequenceNumber (packet payload padding)
              (List.replicate (SealingKey.tagLen sealer) 0) ∧
            (state.encodeKx payload exchangeHash).state.buf =
              state.buf ++ (sealed.data.val ++ sealed.tag.val) ∧
            sealed.data.val.length = (packet payload padding).length ∧
            sealed.tag.val.length = SealingKey.tagLen sealer) := by
  refine ⟨encodeKx_ok_iff state payload exchangeHash, fun accepted => ?_⟩
  obtain ⟨drawn, opened⟩ := encodeKx_ok state payload exchangeHash accepted
  rw [← (state.drawPadding payload).bytes.property] at fits
  refine ⟨_, drawPadding_wellPadded state payload blocks fits, ?_, ?_⟩
  · intro unsealed
    rw [encodeKx_plain state payload exchangeHash drawn unsealed]
  · intro sealer installed
    refine ⟨state.sealDrawn payload sealer, rfl, ?_, (state.sealDrawn payload sealer).data.property,
      ?_⟩
    · rw [encodeKx_sealed state payload exchangeHash drawn installed, opened sealer installed]
      rfl
    · rw [(state.sealDrawn payload sealer).tag.property, List.length_replicate]

def clearWriter : WriteState (Aes128GcmSealer .awsLc identityCipher) := .new (constantRandom 7)

def sealingWriter : WriteState (Aes128GcmSealer .awsLc identityCipher) :=
  { clearWriter with
    sealer := some ⟨{ key := .replicate 16 0, nonce := .replicate 12 0, counter := 0 }⟩ }

theorem padding_rules_clear_and_sealed :
    (∃ padding, WellPadded clearWriter.sealer [21] padding ∧
      (clearWriter.encodeKx [21] none).state.buf = packet [21] padding) ∧
    ∃ padding, WellPadded sealingWriter.sealer [21] padding ∧
      ∃ data tag, (sealingWriter.encodeKx [21] none).state.buf = data ++ tag ∧
        data.length = (packet [21] padding).length ∧ tag.length = 16 := by
  obtain ⟨_, emitted⟩ := padding_rules clearWriter [21] none nofun (by decide)
  obtain ⟨padding, wellPadded, clear, _⟩ := emitted rfl
  refine ⟨⟨padding, wellPadded, clear rfl⟩, ?_⟩
  obtain ⟨_, emitted⟩ := padding_rules sealingWriter [21] none
    (fun _ _ => ⟨4, by decide, rfl⟩) (by decide)
  obtain ⟨padding, wellPadded, _, covered⟩ := emitted rfl
  obtain ⟨sealed, _, appended, data, tag⟩ := covered _ rfl
  exact ⟨padding, wellPadded, sealed.data.val, sealed.tag.val, appended, data, tag⟩

end Oxish.WriteState
