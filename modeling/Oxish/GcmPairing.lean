import Oxish.TransportCore

/-!
AES-GCM sealers and openers as matching ends: they match when they hold the same state, and a
cipher whose decryption undoes its encryption keeps them matching.
-/

namespace Oxish

variable {backend : Backend} {cipher : AesGcm}

structure AesGcm.Lawful (cipher : AesGcm) : Prop where
  decrypts : ∀ key nonce aad plaintext,
    (cipher.decrypt key nonce aad (cipher.encrypt key nonce aad plaintext).2.val
      (cipher.encrypt key nonce aad plaintext).1.val).1.val = plaintext ∧
    (cipher.decrypt key nonce aad (cipher.encrypt key nonce aad plaintext).2.val
      (cipher.encrypt key nonce aad plaintext).1.val).2 = true

namespace Aes128GcmSealer

/-- A successful seal, in both backends: the next nonce is used up, the length field stays in
clear and the rest is replaced by the ciphertext. -/
structure Sealed (sealer : Aes128GcmSealer backend cipher) (data tag : Bytes)
    (outcome : SealOutcome (Aes128GcmSealer backend cipher) data.length tag.length)
    (nonce : FixedBytes 12) : Prop where
  drawn : sealer.state.nextNonce = (outcome.key.state, .ok nonce)
  enough : 4 ≤ data.length
  sealedData : outcome.data.val = data.take 4 ++
    (cipher.encrypt outcome.key.state.key nonce (data.take 4) (data.drop 4)).1.val
  computedTag : outcome.tag.val =
    (cipher.encrypt outcome.key.state.key nonce (data.take 4) (data.drop 4)).2.val

theorem sealInPlace_ok (sealer : Aes128GcmSealer backend cipher) (number : UInt32)
    (data tag : Bytes) (tagLength : tag.length = tagLen)
    (accepted : (sealer.sealInPlace number data tag).result = .ok ()) :
    ∃ nonce, Sealed sealer data tag (sealer.sealInPlace number data tag) nonce := by
  have tagFits : tagLen ≤ tag.length := Nat.le_of_eq tagLength.symm
  cases backend with
  | awsLc =>
      simp only [sealInPlace, AwsLc.sealInPlace] at accepted ⊢
      split at accepted
      · cases accepted
      · rename_i next nonce drawn
        split at accepted
        · rename_i enough
          split at accepted
          · cases accepted
          · rename_i accepting
            simp only [dif_pos enough, dif_pos tagLength]
            exact ⟨nonce, drawn, enough, rfl, rfl⟩
        · cases accepted
  | graviola =>
      simp only [sealInPlace, Graviola.sealInPlace] at accepted ⊢
      split at accepted
      · cases accepted
      · rename_i next nonce drawn
        split at accepted
        · rename_i enough
          simp only [dif_pos enough, dif_pos tagFits]
          refine ⟨nonce, drawn, enough, rfl, ?_⟩
          simp [← tagLength]
        · cases accepted

end Aes128GcmSealer

theorem Aes128GcmOpener.openInPlace_sealed (lawful : cipher.Lawful)
    {sealer : Aes128GcmSealer backend cipher} {opener : Aes128GcmOpener backend cipher}
    (sameState : opener.state = sealer.state) (number : UInt32) {data tag : Bytes}
    {outcome : SealOutcome (Aes128GcmSealer backend cipher) data.length tag.length}
    {nonce : FixedBytes 12} (sealed : sealer.Sealed data tag outcome nonce) :
    (opener.openInPlace number outcome.data.val outcome.tag.val).result = .ok () ∧
      (opener.openInPlace number outcome.data.val outcome.tag.val).data.val = data ∧
      (opener.openInPlace number outcome.data.val outcome.tag.val).key.state =
        outcome.key.state := by
  have enough : 4 ≤ outcome.data.val.length := by
    rw [outcome.data.property]
    exact sealed.enough
  have first : (data.take 4).length = 4 := by
    rw [List.length_take]
    have bound := sealed.enough
    omega
  have field : outcome.data.val.take 4 = data.take 4 := by
    rw [sealed.sealedData, List.take_left' first]
  have body : outcome.data.val.drop 4 =
      (cipher.encrypt outcome.key.state.key nonce (data.take 4) (data.drop 4)).1.val := by
    rw [sealed.sealedData, List.drop_left' first]
  obtain ⟨plaintext, verified⟩ :=
    lawful.decrypts outcome.key.state.key nonce (data.take 4) (data.drop 4)
  simp only [openInPlace, sameState, sealed.drawn, dif_pos enough]
  rw [field, sealed.computedTag, body, verified, plaintext, List.take_append_drop]
  exact ⟨rfl, rfl, trivial⟩

def gcmPairing (backend : Backend) (cipher : AesGcm) (lawful : cipher.Lawful) :
    Pairing (Aes128GcmSealer backend cipher) (Aes128GcmOpener backend cipher) where
  Matching sealer opener := opener.state = sealer.state
  lengthPure _ _ _ := rfl
  blockLen _ := show 16 ≤ 252 by decide
  tagLen _ := rfl
  lengthField {sealer opener} _ number data tag tagLength accepted field sameField := by
    obtain ⟨nonce, sealed⟩ := sealer.sealInPlace_ok number data tag tagLength accepted
    have first : (data.take 4).length = 4 := by
      rw [List.length_take]
      have bound := sealed.enough
      omega
    change field.val = data.take 4
    rw [sameField]
    change (sealer.sealInPlace number data tag).data.val.take 4 = _
    rw [sealed.sealedData, List.take_left' first]
  opens {sealer opener} matching number data tag tagLength accepted := by
    obtain ⟨nonce, sealed⟩ := sealer.sealInPlace_ok number data tag tagLength accepted
    exact Aes128GcmOpener.openInPlace_sealed lawful matching number sealed

theorem identityCipher_lawful : identityCipher.Lawful where
  decrypts _ _ _ _ := ⟨rfl, rfl⟩

end Oxish
