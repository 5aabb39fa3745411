import Oxish.CryptoCore

/-!
The AES-128-GCM packet ciphers of the two cryptographic backends. The nonce state and its
two operations are the same in both; the backends differ in the order in which they check
the key material and in how sealing can fail. The block cipher itself is a parameter.
-/

namespace Oxish

def fixed? (length : Nat) (bytes : Bytes) : Option (FixedBytes length) :=
  if same : bytes.length = length then some ⟨bytes, same⟩ else none

structure GcmState where
  key : FixedBytes 16
  nonce : FixedBytes 12
  counter : UInt64
  deriving DecidableEq

namespace GcmState

def counterPart (state : GcmState) : Nat := BigEndian.decode (state.nonce.val.drop 4)

-- The last eight of twelve bytes always exist, so the `InvalidLength` arm is not modelled.
-- The addition on `counter` wraps as it does in a release build.
def increment (state : GcmState) (delta : UInt64) : GcmState × Except CryptoError Unit :=
  let new := state.counterPart + delta.toNat
  if new < 2 ^ 64 then
    ({ state with
        nonce := ⟨state.nonce.val.take 4 ++ BigEndian.encode 8 new, by simp [state.nonce.property]⟩
        counter := state.counter + delta }, .ok ())
  else (state, .error .nonceOverflow)

def nextNonce (state : GcmState) : GcmState × Except CryptoError (FixedBytes 12) :=
  match state.increment 1 with
  | (next, .error error) => (next, .error error)
  | (next, .ok ()) => (next, .ok state.nonce)

def advanced (state : GcmState) (counter : UInt64) : Except CryptoError GcmState :=
  match state.increment counter with
  | (_, .error error) => .error error
  | (new, .ok ()) => .ok new

end GcmState

inductive Backend
  | awsLc
  | graviola
  deriving DecidableEq, Repr

def AwsLc.gcmState (counter : UInt64) (source : KeySourceSide) : Except CryptoError GcmState :=
  match fixed? 12 source.initialIv with
  | none => .error .invalidLength
  | some nonce =>
    match fixed? 16 source.encryptionKey with
    | none => .error .invalidLength
    | some key => GcmState.advanced { key, nonce, counter := 0 } counter

def Graviola.gcmState (counter : UInt64) (source : KeySourceSide) : Except CryptoError GcmState :=
  match fixed? 16 source.encryptionKey with
  | none => .error .invalidLength
  | some key =>
    match fixed? 12 source.initialIv with
    | none => .error .invalidLength
    | some nonce => GcmState.advanced { key, nonce, counter := 0 } counter

def GcmState.new : Backend → UInt64 → KeySourceSide → Except CryptoError GcmState
  | .awsLc => AwsLc.gcmState
  | .graviola => Graviola.gcmState

-- `refused` is what a seal that the AWS-LC backend refuses leaves in the buffer.
structure AesGcm where
  encrypt : FixedBytes 16 → FixedBytes 12 → (aad plaintext : Bytes) →
    FixedBytes plaintext.length × FixedBytes 16
  decrypt : FixedBytes 16 → FixedBytes 12 → (aad tag ciphertext : Bytes) →
    FixedBytes ciphertext.length × Bool
  refused : FixedBytes 16 → FixedBytes 12 → (aad plaintext : Bytes) →
    Option (FixedBytes plaintext.length)

structure Aes128GcmSealer (backend : Backend) (cipher : AesGcm) where
  state : GcmState

structure Aes128GcmOpener (backend : Backend) (cipher : AesGcm) where
  state : GcmState

variable {backend : Backend} {cipher : AesGcm}

def tagLen : Nat := 16

def AwsLc.sealInPlace (sealer : Aes128GcmSealer .awsLc cipher) (_seq : UInt32) (data tag : Bytes) :
    SealOutcome (Aes128GcmSealer .awsLc cipher) data.length tag.length :=
  match sealer.state.nextNonce with
  | (state, .error error) => ⟨⟨state⟩, ⟨data, rfl⟩, ⟨tag, rfl⟩, .error (.error error)⟩
  | (state, .ok nonce) =>
    if enough : 4 ≤ data.length then
      match cipher.refused state.key nonce (data.take 4) (data.drop 4) with
      | some left =>
        ⟨⟨state⟩, ⟨data.take 4 ++ left.val, by simp [left.property]; omega⟩, ⟨tag, rfl⟩,
          .error (.error .encryptionFailed)⟩
      | none =>
        let (ciphertext, computed) := cipher.encrypt state.key nonce (data.take 4) (data.drop 4)
        let data : FixedBytes data.length :=
          ⟨data.take 4 ++ ciphertext.val, by simp [ciphertext.property]; omega⟩
        if same : tag.length = tagLen then
          ⟨⟨state⟩, data, ⟨computed.val, by rw [computed.property, same]; rfl⟩, .ok ()⟩
        else
          ⟨⟨state⟩, data, ⟨tag, rfl⟩, .error (.panic "copy_from_slice: lengths differ")⟩
    else ⟨⟨state⟩, ⟨data, rfl⟩, ⟨tag, rfl⟩, .error (.error .invalidLength)⟩

def Graviola.sealInPlace (sealer : Aes128GcmSealer .graviola cipher) (_seq : UInt32)
    (data tag : Bytes) : SealOutcome (Aes128GcmSealer .graviola cipher) data.length tag.length :=
  match sealer.state.nextNonce with
  | (state, .error error) => ⟨⟨state⟩, ⟨data, rfl⟩, ⟨tag, rfl⟩, .error (.error error)⟩
  | (state, .ok nonce) =>
    if enough : 4 ≤ data.length then
      if fits : tagLen ≤ tag.length then
        let (ciphertext, computed) := cipher.encrypt state.key nonce (data.take 4) (data.drop 4)
        ⟨⟨state⟩, ⟨data.take 4 ++ ciphertext.val, by simp [ciphertext.property]; omega⟩,
          ⟨computed.val ++ tag.drop tagLen,
            by simp only [List.length_append, List.length_drop, computed.property, tagLen] at fits ⊢
               omega⟩, .ok ()⟩
      else ⟨⟨state⟩, ⟨data, rfl⟩, ⟨tag, rfl⟩, .error (.error .invalidLength)⟩
    else ⟨⟨state⟩, ⟨data, rfl⟩, ⟨tag, rfl⟩, .error (.error .invalidLength)⟩

def Aes128GcmSealer.sealInPlace : {backend : Backend} → Aes128GcmSealer backend cipher → UInt32 →
    (data tag : Bytes) → SealOutcome (Aes128GcmSealer backend cipher) data.length tag.length
  | .awsLc => AwsLc.sealInPlace
  | .graviola => Graviola.sealInPlace

instance : SealingKey (Aes128GcmSealer backend cipher) where
  sealInPlace := Aes128GcmSealer.sealInPlace
  counter sealer := sealer.state.counter
  blockLen _ := 16
  tagLen _ := tagLen

def Aes128GcmOpener.openInPlace (opener : Aes128GcmOpener backend cipher) (_seq : UInt32)
    (data tag : Bytes) : OpenOutcome (Aes128GcmOpener backend cipher) data.length :=
  match opener.state.nextNonce with
  | (state, .error error) => ⟨⟨state⟩, ⟨data, rfl⟩, .error error⟩
  | (state, .ok nonce) =>
    if enough : 4 ≤ data.length then
      let (plaintext, verified) := cipher.decrypt state.key nonce (data.take 4) tag (data.drop 4)
      ⟨⟨state⟩, ⟨data.take 4 ++ plaintext.val, by simp [plaintext.property]; omega⟩,
        if verified then .ok () else .error .decryptionFailed⟩
    else ⟨⟨state⟩, ⟨data, rfl⟩, .error .invalidLength⟩

instance : OpeningKey (Aes128GcmOpener backend cipher) where
  openInPlace := Aes128GcmOpener.openInPlace
  decryptPacketLength opener _ encrypted := (opener, encrypted)
  counter opener := opener.state.counter
  tagLen _ := tagLen

-- A buffer that is left as it was.
def FixedBytes.whole (bytes : Bytes) : FixedBytes bytes.length := ⟨bytes, rfl⟩

-- A cipher that hides nothing, to evaluate the model with.
def identityCipher : AesGcm where
  encrypt _ _ _ plaintext := (⟨plaintext, rfl⟩, ⟨List.replicate 16 0, rfl⟩)
  decrypt _ _ _ _ ciphertext := (⟨ciphertext, rfl⟩, true)
  refused _ _ _ _ := none

end Oxish
