import Oxish.GcmCore

/-!
The two cryptographic providers. What they take from their libraries is a parameter; what
they add is the choice of an implementation for an algorithm, the composition of the hybrid
key exchange, and the error each failure is reported as.
-/

namespace Oxish

structure Ed25519KeyPair where
  publicKey : Bytes
  sign : Bytes → Bytes

structure EcdsaKeyPair where
  publicKey : Bytes
  sign : Bytes → Option Bytes

structure X25519PrivateKey where
  publicKey : Bytes
  publicKeyFails : Bool
  peerAccepted : Bytes → Bool
  agree : Bytes → Option Bytes

structure Encapsulated where
  ciphertext : Bytes
  secret : Bytes

structure Primitives where
  cipher : AesGcm
  sha256 : Bytes → FixedBytes 32
  ed25519FromPkcs8 : Bytes → Option Ed25519KeyPair
  ecdsaFromPkcs8 : Bytes → Option EcdsaKeyPair
  ed25519KeyAccepted : Bytes → Bool
  ecdsaKeyAccepted : Bytes → Bool
  ed25519Verifies : (key message signature : Bytes) → Bool
  ecdsaVerifies : (key message signature : Bytes) → Bool
  x25519Generate : Option X25519PrivateKey
  mlKem768EncapsulationKey : Bytes → Option (Option Encapsulated)
  random : SecureRandom

namespace Primitives

variable (primitives : Primitives)

def sha256Hash : Hash where
  digest input := ⟨(primitives.sha256 input).val, by rw [(primitives.sha256 input).property]; omega⟩
  outputLen := 32
  digestLength input := (primitives.sha256 input).property
  outputLenPositive := by omega

def mlKem768EncapsKeyLen : Nat := 1184

def orElse {α : Type} (error : CryptoError) : Option α → Except CryptoError α
  | some value => .ok value
  | none => .error error

def ed25519SigningKey (keyPair : Ed25519KeyPair) : SigningKey where
  sign := keyPair.sign
  publicKey := keyPair.publicKey
  algorithm := .ed25519

def ecdsaP256SigningKey (keyPair : EcdsaKeyPair) : SigningKey where
  sign message := (keyPair.sign message).getD []
  publicKey := keyPair.publicKey
  algorithm := .ecdsaSha2Nistp256

def signingKeyFromPkcs8 (pkcs8 : Bytes) : Except CryptoError SigningKey :=
  match primitives.ed25519FromPkcs8 pkcs8 with
  | some keyPair => .ok (ed25519SigningKey keyPair)
  | none => (orElse .keyRejected (primitives.ecdsaFromPkcs8 pkcs8)).map ecdsaP256SigningKey

def verifyingKeyOf (verifies : (message signature : Bytes) → Bool) : VerifyingKey where
  verify message signature :=
    if verifies message signature then .ok () else .error .verificationFailed

end Primitives

open Primitives

def AwsLc.verifyingKey (primitives : Primitives) (key : Bytes) :
    PublicKeyAlgorithm → Except CryptoError VerifyingKey
  | .ecdsaSha2Nistp256 => .ok (verifyingKeyOf (primitives.ecdsaVerifies key))
  | .ed25519 => .ok (verifyingKeyOf (primitives.ed25519Verifies key))
  | .unknown _ => .error .unknownAlgorithm

def Graviola.verifyingKey (primitives : Primitives) (key : Bytes) :
    PublicKeyAlgorithm → Except CryptoError VerifyingKey
  | .ecdsaSha2Nistp256 =>
    if primitives.ecdsaKeyAccepted key then .ok (verifyingKeyOf (primitives.ecdsaVerifies key))
    else .error .keyRejected
  | .ed25519 =>
    if primitives.ed25519KeyAccepted key then .ok (verifyingKeyOf (primitives.ed25519Verifies key))
    else .error .keyRejected
  | .unknown _ => .error .unknownAlgorithm

def AwsLc.x25519 (primitives : Primitives) (peerPublicKey : Bytes) :
    Except CryptoError AgreedKey := do
  let privateKey ← orElse .keyGenerationFailed primitives.x25519Generate
  if privateKey.publicKeyFails then .error .unspecified
  else
    let sharedSecret ← orElse .keyAgreementFailed (privateKey.agree peerPublicKey)
    .ok { publicKey := privateKey.publicKey, sharedSecret }

def Graviola.x25519 (primitives : Primitives) (peerPublicKey : Bytes) :
    Except CryptoError AgreedKey := do
  let privateKey ← orElse .noRandomness primitives.x25519Generate
  if privateKey.peerAccepted peerPublicKey then
    let sharedSecret ← orElse .keyAgreementFailed (privateKey.agree peerPublicKey)
    .ok { publicKey := privateKey.publicKey, sharedSecret }
  else .error .keyRejected

def mlKem768X25519 (primitives : Primitives) (rejected : CryptoError)
    (x25519 : Bytes → Except CryptoError AgreedKey) (peerPublicKey : Bytes) :
    Except CryptoError AgreedKey :=
  if peerPublicKey.length < mlKem768EncapsKeyLen then .error .invalidLength
  else do
    let encapsKey ← orElse rejected
      (primitives.mlKem768EncapsulationKey (peerPublicKey.take mlKem768EncapsKeyLen))
    let encapsulated ← orElse .keyAgreementFailed encapsKey
    let classic ← x25519 (peerPublicKey.drop mlKem768EncapsKeyLen)
    .ok {
      publicKey := encapsulated.ciphertext ++ classic.publicKey
      sharedSecret := (primitives.sha256 (encapsulated.secret ++ classic.sharedSecret)).val }

namespace Backend

variable (backend : Backend) (primitives : Primitives)

def verifyingKey (key : Bytes) (algorithm : PublicKeyAlgorithm) : Except CryptoError VerifyingKey :=
  match backend with
  | .awsLc => AwsLc.verifyingKey primitives key algorithm
  | .graviola => Graviola.verifyingKey primitives key algorithm

def x25519 (peerPublicKey : Bytes) : Except CryptoError AgreedKey :=
  match backend with
  | .awsLc => AwsLc.x25519 primitives peerPublicKey
  | .graviola => Graviola.x25519 primitives peerPublicKey

-- A rejected encapsulation key is reported differently by the two.
def encapsKeyRejected : CryptoError :=
  match backend with
  | .awsLc => .keyRejected
  | .graviola => .keyAgreementFailed

def gcmState (counter : UInt64) (source : KeySourceSide) : Except CryptoError GcmState :=
  match source.algorithm with
  | .aes128Gcm => GcmState.new backend counter source
  | .unknown _ => .error .unknownAlgorithm

def keyExchange : KeyExchangeAlgorithm → Except CryptoError KeyExchangeGroup
  | .mlKem768X25519Sha256 =>
    .ok ⟨.ok (mlKem768X25519 primitives backend.encapsKeyRejected (backend.x25519 primitives))⟩
  | .curve25519Sha256 => .ok ⟨.ok (backend.x25519 primitives)⟩
  | .unknown _ => .error .unknownAlgorithm

def hash : KeyExchangeAlgorithm → Except CryptoError Hash
  | .mlKem768X25519Sha256 | .curve25519Sha256 => .ok primitives.sha256Hash
  | .unknown _ => .error .unknownAlgorithm

def supportedAlgorithms : SupportedAlgorithms where
  keyExchange := [.mlKem768X25519Sha256, .curve25519Sha256]
  publicKey := [.ecdsaSha2Nistp256, .ed25519]
  encryption := [.aes128Gcm]
  mac := [.none]

def provider : CryptoProvider (Aes128GcmSealer backend primitives.cipher)
    (Aes128GcmOpener backend primitives.cipher) where
  signingKeyFromPkcs8 := primitives.signingKeyFromPkcs8
  verifyingKey := backend.verifyingKey primitives
  openingKey counter source := (backend.gcmState counter source).map fun state => ⟨state⟩
  sealingKey counter source := (backend.gcmState counter source).map fun state => ⟨state⟩
  keyExchange := backend.keyExchange primitives
  hash := Backend.hash primitives
  supportedAlgorithms := supportedAlgorithms
  secureRandom := primitives.random

end Backend

def plainPrimitives : Primitives where
  cipher := identityCipher
  sha256 _ := .replicate 32 0
  ed25519FromPkcs8 _ := some { publicKey := [1], sign := fun _ => [2] }
  ecdsaFromPkcs8 _ := none
  ed25519KeyAccepted _ := true
  ecdsaKeyAccepted _ := true
  ed25519Verifies _ _ _ := true
  ecdsaVerifies _ _ _ := true
  x25519Generate := some {
    publicKey := [9]
    publicKeyFails := false
    peerAccepted := fun _ => true
    agree := fun _ => some [5] }
  mlKem768EncapsulationKey _ := none
  random := constantRandom 3

abbrev PlainSealer := Aes128GcmSealer .awsLc identityCipher

abbrev PlainOpener := Aes128GcmOpener .awsLc identityCipher

def plainProvider : CryptoProvider PlainSealer PlainOpener := Backend.awsLc.provider plainPrimitives

end Oxish
