import Oxish.NamedCore

/-!
The cryptographic interface of the protocol crate and its key derivation.

Trait objects without state are records of functions. The packet ciphers keep a nonce
counter, so they are classes over the type of their state. Slices that a cipher works on
in place cannot change their length, which `FixedBytes` records. A random source is the
sequence of outcomes it will produce, and a hash context is the input it has been fed. A provider
is described as it is at one moment: another moment has other `Draws`.
-/

namespace Oxish

structure RandomOutcome where
  bytes : Nat → UInt8
  result : Except CryptoError Unit

structure SecureRandom where
  outcomes : Nat → RandomOutcome
  drawn : Nat := 0

structure Filled (length : Nat) where
  random : SecureRandom
  bytes : FixedBytes length
  result : Except CryptoError Unit

-- A failing source leaves the buffer in whatever state it likes.
def SecureRandom.fill (random : SecureRandom) (length : Nat) : Filled length where
  random := { random with drawn := random.drawn + 1 }
  bytes := ⟨(List.range length).map (random.outcomes random.drawn).bytes, by simp⟩
  result := (random.outcomes random.drawn).result

def constantRandom (byte : UInt8) : SecureRandom where
  outcomes _ := { bytes := fun _ => byte, result := .ok () }

structure SealOutcome (σ : Type) (dataLength tagLength : Nat) where
  key : σ
  data : FixedBytes dataLength
  tag : FixedBytes tagLength
  result : Except (Stop CryptoError) Unit

class SealingKey (σ : Type) where
  sealInPlace : σ → UInt32 → (data tag : Bytes) → SealOutcome σ data.length tag.length
  counter : σ → UInt64
  blockLen : σ → Nat
  tagLen : σ → Nat

structure OpenOutcome (ρ : Type) (dataLength : Nat) where
  key : ρ
  data : FixedBytes dataLength
  result : Except CryptoError Unit

class OpeningKey (ρ : Type) where
  openInPlace : ρ → UInt32 → (data tag : Bytes) → OpenOutcome ρ data.length
  decryptPacketLength : ρ → UInt32 → FixedBytes 4 → ρ × FixedBytes 4
  counter : ρ → UInt64
  tagLen : ρ → Nat

structure Digest where
  bytes : Bytes
  bounded : bytes.length ≤ 64
  deriving DecidableEq

structure Hash where
  digest : Bytes → Digest
  outputLen : Nat
  digestLength : ∀ input, (digest input).bytes.length = outputLen
  outputLenPositive : 0 < outputLen

structure HashContext where
  hash : Hash
  input : Bytes

def Hash.start (hash : Hash) : HashContext := { hash, input := [] }

def HashContext.update (context : HashContext) (data : Bytes) : HashContext :=
  { context with input := context.input ++ data }

def HashContext.fork (context : HashContext) : HashContext := context

def HashContext.finish (context : HashContext) : Digest := context.hash.digest context.input

structure HandshakeHash where
  context : HashContext

def HandshakeHash.update (exchange : HandshakeHash) (data : Bytes) : HandshakeHash :=
  { context := exchange.context.update data }

def HandshakeHash.prefixed (exchange : HandshakeHash) (data : Bytes) : HandshakeHash :=
  { context := (exchange.context.update (encodeU32 (UInt32.ofNat data.length))).update data }

def HandshakeHash.finish (exchange : HandshakeHash) : Digest := exchange.context.finish

structure HandshakeBuffer where
  bytes : Bytes := []

def HandshakeBuffer.update (exchange : HandshakeBuffer) (data : Bytes) : HandshakeBuffer :=
  { bytes := exchange.bytes ++ data }

def HandshakeBuffer.prefixed (exchange : HandshakeBuffer) (data : Bytes) : HandshakeBuffer :=
  { bytes := exchange.bytes ++ encodeU32 (UInt32.ofNat data.length) ++ data }

def HandshakeBuffer.hash (exchange : HandshakeBuffer) (algorithm : Hash) : HandshakeHash :=
  { context := algorithm.start.update exchange.bytes }

inductive KeyInput
  | initialIvClientToServer
  | initialIvServerToClient
  | encryptionKeyClientToServer
  | encryptionKeyServerToClient
  deriving DecidableEq, Repr

def KeyInput.toByte : KeyInput → UInt8
  | .initialIvClientToServer => 65
  | .initialIvServerToClient => 66
  | .encryptionKeyClientToServer => 67
  | .encryptionKeyServerToClient => 68

structure KeyDerivation where
  hash : Hash
  sharedSecret : Bytes
  exchangeHash : Digest
  sessionId : Digest

structure KeySource where
  base : HashContext
  blockLen : Nat
  sessionId : Digest
  input : KeyInput

def KeyDerivation.key (derivation : KeyDerivation) (input : KeyInput) : KeySource where
  base := (derivation.hash.start.update derivation.sharedSecret).update derivation.exchangeHash.bytes
  blockLen := derivation.hash.outputLen
  sessionId := derivation.sessionId
  input := input

-- `key` is the filled prefix of the output, so its length is `have` in the source.
-- Every round adds at least one byte, hence `len` rounds are enough.
def KeySource.extend (source : KeySource) (len : Nat) : Nat → Bytes → Bytes
  | 0, key => key
  | rounds + 1, key =>
    if key.length < len then
      let block := (source.base.fork.update key).finish
      let take := min source.blockLen (len - key.length)
      source.extend len rounds (key ++ block.bytes.take take)
    else key

def KeySource.derive (source : KeySource) (len : Nat) : Bytes :=
  let block := ((source.base.fork.update [source.input.toByte]).update source.sessionId.bytes).finish
  source.extend len len (block.bytes.take (min block.bytes.length len))

structure KeySourceSide where
  algorithm : EncryptionAlgorithm
  initialIv : Bytes
  encryptionKey : Bytes
  deriving DecidableEq, Repr

def KeySourceSide.derived (derivation : KeyDerivation) (algorithm : EncryptionAlgorithm)
    (ivInput keyInput : KeyInput) : Except CryptoError KeySourceSide :=
  match algorithm.lengths with
  | none => .error .unknownAlgorithm
  | some { keyLen, ivLen } => .ok {
      algorithm
      initialIv := (derivation.key ivInput).derive ivLen
      encryptionKey := (derivation.key keyInput).derive keyLen }

def KeySourceSide.clientToServer (derivation : KeyDerivation) (algorithm : EncryptionAlgorithm) :
    Except CryptoError KeySourceSide :=
  KeySourceSide.derived derivation algorithm .initialIvClientToServer .encryptionKeyClientToServer

def KeySourceSide.serverToClient (derivation : KeyDerivation) (algorithm : EncryptionAlgorithm) :
    Except CryptoError KeySourceSide :=
  KeySourceSide.derived derivation algorithm .initialIvServerToClient .encryptionKeyServerToClient

structure AgreedKey where
  publicKey : Bytes
  sharedSecret : Bytes

structure KeyExchangeGroup where
  start : Except CryptoError (Bytes → Except CryptoError AgreedKey)

structure SigningKey where
  sign : Bytes → Bytes
  publicKey : Bytes
  algorithm : PublicKeyAlgorithm

structure VerifyingKey where
  verify : Bytes → Bytes → Except CryptoError Unit

structure SupportedAlgorithms where
  keyExchange : List KeyExchangeAlgorithm
  publicKey : List PublicKeyAlgorithm
  encryption : List EncryptionAlgorithm
  mac : List MacAlgorithm

structure CryptoProvider (σ ρ : Type) where
  signingKeyFromPkcs8 : Bytes → Except CryptoError SigningKey
  verifyingKey : Bytes → PublicKeyAlgorithm → Except CryptoError VerifyingKey
  openingKey : UInt64 → KeySourceSide → Except CryptoError ρ
  sealingKey : UInt64 → KeySourceSide → Except CryptoError σ
  keyExchange : KeyExchangeAlgorithm → Except CryptoError KeyExchangeGroup
  hash : KeyExchangeAlgorithm → Except CryptoError Hash
  supportedAlgorithms : SupportedAlgorithms
  secureRandom : SecureRandom

-- What a provider draws: the outcomes of its generator from here on, and key exchanges with the
-- ephemeral keys it makes. They are new with every use, while all the rest of it stays the same.
structure Draws where
  secureRandom : SecureRandom
  keyExchange : KeyExchangeAlgorithm → Except CryptoError KeyExchangeGroup

def CryptoProvider.drawing {σ ρ : Type} (provider : CryptoProvider σ ρ) (draws : Draws) :
    CryptoProvider σ ρ :=
  { provider with secureRandom := draws.secureRandom, keyExchange := draws.keyExchange }

end Oxish
