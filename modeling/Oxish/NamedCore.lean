import Oxish.ProtoCore

/-!
Named algorithms, services and methods, and the name lists that carry them.
A name the implementation does not know is kept as text.
-/

namespace Oxish

class Named (α : Type) where
  typed : String → α
  name : α → String

def decodeNamed {α : Type} [Named α] (bytes : Bytes) : Except ProtoError (Decoded α) := do
  let ⟨value, next⟩ ← decodeBytes bytes
  match fromUtf8 value with
  | none => .error (.invalidPacket "invalid UTF-8 in named value")
  | some name => .ok ⟨Named.typed name, next⟩

def encodeNamed {α : Type} [Named α] (value : α) : Bytes :=
  encodeBytes (strBytes (Named.name value))

inductive MethodName
  | publicKey
  | password
  | hostBased
  | none
  | unknown (name : String)
  deriving Repr

instance : Named MethodName where
  typed
    | "publickey" => .publicKey
    | "password" => .password
    | "hostbased" => .hostBased
    | "none" => .none
    | name => .unknown name
  name
    | .publicKey => "publickey"
    | .password => "password"
    | .hostBased => "hostbased"
    | .none => "none"
    | .unknown name => name

inductive ServiceName
  | userAuth
  | connection
  | unknown (name : String)
  deriving Repr

instance : Named ServiceName where
  typed
    | "ssh-userauth" => .userAuth
    | "ssh-connection" => .connection
    | name => .unknown name
  name
    | .userAuth => "ssh-userauth"
    | .connection => "ssh-connection"
    | .unknown name => name

-- The source compares service names by their text.
instance : BEq ServiceName where
  beq left right := Named.name left == Named.name right

inductive ExtensionName
  | serverSigAlgs
  | unknown (name : String)
  deriving DecidableEq, Repr

instance : Named ExtensionName where
  typed
    | "server-sig-algs" => .serverSigAlgs
    | name => .unknown name
  name
    | .serverSigAlgs => "server-sig-algs"
    | .unknown name => name

inductive ChannelType
  | session
  | unknown (name : String)
  deriving DecidableEq, Repr

instance : Named ChannelType where
  typed
    | "session" => .session
    | name => .unknown name
  name
    | .session => "session"
    | .unknown name => name

inductive KeyExchangeAlgorithm
  | mlKem768X25519Sha256
  | curve25519Sha256
  | unknown (name : String)
  deriving DecidableEq, Repr

def KeyExchangeAlgorithm.postQuantumSecure : KeyExchangeAlgorithm → Bool
  | .mlKem768X25519Sha256 => true
  | .curve25519Sha256 | .unknown _ => false

instance : Named KeyExchangeAlgorithm where
  typed
    | "mlkem768x25519-sha256" => .mlKem768X25519Sha256
    | "curve25519-sha256" => .curve25519Sha256
    | name => .unknown name
  name
    | .mlKem768X25519Sha256 => "mlkem768x25519-sha256"
    | .curve25519Sha256 => "curve25519-sha256"
    | .unknown name => name

inductive ExtensionId
  | extInfoC
  | strictKexClient
  | strictKexServer
  | unknown (name : String)
  deriving DecidableEq, Repr

instance : Named ExtensionId where
  typed
    | "ext-info-c" => .extInfoC
    | "kex-strict-c-v00@openssh.com" => .strictKexClient
    | "kex-strict-s-v00@openssh.com" => .strictKexServer
    | name => .unknown name
  name
    | .extInfoC => "ext-info-c"
    | .strictKexClient => "kex-strict-c-v00@openssh.com"
    | .strictKexServer => "kex-strict-s-v00@openssh.com"
    | .unknown name => name

inductive KeyExchangeAlgorithmOrExtensionId
  | keyExchange (algorithm : KeyExchangeAlgorithm)
  | extension (id : ExtensionId)
  deriving DecidableEq, Repr

def KeyExchangeAlgorithmOrExtensionId.typed (name : String) : KeyExchangeAlgorithmOrExtensionId :=
  match (Named.typed name : KeyExchangeAlgorithm) with
  | .unknown _ =>
    match (Named.typed name : ExtensionId) with
    | .unknown _ => .keyExchange (.unknown name)
    | known => .extension known
  | known => .keyExchange known

instance : Named KeyExchangeAlgorithmOrExtensionId where
  typed := KeyExchangeAlgorithmOrExtensionId.typed
  name
    | .keyExchange algorithm => Named.name algorithm
    | .extension id => Named.name id

inductive PublicKeyAlgorithm
  | ecdsaSha2Nistp256
  | ed25519
  | unknown (name : String)
  deriving DecidableEq, Repr

instance : Named PublicKeyAlgorithm where
  typed
    | "ecdsa-sha2-nistp256" => .ecdsaSha2Nistp256
    | "ssh-ed25519" => .ed25519
    | name => .unknown name
  name
    | .ecdsaSha2Nistp256 => "ecdsa-sha2-nistp256"
    | .ed25519 => "ssh-ed25519"
    | .unknown name => name

structure KeyLengths where
  keyLen : Nat
  ivLen : Nat
  deriving DecidableEq, Repr

inductive EncryptionAlgorithm
  | aes128Gcm
  | unknown (name : String)
  deriving DecidableEq, Repr

def EncryptionAlgorithm.lengths : EncryptionAlgorithm → Option KeyLengths
  | .aes128Gcm => some { keyLen := 16, ivLen := 12 }
  | .unknown _ => none

instance : Named EncryptionAlgorithm where
  typed
    | "aes128-gcm@openssh.com" => .aes128Gcm
    | name => .unknown name
  name
    | .aes128Gcm => "aes128-gcm@openssh.com"
    | .unknown name => name

inductive MacAlgorithm
  | hmacSha2256
  | none
  | unknown (name : String)
  deriving DecidableEq, Repr

instance : Named MacAlgorithm where
  typed
    | "hmac-sha2-256" => .hmacSha2256
    | "none" => .none
    | name => .unknown name
  name
    | .hmacSha2256 => "hmac-sha2-256"
    | .none => "none"
    | .unknown name => name

inductive CompressionAlgorithm
  | none
  | unknown (name : String)
  deriving DecidableEq, Repr

instance : Named CompressionAlgorithm where
  typed
    | "none" => .none
    | name => .unknown name
  name
    | .none => "none"
    | .unknown name => name

inductive Language
  | unknown (name : String)
  deriving DecidableEq, Repr

instance : Named Language where
  typed name := .unknown name
  name
    | .unknown name => name

def comma : UInt8 := 44

def typedNames {α : Type} [Named α] : List Bytes → Except ProtoError (List α)
  | [] => .ok []
  | name :: names =>
    match fromUtf8 name with
    | none => .error (.invalidPacket "invalid name")
    | some text => do
      let rest ← typedNames names
      .ok (Named.typed text :: rest)

def IncomingNameList.decode {α : Type} [Named α] (bytes : Bytes) :
    Except ProtoError (Decoded (List α)) := do
  let ⟨len, next⟩ ← decodeU32 bytes
  match upTo? next len.toNat with
  | none => .error (.incomplete (some (len.toNat - next.length)))
  | some list =>
    match from? next len.toNat with
    | none => .error (.unreachable "unable to extract rest after name list")
    | some next =>
      if list.isEmpty then .ok ⟨[], next⟩
      else do
        let value ← typedNames (list.splitOn comma)
        .ok ⟨value, next⟩

def OutgoingNameList.encode {α : Type} [Named α] (names : List α) : Bytes :=
  encodeBytes ([comma].intercalate (names.map fun name => strBytes (Named.name name)))

end Oxish
