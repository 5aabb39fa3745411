import Oxish.ConnectionCore

/-!
The state that is handed from the listening process to the process of a session, how it is built
from an authenticated connection, and how the connection is rebuilt from its encoding.
-/

namespace Oxish

class SocketAddr (α : Type) where
  display : α → String
  fromStr : String → Option α

structure SideState where
  source : KeySourceSide
  counter : UInt64
  sequenceNumber : UInt32
  deriving DecidableEq, Repr

def SideState.encode (side : SideState) : Bytes :=
  encodeNamed side.source.algorithm ++ encodeBytes side.source.encryptionKey ++
    encodeBytes side.source.initialIv ++ encodeU64 side.counter ++ encodeU32 side.sequenceNumber

def SideState.decode (bytes : Bytes) : Except ProtoError (Decoded SideState) := do
  let ⟨algorithm, next⟩ ← (decodeNamed bytes : Except ProtoError (Decoded EncryptionAlgorithm))
  match algorithm.lengths with
  | none => .error (.invalidPacket "unsupported encryption algorithm")
  | some { keyLen, ivLen } => do
    let ⟨encryptionKey, next⟩ ← decodeBytes next
    if encryptionKey.length ≠ keyLen then .error (.invalidPacket "invalid encryption key length")
    else do
      let ⟨initialIv, next⟩ ← decodeBytes next
      if initialIv.length ≠ ivLen then .error (.invalidPacket "invalid IV length")
      else do
        let ⟨counter, next⟩ ← decodeU64 next
        let ⟨sequenceNumber, next⟩ ← decodeU32 next
        .ok ⟨{ source := { algorithm, initialIv, encryptionKey }, counter, sequenceNumber }, next⟩

structure SessionState (α H : Type) where
  addr : α
  hostKey : H
  identities : Identities
  postQuantumKx : Bool
  strictKx : Option StrictKeyExchange
  sessionId : Digest
  read : SideState
  write : SideState
  readBuf : Bytes
  options : KeyOptions

variable {α σ ρ τ : Type} [SocketAddr α]

def SessionState.encode (state : SessionState α ServerHostKey) : Bytes :=
  encodeBytes (strBytes (SocketAddr.display state.addr)) ++ state.hostKey.encode ++
    state.identities.encode ++ encodeBool state.postQuantumKx ++
    StrictKeyExchange.encode state.strictKx ++ encodeBytes state.sessionId.bytes ++
    state.read.encode ++ state.write.encode ++ encodeBytes state.readBuf ++ state.options.encode

def SessionState.decodeAddr (bytes : Bytes) : Except ProtoError (Decoded α) := do
  let ⟨text, next⟩ ← decodeBytes bytes
  match fromUtf8 text with
  | none => .error (.invalidPacket "invalid UTF-8 in peer address")
  | some text =>
    match SocketAddr.fromStr text with
    | none => .error (.invalidPacket "invalid peer address")
    | some addr => .ok ⟨addr, next⟩

-- `Digest::new` copies into a buffer of 64 bytes and panics on a longer slice.
def Digest.new (bytes : Bytes) : Except (Stop ProtoError) Digest :=
  if bounded : bytes.length ≤ 64 then .ok ⟨bytes, bounded⟩
  else .error (.panic "range end index out of range for slice")

def SessionState.decode (provider : CryptoProvider σ ρ) (bytes : Bytes) :
    Except (Stop ProtoError) (Decoded (SessionState α SessionHostKey)) := do
  let ⟨addr, next⟩ ← raise (SessionState.decodeAddr bytes)
  let ⟨hostKey, next⟩ ← raise (SessionHostKey.decode next provider)
  let ⟨identities, next⟩ ← raise (Identities.decode next)
  let ⟨postQuantumKx, next⟩ ← raise (decodeBool next)
  let ⟨strictKx, next⟩ ← raise (StrictKeyExchange.decode next)
  let ⟨sessionId, next⟩ ← raise (decodeBytes next)
  let ⟨read, next⟩ ← raise (SideState.decode next)
  let ⟨write, next⟩ ← raise (SideState.decode next)
  let ⟨readBuf, next⟩ ← raise (decodeBytes next)
  let ⟨options, next⟩ ← raise (KeyOptions.decode next)
  let sessionId ← Digest.new sessionId
  let value := {
    addr, hostKey, identities, postQuantumKx, strictKx, sessionId, read, write, readBuf, options
    : SessionState α SessionHostKey }
  .ok ⟨value, next⟩

structure Session (α σ ρ τ : Type) where
  provider : CryptoProvider σ ρ
  conn : Connection α σ ρ
  kx : RekeyState
  channels : Channels τ
  postQuantumKx : Bool
  options : KeyOptions

omit [SocketAddr α] in
def Session.new (kx : KeyExchangeOutput) (conn : Connection α σ ρ) (provider : CryptoProvider σ ρ)
    (options : KeyOptions) : Except ProtoError (Session α σ ρ τ) := do
  let hostKey ← SessionHostKey.fromServer kx.hostKey provider
  .ok {
    provider
    conn
    kx := .new kx.sessionId kx.strictKx kx.identities hostKey
    postQuantumKx := kx.postQuantumKx
    channels := {}
    options }

omit [SocketAddr α] in
def Server.handoff [SealingKey σ] [OpeningKey ρ] (kx : KeyExchangeOutput) (options : KeyOptions)
    (conn : Connection α σ ρ) : Except (Stop Error) (SessionState α ServerHostKey) :=
  match conn.write.buffered with
  | none => .error (.panic "range start index out of range for slice")
  | some (_ :: _) => .error (.error (.invalidState "unflushed bytes in write buffer"))
  | some [] =>
    if conn.read.buf.length < conn.read.lastLength then
      .error (.panic "range start index out of range")
    else .ok {
      addr := conn.addr
      hostKey := kx.hostKey
      identities := kx.identities
      postQuantumKx := kx.postQuantumKx
      strictKx := kx.strictKx
      sessionId := kx.sessionId
      read := {
        source := kx.keys.clientToServer
        counter := conn.read.opener.elim 0 OpeningKey.counter
        sequenceNumber := conn.read.sequenceNumber }
      write := {
        source := kx.keys.serverToClient
        counter := conn.write.sealer.elim 0 SealingKey.counter
        sequenceNumber := conn.write.sequenceNumber }
      readBuf := conn.read.buf.drop conn.read.lastLength
      options }

def rebuild (provider : CryptoProvider σ ρ) (stream : Stream)
    (state : SessionState α SessionHostKey) : Except CryptoError (Session α σ ρ τ) := do
  let opener ← provider.openingKey state.read.counter state.read.source
  let sealer ← provider.sealingKey state.write.counter state.write.source
  .ok {
    provider
    conn := {
      stream
      addr := state.addr
      read := {
        buf := state.readBuf
        lastLength := 0
        sequenceNumber := state.read.sequenceNumber
        opener := some opener }
      write := { (WriteState.new provider.secureRandom : WriteState σ) with
        sequenceNumber := state.write.sequenceNumber
        sealer := some sealer } }
    kx := .new state.sessionId state.strictKx state.identities state.hostKey
    channels := {}
    postQuantumKx := state.postQuantumKx
    options := state.options }

/-- `resume` once the whole message and the descriptor of the stream have arrived. -/
def resume (provider : CryptoProvider σ ρ) (stream : Stream) (received : Bytes) :
    Except (Stop Error) (Session α σ ρ τ) :=
  match (SessionState.decode provider received :
    Except (Stop ProtoError) (Decoded (SessionState α SessionHostKey))) with
  | .error stop => .error (stopInto .proto stop)
  | .ok ⟨state, next⟩ =>
    if next.isEmpty then
      match rebuild provider stream state with
      | .ok session => .ok session
      | .error error => .error (.error (.proto (.crypto error)))
    else .error (.error (.invalidState "trailing bytes after message"))

end Oxish
