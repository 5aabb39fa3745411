import Oxish.OutboxCore

/-!
The server side of the key exchange: the messages, the negotiation, the exchange hash, and the
two state machines, for the initial exchange and for rekeys. A machine takes its state out
before fallible work and puts a state back only when the step succeeds.
-/

namespace Oxish

variable {σ ρ : Type}

def cryptoResult {α : Type} : Except CryptoError α → Except ProtoError α
  | .ok value => .ok value
  | .error error => .error (.crypto error)

structure Identities where
  client : Bytes
  server : Bytes
  deriving DecidableEq, Repr

def Identities.encode (identities : Identities) : Bytes :=
  encodeBytes identities.client ++ encodeBytes identities.server

def Identities.decode (bytes : Bytes) : Except ProtoError (Decoded Identities) := do
  let ⟨client, next⟩ ← decodeBytes bytes
  let ⟨server, next⟩ ← decodeBytes next
  .ok ⟨{ client, server }, next⟩

def StrictKeyExchange.encode (strictKx : Option StrictKeyExchange) : Bytes :=
  encodeBool strictKx.isSome

def StrictKeyExchange.decode (bytes : Bytes) :
    Except ProtoError (Decoded (Option StrictKeyExchange)) := do
  let ⟨value, next⟩ ← decodeBool bytes
  .ok ⟨if value then some ⟨⟩ else none, next⟩

structure KeyExchangeInit where
  cookie : FixedBytes 16
  keyExchangeAlgorithms : List KeyExchangeAlgorithmOrExtensionId
  serverHostKeyAlgorithms : List PublicKeyAlgorithm
  encryptionAlgorithmsClientToServer : List EncryptionAlgorithm
  encryptionAlgorithmsServerToClient : List EncryptionAlgorithm
  macAlgorithmsClientToServer : List MacAlgorithm
  macAlgorithmsServerToClient : List MacAlgorithm
  compressionAlgorithmsClientToServer : List CompressionAlgorithm
  compressionAlgorithmsServerToClient : List CompressionAlgorithm
  languagesClientToServer : List Language
  languagesServerToClient : List Language
  firstKexPacketFollows : Bool
  extended : UInt32
  deriving DecidableEq

def KeyExchangeInit.hasExtension (init : KeyExchangeInit) (extension : ExtensionId) : Bool :=
  init.keyExchangeAlgorithms.any fun
    | .extension id => id == extension
    | .keyExchange _ => false

def KeyExchangeInit.tryFrom (packet : IncomingPacket) : Except ProtoError KeyExchangeInit := do
  packet.expect [.keyExchangeInit]
  let ⟨cookie, next⟩ ← decodeArray 16 packet.payload
  let ⟨keyExchangeAlgorithms, next⟩ ← IncomingNameList.decode next
  let ⟨serverHostKeyAlgorithms, next⟩ ← IncomingNameList.decode next
  let ⟨encryptionAlgorithmsClientToServer, next⟩ ← IncomingNameList.decode next
  let ⟨encryptionAlgorithmsServerToClient, next⟩ ← IncomingNameList.decode next
  let ⟨macAlgorithmsClientToServer, next⟩ ← IncomingNameList.decode next
  let ⟨macAlgorithmsServerToClient, next⟩ ← IncomingNameList.decode next
  let ⟨compressionAlgorithmsClientToServer, next⟩ ← IncomingNameList.decode next
  let ⟨compressionAlgorithmsServerToClient, next⟩ ← IncomingNameList.decode next
  let ⟨languagesClientToServer, next⟩ ← IncomingNameList.decode next
  let ⟨languagesServerToClient, next⟩ ← IncomingNameList.decode next
  let ⟨firstKexPacketFollows, next⟩ ← decodeU8 next
  let ⟨extended, next⟩ ← decodeU32 next
  if next.isEmpty then
    .ok {
      cookie
      keyExchangeAlgorithms
      serverHostKeyAlgorithms
      encryptionAlgorithmsClientToServer
      encryptionAlgorithmsServerToClient
      macAlgorithmsClientToServer
      macAlgorithmsServerToClient
      compressionAlgorithmsClientToServer
      compressionAlgorithmsServerToClient
      languagesClientToServer
      languagesServerToClient
      firstKexPacketFollows := firstKexPacketFollows != 0
      extended }
  else .error (.invalidPacket "unexpected trailing bytes")

def KeyExchangeInit.encode (init : KeyExchangeInit) : Bytes :=
  MessageType.keyExchangeInit.encode ++ init.cookie.val ++
    OutgoingNameList.encode init.keyExchangeAlgorithms ++
    OutgoingNameList.encode init.serverHostKeyAlgorithms ++
    OutgoingNameList.encode init.encryptionAlgorithmsClientToServer ++
    OutgoingNameList.encode init.encryptionAlgorithmsServerToClient ++
    OutgoingNameList.encode init.macAlgorithmsClientToServer ++
    OutgoingNameList.encode init.macAlgorithmsServerToClient ++
    OutgoingNameList.encode init.compressionAlgorithmsClientToServer ++
    OutgoingNameList.encode init.compressionAlgorithmsServerToClient ++
    OutgoingNameList.encode init.languagesClientToServer ++
    OutgoingNameList.encode init.languagesServerToClient ++
    [if init.firstKexPacketFollows then 1 else 0] ++ encodeU32 init.extended

structure Negotiated where
  keyExchange : KeyExchangeAlgorithm
  serverHostKey : PublicKeyAlgorithm
  encryptionClientToServer : EncryptionAlgorithm
  encryptionServerToClient : EncryptionAlgorithm
  wantExtensionInfo : Bool
  strictKeyExchange : Bool
  deriving DecidableEq, Repr

def firstCommon {α : Type} [DecidableEq α] (client server : List α) : Option α :=
  client.findSome? fun client =>
    server.findSome? fun server => if client = server then some server else none

def firstCommonKeyExchange (client server : List KeyExchangeAlgorithmOrExtensionId) :
    Option KeyExchangeAlgorithm :=
  client.findSome? fun client =>
    server.findSome? fun server =>
      match client, server with
      | .keyExchange clientAlg, .keyExchange serverAlg =>
        if clientAlg = serverAlg then some serverAlg else none
      | _, _ => none

def orNoCommon {α : Type} (category : String) : Option α → Except ProtoError α
  | some chosen => .ok chosen
  | none => .error (.noCommonAlgorithm category)

def Negotiated.choose (client server : KeyExchangeInit) : Except ProtoError Negotiated := do
  let keyExchange ← orNoCommon "key exchange"
    (firstCommonKeyExchange client.keyExchangeAlgorithms server.keyExchangeAlgorithms)
  let serverHostKey ← orNoCommon "host key"
    (firstCommon client.serverHostKeyAlgorithms server.serverHostKeyAlgorithms)
  let encryptionClientToServer ← orNoCommon "encryption (client to server)"
    (firstCommon client.encryptionAlgorithmsClientToServer
      server.encryptionAlgorithmsClientToServer)
  let encryptionServerToClient ← orNoCommon "encryption (server to client)"
    (firstCommon client.encryptionAlgorithmsServerToClient
      server.encryptionAlgorithmsServerToClient)
  .ok {
    keyExchange
    serverHostKey
    encryptionClientToServer
    encryptionServerToClient
    wantExtensionInfo := client.hasExtension .extInfoC
    strictKeyExchange := client.hasExtension .strictKexClient }

structure ServerHostKey where
  pkcs8 : Bytes
  key : SigningKey

def ServerHostKey.encode (hostKey : ServerHostKey) : Bytes := encodeBytes hostKey.pkcs8

structure SessionHostKey where
  key : SigningKey

def SessionHostKey.fromServer (hostKey : ServerHostKey) (provider : CryptoProvider σ ρ) :
    Except ProtoError SessionHostKey :=
  (cryptoResult (provider.signingKeyFromPkcs8 hostKey.pkcs8)).map fun key => ⟨key⟩

def SessionHostKey.decode (bytes : Bytes) (provider : CryptoProvider σ ρ) :
    Except ProtoError (Decoded SessionHostKey) := do
  let ⟨pkcs8, next⟩ ← decodeBytes bytes
  let key ← cryptoResult (provider.signingKeyFromPkcs8 pkcs8)
  .ok ⟨⟨key⟩, next⟩

def HostKeys.maxKeys : Nat := 16

structure HostKeys where
  keys : List ServerHostKey
  nonempty : keys ≠ []
  few : keys.length < HostKeys.maxKeys

def HostKeys.load (provider : CryptoProvider σ ρ) :
    List Bytes → List ServerHostKey → Except ProtoError (List ServerHostKey)
  | [], keys => .ok keys
  | pkcs8 :: rest, keys => do
    let key ← cryptoResult (provider.signingKeyFromPkcs8 pkcs8)
    let keys := keys ++ [{ pkcs8, key }]
    if HostKeys.maxKeys ≤ keys.length then .error .tooManyHostKeys else load provider rest keys

def HostKeys.new (pkcs8 : List Bytes) (provider : CryptoProvider σ ρ) :
    Except ProtoError HostKeys := do
  let keys ← HostKeys.load provider pkcs8 []
  if nonempty : keys ≠ [] then
    if few : keys.length < HostKeys.maxKeys then .ok { keys, nonempty, few }
    else .error .tooManyHostKeys
  else .error .noHostKeys

def HostKeys.key (hostKeys : HostKeys) (negotiated : Negotiated) :
    Except CryptoError ServerHostKey :=
  match hostKeys.keys.find? fun hostKey => hostKey.key.algorithm = negotiated.serverHostKey with
  | some hostKey => .ok hostKey
  | none => .error .unknownAlgorithm

def HostKeys.algorithms (hostKeys : HostKeys) : List PublicKeyAlgorithm :=
  hostKeys.keys.map fun hostKey => hostKey.key.algorithm

structure ExtInfo where
  extensions : List (ExtensionName × Bytes)

def ExtInfo.encode (extInfo : ExtInfo) : Bytes :=
  MessageType.extInfo.encode ++ encodeU32 (UInt32.ofNat extInfo.extensions.length) ++
    extInfo.extensions.flatMap fun (name, value) => encodeNamed name ++ value

structure KeyExchange where
  exchange : HandshakeHash
  negotiated : Negotiated

structure KeyExchangeStart where
  localInit : KeyExchangeInit
  kx : KeyExchange
  strictKx : Option StrictKeyExchange
  extInfo : Option ExtInfo

def KeyExchange.localInit (cookie : FixedBytes 16) (supported : SupportedAlgorithms)
    (serverHostKeyAlgorithms : List PublicKeyAlgorithm) (extensions : List ExtensionId) :
    KeyExchangeInit where
  cookie := cookie
  keyExchangeAlgorithms := supported.keyExchange.map .keyExchange ++ extensions.map .extension
  serverHostKeyAlgorithms := serverHostKeyAlgorithms
  encryptionAlgorithmsClientToServer := supported.encryption
  encryptionAlgorithmsServerToClient := supported.encryption
  macAlgorithmsClientToServer := supported.mac
  macAlgorithmsServerToClient := supported.mac
  compressionAlgorithmsClientToServer := [.none]
  compressionAlgorithmsServerToClient := [.none]
  languagesClientToServer := []
  languagesServerToClient := []
  firstKexPacketFollows := false
  extended := 0

def SecureRandom.fillOk (random : SecureRandom) (length : Nat) :
    Except ProtoError (FixedBytes length) :=
  let filled := random.fill length
  match filled.result with
  | .ok () => .ok filled.bytes
  | .error error => .error (.crypto error)

def KeyExchange.start (packet : IncomingPacket) (exchange : HandshakeBuffer)
    (serverHostKeyAlgorithms : List PublicKeyAlgorithm) (extensions : List ExtensionId)
    (provider : CryptoProvider σ ρ) : Except ProtoError KeyExchangeStart := do
  let exchange := exchange.update (encodeU32 (UInt32.ofNat (packet.payload.length + 1)))
  let exchange := exchange.update [packet.messageType.toByte]
  let exchange := exchange.update packet.payload
  let peerKeyExchangeInit ← KeyExchangeInit.tryFrom packet
  let cookie ← provider.secureRandom.fillOk 16
  let supported := provider.supportedAlgorithms
  let localInit := KeyExchange.localInit cookie supported serverHostKeyAlgorithms extensions
  let negotiated ← Negotiated.choose peerKeyExchangeInit localInit
  let extInfo := if negotiated.wantExtensionInfo then
    some { extensions := [(.serverSigAlgs, OutgoingNameList.encode supported.publicKey)] } else none
  let strictKx := if negotiated.strictKeyExchange then some ⟨⟩ else none
  let hash ← cryptoResult (provider.hash negotiated.keyExchange)
  .ok { localInit, kx := { exchange := exchange.hash hash, negotiated }, strictKx, extInfo }

structure EcdhKeyExchangeInit where
  clientEphemeralPublicKey : Bytes

def EcdhKeyExchangeInit.tryFrom (packet : IncomingPacket) :
    Except ProtoError EcdhKeyExchangeInit := do
  packet.expect [.keyExchangeEcdhInit]
  let ⟨clientEphemeralPublicKey, next⟩ ← decodeBytes packet.payload
  if next.isEmpty then .ok { clientEphemeralPublicKey }
  else .error (.invalidPacket "unexpected trailing bytes")

def encodeMpint (value : Bytes) : Bytes :=
  let trimmed := value.dropWhile (· == 0)
  let pad := match trimmed with
    | byte :: _ => byte &&& 0x80 != 0
    | [] => false
  let len := trimmed.length + if pad then 1 else 0
  encodeU32 (UInt32.ofNat len) ++ (if pad then [0] else []) ++ trimmed

structure TaggedPublicKey where
  algorithm : PublicKeyAlgorithm
  key : Bytes

def TaggedPublicKey.encode (tagged : TaggedPublicKey) : Bytes :=
  encodeBytes (encodeNamed tagged.algorithm ++
    (if tagged.algorithm = .ecdsaSha2Nistp256 then encodeBytes (strBytes "nistp256") else []) ++
    encodeBytes tagged.key)

structure TaggedSignature where
  algorithm : PublicKeyAlgorithm
  signature : Bytes

def TaggedSignature.encode (tagged : TaggedSignature) : Except (Stop ProtoError) Bytes :=
  match tagged.algorithm with
  | .ecdsaSha2Nistp256 =>
    let half := tagged.signature.length / 2
    .ok (encodeBytes (encodeNamed tagged.algorithm ++
      encodeBytes (encodeMpint (tagged.signature.take half) ++
        encodeMpint (tagged.signature.drop half))))
  | .ed25519 => .ok (encodeBytes (encodeNamed tagged.algorithm ++ encodeBytes tagged.signature))
  | .unknown _ => .error (.panic "unknown algorithm should not be used for signing")

structure EcdhKeyExchangeReply where
  serverPublicHostKey : TaggedPublicKey
  serverEphemeralPublicKey : Bytes
  exchangeHashSignature : TaggedSignature

def EcdhKeyExchangeReply.encode (reply : EcdhKeyExchangeReply) : Except (Stop ProtoError) Bytes := do
  let signature ← reply.exchangeHashSignature.encode
  .ok (MessageType.keyExchangeEcdhReply.encode ++ reply.serverPublicHostKey.encode ++
    encodeBytes reply.serverEphemeralPublicKey ++ signature)

structure KeyExchangeFed where
  exchange : HandshakeHash
  completed : AgreedKey
  sharedSecret : Bytes

-- The part of `KeyExchangeStarted::new` up to `finish`: everything that goes into the hash.
def KeyExchangeStarted.feed (exchange : HandshakeHash) (clientEphemeralPublicKey : Bytes)
    (negotiated : Negotiated) (hostKey : SigningKey) (provider : CryptoProvider σ ρ) :
    Except CryptoError KeyExchangeFed := do
  let hostKeyBuf :=
    TaggedPublicKey.encode { algorithm := hostKey.algorithm, key := hostKey.publicKey }
  let exchange := exchange.update hostKeyBuf
  let exchange := exchange.prefixed clientEphemeralPublicKey
  let keyExchange ← provider.keyExchange negotiated.keyExchange
  let kx ← keyExchange.start
  let completed ← kx clientEphemeralPublicKey
  let exchange := exchange.prefixed completed.publicKey
  let sharedSecret := match negotiated.keyExchange with
    | .curve25519Sha256 => encodeMpint completed.sharedSecret
    | _ => encodeBytes completed.sharedSecret
  .ok { exchange := exchange.update sharedSecret, completed, sharedSecret }

structure KeyExchangeStarted where
  sharedSecret : Bytes
  exchangeHash : Digest
  reply : EcdhKeyExchangeReply

def KeyExchangeStarted.new (exchange : HandshakeHash) (clientEphemeralPublicKey : Bytes)
    (negotiated : Negotiated) (hostKey : SigningKey) (provider : CryptoProvider σ ρ) :
    Except CryptoError KeyExchangeStarted := do
  let fed ← KeyExchangeStarted.feed exchange clientEphemeralPublicKey negotiated hostKey provider
  let exchangeHash := fed.exchange.finish
  .ok {
    sharedSecret := fed.sharedSecret
    exchangeHash
    reply := {
      serverPublicHostKey := { algorithm := hostKey.algorithm, key := hostKey.publicKey }
      serverEphemeralPublicKey := fed.completed.publicKey
      exchangeHashSignature := {
        algorithm := hostKey.algorithm
        signature := hostKey.sign exchangeHash.bytes } } }

structure KeySourceSet where
  clientToServer : KeySourceSide
  serverToClient : KeySourceSide

structure ReplyOutput where
  reply : EcdhKeyExchangeReply
  exchangeHash : Digest
  keys : KeySourceSet

def EcdhKeyExchangeReply.new (init : EcdhKeyExchangeInit) (negotiated : Negotiated)
    (exchange : HandshakeHash) (sessionId : Option Digest) (hostKey : SigningKey)
    (provider : CryptoProvider σ ρ) : Except CryptoError ReplyOutput := do
  let started ← KeyExchangeStarted.new exchange init.clientEphemeralPublicKey negotiated hostKey
    provider
  let hash ← provider.hash negotiated.keyExchange
  let derivation : KeyDerivation := {
    hash
    sharedSecret := started.sharedSecret
    exchangeHash := started.exchangeHash
    sessionId := sessionId.getD started.exchangeHash }
  let clientToServer ←
    KeySourceSide.clientToServer derivation negotiated.encryptionClientToServer
  let serverToClient ←
    KeySourceSide.serverToClient derivation negotiated.encryptionServerToClient
  .ok {
    reply := started.reply
    exchangeHash := started.exchangeHash
    keys := { clientToServer, serverToClient } }

def NewKeys.tryFrom (packet : IncomingPacket) : Except ProtoError Unit := do
  packet.expect [.newKeys]
  if packet.payload.isEmpty then .ok ()
  else .error (.invalidPacket "unexpected trailing bytes")

def NewKeys.encode : Bytes := MessageType.newKeys.encode

structure KeyUpdate (σ ρ : Type) where
  opener : ρ
  sealer : σ
  strictKx : Option StrictKeyExchange

def KeyUpdate.apply [SealingKey σ] (update : KeyUpdate σ ρ) (write : WriteState σ)
    (read : ReadState ρ) : WriteState σ × ReadState ρ × Except (Stop ProtoError) Unit :=
  match write.encode NewKeys.encode with
  | (write, .error stop) => (write, read, .error stop)
  | (write, .ok ()) =>
    ({ write.resetSequenceNumber update.strictKx with sealer := some update.sealer },
      { read.resetSequenceNumber update.strictKx with opener := some update.opener }, .ok ())

structure KeyExchangeOutput where
  identities : Identities
  hostKey : ServerHostKey
  strictKx : Option StrictKeyExchange
  sessionId : Digest
  keys : KeySourceSet
  postQuantumKx : Bool

structure Established (σ ρ : Type) where
  output : KeyExchangeOutput
  update : KeyUpdate σ ρ
  extInfo : Option ExtInfo

inductive InitialKeyExchangeState where
  | awaitingKexInit (hostKeys : HostKeys) (identities : Identities) (exchange : HandshakeBuffer)
  | awaitingEcdhInit (kx : KeyExchange) (hostKeys : HostKeys) (identities : Identities)
      (strictKx : Option StrictKeyExchange) (extInfo : Option ExtInfo)
  | awaitingNewKeys (output : KeyExchangeOutput) (extInfo : Option ExtInfo)
  | complete

namespace InitialKeyExchangeState

def new (exchange : HandshakeBuffer) (identities : Identities) (hostKeys : HostKeys) :
    InitialKeyExchangeState := .awaitingKexInit hostKeys identities exchange

variable [SealingKey σ]

def advance (state : InitialKeyExchangeState) (packet : IncomingPacket)
    (provider : CryptoProvider σ ρ) :
    Emit σ Bytes ProtoError (InitialKeyExchangeState × Option (Established σ ρ)) :=
  match state with
  | .awaitingKexInit hostKeys identities exchange => do
    let start ← attempt (KeyExchange.start packet exchange hostKeys.algorithms [.strictKexServer]
      provider)
    let exchange ← emitKx start.localInit.encode start.kx.exchange
    pure (.awaitingEcdhInit { start.kx with exchange } hostKeys identities start.strictKx
      start.extInfo, none)
  | .awaitingEcdhInit kx hostKeys identities strictKx extInfo => do
    let init ← attempt (EcdhKeyExchangeInit.tryFrom packet)
    let postQuantumKx := kx.negotiated.keyExchange.postQuantumSecure
    let hostKey ← attempt (cryptoResult (hostKeys.key kx.negotiated))
    let output ← attempt (cryptoResult
      (EcdhKeyExchangeReply.new init kx.negotiated kx.exchange none hostKey.key provider))
    let payload ← attemptOrPanic output.reply.encode
    emit id payload
    pure (.awaitingNewKeys {
      identities, hostKey, strictKx, postQuantumKx
      sessionId := output.exchangeHash
      keys := output.keys } extInfo, none)
  | .awaitingNewKeys output extInfo => do
    attempt (NewKeys.tryFrom packet)
    let opener ← attempt (cryptoResult (provider.openingKey 0 output.keys.clientToServer))
    let sealer ← attempt (cryptoResult (provider.sealingKey 0 output.keys.serverToClient))
    pure (.complete, some { output, extInfo, update := { opener, sealer, strictKx := output.strictKx } })
  | .complete =>
    throw (.error (.unreachable "key exchange state machine polled while transitioning"))

end InitialKeyExchangeState

structure Rekey where
  hostKey : SessionHostKey
  identities : Identities
  strictKx : Option StrictKeyExchange
  sessionId : Digest

structure Rekeyed (σ ρ : Type) where
  update : KeyUpdate σ ρ
  postQuantumKx : Bool

inductive RekeyState where
  | awaitingKexInit (rekey : Rekey)
  | awaitingEcdhInit (kx : KeyExchange) (rekey : Rekey)
  | awaitingNewKeys (rekey : Rekey) (keys : KeySourceSet) (postQuantumKx : Bool)
  | transitioning

namespace RekeyState

def new (sessionId : Digest) (strictKx : Option StrictKeyExchange) (identities : Identities)
    (hostKey : SessionHostKey) : RekeyState :=
  .awaitingKexInit { hostKey, identities, strictKx, sessionId }

def advance [SealingKey σ] (state : RekeyState) (packet : IncomingPacket)
    (provider : CryptoProvider σ ρ) :
    Emit σ Bytes ProtoError (RekeyState × Option (Rekeyed σ ρ)) :=
  match state with
  | .awaitingKexInit rekey => do
    let exchange : HandshakeBuffer := {}
    let exchange := exchange.prefixed rekey.identities.client
    let exchange := exchange.prefixed rekey.identities.server
    let start ← attempt (KeyExchange.start packet exchange [rekey.hostKey.key.algorithm] []
      provider)
    let exchange ← emitKx start.localInit.encode start.kx.exchange
    pure (.awaitingEcdhInit { start.kx with exchange } rekey, none)
  | .awaitingEcdhInit kx rekey => do
    let init ← attempt (EcdhKeyExchangeInit.tryFrom packet)
    let postQuantumKx := kx.negotiated.keyExchange.postQuantumSecure
    let output ← attempt (cryptoResult (EcdhKeyExchangeReply.new init kx.negotiated kx.exchange
      (some rekey.sessionId) rekey.hostKey.key provider))
    let payload ← attemptOrPanic output.reply.encode
    emit id payload
    pure (.awaitingNewKeys rekey output.keys postQuantumKx, none)
  | .awaitingNewKeys rekey keys postQuantumKx => do
    attempt (NewKeys.tryFrom packet)
    let opener ← attempt (cryptoResult (provider.openingKey 0 keys.clientToServer))
    let sealer ← attempt (cryptoResult (provider.sealingKey 0 keys.serverToClient))
    pure (.awaitingKexInit rekey,
      some { update := { opener, sealer, strictKx := rekey.strictKx }, postQuantumKx })
  | .transitioning =>
    throw (.error (.unreachable "key exchange state machine polled while transitioning"))

def clientIdentity : RekeyState → Bytes
  | .awaitingKexInit rekey | .awaitingEcdhInit _ rekey | .awaitingNewKeys rekey _ _ =>
    rekey.identities.client
  | .transitioning => []

def inProgress : RekeyState → Bool
  | .awaitingEcdhInit _ _ | .awaitingNewKeys _ _ _ => true
  | .awaitingKexInit _ | .transitioning => false

end RekeyState

structure Handled (σ S α : Type) where
  state : S
  outbox : Outbox σ Bytes
  result : Except (Stop ProtoError) α

/-- `mem::replace` with a placeholder before the step: a step that stops leaves it behind. -/
def replacing {S α : Type} (placeholder : S) (step : Emit σ Bytes ProtoError (S × α))
    (outbox : Outbox σ Bytes) : Handled σ S α :=
  match Stateful.exec step outbox with
  | (.ok (state, output), outbox) => ⟨state, outbox, .ok output⟩
  | (.error stop, outbox) => ⟨placeholder, outbox, .error stop⟩

def InitialKeyExchangeState.handle [SealingKey σ] (state : InitialKeyExchangeState)
    (packet : IncomingPacket) (write : WriteState σ) (provider : CryptoProvider σ ρ) :
    Handled σ InitialKeyExchangeState (Option (Established σ ρ)) :=
  replacing .complete (state.advance packet provider) { write }

def RekeyState.handle [SealingKey σ] (state : RekeyState) (packet : IncomingPacket)
    (write : WriteState σ) (provider : CryptoProvider σ ρ) :
    Handled σ RekeyState (Option (Rekeyed σ ρ)) :=
  replacing .transitioning (state.advance packet provider) { write }

end Oxish
