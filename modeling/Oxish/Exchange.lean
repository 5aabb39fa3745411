import Oxish.KeyExchangeRuns
import Oxish.Wire

/-!
What one key exchange computes, step by step: the bytes that go into the exchange hash, the two
messages of the server, and the keys that are derived. Both state machines take these steps.
-/

namespace Oxish

open Stateful

variable {σ ρ : Type}

/-- The parts of an exchange hash, in their order. -/
structure Transcript where
  identities : Identities
  clientInit : Bytes
  serverInit : Bytes
  hostKey : TaggedPublicKey
  clientEphemeral : Bytes
  serverEphemeral : Bytes
  algorithm : KeyExchangeAlgorithm
  secret : Bytes

-- Only the classical method takes the shared secret as a number.
def encodeSecret (algorithm : KeyExchangeAlgorithm) (secret : Bytes) : Bytes :=
  match algorithm with
  | .curve25519Sha256 => encodeMpint secret
  | _ => encodeBytes secret

def Transcript.bytes (transcript : Transcript) : Bytes :=
  encodeBytes transcript.identities.client ++ encodeBytes transcript.identities.server ++
    encodeBytes transcript.clientInit ++ encodeBytes transcript.serverInit ++
    transcript.hostKey.encode ++ encodeBytes transcript.clientEphemeral ++
    encodeBytes transcript.serverEphemeral ++ encodeSecret transcript.algorithm transcript.secret

def IncomingPacket.bytes (packet : IncomingPacket) : Bytes :=
  packet.messageType.toByte :: packet.payload

section Hashing

variable {provider : CryptoProvider σ ρ}

theorem cryptoResult_ok {α : Type} {outcome : Except CryptoError α} {value : α}
    (done : cryptoResult outcome = .ok value) : outcome = .ok value := by
  cases outcome with
  | ok other =>
      cases done
      rfl
  | error cause => cases done

theorem HandshakeHash.prefixed_input (exchange : HandshakeHash) (data : Bytes) :
    (exchange.prefixed data).context.input = exchange.context.input ++ encodeBytes data := by
  simp only [HandshakeHash.prefixed, HashContext.update, encodeBytes, List.append_assoc]

theorem HandshakeBuffer.prefixed_bytes (exchange : HandshakeBuffer) (data : Bytes) :
    (exchange.prefixed data).bytes = exchange.bytes ++ encodeBytes data := by
  simp only [HandshakeBuffer.prefixed, encodeBytes, List.append_assoc]

structure Offered (provider : CryptoProvider σ ρ) (lines : Bytes) (packet : IncomingPacket)
    (serverInit : Bytes) (kx : KeyExchange) : Prop where
  message : packet.messageType = .keyExchangeInit
  hash : provider.hash kx.negotiated.keyExchange = .ok kx.exchange.context.hash
  input : kx.exchange.context.input =
    lines ++ encodeBytes packet.bytes ++ encodeBytes serverInit
  offer : serverInit.head? = some MessageType.keyExchangeInit.toByte

theorem KeyExchange.start_ok {packet : IncomingPacket} {exchange : HandshakeBuffer}
    {algorithms : List PublicKeyAlgorithm} {extensions : List ExtensionId}
    {start : KeyExchangeStart}
    (done : KeyExchange.start packet exchange algorithms extensions provider = .ok start) :
    packet.messageType = .keyExchangeInit ∧
      provider.hash start.kx.negotiated.keyExchange = .ok start.kx.exchange.context.hash ∧
      start.kx.exchange.context.input = exchange.bytes ++ encodeBytes packet.bytes ∧
      ∃ peer, KeyExchangeInit.tryFrom packet = .ok peer ∧
        start.strictKx.isSome = peer.hasExtension .strictKexClient := by
  have message : packet.messageType = .keyExchangeInit := by
    by_contra wrong
    rw [KeyExchange.start_wrong wrong] at done
    cases done
  unfold KeyExchange.start at done
  obtain ⟨peer, parsed, done⟩ := Outcome.bind_eq_ok.mp done
  obtain ⟨cookie, _, done⟩ := Outcome.bind_eq_ok.mp done
  obtain ⟨negotiated, chosen, done⟩ := Outcome.bind_eq_ok.mp done
  obtain ⟨hash, found, done⟩ := Outcome.bind_eq_ok.mp done
  cases done
  refine ⟨message, cryptoResult_ok found, ?_, peer, parsed, ?_⟩
  · simp only [HandshakeBuffer.hash, HandshakeBuffer.update, Hash.start, HashContext.update,
      encodeBytes, IncomingPacket.bytes, List.length_cons, List.nil_append, List.append_assoc,
      List.singleton_append]
  · have strict : negotiated.strictKeyExchange = peer.hasExtension .strictKexClient := by
      unfold Negotiated.choose at chosen
      obtain ⟨_, _, chosen⟩ := Outcome.bind_eq_ok.mp chosen
      obtain ⟨_, _, chosen⟩ := Outcome.bind_eq_ok.mp chosen
      obtain ⟨_, _, chosen⟩ := Outcome.bind_eq_ok.mp chosen
      obtain ⟨_, _, chosen⟩ := Outcome.bind_eq_ok.mp chosen
      cases chosen
      rfl
    dsimp only
    rw [strict]
    cases peer.hasExtension .strictKexClient <;> rfl

theorem KeyExchangeStarted.feed_ok {exchange : HandshakeHash} {clientEphemeral : Bytes}
    {negotiated : Negotiated} {hostKey : SigningKey} {fed : KeyExchangeFed}
    (done : KeyExchangeStarted.feed exchange clientEphemeral negotiated hostKey provider = .ok fed) :
    fed.exchange.context.hash = exchange.context.hash ∧
      fed.sharedSecret = encodeSecret negotiated.keyExchange fed.completed.sharedSecret ∧
      fed.exchange.context.input = exchange.context.input ++
        TaggedPublicKey.encode ⟨hostKey.algorithm, hostKey.publicKey⟩ ++
        encodeBytes clientEphemeral ++ encodeBytes fed.completed.publicKey ++ fed.sharedSecret := by
  unfold KeyExchangeStarted.feed at done
  obtain ⟨group, _, done⟩ := Outcome.bind_eq_ok.mp done
  obtain ⟨kx, _, done⟩ := Outcome.bind_eq_ok.mp done
  obtain ⟨completed, _, done⟩ := Outcome.bind_eq_ok.mp done
  cases done
  refine ⟨rfl, rfl, ?_⟩
  simp only [HandshakeHash.update, HashContext.update, HandshakeHash.prefixed_input]

structure Replying (provider : CryptoProvider σ ρ) (clientEphemeral : Bytes)
    (negotiated : Negotiated) (exchange : HandshakeHash) (sessionId : Option Digest)
    (hostKey : SigningKey) (output : ReplyOutput) (fed : KeyExchangeFed)
    (derivation : KeyDerivation) : Prop where
  feeds : KeyExchangeStarted.feed exchange clientEphemeral negotiated hostKey provider = .ok fed
  finished : output.exchangeHash = fed.exchange.finish
  publicKey : output.reply.serverPublicHostKey = ⟨hostKey.algorithm, hostKey.publicKey⟩
  serverEphemeral : output.reply.serverEphemeralPublicKey = fed.completed.publicKey
  signature : output.reply.exchangeHashSignature =
    ⟨hostKey.algorithm, hostKey.sign output.exchangeHash.bytes⟩
  hash : provider.hash negotiated.keyExchange = .ok derivation.hash
  secret : derivation.sharedSecret = fed.sharedSecret
  exchangeHash : derivation.exchangeHash = output.exchangeHash
  sessionId : derivation.sessionId = sessionId.getD output.exchangeHash
  clientToServer : KeySourceSide.clientToServer derivation negotiated.encryptionClientToServer =
    .ok output.keys.clientToServer
  serverToClient : KeySourceSide.serverToClient derivation negotiated.encryptionServerToClient =
    .ok output.keys.serverToClient

theorem EcdhKeyExchangeReply.new_ok {init : EcdhKeyExchangeInit} {negotiated : Negotiated}
    {exchange : HandshakeHash} {sessionId : Option Digest} {hostKey : SigningKey}
    {output : ReplyOutput}
    (done : EcdhKeyExchangeReply.new init negotiated exchange sessionId hostKey provider =
      .ok output) :
    ∃ fed derivation, Replying provider init.clientEphemeralPublicKey negotiated exchange sessionId
      hostKey output fed derivation := by
  unfold EcdhKeyExchangeReply.new at done
  obtain ⟨started, begun, done⟩ := Outcome.bind_eq_ok.mp done
  obtain ⟨hash, found, done⟩ := Outcome.bind_eq_ok.mp done
  obtain ⟨clientToServer, inbound, done⟩ := Outcome.bind_eq_ok.mp done
  obtain ⟨serverToClient, outbound, done⟩ := Outcome.bind_eq_ok.mp done
  cases done
  unfold KeyExchangeStarted.new at begun
  obtain ⟨fed, feeds, begun⟩ := Outcome.bind_eq_ok.mp begun
  cases begun
  exact ⟨fed, _, feeds, rfl, rfl, rfl, rfl, found, rfl, rfl, rfl, inbound, outbound⟩

theorem EcdhKeyExchangeReply.encode_ok {reply : EcdhKeyExchangeReply} {payload : Bytes}
    (done : reply.encode = .ok payload) :
    ∃ signature, payload = MessageType.keyExchangeEcdhReply.encode ++
        reply.serverPublicHostKey.encode ++ encodeBytes reply.serverEphemeralPublicKey ++
        signature ∧
      reply.exchangeHashSignature.encode = .ok signature := by
  unfold EcdhKeyExchangeReply.encode at done
  obtain ⟨signature, signed, done⟩ := Outcome.bind_eq_ok.mp done
  cases done
  exact ⟨signature, rfl, signed⟩

theorem EcdhKeyExchangeInit.tryFrom_ok {packet : IncomingPacket} {init : EcdhKeyExchangeInit}
    (done : EcdhKeyExchangeInit.tryFrom packet = .ok init) :
    packet.messageType = .keyExchangeEcdhInit ∧
      packet.payload = encodeBytes init.clientEphemeralPublicKey := by
  have message : packet.messageType = .keyExchangeEcdhInit := by
    by_contra wrong
    rw [EcdhKeyExchangeInit.tryFrom_wrong wrong] at done
    cases done
  refine ⟨message, ?_⟩
  unfold EcdhKeyExchangeInit.tryFrom at done
  obtain ⟨_, _, done⟩ := Outcome.bind_eq_ok.mp done
  obtain ⟨⟨value, next⟩, decoded, done⟩ := Outcome.bind_eq_ok.mp done
  dsimp only at done
  split at done
  · rename_i empty
    cases done
    have split := (decodeBytes_ok decoded).1
    rw [List.isEmpty_iff.mp empty, List.append_nil] at split
    exact split
  · cases done

theorem NewKeys.tryFrom_ok {packet : IncomingPacket} {value : Unit}
    (done : NewKeys.tryFrom packet = .ok value) : packet.messageType = .newKeys := by
  by_contra wrong
  rw [NewKeys.tryFrom_wrong wrong] at done
  cases done

end Hashing

structure ExchangeRecord where
  clientInit : IncomingPacket
  serverInit : Bytes
  ecdhInit : IncomingPacket
  reply : Bytes
  exchangeHash : Digest
  keys : KeySourceSet

/-- The exchange hash is over exactly the bytes of the transcript, the parts of the transcript are
the bytes of the messages, and the keys come from the same secret. -/
structure ExchangeRecord.Hashed (record : ExchangeRecord) (provider : CryptoProvider σ ρ)
    (transcript : Transcript) (fed : KeyExchangeFed) (derivation : KeyDerivation) : Prop where
  clientInit : record.clientInit.messageType = .keyExchangeInit ∧
    transcript.clientInit = record.clientInit.bytes
  serverInit : transcript.serverInit = record.serverInit ∧
    record.serverInit.head? = some MessageType.keyExchangeInit.toByte
  clientEphemeral : record.ecdhInit.messageType = .keyExchangeEcdhInit ∧
    record.ecdhInit.payload = encodeBytes transcript.clientEphemeral
  reply : ∃ signature, record.reply = MessageType.keyExchangeEcdhReply.encode ++
    transcript.hostKey.encode ++ encodeBytes transcript.serverEphemeral ++ signature
  feeds : ∃ exchange negotiated hostKey, negotiated.keyExchange = transcript.algorithm ∧
    KeyExchangeStarted.feed exchange transcript.clientEphemeral negotiated hostKey provider =
      .ok fed
  input : fed.exchange.context.input = transcript.bytes
  finished : record.exchangeHash = fed.exchange.finish
  hash : provider.hash transcript.algorithm = .ok fed.exchange.context.hash ∧
    derivation.hash = fed.exchange.context.hash
  secret : derivation.sharedSecret = encodeSecret transcript.algorithm transcript.secret
  exchangeHash : derivation.exchangeHash = record.exchangeHash
  keys : ∃ inbound outbound,
    KeySourceSide.clientToServer derivation inbound = .ok record.keys.clientToServer ∧
      KeySourceSide.serverToClient derivation outbound = .ok record.keys.serverToClient

def ExchangeRecord.SignedBy (record : ExchangeRecord) (key : SigningKey) : Prop :=
  ∃ signature, TaggedSignature.encode ⟨key.algorithm, key.sign record.exchangeHash.bytes⟩ =
    .ok signature ∧ signature <:+ record.reply

theorem Offered.hashed {provider : CryptoProvider σ ρ} {identities : Identities}
    {clientInit ecdhInit : IncomingPacket} {serverInit payload : Bytes} {kx : KeyExchange}
    {init : EcdhKeyExchangeInit} {sessionId : Option Digest} {hostKey : SigningKey}
    {output : ReplyOutput} (offered : Offered provider identities.encode clientInit serverInit kx)
    (parsed : EcdhKeyExchangeInit.tryFrom ecdhInit = .ok init)
    (replied : EcdhKeyExchangeReply.new init kx.negotiated kx.exchange sessionId hostKey provider =
      .ok output)
    (encoded : output.reply.encode = .ok payload) :
    ∃ transcript fed derivation,
      ExchangeRecord.Hashed ⟨clientInit, serverInit, ecdhInit, payload, output.exchangeHash,
        output.keys⟩ provider transcript fed derivation ∧
      ExchangeRecord.SignedBy ⟨clientInit, serverInit, ecdhInit, payload, output.exchangeHash,
        output.keys⟩ hostKey ∧
      transcript.identities = identities ∧
      transcript.hostKey = ⟨hostKey.algorithm, hostKey.publicKey⟩ ∧
      derivation.sessionId = sessionId.getD output.exchangeHash := by
  obtain ⟨fed, derivation, replying⟩ := EcdhKeyExchangeReply.new_ok replied
  obtain ⟨sameHash, secret, input⟩ := KeyExchangeStarted.feed_ok replying.feeds
  obtain ⟨message, ephemeral⟩ := EcdhKeyExchangeInit.tryFrom_ok parsed
  obtain ⟨signature, spelled, signed⟩ := EcdhKeyExchangeReply.encode_ok encoded
  have hashes : derivation.hash = fed.exchange.context.hash := by
    have same := replying.hash.symm.trans offered.hash
    rw [sameHash]
    exact Except.ok.inj same
  refine ⟨{
    identities
    clientInit := clientInit.bytes
    serverInit
    hostKey := ⟨hostKey.algorithm, hostKey.publicKey⟩
    clientEphemeral := init.clientEphemeralPublicKey
    serverEphemeral := fed.completed.publicKey
    algorithm := kx.negotiated.keyExchange
    secret := fed.completed.sharedSecret }, fed, derivation, ?_,
    ⟨signature, replying.signature ▸ signed, spelled ▸ List.suffix_append _ _⟩, rfl, rfl,
    replying.sessionId⟩
  constructor
  case clientInit => exact ⟨offered.message, rfl⟩
  case serverInit => exact ⟨rfl, offered.offer⟩
  case clientEphemeral => exact ⟨message, ephemeral⟩
  case reply =>
    rw [replying.publicKey, replying.serverEphemeral] at spelled
    exact ⟨signature, spelled⟩
  case feeds => exact ⟨_, _, _, rfl, replying.feeds⟩
  case input =>
    rw [input, offered.input, secret]
    simp only [Transcript.bytes, Identities.encode, List.append_assoc]
  case finished => exact replying.finished
  case hash => exact ⟨sameHash ▸ offered.hash, hashes⟩
  case secret => exact replying.secret.trans secret
  case exchangeHash => exact replying.exchangeHash
  case keys => exact ⟨_, _, replying.clientToServer, replying.serverToClient⟩

section Steps

variable [SealingKey σ] {provider : CryptoProvider σ ρ} {packet : IncomingPacket}
  {outbox last : Outbox σ Bytes}

namespace RekeyState

theorem advance_offered {rekey : Rekey} {next : RekeyState} {output : Option (Rekeyed σ ρ)}
    (done : exec ((RekeyState.awaitingKexInit rekey).advance packet provider) outbox =
      (.ok (next, output), last)) :
    ∃ kx serverInit, next = .awaitingEcdhInit kx rekey ∧ output = none ∧
      last.sent = outbox.sent ++ [serverInit] ∧
      outbox.write.encode serverInit = (last.write, .ok ()) ∧
      Offered provider rekey.identities.encode packet serverInit kx := by
  obtain ⟨start, begun, done⟩ := exec_attempt_ok.mp done
  obtain ⟨fed, middle, emitted, done⟩ := exec_bind_ok.mp done
  obtain ⟨sent, written, rfl⟩ := emitKx_ok emitted
  cases done
  obtain ⟨message, hash, input, _⟩ := KeyExchange.start_ok begun
  refine ⟨_, _, rfl, rfl, sent, written, message, hash, ?_, rfl⟩
  simp only [HandshakeHash.prefixed_input, input, HandshakeBuffer.prefixed_bytes, Identities.encode,
    List.nil_append]

theorem advance_replied {kx : KeyExchange} {rekey : Rekey} {next : RekeyState}
    {output : Option (Rekeyed σ ρ)}
    (done : exec ((RekeyState.awaitingEcdhInit kx rekey).advance packet provider) outbox =
      (.ok (next, output), last)) :
    ∃ init reply payload,
      next = .awaitingNewKeys rekey reply.keys kx.negotiated.keyExchange.postQuantumSecure ∧
      output = none ∧ last.sent = outbox.sent ++ [payload] ∧
      outbox.write.encode payload = (last.write, .ok ()) ∧
      EcdhKeyExchangeInit.tryFrom packet = .ok init ∧
      EcdhKeyExchangeReply.new init kx.negotiated kx.exchange (some rekey.sessionId)
        rekey.hostKey.key provider = .ok reply ∧
      reply.reply.encode = .ok payload := by
  obtain ⟨init, parsed, done⟩ := exec_attempt_ok.mp done
  obtain ⟨reply, replied, done⟩ := exec_attempt_ok.mp done
  obtain ⟨payload, _, raised, done⟩ := exec_bind_ok.mp done
  obtain ⟨encoded, rfl⟩ := Prod.mk.inj raised
  obtain ⟨_, _, emitted, done⟩ := exec_bind_ok.mp done
  obtain ⟨sent, written⟩ := Outbox.encode_ok emitted
  cases done
  exact ⟨init, reply, payload, rfl, rfl, sent, written, parsed, cryptoResult_ok replied, encoded⟩

theorem advance_rekeyed {rekey : Rekey} {keys : KeySourceSet} {postQuantumKx : Bool}
    {next : RekeyState} {output : Option (Rekeyed σ ρ)}
    (done : exec ((RekeyState.awaitingNewKeys rekey keys postQuantumKx).advance packet provider)
      outbox = (.ok (next, output), last)) :
    outbox = last ∧ next = .awaitingKexInit rekey ∧ packet.messageType = .newKeys ∧
      ∃ opener sealer, provider.openingKey 0 keys.clientToServer = .ok opener ∧
        provider.sealingKey 0 keys.serverToClient = .ok sealer ∧
        output = some ⟨⟨opener, sealer, rekey.strictKx⟩, postQuantumKx⟩ := by
  obtain ⟨_, parsed, done⟩ := exec_attempt_ok.mp done
  obtain ⟨opener, opened, done⟩ := exec_attempt_ok.mp done
  obtain ⟨sealer, sealed, done⟩ := exec_attempt_ok.mp done
  cases done
  exact ⟨rfl, rfl, NewKeys.tryFrom_ok parsed, opener, sealer, cryptoResult_ok opened,
    cryptoResult_ok sealed, rfl⟩

end RekeyState

namespace InitialKeyExchangeState

theorem advance_offered {hostKeys : HostKeys} {identities : Identities}
    {exchange : HandshakeBuffer} {next : InitialKeyExchangeState}
    {output : Option (Established σ ρ)}
    (done : exec ((InitialKeyExchangeState.awaitingKexInit hostKeys identities exchange).advance
      packet provider) outbox = (.ok (next, output), last)) :
    ∃ kx serverInit strictKx extInfo,
      next = .awaitingEcdhInit kx hostKeys identities strictKx extInfo ∧ output = none ∧
      last.sent = outbox.sent ++ [serverInit] ∧
      outbox.write.encode serverInit = (last.write, .ok ()) ∧
      Offered provider exchange.bytes packet serverInit kx ∧
      ∃ peer, KeyExchangeInit.tryFrom packet = .ok peer ∧
        strictKx.isSome = peer.hasExtension .strictKexClient := by
  obtain ⟨start, begun, done⟩ := exec_attempt_ok.mp done
  obtain ⟨fed, middle, emitted, done⟩ := exec_bind_ok.mp done
  obtain ⟨sent, written, rfl⟩ := emitKx_ok emitted
  cases done
  obtain ⟨message, hash, input, strict⟩ := KeyExchange.start_ok begun
  refine ⟨_, _, _, _, rfl, rfl, sent, written, ⟨message, hash, ?_, rfl⟩, strict⟩
  rw [HandshakeHash.prefixed_input, input]

theorem advance_replied {kx : KeyExchange} {hostKeys : HostKeys} {identities : Identities}
    {strictKx : Option StrictKeyExchange} {extInfo : Option ExtInfo}
    {next : InitialKeyExchangeState} {output : Option (Established σ ρ)}
    (done : exec ((InitialKeyExchangeState.awaitingEcdhInit kx hostKeys identities strictKx
      extInfo).advance packet provider) outbox = (.ok (next, output), last)) :
    ∃ init hostKey reply payload,
      next = .awaitingNewKeys ⟨identities, hostKey, strictKx, reply.exchangeHash, reply.keys,
        kx.negotiated.keyExchange.postQuantumSecure⟩ extInfo ∧
      output = none ∧ last.sent = outbox.sent ++ [payload] ∧
      outbox.write.encode payload = (last.write, .ok ()) ∧
      EcdhKeyExchangeInit.tryFrom packet = .ok init ∧
      hostKeys.key kx.negotiated = .ok hostKey ∧
      EcdhKeyExchangeReply.new init kx.negotiated kx.exchange none hostKey.key provider =
        .ok reply ∧
      reply.reply.encode = .ok payload := by
  obtain ⟨init, parsed, done⟩ := exec_attempt_ok.mp done
  obtain ⟨hostKey, selected, done⟩ := exec_attempt_ok.mp done
  obtain ⟨reply, replied, done⟩ := exec_attempt_ok.mp done
  obtain ⟨payload, _, raised, done⟩ := exec_bind_ok.mp done
  obtain ⟨encoded, rfl⟩ := Prod.mk.inj raised
  obtain ⟨_, _, emitted, done⟩ := exec_bind_ok.mp done
  obtain ⟨sent, written⟩ := Outbox.encode_ok emitted
  cases done
  exact ⟨init, hostKey, reply, payload, rfl, rfl, sent, written, parsed, cryptoResult_ok selected,
    cryptoResult_ok replied, encoded⟩

theorem advance_established {agreed : KeyExchangeOutput} {extInfo : Option ExtInfo}
    {next : InitialKeyExchangeState} {output : Option (Established σ ρ)}
    (done : exec ((InitialKeyExchangeState.awaitingNewKeys agreed extInfo).advance packet provider)
      outbox = (.ok (next, output), last)) :
    outbox = last ∧ next = .complete ∧ packet.messageType = .newKeys ∧
      ∃ opener sealer, provider.openingKey 0 agreed.keys.clientToServer = .ok opener ∧
        provider.sealingKey 0 agreed.keys.serverToClient = .ok sealer ∧
        output = some ⟨agreed, ⟨opener, sealer, agreed.strictKx⟩, extInfo⟩ := by
  obtain ⟨_, parsed, done⟩ := exec_attempt_ok.mp done
  obtain ⟨opener, opened, done⟩ := exec_attempt_ok.mp done
  obtain ⟨sealer, sealed, done⟩ := exec_attempt_ok.mp done
  cases done
  exact ⟨rfl, rfl, NewKeys.tryFrom_ok parsed, opener, sealer, cryptoResult_ok opened,
    cryptoResult_ok sealed, rfl⟩

end InitialKeyExchangeState

end Steps

structure Handshake (σ : Type) where
  clientInit : IncomingPacket
  ecdhInit : IncomingPacket
  newKeys : IncomingPacket
  offering : WriteState σ
  replying : WriteState σ
  changing : WriteState σ

namespace Handshake

variable {S β : Type}

section Calls

variable (handshake : Handshake σ)
  (handle : S → IncomingPacket → WriteState σ → Handled σ S (Option β)) (start : S)

def offered : Handled σ S (Option β) := handle start handshake.clientInit handshake.offering

def replied : Handled σ S (Option β) :=
  handle (handshake.offered handle start).state handshake.ecdhInit handshake.replying

def changed : Handled σ S (Option β) :=
  handle (handshake.replied handle start).state handshake.newKeys handshake.changing

structure Completes (result : β) : Prop where
  offered : (handshake.offered handle start).result = .ok none
  replied : (handshake.replied handle start).result = .ok none
  changed : (handshake.changed handle start).result = .ok (some result)

end Calls

structure Transcribed [SealingKey σ] (handshake : Handshake σ)
    (handle : S → IncomingPacket → WriteState σ → Handled σ S (Option β)) (start : S)
    (provider : CryptoProvider σ ρ) (record : ExchangeRecord) (transcript : Transcript)
    (derivation : KeyDerivation) : Prop where
  clientInit : record.clientInit = handshake.clientInit
  ecdhInit : record.ecdhInit = handshake.ecdhInit
  serverInit : (handshake.offered handle start).outbox.sent = [record.serverInit]
  framedInit : handshake.offering.encode record.serverInit =
    ((handshake.offered handle start).outbox.write, .ok ())
  reply : (handshake.replied handle start).outbox.sent = [record.reply]
  framedReply : handshake.replying.encode record.reply =
    ((handshake.replied handle start).outbox.write, .ok ())
  hashed : ∃ fed, record.Hashed provider transcript fed derivation

end Handshake

def RekeyState.handleWith [SealingKey σ] (provider : CryptoProvider σ ρ) (state : RekeyState)
    (packet : IncomingPacket) (write : WriteState σ) :
    Handled σ RekeyState (Option (Rekeyed σ ρ)) :=
  state.handle packet write provider

def InitialKeyExchangeState.handleWith [SealingKey σ] (provider : CryptoProvider σ ρ)
    (state : InitialKeyExchangeState) (packet : IncomingPacket) (write : WriteState σ) :
    Handled σ InitialKeyExchangeState (Option (Established σ ρ)) :=
  state.handle packet write provider

section Completing

variable [SealingKey σ] {provider : CryptoProvider σ ρ} {handshake : Handshake σ}

structure Rekey.Exchanged (rekey : Rekey) (provider : CryptoProvider σ ρ)
    (handshake : Handshake σ) (start : RekeyState) (rekeyed : Rekeyed σ ρ)
    (record : ExchangeRecord) (transcript : Transcript) (derivation : KeyDerivation) : Prop where
  transcribed :
    handshake.Transcribed (RekeyState.handleWith provider) start provider record transcript derivation
  identities : transcript.identities = rekey.identities
  hostKey : transcript.hostKey = ⟨rekey.hostKey.key.algorithm, rekey.hostKey.key.publicKey⟩
  signed : record.SignedBy rekey.hostKey.key
  sessionId : derivation.sessionId = rekey.sessionId
  opener : provider.openingKey 0 record.keys.clientToServer = .ok rekeyed.update.opener
  sealer : provider.sealingKey 0 record.keys.serverToClient = .ok rekeyed.update.sealer
  strictKx : rekeyed.update.strictKx = rekey.strictKx

theorem RekeyState.completes_exchanged {rekey : Rekey} {rekeyed : Rekeyed σ ρ}
    (completes : handshake.Completes (RekeyState.handleWith provider) (.awaitingKexInit rekey)
      rekeyed) :
    ∃ record transcript derivation, rekey.Exchanged provider handshake (.awaitingKexInit rekey)
      rekeyed record transcript derivation := by
  obtain ⟨first, second, third⟩ := completes
  obtain ⟨kx, serverInit, afterOffer, _, sentInit, framedInit, offered⟩ :=
    advance_offered (replacing_ok first)
  have replying := replacing_ok second
  change (handshake.offered (handleWith provider) (.awaitingKexInit rekey)).state = _ at afterOffer
  rw [afterOffer] at replying
  obtain ⟨init, output, payload, afterReply, _, sentReply, framedReply, parsed, replied, encoded⟩ :=
    advance_replied replying
  have changing := replacing_ok third
  rw [← afterOffer] at afterReply
  change (handshake.replied (handleWith provider) (.awaitingKexInit rekey)).state = _ at afterReply
  rw [afterReply] at changing
  obtain ⟨_, _, _, opener, sealer, opened, sealed, returned⟩ := advance_rekeyed changing
  cases returned
  obtain ⟨transcript, fed, derivation, hashed, signed, identities, hostKey, sessionId⟩ :=
    offered.hashed parsed replied encoded
  refine ⟨⟨handshake.clientInit, serverInit, handshake.ecdhInit, payload, output.exchangeHash,
    output.keys⟩, transcript, derivation, ?_, identities, hostKey, signed, sessionId, opened,
    sealed, rfl⟩
  rw [← afterOffer] at sentReply framedReply
  exact ⟨rfl, rfl, sentInit, framedInit, sentReply, framedReply, fed, hashed⟩

theorem RekeyState.completes_start {start : RekeyState} {rekeyed : Rekeyed σ ρ}
    (completes : handshake.Completes (RekeyState.handleWith provider) start rekeyed) :
    ∃ rekey, start = .awaitingKexInit rekey := by
  obtain ⟨first, second, _⟩ := completes
  have offering := replacing_ok first
  have replying := replacing_ok second
  cases start with
  | awaitingKexInit rekey => exact ⟨rekey, rfl⟩
  | awaitingEcdhInit kx rekey =>
      obtain ⟨_, _, _, after, _⟩ := advance_replied offering
      change (handshake.offered (handleWith provider) _).state = _ at after
      rw [after] at replying
      obtain ⟨_, _, _, _, _, _, _, returned⟩ := advance_rekeyed replying
      cases returned
  | awaitingNewKeys rekey keys postQuantumKx =>
      obtain ⟨_, _, _, _, _, _, _, returned⟩ := advance_rekeyed offering
      cases returned
  | transitioning => cases offering

structure Established.Exchanged (established : Established σ ρ) (provider : CryptoProvider σ ρ)
    (handshake : Handshake σ) (start : InitialKeyExchangeState) (hostKeys : HostKeys)
    (identities : Identities) (record : ExchangeRecord) (transcript : Transcript)
    (derivation : KeyDerivation) : Prop where
  transcribed : handshake.Transcribed (InitialKeyExchangeState.handleWith provider) start provider
    record transcript derivation
  identities : transcript.identities = identities ∧ established.output.identities = identities
  hostKey : established.output.hostKey ∈ hostKeys.keys ∧ transcript.hostKey =
    ⟨established.output.hostKey.key.algorithm, established.output.hostKey.key.publicKey⟩
  signed : record.SignedBy established.output.hostKey.key
  sessionId : derivation.sessionId = record.exchangeHash ∧
    established.output.sessionId = record.exchangeHash
  keys : established.output.keys = record.keys
  opener : provider.openingKey 0 record.keys.clientToServer = .ok established.update.opener
  sealer : provider.sealingKey 0 record.keys.serverToClient = .ok established.update.sealer
  strictKx : established.update.strictKx = established.output.strictKx ∧
    ∃ peer, KeyExchangeInit.tryFrom handshake.clientInit = .ok peer ∧
      established.output.strictKx.isSome = peer.hasExtension .strictKexClient

theorem HostKeys.key_mem {hostKeys : HostKeys} {negotiated : Negotiated} {hostKey : ServerHostKey}
    (selected : hostKeys.key negotiated = .ok hostKey) : hostKey ∈ hostKeys.keys := by
  unfold HostKeys.key at selected
  split at selected
  · rename_i found
    cases selected
    exact List.mem_of_find?_eq_some found
  · cases selected

theorem InitialKeyExchangeState.completes_exchanged {hostKeys : HostKeys}
    {identities : Identities} {exchange : HandshakeBuffer} {established : Established σ ρ}
    (lines : exchange.bytes = identities.encode)
    (completes : handshake.Completes (InitialKeyExchangeState.handleWith provider)
      (.new exchange identities hostKeys) established) :
    ∃ record transcript derivation, established.Exchanged provider handshake
      (.new exchange identities hostKeys) hostKeys identities record transcript derivation := by
  obtain ⟨first, second, third⟩ := completes
  obtain ⟨kx, serverInit, strictKx, extInfo, afterOffer, _, sentInit, framedInit, offered, strict⟩ :=
    advance_offered (replacing_ok first)
  have replying := replacing_ok second
  change (handshake.offered (handleWith provider) (.new exchange identities hostKeys)).state = _
    at afterOffer
  rw [afterOffer] at replying
  obtain ⟨init, hostKey, output, payload, afterReply, _, sentReply, framedReply, parsed, selected,
    replied, encoded⟩ := advance_replied replying
  have changing := replacing_ok third
  rw [← afterOffer] at afterReply
  change (handshake.replied (handleWith provider) (.new exchange identities hostKeys)).state = _
    at afterReply
  rw [afterReply] at changing
  obtain ⟨_, _, _, opener, sealer, opened, sealed, returned⟩ := advance_established changing
  cases returned
  rw [lines] at offered
  obtain ⟨transcript, fed, derivation, hashed, signed, same, tagged, sessionId⟩ :=
    offered.hashed parsed replied encoded
  refine ⟨⟨handshake.clientInit, serverInit, handshake.ecdhInit, payload, output.exchangeHash,
    output.keys⟩, transcript, derivation, ?_, ⟨same, rfl⟩, ⟨HostKeys.key_mem selected, tagged⟩,
    signed, ⟨sessionId, rfl⟩, rfl, opened, sealed, rfl, strict⟩
  rw [← afterOffer] at sentReply framedReply
  exact ⟨rfl, rfl, sentInit, framedInit, sentReply, framedReply, fed, hashed⟩

end Completing

section Retaining

variable [SealingKey σ]

def RekeyState.retained : RekeyState → Option Rekey
  | .awaitingKexInit rekey | .awaitingEcdhInit _ rekey | .awaitingNewKeys rekey _ _ => some rekey
  | .transitioning => none

theorem RekeyState.advance_retained {state next : RekeyState} {packet : IncomingPacket}
    {provider : CryptoProvider σ ρ} {outbox last : Outbox σ Bytes} {output : Option (Rekeyed σ ρ)}
    (done : exec (state.advance packet provider) outbox = (.ok (next, output), last)) :
    next.retained = state.retained := by
  cases state with
  | awaitingKexInit rekey =>
      obtain ⟨_, _, rfl, _⟩ := advance_offered done
      rfl
  | awaitingEcdhInit kx rekey =>
      obtain ⟨_, _, _, rfl, _⟩ := advance_replied done
      rfl
  | awaitingNewKeys rekey keys postQuantumKx =>
      obtain ⟨_, rfl, _⟩ := advance_rekeyed done
      rfl
  | transitioning => cases done

theorem RekeyState.handle_retained (state : RekeyState) (packet : IncomingPacket)
    (write : WriteState σ) (provider : CryptoProvider σ ρ) :
    (state.handle packet write provider).state.retained = state.retained ∨
      (state.handle packet write provider).state = .transitioning := by
  cases outcome : (state.handle packet write provider).result with
  | ok output => exact Or.inl (advance_retained (replacing_ok outcome))
  | error stop => exact Or.inr (replacing_error outcome)

theorem RekeyState.after_retained (calls : List (KeyExchangeCall σ ρ)) {state : RekeyState}
    {rekey : Rekey} (kept : state.retained = some rekey ∨ state = .transitioning) :
    ((RekeyState.machine σ ρ).after state calls).retained = some rekey ∨
      (RekeyState.machine σ ρ).after state calls = .transitioning := by
  induction calls generalizing state with
  | nil => exact kept
  | cons call calls ih =>
      refine ih ?_
      rcases state.handle_retained call.packet call.write call.provider with same | stopped
      · rcases kept with found | rfl
        · exact Or.inl (same.trans found)
        · exact Or.inr rfl
      · exact Or.inr stopped

end Retaining

end Oxish
