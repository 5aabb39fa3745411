import Oxish.DecoderSafety
import Oxish.KeyDerivation
import Oxish.Negotiation
import Oxish.NonceSequence
import Oxish.Transcript

/-!
What a negotiation that has succeeded is good for: the host key that is selected, the keys that
are derived and the reply that is sent. A provider that keeps to its own lists is asked for nothing
it does not have; what it reports later comes from its own operations.
-/

namespace Oxish

open Stateful

variable {σ ρ : Type}

def KeySourceSide.Sized (side : KeySourceSide) : Prop :=
  ∃ lengths, side.algorithm.lengths = some lengths ∧
    side.initialIv.length = lengths.ivLen ∧ side.encryptionKey.length = lengths.keyLen

/-- A provider has what it lists: hashes and key exchanges, encryption algorithms of known key
lengths with the ciphers for them, and host keys of the two algorithms that can be encoded. -/
structure CryptoProvider.Provides (provider : CryptoProvider σ ρ) : Prop where
  hash : ∀ algorithm ∈ provider.supportedAlgorithms.keyExchange,
    ∃ hash, provider.hash algorithm = .ok hash
  keyExchange : ∀ algorithm ∈ provider.supportedAlgorithms.keyExchange,
    ∃ group, provider.keyExchange algorithm = .ok group
  lengths : ∀ algorithm ∈ provider.supportedAlgorithms.encryption,
    ∃ lengths, EncryptionAlgorithm.lengths algorithm = some lengths
  opens : ∀ side : KeySourceSide, side.algorithm ∈ provider.supportedAlgorithms.encryption →
    side.Sized → ∃ opener, provider.openingKey 0 side = .ok opener
  seals : ∀ side : KeySourceSide, side.algorithm ∈ provider.supportedAlgorithms.encryption →
    side.Sized → ∃ sealer, provider.sealingKey 0 side = .ok sealer
  signs : ∀ pkcs8 key, provider.signingKeyFromPkcs8 pkcs8 = .ok key →
    key.algorithm = .ed25519 ∨ key.algorithm = .ecdsaSha2Nistp256

def unknownAlgorithm : Stop ProtoError := .error (.crypto .unknownAlgorithm)

/-- The key agreement with the key of the client reports an unknown algorithm. -/
def AgreementReports (provider : CryptoProvider σ ρ) (negotiated : Negotiated)
    (packet : IncomingPacket) : Prop :=
  ∃ init group, EcdhKeyExchangeInit.tryFrom packet = .ok init ∧
    provider.keyExchange negotiated.keyExchange = .ok group ∧
    (group.start >>= fun agree => agree init.clientEphemeralPublicKey) = .error .unknownAlgorithm

/-- The cipher of a writer reports an unknown algorithm; a writer without one never does. -/
def SealReports [SealingKey σ] (write : WriteState σ) : Prop :=
  ∃ sealer number data tag, write.sealer = some sealer ∧
    (SealingKey.sealInPlace sealer number data tag).result = .error (.error .unknownAlgorithm)

section Derived

theorem KeyDerivation.length_derive (derivation : KeyDerivation) (input : KeyInput) (len : Nat) :
    ((derivation.key input).derive len).length = len :=
  (KeySource.derive_filled (derivation.key_uniform input) derivation.hash.outputLenPositive).2

theorem KeySourceSide.derived_sized {derivation : KeyDerivation} {algorithm : EncryptionAlgorithm}
    {ivInput keyInput : KeyInput} {side : KeySourceSide}
    (done : KeySourceSide.derived derivation algorithm ivInput keyInput = .ok side) :
    side.algorithm = algorithm ∧ side.Sized := by
  unfold KeySourceSide.derived at done
  split at done
  · cases done
  · rename_i keyLen ivLen found
    cases done
    exact ⟨rfl, _, found, derivation.length_derive ivInput ivLen,
      derivation.length_derive keyInput keyLen⟩

theorem KeySourceSide.derived_ok {algorithm : EncryptionAlgorithm} {lengths : KeyLengths}
    (known : algorithm.lengths = some lengths) (derivation : KeyDerivation)
    (ivInput keyInput : KeyInput) :
    ∃ side, KeySourceSide.derived derivation algorithm ivInput keyInput = .ok side := by
  unfold KeySourceSide.derived
  rw [known]
  exact ⟨_, rfl⟩

end Derived

section Choosing

variable {provider : CryptoProvider σ ρ}

theorem mem_of_firstCommon {α : Type} [DecidableEq α] {client server : List α} {chosen : α}
    (found : firstCommon client server = some chosen) : chosen ∈ server := by
  obtain ⟨_, _, _, member, _⟩ := firstCommon_eq_some_iff.mp found
  exact member

theorem algorithmsOf_listed (algorithms : List KeyExchangeAlgorithm) (extensions : List ExtensionId) :
    algorithmsOf (algorithms.map .keyExchange ++ extensions.map .extension) = algorithms := by
  induction algorithms with
  | nil =>
      induction extensions with
      | nil => rfl
      | cons id extensions ih => exact ih
  | cons algorithm algorithms ih => exact congrArg (algorithm :: ·) ih

structure Listed (provider : CryptoProvider σ ρ) (hostKeys : List PublicKeyAlgorithm)
    (negotiated : Negotiated) : Prop where
  keyExchange : negotiated.keyExchange ∈ provider.supportedAlgorithms.keyExchange
  hostKey : negotiated.serverHostKey ∈ hostKeys
  inbound : negotiated.encryptionClientToServer ∈ provider.supportedAlgorithms.encryption
  outbound : negotiated.encryptionServerToClient ∈ provider.supportedAlgorithms.encryption

theorem choose_listed {client : KeyExchangeInit} {cookie : FixedBytes 16}
    {hostKeys : List PublicKeyAlgorithm} {extensions : List ExtensionId} {negotiated : Negotiated}
    (chosen : Negotiated.choose client (KeyExchange.localInit cookie provider.supportedAlgorithms
      hostKeys extensions) = .ok negotiated) : Listed provider hostKeys negotiated := by
  unfold Negotiated.choose at chosen
  obtain ⟨keyExchange, first, chosen⟩ := Outcome.bind_eq_ok.mp chosen
  obtain ⟨hostKey, second, chosen⟩ := Outcome.bind_eq_ok.mp chosen
  obtain ⟨inbound, third, chosen⟩ := Outcome.bind_eq_ok.mp chosen
  obtain ⟨outbound, fourth, chosen⟩ := Outcome.bind_eq_ok.mp chosen
  cases chosen
  rw [orNoCommon_eq_ok] at first second third fourth
  rw [firstCommonKeyExchange_eq] at first
  refine ⟨?_, mem_of_firstCommon second, mem_of_firstCommon third, mem_of_firstCommon fourth⟩
  have member := mem_of_firstCommon first
  change keyExchange ∈ algorithmsOf (_ ++ _) at member
  rw [algorithmsOf_listed] at member
  exact member

theorem KeyExchange.start_listed {packet : IncomingPacket} {exchange : HandshakeBuffer}
    {hostKeys : List PublicKeyAlgorithm} {extensions : List ExtensionId} {start : KeyExchangeStart}
    (done : KeyExchange.start packet exchange hostKeys extensions provider = .ok start) :
    Listed provider hostKeys start.kx.negotiated ∧
      start.localInit.serverHostKeyAlgorithms = hostKeys := by
  unfold KeyExchange.start at done
  obtain ⟨peer, _, done⟩ := Outcome.bind_eq_ok.mp done
  obtain ⟨cookie, _, done⟩ := Outcome.bind_eq_ok.mp done
  obtain ⟨negotiated, chosen, done⟩ := Outcome.bind_eq_ok.mp done
  obtain ⟨hash, _, done⟩ := Outcome.bind_eq_ok.mp done
  cases done
  exact ⟨choose_listed chosen, rfl⟩

theorem HostKeys.key_listed {hostKeys : HostKeys} {negotiated : Negotiated}
    (listed : negotiated.serverHostKey ∈ hostKeys.algorithms) :
    ∃ hostKey, hostKeys.key negotiated = .ok hostKey ∧
      hostKey.key.algorithm = negotiated.serverHostKey := by
  obtain ⟨hostKey, member, same⟩ := List.mem_map.mp listed
  unfold HostKeys.key
  cases found : hostKeys.keys.find? fun hostKey =>
      hostKey.key.algorithm = negotiated.serverHostKey with
  | some selected =>
      have fits := List.find?_some found
      exact ⟨selected, rfl, by simpa using fits⟩
  | none => exact absurd (decide_eq_true same) (List.find?_eq_none.mp found hostKey member)

theorem HostKeys.load_loaded {pkcs8s : List Bytes} {keys loaded : List ServerHostKey}
    (done : HostKeys.load provider pkcs8s keys = .ok loaded)
    (earlier : ∀ hostKey ∈ keys, provider.signingKeyFromPkcs8 hostKey.pkcs8 = .ok hostKey.key) :
    ∀ hostKey ∈ loaded, provider.signingKeyFromPkcs8 hostKey.pkcs8 = .ok hostKey.key := by
  induction pkcs8s generalizing keys with
  | nil =>
      cases done
      exact earlier
  | cons pkcs8 pkcs8s ih =>
      unfold HostKeys.load at done
      obtain ⟨key, found, done⟩ := Outcome.bind_eq_ok.mp done
      dsimp only at done
      split at done
      · cases done
      · apply ih done
        intro hostKey member
        rcases List.mem_append.mp member with member | member
        · exact earlier hostKey member
        · cases List.mem_singleton.mp member
          exact cryptoResult_ok found

theorem HostKeys.new_loaded {pkcs8s : List Bytes} {hostKeys : HostKeys}
    (done : HostKeys.new pkcs8s provider = .ok hostKeys) :
    ∀ hostKey ∈ hostKeys.keys, provider.signingKeyFromPkcs8 hostKey.pkcs8 = .ok hostKey.key := by
  unfold HostKeys.new at done
  obtain ⟨keys, loaded, done⟩ := Outcome.bind_eq_ok.mp done
  split at done
  · split at done
    · cases done
      apply HostKeys.load_loaded loaded
      intro hostKey member
      cases member
    · cases done
  · cases done

end Choosing

section Replying

variable {provider : CryptoProvider σ ρ} {hostKeys : List PublicKeyAlgorithm}
  {negotiated : Negotiated} {hostKey : SigningKey} {init : EcdhKeyExchangeInit}
  {exchange : HandshakeHash} {sessionId : Option Digest}

theorem derivation_finds (provides : provider.Provides) (listed : Listed provider hostKeys negotiated)
    (derivation : KeyDerivation) :
    (∃ side, KeySourceSide.clientToServer derivation negotiated.encryptionClientToServer =
        .ok side) ∧
      ∃ side, KeySourceSide.serverToClient derivation negotiated.encryptionServerToClient =
        .ok side := by
  obtain ⟨_, inbound⟩ := provides.lengths _ listed.inbound
  obtain ⟨_, outbound⟩ := provides.lengths _ listed.outbound
  exact ⟨KeySourceSide.derived_ok inbound derivation _ _,
    KeySourceSide.derived_ok outbound derivation _ _⟩

theorem EcdhKeyExchangeReply.new_error (provides : provider.Provides)
    (listed : Listed provider hostKeys negotiated) {cause : CryptoError}
    (failed : EcdhKeyExchangeReply.new init negotiated exchange sessionId hostKey provider =
      .error cause) :
    ∃ group, provider.keyExchange negotiated.keyExchange = .ok group ∧
      (group.start >>= fun agree => agree init.clientEphemeralPublicKey) = .error cause := by
  obtain ⟨hash, hashes⟩ := provides.hash _ listed.keyExchange
  obtain ⟨group, found⟩ := provides.keyExchange _ listed.keyExchange
  refine ⟨group, found, ?_⟩
  unfold EcdhKeyExchangeReply.new at failed
  rcases Outcome.bind_eq_error.mp failed with failed | ⟨started, _, failed⟩
  · unfold KeyExchangeStarted.new at failed
    rcases Outcome.bind_eq_error.mp failed with failed | ⟨_, _, failed⟩
    · unfold KeyExchangeStarted.feed at failed
      rcases Outcome.bind_eq_error.mp failed with missing | ⟨other, same, failed⟩
      · cases found.symm.trans missing
      · cases found.symm.trans same
        apply Outcome.bind_eq_error.mpr
        rcases Outcome.bind_eq_error.mp failed with failed | ⟨agree, starts, failed⟩
        · exact Or.inl failed
        · rcases Outcome.bind_eq_error.mp failed with failed | ⟨_, _, failed⟩
          · exact Or.inr ⟨agree, starts, failed⟩
          · cases failed
    · cases failed
  · rcases Outcome.bind_eq_error.mp failed with missing | ⟨other, _, failed⟩
    · cases hashes.symm.trans missing
    · obtain ⟨⟨_, inbound⟩, _, outbound⟩ := derivation_finds provides listed ⟨other,
        started.sharedSecret, started.exchangeHash, sessionId.getD started.exchangeHash⟩
      rcases Outcome.bind_eq_error.mp failed with missing | ⟨_, _, failed⟩
      · cases inbound.symm.trans missing
      · rcases Outcome.bind_eq_error.mp failed with missing | ⟨_, _, failed⟩
        · cases outbound.symm.trans missing
        · cases failed

theorem TaggedSignature.encode_known {algorithm : PublicKeyAlgorithm}
    (known : algorithm = .ed25519 ∨ algorithm = .ecdsaSha2Nistp256) (signature : Bytes) :
    ∃ encoded, TaggedSignature.encode ⟨algorithm, signature⟩ = .ok encoded := by
  rcases known with rfl | rfl
  · exact ⟨_, rfl⟩
  · exact ⟨_, rfl⟩

theorem EcdhKeyExchangeReply.new_usable (provides : provider.Provides)
    (listed : Listed provider hostKeys negotiated)
    (known : hostKey.algorithm = .ed25519 ∨ hostKey.algorithm = .ecdsaSha2Nistp256)
    {output : ReplyOutput}
    (done : EcdhKeyExchangeReply.new init negotiated exchange sessionId hostKey provider =
      .ok output) :
    output.reply.serverPublicHostKey.algorithm = hostKey.algorithm ∧
      output.reply.exchangeHashSignature.algorithm = hostKey.algorithm ∧
      (∃ payload, output.reply.encode = .ok payload) ∧
      (∃ opener, provider.openingKey 0 output.keys.clientToServer = .ok opener) ∧
      ∃ sealer, provider.sealingKey 0 output.keys.serverToClient = .ok sealer := by
  obtain ⟨fed, derivation, replying⟩ := EcdhKeyExchangeReply.new_ok done
  obtain ⟨inbound, openSized⟩ := KeySourceSide.derived_sized replying.clientToServer
  obtain ⟨outbound, sealSized⟩ := KeySourceSide.derived_sized replying.serverToClient
  refine ⟨by rw [replying.publicKey], by rw [replying.signature], ?_,
    provides.opens _ (inbound ▸ listed.inbound) openSized,
    provides.seals _ (outbound ▸ listed.outbound) sealSized⟩
  obtain ⟨signature, encoded⟩ := TaggedSignature.encode_known known
    (hostKey.sign output.exchangeHash.bytes)
  unfold EcdhKeyExchangeReply.encode
  rw [replying.signature]
  exact ⟨_, Outcome.bind_ok encoded rfl⟩

end Replying

section Steps

variable [SealingKey σ]

omit [SealingKey σ] in
theorem replacing_stop {S α : Type} {placeholder : S} {step : Emit σ Bytes ProtoError (S × α)}
    {outbox : Outbox σ Bytes} {stop : Stop ProtoError}
    (failed : (replacing placeholder step outbox).result = .error stop) :
    ∃ last, exec step outbox = (.error stop, last) := by
  unfold replacing at failed
  split at failed
  · cases failed
  · rename_i cause last ran
    cases failed
    exact ⟨last, ran⟩

theorem encode_reports {write : WriteState σ} {payload : Bytes}
    (failed : (write.encode payload).2 = .error unknownAlgorithm) : SealReports write := by
  change (write.encodeKx payload none).result = _ at failed
  have course := write.encodeKx_course payload none
  generalize write.encodeKx payload none = encoding at course failed
  cases course with
  | unpadded => cases failed
  | plain => cases failed
  | sealed => cases failed
  | @refused sealer stop drawn installed stopped =>
      cases stop with
      | panic site => cases failed
      | error cause =>
          cases failed
          exact ⟨sealer, _, _, _, installed, stopped⟩

theorem emitKx_reports {payload : Bytes} {exchange : HandshakeHash} {outbox last : Outbox σ Bytes}
    (failed : exec (emitKx payload exchange) outbox = (.error unknownAlgorithm, last)) :
    SealReports outbox.write := by
  rw [emitKx_eq] at failed
  rcases exec_bind_error.mp failed with failed | ⟨_, _, _, failed⟩
  · exact encode_reports (emit_stop failed)
  · cases failed

variable {provider : CryptoProvider σ ρ} {negotiated : Negotiated} {hostKeys : List PublicKeyAlgorithm}
  {hostKey : SigningKey}

theorem reply_reports {S α : Type} (provides : provider.Provides)
    (listed : Listed provider hostKeys negotiated)
    (known : hostKey.algorithm = .ed25519 ∨ hostKey.algorithm = .ecdsaSha2Nistp256)
    {packet : IncomingPacket} {init : EcdhKeyExchangeInit}
    (parsed : EcdhKeyExchangeInit.tryFrom packet = .ok init) {exchange : HandshakeHash}
    {sessionId : Option Digest} {finish : ReplyOutput → S × Option α} {outbox last : Outbox σ Bytes}
    (failed : exec (do
        let output ← attempt (cryptoResult
          (EcdhKeyExchangeReply.new init negotiated exchange sessionId hostKey provider))
        let payload ← attemptOrPanic output.reply.encode
        emit id payload
        pure (finish output)) outbox = (.error unknownAlgorithm, last)) :
    AgreementReports provider negotiated packet ∨ SealReports outbox.write := by
  rcases exec_attempt_stop failed with ⟨cause, refused, stop⟩ | ⟨output, replied, failed⟩
  · cases stop
    left
    cases reply : EcdhKeyExchangeReply.new init negotiated exchange sessionId hostKey provider with
    | ok output =>
        rw [reply] at refused
        cases refused
    | error reported =>
        rw [reply] at refused
        cases refused
        obtain ⟨group, found, agrees⟩ := EcdhKeyExchangeReply.new_error provides listed reply
        exact ⟨init, group, parsed, found, agrees⟩
  · obtain ⟨_, _, ⟨payload, encoded⟩, _⟩ :=
      EcdhKeyExchangeReply.new_usable provides listed known (cryptoResult_ok replied)
    right
    rw [encoded] at failed
    rcases exec_bind_error.mp failed with failed | ⟨_, _, done, failed⟩
    · cases failed
    · cases done
      rcases exec_bind_error.mp failed with failed | ⟨_, _, _, failed⟩
      · exact encode_reports (emit_stop failed)
      · cases failed

end Steps

/-- What the rest of an exchange makes of its start, with this host key. -/
structure Handshake.Suffices [SealingKey σ] {S β : Type} (handshake : Handshake σ)
    (handle : S → IncomingPacket → WriteState σ → Handled σ S (Option β)) (state : S)
    (provider : CryptoProvider σ ρ) (start : KeyExchangeStart) (hostKey : SigningKey) : Prop where
  selected : hostKey.algorithm = start.kx.negotiated.serverHostKey
  listed : hostKey.algorithm ∈ start.localInit.serverHostKeyAlgorithms
  sent : (handshake.offered handle state).result = .ok none →
    (handshake.offered handle state).outbox.sent = [start.localInit.encode]
  lengths : ∀ derivation,
    (∃ side, KeySourceSide.clientToServer derivation
      start.kx.negotiated.encryptionClientToServer = .ok side) ∧
    ∃ side, KeySourceSide.serverToClient derivation
      start.kx.negotiated.encryptionServerToClient = .ok side
  signs : ∀ signature, ∃ encoded, TaggedSignature.encode ⟨hostKey.algorithm, signature⟩ = .ok encoded
  tagged : (handshake.offered handle state).result = .ok none →
    (handshake.replied handle state).result = .ok none →
    ∃ reply payload, (handshake.replied handle state).outbox.sent = [payload] ∧
      EcdhKeyExchangeReply.encode reply = .ok payload ∧
      reply.serverPublicHostKey.algorithm = start.kx.negotiated.serverHostKey ∧
      reply.exchangeHashSignature.algorithm = start.kx.negotiated.serverHostKey
  offered : (handshake.offered handle state).result = .error unknownAlgorithm →
    SealReports handshake.offering
  replied : (handshake.offered handle state).result = .ok none →
    (handshake.replied handle state).result = .error unknownAlgorithm →
    AgreementReports provider start.kx.negotiated handshake.ecdhInit ∨
      SealReports handshake.replying
  changed : (handshake.offered handle state).result = .ok none →
    (handshake.replied handle state).result = .ok none →
    (handshake.changed handle state).result ≠ .error unknownAlgorithm

section Machines

variable [SealingKey σ] {provider : CryptoProvider σ ρ} {handshake : Handshake σ}
  {start : KeyExchangeStart}

theorem tryFrom_not_unknown {packet : IncomingPacket} :
    EcdhKeyExchangeInit.tryFrom packet ≠ .error (.crypto .unknownAlgorithm) ∧
      NewKeys.tryFrom packet ≠ .error (.crypto .unknownAlgorithm) :=
  ⟨(EcdhKeyExchangeInit.tryFrom_sound packet).allowed_error,
    (NewKeys.tryFrom_sound packet).allowed_error⟩

theorem opening_state {S α : Type} {held : S} {outcome : Except ProtoError KeyExchangeStart}
    (waiting : KeyExchangeStart → HandshakeHash → S) {outbox : Outbox σ Bytes}
    (begun : outcome = .ok start)
    (offered : (replacing held (do
        let start ← attempt outcome
        let fed ← emitKx start.localInit.encode start.kx.exchange
        pure (waiting start fed, (none : Option α))) outbox).result = .ok none) :
    ∃ fed, (replacing held (do
        let start ← attempt outcome
        let fed ← emitKx start.localInit.encode start.kx.exchange
        pure (waiting start fed, (none : Option α))) outbox).state = waiting start fed ∧
      (replacing held (do
        let start ← attempt outcome
        let fed ← emitKx start.localInit.encode start.kx.exchange
        pure (waiting start fed, (none : Option α))) outbox).outbox.sent =
        outbox.sent ++ [start.localInit.encode] := by
  have ran := replacing_ok offered
  obtain ⟨other, same, ran⟩ := exec_attempt_ok.mp ran
  cases begun.symm.trans same
  obtain ⟨fed, middle, emitted, ran⟩ := exec_bind_ok.mp ran
  obtain ⟨sent, _⟩ := emitKx_ok emitted
  obtain ⟨value, last⟩ := Prod.mk.inj ran
  rw [Except.ok.injEq, Prod.mk.injEq] at value
  refine ⟨fed, value.1.symm, ?_⟩
  rw [← last]
  exact sent

theorem opening_reports {S α : Type} {held : S} {outcome : Except ProtoError KeyExchangeStart}
    {waiting : KeyExchangeStart → HandshakeHash → S} {outbox : Outbox σ Bytes}
    (begun : outcome = .ok start)
    (failed : (replacing held (do
        let start ← attempt outcome
        let fed ← emitKx start.localInit.encode start.kx.exchange
        pure (waiting start fed, (none : Option α))) outbox).result = .error unknownAlgorithm) :
    SealReports outbox.write := by
  obtain ⟨last, ran⟩ := replacing_stop failed
  rcases exec_attempt_stop ran with ⟨_, refused, _⟩ | ⟨_, _, ran⟩
  · cases begun.symm.trans refused
  · rcases exec_bind_error.mp ran with ran | ⟨_, _, _, ran⟩
    · exact emitKx_reports ran
    · cases ran

theorem InitialKeyExchangeState.offered_state {hostKeys : HostKeys} {identities : Identities}
    {exchange : HandshakeBuffer}
    (begun : KeyExchange.start handshake.clientInit exchange hostKeys.algorithms
      [.strictKexServer] provider = .ok start)
    (offered : (handshake.offered (InitialKeyExchangeState.handleWith provider)
      (.new exchange identities hostKeys)).result = .ok none) :
    ∃ fed, (handshake.offered (InitialKeyExchangeState.handleWith provider)
        (.new exchange identities hostKeys)).state =
      .awaitingEcdhInit { start.kx with exchange := fed } hostKeys identities start.strictKx
        start.extInfo ∧
      (handshake.offered (InitialKeyExchangeState.handleWith provider)
        (.new exchange identities hostKeys)).outbox.sent = [start.localInit.encode] := by
  exact opening_state (fun start fed => awaitingEcdhInit { start.kx with exchange := fed } hostKeys
    identities start.strictKx start.extInfo) begun offered

theorem cryptoResult_eq_error {α : Type} {outcome : Except CryptoError α} {cause : ProtoError}
    (failed : cryptoResult outcome = .error cause) : ∃ reported, outcome = .error reported := by
  cases outcome with
  | ok value => cases failed
  | error reported => exact ⟨reported, rfl⟩

omit [SealingKey σ] in
theorem newKeys_not_unknown {S α : Type} {packet : IncomingPacket} {keys : KeySourceSet} {opener : ρ}
    {sealer : σ} (opens : provider.openingKey 0 keys.clientToServer = .ok opener)
    (seals : provider.sealingKey 0 keys.serverToClient = .ok sealer) {finish : ρ → σ → S × Option α}
    {outbox last : Outbox σ Bytes} :
    exec (do
        attempt (NewKeys.tryFrom packet)
        let opener ← attempt (cryptoResult (provider.openingKey 0 keys.clientToServer))
        let sealer ← attempt (cryptoResult (provider.sealingKey 0 keys.serverToClient))
        pure (finish opener sealer)) outbox ≠ (.error unknownAlgorithm, last) := by
  intro failed
  rcases exec_attempt_stop failed with ⟨cause, refused, stop⟩ | ⟨_, _, failed⟩
  · cases stop
    exact tryFrom_not_unknown.2 refused
  · rcases exec_attempt_stop failed with ⟨cause, refused, _⟩ | ⟨_, _, failed⟩
    · obtain ⟨_, missing⟩ := cryptoResult_eq_error refused
      cases opens.symm.trans missing
    · rcases exec_attempt_stop failed with ⟨cause, refused, _⟩ | ⟨_, _, failed⟩
      · obtain ⟨_, missing⟩ := cryptoResult_eq_error refused
        cases seals.symm.trans missing
      · cases failed

theorem Handshake.suffices_of_answers {S β : Type}
    {handle : S → IncomingPacket → WriteState σ → Handled σ S (Option β)} {state : S}
    {hostKeys : List PublicKeyAlgorithm} {hostKey : SigningKey} (provides : provider.Provides)
    (listed : Listed provider hostKeys start.kx.negotiated)
    (offers : start.localInit.serverHostKeyAlgorithms = hostKeys)
    (algorithm : hostKey.algorithm = start.kx.negotiated.serverHostKey)
    (known : hostKey.algorithm = .ed25519 ∨ hostKey.algorithm = .ecdsaSha2Nistp256)
    (sent : (handshake.offered handle state).result = .ok none →
      (handshake.offered handle state).outbox.sent = [start.localInit.encode])
    (offered : (handshake.offered handle state).result = .error unknownAlgorithm →
      SealReports handshake.offering)
    (replied : (handshake.offered handle state).result = .ok none →
      (handshake.replied handle state).result = .error unknownAlgorithm →
      AgreementReports provider start.kx.negotiated handshake.ecdhInit ∨
        SealReports handshake.replying)
    (answers : (handshake.offered handle state).result = .ok none →
      (handshake.replied handle state).result = .ok none →
      ∃ init exchange sessionId output payload,
        EcdhKeyExchangeReply.new init start.kx.negotiated exchange sessionId hostKey provider =
          .ok output ∧
        output.reply.encode = .ok payload ∧
        (handshake.replied handle state).outbox.sent = [payload] ∧
        ∀ opener sealer, provider.openingKey 0 output.keys.clientToServer = .ok opener →
          provider.sealingKey 0 output.keys.serverToClient = .ok sealer →
          (handshake.changed handle state).result ≠ .error unknownAlgorithm) :
    handshake.Suffices handle state provider start hostKey := by
  constructor
  case selected => exact algorithm
  case listed =>
    rw [offers, algorithm]
    exact listed.hostKey
  case sent => exact sent
  case lengths => exact derivation_finds provides listed
  case signs => exact TaggedSignature.encode_known known
  case tagged =>
    intro opened answered
    obtain ⟨_, _, _, output, payload, reply, encoded, packets, _⟩ := answers opened answered
    obtain ⟨publicKey, signature, _⟩ :=
      EcdhKeyExchangeReply.new_usable provides listed known reply
    exact ⟨output.reply, payload, packets, encoded, publicKey.trans algorithm,
      signature.trans algorithm⟩
  case offered => exact offered
  case replied => exact replied
  case changed =>
    intro opened answered
    obtain ⟨_, _, _, output, _, reply, _, _, completes⟩ := answers opened answered
    obtain ⟨_, _, _, ⟨_, opens⟩, _, seals⟩ :=
      EcdhKeyExchangeReply.new_usable provides listed known reply
    exact completes _ _ opens seals

theorem InitialKeyExchangeState.started_suffices (provides : provider.Provides) {pkcs8s : List Bytes}
    {hostKeys : HostKeys} (loaded : HostKeys.new pkcs8s provider = .ok hostKeys)
    {identities : Identities} {exchange : HandshakeBuffer}
    (begun : KeyExchange.start handshake.clientInit exchange hostKeys.algorithms
      [.strictKexServer] provider = .ok start) :
    ∃ hostKey, hostKeys.key start.kx.negotiated = .ok hostKey ∧
      handshake.Suffices (InitialKeyExchangeState.handleWith provider)
        (.new exchange identities hostKeys) provider start hostKey.key := by
  obtain ⟨listed, offers⟩ := KeyExchange.start_listed begun
  obtain ⟨hostKey, selected, algorithm⟩ := HostKeys.key_listed listed.hostKey
  have known := provides.signs _ _
    (HostKeys.new_loaded loaded hostKey (HostKeys.key_mem selected))
  refine ⟨hostKey, selected, Handshake.suffices_of_answers provides listed offers algorithm known
    ?sent ?offered ?replied ?answers⟩
  case sent =>
    intro offered
    obtain ⟨_, _, sent⟩ := offered_state begun offered
    exact sent
  case offered =>
    intro failed
    exact opening_reports begun failed
  case replied =>
    intro offered failed
    obtain ⟨fed, waiting, _⟩ := offered_state begun offered
    obtain ⟨last, ran⟩ := replacing_stop failed
    rw [waiting] at ran
    rcases exec_attempt_stop ran with ⟨_, refused, stop⟩ | ⟨init, parsed, ran⟩
    · cases stop
      exact absurd refused tryFrom_not_unknown.1
    · rcases exec_attempt_stop ran with ⟨_, refused, _⟩ | ⟨other, same, ran⟩
      · obtain ⟨_, missing⟩ := cryptoResult_eq_error refused
        cases selected.symm.trans missing
      · cases selected.symm.trans (cryptoResult_ok same)
        exact reply_reports provides listed known parsed ran
  case answers =>
    intro offered replied
    obtain ⟨fed, waiting, _⟩ := offered_state begun offered
    have ran := replacing_ok replied
    rw [waiting] at ran
    obtain ⟨init, other, output, payload, after, _, sent, _, _, same, reply, encoded⟩ :=
      advance_replied ran
    cases selected.symm.trans same
    rw [← waiting] at after sent
    refine ⟨init, _, _, output, payload, reply, encoded, sent, ?_⟩
    intro opener sealer opens seals failed
    obtain ⟨last, ran⟩ := replacing_stop failed
    change (handshake.replied (handleWith provider) (.new exchange identities hostKeys)).state = _
      at after
    rw [after] at ran
    exact newKeys_not_unknown opens seals ran

def Identities.buffer (identities : Identities) : HandshakeBuffer :=
  (({} : HandshakeBuffer).prefixed identities.client).prefixed identities.server

theorem RekeyState.offered_state {sessionId : Digest} {strictKx : Option StrictKeyExchange}
    {identities : Identities} {key : SigningKey}
    (begun : KeyExchange.start handshake.clientInit identities.buffer [key.algorithm] []
      provider = .ok start)
    (offered : (handshake.offered (RekeyState.handleWith provider)
      (.new sessionId strictKx identities ⟨key⟩)).result = .ok none) :
    ∃ fed, (handshake.offered (RekeyState.handleWith provider)
        (.new sessionId strictKx identities ⟨key⟩)).state =
      .awaitingEcdhInit { start.kx with exchange := fed } ⟨⟨key⟩, identities, strictKx, sessionId⟩ ∧
      (handshake.offered (RekeyState.handleWith provider)
        (.new sessionId strictKx identities ⟨key⟩)).outbox.sent = [start.localInit.encode] := by
  exact opening_state (fun start fed => awaitingEcdhInit { start.kx with exchange := fed }
    ⟨⟨key⟩, identities, strictKx, sessionId⟩) begun offered

theorem RekeyState.started_suffices (provides : provider.Provides) {pkcs8 : Bytes} {key : SigningKey}
    (loaded : provider.signingKeyFromPkcs8 pkcs8 = .ok key) {sessionId : Digest}
    {strictKx : Option StrictKeyExchange} {identities : Identities}
    (begun : KeyExchange.start handshake.clientInit identities.buffer [key.algorithm] []
      provider = .ok start) :
    handshake.Suffices (RekeyState.handleWith provider)
      (.new sessionId strictKx identities ⟨key⟩) provider start key := by
  obtain ⟨listed, offers⟩ := KeyExchange.start_listed begun
  have algorithm : key.algorithm = start.kx.negotiated.serverHostKey :=
    (List.mem_singleton.mp listed.hostKey).symm
  have known := provides.signs _ _ loaded
  refine Handshake.suffices_of_answers provides listed offers algorithm known
    ?sent ?offered ?replied ?answers
  case sent =>
    intro offered
    obtain ⟨_, _, sent⟩ := offered_state begun offered
    exact sent
  case offered =>
    intro failed
    exact opening_reports begun failed
  case replied =>
    intro offered failed
    obtain ⟨fed, waiting, _⟩ := offered_state begun offered
    obtain ⟨last, ran⟩ := replacing_stop failed
    rw [waiting] at ran
    rcases exec_attempt_stop ran with ⟨_, refused, stop⟩ | ⟨init, parsed, ran⟩
    · cases stop
      exact absurd refused tryFrom_not_unknown.1
    · exact reply_reports provides listed known parsed ran
  case answers =>
    intro offered replied
    obtain ⟨fed, waiting, _⟩ := offered_state begun offered
    have ran := replacing_ok replied
    rw [waiting] at ran
    obtain ⟨init, output, payload, after, _, sent, _, _, reply, encoded⟩ := advance_replied ran
    rw [← waiting] at after sent
    refine ⟨init, _, _, output, payload, reply, encoded, sent, ?_⟩
    intro opener sealer opens seals failed
    obtain ⟨last, ran⟩ := replacing_stop failed
    change (handshake.replied (handleWith provider) (.new sessionId strictKx identities
      ⟨key⟩)).state = _ at after
    rw [after] at ran
    exact newKeys_not_unknown opens seals ran

end Machines

/-- When the start of an exchange succeeds, so does every lookup behind it, in the initial exchange
and in a rekey: a host key of the negotiated algorithm is there, it is one that was offered, the
keys have their lengths, and the reply is tagged and encoded. An unknown algorithm is reported only
by the provider's own key agreement or by the cipher of the session. -/
theorem negotiation_suffices [SealingKey σ] (provider : CryptoProvider σ ρ)
    (provides : provider.Provides) :
    (∀ (pkcs8s : List Bytes) (hostKeys : HostKeys) (exchange : HandshakeBuffer)
      (identities : Identities) (handshake : Handshake σ) (start : KeyExchangeStart),
      HostKeys.new pkcs8s provider = .ok hostKeys →
      KeyExchange.start handshake.clientInit exchange hostKeys.algorithms [.strictKexServer]
        provider = .ok start →
      ∃ hostKey, hostKeys.key start.kx.negotiated = .ok hostKey ∧
        handshake.Suffices (InitialKeyExchangeState.handleWith provider)
          (.new exchange identities hostKeys) provider start hostKey.key) ∧
    (∀ (pkcs8 : Bytes) (key : SigningKey) (sessionId : Digest)
      (strictKx : Option StrictKeyExchange) (identities : Identities) (handshake : Handshake σ)
      (start : KeyExchangeStart),
      provider.signingKeyFromPkcs8 pkcs8 = .ok key →
      KeyExchange.start handshake.clientInit identities.buffer [key.algorithm] [] provider =
        .ok start →
      handshake.Suffices (RekeyState.handleWith provider)
        (.new sessionId strictKx identities ⟨key⟩) provider start key) := by
  constructor
  · intro pkcs8s hostKeys exchange identities handshake start loaded begun
    exact InitialKeyExchangeState.started_suffices provides loaded begun
  · intro pkcs8 key sessionId strictKx identities handshake start loaded begun
    exact RekeyState.started_suffices provides loaded begun

section Backends

variable (backend : Backend) (primitives : Primitives)

theorem GcmState.new_sized {side : KeySourceSide} (aes : side.algorithm = .aes128Gcm)
    (sized : side.Sized) : ∃ state, GcmState.new backend 0 side = .ok state := by
  obtain ⟨lengths, known, ivLength, keyLength⟩ := sized
  rw [aes] at known
  cases known
  exact ⟨{ key := ⟨side.encryptionKey, keyLength⟩, nonce := ⟨side.initialIv, ivLength⟩, counter := 0 },
    GcmState.new_ok_iff.mpr (GcmState.initial_at rfl rfl)⟩

theorem Backend.gcmState_sized {side : KeySourceSide} (aes : side.algorithm = .aes128Gcm)
    (sized : side.Sized) : ∃ state, backend.gcmState 0 side = .ok state := by
  unfold Backend.gcmState
  rw [aes]
  exact GcmState.new_sized backend aes sized

theorem Primitives.signingKeyFromPkcs8_algorithm {pkcs8 : Bytes} {key : SigningKey}
    (loaded : primitives.signingKeyFromPkcs8 pkcs8 = .ok key) :
    key.algorithm = .ed25519 ∨ key.algorithm = .ecdsaSha2Nistp256 := by
  unfold Primitives.signingKeyFromPkcs8 at loaded
  split at loaded
  · cases loaded
    exact Or.inl rfl
  · obtain ⟨keyPair, _, rfl⟩ := Outcome.map_eq_ok.mp loaded
    exact Or.inr rfl

theorem Backend.provider_provides : (backend.provider primitives).Provides where
  hash := by
    intro algorithm listed
    rcases List.mem_pair.mp listed with rfl | rfl
    · exact ⟨_, rfl⟩
    · exact ⟨_, rfl⟩
  keyExchange := by
    intro algorithm listed
    rcases List.mem_pair.mp listed with rfl | rfl
    · exact ⟨_, rfl⟩
    · exact ⟨_, rfl⟩
  lengths := by
    intro algorithm listed
    cases List.mem_singleton.mp listed
    exact ⟨_, rfl⟩
  opens := by
    intro side listed sized
    obtain ⟨state, built⟩ := backend.gcmState_sized (List.mem_singleton.mp listed) sized
    exact ⟨⟨state⟩, Outcome.map_eq_ok.mpr ⟨state, built, rfl⟩⟩
  seals := by
    intro side listed sized
    obtain ⟨state, built⟩ := backend.gcmState_sized (List.mem_singleton.mp listed) sized
    exact ⟨⟨state⟩, Outcome.map_eq_ok.mpr ⟨state, built, rfl⟩⟩
  signs := by
    intro pkcs8 key loaded
    exact primitives.signingKeyFromPkcs8_algorithm loaded

end Backends

section Clients

set_option maxRecDepth 20000 in
theorem plainHandshake_starts : ∃ start,
    KeyExchange.start plainHandshake.clientInit {} plainHostKeys.algorithms [.strictKexServer]
      plainProvider = .ok start := ⟨_, rfl⟩

set_option maxRecDepth 20000 in
theorem plainHandshake_restarts : ∃ start,
    KeyExchange.start plainHandshake.clientInit plainIdentities.buffer [plainHostKey.algorithm] []
      plainProvider = .ok start := ⟨_, rfl⟩

theorem negotiation_suffices_plain :
    ∃ start restart hostKey, plainHostKeys.key start.kx.negotiated = .ok hostKey ∧
      plainHandshake.Suffices (InitialKeyExchangeState.handleWith plainProvider)
        (.new {} plainIdentities plainHostKeys) plainProvider start hostKey.key ∧
      plainHandshake.Suffices (RekeyState.handleWith plainProvider)
        (.new ⟨[5], by decide⟩ none plainIdentities ⟨plainHostKey⟩) plainProvider restart
        plainHostKey := by
  obtain ⟨start, begun⟩ := plainHandshake_starts
  obtain ⟨restart, begunAgain⟩ := plainHandshake_restarts
  obtain ⟨initial, rekey⟩ := negotiation_suffices plainProvider
    (Backend.provider_provides .awsLc plainPrimitives)
  obtain ⟨hostKey, selected, good⟩ :=
    initial [[]] plainHostKeys {} plainIdentities plainHandshake start rfl begun
  exact ⟨start, restart, hostKey, selected, good,
    rekey [] plainHostKey _ none plainIdentities plainHandshake restart rfl begunAgain⟩

def disagreeingProvider : CryptoProvider PlainSealer PlainOpener :=
  { plainProvider with keyExchange := fun _ => .ok ⟨.ok fun _ => .error .unknownAlgorithm⟩ }

theorem disagreeingProvider_provides : disagreeingProvider.Provides := by
  have plain := Backend.provider_provides .awsLc plainPrimitives
  exact ⟨plain.hash, fun _ _ => ⟨_, rfl⟩, plain.lengths, plain.opens, plain.seals, plain.signs⟩

inductive RefusingSealer where
  | refusing

instance : SealingKey RefusingSealer where
  sealInPlace key _ data tag :=
    { key, data := .whole data, tag := .whole tag, result := .error (.error .unknownAlgorithm) }
  counter _ := 0
  blockLen _ := 16
  tagLen _ := 16

def refusingProvider : CryptoProvider RefusingSealer PlainOpener where
  signingKeyFromPkcs8 := plainProvider.signingKeyFromPkcs8
  verifyingKey := plainProvider.verifyingKey
  openingKey := plainProvider.openingKey
  sealingKey _ _ := .ok .refusing
  keyExchange := plainProvider.keyExchange
  hash := plainProvider.hash
  supportedAlgorithms := plainProvider.supportedAlgorithms
  secureRandom := plainProvider.secureRandom

theorem refusingProvider_provides : refusingProvider.Provides := by
  have plain := Backend.provider_provides .awsLc plainPrimitives
  exact ⟨plain.hash, plain.keyExchange, plain.lengths, plain.opens, fun _ _ _ => ⟨_, rfl⟩,
    plain.signs⟩

def refusedHandshake : Handshake RefusingSealer where
  clientInit := plainHandshake.clientInit
  ecdhInit := plainHandshake.ecdhInit
  newKeys := plainHandshake.newKeys
  offering := { secureRandom := constantRandom 6, sealer := some .refusing }
  replying := { secureRandom := constantRandom 6, sealer := some .refusing }
  changing := { secureRandom := constantRandom 6, sealer := some .refusing }

set_option maxRecDepth 20000 in
theorem negotiation_reported :
    (disagreeingProvider.Provides ∧
      (plainHandshake.offered (InitialKeyExchangeState.handleWith disagreeingProvider)
        (.new {} plainIdentities plainHostKeys)).result = .ok none ∧
      (plainHandshake.replied (InitialKeyExchangeState.handleWith disagreeingProvider)
        (.new {} plainIdentities plainHostKeys)).result = .error unknownAlgorithm) ∧
    (refusingProvider.Provides ∧
      (∃ start, KeyExchange.start refusedHandshake.clientInit plainIdentities.buffer
        [plainHostKey.algorithm] [] refusingProvider = .ok start) ∧
      (refusedHandshake.offered (RekeyState.handleWith refusingProvider)
        (.new ⟨[5], by decide⟩ none plainIdentities ⟨plainHostKey⟩)).result =
          .error unknownAlgorithm) :=
  ⟨⟨disagreeingProvider_provides, rfl, rfl⟩, refusingProvider_provides, ⟨_, rfl⟩, rfl⟩

end Clients

end Oxish
