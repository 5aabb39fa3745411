import Oxish.Transcript

/-!
What the first exchange of a connection fixes for all later ones: the session identifier, the
identification lines, the host key, and whether a change of keys starts the packet numbers again.
-/

namespace Oxish

open Stateful

variable {α σ ρ τ : Type}

theorem HostKeys.load_rebuilt {provider : CryptoProvider σ ρ} (pkcs8 : List Bytes)
    {before after : List ServerHostKey} (done : HostKeys.load provider pkcs8 before = .ok after)
    (rebuilt : ∀ hostKey ∈ before, provider.signingKeyFromPkcs8 hostKey.pkcs8 = .ok hostKey.key) :
    ∀ hostKey ∈ after, provider.signingKeyFromPkcs8 hostKey.pkcs8 = .ok hostKey.key := by
  induction pkcs8 generalizing before with
  | nil =>
      cases done
      exact rebuilt
  | cons encoded rest ih =>
      unfold HostKeys.load at done
      obtain ⟨key, accepted, done⟩ := Outcome.bind_eq_ok.mp done
      dsimp only at done
      split at done
      · cases done
      · apply ih done
        intro hostKey member
        rcases List.mem_append.mp member with earlier | last
        · exact rebuilt hostKey earlier
        · rw [List.mem_singleton.mp last]
          exact cryptoResult_ok accepted

theorem HostKeys.new_rebuilt {provider : CryptoProvider σ ρ} {pkcs8 : List Bytes}
    {hostKeys : HostKeys} (loaded : HostKeys.new pkcs8 provider = .ok hostKeys) :
    ∀ hostKey ∈ hostKeys.keys,
      provider.signingKeyFromPkcs8 hostKey.pkcs8 = .ok hostKey.key := by
  unfold HostKeys.new at loaded
  obtain ⟨keys, read, loaded⟩ := Outcome.bind_eq_ok.mp loaded
  split at loaded
  · split at loaded
    · cases loaded
      apply HostKeys.load_rebuilt pkcs8 read
      intro hostKey member
      cases member
    · cases loaded
  · cases loaded

/-- An applied update sends NEWKEYS as the last packet of the old keys. It starts both packet
numbers again, or else leaves them where that packet has brought them. -/
structure KeyUpdate.Applied [SealingKey σ] (update : KeyUpdate σ ρ) (strict : Bool)
    (write : WriteState σ) (read : ReadState ρ) (lastWrite : WriteState σ)
    (lastRead : ReadState ρ) : Prop where
  announced : ∃ sent, write.encode NewKeys.encode = (sent, .ok ()) ∧ lastWrite.buf = sent.buf
  sealer : lastWrite.sealer = some update.sealer
  opener : lastRead.opener = some update.opener
  outgoing : lastWrite.sequenceNumber = if strict then 0 else write.sequenceNumber + 1
  incoming : lastRead.sequenceNumber = if strict then 0 else read.sequenceNumber

def KeyUpdate.Resets [SealingKey σ] (update : KeyUpdate σ ρ) (strict : Bool) : Prop :=
  ∀ ⦃write read lastWrite lastRead⦄, update.apply write read = (lastWrite, lastRead, .ok ()) →
    update.Applied strict write read lastWrite lastRead

theorem KeyUpdate.resets [SealingKey σ] (update : KeyUpdate σ ρ) :
    update.Resets update.strictKx.isSome := by
  intro write read lastWrite lastRead done
  unfold KeyUpdate.apply at done
  split at done
  · cases done
  · rename_i sent encoded
    cases done
    have counted := (WriteState.encode_accepts encoded).counted
    unfold WriteState.resetSequenceNumber ReadState.resetSequenceNumber
    cases update.strictKx with
    | none => exact ⟨⟨sent, encoded, rfl⟩, rfl, rfl, counted, rfl⟩
    | some marker => exact ⟨⟨sent, encoded, rfl⟩, rfl, rfl, rfl, rfl⟩

section Sessions

variable [SocketAddr α] [SealingKey σ] [OpeningKey ρ]

/-- A rekey that keeps the identity of the session: its keys come from its own exchange hash under
the first one, and lines, host key and packet numbering are those of the first exchange. -/
structure Handshake.Keeps (rekey : Handshake σ) (start : RekeyState)
    (provider : CryptoProvider σ ρ) (rekeyed : Rekeyed σ ρ) (first : ExchangeRecord)
    (opening : Transcript) (key : SigningKey) (strict : Bool) (record : ExchangeRecord)
    (transcript : Transcript) (derivation : KeyDerivation) : Prop where
  transcribed : rekey.Transcribed (RekeyState.handleWith provider) start provider record transcript
    derivation
  sessionId : derivation.sessionId = first.exchangeHash
  exchangeHash : derivation.exchangeHash = record.exchangeHash
  identities : transcript.identities = opening.identities
  hostKey : transcript.hostKey = opening.hostKey
  signed : record.SignedBy key
  opener : provider.openingKey 0 record.keys.clientToServer = .ok rekeyed.update.opener
  sealer : provider.sealingKey 0 record.keys.serverToClient = .ok rekeyed.update.sealer
  resets : rekeyed.update.Resets strict

/-- The identity of a session is that of the first exchange of its connection, through every rekey
and whether or not it was handed to another process. The session starts with the same provider at
a later moment, and each rekey has a provider of its own. -/
theorem session_identity_fixed (stream : Stream) (addr : α) (secureRandom : SecureRandom)
    (provider : CryptoProvider σ ρ) {pkcs8 : List Bytes} {hostKeys : HostKeys}
    (loaded : HostKeys.new pkcs8 provider = .ok hostKeys) {identified : Connection α σ ρ}
    {exchange : HandshakeBuffer} {identities : Identities} {initial : Handshake σ}
    {established : Established σ ρ}
    (identifies : exec Connection.identify (.new stream addr secureRandom) =
      (.ok (exchange, identities), identified))
    (completes : initial.Completes (InitialKeyExchangeState.handleWith provider)
      (.new exchange identities hostKeys) established) :
    ∃ first opening derivation peer,
      established.Exchanged provider initial (.new exchange identities hostKeys) hostKeys
        identities first opening derivation ∧
      KeyExchangeInit.tryFrom initial.clientInit = .ok peer ∧
      established.update.Resets (peer.hasExtension .strictKexClient) ∧
      ∀ (draws : Draws) (options : KeyOptions) (session : Session α σ ρ τ),
        session.Begun (provider.drawing draws) established.output options →
        ∀ (calls : List (KeyExchangeCall σ ρ)) (fresh : CryptoProvider σ ρ) (rekey : Handshake σ)
          (rekeyed : Rekeyed σ ρ),
          rekey.Completes (RekeyState.handleWith fresh)
            ((RekeyState.machine σ ρ).after session.kx calls) rekeyed →
          ∃ record transcript derivation,
            rekey.Keeps ((RekeyState.machine σ ρ).after session.kx calls) fresh rekeyed first
              opening established.output.hostKey.key (peer.hasExtension .strictKexClient) record
              transcript derivation := by
  obtain ⟨lines, _⟩ := Connection.identify_ok rfl identifies
  obtain ⟨first, opening, derivation, exchanged⟩ :=
    InitialKeyExchangeState.completes_exchanged lines completes
  obtain ⟨sameStrict, peer, parsed, strict⟩ := exchanged.strictKx
  refine ⟨first, opening, derivation, peer, exchanged, parsed, ?_, ?_⟩
  · rw [← strict, ← sameStrict]
    exact established.update.resets
  · intro draws options session begun calls fresh rekey rekeyed completes
    obtain ⟨key, record, transcript, derivation, found, rekeys⟩ := begun.exchanged calls completes
    -- The key of the session is rebuilt from the encoding of the key of the first exchange.
    have sameKey : key = established.output.hostKey.key := by
      have rebuilt := HostKeys.new_rebuilt loaded _ exchanged.hostKey.1
      exact Except.ok.inj (found.symm.trans rebuilt)
    subst sameKey
    obtain ⟨fed, hashed⟩ := rekeys.transcribed.hashed
    refine ⟨record, transcript, derivation, rekeys.transcribed,
      rekeys.sessionId.trans exchanged.sessionId.2, hashed.exchangeHash, ?_,
      rekeys.hostKey.trans exchanged.hostKey.2.symm, rekeys.signed, rekeys.opener, rekeys.sealer, ?_⟩
    · exact rekeys.identities.trans (exchanged.identities.2.trans exchanged.identities.1.symm)
    · have retained : rekeyed.update.strictKx = established.output.strictKx := rekeys.strictKx
      rw [← strict, ← retained]
      exact rekeyed.update.resets

end Sessions

def strictKexInit : KeyExchangeInit :=
  KeyExchange.localInit (.replicate 16 4)
    { Backend.supportedAlgorithms with keyExchange := [.curve25519Sha256] } [.ed25519]
    [.strictKexClient]

def strictHandshake : Handshake PlainSealer :=
  { plainHandshake with
    clientInit := plainPacket .keyExchangeInit (strictKexInit.encode.drop 1) }

set_option maxRecDepth 20000 in
theorem strictHandshake_established (exchange : HandshakeBuffer) (identities : Identities) :
    ∃ established, strictHandshake.Completes (InitialKeyExchangeState.handleWith plainProvider)
      (.new exchange identities plainHostKeys) established :=
  ⟨_, rfl, rfl, rfl⟩

set_option maxRecDepth 20000 in
theorem strictHandshake_marked {peer : KeyExchangeInit}
    (parsed : KeyExchangeInit.tryFrom strictHandshake.clientInit = .ok peer) :
    peer.hasExtension .strictKexClient = true := by
  cases parsed
  rfl

theorem session_identity_fixed_unmarked :
    ∃ (established : Established PlainSealer PlainOpener)
      (session : Session String PlainSealer PlainOpener Unit)
      (rekeyed : Rekeyed PlainSealer PlainOpener) (first record : ExchangeRecord)
      (opening transcript : Transcript) (derivation : KeyDerivation),
      session.Begun laterProvider established.output {} ∧
      plainHandshake.Completes (RekeyState.handleWith laterProvider) session.kx rekeyed ∧
      established.output.sessionId = first.exchangeHash ∧
      plainHandshake.Keeps session.kx laterProvider rekeyed first opening
        established.output.hostKey.key true record transcript derivation := by
  have loaded : HostKeys.new [[]] plainProvider = .ok plainHostKeys := rfl
  obtain ⟨exchange, identified, identifies⟩ := plainStream_identified
  obtain ⟨established, completes⟩ := strictHandshake_established exchange plainLines
  obtain ⟨session, started, kx⟩ := plainSession_begun established.output identified
  obtain ⟨rekeyed, again⟩ := plainHandshake_rekeyed established.output.sessionId
    established.output.strictKx established.output.identities
  rw [← kx] at again
  obtain ⟨first, opening, _, peer, exchanged, parsed, _, rekeys⟩ :=
    session_identity_fixed plainStream "192.0.2.1:22" plainProvider.secureRandom plainProvider
      loaded identifies completes
  obtain ⟨record, transcript, derivation, keeps⟩ :=
    rekeys laterDraws {} session (.inProcess started) [] laterProvider plainHandshake rekeyed again
  rw [strictHandshake_marked parsed] at keeps
  exact ⟨established, session, rekeyed, first, record, opening, transcript, derivation,
    .inProcess started, again, exchanged.sessionId.2, keeps⟩

end Oxish
