import Oxish.Connection
import Oxish.Identification
import Oxish.SessionStart

/-!
The exchange hash from the first byte of a connection on: the two identification lines, the
initial exchange, and every rekey of the session that follows, in this process or another.
-/

namespace Oxish

open Stateful

variable {α σ ρ τ : Type}

namespace Connection

theorem identifyFor_ok (rounds : Nat) {conn last : Connection α σ ρ} {buf : Bytes}
    {decoded : Decoded Identification}
    (done : exec (identifyFor rounds) conn = (.ok (buf, decoded), last)) :
    ∃ (line : Bytes) (chunks : List Bytes), splitOnce crlf buf = some (line, decoded.next) ∧
      conn.stream.reads = chunks.map .ok ++ last.stream.reads ∧
      buf = conn.read.buf ++ chunks.flatten ∧
      last.write = conn.write ∧ last.stream.sent = conn.stream.sent := by
  induction rounds generalizing conn with
  | zero => cases done
  | succ rounds ih =>
      unfold identifyFor at done
      obtain ⟨_, read, buffered, done⟩ := exec_bind_ok.mp done
      obtain ⟨bytes, reads, arrived, rfl⟩ := buffer_ok buffered
      obtain ⟨_, _, seen, done⟩ := exec_bind_ok.mp done
      cases seen
      split at done
      · rename_i found accepted
        cases done
        obtain ⟨line, split⟩ := Identification.decode_complete accepted
        exact ⟨line, [bytes], split, arrived, by rw [List.flatten_singleton], rfl, rfl⟩
      · obtain ⟨line, chunks, split, later, whole, write, sent⟩ := ih done
        refine ⟨line, bytes :: chunks, split, ?_, ?_, write, sent⟩
        · rw [arrived]
          exact congrArg (.ok bytes :: ·) later
        · rw [whole, List.flatten_cons, List.append_assoc]
      · cases done

theorem writeAllFor_ok (rounds : Nat) {conn last : Connection α σ ρ} {bytes : Bytes} {value : Unit}
    (done : exec (writeAllFor rounds bytes) conn = (.ok value, last)) :
    last.stream.sent = conn.stream.sent ++ bytes ∧ last.stream.reads = conn.stream.reads ∧
      last.write = conn.write ∧ last.read = conn.read ∧ last.addr = conn.addr := by
  induction rounds generalizing conn bytes with
  | zero =>
      cases bytes with
      | nil =>
          cases done
          exact ⟨(List.append_nil _).symm, rfl, rfl, rfl, rfl⟩
      | cons byte bytes => cases done
  | succ rounds ih =>
      cases bytes with
      | nil =>
          cases done
          exact ⟨(List.append_nil _).symm, rfl, rfl, rfl, rfl⟩
      | cons byte bytes =>
          unfold writeAllFor at done
          obtain ⟨count, _, polled, done⟩ := exec_bind_ok.mp done
          obtain ⟨writes, _, rfl⟩ := pollWrite_ok polled
          split at done
          · cases done
          · split at done
            · cases done
            · obtain ⟨sent, same⟩ := ih done
              refine ⟨?_, same⟩
              rw [sent, List.append_assoc, List.take_append_drop]

theorem recordLine_line (exchange : HandshakeBuffer) (line : Bytes) :
    recordLine exchange (line ++ crlf) ((line ++ crlf).length - 2) =
      (exchange.prefixed line, line) := by
  have inner : (line ++ crlf).length - 2 = line.length := by
    rw [List.length_append]
    exact Nat.add_sub_cancel _ _
  rw [inner, recordLine, upTo_append rfl]

/-- The identification lines are those that crossed the stream, without their line ends. -/
structure Identified (conn last : Connection α σ ρ) (identities : Identities) : Prop where
  sent : last.stream.sent = conn.stream.sent ++ identities.server ++ crlf
  received : ∃ (chunks : List Bytes) (rest : Bytes),
    conn.stream.reads = chunks.map .ok ++ last.stream.reads ∧
    splitOnce crlf (conn.read.buf ++ chunks.flatten) = some (identities.client, rest)

/-- The reader after the identification: the loop has found the line of the client, and it is
the next to be dropped from the buffer. -/
structure LineRead (conn last : Connection α σ ρ) (identities : Identities) : Prop where
  server : identities.server ++ crlf = serverIdentification.encode
  client : ∃ rounds buf decoded found,
    exec (identifyFor rounds) conn = (.ok (buf, decoded), found) ∧
    buf = identities.client ++ crlf ++ decoded.next ∧ last.addr = found.addr ∧
    last.read = found.read.setLastLength (identities.client.length + 2)

theorem identify_ok {conn last : Connection α σ ρ} {exchange : HandshakeBuffer}
    {identities : Identities} (empty : conn.write.buf = [])
    (done : exec identify conn = (.ok (exchange, identities), last)) :
    exchange.bytes = identities.encode ∧ conn.Identified last identities ∧
      last.write = conn.write ∧ conn.LineRead last identities := by
  unfold identify at done
  obtain ⟨reads, _, counted, done⟩ := exec_bind_ok.mp done
  cases counted
  obtain ⟨⟨buf, decoded⟩, found, looked, done⟩ := exec_bind_ok.mp done
  obtain ⟨line, chunks, split, arrived, received, write, sent⟩ := identifyFor_ok _ looked
  have whole := splitOnce_some split
  dsimp only at done
  split at done
  · cases done
  · unfold exchangeIdentification at done
    obtain ⟨⟨first, client⟩, _, taken, done⟩ := exec_bind_ok.mp done
    rw [whole, takeIdentification_line] at taken
    cases taken
    obtain ⟨bytes, _, encoded, done⟩ := exec_bind_ok.mp done
    have spelled : bytes = serverIdentification.encode := by
      have all := congrArg Prod.fst encoded
      change Except.ok (found.write.buf ++ serverIdentification.encode) = _ at all
      rw [write, empty] at all
      cases all
      rfl
    cases encoded
    obtain ⟨_, flushed, wrote, done⟩ := exec_bind_ok.mp done
    obtain ⟨out, kept, unchanged, reader, peer⟩ := writeAllFor_ok _ wrote
    obtain ⟨serverLine, ends⟩ : ∃ serverLine, serverIdentification.encode = serverLine ++ crlf :=
      ⟨_, rfl⟩
    rw [spelled, ends] at out
    rw [spelled, ends, recordLine_line] at done
    obtain ⟨_, _, cleared, done⟩ := exec_bind_ok.mp done
    cases cleared
    cases done
    refine ⟨?_, ⟨?_, chunks, decoded.next, ?_, ?_⟩, ?_, ends.symm, ?_⟩
    · simp only [HandshakeBuffer.prefixed_bytes, Identities.encode, List.nil_append]
    · change flushed.stream.sent = _
      rw [out, List.append_assoc]
      exact congrArg (· ++ (serverLine ++ crlf)) sent
    · change _ = _ ++ flushed.stream.reads
      rw [kept]
      exact arrived
    · rw [← received, split]
    · change flushed.write.clear = _
      rw [unchanged]
      change { found.write with buf := [] } = _
      rw [write, ← empty]
    · exact ⟨_, buf, decoded, found, looked, whole, peer, reader⟩

end Connection

def Handshake.Hashes [SealingKey σ] {S β : Type} (handshake : Handshake σ)
    (handle : S → IncomingPacket → WriteState σ → Handled σ S (Option β)) (start : S)
    (provider : CryptoProvider σ ρ) (identities : Identities) : Prop :=
  ∃ record transcript derivation, transcript.identities = identities ∧
    handshake.Transcribed handle start provider record transcript derivation

section Sessions

variable [SocketAddr α] [SealingKey σ] [OpeningKey ρ]

theorem Session.Begun.exchanged {provider : CryptoProvider σ ρ} {output : KeyExchangeOutput}
    {options : KeyOptions} {session : Session α σ ρ τ}
    (begun : session.Begun provider output options) (calls : List (KeyExchangeCall σ ρ))
    {fresh : CryptoProvider σ ρ} {handshake : Handshake σ} {rekeyed : Rekeyed σ ρ}
    (completes : handshake.Completes (RekeyState.handleWith fresh)
      ((RekeyState.machine σ ρ).after session.kx calls) rekeyed) :
    ∃ key record transcript derivation,
      provider.signingKeyFromPkcs8 output.hostKey.pkcs8 = .ok key ∧
      Rekey.Exchanged ⟨⟨key⟩, output.identities, output.strictKx, output.sessionId⟩ fresh
        handshake ((RekeyState.machine σ ρ).after session.kx calls) rekeyed record transcript
        derivation := by
  obtain ⟨key, found, kx⟩ := begun.startsFrom.kx
  have retained : session.kx.retained =
      some ⟨⟨key⟩, output.identities, output.strictKx, output.sessionId⟩ := by
    rw [kx]
    rfl
  obtain ⟨rekey, waiting⟩ := RekeyState.completes_start completes
  rw [waiting] at completes
  have same : rekey = ⟨⟨key⟩, output.identities, output.strictKx, output.sessionId⟩ := by
    rcases RekeyState.after_retained calls (Or.inl retained) with kept | stopped
    · rw [waiting] at kept
      exact Option.some.inj kept
    · cases waiting.symm.trans stopped
  subst same
  obtain ⟨record, transcript, derivation, exchanged⟩ := RekeyState.completes_exchanged completes
  refine ⟨key, record, transcript, derivation, found, ?_⟩
  rw [waiting]
  exact exchanged

/-- Every completed exchange of a connection, the initial one and each rekey of its session in
this process or another, hashes the bytes that crossed the stream. Each of them has a provider of
its own, so that it draws its own cookie and its own ephemeral key. -/
theorem exchange_hash_transcript (stream : Stream) (addr : α) (secureRandom : SecureRandom)
    (provider : CryptoProvider σ ρ) (hostKeys : HostKeys) {identified : Connection α σ ρ}
    {exchange : HandshakeBuffer} {identities : Identities} {initial : Handshake σ}
    {established : Established σ ρ}
    (identifies : exec Connection.identify (.new stream addr secureRandom) =
      (.ok (exchange, identities), identified))
    (completes : initial.Completes (InitialKeyExchangeState.handleWith provider)
      (.new exchange identities hostKeys) established) :
    (Connection.new stream addr secureRandom).Identified identified identities ∧
      initial.Hashes (InitialKeyExchangeState.handleWith provider)
        (.new exchange identities hostKeys) provider identities ∧
      ∀ (starting : CryptoProvider σ ρ) (options : KeyOptions) (session : Session α σ ρ τ),
        session.Begun starting established.output options →
        ∀ (calls : List (KeyExchangeCall σ ρ)) (fresh : CryptoProvider σ ρ) (rekey : Handshake σ)
          (rekeyed : Rekeyed σ ρ),
          rekey.Completes (RekeyState.handleWith fresh)
            ((RekeyState.machine σ ρ).after session.kx calls) rekeyed →
          rekey.Hashes (RekeyState.handleWith fresh)
            ((RekeyState.machine σ ρ).after session.kx calls) fresh identities := by
  obtain ⟨lines, crossed, _, _⟩ := Connection.identify_ok rfl identifies
  obtain ⟨record, transcript, derivation, exchanged⟩ :=
    InitialKeyExchangeState.completes_exchanged lines completes
  refine ⟨crossed, ⟨record, transcript, derivation, exchanged.identities.1,
    exchanged.transcribed⟩, ?_⟩
  intro starting options session begun calls fresh rekey rekeyed completes
  obtain ⟨key, record, transcript, derivation, _, rekeys⟩ := begun.exchanged calls completes
  exact ⟨record, transcript, derivation, rekeys.identities.trans exchanged.identities.2,
    rekeys.transcribed⟩

end Sessions

section Clients

def plainPacket (messageType : MessageType) (payload : Bytes) : IncomingPacket where
  sequenceNumber := 0
  messageType := messageType
  payload := payload

def plainHandshake : Handshake PlainSealer where
  clientInit := plainPacket .keyExchangeInit (clientKexInit.encode.drop 1)
  ecdhInit := plainPacket .keyExchangeEcdhInit (encodeBytes [8])
  newKeys := plainPacket .newKeys []
  offering := .new (constantRandom 6)
  replying := .new (constantRandom 6)
  changing := .new (constantRandom 6)

def plainStream : Stream where
  reads := [.ok (plainLine ++ crlf)]
  writes := [.ok 21]
  flushes := []

def plainLines : Identities where
  client := plainLine
  server := strBytes "SSH-2.0-OxiSH/0.2.0"

set_option maxRecDepth 20000 in
theorem plainHandshake_established (exchange : HandshakeBuffer) (identities : Identities) :
    ∃ established, plainHandshake.Completes (InitialKeyExchangeState.handleWith plainProvider)
      (.new exchange identities plainHostKeys) established :=
  ⟨_, rfl, rfl, rfl⟩

def plainDraws : Draws where
  secureRandom := plainProvider.secureRandom
  keyExchange := plainProvider.keyExchange

-- A later moment, at which the provider draws another cookie and another ephemeral key.
def laterDraws : Draws where
  secureRandom := constantRandom 11
  keyExchange _ := .ok ⟨.ok fun _ => .ok { publicKey := [12], sharedSecret := [13] }⟩

def laterProvider : CryptoProvider PlainSealer PlainOpener := plainProvider.drawing laterDraws

set_option maxRecDepth 20000 in
theorem plainHandshake_rekeyed (sessionId : Digest) (strictKx : Option StrictKeyExchange)
    (identities : Identities) :
    ∃ rekeyed, plainHandshake.Completes (RekeyState.handleWith laterProvider)
      (.new sessionId strictKx identities ⟨plainHostKey⟩) rekeyed :=
  ⟨_, rfl, rfl, rfl⟩

theorem plainStream_identified :
    ∃ exchange identified, exec Connection.identify
      (.new plainStream "192.0.2.1:22" plainProvider.secureRandom :
        Connection String PlainSealer PlainOpener) =
        (.ok (exchange, plainLines), identified) :=
  ⟨_, _, rfl⟩

theorem plainSession_begun (output : KeyExchangeOutput)
    (conn : Connection String PlainSealer PlainOpener) :
    ∃ session : Session String PlainSealer PlainOpener Unit,
      Session.new output conn laterProvider {} = .ok session ∧
        session.kx = .new output.sessionId output.strictKx output.identities ⟨plainHostKey⟩ :=
  ⟨_, rfl, rfl⟩

theorem exchange_hash_transcript_rekeyed :
    ∃ (exchange : HandshakeBuffer) (established : Established PlainSealer PlainOpener)
      (session : Session String PlainSealer PlainOpener Unit)
      (rekeyed : Rekeyed PlainSealer PlainOpener),
      session.Begun laterProvider established.output {} ∧
      plainHandshake.Completes (RekeyState.handleWith laterProvider) session.kx rekeyed ∧
      plainHandshake.Hashes (InitialKeyExchangeState.handleWith plainProvider)
        (.new exchange plainLines plainHostKeys) plainProvider plainLines ∧
      plainHandshake.Hashes (RekeyState.handleWith laterProvider) session.kx laterProvider
        plainLines := by
  obtain ⟨exchange, identified, identifies⟩ := plainStream_identified
  obtain ⟨established, completes⟩ := plainHandshake_established exchange plainLines
  obtain ⟨session, started, kx⟩ := plainSession_begun established.output identified
  obtain ⟨rekeyed, again⟩ := plainHandshake_rekeyed established.output.sessionId
    established.output.strictKx established.output.identities
  rw [← kx] at again
  obtain ⟨_, hashed, rekeys⟩ := exchange_hash_transcript plainStream "192.0.2.1:22"
    plainProvider.secureRandom plainProvider plainHostKeys identifies completes
  exact ⟨exchange, established, session, rekeyed, .inProcess started, again, hashed,
    rekeys laterProvider {} session (.inProcess started) [] laterProvider plainHandshake rekeyed
      again⟩

end Clients

end Oxish
