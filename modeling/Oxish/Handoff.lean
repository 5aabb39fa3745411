import Oxish.Establishing
import Oxish.KeyExchangeSilence
import Oxish.Transport

/-!
A session that another process resumes from the encoded state of a connection, and the session
that starts from the same connection in this process. Nothing the client or the rest of the
session can observe tells them apart: the reader gives the same answers to the same bytes, the
writer the same packets for the same payloads, and what the key exchange has left is the same.
-/

namespace Oxish

open Stateful

variable {α σ ρ τ : Type}

section Observing

/-- What a reader answers while a stream arrives in pieces: the outcome of every poll, and of
decoding the packet when one is complete. -/
def ReadState.receiving [OpeningKey ρ] : ReadState ρ → List Bytes →
    List (Except (Stop ProtoError) (Completion (UInt32 × PacketLength)) ×
      Option (Except ProtoError IncomingPacket))
  | _, [] => []
  | state, bytes :: later =>
    let (next, polled) := (state.extend bytes).pollPacket
    let decoded := match polled with
      | .ok (.complete (number, length)) => some (next.decodePacket number length)
      | _ => none
    (polled, decoded) :: next.receiving later

/-- What a writer makes of a series of payloads: the bytes that each one adds, the exchange hash
that was fed on the side, and the result. -/
def WriteState.sending [SealingKey σ] : WriteState σ → List (Bytes × Option HandshakeHash) →
    List (Bytes × Option HandshakeHash × Except (Stop ProtoError) Unit)
  | _, [] => []
  | state, (payload, exchangeHash) :: later =>
    let encoding := state.encodeKx payload exchangeHash
    (encoding.state.buf.drop state.buf.length, encoding.exchangeHash, encoding.result) ::
      encoding.state.sending later

theorem ReadState.receiving_compacted [OpeningKey ρ] {state : ReadState ρ} (tidy : state.Tidy)
    (pieces : List Bytes) : state.compacted.receiving pieces = state.receiving pieces := by
  cases pieces with
  | nil => rfl
  | cons bytes later =>
      have extended : (state.extend bytes).lastLength ≤ (state.extend bytes).buf.length := by
        change state.lastLength ≤ (state.buf ++ bytes).length
        rw [List.length_append]
        exact Nat.le_trans tidy (Nat.le_add_right _ _)
      have same : (state.compacted.extend bytes).pollPacket = (state.extend bytes).pollPacket := by
        rw [← compacted_extend state bytes tidy]
        exact pollPacket_compacted extended
      simp only [receiving, same]

section Sending

variable [SealingKey σ]

theorem WriteState.encodeKx_elsewhere (state : WriteState σ) (buf : Bytes) (written : Nat)
    (payload : Bytes) (exchangeHash : Option HandshakeHash) :
    ∃ added, (state.encodeKx payload exchangeHash).state.buf = state.buf ++ added ∧
      { state with buf, written }.encodeKx payload exchangeHash =
        { state.encodeKx payload exchangeHash with
          state := { (state.encodeKx payload exchangeHash).state with buf := buf ++ added, written } } := by
  let other : WriteState σ := { state with buf, written }
  cases filled : (state.drawPadding payload).result with
  | error cause =>
      have there := other.encodeKx_padding_failed payload exchangeHash filled
      rw [encodeKx_padding_failed state payload exchangeHash filled, there]
      exact ⟨_, rfl, rfl⟩
  | ok value =>
      rcases Option.eq_none_or_eq_some state.sealer with unsealed | ⟨sealer, installed⟩
      · have there := other.encodeKx_plain payload exchangeHash filled unsealed
        rw [encodeKx_plain state payload exchangeHash filled unsealed, there]
        exact ⟨_, rfl, rfl⟩
      · have there := other.encodeKx_sealed payload exchangeHash filled installed
        have same : other.sealDrawn payload sealer = state.sealDrawn payload sealer := rfl
        rw [encodeKx_sealed state payload exchangeHash filled installed, there, same]
        cases (state.sealDrawn payload sealer).result with
        | ok value => exact ⟨_, rfl, rfl⟩
        | error stop => exact ⟨_, rfl, rfl⟩

theorem WriteState.sending_elsewhere (state : WriteState σ) (buf : Bytes) (written : Nat)
    (messages : List (Bytes × Option HandshakeHash)) :
    { state with buf, written }.sending messages = state.sending messages := by
  induction messages generalizing state buf with
  | nil => rfl
  | cons message later ih =>
      obtain ⟨payload, exchangeHash⟩ := message
      obtain ⟨added, here, there⟩ := state.encodeKx_elsewhere buf written payload exchangeHash
      simp only [sending, there, here, ih, List.drop_left]

end Sending

/-- Two sessions that cannot be told apart. The random bytes of the paddings are given to both. -/
structure Session.Alike [SealingKey σ] [OpeningKey ρ] (here there : Session α σ ρ τ) : Prop where
  provider : there.provider = here.provider
  peer : there.conn.stream = here.conn.stream ∧ there.conn.addr = here.conn.addr
  receives : ∀ pieces, there.conn.read.receiving pieces = here.conn.read.receiving pieces
  sends : ∀ random messages,
    { there.conn.write with secureRandom := random }.sending messages =
      { here.conn.write with secureRandom := random }.sending messages
  pending : there.conn.write.buffered = here.conn.write.buffered
  kx : there.kx = here.kx
  channels : there.channels = here.channels
  postQuantumKx : there.postQuantumKx = here.postQuantumKx
  options : there.options = here.options

end Observing

section Transferring

variable {backend : Backend} {primitives : Primitives} {addr : α} {hostKeys : HostKeys}
  {kx : KeyExchangeOutput} {options : KeyOptions}
  {conn : Connection α (Aes128GcmSealer backend primitives.cipher)
    (Aes128GcmOpener backend primitives.cipher)}

def ServerHostKey.Restorable (hostKey : ServerHostKey) (provider : CryptoProvider σ ρ) : Prop :=
  provider.signingKeyFromPkcs8 hostKey.pkcs8 = .ok hostKey.key ∧ hostKey.pkcs8.length < 2 ^ 32

theorem ServerHostKey.Restorable.fromServer {hostKey : ServerHostKey}
    {provider : CryptoProvider σ ρ} (restorable : hostKey.Restorable provider) :
    SessionHostKey.fromServer hostKey provider = .ok ⟨hostKey.key⟩ := by
  rw [SessionHostKey.fromServer, restorable.1]
  rfl

def KeyOptions.Short (options : KeyOptions) : Prop :=
  ∀ command, options.command = some command → (strBytes command).length < 2 ^ 32

def SocketAddr.Restorable [SocketAddr α] (addr : α) : Prop :=
  SocketAddr.fromStr (SocketAddr.display addr) = some addr ∧
    (strBytes (SocketAddr.display addr)).length < 2 ^ 32

theorem Server.handoff_flushed [SealingKey σ] [OpeningKey ρ] {conn : Connection α σ ρ}
    (flushed : conn.write.buffered = some []) (tidy : conn.read.Tidy) :
    Server.handoff kx options conn = .ok {
      addr := conn.addr
      hostKey := kx.hostKey
      identities := kx.identities
      postQuantumKx := kx.postQuantumKx
      strictKx := kx.strictKx
      sessionId := kx.sessionId
      read := {
        source := kx.keys.clientToServer
        counter := conn.read.opener.elim 0 OpeningKey.counter
        sequenceNumber := conn.read.sequenceNumber }
      write := {
        source := kx.keys.serverToClient
        counter := conn.write.sealer.elim 0 SealingKey.counter
        sequenceNumber := conn.write.sequenceNumber }
      readBuf := conn.read.buf.drop conn.read.lastLength
      options } := by
  rw [Server.handoff, flushed]
  exact if_neg (Nat.not_lt.mpr tidy)

theorem KeySourceSide.Reaches.openingKey {source : KeySourceSide}
    {opener : Aes128GcmOpener backend primitives.cipher} (reached : source.Reaches opener.state) :
    (backend.provider primitives).openingKey opener.state.counter source = .ok opener := by
  change (backend.gcmState opener.state.counter source).map _ = _
  rw [reached.gcmState]
  rfl

theorem KeySourceSide.Reaches.sealingKey {source : KeySourceSide}
    {sealer : Aes128GcmSealer backend primitives.cipher} (reached : source.Reaches sealer.state) :
    (backend.provider primitives).sealingKey sealer.state.counter source = .ok sealer := by
  change (backend.gcmState sealer.state.counter source).map _ = _
  rw [reached.gcmState]
  rfl

namespace Connection.Ready

theorem ciphers (ready : conn.Ready addr hostKeys kx) :
    ∃ opener sealer, conn.read.opener = some opener ∧ conn.write.sealer = some sealer ∧
      kx.keys.clientToServer.Reaches opener.state ∧ kx.keys.serverToClient.Reaches sealer.state := by
  have reader := ready.steady.reader
  have writer := ready.steady.writer
  unfold ReadState.Uses at reader
  unfold WriteState.Uses at writer
  generalize installed : conn.read.opener = opener at reader
  generalize attached : conn.write.sealer = sealer at writer
  cases reader with
  | some opens =>
      cases writer with
      | some seals => exact ⟨_, _, rfl, rfl, opens, seals⟩

variable [SocketAddr α]

variable (τ) in
theorem handoff (ready : conn.Ready addr hostKeys kx) (options : KeyOptions)
    (hostKey : kx.hostKey.Restorable (backend.provider primitives))
    (peer : SocketAddr.Restorable addr) :
    ∃ state, Server.handoff kx options conn = .ok state ∧ state.Fits ∧ state.options = options ∧
      SocketAddr.fromStr (SocketAddr.display state.addr) = some state.addr ∧
      (backend.provider primitives).signingKeyFromPkcs8 state.hostKey.pkcs8 =
        .ok kx.hostKey.key ∧
      rebuild (backend.provider primitives) conn.stream (state.received kx.hostKey.key) = .ok {
        provider := backend.provider primitives
        conn := { conn with
          read := conn.read.compacted
          write := { conn.write with
            buf := [], written := 0, secureRandom := primitives.random } }
        kx := .new kx.sessionId kx.strictKx kx.identities ⟨kx.hostKey.key⟩
        channels := {}
        postQuantumKx := kx.postQuantumKx
        options : Session α _ _ τ } := by
  obtain ⟨opener, sealer, installed, attached, opens, seals⟩ := ready.ciphers
  have short : (conn.read.buf.drop conn.read.lastLength).length < 2 ^ 32 := by
    have whole := ready.steady.short
    unfold frameLimit maxPacketLen tagLen readLimit at whole
    rw [List.length_drop]
    omega
  have same := ready.steady.peer
  subst same
  refine ⟨_, Server.handoff_flushed ready.flushed ready.steady.tidy,
    ⟨peer.2, hostKey.2, ready.identities.client, ready.identities.server, opens.gcm, seals.gcm,
      short⟩, rfl, peer.1, hostKey.1, ?_⟩
  have opened : (backend.provider primitives).openingKey
      (conn.read.opener.elim 0 OpeningKey.counter) kx.keys.clientToServer = .ok opener := by
    rw [installed]
    exact opens.openingKey
  have sealed : (backend.provider primitives).sealingKey
      (conn.write.sealer.elim 0 SealingKey.counter) kx.keys.serverToClient = .ok sealer := by
    rw [attached]
    exact seals.sealingKey
  refine Outcome.bind_ok opened (Outcome.bind_ok sealed ?_)
  rw [← installed, ← attached]
  rfl

theorem transfer_alike (ready : conn.Ready addr hostKeys kx)
    (hostKey : kx.hostKey.Restorable (backend.provider primitives))
    (peer : SocketAddr.Restorable addr) (short : options.Short) :
    ∃ here there : Session α _ _ τ,
      Session.new kx conn (backend.provider primitives) options = .ok here ∧
      Server.transfer (backend.provider primitives) kx options conn = .ok there ∧
      here.Alike there := by
  obtain ⟨state, handed, fits, kept, parsed, found, rebuilt⟩ := ready.handoff τ options hostKey peer
  have encodable : state.Encodable := ⟨fits.addr, fits.hostKey, fits.client, fits.server, fits.read,
    fits.write, fits.readBuf, kept ▸ short⟩
  have decoded := SessionState.decode_encode encodable parsed found []
  rw [List.append_nil] at decoded
  refine ⟨_, _, Outcome.bind_ok hostKey.fromServer rfl,
    Outcome.bind_ok handed (resume_rebuilt decoded rebuilt), ?_⟩
  exact {
    provider := rfl
    peer := ⟨rfl, rfl⟩
    receives := ReadState.receiving_compacted ready.steady.tidy
    sends := fun random =>
      WriteState.sending_elsewhere { conn.write with secureRandom := random } [] 0
    pending := ready.flushed.symm
    kx := rfl
    channels := rfl
    postQuantumKx := rfl
    options := rfl }

theorem transfer_short (ready : conn.Ready addr hostKeys kx)
    (hostKey : kx.hostKey.Restorable (backend.provider primitives))
    (peer : SocketAddr.Restorable addr) {there : Session α _ _ τ}
    (transferred : Server.transfer (backend.provider primitives) kx options conn = .ok there) :
    options.Short := by
  obtain ⟨state, handed, fits, kept, _, _, rebuilt⟩ := ready.handoff τ options hostKey peer
  obtain ⟨other, given, resumed⟩ := Outcome.bind_eq_ok.mp transferred
  cases handed.symm.trans given
  obtain ⟨decoded, accepted, _⟩ := resume_decoded resumed
  obtain ⟨_, _, _, _, _, _, read⟩ := SessionState.decode_ok fits accepted
  rw [kept] at read
  exact (KeyOptions.decode_whole read rfl).2

end Connection.Ready

/-- From every connection whose client has authenticated, with nothing left to send, the session
that another process resumes is like the one that starts in this process, exactly when the command
that the options of the client's key force has less than `2 ^ 32` bytes. -/
theorem handoff_transparent_iff [SocketAddr α] (backend : Backend) (primitives : Primitives)
    (server : Server (Aes128GcmSealer backend primitives.cipher)
      (Aes128GcmOpener backend primitives.cipher))
    (supplied : server.provider = backend.provider primitives)
    (restorable : ∀ hostKey ∈ server.hostKeys.keys, hostKey.Restorable server.provider)
    (stream : Stream) (limited : stream.Limited) (addr : α) (peer : SocketAddr.Restorable addr)
    (secureRandom : SecureRandom) (rounds : Nat) {kx : KeyExchangeOutput}
    {authenticated : Authenticated}
    {conn : Connection α (Aes128GcmSealer backend primitives.cipher)
      (Aes128GcmOpener backend primitives.cipher)}
    (reached : exec (server.establish rounds) (.new stream addr secureRandom) =
      (.ok (kx, authenticated), conn)) :
    conn.write.buffered = some [] ∧
      ((∃ here there : Session α _ _ τ,
          Session.new kx conn server.provider authenticated.options = .ok here ∧
          Server.transfer server.provider kx authenticated.options conn = .ok there ∧
          here.Alike there) ↔
        authenticated.options.Short) := by
  have ready := Server.establish_ready backend primitives supplied limited reached
  have hostKey := restorable kx.hostKey ready.hostKey
  rw [supplied] at hostKey ⊢
  refine ⟨ready.flushed, ?_, ?_⟩
  · rintro ⟨here, there, _, transferred, _⟩
    exact ready.transfer_short hostKey peer transferred
  · exact ready.transfer_alike hostKey peer

end Transferring

section Clients

def AuthenticationState.Grants (Allowed : KeyOptions → Prop) : AuthenticationState → Prop
  | .awaitServiceRequest => True
  | .awaitAuthRequest cached _ => ∀ user ∈ cached, ∀ key ∈ user.keys, Allowed key.options
  | .complete authenticated => Allowed authenticated.options

namespace AuthenticationState

variable {context : Context σ ρ} {Allowed : KeyOptions → Prop}

theorem resolve_grants {cached : Option CachedUser} {userName : String} {user : CachedUser}
    (stored : ∀ data, ∀ key ∈ context.store.keys data context.provider, Allowed key.options)
    (grants : ∀ user ∈ cached, ∀ key ∈ user.keys, Allowed key.options)
    (found : resolve context cached userName = some user) :
    ∀ key ∈ user.keys, Allowed key.options := by
  rcases resolve_some found with ⟨same, _⟩ | looked
  · exact grants user same
  · obtain ⟨_, _, _, keys⟩ := lookupUser_some looked
    rw [keys]
    exact stored user.data

theorem Stepped.grants {before after : AuthenticationState} {packet : IncomingPacket}
    (stepped : Stepped context before packet after)
    (stored : ∀ data, ∀ key ∈ context.store.keys data context.provider, Allowed key.options)
    (decoy : ∀ algorithm key, fakeKey context.base64 algorithm context.provider = .ok key →
      Allowed key.options)
    (grants : before.Grants Allowed) :
    after.Grants Allowed := by
  cases stepped with
  | ignored transport => exact grants
  | serviceAccepted requested => exact nofun
  | refused => exact grants
  | resolved found =>
      intro user same
      cases same
      exact resolve_grants stored grants found
  | completed parsed service method found signed chosen accepted =>
      rcases chosen with ⟨listed, _⟩ | ⟨_, built⟩
      · exact resolve_grants stored grants found _ (List.mem_of_find?_eq_some listed)
      · exact decoy _ _ built

end AuthenticationState

theorem Server.establish_grants [SealingKey σ] [OpeningKey ρ] {server : Server σ ρ}
    (Allowed : KeyOptions → Prop) {rounds : Nat} {conn last : Connection α σ ρ}
    {kx : KeyExchangeOutput} {authenticated : Authenticated}
    (stored : ∀ data, ∀ key ∈ server.store.keys data server.provider, Allowed key.options)
    (decoy : ∀ algorithm key, fakeKey server.base64 algorithm server.provider = .ok key →
      Allowed key.options)
    (done : exec (server.establish rounds) conn = (.ok (kx, authenticated), last)) :
    Allowed authenticated.options := by
  unfold Server.establish at done
  obtain ⟨output, exchanged, _, done⟩ := exec_bind_ok.mp done
  obtain ⟨client, _, authenticates, done⟩ := exec_bind_ok.mp done
  cases done
  have keeps {before after : AuthenticationState} {packet : IncomingPacket}
      (stepped : AuthenticationState.Stepped (server.context kx.sessionId) before packet after) :
      before.Grants Allowed → after.Grants Allowed := stepped.grants stored decoy
  have loop := Connection.authenticate_ok authenticates
  have start : (default : AuthenticationState).Grants Allowed := trivial
  exact (Connection.authenticateLoop_ok (AuthenticationState.Grants Allowed) rounds keeps start
    loop).1

theorem fakeKey_undecoded (algorithm : PublicKeyAlgorithm) (provider : CryptoProvider σ ρ)
    (key : AuthorizedKey) : fakeKey (fun _ => none) algorithm provider ≠ .ok key := by
  intro built
  obtain ⟨line, read⟩ := fakeKey_ok built
  cases (AuthorizedKey.fromStr_carries read).1.decoded

def commandStream : Stream where
  reads := [.ok (plainLine ++ crlf), .ok (plainWriter.encode clientKexInit.encode).1.buf,
    .ok (plainWriter.encode (MessageType.keyExchangeEcdhInit.toByte :: encodeBytes [8])).1.buf,
    .ok (plainWriter.encode NewKeys.encode).1.buf,
    .ok (sealedWriter.encode
      (MessageType.serviceRequest.toByte :: encodeNamed ServiceName.userAuth)).1.buf,
    .ok (sealedWriter.encode (rootPacket.messageType.toByte :: rootPacket.payload)).1.buf]
  writes := [.ok 21, .ok 216, .ok 64, .ok 52, .ok 52, .ok 36]
  flushes := [.ok (), .ok (), .ok (), .ok (), .ok ()]

def commandConnection (options : KeyOptions) : Connection String PlainSealer PlainOpener :=
  .new commandStream "192.0.2.1:22" (commandServer options).provider.secureRandom

theorem commandStream_limited : commandStream.Limited := by
  have short : commandStream.reads.all (fun outcome =>
      match outcome with
      | .ok bytes => decide (bytes.length ≤ readLimit)
      | .error _ => true) = true := by
    decide +kernel
  intro bytes member
  exact of_decide_eq_true (List.all_eq_true.mp short _ member)

theorem commandServer_options (options : KeyOptions) (rounds : Nat)
    (ran : (exec ((commandServer options).establish rounds) (commandConnection options)).1.toBool = true) :
    ∃ kx authenticated conn, authenticated.options = options ∧
      exec ((commandServer options).establish rounds) (commandConnection options) =
        (.ok (kx, authenticated), conn) := by
  cases ended : exec ((commandServer options).establish rounds) (commandConnection options) with
  | mk outcome conn =>
      rw [ended] at ran
      cases outcome with
      | error halt => cases ran
      | ok returned =>
          obtain ⟨kx, authenticated⟩ := returned
          refine ⟨kx, authenticated, conn, ?_, rfl⟩
          refine Server.establish_grants (· = options) ?_ ?_ ended
          · intro data key member
            rw [List.mem_singleton.mp member]
          · intro algorithm key built
            exact absurd built (fakeKey_undecoded algorithm plainProvider key)

theorem plainHostKeys_restorable :
    ∀ hostKey ∈ plainHostKeys.keys, hostKey.Restorable plainProvider := by
  intro hostKey member
  rw [List.mem_singleton.mp member]
  exact ⟨rfl, by decide⟩

theorem commandAddr_restorable : SocketAddr.Restorable "192.0.2.1:22" :=
  ⟨rfl, by decide⟩

def uptimeOptions : KeyOptions := { command := some "uptime" }

theorem handoff_transparent_iff_uptime :
    ∃ kx authenticated conn,
      exec ((commandServer uptimeOptions).establish 3) (commandConnection uptimeOptions) =
        (.ok (kx, authenticated), conn) ∧ authenticated.options = uptimeOptions ∧
      ∃ here there : Session String PlainSealer PlainOpener Unit,
        Session.new kx conn plainProvider authenticated.options = .ok here ∧
        Server.transfer plainProvider kx authenticated.options conn = .ok there ∧
        here.Alike there := by
  obtain ⟨kx, authenticated, conn, options, reached⟩ :=
    commandServer_options uptimeOptions 3 (by decide +kernel)
  refine ⟨kx, authenticated, conn, reached, options, ?_⟩
  refine (handoff_transparent_iff .awsLc plainPrimitives (commandServer uptimeOptions) rfl
    plainHostKeys_restorable commandStream commandStream_limited "192.0.2.1:22"
    commandAddr_restorable plainProvider.secureRandom 3 reached).2.mpr ?_
  intro command forced
  rw [options] at forced
  cases forced
  decide

def longCommand : KeyOptions := { command := some (asciiText (List.replicate (2 ^ 32) 97)) }

theorem longCommand_long : ¬ longCommand.Short := by
  intro short
  have bound := short _ rfl
  generalize 2 ^ 32 = length at bound
  rw [strBytes_asciiText, List.length_replicate] at bound
  · omega
  · intro byte member
    rw [List.eq_of_mem_replicate member]
    decide

/-- A client whose key forces a command of `2 ^ 32` bytes gets a session in this process, but
none in another: the state that is handed over cannot be read back. -/
theorem long_command_not_handed_over :
    ∃ kx authenticated conn,
      exec ((commandServer longCommand).establish 3) (commandConnection longCommand) =
        (.ok (kx, authenticated), conn) ∧
      conn.write.buffered = some [] ∧
      (∃ here : Session String PlainSealer PlainOpener Unit,
        Session.new kx conn plainProvider authenticated.options = .ok here) ∧
      ∀ there : Session String PlainSealer PlainOpener Unit,
        Server.transfer plainProvider kx authenticated.options conn ≠ .ok there := by
  obtain ⟨kx, authenticated, conn, options, reached⟩ :=
    commandServer_options longCommand 3 (by decide +kernel)
  have ready := Server.establish_ready .awsLc plainPrimitives rfl commandStream_limited reached
  have hostKey := plainHostKeys_restorable kx.hostKey ready.hostKey
  refine ⟨kx, authenticated, conn, reached, ready.flushed,
    ⟨_, Outcome.bind_ok hostKey.fromServer rfl⟩, ?_⟩
  intro there transferred
  have short := ready.transfer_short hostKey commandAddr_restorable transferred
  rw [options] at short
  exact longCommand_long short

end Clients

end Oxish
