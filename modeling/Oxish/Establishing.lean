import Oxish.Accept
import Oxish.Authentication
import Oxish.DecoderSafety
import Oxish.NonceSequence
import Oxish.Transcript

/-!
A connection on its way from the first byte to an authenticated client. Its read buffer stays
short as long as no read returns more than the operating system allows, the packet that is to be
dropped from it is in it, and both ciphers only move along the keys of the initial exchange.
-/

namespace Oxish

open Stateful

section Ciphers

variable {backend : Backend} {cipher : AesGcm}

/-- The state of a cipher that was made from the key source and has only been used since. -/
structure KeySourceSide.Reaches (source : KeySourceSide) (state : GcmState) : Prop where
  algorithm : source.algorithm = .aes128Gcm
  current : ∃ position, GcmState.At source position state

namespace KeySourceSide.Reaches

variable {source : KeySourceSide} {state : GcmState}

theorem of_gcmState {counter : UInt64} (made : backend.gcmState counter source = .ok state) :
    source.Reaches state := by
  unfold Backend.gcmState at made
  split at made
  · rename_i known
    exact ⟨known, _, GcmState.new_ok_iff.mp made⟩
  · cases made

theorem gcmState (reached : source.Reaches state) :
    backend.gcmState state.counter source = .ok state := by
  obtain ⟨known, position, current⟩ := reached
  rw [Backend.gcmState, known]
  refine GcmState.new_ok_iff.mpr ?_
  rw [current.counter]
  exact current

theorem gcm (reached : source.Reaches state) : source.Gcm := by
  obtain ⟨known, position, current⟩ := reached
  refine ⟨known, ?_, current.ivLength⟩
  rw [← current.key]
  exact state.key.property

theorem nextNonce (reached : source.Reaches state) : source.Reaches state.nextNonce.1 := by
  obtain ⟨known, position, current⟩ := reached
  by_cases room : baseCounter source + position + 1 < 2 ^ 64
  · exact ⟨known, position + 1, (GcmState.nextNonce_at current room).2⟩
  · rw [GcmState.nextNonce_full current room]
    exact ⟨known, position, current⟩

end KeySourceSide.Reaches

theorem Aes128GcmSealer.sealInPlace_state (sealer : Aes128GcmSealer backend cipher)
    (number : UInt32) (data tag : Bytes) :
    (sealer.sealInPlace number data tag).key.state = sealer.state.nextNonce.1 := by
  cases backend with
  | awsLc =>
      simp only [sealInPlace, AwsLc.sealInPlace]
      split
      · rename_i drawn
        rw [drawn]
      · rename_i drawn
        rw [drawn]
        split
        · split
          · rfl
          · split
            · rfl
            · rfl
        · rfl
  | graviola =>
      simp only [sealInPlace, Graviola.sealInPlace]
      split
      · rename_i drawn
        rw [drawn]
      · rename_i drawn
        rw [drawn]
        split
        · split
          · rfl
          · rfl
        · rfl

theorem Aes128GcmOpener.openInPlace_state (opener : Aes128GcmOpener backend cipher)
    (number : UInt32) (data tag : Bytes) :
    (opener.openInPlace number data tag).key.state = opener.state.nextNonce.1 := by
  unfold openInPlace
  split
  · rename_i drawn
    rw [drawn]
  · rename_i drawn
    rw [drawn]
    split
    · rfl
    · rfl

end Ciphers

section Reading

variable {backend : Backend} {cipher : AesGcm}

def frameLimit : Nat := 4 + maxPacketLen + tagLen

namespace ReadState

def Uses (side : Option KeySourceSide) (read : ReadState (Aes128GcmOpener backend cipher)) : Prop :=
  Option.Rel (fun source opener => source.Reaches opener.state) side read.opener

structure Polled (side : Option KeySourceSide) (before : ReadState (Aes128GcmOpener backend cipher))
    (poll : ReadState (Aes128GcmOpener backend cipher) ×
      Except (Stop ProtoError) (Completion (UInt32 × PacketLength))) : Prop where
  shrinks : poll.1.buf.length ≤ before.buf.length
  hungry : needsMore poll.2 = true → poll.1.buf.length ≤ frameLimit
  uses : poll.1.Uses side

variable {side : Option KeySourceSide} {state : ReadState (Aes128GcmOpener backend cipher)}

theorem Uses.stays (uses : state.Uses side)
    {outcome : Except (Stop ProtoError) (Completion (UInt32 × PacketLength))}
    (hungry : needsMore outcome = true → state.buf.length ≤ frameLimit) :
    Polled side state (state, outcome) :=
  ⟨Nat.le_refl _, hungry, uses⟩

theorem pollPlain_polled (uses : state.Uses side) : Polled side state state.pollPlain := by
  unfold pollPlain
  split
  · rename_i error refused
    rcases PacketLength.decode_error refused with ⟨short, rfl⟩ | ⟨_, rfl, _⟩
    · exact uses.stays fun _ => by unfold frameLimit; omega
    · exact uses.stays nofun
  · rename_i length next accepted
    have whole := congrArg List.length (PacketLength.decode_ok accepted)
    have bounded : length.toNat ≤ maxPacketLen := length.bounded
    simp only [List.length_append, length_encodeU32] at whole
    split
    · exact uses.stays fun _ => by unfold frameLimit; omega
    · exact ⟨Nat.le_refl _, nofun, uses⟩

theorem pollSealed_polled {source : KeySourceSide} {opener : Aes128GcmOpener backend cipher}
    (installed : state.opener = some opener) (reached : source.Reaches opener.state) :
    Polled (some source) state (state.pollSealed opener) := by
  have uses : state.Uses (some source) := by
    rw [Uses, installed]
    exact .some reached
  have same : { state with opener := some opener } = state := by rw [← installed]
  have clear (field : FixedBytes 4) :
      OpeningKey.decryptPacketLength opener state.sequenceNumber field = (opener, field) := rfl
  unfold pollSealed
  split
  · rename_i short
    rw [splitFirstChunk_eq_none] at short
    exact uses.stays fun _ => by unfold frameLimit; omega
  · rename_i field rest chunk
    rw [clear]
    dsimp only
    rw [same]
    split
    · rename_i error refused
      refine uses.stays fun hungry => ?_
      rcases PacketLength.decode_error refused with ⟨short, _⟩ | ⟨_, rfl, _⟩
      · rw [field.property] at short
        omega
      · cases hungry
    · rename_i length next accepted
      have bounded : length.toNat ≤ maxPacketLen := length.bounded
      split
      · exact uses.stays nofun
      · split
        · rename_i short
          rw [splitAtChecked_eq_none] at short
          exact uses.stays fun _ => by unfold frameLimit; omega
        · rename_i data behind parts
          obtain ⟨whole, dataLength⟩ := splitAtChecked_eq_some.mp parts
          have total := congrArg List.length whole
          rw [List.length_append] at total
          split
          · rename_i short
            have untagged : behind.length < tagLen := upTo_eq_none.mp short
            exact uses.stays fun _ => by unfold frameLimit; omega
          · rename_i tag tagged
            have moved : source.Reaches
                (OpeningKey.openInPlace opener state.sequenceNumber data tag).key.state := by
              change source.Reaches (opener.openInPlace _ data tag).key.state
              rw [opener.openInPlace_state]
              exact reached.nextNonce
            have kept := (OpeningKey.openInPlace opener state.sequenceNumber data tag).data.property
            generalize OpeningKey.openInPlace opener state.sequenceNumber data tag = opened at *
            have shrinks : (opened.data.val ++ behind).length ≤ state.buf.length := by
              rw [List.length_append, kept]
              omega
            cases opened.result with
            | error cause => exact ⟨shrinks, nofun, .some moved⟩
            | ok value => exact ⟨shrinks, nofun, .some moved⟩

theorem pollPacket_polled (tidy : state.Tidy) (uses : state.Uses side) :
    Polled side state state.pollPacket := by
  have dropped : state.compacted.buf.length ≤ state.buf.length := by
    change (state.buf.drop _).length ≤ _
    rw [List.length_drop]
    omega
  suffices polled : Polled side state.compacted state.pollPacket from
    ⟨Nat.le_trans polled.shrinks dropped, polled.hungry, polled.uses⟩
  rcases Option.eq_none_or_eq_some state.opener with unsealed | ⟨opener, installed⟩
  · rw [pollPacket_plain tidy unsealed]
    exact pollPlain_polled uses
  · rw [pollPacket_sealed tidy installed]
    have same : state.compacted.opener = some opener := installed
    rw [Uses, installed] at uses
    cases uses with
    | some reached => exact pollSealed_polled same reached

end ReadState

end Reading

section Writing

variable {backend : Backend} {cipher : AesGcm}

namespace WriteState

def Uses (side : Option KeySourceSide) (write : WriteState (Aes128GcmSealer backend cipher)) :
    Prop :=
  Option.Rel (fun source sealer => source.Reaches sealer.state) side write.sealer

variable {side : Option KeySourceSide} {state next : WriteState (Aes128GcmSealer backend cipher)}

theorem encode_uses {payload : Bytes} (uses : state.Uses side)
    (done : state.encode payload = (next, .ok ())) : next.Uses side := by
  have accepts := encode_accepts done
  unfold Uses at uses ⊢
  rcases Option.eq_none_or_eq_some state.sealer with unsealed | ⟨sealer, installed⟩
  · rw [accepts.clear unsealed]
    rw [unsealed] at uses
    exact uses
  · rw [(accepts.sealed sealer installed).2]
    rw [installed] at uses
    cases uses with
    | @some source _ reached =>
        refine .some ?_
        change source.Reaches (sealer.sealInPlace _ _ _).key.state
        rw [sealer.sealInPlace_state]
        exact reached.nextNonce

end WriteState

end Writing

section Moving

variable {α : Type} {backend : Backend} {cipher : AesGcm}

/-- What `read(2)` returns at most. -/
def readLimit : Nat := 0x7ffff000

def Stream.Limited (stream : Stream) : Prop :=
  ∀ bytes, .ok bytes ∈ stream.reads → bytes.length ≤ readLimit

namespace Connection

structure Steady (addr : α) (keys : Option KeySourceSet)
    (conn : Connection α (Aes128GcmSealer backend cipher) (Aes128GcmOpener backend cipher)) :
    Prop where
  peer : conn.addr = addr
  limited : conn.stream.Limited
  tidy : conn.read.Tidy
  short : conn.read.buf.length ≤ frameLimit + readLimit
  reader : conn.read.Uses (keys.map KeySourceSet.clientToServer)
  writer : conn.write.Uses (keys.map KeySourceSet.serverToClient)

variable {addr : α} {keys : Option KeySourceSet}
  {conn last : Connection α (Aes128GcmSealer backend cipher) (Aes128GcmOpener backend cipher)}

theorem Steady.move (moved : Move conn last) (steady : conn.Steady addr keys) :
    last.Steady addr keys := by
  have polled := ReadState.pollPacket_polled steady.tidy steady.reader
  have tidy := (pollPacket_polls steady.tidy).tidy
  cases moved with
  | @waited bytes reads hungry arrived =>
      have first : bytes.length ≤ readLimit :=
        steady.limited bytes (by rw [arrived]; exact List.mem_cons_self)
      have rest : ({ conn.stream with reads } : Stream).Limited := by
        intro later member
        exact steady.limited later (by rw [arrived]; exact List.mem_cons_of_mem _ member)
      have before := polled.hungry hungry
      refine ⟨steady.peer, rest, ?_, ?_, polled.uses, steady.writer⟩
      · change _ ≤ (_ ++ bytes).length
        rw [List.length_append]
        exact Nat.le_trans tidy (Nat.le_add_right _ _)
      · change (_ ++ bytes).length ≤ _
        rw [List.length_append]
        omega
  | completed found =>
      exact ⟨steady.peer, steady.limited, tidy, Nat.le_trans polled.shrinks steady.short, polled.uses,
        steady.writer⟩
  | wrote pending taken recorded =>
      refine ⟨steady.peer, steady.limited, steady.tidy, steady.short, steady.reader, ?_⟩
      rw [WriteState.Uses, WriteState.recordWritten_sealer recorded]
      exact steady.writer
  | flushed flushes =>
      exact ⟨steady.peer, steady.limited, steady.tidy, steady.short, steady.reader, steady.writer⟩
  | encoded written =>
      exact ⟨steady.peer, steady.limited, steady.tidy, steady.short, steady.reader,
        WriteState.encode_uses steady.writer written⟩

theorem Steady.moves (moves : Moves conn last) (steady : conn.Steady addr keys) :
    last.Steady addr keys :=
  kept moves Steady.move steady

end Connection

end Moving

section Identifying

variable {α : Type} {backend : Backend} {cipher : AesGcm}

structure Identities.Short (identities : Identities) : Prop where
  client : identities.client.length < 2 ^ 32
  server : identities.server.length < 2 ^ 32

namespace Connection

variable {σ ρ : Type}

theorem identifyFor_short (rounds : Nat) {conn last : Connection α σ ρ} {buf : Bytes}
    {decoded : Decoded Identification} (limited : conn.stream.Limited)
    (start : conn.read.buf.length ≤ 253)
    (done : exec (identifyFor rounds) conn = (.ok (buf, decoded), last)) :
    buf.length ≤ 253 + readLimit ∧ last.addr = conn.addr ∧ last.read = { conn.read with buf } := by
  induction rounds generalizing conn with
  | zero => cases done
  | succ rounds ih =>
      unfold identifyFor at done
      obtain ⟨_, read, buffered, done⟩ := exec_bind_ok.mp done
      obtain ⟨bytes, reads, arrived, rfl⟩ := buffer_ok buffered
      have first : bytes.length ≤ readLimit :=
        limited bytes (by rw [arrived]; exact List.mem_cons_self)
      have rest : ({ conn.stream with reads } : Stream).Limited := by
        intro later member
        exact limited later (by rw [arrived]; exact List.mem_cons_of_mem _ member)
      obtain ⟨_, _, seen, done⟩ := exec_bind_ok.mp done
      cases seen
      split at done
      · cases done
        refine ⟨?_, rfl, rfl⟩
        rw [List.length_append]
        omega
      · rename_i amount waiting
        have later := fun limited short => ih limited short done
        exact later rest (Identification.decode_incomplete waiting)
      · cases done

theorem identify_steady {stream : Stream} {addr : α} {secureRandom : SecureRandom}
    {last : Connection α (Aes128GcmSealer backend cipher) (Aes128GcmOpener backend cipher)}
    {exchange : HandshakeBuffer} {identities : Identities} (limited : stream.Limited)
    (done : exec identify (.new stream addr secureRandom) = (.ok (exchange, identities), last)) :
    last.Steady addr none ∧ identities.Short := by
  obtain ⟨_, identified, writer, line⟩ := identify_ok rfl done
  obtain ⟨chunks, _, arrived, _⟩ := identified.received
  obtain ⟨rounds, buf, decoded, found, looked, whole, peer, reader⟩ := line.client
  obtain ⟨short, same, read⟩ := identifyFor_short rounds limited (Nat.zero_le _) looked
  rw [read] at reader
  have total := congrArg List.length whole
  simp only [List.length_append, crlf, List.length_cons, List.length_nil] at total
  have spelled := congrArg List.length line.server
  rw [List.length_append, show serverIdentification.encode.length = 21 by decide] at spelled
  refine ⟨⟨peer.trans same, ?_, ?_, ?_, ?_, ?_⟩, ?_, by omega⟩
  · intro bytes member
    refine limited bytes ?_
    have received : stream.reads = _ := arrived
    rw [received]
    exact List.mem_append_right _ member
  · rw [reader]
    change identities.client.length + 2 ≤ buf.length
    omega
  · rw [reader]
    change buf.length ≤ _
    unfold frameLimit maxPacketLen
    omega
  · rw [reader]
    exact .none
  · rw [writer]
    exact .none
  · unfold readLimit at short
    omega

end Connection

end Identifying

section Exchanging

def InitialKeyExchangeState.Carries (hostKeys : HostKeys) (identities : Identities) :
    InitialKeyExchangeState → Prop
  | .awaitingKexInit keys lines _ => keys = hostKeys ∧ lines = identities
  | .awaitingEcdhInit _ keys lines _ _ => keys = hostKeys ∧ lines = identities
  | .awaitingNewKeys output _ => output.identities = identities ∧ output.hostKey ∈ hostKeys.keys
  | .complete => True

variable {α σ ρ : Type} {hostKeys : HostKeys} {identities : Identities}

structure Established.Agrees (established : Established σ ρ) (provider : CryptoProvider σ ρ)
    (hostKeys : HostKeys) (identities : Identities) : Prop where
  identities : established.output.identities = identities
  hostKey : established.output.hostKey ∈ hostKeys.keys
  opener : provider.openingKey 0 established.output.keys.clientToServer =
    .ok established.update.opener
  sealer : provider.sealingKey 0 established.output.keys.serverToClient =
    .ok established.update.sealer

theorem InitialKeyExchangeState.advance_carries [SealingKey σ] {provider : CryptoProvider σ ρ}
    {state next : InitialKeyExchangeState} {packet : IncomingPacket} {outbox last : Outbox σ Bytes}
    {output : Option (Established σ ρ)} (carries : state.Carries hostKeys identities)
    (done : exec (state.advance packet provider) outbox = (.ok (next, output), last)) :
    next.Carries hostKeys identities ∧
      ∀ established, output = some established →
        established.Agrees provider hostKeys identities := by
  cases state with
  | awaitingKexInit keys lines exchange =>
      obtain ⟨kx, _, strictKx, extInfo, rfl, rfl, _⟩ := advance_offered done
      exact ⟨carries, nofun⟩
  | awaitingEcdhInit kx keys lines strictKx extInfo =>
      obtain ⟨rfl, rfl⟩ := carries
      obtain ⟨init, hostKey, reply, payload, rfl, rfl, _, _, _, selected, _⟩ := advance_replied done
      exact ⟨⟨rfl, HostKeys.key_mem selected⟩, nofun⟩
  | awaitingNewKeys agreed extInfo =>
      obtain ⟨_, rfl, _, opener, sealer, opened, sealed, rfl⟩ := advance_established done
      refine ⟨trivial, ?_⟩
      intro established same
      cases same
      exact ⟨carries.1, carries.2, opened, sealed⟩
  | complete => cases done

namespace Connection

theorem handleKx_ok [SealingKey σ] {provider : CryptoProvider σ ρ}
    {state next : InitialKeyExchangeState} {packet : IncomingPacket} {conn last : Connection α σ ρ}
    {output : Option (Established σ ρ)}
    (done : exec (handleKx provider state packet) conn = (.ok (next, output), last)) :
    ∃ outbox, exec (state.advance packet provider) { write := conn.write } =
        (.ok (next, output), outbox) ∧ { conn with write := outbox.write } = last := by
  rw [handleKx, exec_mk] at done
  dsimp only at done
  split at done
  · rename_i returned
    cases done
    exact ⟨_, replacing_ok returned, rfl⟩
  · cases done

theorem installKeys_ok [SealingKey σ] {update : KeyUpdate σ ρ} {conn last : Connection α σ ρ}
    {value : Unit} (done : exec (installKeys update) conn = (.ok value, last)) :
    ∃ write, conn.write.encode NewKeys.encode = (write, .ok ()) ∧
      { conn with
        write := { write.resetSequenceNumber update.strictKx with sealer := some update.sealer }
        read := { conn.read.resetSequenceNumber update.strictKx with
          opener := some update.opener } } = last := by
  rw [installKeys, exec_mk, KeyUpdate.apply] at done
  cases encoded : conn.write.encode NewKeys.encode with
  | mk write outcome =>
      rw [encoded] at done
      cases outcome with
      | ok value =>
          cases done
          exact ⟨write, rfl, rfl⟩
      | error stop => cases done

end Connection

end Exchanging

section Authenticating

variable {α σ ρ : Type} [SealingKey σ] [OpeningKey ρ] {conn last : Connection α σ ρ}
  {context : AuthenticationState.Context σ ρ} {state next : AuthenticationState}

namespace Connection

omit [OpeningKey ρ] in
theorem handleAuth_ok {packet : IncomingPacket}
    (done : exec (handleAuth context state packet) conn = (.ok (.ok next), last)) :
    ∃ outbox, exec (AuthenticationState.handle context state packet) { write := conn.write } =
        (.ok next, outbox) ∧ { conn with write := outbox.write } = last := by
  cases ran : exec (AuthenticationState.handle context state packet) { write := conn.write } with
  | mk outcome outbox =>
      unfold handleAuth at done
      rw [exec_mk, ran] at done
      cases outcome with
      | ok value =>
          cases done
          exact ⟨outbox, rfl, rfl⟩
      | error stop =>
          cases stop with
          | error error => cases done
          | panic site => cases done

theorem authenticateStep_ok
    (done : exec (authenticateStep context state) conn = (.ok (.ok next), last)) :
    (∃ packet, AuthenticationState.Stepped context state packet next) ∧ Moves conn last ∧
      last.write.buffered = some [] := by
  unfold authenticateStep at done
  obtain ⟨received, reading, caught, done⟩ := exec_bind_ok.mp done
  cases received with
  | error error => cases done
  | ok packet =>
      obtain ⟨handled, answering, answered, done⟩ := exec_bind_ok.mp done
      obtain ⟨flushed, sending, sent, done⟩ := exec_bind_ok.mp done
      cases handled with
      | error error => cases done
      | ok following =>
          cases flushed with
          | error error => cases done
          | ok value =>
              cases done
              obtain ⟨outbox, ran, rfl⟩ := handleAuth_ok answered
              have writes := (AuthenticationState.handle_built context state packet).writes ran
              have arrives := receive_moves (Drive.catching_ok caught)
              have leaves := Drive.catching_ok sent
              exact ⟨⟨packet, AuthenticationState.handle_ok ran⟩,
                (arrives.trans (moves_of_writes reading rfl writes)).trans (flush_moves leaves),
                flush_empty leaves⟩

theorem authenticateLoop_ok (Inv : AuthenticationState → Prop) (rounds : Nat)
    {authenticated : Authenticated}
    (keeps : ∀ {before packet after}, AuthenticationState.Stepped context before packet after →
      Inv before → Inv after)
    (start : Inv state)
    (done : exec (authenticateLoop context rounds state) conn = (.ok (.ok authenticated), last)) :
    Inv (.complete authenticated) ∧ Moves conn last ∧ last.write.buffered = some [] := by
  induction rounds generalizing state conn with
  | zero => cases done
  | succ rounds ih =>
      unfold authenticateLoop at done
      obtain ⟨outcome, middle, stepped, done⟩ := exec_bind_ok.mp done
      cases outcome with
      | error error => cases done
      | ok following =>
          obtain ⟨⟨packet, step⟩, moves, flushed⟩ := authenticateStep_ok stepped
          have holds := keeps step start
          cases following with
          | complete reached =>
              cases done
              exact ⟨holds, moves, flushed⟩
          | awaitServiceRequest =>
              obtain ⟨ended, later, empty⟩ := ih holds done
              exact ⟨ended, moves.trans later, empty⟩
          | awaitAuthRequest cached attempts =>
              obtain ⟨ended, later, empty⟩ := ih holds done
              exact ⟨ended, moves.trans later, empty⟩

theorem authenticate_ok {rounds : Nat} {authenticated : Authenticated}
    (done : exec (authenticate context rounds) conn = (.ok authenticated, last)) :
    exec (authenticateLoop context rounds default) conn = (.ok (.ok authenticated), last) := by
  unfold authenticate at done
  obtain ⟨outcome, middle, ran, done⟩ := exec_bind_ok.mp done
  cases outcome with
  | ok value =>
      cases done
      exact ran
  | error error =>
      obtain ⟨_, _, _, done⟩ := exec_bind_ok.mp done
      obtain ⟨_, _, _, done⟩ := exec_bind_ok.mp done
      cases done

end Connection

end Authenticating

section Establishing

variable {α : Type} {backend : Backend} {primitives : Primitives} {addr : α}
  {hostKeys : HostKeys} {identities : Identities}
  {conn last : Connection α (Aes128GcmSealer backend primitives.cipher)
    (Aes128GcmOpener backend primitives.cipher)}

namespace Connection

theorem installKeys_steady {keys : Option KeySourceSet} {value : Unit}
    {established : Established (Aes128GcmSealer backend primitives.cipher)
      (Aes128GcmOpener backend primitives.cipher)}
    (agrees : established.Agrees (backend.provider primitives) hostKeys identities)
    (steady : conn.Steady addr keys)
    (done : exec (installKeys established.update) conn = (.ok value, last)) :
    last.Steady addr (some established.output.keys) := by
  obtain ⟨write, _, rfl⟩ := installKeys_ok done
  obtain ⟨opening, opened, opener⟩ := Outcome.map_eq_ok.mp agrees.opener
  obtain ⟨sealing, sealed, sealer⟩ := Outcome.map_eq_ok.mp agrees.sealer
  have numbered : (conn.read.resetSequenceNumber established.update.strictKx).buf = conn.read.buf ∧
      (conn.read.resetSequenceNumber established.update.strictKx).lastLength =
        conn.read.lastLength := by
    unfold ReadState.resetSequenceNumber
    split
    · exact ⟨rfl, rfl⟩
    · exact ⟨rfl, rfl⟩
  refine ⟨steady.peer, steady.limited, ?_, ?_, ?_, ?_⟩
  · change _ ≤ (conn.read.resetSequenceNumber _).buf.length
    rw [numbered.1]
    exact numbered.2 ▸ steady.tidy
  · change (conn.read.resetSequenceNumber _).buf.length ≤ _
    rw [numbered.1]
    exact steady.short
  · refine .some ?_
    rw [← opener]
    exact .of_gcmState opened
  · refine .some ?_
    rw [← sealer]
    exact .of_gcmState sealed

theorem finishExchange_steady {keys : Option KeySourceSet} {output : KeyExchangeOutput}
    {established : Established (Aes128GcmSealer backend primitives.cipher)
      (Aes128GcmOpener backend primitives.cipher)}
    (agrees : established.Agrees (backend.provider primitives) hostKeys identities)
    (steady : conn.Steady addr keys)
    (done : exec (finishExchange established) conn = (.ok output, last)) :
    last.Steady addr (some output.keys) ∧ established.output = output := by
  unfold finishExchange at done
  obtain ⟨_, installed, keyed, done⟩ := exec_bind_ok.mp done
  obtain ⟨_, informed, told, done⟩ := exec_bind_ok.mp done
  obtain ⟨_, ignored, encoded, done⟩ := exec_bind_ok.mp done
  obtain ⟨_, _, flushed, done⟩ := exec_bind_ok.mp done
  cases done
  have extended : Moves installed informed := by
    cases info : established.extInfo with
    | none =>
        rw [info] at told
        cases told
        exact .refl
    | some extInfo =>
        rw [info] at told
        exact encode_moves _ told
  have moves := (extended.trans (encode_moves _ encoded)).trans (flush_moves flushed)
  exact ⟨(installKeys_steady agrees steady keyed).moves moves, rfl⟩

theorem exchangeLoop_steady (rounds : Nat) {state : InitialKeyExchangeState}
    {output : KeyExchangeOutput} (carries : state.Carries hostKeys identities)
    (steady : conn.Steady addr none)
    (done : exec (exchangeLoop (backend.provider primitives) rounds state) conn =
      (.ok output, last)) :
    last.Steady addr (some output.keys) ∧ output.identities = identities ∧
      output.hostKey ∈ hostKeys.keys := by
  induction rounds generalizing state conn with
  | zero => cases done
  | succ rounds ih =>
      unfold exchangeLoop at done
      obtain ⟨packet, received, read, done⟩ := exec_bind_ok.mp done
      obtain ⟨⟨next, result⟩, answered, handled, done⟩ := exec_bind_ok.mp done
      obtain ⟨outbox, ran, rfl⟩ := handleKx_ok handled
      have writes := (state.advance_built packet (backend.provider primitives)).writes ran
      have moved := steady.moves ((receive_moves read).trans (moves_of_writes received rfl writes))
      obtain ⟨follows, agreed⟩ := InitialKeyExchangeState.advance_carries carries ran
      cases result with
      | some established =>
          have agrees := agreed established rfl
          obtain ⟨ready, rfl⟩ := finishExchange_steady agrees moved done
          exact ⟨ready, agrees.identities, agrees.hostKey⟩
      | none =>
          obtain ⟨_, flushed, sent, done⟩ := exec_bind_ok.mp done
          exact ih follows (moved.moves (flush_moves sent)) done

end Connection

/-- A connection whose client has authenticated, with what its initial exchange returned. -/
structure Connection.Ready (addr : α) (hostKeys : HostKeys) (kx : KeyExchangeOutput)
    (conn : Connection α (Aes128GcmSealer backend primitives.cipher)
      (Aes128GcmOpener backend primitives.cipher)) : Prop where
  steady : conn.Steady addr (some kx.keys)
  flushed : conn.write.buffered = some []
  identities : kx.identities.Short
  hostKey : kx.hostKey ∈ hostKeys.keys

variable (backend primitives) in
theorem Server.establish_ready {server : Server (Aes128GcmSealer backend primitives.cipher)
      (Aes128GcmOpener backend primitives.cipher)}
    (supplied : server.provider = backend.provider primitives) {stream : Stream}
    (limited : stream.Limited) {secureRandom : SecureRandom} {rounds : Nat} {kx : KeyExchangeOutput}
    {authenticated : Authenticated}
    (done : exec (server.establish rounds) (.new stream addr secureRandom) =
      (.ok (kx, authenticated), conn)) :
    conn.Ready addr server.hostKeys kx := by
  unfold Server.establish at done
  obtain ⟨output, exchanged, exchanges, done⟩ := exec_bind_ok.mp done
  obtain ⟨client, _, authenticates, done⟩ := exec_bind_ok.mp done
  cases done
  unfold Connection.exchangeKeys at exchanges
  obtain ⟨⟨exchange, identities⟩, identified, identifies, exchanges⟩ := exec_bind_ok.mp exchanges
  obtain ⟨opening, short⟩ := Connection.identify_steady limited identifies
  rw [supplied] at exchanges
  have carries : (InitialKeyExchangeState.new exchange identities server.hostKeys).Carries
      server.hostKeys identities := ⟨rfl, rfl⟩
  obtain ⟨keyed, rfl, hostKey⟩ := Connection.exchangeLoop_steady 3 carries opening exchanges
  obtain ⟨_, moves, flushed⟩ := Connection.authenticateLoop_ok (fun _ => True) rounds
    (fun _ _ => trivial) trivial (Connection.authenticate_ok authenticates)
  exact ⟨keyed.moves moves, flushed, short, hostKey⟩

end Establishing

end Oxish
