import Oxish.AcceptCore
import Oxish.ChannelPrograms
import Oxish.Outbox

/-!
The writer of a connection along the log of its run: every packet of the log went through the
writer, in order, and nothing else did. The handlers are programs that send messages, and the
operations of the channels are programs too, so that this holds of each part of a turn whether it
succeeds or stops.
-/

namespace Oxish

open Stateful

variable {α σ ρ τ β : Type}

def Act.payload : Act σ τ → Option Bytes
  | .packet payload => some payload
  | .channel event => event.payload
  | _ => none

section Trails

variable [SealingKey σ]

structure Trail (σ τ : Type) where
  write : WriteState σ
  log : List (Act σ τ)

def Link.trail (link : Link α σ ρ τ) : Trail σ τ := ⟨link.conn.write, link.log⟩

/-- How the writer moves along with the log. A payload that is refused changes the writer and is
not a packet. -/
inductive Trail.Step : Trail σ τ → Trail σ τ → Prop
  | packet {trail act payload next} (shown : act.payload = some payload)
      (encoded : trail.write.encode payload = (next, .ok ())) :
      Step trail ⟨next, trail.log ++ [act]⟩
  | failed {trail payload next stop} (refused : trail.write.encode payload = (next, .error stop)) :
      Step trail ⟨next, trail.log⟩
  | processed {trail} (packet : IncomingPacket) :
      Step trail ⟨trail.write, trail.log ++ [.processed packet]⟩
  | channel {trail event} (silent : event.payload = none) :
      Step trail ⟨trail.write, trail.log ++ [.channel event]⟩
  | keys {trail} (sealer : σ) (strictKx : Option StrictKeyExchange) :
      Step trail ⟨{ trail.write.resetSequenceNumber strictKx with sealer := some sealer },
        trail.log ++ [.keys sealer]⟩
  | flushed {trail count next outcome}
      (recorded : trail.write.recordWritten (.ok count) = (next, outcome)) :
      Step trail ⟨next, trail.log⟩
  | resumed {trail write} {sealer : σ} (fresh : write.buf = []) (sealed : write.sealer = some sealer) :
      Step trail ⟨write, trail.log ++ [.resumed write.sealer]⟩

abbrev Trail.Reaches : Trail σ τ → Trail σ τ → Prop := Relation.ReflTransGen Trail.Step

theorem Mux.encode_trail {start : Trail σ τ} {log : List (Act σ τ)} {mux : Mux σ τ}
    {event : Event τ} {payload : Bytes} (shown : event.payload = some payload)
    (reached : start.Reaches ⟨mux.write, log ++ mux.log.map .channel⟩) :
    start.Reaches ⟨(mux.encode event payload).2.write,
      log ++ (mux.encode event payload).2.log.map .channel⟩ := by
  unfold Mux.encode
  split
  · rename_i next encoded
    rw [List.map_append, ← List.append_assoc]
    exact reached.tail (.packet shown encoded)
  · rename_i next stop refused
    exact reached.tail (.failed refused)

theorem MuxBuilt.trail {start : Trail σ τ} {log : List (Act σ τ)} {operation : Operation σ τ β}
    {Spawns : Option String → List (String × String) → Prop} (built : MuxBuilt Spawns operation) :
    Keeps (fun mux => start.Reaches ⟨mux.write, log ++ mux.log.map .channel⟩) operation := by
  apply Built.keeps built
  intro β operation is
  cases is with
  | tabled change => exact keeps_of_last fun reached => reached
  | noted event silent within =>
      refine keeps_of_last fun {mux} reached => ?_
      change start.Reaches ⟨mux.write, log ++ (mux.log ++ [event]).map .channel⟩
      rw [List.map_append, ← List.append_assoc]
      exact reached.tail (.channel silent)
  | transmitted event payload shown =>
      exact keeps_of_last fun reached => Mux.encode_trail shown reached
  | decided outcome => exact keeps_of_last fun reached => reached

variable {μ ε : Type} [Encode μ]

def sentActs (messages : List μ) : List (Act σ τ) :=
  messages.map fun message => .packet (Encode.encode message)

theorem Outbox.encode_trail {start : Trail σ τ} {log : List (Act σ τ)} {outbox : Outbox σ μ}
    (embed : ProtoError → ε) (message : μ)
    (reached : start.Reaches ⟨outbox.write, log ++ sentActs outbox.sent⟩) :
    start.Reaches ⟨(outbox.encode embed message).2.write,
      log ++ sentActs (outbox.encode embed message).2.sent⟩ := by
  unfold Outbox.encode
  split
  · rename_i next encoded
    rw [sentActs, List.map_append, ← List.append_assoc]
    exact reached.tail (.packet rfl encoded)
  · rename_i next stop refused
    exact reached.tail (.failed refused)

theorem EmitBuilt.trail {start : Trail σ τ} {log : List (Act σ τ)} {program : Emit σ μ ε β}
    (built : EmitBuilt program) :
    Keeps (fun outbox => start.Reaches ⟨outbox.write, log ++ sentActs outbox.sent⟩) program := by
  apply Built.keeps built
  intro β program is
  cases is with
  | decided outcome => exact keeps_of_last fun reached => reached
  | emitted embed message =>
      exact keeps_of_last fun reached => Outbox.encode_trail embed message reached

end Trails

section Handlers

variable [SealingKey σ]

theorem InitialKeyExchangeState.advance_built (state : InitialKeyExchangeState)
    (packet : IncomingPacket) (provider : CryptoProvider σ ρ) :
    EmitBuilt (state.advance packet provider) := by
  cases state with
  | awaitingKexInit hostKeys identities exchange =>
      refine (attempt_built _).bind fun start => ?_
      exact (emitKx_built _ _).bind fun _ => .pure _
  | awaitingEcdhInit kx hostKeys identities strictKx extInfo =>
      refine (attempt_built _).bind fun init => ?_
      refine (attempt_built _).bind fun hostKey => ?_
      refine (attempt_built _).bind fun output => ?_
      refine (attemptOrPanic_built _).bind fun payload => ?_
      exact (emit_built _ _).bind fun _ => .pure _
  | awaitingNewKeys output extInfo =>
      refine (attempt_built _).bind fun _ => ?_
      refine (attempt_built _).bind fun opener => ?_
      exact (attempt_built _).bind fun sealer => .pure _
  | complete => exact .throw _

theorem RekeyState.advance_built (state : RekeyState) (packet : IncomingPacket)
    (provider : CryptoProvider σ ρ) : EmitBuilt (state.advance packet provider) := by
  cases state with
  | awaitingKexInit rekey =>
      refine (attempt_built _).bind fun start => ?_
      exact (emitKx_built _ _).bind fun _ => .pure _
  | awaitingEcdhInit kx rekey =>
      refine (attempt_built _).bind fun init => ?_
      refine (attempt_built _).bind fun output => ?_
      refine (attemptOrPanic_built _).bind fun payload => ?_
      exact (emit_built _ _).bind fun _ => .pure _
  | awaitingNewKeys rekey keys postQuantumKx =>
      refine (attempt_built _).bind fun _ => ?_
      refine (attempt_built _).bind fun opener => ?_
      exact (attempt_built _).bind fun sealer => .pure _
  | transitioning => exact .throw _

namespace AuthenticationState

theorem sendAuthFailed_built (cached : Option CachedUser) (attempts : UInt8) :
    EmitBuilt (sendAuthFailed cached attempts : Emit σ AuthReply Error AuthenticationState) :=
  (emit_built _ _).bind fun _ => .pure _

theorem verified_built (context : Context σ ρ) (request : UserAuthRequest) (publicKey : PublicKey)
    (user : CachedUser) (attempts : UInt8) (sig : Signature) (authorizedKey : AuthorizedKey) :
    EmitBuilt (verified context request publicKey user attempts sig authorizedKey) := by
  unfold verified
  dsimp only
  split
  · exact sendAuthFailed_built _ _
  · split
    · exact (emit_built _ _).bind fun _ => .pure _
    · exact sendAuthFailed_built _ _

theorem selected_built (context : Context σ ρ) (request : UserAuthRequest) (publicKey : PublicKey)
    (user : CachedUser) (attempts : UInt8) :
    EmitBuilt (selected context request publicKey user attempts) := by
  unfold selected
  split
  · split
    · exact verified_built _ _ _ _ _ _ _
    · exact sendAuthFailed_built _ _
  · split
    · exact verified_built _ _ _ _ _ _ _
    · exact sendAuthFailed_built _ _
  · exact (emit_built _ _).bind fun _ => .pure _
  · exact sendAuthFailed_built _ _

theorem handle_built (context : Context σ ρ) (state : AuthenticationState)
    (packet : IncomingPacket) : EmitBuilt (handle context state packet) := by
  have service : EmitBuilt (handleServiceRequest packet : Emit σ AuthReply Error _) := by
    refine (attempt_built _).bind fun request => ?_
    split
    · exact (emit_built _ _).bind fun _ => .pure _
    · exact .throw _
  have request (cached : Option CachedUser) (attempts : UInt8) :
      EmitBuilt (handleAuthRequest context cached attempts packet) := by
    unfold handleAuthRequest
    dsimp only
    split
    · exact .throw _
    · refine (attempt_built _).bind fun request => ?_
      split
      · exact .throw _
      · split
        · exact sendAuthFailed_built _ _
        · split
          · exact sendAuthFailed_built _ _
          · exact selected_built _ _ _ _ _
  unfold handle
  split
  · exact .pure _
  · exact .pure _
  · exact .throw _
  · exact service
  · exact request _ _
  · exact .throw _

end AuthenticationState

end Handlers

section Streams

variable {Holds : WriteState σ → Prop}

theorem Drive.catching_keeps {Inv : Connection α σ ρ → Prop} {step : Drive α σ ρ β}
    (kept : Keeps Inv step) : Keeps Inv (Drive.catching step) := by
  refine keeps_of_last fun {conn} start => ?_
  have ended := Keeps.last kept conn start
  rw [Drive.catching, exec_mk]
  split
  · rename_i ran
    rw [ran] at ended
    exact ended
  · rename_i ran
    rw [ran] at ended
    exact ended
  · rename_i ran
    rw [ran] at ended
    exact ended

namespace Connection

-- All that receiving leaves alone: it only takes from what can be read.
def outgoing (conn : Connection α σ ρ) : WriteState σ × Stream :=
  (conn.write, { conn.stream with reads := [] })

section Receiving

variable {Holds : WriteState σ × Stream → Prop}

theorem buffer_outgoing : Keeps (fun conn => Holds conn.outgoing) (buffer : Drive α σ ρ Unit) := by
  refine keeps_of_last fun {conn} start => ?_
  rw [buffer, exec_mk]
  split
  · exact start
  · dsimp only
    split
    · exact start
    · exact start
    · exact start

variable [OpeningKey ρ]

theorem pollPacket_outgoing :
    Keeps (fun conn => Holds conn.outgoing) (pollPacket : Drive α σ ρ _) := by
  refine keeps_of_last fun {conn} start => ?_
  rw [pollPacket, exec_mk]
  dsimp only
  split
  · exact start
  · exact start
  · exact start

omit [OpeningKey ρ] in
theorem decodePacket_outgoing (number : UInt32) (length : PacketLength) :
    Keeps (fun conn => Holds conn.outgoing) (decodePacket number length : Drive α σ ρ _) := by
  refine keeps_of_last fun {conn} start => ?_
  rw [decodePacket, exec_mk]
  split
  · exact start
  · exact start

theorem receiveFor_outgoing (rounds : Nat) :
    Keeps (fun conn => Holds conn.outgoing) (receiveFor rounds : Drive α σ ρ _) := by
  induction rounds with
  | zero => exact ensures_throw _ fun _ start => start
  | succ rounds ih =>
      refine pollPacket_outgoing.bind fun completion => ?_
      cases completion with
      | complete found => exact decodePacket_outgoing _ _
      | incomplete amount => exact buffer_outgoing.bind fun _ => ih

theorem receive_outgoing :
    Keeps (fun conn => Holds conn.outgoing) (receive : Drive α σ ρ _) := by
  refine keeps_of_last fun {conn} start => ?_
  exact Keeps.last (receiveFor_outgoing _) conn start

end Receiving

theorem receive_keeps [OpeningKey ρ] :
    Keeps (fun conn => Holds conn.write) (receive : Drive α σ ρ _) :=
  @receive_outgoing _ _ _ (fun outgoing => Holds outgoing.1) _

theorem buffered_keeps :
    Keeps (fun conn => Holds conn.write) (buffered : Drive α σ ρ Bytes) := by
  refine keeps_of_last fun {conn} start => ?_
  rw [buffered, exec_mk]
  split
  · exact start
  · exact start

theorem pollWrite_keeps (bytes : Bytes) :
    Keeps (fun conn => Holds conn.write) (pollWrite bytes : Drive α σ ρ Nat) := by
  refine keeps_of_last fun {conn} start => ?_
  rw [pollWrite, exec_mk]
  split
  · exact start
  · exact start
  · exact start

theorem pollFlush_keeps :
    Keeps (fun conn => Holds conn.write) (pollFlush : Drive α σ ρ Unit) := by
  refine keeps_of_last fun {conn} start => ?_
  rw [pollFlush, exec_mk]
  split
  · exact start
  · dsimp only
    split
    · exact start
    · exact start

theorem recordWritten_keeps (recorded : ∀ {write next count outcome}, Holds write →
    write.recordWritten (.ok count) = (next, outcome) → Holds next) (count : Nat) :
    Keeps (fun conn => Holds conn.write) (recordWritten count : Drive α σ ρ Unit) := by
  refine keeps_of_last fun {conn} start => ?_
  rw [recordWritten, exec_mk]
  split
  · rename_i done
    exact recorded start done
  · rename_i failed
    exact recorded start failed

theorem flushFor_keeps (recorded : ∀ {write next count outcome}, Holds write →
    write.recordWritten (.ok count) = (next, outcome) → Holds next) (rounds : Nat) :
    Keeps (fun conn => Holds conn.write) (flushFor rounds : Drive α σ ρ Unit) := by
  induction rounds with
  | zero => exact ensures_throw _ fun _ start => start
  | succ rounds ih =>
      refine buffered_keeps.bind fun bytes => ?_
      cases bytes with
      | nil => exact pollFlush_keeps
      | cons byte bytes =>
          refine (pollWrite_keeps (byte :: bytes)).bind fun count => ?_
          exact (recordWritten_keeps recorded count).bind fun _ => ih

theorem flush_keeps (recorded : ∀ {write next count outcome}, Holds write →
    write.recordWritten (.ok count) = (next, outcome) → Holds next) :
    Keeps (fun conn => Holds conn.write) (flush : Drive α σ ρ Unit) := by
  refine keeps_of_last fun {conn} start => ?_
  exact Keeps.last (flushFor_keeps recorded _) conn start

end Connection

end Streams

namespace Trace

variable {pre : Link α σ ρ τ → Prop} {post : β → Link α σ ρ τ → Prop} {stop : Link α σ ρ τ → Prop}

theorem drive_ensures {program : Drive α σ ρ β}
    (ensures : ∀ log, Ensures (fun conn => pre ⟨conn, log⟩) program
      (fun value conn => post value ⟨conn, log⟩) (fun conn => stop ⟨conn, log⟩)) :
    Ensures pre (drive program) post stop := by
  intro link start
  have ended := ensures link.log start
  rw [show exec (drive program) link = ((exec program link.conn).1,
    { link with conn := (exec program link.conn).2 }) from rfl]
  generalize exec program link.conn = ran at ended ⊢
  obtain ⟨outcome, conn⟩ := ran
  cases outcome with
  | ok value => exact ended
  | error cause => exact ended

theorem drive_ran {program : Drive α σ ρ β} {link last : Link α σ ρ τ} {outcome : Except Halt β}
    (done : exec (drive program) link = (outcome, last)) :
    exec program link.conn = (outcome, last.conn) ∧ last.log = link.log := by
  obtain ⟨returned, same⟩ := Prod.mk.inj done
  rw [← same]
  exact ⟨Prod.ext returned rfl, rfl⟩

theorem exec_drive {program : Drive α σ ρ β} {link last : Link α σ ρ τ} {outcome : Except Halt β}
    (ran : exec program link.conn = (outcome, last.conn)) (kept : last.log = link.log) :
    exec (drive program) link = (outcome, last) := by
  change ((exec program link.conn).1, { link with conn := (exec program link.conn).2 }) = _
  rw [ran, ← kept]

theorem record_ensures {acts : List (Act σ τ)} {post : Unit → Link α σ ρ τ → Prop}
    (holds : ∀ link, pre link → post () { link with log := link.log ++ acts }) :
    Ensures pre (record acts) post stop := by
  intro link start
  exact holds link start

section Sending

variable [SealingKey σ]

theorem exec_encode (payload : Bytes) (link : Link α σ ρ τ) :
    exec (encode payload) link =
      match link.conn.write.encode payload with
      | (write, .ok ()) =>
        (.ok (), { conn := { link.conn with write }, log := link.log ++ [.packet payload] })
      | (write, .error stop) =>
        (.error (.stopped (stopInto .proto stop)), { link with conn := { link.conn with write } }) := by
  have driven : exec (drive (Connection.encode payload) : Trace α σ ρ τ Unit) link =
      ((exec (Connection.encode payload) link.conn).1,
        { link with conn := (exec (Connection.encode payload) link.conn).2 }) := rfl
  have encoding : exec (Connection.encode payload) link.conn =
      match link.conn.write.encode payload with
      | (write, .ok ()) => (.ok (), { link.conn with write })
      | (write, .error stop) =>
        (.error (.stopped (stopInto .proto stop)), { link.conn with write }) := rfl
  rw [encode, exec_bind, driven, encoding]
  generalize link.conn.write.encode payload = encoded
  obtain ⟨write, outcome⟩ := encoded
  cases outcome with
  | ok value => rfl
  | error stop => rfl

theorem exec_installKeys (update : KeyUpdate σ ρ) (link : Link α σ ρ τ) :
    exec (installKeys update) link =
      match update.apply link.conn.write link.conn.read with
      | (write, read, .ok ()) =>
        (.ok (), {
          conn := { link.conn with write, read }
          log := link.log ++ [.packet NewKeys.encode, .keys update.sealer] })
      | (write, read, .error stop) =>
        (.error (.stopped (stopInto .proto stop)),
          { link with conn := { link.conn with write, read } }) := by
  have driven : exec (drive (Connection.installKeys update) : Trace α σ ρ τ Unit) link =
      ((exec (Connection.installKeys update) link.conn).1,
        { link with conn := (exec (Connection.installKeys update) link.conn).2 }) := rfl
  have installing : exec (Connection.installKeys update) link.conn =
      match update.apply link.conn.write link.conn.read with
      | (write, read, .ok ()) => (.ok (), { link.conn with write, read })
      | (write, read, .error stop) =>
        (.error (.stopped (stopInto .proto stop)), { link.conn with write, read }) := rfl
  rw [installKeys, exec_bind, driven, installing]
  generalize update.apply link.conn.write link.conn.read = applied
  obtain ⟨write, read, outcome⟩ := applied
  cases outcome with
  | ok value => rfl
  | error stop => rfl

omit [SealingKey σ] in
theorem exec_operate (channels : Channels τ) (operation : Operation σ τ β)
    (link : Link α σ ρ τ) :
    exec (operate channels operation) link =
      match exec operation { channels, write := link.conn.write } with
      | (.ok value, mux) =>
        (.ok (mux.channels, value), {
          conn := { link.conn with write := mux.write }
          log := link.log ++ mux.log.map .channel })
      | (.error stop, mux) =>
        (.error (.stopped stop), {
          conn := { link.conn with write := mux.write }
          log := link.log ++ mux.log.map .channel }) := by
  rw [operate, exec_mk]
  generalize exec operation { channels, write := link.conn.write } = ran
  obtain ⟨outcome, mux⟩ := ran
  cases outcome with
  | ok value => rfl
  | error stop => rfl

omit [SealingKey σ] in
theorem exec_handleKx {S : Type} (handle : WriteState σ → Handled σ S (Option β))
    (link : Link α σ ρ τ) :
    exec (handleKx handle) link =
      match (handle link.conn.write).result with
      | .ok output =>
        (.ok ((handle link.conn.write).state, output), {
          conn := { link.conn with write := (handle link.conn.write).outbox.write }
          log := link.log ++ (handle link.conn.write).outbox.sent.map .packet })
      | .error stop =>
        (.error (.stopped (stopInto .proto stop)), {
          conn := { link.conn with write := (handle link.conn.write).outbox.write }
          log := link.log ++ (handle link.conn.write).outbox.sent.map .packet }) := rfl

theorem exec_handleAuth (context : AuthenticationState.Context σ ρ) (state : AuthenticationState)
    (packet : IncomingPacket) (link : Link α σ ρ τ) :
    exec (handleAuth context state packet) link =
      match exec (AuthenticationState.handle context state packet) { write := link.conn.write } with
      | (.ok next, outbox) =>
        (.ok (.ok next), {
          conn := { link.conn with write := outbox.write }
          log := link.log ++ sentActs outbox.sent })
      | (.error (.error error), outbox) =>
        (.ok (.error error), {
          conn := { link.conn with write := outbox.write }
          log := link.log ++ sentActs outbox.sent })
      | (.error (.panic site), outbox) =>
        (.error (.stopped (.panic site)), {
          conn := { link.conn with write := outbox.write }
          log := link.log ++ sentActs outbox.sent }) := by
  rw [handleAuth, exec_mk]
  generalize exec (AuthenticationState.handle context state packet) { write := link.conn.write } = ran
  obtain ⟨outcome, outbox⟩ := ran
  cases outcome with
  | ok next => rfl
  | error stop =>
      cases stop with
      | error error => rfl
      | panic site => rfl

end Sending

end Trace

end Oxish
