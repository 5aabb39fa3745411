import Oxish.Accept
import Oxish.SessionStart

/-!
What the server says while keys are exchanged. A watch on the log of a connection follows its
exchanges and refuses a packet, a change of keys or a handled message that is out of place. No
run is ever refused.
-/

namespace Oxish

open Stateful

variable {α σ ρ τ β : Type}

def payloadType (payload : Bytes) : Option MessageType := payload.head?.map MessageType.ofByte

def Act.type (act : Act σ τ) : Option MessageType := act.payload.bind payloadType

/-- How far the server is in an exchange: what it has sent, or that it has announced new keys and
not installed them. -/
inductive Stage where
  | idle
  | offered
  | replied
  | changing
  deriving DecidableEq

structure Watch where
  stage : Stage := .idle
  sealed : Bool := false
  deriving DecidableEq

def Watch.send (watch : Watch) : Option MessageType → Option Watch
  | some .keyExchangeInit =>
    if watch.stage = .idle then some { watch with stage := .offered } else none
  | some .keyExchangeEcdhReply =>
    if watch.stage = .offered then some { watch with stage := .replied } else none
  | some .newKeys => if watch.stage = .replied then some { watch with stage := .changing } else none
  | _ => if watch = ⟨.idle, true⟩ then some watch else none

def Watch.see (watch : Watch) (act : Act σ τ) : Option Watch :=
  match act.payload, act with
  | some payload, _ => watch.send (payloadType payload)
  | none, .keys _ => if watch.stage = .changing then some ⟨.idle, true⟩ else none
  | none, _ => if watch = ⟨.idle, true⟩ then some watch else none

def Watch.follow (watch : Watch) (log : List (Act σ τ)) : Option Watch := log.foldlM Watch.see watch

theorem Watch.follow_append (watch : Watch) (log more : List (Act σ τ)) :
    watch.follow (log ++ more) = (watch.follow log).bind fun next => next.follow more := by
  rw [Watch.follow, List.foldlM_append]
  rfl

theorem Watch.follow_cons (watch : Watch) (act : Act σ τ) (log : List (Act σ τ)) :
    watch.follow (act :: log) = (watch.see act).bind fun next => next.follow log := rfl

def Ordinary (payload : Bytes) : Prop :=
  payloadType payload ≠ some .keyExchangeInit ∧ payloadType payload ≠ some .keyExchangeEcdhReply ∧
    payloadType payload ≠ some .newKeys

theorem Watch.send_ordinary {payload : Bytes} (ordinary : Ordinary payload) :
    Watch.send ⟨.idle, true⟩ (payloadType payload) = some ⟨.idle, true⟩ := by
  obtain ⟨noInit, noReply, noKeys⟩ := ordinary
  unfold Watch.send
  split
  · rename_i type
    exact absurd type noInit
  · rename_i type
    exact absurd type noReply
  · rename_i type
    exact absurd type noKeys
  · rfl

theorem ordinary_of_type {payload : Bytes} {messageType : MessageType}
    (type : payloadType payload = some messageType) (noInit : messageType ≠ .keyExchangeInit)
    (noReply : messageType ≠ .keyExchangeEcdhReply) (noKeys : messageType ≠ .newKeys) :
    Ordinary payload := by
  unfold Ordinary
  rw [type]
  refine ⟨?_, ?_, ?_⟩
  · intro same
    exact noInit (Option.some.inj same)
  · intro same
    exact noReply (Option.some.inj same)
  · intro same
    exact noKeys (Option.some.inj same)

theorem ServerMessage.encode_ordinary (message : ServerMessage) : Ordinary message.encode := by
  cases message with
  | openConfirmation message => exact ordinary_of_type rfl (by decide) (by decide) (by decide)
  | openFailure message => exact ordinary_of_type rfl (by decide) (by decide) (by decide)
  | windowAdjust message => exact ordinary_of_type rfl (by decide) (by decide) (by decide)
  | success message => exact ordinary_of_type rfl (by decide) (by decide) (by decide)
  | failure message => exact ordinary_of_type rfl (by decide) (by decide) (by decide)
  | banner message => exact ordinary_of_type rfl (by decide) (by decide) (by decide)
  | data message => exact ordinary_of_type rfl (by decide) (by decide) (by decide)
  | exitStatus message => exact ordinary_of_type rfl (by decide) (by decide) (by decide)
  | eof message => exact ordinary_of_type rfl (by decide) (by decide) (by decide)
  | close message => exact ordinary_of_type rfl (by decide) (by decide) (by decide)

theorem Event.payload_ordinary {event : Event τ} {payload : Bytes}
    (shown : event.payload = some payload) : Ordinary payload := by
  cases event with
  | sent localId message =>
      cases shown
      exact message.encode_ordinary
  | refused failure =>
      cases shown
      exact ordinary_of_type rfl (by decide) (by decide) (by decide)
  | opened localId open_ => cases shown
  | removed localId => cases shown
  | accepted localId data => cases shown
  | granted localId bytesToAdd => cases shown
  | spawned localId command env terminal => cases shown
  | read localId terminal data => cases shown
  | waited localId terminal => cases shown
  | killed localId terminal => cases shown

theorem AuthReply.encode_ordinary (reply : AuthReply) : Ordinary (Encode.encode reply) := by
  cases reply with
  | serviceAccept accept => exact ordinary_of_type rfl (by decide) (by decide) (by decide)
  | failure failure => exact ordinary_of_type rfl (by decide) (by decide) (by decide)
  | pkOk pkOk => exact ordinary_of_type rfl (by decide) (by decide) (by decide)
  | success => exact ordinary_of_type rfl (by decide) (by decide) (by decide)
  | disconnect disconnect => exact ordinary_of_type rfl (by decide) (by decide) (by decide)

theorem Watch.see_channel (event : Event τ) :
    Watch.see ⟨.idle, true⟩ (.channel event : Act σ τ) = some ⟨.idle, true⟩ := by
  unfold Watch.see
  change (match event.payload, (Act.channel event : Act σ τ) with
    | some payload, _ => _
    | none, .keys _ => _
    | none, _ => _) = _
  cases shown : event.payload with
  | some payload => exact Watch.send_ordinary (Event.payload_ordinary shown)
  | none => rfl

theorem Watch.follow_still {acts : List (Act σ τ)}
    (still : ∀ act ∈ acts, Watch.see ⟨.idle, true⟩ act = some ⟨.idle, true⟩) :
    Watch.follow ⟨.idle, true⟩ acts = some ⟨.idle, true⟩ := by
  induction acts with
  | nil => rfl
  | cons act acts ih =>
      rw [Watch.follow_cons, still act List.mem_cons_self]
      exact ih fun other member => still other (List.mem_cons_of_mem act member)

section Machines

variable [SealingKey σ] {S : Type}

inductive ExchangeStep (stage : S → Option Nat) (last : Option Nat) (number : Nat)
    (handled : Handled σ S (Option β)) : Prop
  | offered {payload : Bytes} (first : number = 0) (sent : handled.outbox.sent = [payload])
      (type : payloadType payload = some .keyExchangeInit) (next : stage handled.state = some 1)
      (result : handled.result = .ok none)
  | replied {payload : Bytes} (second : number = 1) (sent : handled.outbox.sent = [payload])
      (type : payloadType payload = some .keyExchangeEcdhReply)
      (next : stage handled.state = some 2) (result : handled.result = .ok none)
  | changed {output : β} (third : number = 2) (sent : handled.outbox.sent = [])
      (next : stage handled.state = last) (result : handled.result = .ok (some output))
  | failed {stop : Stop ProtoError} (sent : handled.outbox.sent = [])
      (result : handled.result = .error stop)

theorem payloadType_of_head {payload : Bytes} {messageType : MessageType}
    (head : payload.head? = some messageType.toByte)
    (known : MessageType.ofByte messageType.toByte = messageType) :
    payloadType payload = some messageType := by
  rw [payloadType, head, Option.map_some, known]

theorem payloadType_reply {reply : EcdhKeyExchangeReply} {payload : Bytes}
    (encoded : reply.encode = .ok payload) : payloadType payload = some .keyExchangeEcdhReply := by
  obtain ⟨signature, rfl, _⟩ := EcdhKeyExchangeReply.encode_ok encoded
  rfl

-- Only the last effect of a step is a message, so a step that stops has sent nothing.
omit [SealingKey σ] in
theorem attempt_unsent {μ ε : Type} (sent : List μ) (outcome : Except ε β) :
    Ensures (fun outbox => outbox.sent = sent) (attempt outcome : Emit σ μ ε β)
      (fun _ outbox => outbox.sent = sent) (fun outbox => outbox.sent = sent) :=
  keeps_of_last fun start => start

omit [SealingKey σ] in
theorem attemptOrPanic_unsent {μ ε : Type} (sent : List μ) (outcome : Except (Stop ε) β) :
    Ensures (fun outbox => outbox.sent = sent) (attemptOrPanic outcome : Emit σ μ ε β)
      (fun _ outbox => outbox.sent = sent) (fun outbox => outbox.sent = sent) :=
  keeps_of_last fun start => start

theorem emit_unsent (sent : List Bytes) (payload : Bytes) :
    Ensures (fun outbox => outbox.sent = sent) (emit id payload : Emit σ Bytes ProtoError Unit)
      (fun _ _ => True) (fun outbox => outbox.sent = sent) := by
  apply ensures_of_cases
  · intro state value last start done
    trivial
  · intro state cause last start failed
    exact (Outbox.encode_error failed).1.trans start

theorem emitKx_unsent (sent : List Bytes) (payload : Bytes) (exchange : HandshakeHash) :
    Ensures (fun outbox => outbox.sent = sent)
      (emitKx payload exchange : Emit σ Bytes ProtoError HandshakeHash)
      (fun _ _ => True) (fun outbox => outbox.sent = sent) := by
  rw [emitKx_eq]
  exact (emit_unsent sent payload).bind fun _ => ensures_pure fun _ _ => trivial

omit [SealingKey σ] in
theorem replacing_unsent {placeholder : S} {step : Emit σ Bytes ProtoError (S × β)}
    {write : WriteState σ} {stop : Stop ProtoError}
    (ensures : Ensures (fun outbox => outbox.sent = []) step (fun _ _ => True)
      (fun outbox => outbox.sent = []))
    (failed : (replacing placeholder step { write }).result = .error stop) :
    (replacing placeholder step { write }).outbox.sent = [] := by
  unfold replacing at failed ⊢
  split at failed
  · cases failed
  · rename_i cause last ran
    exact ensures.error rfl ran

theorem RekeyState.advance_unsent (state : RekeyState) (packet : IncomingPacket)
    (provider : CryptoProvider σ ρ) :
    Ensures (fun outbox => outbox.sent = []) (state.advance packet provider) (fun _ _ => True)
      (fun outbox => outbox.sent = []) := by
  cases state with
  | awaitingKexInit rekey =>
      refine (attempt_unsent [] _).bind fun start => ?_
      exact (emitKx_unsent [] _ _).bind fun _ => ensures_pure fun _ _ => trivial
  | awaitingEcdhInit kx rekey =>
      refine (attempt_unsent [] _).bind fun init => ?_
      refine (attempt_unsent [] _).bind fun output => ?_
      refine (attemptOrPanic_unsent [] _).bind fun payload => ?_
      exact (emit_unsent [] _).bind fun _ => ensures_pure fun _ _ => trivial
  | awaitingNewKeys rekey keys postQuantumKx =>
      refine (attempt_unsent [] _).bind fun _ => ?_
      refine (attempt_unsent [] _).bind fun opener => ?_
      exact (attempt_unsent [] _).bind fun sealer => ensures_pure fun _ _ => trivial
  | transitioning => exact ensures_throw _ fun _ start => start

theorem InitialKeyExchangeState.advance_unsent (state : InitialKeyExchangeState)
    (packet : IncomingPacket) (provider : CryptoProvider σ ρ) :
    Ensures (fun outbox => outbox.sent = []) (state.advance packet provider) (fun _ _ => True)
      (fun outbox => outbox.sent = []) := by
  cases state with
  | awaitingKexInit hostKeys identities exchange =>
      refine (attempt_unsent [] _).bind fun start => ?_
      exact (emitKx_unsent [] _ _).bind fun _ => ensures_pure fun _ _ => trivial
  | awaitingEcdhInit kx hostKeys identities strictKx extInfo =>
      refine (attempt_unsent [] _).bind fun init => ?_
      refine (attempt_unsent [] _).bind fun hostKey => ?_
      refine (attempt_unsent [] _).bind fun output => ?_
      refine (attemptOrPanic_unsent [] _).bind fun payload => ?_
      exact (emit_unsent [] _).bind fun _ => ensures_pure fun _ _ => trivial
  | awaitingNewKeys output extInfo =>
      refine (attempt_unsent [] _).bind fun _ => ?_
      refine (attempt_unsent [] _).bind fun opener => ?_
      exact (attempt_unsent [] _).bind fun sealer => ensures_pure fun _ _ => trivial
  | complete => exact ensures_throw _ fun _ start => start

theorem RekeyState.handle_exchanges {state : RekeyState} {number : Nat}
    (live : state.stage = some number) (packet : IncomingPacket) (write : WriteState σ)
    (provider : CryptoProvider σ ρ) :
    ExchangeStep RekeyState.stage (some 0) number (state.handle packet write provider) := by
  cases outcome : (state.handle packet write provider).result with
  | error stop => exact .failed (replacing_unsent (state.advance_unsent packet provider) outcome) outcome
  | ok output =>
      have done := replacing_ok outcome
      cases state with
      | awaitingKexInit rekey =>
          cases live
          obtain ⟨kx, serverInit, next, rfl, sent, _, offered⟩ := advance_offered done
          exact .offered rfl sent (payloadType_of_head offered.offer rfl)
            (congrArg RekeyState.stage next) outcome
      | awaitingEcdhInit kx rekey =>
          cases live
          obtain ⟨init, reply, payload, next, rfl, sent, _, _, _, encoded⟩ := advance_replied done
          exact .replied rfl sent (payloadType_reply encoded) (congrArg RekeyState.stage next) outcome
      | awaitingNewKeys rekey keys postQuantumKx =>
          cases live
          obtain ⟨same, next, _, opener, sealer, _, _, rfl⟩ := advance_rekeyed done
          exact .changed rfl (congrArg Outbox.sent same).symm (congrArg RekeyState.stage next) outcome
      | transitioning => cases live

theorem InitialKeyExchangeState.handle_exchanges {state : InitialKeyExchangeState} {number : Nat}
    (live : state.stage = some number) (packet : IncomingPacket) (write : WriteState σ)
    (provider : CryptoProvider σ ρ) :
    ExchangeStep InitialKeyExchangeState.stage none number (state.handle packet write provider) := by
  cases outcome : (state.handle packet write provider).result with
  | error stop => exact .failed (replacing_unsent (state.advance_unsent packet provider) outcome) outcome
  | ok output =>
      have done := replacing_ok outcome
      cases state with
      | awaitingKexInit hostKeys identities exchange =>
          cases live
          obtain ⟨kx, serverInit, _, _, next, rfl, sent, _, offered, _⟩ := advance_offered done
          exact .offered rfl sent (payloadType_of_head offered.offer rfl)
            (congrArg InitialKeyExchangeState.stage next) outcome
      | awaitingEcdhInit kx hostKeys identities strictKx extInfo =>
          cases live
          obtain ⟨init, _, reply, payload, next, rfl, sent, _, _, _, _, encoded⟩ :=
            advance_replied done
          exact .replied rfl sent (payloadType_reply encoded)
            (congrArg InitialKeyExchangeState.stage next) outcome
      | awaitingNewKeys agreed extInfo =>
          cases live
          obtain ⟨same, next, _, opener, sealer, _, _, rfl⟩ := advance_established done
          exact .changed rfl (congrArg Outbox.sent same).symm
            (congrArg InitialKeyExchangeState.stage next) outcome
      | complete => cases live

end Machines

section Turns

variable [SealingKey σ] {start : Trail σ τ}

structure Watched (start : Trail σ τ) (watch : Watch) (link : Link α σ ρ τ) : Prop where
  reached : start.Reaches link.trail
  seen : Watch.follow {} link.log = some watch
  settled : watch.stage ≠ .changing

def Halted (start : Trail σ τ) (link : Link α σ ρ τ) : Prop := ∃ watch, Watched start watch link

abbrev Carries (start : Trail σ τ) (before : Watch) (program : Trace α σ ρ τ β) (after : Watch) :
    Prop :=
  Ensures (Watched start before) program (fun _ => Watched start after) (Halted start)

omit [SealingKey σ] in
theorem follow_more {log acts : List (Act σ τ)} {before after : Watch}
    (seen : Watch.follow {} log = some before) (more : before.follow acts = some after) :
    Watch.follow {} (log ++ acts) = some after := by
  rw [Watch.follow_append, seen]
  exact more

namespace Trace

theorem drive_carries {program : Drive α σ ρ β}
    (kept : ∀ {Holds : WriteState σ → Prop}, (∀ {write next count outcome}, Holds write →
      write.recordWritten (.ok count) = (next, outcome) → Holds next) →
      Keeps (fun conn => Holds conn.write) program) (watch : Watch) :
    Carries start watch (drive program) watch := by
  apply drive_ensures
  intro log
  have recorded {write next : WriteState σ} {count : Nat} {outcome : Except IoError Unit}
      (before : start.Reaches ⟨write, log⟩)
      (done : write.recordWritten (.ok count) = (next, outcome)) : start.Reaches ⟨next, log⟩ :=
    before.tail (.flushed done)
  apply ensures_of_cases
  · intro conn value last before done
    have ended := (@kept (fun write => start.Reaches ⟨write, log⟩) recorded).ok before.reached done
    exact ⟨ended, before.seen, before.settled⟩
  · intro conn cause last before failed
    have ended :=
      (@kept (fun write => start.Reaches ⟨write, log⟩) recorded).error before.reached failed
    exact ⟨watch, ended, before.seen, before.settled⟩

theorem receive_carries [OpeningKey ρ] (watch : Watch) :
    Carries start watch (drive Connection.receive : Trace α σ ρ τ _) watch :=
  drive_carries (fun _ => Connection.receive_keeps) watch

theorem flush_carries (watch : Watch) :
    Carries start watch (drive Connection.flush : Trace α σ ρ τ _) watch :=
  drive_carries (fun recorded => Connection.flush_keeps recorded) watch

theorem tryReceive_carries [OpeningKey ρ] (watch : Watch) :
    Carries start watch (drive (Drive.catching Connection.receive) : Trace α σ ρ τ _) watch :=
  drive_carries (fun _ => Drive.catching_keeps Connection.receive_keeps) watch

theorem tryFlush_carries (watch : Watch) :
    Carries start watch (drive (Drive.catching Connection.flush) : Trace α σ ρ τ _) watch :=
  drive_carries (fun recorded => Drive.catching_keeps (Connection.flush_keeps recorded)) watch

theorem fail_carries (error : Error) (watch after : Watch) :
    Carries start watch (drive (Drive.fail error) : Trace α σ ρ τ β) after := by
  intro link before
  exact ⟨watch, before⟩

theorem encode_carries {payload : Bytes} (ordinary : Ordinary payload) :
    Carries start ⟨.idle, true⟩ (encode payload : Trace α σ ρ τ Unit) ⟨.idle, true⟩ := by
  intro link before
  rw [exec_encode]
  cases encoded : link.conn.write.encode payload with
  | mk write outcome =>
      cases outcome with
      | ok value =>
          have step : Trail.Step link.trail ⟨write, link.log ++ [.packet payload]⟩ :=
            .packet rfl encoded
          refine ⟨before.reached.tail step, follow_more before.seen ?_, before.settled⟩
          exact congrArg (Option.bind · _) (Watch.send_ordinary ordinary)
      | error stop =>
          have step : Trail.Step link.trail ⟨write, link.log⟩ := .failed encoded
          exact ⟨⟨.idle, true⟩, before.reached.tail step, before.seen, before.settled⟩

theorem installKeys_carries (update : KeyUpdate σ ρ) (sealed : Bool) :
    Carries start ⟨.replied, sealed⟩ (installKeys update : Trace α σ ρ τ Unit) ⟨.idle, true⟩ := by
  intro link before
  rw [exec_installKeys]
  unfold KeyUpdate.apply
  cases encoded : link.conn.write.encode NewKeys.encode with
  | mk write outcome =>
      cases outcome with
      | ok value =>
          have sent : Trail.Step link.trail ⟨write, link.log ++ [.packet NewKeys.encode]⟩ :=
            .packet rfl encoded
          have installed := (before.reached.tail sent).tail (.keys update.sealer update.strictKx)
          refine ⟨?_, follow_more before.seen rfl, by decide⟩
          rw [List.append_assoc] at installed
          exact installed
      | error stop =>
          have step : Trail.Step link.trail ⟨write, link.log⟩ := .failed encoded
          exact ⟨⟨.replied, sealed⟩, before.reached.tail step, before.seen, before.settled⟩

theorem record_processed (packet : IncomingPacket) :
    Carries start ⟨.idle, true⟩ (record [.processed packet] : Trace α σ ρ τ Unit) ⟨.idle, true⟩ := by
  apply record_ensures
  intro link before
  have step : Trail.Step link.trail ⟨link.conn.write, link.log ++ [.processed packet]⟩ :=
    .processed packet
  exact ⟨before.reached.tail step, follow_more before.seen rfl, before.settled⟩

theorem operate_carries {Spawns : Option String → List (String × String) → Prop}
    {operation : Operation σ τ β} (built : MuxBuilt Spawns operation) (channels : Channels τ) :
    Carries start ⟨.idle, true⟩ (operate channels operation : Trace α σ ρ τ _) ⟨.idle, true⟩ := by
  intro link before
  have first : start.Reaches ⟨link.conn.write, link.log ++ List.map .channel []⟩ := by
    rw [List.map_nil, List.append_nil]
    exact before.reached
  have ended := Keeps.last (MuxBuilt.trail built) { channels, write := link.conn.write } first
  have still (events : List (Event τ)) :
      Watch.follow {} (link.log ++ events.map .channel) = some ⟨.idle, true⟩ := by
    refine follow_more before.seen (Watch.follow_still fun act member => ?_)
    obtain ⟨event, _, rfl⟩ := List.mem_map.mp member
    exact Watch.see_channel event
  rw [exec_operate]
  generalize exec operation { channels, write := link.conn.write } = ran at ended
  obtain ⟨outcome, mux⟩ := ran
  cases outcome with
  | ok value => exact ⟨ended, still mux.log, before.settled⟩
  | error stop => exact ⟨_, ended, still mux.log, before.settled⟩

theorem handleAuth_carries (context : AuthenticationState.Context σ ρ) (state : AuthenticationState)
    (packet : IncomingPacket) :
    Carries start ⟨.idle, true⟩ (handleAuth context state packet : Trace α σ ρ τ _)
      ⟨.idle, true⟩ := by
  intro link before
  have first : start.Reaches ⟨link.conn.write, link.log ++ sentActs ([] : List AuthReply)⟩ := by
    rw [sentActs, List.map_nil, List.append_nil]
    exact before.reached
  have ended := Keeps.last (EmitBuilt.trail (AuthenticationState.handle_built context state packet))
    { write := link.conn.write } first
  have still (replies : List AuthReply) :
      Watch.follow {} (link.log ++ sentActs replies) = some ⟨.idle, true⟩ := by
    refine follow_more before.seen (Watch.follow_still fun act member => ?_)
    obtain ⟨reply, _, rfl⟩ := List.mem_map.mp member
    exact Watch.send_ordinary reply.encode_ordinary
  rw [exec_handleAuth]
  generalize exec (AuthenticationState.handle context state packet) { write := link.conn.write } =
    ran at ended
  obtain ⟨outcome, outbox⟩ := ran
  cases outcome with
  | ok next => exact ⟨ended, still outbox.sent, before.settled⟩
  | error stop =>
      cases stop with
      | error error => exact ⟨ended, still outbox.sent, before.settled⟩
      | panic site => exact ⟨_, ended, still outbox.sent, before.settled⟩

end Trace

def exchangeWatch (sealed : Bool) : Nat → Watch
  | 0 => ⟨.idle, sealed⟩
  | 1 => ⟨.offered, sealed⟩
  | _ => ⟨.replied, sealed⟩

def AfterPacket {S : Type} (stage : S → Option Nat) (last : Option Nat) (start : Trail σ τ)
    (sealed : Bool) (outcome : S × Option β) (link : Link α σ ρ τ) : Prop :=
  match outcome with
  | (state, none) => ∃ number, stage state = some number ∧
      Watched start (exchangeWatch sealed number) link
  | (state, some _) => stage state = last ∧ Watched start ⟨.replied, sealed⟩ link

theorem handleKx_carries {S : Type} {stage : S → Option Nat} {last : Option Nat} {number : Nat}
    {handle : WriteState σ → Handled σ S (Option β)}
    (steps : ∀ write, ExchangeStep stage last number (handle write))
    (trails : ∀ {link : Link α σ ρ τ}, start.Reaches link.trail → start.Reaches
      ⟨(handle link.conn.write).outbox.write,
        link.log ++ (handle link.conn.write).outbox.sent.map .packet⟩) (sealed : Bool) :
    Ensures (Watched start (exchangeWatch sealed number)) (Trace.handleKx handle)
      (AfterPacket stage last start sealed) (Halted start : Link α σ ρ τ → Prop) := by
  intro link before
  have ended := trails before.reached
  rw [Trace.exec_handleKx]
  have moved {payload : Bytes} {next : Watch}
      (sent : (handle link.conn.write).outbox.sent = [payload])
      (shown : (exchangeWatch sealed number).send (payloadType payload) = some next)
      (settled : next.stage ≠ .changing) :
      Watched start next { link with
        conn := { link.conn with write := (handle link.conn.write).outbox.write }
        log := link.log ++ (handle link.conn.write).outbox.sent.map .packet } := by
    refine ⟨ended, follow_more before.seen ?_, settled⟩
    rw [sent]
    exact congrArg (Option.bind · _) shown
  have unmoved (sent : (handle link.conn.write).outbox.sent = []) :
      Watched start (exchangeWatch sealed number) { link with
        conn := { link.conn with write := (handle link.conn.write).outbox.write }
        log := link.log ++ (handle link.conn.write).outbox.sent.map .packet } := by
    refine ⟨ended, follow_more before.seen ?_, before.settled⟩
    rw [sent]
    rfl
  cases steps link.conn.write with
  | offered first sent type next result =>
      subst first
      rw [result]
      exact ⟨1, next, moved sent (by rw [type]; rfl) (by intro changing; cases changing)⟩
  | replied second sent type next result =>
      subst second
      rw [result]
      exact ⟨2, next, moved sent (by rw [type]; rfl) (by intro changing; cases changing)⟩
  | changed third sent next result =>
      subst third
      rw [result]
      exact ⟨next, unmoved sent⟩
  | failed sent result =>
      rw [result]
      exact ⟨_, unmoved sent⟩

theorem replacing_trail {S : Type} {placeholder : S} {step : Emit σ Bytes ProtoError (S × β)}
    (built : EmitBuilt step) {link : Link α σ ρ τ} (reached : start.Reaches link.trail) :
    start.Reaches ⟨(replacing placeholder step { write := link.conn.write }).outbox.write,
      link.log ++ (replacing placeholder step { write := link.conn.write }).outbox.sent.map
        .packet⟩ := by
  have first : start.Reaches ⟨link.conn.write, link.log ++ sentActs ([] : List Bytes)⟩ := by
    rw [sentActs, List.map_nil, List.append_nil]
    exact reached
  have ended := Keeps.last (EmitBuilt.trail built) { write := link.conn.write } first
  unfold replacing
  generalize exec step { write := link.conn.write } = ran at ended
  obtain ⟨outcome, outbox⟩ := ran
  cases outcome with
  | ok output => exact ended
  | error stop => exact ended

theorem handleRekey_carries {state : RekeyState} {number : Nat} (live : state.stage = some number)
    (packet : IncomingPacket) (provider : CryptoProvider σ ρ) :
    Ensures (Watched start (exchangeWatch true number))
      (Trace.handleKx fun write => state.handle packet write provider)
      (AfterPacket RekeyState.stage (some 0) start true) (Halted start : Link α σ ρ τ → Prop) :=
  handleKx_carries (fun write => RekeyState.handle_exchanges live packet write provider)
    (fun reached => replacing_trail (state.advance_built packet provider) reached) true

theorem handleInitial_carries {state : InitialKeyExchangeState} {number : Nat}
    (live : state.stage = some number) (packet : IncomingPacket) (provider : CryptoProvider σ ρ) :
    Ensures (Watched start (exchangeWatch false number))
      (Trace.handleKx fun write => state.handle packet write provider)
      (AfterPacket InitialKeyExchangeState.stage none start false)
      (Halted start : Link α σ ρ τ → Prop) :=
  handleKx_carries (fun write => InitialKeyExchangeState.handle_exchanges live packet write provider)
    (fun reached => replacing_trail (state.advance_built packet provider) reached) false

def Phase.watch : Phase τ → Option Watch
  | .exchanging state => state.stage.map (exchangeWatch false)
  | .authenticating _ _ | .authenticated _ _ => some ⟨.idle, true⟩
  | .running session => session.kx.stage.map (exchangeWatch true)

def InPhase (start : Trail σ τ) (phase : Phase τ) (link : Link α σ ρ τ) : Prop :=
  ∃ watch, phase.watch = some watch ∧ Watched start watch link

def Lands (start : Trail σ τ) (next : Option (Phase τ)) (link : Link α σ ρ τ) : Prop :=
  match next with
  | some phase => InPhase start phase link
  | none => Halted start link

theorem InPhase.halted {phase : Phase τ} {link : Link α σ ρ τ} (inPhase : InPhase start phase link) :
    Halted start link := by
  obtain ⟨watch, _, watched⟩ := inPhase
  exact ⟨watch, watched⟩

section Session

variable {running : Running τ} {number : Nat}

theorem rekey_carries (live : running.kx.stage = some number) (provider : CryptoProvider σ ρ)
    (packet : IncomingPacket) :
    Ensures (Watched start (exchangeWatch true number)) (running.rekey provider packet)
      (fun next => InPhase start (.running next)) (Halted start : Link α σ ρ τ → Prop) := by
  refine (handleRekey_carries live packet provider).bind fun outcome => ?_
  obtain ⟨kx, output⟩ := outcome
  cases output with
  | none =>
      refine ensures_exists fun next => ensures_and fun stage => ?_
      refine (Trace.flush_carries _).bind fun _ => ensures_pure fun link watched => ?_
      exact ⟨_, congrArg (Option.map _) stage, watched⟩
  | some rekeyed =>
      refine ensures_and fun stage => ?_
      refine (Trace.installKeys_carries rekeyed.update true).bind fun _ => ?_
      refine (Trace.flush_carries _).bind fun _ => ensures_pure fun link watched => ?_
      exact ⟨_, congrArg (Option.map _) stage, watched⟩

theorem refuseGlobal_carries (packet : IncomingPacket) :
    Carries start ⟨.idle, true⟩ (Running.refuseGlobal packet : Trace α σ ρ τ Unit)
      ⟨.idle, true⟩ := by
  refine (Trace.record_processed packet).bind fun _ => ?_
  split
  · exact Trace.fail_carries _ _ _
  · split
    · refine (Trace.encode_carries ?_).bind fun _ => Trace.flush_carries _
      exact ordinary_of_type rfl (by decide) (by decide) (by decide)
    · exact ensures_pure fun _ watched => watched

theorem channelMessage_carries (host : TerminalHost τ) (live : running.kx.stage = some 0)
    (packet : IncomingPacket) :
    Ensures (Watched start ⟨.idle, true⟩) (running.channelMessage host packet)
      (fun next => InPhase start (.running next)) (Halted start : Link α σ ρ τ → Prop) := by
  refine (Trace.record_processed packet).bind fun _ => ?_
  refine (Trace.operate_carries (SessionInput.operation_built host _) _).bind fun _ => ?_
  refine (Trace.flush_carries _).bind fun _ => ensures_pure fun link watched => ?_
  exact ⟨_, congrArg (Option.map _) live, watched⟩

theorem idle_of_not_inProgress (live : running.kx.stage = some number)
    (still : ¬ running.kx.inProgress = true) : running.kx.stage = some 0 := by
  by_cases first : number = 0
  · rw [live, first]
  · exact absurd (running.kx.inProgress_iff_stage.mpr ⟨number, live, first⟩) still

theorem dispatch_carries (live : running.kx.stage = some number) (provider : CryptoProvider σ ρ)
    (host : TerminalHost τ) (packet : IncomingPacket) :
    Ensures (Watched start (exchangeWatch true number)) (running.dispatch provider host packet)
      (fun next => Lands start (next.map .running)) (Halted start : Link α σ ρ τ → Prop) := by
  have stays : Ensures (Watched start (exchangeWatch true number))
      (pure (some running) : Trace α σ ρ τ (Option (Running τ)))
      (fun next => Lands start (next.map .running)) (Halted start) := by
    refine ensures_pure fun link watched => ?_
    exact ⟨_, congrArg (Option.map _) live, watched⟩
  unfold Running.dispatch
  split
  · exact stays
  · exact stays
  · exact ensures_pure fun link watched => ⟨_, watched⟩
  · split
    · exact (rekey_carries live provider packet).bind fun next => ensures_pure fun _ lands => lands
    · rename_i quiet
      simp only [Bool.or_eq_true, not_or] at quiet
      have idle := idle_of_not_inProgress live quiet.2
      cases live.symm.trans idle
      split
      · refine (refuseGlobal_carries packet).bind fun _ => ?_
        exact stays
      · exact stays
      · exact stays
      · refine (channelMessage_carries host idle packet).bind fun next => ?_
        exact ensures_pure fun _ lands => lands

theorem pollTerminals_carries (live : running.kx.stage = some number) (host : TerminalHost τ) :
    Ensures (Watched start (exchangeWatch true number)) (running.pollTerminals host)
      (fun next => InPhase start (.running next)) (Halted start : Link α σ ρ τ → Prop) := by
  unfold Running.pollTerminals
  split
  · exact ensures_pure fun link watched => ⟨_, congrArg (Option.map _) live, watched⟩
  · rename_i still
    have idle := idle_of_not_inProgress live still
    cases live.symm.trans idle
    have built := @TerminalsFuture.poll_built σ τ _ (fun _ _ => True) host
    refine (Trace.operate_carries built _).bind fun outcome => ?_
    obtain ⟨channels, polled⟩ := outcome
    cases polled with
    | ready value =>
        refine (Trace.flush_carries _).bind fun _ => ensures_pure fun link watched => ?_
        exact ⟨_, congrArg (Option.map _) live, watched⟩
    | pending =>
        exact ensures_pure fun link watched => ⟨_, congrArg (Option.map _) live, watched⟩

variable [OpeningKey ρ]

theorem tryPacket_carries (watch : Watch) :
    Carries start watch (Running.receive : Trace α σ ρ τ _) watch := by
  intro link before
  have ended := Keeps.last
    (@Connection.receive_keeps _ _ _ (fun write => start.Reaches ⟨write, link.log⟩) _) link.conn
    before.reached
  rw [Running.receive, exec_mk]
  generalize exec Connection.receive link.conn = ran at ended
  obtain ⟨outcome, conn⟩ := ran
  cases outcome with
  | ok packet => exact ⟨ended, before.seen, before.settled⟩
  | error halt =>
      cases halt with
      | pending => exact ⟨ended, before.seen, before.settled⟩
      | stopped stop => exact ⟨watch, ended, before.seen, before.settled⟩

theorem turn_carries (live : running.kx.stage = some number) (provider : CryptoProvider σ ρ)
    (turn : Turn τ) :
    Ensures (Watched start (exchangeWatch true number)) (running.turn provider turn)
      (fun next => Lands start (next.map .running)) (Halted start : Link α σ ρ τ → Prop) := by
  unfold Running.turn
  split
  · refine (tryPacket_carries _).bind fun received => ?_
    cases received with
    | some packet => exact dispatch_carries live provider turn.host packet
    | none =>
        refine ensures_pure fun link watched => ?_
        exact ⟨_, congrArg (Option.map _) live, watched⟩
  · refine (pollTerminals_carries live turn.host).bind fun next => ?_
    exact ensures_pure fun _ lands => lands

end Session

section Accepting

open Server

variable [OpeningKey ρ]

theorem exchangeTurn_carries {state : InitialKeyExchangeState} {number : Nat}
    (live : state.stage = some number) (provider : CryptoProvider σ ρ) :
    Ensures (Watched start (exchangeWatch false number)) (exchangeTurn provider state)
      (fun next => InPhase start next) (Halted start : Link α σ ρ τ → Prop) := by
  refine (Trace.receive_carries _).bind fun packet => ?_
  refine (handleInitial_carries live packet provider).bind fun outcome => ?_
  obtain ⟨next, output⟩ := outcome
  cases output with
  | none =>
      refine ensures_exists fun later => ensures_and fun stage => ?_
      refine (Trace.flush_carries _).bind fun _ => ensures_pure fun link watched => ?_
      exact ⟨_, congrArg (Option.map _) stage, watched⟩
  | some established =>
      refine ensures_and fun _ => ?_
      refine (Trace.installKeys_carries established.update false).bind fun _ => ?_
      have extInfo : Carries start ⟨.idle, true⟩
          (sendExtInfo established.extInfo : Trace α σ ρ τ Unit) ⟨.idle, true⟩ := by
        cases established.extInfo with
        | none => exact ensures_pure fun _ watched => watched
        | some extInfo =>
            exact Trace.encode_carries (ordinary_of_type rfl (by decide) (by decide) (by decide))
      refine extInfo.bind fun _ => ?_
      have ignored : Ordinary (Ignore.encode {}) :=
        ordinary_of_type rfl (by decide) (by decide) (by decide)
      refine (Trace.encode_carries ignored).bind fun _ => ?_
      refine (Trace.flush_carries _).bind fun _ => ensures_pure fun link watched => ?_
      exact ⟨_, rfl, watched⟩

omit [OpeningKey ρ] in
theorem refuse_carries (error : Error) {post : β → Link α σ ρ τ → Prop} :
    Ensures (Watched start ⟨.idle, true⟩) (Server.refuse error : Trace α σ ρ τ β) post
      (Halted start) := by
  have told : Ordinary (Connection.disconnectFor error).encode :=
    ordinary_of_type rfl (by decide) (by decide) (by decide)
  refine (Trace.encode_carries told).bind fun _ => ?_
  refine (Trace.tryFlush_carries _).bind fun _ => ?_
  intro link watched
  exact ⟨_, watched⟩

theorem authenticateTurn_carries (server : Server σ ρ) (kx : KeyExchangeOutput)
    (state : AuthenticationState) :
    Ensures (Watched start ⟨.idle, true⟩) (authenticateTurn server kx state)
      (fun next => InPhase start next) (Halted start : Link α σ ρ τ → Prop) := by
  refine (Trace.tryReceive_carries _).bind fun received => ?_
  cases received with
  | error error => exact refuse_carries error
  | ok packet =>
      refine (Trace.handleAuth_carries _ state packet).bind fun handled => ?_
      refine (Trace.tryFlush_carries _).bind fun flushed => ?_
      split
      · rename_i next
        refine ensures_pure fun link watched => ⟨⟨.idle, true⟩, ?_, watched⟩
        cases next with
        | awaitServiceRequest => rfl
        | awaitAuthRequest cached attempts => rfl
        | complete authenticated => rfl
      · exact refuse_carries _
      · exact refuse_carries _

omit [OpeningKey ρ] in
theorem startHere_carries (provider : CryptoProvider σ ρ) (kx : KeyExchangeOutput)
    (options : KeyOptions) :
    Ensures (Watched start ⟨.idle, true⟩) (startHere provider kx options)
      (fun next => InPhase start next) (Halted start : Link α σ ρ τ → Prop) := by
  intro link before
  rw [startHere, exec_mk]
  cases started : (Session.new kx link.conn provider options :
    Except ProtoError (Session α σ ρ τ)) with
  | error error => exact ⟨_, before⟩
  | ok session =>
      obtain ⟨begun, sameConn⟩ := Session.new_ok started
      obtain ⟨key, _, fresh⟩ := begun.kx
      refine ⟨⟨.idle, true⟩, ?_, ?_⟩
      · change session.kx.stage.map (exchangeWatch true) = _
        rw [fresh]
        rfl
      · rw [sameConn]
        exact before

theorem startElsewhere_carries [SocketAddr α] (provider : CryptoProvider σ ρ)
    (kx : KeyExchangeOutput) (options : KeyOptions) :
    Ensures (Watched start ⟨.idle, true⟩) (startElsewhere provider kx options)
      (fun next => InPhase start next) (Halted start : Link α σ ρ τ → Prop) := by
  intro link before
  rw [startElsewhere, exec_mk]
  cases moved : (transfer provider kx options link.conn :
    Except (Stop Error) (Session α σ ρ τ)) with
  | error stop => exact ⟨_, before⟩
  | ok session =>
      obtain ⟨state, _, resumed⟩ := Outcome.bind_eq_ok.mp moved
      obtain ⟨decoded, _, rebuilt⟩ := resume_decoded resumed
      obtain ⟨_, fresh, _, _, isSealed⟩ := rebuild_ok rebuilt
      obtain ⟨sealer, sealed⟩ := Option.isSome_iff_exists.mp isSealed
      have step : Trail.Step link.trail
          ⟨session.conn.write, link.log ++ [.resumed session.conn.write.sealer]⟩ :=
        .resumed (rebuild_empty rebuilt) sealed
      refine ⟨⟨.idle, true⟩, ?_, before.reached.tail step, follow_more before.seen rfl, by decide⟩
      change session.kx.stage.map (exchangeWatch true) = _
      rw [fresh]
      rfl

theorem phaseTurn_carries [SocketAddr α] (server : Server σ ρ) (spawn : Bool) (turn : Turn τ)
    (phase : Phase τ) :
    Ensures (InPhase start phase) (server.phaseTurn spawn turn phase)
      (fun next => Lands start next) (Halted start : Link α σ ρ τ → Prop) := by
  refine ensures_exists fun watch => ensures_and fun agreed => ?_
  cases phase with
  | exchanging state =>
      obtain ⟨number, live, rfl⟩ := Option.map_eq_some_iff.mp agreed
      refine (exchangeTurn_carries live _).bind fun next => ?_
      exact ensures_pure fun _ lands => lands
  | authenticating kx state =>
      cases agreed
      refine (authenticateTurn_carries server kx state).bind fun next => ?_
      exact ensures_pure fun _ lands => lands
  | authenticated kx authenticated =>
      cases agreed
      unfold Server.phaseTurn
      dsimp only
      split
      · refine (startElsewhere_carries _ kx authenticated.options).bind fun next => ?_
        exact ensures_pure fun _ lands => lands
      · refine (startHere_carries _ kx authenticated.options).bind fun next => ?_
        exact ensures_pure fun _ lands => lands
  | running session =>
      obtain ⟨number, live, rfl⟩ := Option.map_eq_some_iff.mp agreed
      refine (turn_carries live _ turn).bind fun next => ?_
      exact ensures_pure fun _ lands => lands

theorem Live.step_lands [SocketAddr α] (server : Server σ ρ) (spawn : Bool)
    {live : Live α σ ρ τ} (lands : Lands start live.phase live.link) (turn : Turn τ) :
    Lands start (live.step server spawn turn).phase (live.step server spawn turn).link := by
  unfold Live.step
  split
  · exact lands
  · rename_i phase found
    rw [found] at lands
    obtain ⟨watch, agreed, watched⟩ := lands
    have supplied : InPhase start phase (live.link.supply turn) :=
      ⟨watch, agreed, watched.reached, watched.seen, watched.settled⟩
    have ended := phaseTurn_carries server spawn turn phase supplied
    split at ended
    · rename_i next link done
      rw [done]
      exact ended
    · rename_i halt link failed
      rw [failed]
      exact ended

theorem Live.run_lands [SocketAddr α] (server : Server σ ρ) (spawn : Bool)
    (turns : List (Turn τ)) {live : Live α σ ρ τ} (lands : Lands start live.phase live.link) :
    Lands start (live.run server spawn turns).phase (live.run server spawn turns).link := by
  induction turns generalizing live with
  | nil => exact lands
  | cons turn turns ih => exact ih (Live.step_lands server spawn lands turn)

end Accepting

end Turns

end Oxish
