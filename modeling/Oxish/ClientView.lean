import Oxish.Admission
import Oxish.AuthenticatedShells
import Oxish.Conversation
import Oxish.Establishing
import Oxish.GcmPairing
import Oxish.OutgoingBytes
import Oxish.TerminalPolling
import Oxish.Transport

/-!
What a client hears. Everything a server has put on the stream of a connection, the line with which
it introduced itself and the packets behind that, is read back by a client that changes keys where
the server does: it hears the packets of the log, in order, and nothing else.
-/

namespace Oxish

open Stateful

variable {α σ ρ τ β : Type}

section Frames

variable [SealingKey σ] [OpeningKey ρ] {pairing : Pairing σ ρ}

/-- What the bytes of a packet depend on, apart from its padding. -/
structure Pen (σ : Type) where
  sealer : Option σ
  sequenceNumber : UInt32

def WriteState.pen (write : WriteState σ) : Pen σ := ⟨write.sealer, write.sequenceNumber⟩

/-- The bytes of a script. Each entry is encoded by some writer that has come to the same keys and
the same number, whatever is in its buffer. -/
inductive Wrote : Pen σ → List (Entry pairing) → Bytes → Pen σ → Prop
  | nothing (pen : Pen σ) : Wrote pen [] [] pen
  | entry {writer : WriteState σ} {entry : Entry pairing} {script : List (Entry pairing)}
      {appended rest : Bytes} {last : Pen σ}
      (accepted : (writer.encodeKx entry.payloadOf.bytes none).result = .ok ())
      (grown : (writer.encodeKx entry.payloadOf.bytes none).state.buf = writer.buf ++ appended)
      (later : Wrote (entry.applyWriter
        (writer.encodeKx entry.payloadOf.bytes none).state).pen script rest last) :
      Wrote writer.pen (entry :: script) (appended ++ rest) last

theorem Wrote.snoc {pen middle : Pen σ} {script : List (Entry pairing)} {bytes appended : Bytes}
    (wrote : Wrote pen script bytes middle) {writer : WriteState σ} (here : writer.pen = middle)
    {entry : Entry pairing} (accepted : (writer.encodeKx entry.payloadOf.bytes none).result = .ok ())
    (grown : (writer.encodeKx entry.payloadOf.bytes none).state.buf = writer.buf ++ appended) :
    Wrote pen (script ++ [entry]) (bytes ++ appended)
      (entry.applyWriter (writer.encodeKx entry.payloadOf.bytes none).state).pen := by
  induction wrote with
  | nothing pen =>
      subst here
      have last : Wrote writer.pen [entry] (appended ++ []) _ := .entry accepted grown (.nothing _)
      rw [List.append_nil] at last
      exact last
  | entry first size later ih =>
      rw [List.cons_append, List.append_assoc]
      exact .entry first size (ih here)

/-- Payloads that a reader takes with any padding. -/
def Framable (payload : Bytes) : Prop := payload.length + 256 ≤ maxPacketLen

instance (payload : Bytes) : Decidable (Framable payload) := Nat.decLe _ _

theorem Framable.fits {payload : Bytes} (framable : Framable payload) {writer : WriteState σ}
    {opener : Option ρ} (keys : pairing.Keys writer.sealer opener) :
    1 + payload.length + (writer.drawPadding payload).bytes.val.length ≤ maxPacketLen := by
  have narrow (sealer : σ) (installed : writer.sealer = some sealer) :
      SealingKey.blockLen sealer ≤ 252 := by
    rw [installed] at keys
    cases opener with
    | none => exact keys.elim
    | some opener => exact pairing.blockLen keys
  have bounds := WriteState.drawPadding_bounds payload narrow
  unfold Framable at framable
  omega

theorem Wrote.drain {pen last : Pen σ} {script : List (Entry pairing)} {stream : Bytes}
    (wrote : Wrote pen script stream last) (position : ReadState.Position pairing)
    (keys : pairing.Keys pen.sealer position.opener)
    (numbers : position.sequenceNumber = pen.sequenceNumber) (planned : position.script = script)
    (framable : ∀ entry ∈ script, Framable entry.payloadOf.bytes) :
    ∃ packets final, (ReadState.decoder pairing).drain position stream =
        ⟨packets, final, [], false⟩ ∧
      packets.map (fun packet => packet.messageType.toByte :: packet.payload) =
        script.map fun entry => entry.payloadOf.bytes := by
  induction wrote generalizing position with
  | nothing pen =>
      exact ⟨[], position, (ReadState.decoder pairing).drain_more (ReadState.scan_empty position),
        rfl⟩
  | @entry writer entry script appended rest last accepted grown later ih =>
      have fits := (framable entry List.mem_cons_self).fits keys
      obtain ⟨taken, first, reads⟩ :=
        ReadState.readsFrame writer position entry.payloadOf keys numbers accepted fits
      have same : appended = taken := List.append_cancel_left (grown.symm.trans first)
      subst same
      obtain ⟨next, length, polled, decoded, nextKeys, nextNumbers, left⟩ := reads rest
      obtain ⟨sameScript, mirroredKeys, mirroredNumbers⟩ := ReadState.mirror_matches entry script
        (writer.encodeKx entry.payloadOf.bytes none).state next writer.sequenceNumber nextKeys
        nextNumbers
      have scanned : (ReadState.decoder pairing).scan position (appended ++ rest) =
          .item (entry.payloadOf.packet writer.sequenceNumber)
            ((next.mirror (entry.payloadOf.packet writer.sequenceNumber)
              (entry :: script)).1.position script) rest := by
        change ReadState.scan position (appended ++ rest) = _
        simp only [ReadState.scan, ReadState.receiveStep, polled, decoded, planned, sameScript,
          ReadState.mirror_unread, left]
      obtain ⟨packets, final, drained, payloads⟩ := ih
        ((next.mirror (entry.payloadOf.packet writer.sequenceNumber)
          (entry :: script)).1.position script) mirroredKeys mirroredNumbers rfl
        fun other member => framable other (List.mem_cons_of_mem entry member)
      refine ⟨entry.payloadOf.packet writer.sequenceNumber :: packets, final, ?_, ?_⟩
      · rw [(ReadState.decoder pairing).drain_item scanned, drained]
        rfl
      · rw [List.map_cons, List.map_cons, payloads]
        simp [Payload.packet, Payload.bytes, MessageType.toByte_ofByte]

theorem Wrote.received {pen last : Pen σ} {script : List (Entry pairing)}
    {chunks : List Bytes} (wrote : Wrote pen script chunks.flatten last) {reader : ReadState ρ}
    (keys : pairing.Keys pen.sealer reader.opener)
    (numbers : reader.sequenceNumber = pen.sequenceNumber)
    (consumed : reader.lastLength = reader.buf.length)
    (framable : ∀ entry ∈ script, Framable entry.payloadOf.bytes) :
    (reader.receiveChunks script chunks).stopped = none ∧
      (reader.receiveChunks script chunks).packets.map (fun packet =>
          packet.messageType.toByte :: packet.payload) =
        script.map (fun entry => entry.payloadOf.bytes) ∧
      (reader.receiveChunks script chunks).state.unread = [] := by
  obtain ⟨packets, final, drained, payloads⟩ :=
    wrote.drain (reader.position script) keys numbers rfl framable
  obtain ⟨stopped, received, unread⟩ := ReadState.receiveChunks_drained consumed drained
  exact ⟨stopped, received ▸ payloads, unread⟩

end Frames

section Wires

variable [SealingKey σ]

structure Wire (σ τ : Type) where
  sent : Bytes
  write : WriteState σ
  log : List (Act σ τ)

def Link.wire (link : Link α σ ρ τ) : Wire σ τ := ⟨link.conn.stream.sent, link.conn.write, link.log⟩

def Act.newSealer : Act σ τ → Option σ
  | .keys sealer => some sealer
  | _ => none

inductive Wire.Plain : Wire σ τ → Wire σ τ → Prop
  | encoded {wire act payload next} (shown : act.payload = some payload)
      (encoded : wire.write.encode payload = (next, .ok ())) :
      Plain wire { wire with write := next, log := wire.log ++ [act] }
  | noted {wire act} (silent : act.payload = none) (unkeyed : act.newSealer = none) :
      Plain wire { wire with log := wire.log ++ [act] }
  | flushed {wire pending next} (before : wire.write.buffered = some pending)
      (after : next.buffered = some []) (pen : next.pen = wire.write.pen) :
      Plain wire { wire with sent := wire.sent ++ pending, write := next }

abbrev Wire.Reaches : Wire σ τ → Wire σ τ → Prop := Relation.ReflTransGen Wire.Plain

variable [OpeningKey ρ] {pairing : Pairing σ ρ}

def Act.spoken : Act σ τ → Option (Bytes ⊕ σ)
  | .keys sealer => some (.inr sealer)
  | act => act.payload.map .inl

def Entry.spoken : Entry pairing → List (Bytes ⊕ σ)
  | .payload packet => [.inl packet.bytes]
  | .keySwitch switch => [.inl (Entry.keySwitch switch).payloadOf.bytes, .inr switch.sealer]

/-- The script has the packets of the log, and changes keys where the log does. -/
def Scripted (log : List (Act σ τ)) (script : List (Entry pairing)) : Prop :=
  script.flatMap Entry.spoken = log.filterMap Act.spoken

omit [SealingKey σ] in
theorem Act.spoken_payload (act : Act σ τ) : act.spoken.bind Sum.getLeft? = act.payload := by
  cases act with
  | channel event =>
      change (event.payload.map Sum.inl).bind Sum.getLeft? = event.payload
      cases event.payload with
      | none => rfl
      | some payload => rfl
  | _ => rfl

theorem Scripted.payloads {log : List (Act σ τ)} {script : List (Entry pairing)}
    (scripted : Scripted log script) :
    script.map (fun entry => entry.payloadOf.bytes) = log.filterMap Act.payload := by
  have read : (script.flatMap Entry.spoken).filterMap Sum.getLeft? =
      script.map fun entry => entry.payloadOf.bytes := by
    clear scripted
    induction script with
    | nil => rfl
    | cons entry script ih =>
        rw [List.flatMap_cons, List.filterMap_append, ih]
        cases entry with
        | payload payload => rfl
        | keySwitch switch => rfl
  rw [← read, scripted, List.filterMap_filterMap]
  exact congrArg (fun read => log.filterMap read) (funext Act.spoken_payload)

/-- What was sent and what is buffered are the line of the server and the bytes of a script, if
every packet of the log has a type. -/
def Wired (pairing : Pairing σ ρ) (wire : Wire σ τ) : Prop :=
  (∀ payload ∈ wire.log.filterMap Act.payload, payload ≠ []) →
    ∃ (script : List (Entry pairing)) (bytes pending : Bytes),
      Wrote ⟨none, 0⟩ script bytes wire.write.pen ∧ Scripted wire.log script ∧
      wire.write.buffered = some pending ∧
      wire.sent ++ pending = Connection.serverIdentification.encode ++ bytes

theorem Wired.entry {wire : Wire σ τ} (wired : Wired pairing wire) (entry : Entry pairing)
    {acts : List (Act σ τ)} {next : WriteState σ}
    (encoded : wire.write.encode entry.payloadOf.bytes = (next, .ok ()))
    (spoken : acts.filterMap Act.spoken = entry.spoken)
    (typed : ∀ payload ∈ (wire.log ++ acts).filterMap Act.payload, payload ≠ []) :
    ∃ (script : List (Entry pairing)) (bytes pending : Bytes),
      Wrote ⟨none, 0⟩ script bytes (entry.applyWriter next).pen ∧
      Scripted (wire.log ++ acts) script ∧ next.buffered = some pending ∧
      wire.sent ++ pending = Connection.serverIdentification.encode ++ bytes := by
  rw [List.filterMap_append] at typed
  obtain ⟨script, bytes, pending, wrote, scripted, buffered, sent⟩ :=
    wired fun payload member => typed payload (List.mem_append_left _ member)
  have counted := (WriteState.encode_accepts encoded).written
  obtain ⟨same, accepted⟩ := Prod.mk.inj encoded
  obtain ⟨appended, grown⟩ := wire.write.encodeKx_grows entry.payloadOf.bytes none
  subst same
  refine ⟨script ++ [entry], bytes ++ appended, pending ++ appended,
    wrote.snoc rfl accepted grown, ?_, WriteState.buffered_append buffered counted grown, ?_⟩
  · rw [Scripted, List.flatMap_append, List.filterMap_append, scripted, spoken, List.flatMap_cons,
      List.flatMap_nil, List.append_nil]
  · rw [← List.append_assoc, sent, List.append_assoc]

theorem Wired.plain {wire next : Wire σ τ} (plain : wire.Plain next) (wired : Wired pairing wire) :
    Wired pairing next := by
  cases plain with
  | @encoded act payload write shown encoded =>
      intro typed
      have nonempty : payload ≠ [] := by
        refine typed payload ?_
        rw [List.filterMap_append]
        refine List.mem_append_right _ ?_
        simp [shown]
      obtain ⟨first, body, rfl⟩ := List.exists_cons_of_ne_nil nonempty
      have spoken : act.spoken = some (.inl (first :: body)) := by
        cases act with
        | keys sealer => cases shown
        | _ => exact congrArg (Option.map Sum.inl) shown
      refine wired.entry (.payload ⟨first, body⟩) encoded ?_ typed
      rw [List.filterMap_cons_some spoken]
      rfl
  | @noted act silent unkeyed =>
      intro typed
      have same : (wire.log ++ [act]).filterMap Act.payload = wire.log.filterMap Act.payload := by
        simp [silent]
      have spoken : act.spoken = none := by
        cases act with
        | keys sealer => cases unkeyed
        | _ => exact congrArg (Option.map Sum.inl) silent
      have kept : (wire.log ++ [act]).filterMap Act.spoken = wire.log.filterMap Act.spoken := by
        simp [spoken]
      dsimp only at typed
      rw [same] at typed
      obtain ⟨script, bytes, pending, wrote, scripted, rest⟩ := wired typed
      exact ⟨script, bytes, pending, wrote, scripted.trans kept.symm, rest⟩
  | @flushed pending write before after pen =>
      intro typed
      obtain ⟨script, bytes, other, wrote, scripted, buffered, sent⟩ := wired typed
      cases before.symm.trans buffered
      refine ⟨script, bytes, [], ?_, scripted, after, ?_⟩
      · rw [pen]
        exact wrote
      · rw [List.append_nil]
        exact sent

theorem Wired.rekeyed {wire : Wire σ τ} (wired : Wired pairing wire)
    (total : ∀ sealer, ∃ opener, pairing.Matching sealer opener) {next : WriteState σ} {sealer : σ}
    (strictKx : Option StrictKeyExchange)
    (encoded : wire.write.encode NewKeys.encode = (next, .ok ())) :
    Wired pairing { wire with
      write := { next.resetSequenceNumber strictKx with sealer := some sealer }
      log := wire.log ++ [.packet NewKeys.encode, .keys sealer] } := by
  intro typed
  obtain ⟨opener, matching⟩ := total sealer
  have buffered : ({ next.resetSequenceNumber strictKx with sealer := some sealer } :
      WriteState σ).buffered = next.buffered := by
    unfold WriteState.resetSequenceNumber
    split
    · rfl
    · rfl
  dsimp only
  rw [buffered]
  exact wired.entry (.keySwitch ⟨strictKx, sealer, opener, matching⟩) encoded rfl typed

end Wires

section Streams

theorem WriteState.recordWritten_rest {state next : WriteState σ} {pending left : Bytes} {count : Nat}
    (before : state.buffered = some pending)
    (recorded : state.recordWritten (.ok count) = (next, .ok ()))
    (after : next.buffered = some left) :
    pending.take count ++ left = pending ∧ next.pen = state.pen := by
  obtain ⟨within, rfl⟩ := buffered_eq_some.mp before
  simp only [recordWritten] at recorded
  split at recorded
  · cases recorded
  · split at recorded
    · rename_i full
      cases recorded
      have nothing : left = [] := (Option.some.inj after).symm
      refine ⟨?_, rfl⟩
      rw [nothing, List.append_nil]
      apply List.take_of_length_le
      rw [List.length_drop]
      omega
    · cases recorded
      obtain ⟨_, rfl⟩ := buffered_eq_some.mp after
      refine ⟨?_, rfl⟩
      change (state.buf.drop state.written).take count ++ state.buf.drop (state.written + count) = _
      rw [← List.drop_drop, List.take_append_drop]

namespace Connection

theorem flushFor_sent (rounds : Nat) {conn last : Connection α σ ρ} {value : Unit}
    (done : exec (flushFor rounds) conn = (.ok value, last)) :
    ∃ pending, conn.write.buffered = some pending ∧
      last.stream.sent = conn.stream.sent ++ pending ∧ last.write.pen = conn.write.pen := by
  induction rounds generalizing conn with
  | zero => cases done
  | succ rounds ih =>
      unfold flushFor at done
      obtain ⟨bytes, _, look, done⟩ := exec_bind_ok.mp done
      obtain ⟨rfl, pending⟩ := buffered_ok look
      refine ⟨bytes, pending, ?_⟩
      split at done
      · obtain ⟨flushes, _, rfl⟩ := pollFlush_ok done
        exact ⟨(List.append_nil _).symm, rfl⟩
      · obtain ⟨count, _, polled, done⟩ := exec_bind_ok.mp done
        obtain ⟨writes, taken, rfl⟩ := pollWrite_ok polled
        obtain ⟨_, _, record, done⟩ := exec_bind_ok.mp done
        obtain ⟨write, recorded, rfl⟩ := recordWritten_ok record
        obtain ⟨left, buffered, sent, pen⟩ := ih done
        obtain ⟨whole, kept⟩ := WriteState.recordWritten_rest pending recorded buffered
        refine ⟨?_, pen.trans kept⟩
        rw [sent, List.append_assoc, whole]

section Receiving

variable [OpeningKey ρ] {write : WriteState σ} {sent : Bytes}

def Still (write : WriteState σ) (sent : Bytes) (conn : Connection α σ ρ) : Prop :=
  conn.write = write ∧ conn.stream.sent = sent

theorem receive_still : Keeps (Still write sent) (receive : Drive α σ ρ _) :=
  @receive_outgoing _ _ _ (fun outgoing => outgoing.1 = write ∧ outgoing.2.sent = sent) _

end Receiving

end Connection

end Streams

section Programs

variable [SealingKey σ]

def Plainly (program : Trace α σ ρ τ β) : Prop :=
  ∀ ⦃link value last⦄, exec program link = (.ok value, last) → link.wire.Reaches last.wire

theorem plainly_pure (value : β) : Plainly (pure value : Trace α σ ρ τ β) := by
  intro link other last done
  cases done
  exact .refl

theorem drive_plainly {program : Drive α σ ρ β}
    (still : ∀ write sent, Keeps (Connection.Still write sent) program) :
    Plainly (Trace.drive program : Trace α σ ρ τ β) := by
  intro link value last done
  have ended : Connection.Still link.conn.write link.conn.stream.sent (exec program link.conn).2 :=
    Keeps.last (still _ _) link.conn ⟨rfl, rfl⟩
  have same : last = { link with conn := (exec program link.conn).2 } := (Prod.mk.inj done).2.symm
  have wire : last.wire = link.wire := by
    rw [same, Link.wire, ended.1, ended.2]
    rfl
  rw [wire]

theorem flush_plain {link last : Link α σ ρ τ} {value : Unit}
    (ran : exec Connection.flush link.conn = (.ok value, last.conn)) (kept : last.log = link.log) :
    link.wire.Reaches last.wire := by
  obtain ⟨pending, before, sent, pen⟩ := Connection.flushFor_sent _ ran
  have step : link.wire.Plain ⟨link.conn.stream.sent ++ pending, last.conn.write, link.log⟩ :=
    .flushed before (Connection.flush_empty ran) pen
  rw [← sent, ← kept] at step
  exact .single step

theorem record_plainly {act : Act σ τ} (silent : act.payload = none)
    (unkeyed : act.newSealer = none) : Plainly (Trace.record [act] : Trace α σ ρ τ Unit) := by
  intro link value last done
  cases done
  exact .single (.noted silent unkeyed)

theorem encode_plainly (payload : Bytes) : Plainly (Trace.encode payload : Trace α σ ρ τ Unit) := by
  intro link value last done
  rw [Trace.exec_encode] at done
  split at done
  · rename_i write encoded
    cases done
    exact .single (.encoded rfl encoded)
  · cases done

theorem sendExtInfo_plainly (extInfo : Option ExtInfo) :
    Plainly (Server.sendExtInfo extInfo : Trace α σ ρ τ Unit) := by
  cases extInfo with
  | none => exact plainly_pure ()
  | some extInfo => exact encode_plainly _

theorem installKeys_ran {update : KeyUpdate σ ρ} {link last : Link α σ ρ τ} {value : Unit}
    (done : exec (Trace.installKeys update) link = (.ok value, last)) :
    ∃ write, link.conn.write.encode NewKeys.encode = (write, .ok ()) ∧
      { conn := { link.conn with
          write := { write.resetSequenceNumber update.strictKx with sealer := some update.sealer }
          read := { link.conn.read.resetSequenceNumber update.strictKx with
            opener := some update.opener } }
        log := link.log ++ [.packet NewKeys.encode, .keys update.sealer] } = last := by
  rw [Trace.exec_installKeys, KeyUpdate.apply] at done
  cases encoded : link.conn.write.encode NewKeys.encode with
  | mk write outcome =>
      rw [encoded] at done
      cases outcome with
      | ok value =>
          cases done
          exact ⟨write, rfl, rfl⟩
      | error stop => cases done

section Emits

variable {μ ε : Type} [Encode μ]

theorem EmitBuilt.plain {program : Emit σ μ ε β} (built : EmitBuilt program) (sent : Bytes)
    (log : List (Act σ τ)) {outbox last : Outbox σ μ} {value : β}
    (done : exec program outbox = (.ok value, last)) :
    Wire.Reaches ⟨sent, outbox.write, log ++ sentActs outbox.sent⟩
      ⟨sent, last.write, log ++ sentActs last.sent⟩ := by
  have steps : Within (fun before after : Outbox σ μ =>
      Wire.Reaches (⟨sent, before.write, log ++ sentActs before.sent⟩ : Wire σ τ)
        ⟨sent, after.write, log ++ sentActs after.sent⟩) program := by
    apply Built.within built
    intro γ program is
    cases is with
    | decided outcome => exact within_attemptOrPanic outcome
    | emitted embed message =>
        intro before value after ran
        obtain ⟨more, encoded⟩ := Outbox.encode_ok ran
        have split : (sentActs (before.sent ++ [message]) : List (Act σ τ)) =
            sentActs before.sent ++ [.packet (Encode.encode message)] := List.map_append
        refine .single ?_
        rw [more, split, ← List.append_assoc]
        exact .single (.encoded rfl encoded)
  exact @kept _ _ (fun current : Outbox σ μ => Wire.Reaches
    (⟨sent, outbox.write, log ++ sentActs outbox.sent⟩ : Wire σ τ)
    ⟨sent, current.write, log ++ sentActs current.sent⟩) _ _ (steps done)
    (fun step reached => reached.trans step) .refl

end Emits

theorem handleKx_plainly {S : Type} {placeholder : S}
    {step : Emit σ Bytes ProtoError (S × Option β)} (built : EmitBuilt step) :
    Plainly (Trace.handleKx fun write => replacing placeholder step { write } :
      Trace α σ ρ τ (S × Option β)) := by
  intro link value last done
  rw [Trace.exec_handleKx] at done
  split at done
  · rename_i output returned
    cases done
    have reached := EmitBuilt.plain built link.conn.stream.sent link.log (replacing_ok returned)
    rw [sentActs, List.map_nil, List.append_nil] at reached
    exact reached
  · cases done

theorem handleAuth_plain {context : AuthenticationState.Context σ ρ} {state next : AuthenticationState}
    {packet : IncomingPacket} {link last : Link α σ ρ τ}
    (done : exec (Trace.handleAuth context state packet) link = (.ok (.ok next), last)) :
    link.wire.Reaches last.wire := by
  rw [Trace.exec_handleAuth] at done
  split at done
  · rename_i ran
    cases done
    have reached := EmitBuilt.plain (AuthenticationState.handle_built context state packet)
      link.conn.stream.sent link.log ran
    rw [sentActs, List.map_nil, List.append_nil] at reached
    exact reached
  · cases done
  · cases done

theorem operate_plainly {Spawns : Option String → List (String × String) → Prop}
    {operation : Operation σ τ β} (built : MuxBuilt Spawns operation) (channels : Channels τ) :
    Plainly (Trace.operate channels operation : Trace α σ ρ τ (Channels τ × β)) := by
  intro link value last done
  have steps : Within (fun before after : Mux σ τ =>
      Wire.Reaches (⟨link.conn.stream.sent, before.write, link.log ++ before.log.map .channel⟩ :
        Wire σ τ) ⟨link.conn.stream.sent, after.write, link.log ++ after.log.map .channel⟩)
      operation := by
    apply Built.within built
    intro γ operation is
    cases is with
    | tabled change =>
        intro before value after ran
        cases ran
        exact .single .refl
    | noted event silent within =>
        intro before value after ran
        cases ran
        refine .single ?_
        rw [List.map_append, ← List.append_assoc]
        exact .single (.noted silent rfl)
    | transmitted event payload shown =>
        intro before value after ran
        change before.encode event payload = _ at ran
        unfold Mux.encode at ran
        split at ran
        · rename_i write encoded
          cases ran
          refine .single ?_
          rw [List.map_append, ← List.append_assoc]
          exact .single (.encoded shown encoded)
        · cases ran
    | decided outcome =>
        intro before value after ran
        obtain ⟨_, rfl⟩ := Prod.mk.inj ran
        exact .single .refl
  rw [Trace.exec_operate] at done
  split at done
  · rename_i ran
    cases done
    have first : link.wire = ⟨link.conn.stream.sent, link.conn.write, link.log ++ [].map .channel⟩ := by
      rw [List.map_nil, List.append_nil]
      rfl
    rw [first]
    exact @kept _ _ (fun current : Mux σ τ => Wire.Reaches
      (⟨link.conn.stream.sent, link.conn.write, link.log ++ [].map .channel⟩ : Wire σ τ)
      ⟨link.conn.stream.sent, current.write, link.log ++ current.log.map .channel⟩) _ _ (steps ran)
      (fun step reached => reached.trans step) .refl
  · cases done

end Programs

section Turns

variable [SealingKey σ] [OpeningKey ρ] {pairing : Pairing σ ρ}

theorem Wired.reach {wire next : Wire σ τ} (wired : Wired pairing wire)
    (reached : wire.Reaches next) : Wired pairing next :=
  kept reached Wired.plain wired

structure Settled (pairing : Pairing σ ρ) (link : Link α σ ρ τ) : Prop where
  wired : Wired pairing link.wire
  flushed : link.conn.write.buffered = some []

theorem Settled.supply {link : Link α σ ρ τ} (settled : Settled pairing link) (turn : Turn τ) :
    Settled pairing (link.supply turn) :=
  ⟨settled.wired, settled.flushed⟩

theorem receive_plainly : Plainly (Trace.drive Connection.receive : Trace α σ ρ τ _) :=
  drive_plainly fun _ _ => Connection.receive_still

theorem Wired.flush {link last : Link α σ ρ τ} {value : Unit} (wired : Wired pairing link.wire)
    (done : exec (Trace.drive Connection.flush) link = (.ok value, last)) :
    Settled pairing last := by
  obtain ⟨ran, kept⟩ := Trace.drive_ran done
  exact ⟨wired.reach (flush_plain ran kept), Connection.flush_empty ran⟩

structure Link.Unused (link : Link α σ ρ τ) : Prop where
  empty : link.conn.write.buf = []
  unwritten : link.conn.write.written = 0
  pen : link.conn.write.pen = ⟨none, 0⟩
  unsent : link.conn.stream.sent = []
  unlogged : link.log = []

theorem identify_settled {turn : Turn τ} {exchange : HandshakeBuffer} {identities : Identities}
    {link last : Link α σ ρ τ} (unused : link.Unused)
    (done : exec (Trace.drive Connection.identify) (link.supply turn) =
      (.ok (exchange, identities), last)) :
    Settled pairing last := by
  obtain ⟨empty, unwritten, pen, unsent, unlogged⟩ := unused
  obtain ⟨ran, logged⟩ := Trace.drive_ran done
  have cleared : (link.supply turn).conn.write.buf = [] := empty
  obtain ⟨_, identified, writer, line⟩ := Connection.identify_ok cleared ran
  have buffered : last.conn.write.buffered = some [] := by
    rw [writer]
    exact WriteState.carries_empty empty unwritten
  refine ⟨?_, buffered⟩
  intro _
  refine ⟨[], [], [], ?_, ?_, buffered, ?_⟩
  · change Wrote _ _ _ last.conn.write.pen
    rw [writer]
    change Wrote _ _ _ link.conn.write.pen
    rw [pen]
    exact .nothing _
  · change _ = last.log.filterMap _
    rw [logged]
    change _ = link.log.filterMap _
    rw [unlogged]
    rfl
  · change last.conn.stream.sent ++ [] = _ ++ []
    rw [identified.sent]
    change link.conn.stream.sent ++ _ ++ _ ++ [] = _
    rw [unsent, List.nil_append, line.server]

theorem startHere_settled {provider : CryptoProvider σ ρ} {kx : KeyExchangeOutput}
    {options : KeyOptions} {started : Phase τ} {link last : Link α σ ρ τ}
    (settled : Settled pairing link)
    (done : exec (Server.startHere provider kx options) link = (.ok started, last)) :
    Settled pairing last := by
  rw [Server.startHere, exec_mk] at done
  split at done
  · rename_i session begun
    cases done
    rw [(Session.new_ok begun).2]
    exact settled
  · cases done

variable (total : ∀ sealer, ∃ opener, pairing.Matching sealer opener)

include total in
theorem Wired.installKeys {link last : Link α σ ρ τ} {update : KeyUpdate σ ρ} {value : Unit}
    (wired : Wired pairing link.wire)
    (done : exec (Trace.installKeys update) link = (.ok value, last)) :
    Wired pairing last.wire := by
  obtain ⟨write, encoded, rfl⟩ := installKeys_ran done
  exact wired.rekeyed total update.strictKx encoded

include total in
theorem exchangeTurn_settled {provider : CryptoProvider σ ρ} {state : InitialKeyExchangeState}
    {link last : Link α σ ρ τ} {phase : Phase τ} (settled : Settled pairing link)
    (done : exec (Server.exchangeTurn provider state) link = (.ok phase, last)) :
    Settled pairing last := by
  unfold Server.exchangeTurn at done
  obtain ⟨packet, _, received, done⟩ := exec_bind_ok.mp done
  obtain ⟨⟨next, output⟩, _, handled, done⟩ := exec_bind_ok.mp done
  have heard := (settled.wired.reach (receive_plainly received)).reach
    (handleKx_plainly (InitialKeyExchangeState.advance_built state packet provider) handled)
  cases output with
  | none =>
      obtain ⟨_, _, flushed, done⟩ := exec_bind_ok.mp done
      cases done
      exact heard.flush flushed
  | some established =>
      obtain ⟨_, _, keyed, done⟩ := exec_bind_ok.mp done
      obtain ⟨_, _, told, done⟩ := exec_bind_ok.mp done
      obtain ⟨_, _, ignored, done⟩ := exec_bind_ok.mp done
      obtain ⟨_, _, flushed, done⟩ := exec_bind_ok.mp done
      cases done
      have keys := heard.installKeys total keyed
      exact ((keys.reach (sendExtInfo_plainly _ told)).reach (encode_plainly _ ignored)).flush flushed

section Sessions

variable {running next : Running τ} {provider : CryptoProvider σ ρ} {host : TerminalHost τ}
  {link last : Link α σ ρ τ}

include total in
theorem rekey_settled {packet : IncomingPacket} (wired : Wired pairing link.wire)
    (done : exec (running.rekey provider packet) link = (.ok next, last)) :
    Settled pairing last := by
  unfold Running.rekey at done
  obtain ⟨⟨kx, output⟩, _, handled, done⟩ := exec_bind_ok.mp done
  have heard := wired.reach
    (handleKx_plainly (RekeyState.advance_built running.kx packet provider) handled)
  cases output with
  | none =>
      obtain ⟨_, _, flushed, done⟩ := exec_bind_ok.mp done
      cases done
      exact heard.flush flushed
  | some rekeyed =>
      obtain ⟨_, _, keyed, done⟩ := exec_bind_ok.mp done
      obtain ⟨_, _, flushed, done⟩ := exec_bind_ok.mp done
      cases done
      exact (heard.installKeys total keyed).flush flushed

theorem refuseGlobal_settled {packet : IncomingPacket} {value : Unit}
    (settled : Settled pairing link)
    (done : exec (Running.refuseGlobal packet) link = (.ok value, last)) :
    Settled pairing last := by
  unfold Running.refuseGlobal at done
  obtain ⟨_, _, recorded, done⟩ := exec_bind_ok.mp done
  have noted := settled.wired.reach (record_plainly rfl rfl recorded)
  split at done
  · cases done
  · split at done
    · obtain ⟨_, _, encoded, done⟩ := exec_bind_ok.mp done
      exact (noted.reach (encode_plainly _ encoded)).flush done
    · cases done
      cases recorded
      exact ⟨noted, settled.flushed⟩

theorem channelMessage_settled {packet : IncomingPacket} (wired : Wired pairing link.wire)
    (done : exec (running.channelMessage host packet) link = (.ok next, last)) :
    Settled pairing last := by
  unfold Running.channelMessage at done
  obtain ⟨_, _, recorded, done⟩ := exec_bind_ok.mp done
  obtain ⟨_, _, operated, done⟩ := exec_bind_ok.mp done
  obtain ⟨_, _, flushed, done⟩ := exec_bind_ok.mp done
  cases done
  have noted := wired.reach (record_plainly rfl rfl recorded)
  exact (noted.reach
    (operate_plainly (SessionInput.operation_built host _) _ operated)).flush flushed

include total in
theorem dispatch_settled {packet : IncomingPacket} (settled : Settled pairing link)
    (done : exec (running.dispatch provider host packet) link = (.ok (some next), last)) :
    Settled pairing last := by
  unfold Running.dispatch at done
  split at done
  · cases done
    exact settled
  · cases done
    exact settled
  · cases done
  · split at done
    · obtain ⟨_, _, rekeyed, done⟩ := exec_bind_ok.mp done
      cases done
      exact rekey_settled total settled.wired rekeyed
    · split at done
      · obtain ⟨_, _, refused, done⟩ := exec_bind_ok.mp done
        cases done
        exact refuseGlobal_settled settled refused
      · cases done
        exact settled
      · cases done
        exact settled
      · obtain ⟨_, _, handled, done⟩ := exec_bind_ok.mp done
        cases done
        exact channelMessage_settled settled.wired handled

theorem pollTerminals_settled (settled : Settled pairing link)
    (done : exec (running.pollTerminals host) link = (.ok next, last)) : Settled pairing last := by
  unfold Running.pollTerminals at done
  split at done
  · cases done
    exact settled
  · obtain ⟨⟨channels, polled⟩, middle, operated, done⟩ := exec_bind_ok.mp done
    have wired := settled.wired.reach (operate_plainly
      (@TerminalsFuture.poll_built _ _ _ (fun _ _ => True) host) _ operated)
    cases polled with
    | ready done' =>
        obtain ⟨_, _, flushed, done⟩ := exec_bind_ok.mp done
        cases done
        exact wired.flush flushed
    | pending =>
        cases done
        refine ⟨wired, ?_⟩
        -- A pending poll has written nothing.
        rw [Trace.exec_operate] at operated
        split at operated
        · rename_i mux ran
          cases operated
          cases (poll_visits ran).ended Std.TreeMap.nodup_keys with
          | pending idle =>
              rw [idle.silent.write]
              exact settled.flushed
        · cases operated

include total in
theorem turn_settled {turn : Turn τ} (settled : Settled pairing link)
    (done : exec (running.turn provider turn) link = (.ok (some next), last)) :
    Settled pairing last := by
  unfold Running.turn at done
  split at done
  · obtain ⟨packet, middle, received, done⟩ := exec_bind_ok.mp done
    have ready : Settled pairing middle := by
      have still : Connection.Still link.conn.write link.conn.stream.sent
          (exec Connection.receive link.conn).2 :=
        Keeps.last Connection.receive_still link.conn ⟨rfl, rfl⟩
      have same : middle.conn = (exec Connection.receive link.conn).2 ∧ middle.log = link.log := by
        rw [Running.receive, exec_mk] at received
        split at received
        · rename_i ran
          cases received
          rw [ran]
          exact ⟨rfl, rfl⟩
        · rename_i ran
          cases received
          rw [ran]
          exact ⟨rfl, rfl⟩
        · cases received
      have wire : middle.wire = link.wire := by
        rw [Link.wire, same.1, same.2, still.1, still.2]
        rfl
      refine ⟨by rw [wire]; exact settled.wired, ?_⟩
      rw [same.1, still.1]
      exact settled.flushed
    cases packet with
    | some packet => exact dispatch_settled total ready done
    | none =>
        cases done
        exact ready
  · obtain ⟨polled, _, polling, done⟩ := exec_bind_ok.mp done
    cases done
    exact pollTerminals_settled settled polling

end Sessions

end Turns

section Handing

variable {backend : Backend} {primitives : Primitives} [SocketAddr α]

variable {kx : KeyExchangeOutput} {options : KeyOptions}
  {conn : Connection α (Aes128GcmSealer backend primitives.cipher)
    (Aes128GcmOpener backend primitives.cipher)}
  {session : Session α (Aes128GcmSealer backend primitives.cipher)
    (Aes128GcmOpener backend primitives.cipher) τ}

theorem transfer_pen {draws : Draws} (uses : conn.write.Uses (some kx.keys.serverToClient))
    (fits : ∀ state, Server.handoff kx options conn = .ok state → state.Fits)
    (transferred : Server.transfer ((backend.provider primitives).drawing draws) kx options conn =
      .ok session) :
    conn.write.buffered = some [] ∧ session.conn.write.pen = conn.write.pen ∧
      session.conn.write.buffered = some [] ∧ session.conn.stream = conn.stream := by
  obtain ⟨state, handed, resumed⟩ := Outcome.bind_eq_ok.mp transferred
  obtain ⟨decoded, accepted, rebuilt⟩ := resume_decoded resumed
  obtain ⟨_, _, _, _, _, written, _⟩ := SessionState.decode_ok (fits state handed) accepted
  unfold WriteState.Uses at uses
  generalize attached : conn.write.sealer = sealer at uses
  cases uses with
  | @some source sealer seals =>
      unfold Server.handoff at handed
      split at handed
      · cases handed
      · cases handed
      · rename_i flushed
        split at handed
        · cases handed
        · cases handed
          unfold rebuild at rebuilt
          obtain ⟨opener, _, rebuilt⟩ := Outcome.bind_eq_ok.mp rebuilt
          obtain ⟨made, making, rebuilt⟩ := Outcome.bind_eq_ok.mp rebuilt
          cases rebuilt
          rw [written, attached] at making
          cases seals.sealingKey.symm.trans making
          refine ⟨flushed, ?_, rfl, rfl⟩
          rw [WriteState.pen, WriteState.pen, attached, written]

end Handing

section Typed

theorem Event.payload_ne_nil {event : Event τ} {payload : Bytes}
    (shown : event.payload = some payload) : payload ≠ [] := by
  cases event with
  | sent localId message =>
      cases shown
      cases message with
      | _ => exact List.cons_ne_nil _ _
  | refused failure =>
      cases shown
      exact List.cons_ne_nil _ _
  | _ => cases shown

theorem Talk.say_none (talk : Talk) : talk.say none = none := by
  cases talk with
  | opened owed => cases owed <;> rfl
  | _ => rfl

theorem typed_of_overheard {link : Link α σ ρ τ} (overheard : Overheard link) :
    ∀ payload ∈ link.log.filterMap Act.payload, payload ≠ [] := by
  obtain ⟨talk, _, read⟩ := overheard
  rintro payload member rfl
  obtain ⟨act, among, shown⟩ := List.mem_filterMap.mp member
  cases act with
  | packet payload =>
      cases shown
      obtain ⟨before, after, split⟩ := List.append_of_mem among
      obtain ⟨here, next, _, heard, _⟩ := heard_at read split
      change here.say none = some next at heard
      rw [Talk.say_none] at heard
      cases heard
  | channel event => exact Event.payload_ne_nil shown rfl
  | keys sealer => cases shown
  | resumed sealer => cases shown
  | processed packet => cases shown

end Typed

section Tasks

variable {backend : Backend} {primitives : Primitives}
  {link last : Link α (Aes128GcmSealer backend primitives.cipher)
    (Aes128GcmOpener backend primitives.cipher) τ}

theorem WriteState.Uses.reach {side : Option KeySourceSide}
    {wire next : Wire (Aes128GcmSealer backend primitives.cipher) τ}
    (uses : wire.write.Uses side) (reached : wire.Reaches next) : next.write.Uses side := by
  refine @kept _ _ (fun wire => wire.write.Uses side) _ _ reached ?_ uses
  intro before after plain uses
  cases plain with
  | encoded shown encoded => exact encode_uses uses encoded
  | noted silent unkeyed => exact uses
  | @flushed pending write buffered flushed pen =>
      have sealer : write.sealer = before.write.sealer := congrArg Pen.sealer pen
      change Option.Rel _ side write.sealer
      rw [sealer]
      exact uses

theorem authenticateReply_settled
    {pairing : Pairing (Aes128GcmSealer backend primitives.cipher)
      (Aes128GcmOpener backend primitives.cipher)}
    {server : Server (Aes128GcmSealer backend primitives.cipher)
      (Aes128GcmOpener backend primitives.cipher)} {kx : KeyExchangeOutput}
    {state next : AuthenticationState} {side : Option KeySourceSide}
    (settled : Settled pairing link) (uses : link.conn.write.Uses side)
    (done : exec (Task.authenticateReply server kx state) link = (.ok (.ok next), last)) :
    Settled pairing last ∧ last.conn.write.Uses side := by
  unfold Task.authenticateReply at done
  obtain ⟨received, _, receiving, done⟩ := exec_bind_ok.mp done
  have first := drive_plainly
    (fun _ _ => Drive.catching_keeps Connection.receive_still) receiving
  cases received with
  | error error => cases done
  | ok packet =>
      obtain ⟨handled, middle, handling, done⟩ := exec_bind_ok.mp done
      obtain ⟨flushed, _, flushing, done⟩ := exec_bind_ok.mp done
      cases handled with
      | error error => cases done
      | ok value =>
          cases flushed with
          | error error => cases done
          | ok finished =>
              cases done
              obtain ⟨caught, kept⟩ := Trace.drive_ran flushing
              have ran := Drive.catching_ok caught
              have reached := first.trans ((handleAuth_plain handling).trans (flush_plain ran kept))
              exact ⟨⟨settled.wired.reach reached, Connection.flush_empty ran⟩, uses.reach reached⟩

theorem handle_established [SealingKey σ] {provider : CryptoProvider σ ρ}
    {state : InitialKeyExchangeState} {packet : IncomingPacket} {write : WriteState σ}
    {established : Established σ ρ}
    (returned : (state.handle packet write provider).result = .ok (some established)) :
    provider.sealingKey 0 established.output.keys.serverToClient =
      .ok established.update.sealer := by
  have done := replacing_ok returned
  cases state with
  | awaitingKexInit hostKeys identities exchange =>
      obtain ⟨_, _, _, _, _, other, _⟩ := InitialKeyExchangeState.advance_offered done
      cases other
  | awaitingEcdhInit kx hostKeys identities strictKx extInfo =>
      obtain ⟨_, _, _, _, _, other, _⟩ := InitialKeyExchangeState.advance_replied done
      cases other
  | awaitingNewKeys agreed extInfo =>
      obtain ⟨_, _, _, opener, sealer, _, sealed, same⟩ :=
        InitialKeyExchangeState.advance_established done
      cases same
      exact sealed
  | complete => cases done

theorem exchangeTurn_uses {draws : Draws} {state : InitialKeyExchangeState}
    {kx : KeyExchangeOutput} {later : AuthenticationState}
    (done : exec (Server.exchangeTurn ((backend.provider primitives).drawing draws) state) link =
      (.ok (.authenticating kx later), last)) :
    last.conn.write.Uses (some kx.keys.serverToClient) := by
  unfold Server.exchangeTurn at done
  obtain ⟨packet, _, received, done⟩ := exec_bind_ok.mp done
  obtain ⟨⟨next, output⟩, _, handled, done⟩ := exec_bind_ok.mp done
  cases output with
  | none =>
      obtain ⟨_, _, flushed, done⟩ := exec_bind_ok.mp done
      cases done
  | some established =>
      obtain ⟨_, keyed, installed, done⟩ := exec_bind_ok.mp done
      obtain ⟨_, _, told, done⟩ := exec_bind_ok.mp done
      obtain ⟨_, _, ignored, done⟩ := exec_bind_ok.mp done
      obtain ⟨_, _, flushed, done⟩ := exec_bind_ok.mp done
      cases done
      have made : (backend.provider primitives).sealingKey 0 established.output.keys.serverToClient =
          .ok established.update.sealer := by
        rw [Trace.exec_handleKx] at handled
        split at handled
        · rename_i returned
          cases handled
          have sealed := handle_established returned
          exact sealed
        · cases handled
      obtain ⟨state, sealed, sealer⟩ := Outcome.map_eq_ok.mp made
      obtain ⟨_, _, same⟩ := installKeys_ran installed
      have uses : keyed.conn.write.Uses (some established.output.keys.serverToClient) := by
        rw [← same]
        refine .some ?_
        rw [← sealer]
        exact .of_gcmState sealed
      obtain ⟨ran, kept⟩ := Trace.drive_ran flushed
      exact ((uses.reach (sendExtInfo_plainly _ told)).reach (encode_plainly _ ignored)).reach
        (flush_plain ran kept)

variable [SocketAddr α] {spawn : Bool}
  {pairing : Pairing (Aes128GcmSealer backend primitives.cipher)
    (Aes128GcmOpener backend primitives.cipher)}
  {server : Server (Aes128GcmSealer backend primitives.cipher)
    (Aes128GcmOpener backend primitives.cipher)}
  {task next : Task α (Aes128GcmSealer backend primitives.cipher)
    (Aes128GcmOpener backend primitives.cipher) τ}

/-- What a client has heard of a task that goes on. -/
def Task.Audible (pairing : Pairing (Aes128GcmSealer backend primitives.cipher)
    (Aes128GcmOpener backend primitives.cipher))
    (task : Task α (Aes128GcmSealer backend primitives.cipher)
      (Aes128GcmOpener backend primitives.cipher) τ) : Prop :=
  match task.stage with
  | .accepted | .identifying => task.link.Unused
  | .connected (.authenticating kx _) | .connected (.authenticated kx _) =>
    Settled pairing task.link ∧ task.link.conn.write.Uses (some kx.keys.serverToClient)
  | .connected _ => Settled pairing task.link
  | _ => True

theorem startElsewhere_settled {draws : Draws} {kx : KeyExchangeOutput} {options : KeyOptions}
    {started : Phase τ}
    (uses : link.conn.write.Uses (some kx.keys.serverToClient))
    (fits : ∀ state, Server.handoff kx options link.conn = .ok state → state.Fits)
    (settled : Settled pairing link)
    (done : exec (Server.startElsewhere ((backend.provider primitives).drawing draws) kx options)
      link = (.ok started, last)) :
    Settled pairing last := by
  rw [Server.startElsewhere, exec_mk] at done
  split at done
  · cases done
  · rename_i session moved
    cases done
    obtain ⟨_, pen, flushed, stream⟩ := transfer_pen uses fits moved
    have step : link.wire.Plain ⟨link.conn.stream.sent ++ [], session.conn.write, link.log⟩ :=
      .flushed settled.flushed flushed pen
    rw [List.append_nil, ← stream] at step
    exact ⟨settled.wired.reach (.tail (.single step) (.noted rfl rfl)), flushed⟩

variable (total : ∀ sealer, ∃ opener, pairing.Matching sealer opener)
  (supplied : server.provider = backend.provider primitives)

include total supplied in
theorem phaseTurn_settled {turn : Turn τ} {phase : Phase τ} {running : Running τ}
    (inSession : Task.inSession phase)
    (uses : ∀ kx auth, phase = .authenticated kx auth →
      link.conn.write.Uses (some kx.keys.serverToClient) ∧
        (spawn = true → ∀ state, Server.handoff kx auth.options link.conn = .ok state → state.Fits))
    (settled : Settled pairing link)
    (done : exec (server.phaseTurn spawn turn phase) link = (.ok (some (.running running)), last)) :
    Settled pairing last := by
  cases phase with
  | exchanging state => exact inSession.elim
  | authenticating kx state => exact inSession.elim
  | authenticated kx auth =>
      obtain ⟨seals, fits⟩ := uses kx auth rfl
      unfold Server.phaseTurn at done
      dsimp only at done
      split at done
      · rename_i elsewhere
        obtain ⟨started, _, starting, done⟩ := exec_bind_ok.mp done
        cases done
        rw [supplied] at starting
        exact startElsewhere_settled seals (fits elsewhere) settled starting
      · obtain ⟨started, _, starting, done⟩ := exec_bind_ok.mp done
        cases done
        exact startHere_settled settled starting
  | running current =>
      rw [Server.phaseTurn] at done
      obtain ⟨turned, _, turning, done⟩ := exec_bind_ok.mp done
      rw [exec_pure] at done
      obtain ⟨same, rfl⟩ := Prod.mk.inj done
      obtain ⟨later, rfl, _⟩ := Option.map_eq_some_iff.mp (Except.ok.inj same)
      exact turn_settled total settled turning

omit [SocketAddr α] in
theorem Task.Audible.settled {phase : Phase τ} (audible : task.Audible pairing)
    (connected : task.stage = .connected phase) : Settled pairing task.link := by
  unfold Task.Audible at audible
  rw [connected] at audible
  cases phase with
  | exchanging state => exact audible
  | authenticating kx state => exact audible.1
  | authenticated kx auth => exact audible.1
  | running current => exact audible

include total supplied in
theorem Task.Audible.move {now : Nat} {available : Bool} {own : TaskEvent τ}
    (portable : spawn = true → task.Portable) (audible : task.Audible pairing)
    (moves : Task.Moves server spawn now available task own next) : next.Audible pairing := by
  have refused (error : Error) (disconnect : Disconnect)
      (link : Link α (Aes128GcmSealer backend primitives.cipher)
        (Aes128GcmOpener backend primitives.cipher) τ) :
      (Task.refuse now error disconnect link).Audible pairing := by
    unfold Task.refuse
    dsimp only
    split
    · trivial
    · trivial
  have before := audible
  unfold Task.Audible at before
  cases moves with
  | acquired fresh =>
      rw [fresh] at before
      unfold Task.acquire
      split
      · exact before
      · trivial
  | identified stage ran =>
      rw [stage] at before
      exact identify_settled before ran
  | @exchanged turn state later link stage ran =>
      exact exchangeTurn_settled total ((audible.settled stage).supply turn) ran
  | @established turn state kx link stage ran =>
      refine ⟨exchangeTurn_settled total ((audible.settled stage).supply turn) ran, ?_⟩
      rw [supplied] at ran
      exact exchangeTurn_uses ran
  | @replied turn _ _ _ _ stage _ ran | @welcomed turn _ _ _ _ stage ran =>
      rw [stage] at before
      exact authenticateReply_settled (before.1.supply turn) before.2 ran
  | @continued turn phase running link stage inSession ran =>
      refine phaseTurn_settled total supplied inSession ?_ ((audible.settled stage).supply turn) ran
      intro kx auth same
      subst same
      rw [stage] at before
      refine ⟨before.2, ?_⟩
      intro elsewhere state handed
      exact portable elsewhere kx auth state stage handed
  | refused | expired => exact refused _ _ _
  | finished outcome later ends => trivial

end Tasks

section Result

variable [SocketAddr α] {backend : Backend} {primitives : Primitives}

/-- In every order of events, and however the network cuts its bytes, the client of a connection
that stands reads exactly what the server has said on it. It gets the server's line first; a reader
that takes the keys into use where the log does then reads every packet of the log, in order,
without an error and with nothing left. So it is also when the session goes on in a process of its
own. -/
theorem client_hears
    (server : Server (Aes128GcmSealer backend primitives.cipher)
      (Aes128GcmOpener backend primitives.cipher)) (spawn : Bool) (events : List (HubEvent α τ))
    (lawful : primitives.cipher.Lawful) (supplied : server.provider = backend.provider primitives)
    (unsent : ∀ stream addr secureRandom, .arrived stream addr secureRandom ∈ events →
      stream.sent = [])
    (portable : spawn = true → History.Always (Hub.step server spawn) {} events
      fun (hub : Hub α (Aes128GcmSealer backend primitives.cipher)
        (Aes128GcmOpener backend primitives.cipher) τ) => ∀ task ∈ hub.tasks, task.Portable)
    {hub : Hub α (Aes128GcmSealer backend primitives.cipher)
      (Aes128GcmOpener backend primitives.cipher) τ}
    (ran : History.run (Hub.step server spawn) {} events = some hub)
    {task : Task α (Aes128GcmSealer backend primitives.cipher)
      (Aes128GcmOpener backend primitives.cipher) τ} (member : task ∈ hub.tasks)
    {phase : Phase τ} (connected : task.stage = .connected phase)
    (framable : ∀ payload ∈ task.link.log.filterMap Act.payload, Framable payload) :
    ∃ (script : List (Entry (gcmPairing backend primitives.cipher lawful))) (bytes : Bytes),
      task.link.conn.stream.sent = Connection.serverIdentification.encode ++ bytes ∧
      Scripted task.link.log script ∧
      ∀ chunks : List Bytes, chunks.flatten = bytes →
        let reading := ReadState.receiveChunks {} script chunks
        reading.stopped = none ∧
        reading.packets.map (fun packet => packet.messageType.toByte :: packet.payload) =
          task.link.log.filterMap Act.payload ∧
        reading.state.unread = [] := by
  obtain ⟨index, found⟩ := List.mem_iff_getElem?.mp member
  have audible : task.Audible (gcmPairing backend primitives.cipher lawful) := by
    refine Hub.tasks_along (P := fun _ _ task => task.Audible _) ?_ (fun audible => audible) ?_ ran
      found
    · intro past index stream addr secureRandom arrived
      exact ⟨rfl, rfl, rfl, unsent stream addr secureRandom arrived, rfl⟩
    · intro past rest middle index own before after split reached stood audible moves
      refine audible.move (fun sealer => ⟨⟨sealer.state⟩, rfl⟩) supplied ?_ moves
      intro elsewhere
      exact portable elsewhere past _ middle split reached before (List.mem_of_getElem? stood)
  have settled := audible.settled connected
  have typed := typed_of_overheard
    (Hub.tasks_invariant talks_fresh Task.Talks.move ran task member).overheard
  obtain ⟨script, bytes, pending, wrote, scripted, buffered, sent⟩ := settled.wired typed
  cases settled.flushed.symm.trans buffered
  refine ⟨script, bytes, ?_, scripted, ?_⟩
  · rw [← sent, List.append_nil]
    rfl
  · rintro chunks rfl
    have fitting (entry : Entry (gcmPairing backend primitives.cipher lawful))
        (among : entry ∈ script) : Framable entry.payloadOf.bytes := by
      refine framable _ (scripted.payloads ▸ ?_)
      exact List.mem_map_of_mem among
    obtain ⟨running, packets, unread⟩ := wrote.received
      (show (gcmPairing backend primitives.cipher lawful).Keys none ({} : ReadState _).opener
        from trivial) rfl rfl fitting
    exact ⟨running, packets.trans scripted.payloads, unread⟩

def TaskStage.phase : TaskStage τ → Option (Phase τ)
  | .connected phase => some phase
  | _ => none

theorem TaskStage.connected_of_phase {stage : TaskStage τ} {phase : Phase τ}
    (stands : stage.phase = some phase) : stage = .connected phase := by
  cases stage with
  | connected other =>
      cases stands
      rfl
  | _ => cases stands

abbrev UptimeSealer := Aes128GcmSealer .awsLc plainPrimitives.cipher

abbrev UptimeOpener := Aes128GcmOpener .awsLc plainPrimitives.cipher

def uptimeServer : Server UptimeSealer UptimeOpener := commandServer uptimeOptions

theorem client_hears_login :
    ∃ (hub : Hub String UptimeSealer UptimeOpener Unit)
      (task : Task String UptimeSealer UptimeOpener Unit) (phase : Phase Unit)
      (script : List (Entry (gcmPairing .awsLc plainPrimitives.cipher identityCipher_lawful)))
      (bytes : Bytes),
      History.run (Hub.step uptimeServer false) {} login = some hub ∧
      task ∈ hub.tasks ∧ task.stage = .connected phase ∧
      spawnedWith task.link.log = [(some "uptime", [])] ∧
      task.link.conn.stream.sent = Connection.serverIdentification.encode ++ bytes ∧
      Scripted task.link.log script ∧
      (ReadState.receiveChunks {} script [bytes]).packets.map (fun packet =>
        packet.messageType.toByte :: packet.payload) = task.link.log.filterMap Act.payload := by
  have shown : (History.run (Hub.step uptimeServer false) {} login).bind
      (fun hub => hub.tasks[0]?.map fun task => (spawnedWith task.link.log,
        task.stage.phase.isSome,
        (task.link.log.filterMap Act.payload).all fun payload => Framable payload)) =
      some ([(some "uptime", [])], true, true) := by
    decide +kernel
  obtain ⟨hub, ran, shown⟩ := Option.bind_eq_some_iff.mp shown
  obtain ⟨task, found, shown⟩ := Option.map_eq_some_iff.mp shown
  obtain ⟨shells, rest⟩ := Prod.mk.inj shown
  obtain ⟨stage, sizes⟩ := Prod.mk.inj rest
  obtain ⟨phase, stands⟩ := Option.isSome_iff_exists.mp stage
  have connected := TaskStage.connected_of_phase stands
  have member := List.mem_of_getElem? found
  have unsent (stream : Stream) (addr : String) (secureRandom : SecureRandom)
      (arrived : .arrived stream addr secureRandom ∈ login) : stream.sent = [] := by
    simp [login] at arrived
    rw [arrived.1]
    rfl
  have framable (payload : Bytes) (among : payload ∈ task.link.log.filterMap Act.payload) :
      Framable payload := of_decide_eq_true (List.all_eq_true.mp sizes payload among)
  obtain ⟨script, bytes, sent, scripted, hears⟩ :=
    client_hears uptimeServer false login identityCipher_lawful rfl unsent
      (fun elsewhere => by cases elsewhere) ran member connected framable
  exact ⟨hub, task, phase, script, bytes, ran, member, connected, shells, sent, scripted,
    (hears [bytes] (by simp)).2.1⟩

end Result

end Oxish
