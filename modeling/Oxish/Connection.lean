import Oxish.ConnectionCore
import Oxish.KeyExchangeRuns
import Oxish.Lib.Stateful
import Oxish.PacketReading

/-!
What the steps of a connection do when they return: one lemma for each step, and the loops by
induction over their rounds.
-/

namespace Oxish

open Stateful

variable {α σ ρ β : Type}

namespace Drive

theorem catching_ok {step : Drive α σ ρ β} {conn last : Connection α σ ρ} {value : β}
    (done : exec (catching step) conn = (.ok (.ok value), last)) :
    exec step conn = (.ok value, last) := by
  rw [catching, exec_mk] at done
  split at done
  · rename_i ran
    cases done
    exact ran
  · cases done
  · cases done

end Drive

theorem WriteState.recordWritten_sealer {state next : WriteState σ} {count : Nat}
    {outcome : Except IoError Unit} (recorded : state.recordWritten (.ok count) = (next, outcome)) :
    next.sealer = state.sealer := by
  unfold WriteState.recordWritten at recorded
  dsimp only at recorded
  split at recorded
  · cases recorded
    rfl
  · split at recorded
    · cases recorded
      rfl
    · cases recorded
      rfl

namespace Connection

section Reading

theorem buffer_ok {conn last : Connection α σ ρ} {value : Unit}
    (done : exec buffer conn = (.ok value, last)) :
    ∃ bytes reads, conn.stream.reads = .ok bytes :: reads ∧
      last = { conn with
        stream := { conn.stream with reads }
        read := { conn.read with buf := conn.read.buf ++ bytes } } := by
  rw [buffer, exec_mk] at done
  split at done
  · cases done
  · rename_i outcome reads found
    dsimp only at done
    split at done
    · cases done
    · cases done
    · rename_i bytes _
      cases done
      exact ⟨bytes, reads, found, rfl⟩

variable [OpeningKey ρ]

theorem pollPacket_ok {conn last : Connection α σ ρ} {completion : Completion (UInt32 × PacketLength)}
    (done : exec pollPacket conn = (.ok completion, last)) :
    { conn with read := conn.read.pollPacket.1 } = last ∧
      (∀ found, completion = .complete found →
        conn.read.pollPacket.2 = .ok (.complete found)) ∧
      (∀ amount, completion = .incomplete amount →
        ReadState.needsMore conn.read.pollPacket.2 = true) := by
  rw [pollPacket, exec_mk] at done
  dsimp only at done
  split at done
  · rename_i polled
    cases done
    refine ⟨rfl, ?_, ?_⟩
    · intro found complete
      rw [polled, complete]
    · intro amount incomplete
      rw [polled, incomplete, ReadState.needsMore]
  · rename_i amount polled
    cases done
    refine ⟨rfl, ?_, ?_⟩
    · intro found complete
      cases complete
    · intro _ _
      rw [polled, ReadState.needsMore]
  · cases done

omit [OpeningKey ρ] in
theorem decodePacket_ok {conn last : Connection α σ ρ} {number : UInt32} {length : PacketLength}
    {packet : IncomingPacket}
    (done : exec (decodePacket number length) conn = (.ok packet, last)) :
    conn = last ∧ conn.read.decodePacket number length = .ok packet := by
  rw [decodePacket, exec_mk] at done
  split at done
  · rename_i decoded
    cases done
    exact ⟨rfl, decoded⟩
  · cases done

end Reading

section Writing

theorem buffered_ok {conn last : Connection α σ ρ} {bytes : Bytes}
    (done : exec buffered conn = (.ok bytes, last)) :
    conn = last ∧ conn.write.buffered = some bytes := by
  rw [buffered, exec_mk] at done
  split at done
  · cases done
  · rename_i found
    cases done
    exact ⟨rfl, found⟩

theorem pollWrite_ok {conn last : Connection α σ ρ} {bytes : Bytes} {count : Nat}
    (done : exec (pollWrite bytes) conn = (.ok count, last)) :
    ∃ writes, conn.stream.writes = .ok count :: writes ∧
      { conn with
        stream := { conn.stream with writes, sent := conn.stream.sent ++ bytes.take count } } =
          last := by
  rw [pollWrite, exec_mk] at done
  split at done
  · cases done
  · cases done
  · rename_i count writes found
    cases done
    exact ⟨writes, found, rfl⟩

theorem recordWritten_ok {conn last : Connection α σ ρ} {count : Nat} {value : Unit}
    (done : exec (recordWritten count) conn = (.ok value, last)) :
    ∃ write, conn.write.recordWritten (.ok count) = (write, .ok ()) ∧
      { conn with write } = last := by
  rw [recordWritten, exec_mk] at done
  split at done
  · rename_i write recorded
    cases done
    exact ⟨write, recorded, rfl⟩
  · cases done

theorem pollFlush_ok {conn last : Connection α σ ρ} {value : Unit}
    (done : exec pollFlush conn = (.ok value, last)) :
    ∃ flushes, conn.stream.flushes = .ok () :: flushes ∧
      { conn with stream := { conn.stream with flushes } } = last := by
  rw [pollFlush, exec_mk] at done
  split at done
  · cases done
  · rename_i flushes answers
    dsimp only at done
    split at done
    · cases done
    · cases done
      exact ⟨flushes, answers, rfl⟩

theorem encode_ok [SealingKey σ] {conn last : Connection α σ ρ} {payload : Bytes} {value : Unit}
    (done : exec (encode payload) conn = (.ok value, last)) :
    ∃ write, conn.write.encode payload = (write, .ok ()) ∧ { conn with write } = last := by
  rw [encode, exec_mk] at done
  split at done
  · rename_i write encoded
    cases done
    exact ⟨write, encoded, rfl⟩
  · cases done

end Writing

section Moving

variable [SealingKey σ] [OpeningKey ρ]

/-- What receiving, encoding and flushing do to a connection, one step at a time. -/
inductive Move : Connection α σ ρ → Connection α σ ρ → Prop
  | waited {conn bytes reads} (hungry : ReadState.needsMore conn.read.pollPacket.2 = true)
      (arrived : conn.stream.reads = .ok bytes :: reads) :
      Move conn { conn with
        stream := { conn.stream with reads }
        read := conn.read.pollPacket.1.extend bytes }
  | completed {conn found} (polled : conn.read.pollPacket.2 = .ok (.complete found)) :
      Move conn { conn with read := conn.read.pollPacket.1 }
  | wrote {conn bytes count writes write} (pending : conn.write.buffered = some bytes)
      (taken : conn.stream.writes = .ok count :: writes)
      (recorded : conn.write.recordWritten (.ok count) = (write, .ok ())) :
      Move conn { conn with
        stream := { conn.stream with writes, sent := conn.stream.sent ++ bytes.take count }
        write }
  | flushed {conn} (flushes : List (Except IoError Unit)) :
      Move conn { conn with stream := { conn.stream with flushes } }
  | encoded {conn payload write} (written : conn.write.encode payload = (write, .ok ())) :
      Move conn { conn with write }

abbrev Moves : Connection α σ ρ → Connection α σ ρ → Prop := Relation.ReflTransGen Move

theorem receiveFor_moves (rounds : Nat) : Within Move (receiveFor rounds : Drive α σ ρ _) := by
  induction rounds with
  | zero => exact within_throw _
  | succ rounds ih =>
      intro conn packet last done
      unfold receiveFor at done
      obtain ⟨completion, polled, poll, done⟩ := exec_bind_ok.mp done
      obtain ⟨rfl, complete, incomplete⟩ := pollPacket_ok poll
      cases completion with
      | complete found =>
          obtain ⟨rfl, _⟩ := decodePacket_ok done
          exact .single (.completed (complete found rfl))
      | incomplete amount =>
          obtain ⟨_, extended, read, done⟩ := exec_bind_ok.mp done
          obtain ⟨bytes, reads, arrived, rfl⟩ := buffer_ok read
          exact .head (.waited (incomplete amount rfl) arrived) (ih done)

theorem receive_moves : Within Move (receive : Drive α σ ρ _) := by
  intro conn packet last done
  exact receiveFor_moves _ done

theorem flushFor_moves (rounds : Nat) : Within Move (flushFor rounds : Drive α σ ρ _) := by
  induction rounds with
  | zero => exact within_throw _
  | succ rounds ih =>
      intro conn value last done
      unfold flushFor at done
      obtain ⟨bytes, _, look, done⟩ := exec_bind_ok.mp done
      obtain ⟨rfl, pending⟩ := buffered_ok look
      split at done
      · obtain ⟨flushes, _, rfl⟩ := pollFlush_ok done
        exact .single (.flushed flushes)
      · obtain ⟨count, _, polled, done⟩ := exec_bind_ok.mp done
        obtain ⟨writes, taken, rfl⟩ := pollWrite_ok polled
        obtain ⟨_, _, record, done⟩ := exec_bind_ok.mp done
        obtain ⟨write, recorded, rfl⟩ := recordWritten_ok record
        exact .head (.wrote pending taken recorded) (ih done)

theorem flush_moves : Within Move (flush : Drive α σ ρ _) := by
  intro conn value last done
  exact flushFor_moves _ done

omit [SealingKey σ] [OpeningKey ρ] in
theorem flushFor_empty (rounds : Nat) {conn last : Connection α σ ρ} {value : Unit}
    (done : exec (flushFor rounds) conn = (.ok value, last)) : last.write.buffered = some [] := by
  induction rounds generalizing conn with
  | zero => cases done
  | succ rounds ih =>
      unfold flushFor at done
      obtain ⟨bytes, _, look, done⟩ := exec_bind_ok.mp done
      obtain ⟨rfl, pending⟩ := buffered_ok look
      split at done
      · obtain ⟨flushes, _, rfl⟩ := pollFlush_ok done
        exact pending
      · obtain ⟨count, polled, _, done⟩ := exec_bind_ok.mp done
        obtain ⟨_, recorded, _, done⟩ := exec_bind_ok.mp done
        exact ih done

omit [SealingKey σ] [OpeningKey ρ] in
theorem flush_empty {conn last : Connection α σ ρ} {value : Unit}
    (done : exec flush conn = (.ok value, last)) : last.write.buffered = some [] :=
  flushFor_empty (conn.stream.writes.length + 1) done

theorem encode_moves (payload : Bytes) : Within Move (encode payload : Drive α σ ρ _) := by
  intro conn value last done
  obtain ⟨write, written, rfl⟩ := encode_ok done
  exact .single (.encoded written)

theorem moves_of_writes {μ : Type} (conn : Connection α σ ρ)
    {outbox last : Outbox σ μ} (same : conn.write = outbox.write)
    (writes : Relation.ReflTransGen Outbox.Writes outbox last) :
    Moves conn { conn with write := last.write } := by
  induction writes with
  | refl => rw [← same]
  | @tail before after _ step ih =>
      obtain ⟨payload, written⟩ := step
      have move : Move { conn with write := before.write } { conn with write := after.write } :=
        .encoded written
      exact ih.tail move

end Moving

end Connection

end Oxish
