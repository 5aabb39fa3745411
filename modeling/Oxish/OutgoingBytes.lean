import Oxish.Lib.History
import Oxish.Lib.Pipe
import Oxish.Transcript

/-!
What a writer hands to the stream. Its buffer is a pipe: packets go in at the tail while the head
may already be on the wire, and the bytes handed on are those of the packets in their order. A
flush may be given up between any two writes; the next one continues where it stopped.
-/

namespace Oxish

open Stateful

variable {α σ ρ : Type}

namespace WriteState

def Carries (state : WriteState σ) (pipe : Pipe UInt8) : Prop :=
  state.buffered = some pipe.pending

theorem buffered_eq_some {state : WriteState σ} {pending : Bytes} :
    state.buffered = some pending ↔
      state.written ≤ state.buf.length ∧ state.buf.drop state.written = pending := by
  unfold buffered from?
  by_cases within : state.written ≤ state.buf.length
  · rw [if_pos within, Option.some.injEq]
    simp [within]
  · rw [if_neg within]
    simp [within]

theorem carries_empty {state : WriteState σ} (cleared : state.buf = [])
    (unwritten : state.written = 0) : state.Carries .empty := by
  apply buffered_eq_some.mpr
  rw [cleared, unwritten]
  exact ⟨Nat.le_refl _, rfl⟩

theorem Carries.encode [SealingKey σ] {state next : WriteState σ} {pipe : Pipe UInt8}
    (carries : state.Carries pipe) {payload : Bytes}
    (done : state.encode payload = (next, .ok ())) :
    next.Carries (pipe.accept (next.buf.drop state.buf.length)) := by
  have accepted := encode_accepts done
  obtain ⟨same, _⟩ := Prod.mk.inj done
  obtain ⟨appended, grown⟩ := encodeKx_grows state payload none
  rw [same] at grown
  have added : next.buf.drop state.buf.length = appended := by
    rw [grown, List.drop_left]
  rw [Carries, added, Pipe.pending_accept]
  exact buffered_append carries accepted.written grown

theorem recordWritten_pending {state : WriteState σ} {pending : Bytes} {count : Nat}
    (before : state.buffered = some pending) (some : 1 ≤ count) (enough : count ≤ pending.length) :
    ∃ next, state.recordWritten (.ok count) = (next, .ok ()) ∧
      next.buffered = .some (pending.drop count) := by
  obtain ⟨within, rfl⟩ := buffered_eq_some.mp before
  rw [List.length_drop] at enough
  have nonzero : ¬ count = 0 := by omega
  simp only [recordWritten, if_neg nonzero]
  by_cases full : state.written + count = state.buf.length
  · rw [if_pos full]
    refine ⟨_, rfl, ?_⟩
    have rest : (state.buf.drop state.written).drop count = [] := by
      rw [List.drop_drop, full, List.drop_length]
    rw [rest]
    rfl
  · rw [if_neg full]
    refine ⟨_, rfl, buffered_eq_some.mpr ⟨?_, ?_⟩⟩
    · change state.written + count ≤ state.buf.length
      omega
    · rw [List.drop_drop]

end WriteState

section Traffic

inductive WriteStep (σ : Type) where
  | encode (payload : Bytes)
  | written (count : Nat)
  | rekeyed (sealer : Option σ) (sequenceNumber : UInt32)

structure Traffic (σ : Type) where
  state : WriteState σ
  packets : List Bytes := []
  handed : Bytes := []

variable [SealingKey σ]

/-- A call that succeeds. The stream takes at least one byte and no more than it was offered. -/
def Traffic.step (traffic : Traffic σ) : WriteStep σ → Option (Traffic σ)
  | .encode payload =>
    match traffic.state.encode payload with
    | (next, .ok ()) =>
      some { traffic with
        state := next
        packets := traffic.packets ++ [next.buf.drop traffic.state.buf.length] }
    | (_, .error _) => none
  | .written count =>
    match traffic.state.buffered with
    | none => none
    | some bytes =>
      if 1 ≤ count ∧ count ≤ bytes.length then
        match traffic.state.recordWritten (.ok count) with
        | (next, .ok ()) =>
          some { traffic with state := next, handed := traffic.handed ++ bytes.take count }
        | (_, .error _) => none
      else none
  | .rekeyed sealer sequenceNumber =>
    some { traffic with state := { traffic.state with sealer, sequenceNumber } }

structure Traffic.Piped (traffic : Traffic σ) (pipe : Pipe UInt8) : Prop where
  carries : traffic.state.Carries pipe
  taken : pipe.taken = traffic.packets.flatten
  handed : pipe.handed = traffic.handed

theorem Traffic.step_piped {traffic next : Traffic σ} {pipe : Pipe UInt8} {step : WriteStep σ}
    (piped : traffic.Piped pipe) (stepped : traffic.step step = some next) :
    ∃ later, next.Piped later := by
  cases step with
  | encode payload =>
      simp only [Traffic.step] at stepped
      split at stepped
      · rename_i state done
        cases stepped
        refine ⟨_, piped.carries.encode done, ?_, ?_⟩
        · rw [List.flatten_append, List.flatten_singleton, ← piped.taken]
          rfl
        · rw [Pipe.handed_accept]
          exact piped.handed
      · cases stepped
  | written count =>
      have pending : traffic.state.buffered = some pipe.pending := piped.carries
      simp only [Traffic.step, pending] at stepped
      split at stepped
      · rename_i range
        obtain ⟨state, recorded, left⟩ :=
          WriteState.recordWritten_pending piped.carries range.1 range.2
        rw [recorded] at stepped
        cases stepped
        refine ⟨pipe.hand count range.2, ?_, piped.taken, ?_⟩
        · rw [WriteState.Carries, Pipe.pending_hand]
          exact left
        · rw [Pipe.handed_hand, piped.handed]
      · cases stepped
  | rekeyed sealer sequenceNumber =>
      cases stepped
      exact ⟨pipe, piped.carries, piped.taken, piped.handed⟩

theorem Traffic.run_piped {start last : Traffic σ} {pipe : Pipe UInt8} (piped : start.Piped pipe)
    {steps : List (WriteStep σ)} (ran : History.run Traffic.step start steps = some last) :
    ∃ later, last.Piped later := by
  refine @History.run_invariant _ _ _ start (fun _ traffic => ∃ pipe, traffic.Piped pipe)
    ⟨pipe, piped⟩ ?_ _ _ ran
  rintro _ traffic step next _ ⟨pipe, piped⟩ stepped
  exact Traffic.step_piped piped stepped

end Traffic

section Flushing

def Contracted : Nat → List (Except IoError Nat) → Prop
  | pending, .ok count :: writes => count ≤ pending ∧ Contracted (pending - count) writes
  | _, _ => True

/-- How a flush ends. Nothing is lost: what was pending is sent or still buffered. It succeeds
when everything is sent, fails with an error of the stream, or waits because the stream has not
answered; every answer so far has taken at least one byte. -/
def Flushed (conn : Connection α σ ρ) (pending : Bytes)
    (outcome : Except Halt Unit × Connection α σ ρ) : Prop :=
  ∃ left, outcome.2.write.buffered = some left ∧
    outcome.2.stream.sent ++ left = conn.stream.sent ++ pending ∧
    match outcome.1 with
    | .ok () => left = []
    | .error (.stopped (.error error)) => ∃ cause, error = .io cause
    | .error (.stopped (.panic _)) => False
    | .error .pending =>
      (left = [] ∧ outcome.2.stream.flushes = []) ∨
        (outcome.2.stream.writes = [] ∧ conn.stream.writes.length + left.length ≤ pending.length)

namespace Connection

theorem exec_buffered {conn : Connection α σ ρ} {pending : Bytes}
    (before : conn.write.buffered = some pending) :
    exec buffered conn = (.ok pending, conn) := by
  rw [buffered, exec_mk, before]

theorem pollFlush_flushed {conn : Connection α σ ρ} (before : conn.write.buffered = some []) :
    Flushed conn [] (exec pollFlush conn) := by
  rw [pollFlush, exec_mk]
  split
  · rename_i unanswered
    exact ⟨[], before, rfl, .inl ⟨rfl, unanswered⟩⟩
  · dsimp only
    split
    · exact ⟨[], before, rfl, _, rfl⟩
    · exact ⟨[], before, rfl, rfl⟩

theorem exec_pollWrite (conn : Connection α σ ρ) (bytes : Bytes) :
    exec (pollWrite bytes) conn =
      match conn.stream.writes with
      | [] => (.error .pending, conn)
      | .error error :: writes =>
        (.error (.stopped (.error (.io error))),
          { conn with stream := { conn.stream with writes } })
      | .ok count :: writes =>
        (.ok count, { conn with
          stream := { conn.stream with writes, sent := conn.stream.sent ++ bytes.take count } }) :=
  rfl

theorem exec_recordWritten (conn : Connection α σ ρ) (count : Nat) :
    exec (recordWritten count) conn =
      match conn.write.recordWritten (.ok count) with
      | (write, .ok ()) => (.ok (), { conn with write })
      | (write, .error error) => (.error (.stopped (.error (.io error))), { conn with write }) :=
  rfl

theorem Flushed.behind_write {conn : Connection α σ ρ} {pending : Bytes} {count : Nat}
    {writes : List (Except IoError Nat)} {write : WriteState σ}
    {ran : Except Halt Unit × Connection α σ ρ} (some : 1 ≤ count)
    (within : count ≤ pending.length) (answers : conn.stream.writes = .ok count :: writes)
    (rest : Flushed { conn with
      stream := { conn.stream with writes, sent := conn.stream.sent ++ pending.take count }
      write } (pending.drop count) ran) : Flushed conn pending ran := by
  obtain ⟨outcome, last⟩ := ran
  obtain ⟨left, buffered, total, ended⟩ := rest
  refine ⟨left, buffered, ?_, ?_⟩
  · rw [total, List.append_assoc, List.take_append_drop]
  · cases outcome with
    | ok value => exact ended
    | error halt =>
        cases halt with
        | stopped stop =>
            cases stop with
            | error error => exact ended
            | panic site => exact ended
        | pending =>
            refine ended.imp_right fun waits => ⟨waits.1, ?_⟩
            have bound : writes.length + left.length ≤ (pending.drop count).length := waits.2
            rw [List.length_drop] at bound
            rw [answers, List.length_cons]
            omega

theorem flushFor_flushed {rounds : Nat} {conn : Connection α σ ρ} {pending : Bytes}
    (before : conn.write.buffered = some pending)
    (contract : Contracted pending.length conn.stream.writes)
    (enough : conn.stream.writes.length < rounds) :
    Flushed conn pending (exec (flushFor rounds) conn) := by
  induction rounds generalizing conn pending with
  | zero => omega
  | succ rounds ih =>
      rw [flushFor, exec_bind, exec_buffered before]
      cases pending with
      | nil => exact pollFlush_flushed before
      | cons first others =>
          dsimp only
          rw [exec_bind, exec_pollWrite]
          cases answers : conn.stream.writes with
          | nil =>
              refine ⟨_, before, rfl, .inr ⟨answers, ?_⟩⟩
              have none : conn.stream.writes.length = 0 := by
                rw [answers]
                rfl
              omega
          | cons answer writes =>
              rw [answers] at contract enough
              rw [List.length_cons] at enough
              cases answer with
              | error cause => exact ⟨_, before, rfl, cause, rfl⟩
              | ok count =>
                  obtain ⟨within, rest⟩ := contract
                  dsimp only
                  rw [exec_bind, exec_recordWritten]
                  by_cases none : count = 0
                  · -- A write of nothing is an error of its own.
                    subst none
                    have refused : conn.write.recordWritten (.ok 0) = (conn.write,
                      .error ⟨.writeZero, "failed to write buffered data"⟩) := rfl
                    rw [refused, List.take_zero, List.append_nil]
                    exact ⟨first :: others, before, rfl, _, rfl⟩
                  · obtain ⟨write, recorded, left⟩ :=
                      WriteState.recordWritten_pending before (by omega) within
                    dsimp only
                    rw [recorded]
                    refine Flushed.behind_write (by omega) within answers (ih left ?_ ?_)
                    · rw [List.length_drop]
                      exact rest
                    · change writes.length < rounds
                      omega

theorem flush_flushed {conn : Connection α σ ρ} {pending : Bytes}
    (before : conn.write.buffered = some pending)
    (contract : Contracted pending.length conn.stream.writes) :
    Flushed conn pending (exec flush conn) :=
  flushFor_flushed before contract (Nat.lt_succ_self _)

end Connection

end Flushing

/-- Whatever packets are encoded and however the stream takes them, nothing of what is handed to
the stream is lost or sent twice, and a flush ends with everything sent unless the stream fails or
does not answer. -/
theorem outgoing_bytes_in_order [SealingKey σ] (stream : Stream) (addr : α)
    (secureRandom : SecureRandom) {exchange : HandshakeBuffer} {identities : Identities}
    {conn : Connection α σ ρ}
    (identifies : exec Connection.identify (.new stream addr secureRandom) =
      (.ok (exchange, identities), conn))
    (steps : List (WriteStep σ)) {last : Traffic σ}
    (ran : History.run Traffic.step { state := conn.write } steps = some last) :
    last.state.written ≤ last.state.buf.length ∧
      ∃ pending, last.state.buffered = some pending ∧
        last.handed ++ pending = last.packets.flatten ∧
        ∀ later : Connection α σ ρ, later.write = last.state →
          Contracted pending.length later.stream.writes →
          Flushed later pending (exec Connection.flush later) := by
  obtain ⟨_, _, same, _⟩ := Connection.identify_ok rfl identifies
  have start : ({ state := conn.write } : Traffic σ).Piped .empty := by
    refine ⟨WriteState.carries_empty ?_ ?_, rfl, rfl⟩
    · rw [same]
      rfl
    · rw [same]
      rfl
  obtain ⟨pipe, piped⟩ := Traffic.run_piped start ran
  refine ⟨(WriteState.buffered_eq_some.mp piped.carries).1, pipe.pending, piped.carries, ?_, ?_⟩
  · rw [← piped.handed, ← piped.taken]
    exact pipe.handed_pending
  · intro later writer contract
    have before : later.write.buffered = some pipe.pending := writer ▸ piped.carries
    exact Connection.flush_flushed before contract

section Clients

def partialSteps : List (WriteStep PlainSealer) :=
  [.encode (Ignore.encode {}), .written 5, .encode NewKeys.encode, .written 20]

def partialTraffic : Option (Traffic PlainSealer) :=
  History.run Traffic.step { state := WriteState.new plainProvider.secureRandom } partialSteps

theorem outgoing_bytes_in_order_partial :
    ∃ last, partialTraffic = some last ∧ last.handed.length = 25 ∧
      last.packets.map List.length = [16, 16] ∧
      ∃ pending, last.state.buffered = some pending ∧
        last.handed ++ pending = last.packets.flatten := by
  have lengths : partialTraffic.map (fun last => (last.handed.length,
      last.packets.map List.length)) = some (25, [16, 16]) := by decide
  obtain ⟨last, ran, sizes⟩ := Option.map_eq_some_iff.mp lengths
  obtain ⟨handed, packets⟩ := Prod.mk.inj sizes
  obtain ⟨exchange, identified, identifies⟩ := plainStream_identified
  obtain ⟨_, _, writer, _⟩ := Connection.identify_ok rfl identifies
  have started : History.run Traffic.step { state := identified.write } partialSteps =
      some last := by
    rw [writer]
    exact ran
  obtain ⟨_, pending, buffered, whole, _⟩ :=
    outgoing_bytes_in_order plainStream "192.0.2.1:22" plainProvider.secureRandom identifies
      partialSteps started
  exact ⟨last, ran, handed, packets, pending, buffered, whole⟩

end Clients

end Oxish
