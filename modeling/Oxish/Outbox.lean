import Oxish.OutboxCore
import Oxish.PacketEncoding

/-!
How the steps of a handler run: a value that may be an error, and a message that is encoded.
-/

namespace Oxish

open Stateful

variable {σ μ ε α β : Type}

@[simp] theorem exec_attempt (outcome : Except ε α) (outbox : Outbox σ μ) :
    exec (attempt outcome : Emit σ μ ε α) outbox = (raise outcome, outbox) := rfl

@[simp] theorem exec_attemptOrPanic (outcome : Except (Stop ε) α) (outbox : Outbox σ μ) :
    exec (attemptOrPanic outcome : Emit σ μ ε α) outbox = (outcome, outbox) := rfl

theorem exec_attempt_error {outcome : Except ε α} {error : ε} (failed : outcome = .error error)
    (next : α → Emit σ μ ε β) (outbox : Outbox σ μ) :
    exec (attempt outcome >>= next) outbox = (.error (.error error), outbox) := by
  subst failed
  exact exec_bind_error.mpr (Or.inl rfl)

theorem exec_attempt_ok {outcome : Except ε α} {next : α → Emit σ μ ε β}
    {outbox last : Outbox σ μ} {result : β} :
    exec (attempt outcome >>= next) outbox = (.ok result, last) ↔
      ∃ value, outcome = .ok value ∧ exec (next value) outbox = (.ok result, last) := by
  rw [exec_bind_ok]
  simp only [exec_attempt, Prod.mk.injEq, raise_eq_ok]
  constructor
  · rintro ⟨value, middle, ⟨done, rfl⟩, rest⟩
    exact ⟨value, done, rest⟩
  · rintro ⟨value, done, rest⟩
    exact ⟨value, outbox, ⟨done, rfl⟩, rest⟩

theorem exec_attempt_stop {outcome : Except ε α} {next : α → Emit σ μ ε β}
    {outbox last : Outbox σ μ} {stop : Stop ε}
    (stopped : exec (attempt outcome >>= next) outbox = (.error stop, last)) :
    (∃ cause, outcome = .error cause ∧ stop = .error cause) ∨
      ∃ value, outcome = .ok value ∧ exec (next value) outbox = (.error stop, last) := by
  cases outcome with
  | ok value =>
      rcases exec_bind_error.mp stopped with failed | ⟨other, middle, done, rest⟩
      · cases failed
      · cases done
        exact Or.inr ⟨value, rfl, rest⟩
  | error cause =>
      rw [exec_attempt_error rfl] at stopped
      cases stopped
      exact Or.inl ⟨cause, rfl, rfl⟩

theorem Outbox.encode_ok [SealingKey σ] [Encode μ] {outbox last : Outbox σ μ}
    {embed : ProtoError → ε} {message : μ} (done : outbox.encode embed message = (.ok (), last)) :
    last.sent = outbox.sent ++ [message] ∧
      outbox.write.encode (Encode.encode message) = (last.write, .ok ()) := by
  unfold Outbox.encode at done
  split at done
  · rename_i write written
    cases done
    exact ⟨rfl, written⟩
  · cases done

theorem Outbox.encode_error [SealingKey σ] [Encode μ] {outbox last : Outbox σ μ}
    {embed : ProtoError → ε} {message : μ} {stop : Stop ε}
    (failed : outbox.encode embed message = (.error stop, last)) :
    last.sent = outbox.sent ∧ (outbox.write.encode (Encode.encode message)).2 ≠ .ok () := by
  unfold Outbox.encode at failed
  split at failed
  · cases failed
  · rename_i write cause written
    cases failed
    refine ⟨rfl, ?_⟩
    rw [written]
    intro done
    cases done

theorem exec_emit [SealingKey σ] [Encode μ] (embed : ProtoError → ε) (message : μ)
    (outbox : Outbox σ μ) :
    exec (emit embed message) outbox = outbox.encode embed message := rfl

theorem emitKx_ok [SealingKey σ] {payload : Bytes} {exchange fed : HandshakeHash}
    {outbox last : Outbox σ Bytes}
    (done : exec (emitKx payload exchange) outbox = (.ok fed, last)) :
    last.sent = outbox.sent ++ [payload] ∧
      outbox.write.encode payload = (last.write, .ok ()) ∧ fed = exchange.prefixed payload := by
  change outbox.encodeKx payload exchange = _ at done
  unfold Outbox.encodeKx at done
  dsimp only at done
  split at done
  · rename_i accepted
    have kept := WriteState.encodeKx_prefixed accepted
    rw [kept] at done
    cases done
    refine ⟨rfl, ?_, rfl⟩
    rw [WriteState.encodeKx_aside _ _ (some exchange), accepted]
  · cases done

section Writing

variable [SealingKey σ]

def Outbox.Writes (before after : Outbox σ μ) : Prop :=
  ∃ payload, before.write.encode payload = (after.write, .ok ())

omit [SealingKey σ] in
theorem within_attemptOrPanic {step : Outbox σ μ → Outbox σ μ → Prop}
    (outcome : Except (Stop ε) α) : Within step (attemptOrPanic outcome : Emit σ μ ε α) := by
  intro outbox value last done
  obtain ⟨_, rfl⟩ := Prod.mk.inj done
  exact .refl

theorem emit_writes [Encode μ] (embed : ProtoError → ε) (message : μ) :
    Within Outbox.Writes (emit embed message : Emit σ μ ε Unit) := by
  intro outbox value last done
  exact .single ⟨_, (Outbox.encode_ok done).2⟩

end Writing

section Programs

variable [SealingKey σ]

inductive EmitPrimitive [Encode μ] : ∀ α : Type, Emit σ μ ε α → Prop
  | decided {α : Type} (outcome : Except (Stop ε) α) : EmitPrimitive α (attemptOrPanic outcome)
  | emitted (embed : ProtoError → ε) (message : μ) : EmitPrimitive Unit (emit embed message)

abbrev EmitBuilt [Encode μ] (program : Emit σ μ ε α) : Prop := Built EmitPrimitive program

theorem EmitBuilt.writes [Encode μ] {program : Emit σ μ ε α} (built : EmitBuilt program) :
    Within Outbox.Writes program := by
  apply Built.within built
  intro α program is
  cases is with
  | decided outcome => exact within_attemptOrPanic outcome
  | emitted embed message => exact emit_writes embed message

theorem attempt_built [Encode μ] (outcome : Except ε α) :
    EmitBuilt (attempt outcome : Emit σ μ ε α) :=
  .primitive (.decided (raise outcome))

theorem attemptOrPanic_built [Encode μ] (outcome : Except (Stop ε) α) :
    EmitBuilt (attemptOrPanic outcome : Emit σ μ ε α) :=
  .primitive (.decided outcome)

theorem emit_built [Encode μ] (embed : ProtoError → ε) (message : μ) :
    EmitBuilt (emit embed message : Emit σ μ ε Unit) :=
  .primitive (.emitted embed message)

theorem stopInto_id (stop : Stop ProtoError) : stopInto id stop = stop := by
  cases stop with
  | error cause => rfl
  | panic site => rfl

theorem emit_stop {payload : Bytes} {outbox last : Outbox σ Bytes} {stop : Stop ProtoError}
    (stopped : exec (emit id payload) outbox = (.error stop, last)) :
    (outbox.write.encode payload).2 = .error stop := by
  rw [exec_emit] at stopped
  unfold Outbox.encode at stopped
  split at stopped
  · cases stopped
  · rename_i write cause written
    cases stopped
    rw [stopInto_id]
    exact congrArg Prod.snd written

theorem emitKx_eq (payload : Bytes) (exchange : HandshakeHash) :
    (emitKx payload exchange : Emit σ Bytes ProtoError HandshakeHash) =
      emit id payload >>= fun _ => pure (exchange.prefixed payload) := by
  apply ExceptT.ext
  funext outbox
  change outbox.encodeKx payload exchange = exec (emit id payload >>= _) outbox
  rw [exec_bind, exec_emit]
  unfold Outbox.encodeKx Outbox.encode
  rw [show outbox.write.encode (Encode.encode payload) = _ from
    WriteState.encodeKx_aside outbox.write payload (some exchange)]
  dsimp only
  cases accepted : (outbox.write.encodeKx payload (some exchange)).result with
  | ok value =>
      rw [WriteState.encodeKx_prefixed accepted]
      rfl
  | error stop => simp only [stopInto_id]

theorem emitKx_built (payload : Bytes) (exchange : HandshakeHash) :
    EmitBuilt (emitKx payload exchange : Emit σ Bytes ProtoError HandshakeHash) := by
  rw [emitKx_eq]
  exact (emit_built id payload).bind fun _ => .pure _

end Programs

end Oxish
