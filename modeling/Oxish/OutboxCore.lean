import Oxish.IoCore
import Oxish.Lib.Stateful

/-!
The outgoing side as a protocol handler sees it: the write state, together with the history
of the messages it has encoded. The history is bookkeeping for statements about a handler and
is never read by one. A handler that returns an error keeps what it had written before.
-/

namespace Oxish

class Encode (μ : Type) where
  encode : μ → Bytes

instance : Encode Bytes where
  encode payload := payload

structure Outbox (σ μ : Type) where
  write : WriteState σ
  sent : List μ := []

abbrev Emit (σ μ ε α : Type) := Stateful.Run (Stop ε) (Outbox σ μ) α

variable {σ μ ε α : Type}

def stopInto (embed : ProtoError → ε) : Stop ProtoError → Stop ε
  | .error error => .error (embed error)
  | .panic site => .panic site

def Outbox.encode [SealingKey σ] [Encode μ] (outbox : Outbox σ μ) (embed : ProtoError → ε)
    (message : μ) : Except (Stop ε) Unit × Outbox σ μ :=
  match outbox.write.encode (Encode.encode message) with
  | (write, .ok ()) => (.ok (), { write, sent := outbox.sent ++ [message] })
  | (write, .error stop) => (.error (stopInto embed stop), { outbox with write })

def emit [SealingKey σ] [Encode μ] (embed : ProtoError → ε) (message : μ) : Emit σ μ ε Unit :=
  ExceptT.mk fun outbox => outbox.encode embed message

def Outbox.encodeKx [SealingKey σ] (outbox : Outbox σ Bytes) (payload : Bytes)
    (exchange : HandshakeHash) : Except (Stop ProtoError) HandshakeHash × Outbox σ Bytes :=
  let encoding := outbox.write.encodeKx payload (some exchange)
  match encoding.result with
  | .ok () =>
    (.ok (encoding.exchangeHash.getD exchange),
      { write := encoding.state, sent := outbox.sent ++ [payload] })
  | .error stop => (.error stop, { outbox with write := encoding.state })

def emitKx [SealingKey σ] (payload : Bytes) (exchange : HandshakeHash) :
    Emit σ Bytes ProtoError HandshakeHash :=
  ExceptT.mk fun outbox => outbox.encodeKx payload exchange

def attempt (outcome : Except ε α) : Emit σ μ ε α := ExceptT.mk fun outbox => (raise outcome, outbox)

def attemptOrPanic (outcome : Except (Stop ε) α) : Emit σ μ ε α :=
  ExceptT.mk fun outbox => (outcome, outbox)

end Oxish
