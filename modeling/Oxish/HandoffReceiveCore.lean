import Oxish.HandoffCore

/-!
How the state of a session gets to its process. The listening process sends one message over a
socket, a length and the encoded state, together with the descriptor of the connection; the other
end collects it from however many deliveries it arrives in.
-/

namespace Oxish

/-- The message that `spawn` sends: four bytes are kept free and filled in afterwards. -/
def handoffMessage (payload : Bytes) : Bytes :=
  let message := [0, 0, 0, 0] ++ payload
  let payloadLen := UInt32.ofNat (message.length - 4)
  encodeU32 payloadLen ++ message.drop 4

/-- What one call of `recvmsg` puts into the chunk, and the descriptors in its control messages. -/
structure Delivery where
  data : Bytes
  rights : List (List Stream) := []

def Delivery.chunkLen : Nat := 16384

structure Receiving where
  length : Option Nat := none
  received : Bytes := []
  tcp : Option Stream := none

inductive Accepted
  | more (state : Receiving)
  | whole (state : Receiving)

/-- The descriptor that is kept: the first that comes. -/
def Receiving.descriptor (state : Receiving) (delivery : Delivery) : Option Stream :=
  delivery.rights.foldl (fun tcp fds => if tcp.isNone then fds.head? else tcp) state.tcp

/-- One round of the loop in `resume`. -/
def Receiving.accept (state : Receiving) (delivery : Delivery) : Except Error Accepted :=
  let buffered := delivery.data
  if Delivery.chunkLen < buffered.length then
    .error (.invalidState "invalid message length received")
  else if buffered.isEmpty then
    .error (.io { kind := .unexpectedEof, message := "EOF while receiving handoff message" })
  else
    let state := { state with tcp := state.descriptor delivery }
    match state.length with
    | some len =>
      match compare (state.received.length + buffered.length) len with
      | .gt => .error (.invalidState "received more bytes than expected")
      | .eq => .ok (.whole { state with received := state.received ++ buffered })
      | .lt => .ok (.more { state with received := state.received ++ buffered })
    | none =>
      match splitFirstChunk 4 buffered with
      | some (len, rest) =>
        let len := BigEndian.decode len.val
        let state := { state with length := some len, received := state.received ++ rest }
        match compare state.received.length len with
        | .gt => .error (.invalidState "received more bytes than expected")
        | .eq => .ok (.whole state)
        | .lt => .ok (.more state)
      | none => .error (.invalidState "received fewer than 4 bytes for length prefix")

/-- The loop waits for another delivery, or it has ended and some deliveries were not taken. -/
inductive Reception
  | waiting (state : Receiving)
  | ended (state : Receiving) (later : List (Except IoError Delivery))

def Receiving.run : Receiving → List (Except IoError Delivery) → Except Error Reception
  | state, [] => .ok (.waiting state)
  | _, .error error :: _ => .error (.io error)
  | state, .ok delivery :: later =>
    match state.accept delivery with
    | .error error => .error error
    | .ok (.more next) => next.run later
    | .ok (.whole last) => .ok (.ended last later)

/-- `resume` from its first line: nothing is returned while the loop waits. -/
def resumeFrom {α σ ρ τ : Type} [SocketAddr α] (provider : CryptoProvider σ ρ)
    (deliveries : List (Except IoError Delivery)) (closeOnExec : Except IoError Unit) :
    Except (Stop Error) (Option (Session α σ ρ τ)) :=
  match Receiving.run {} deliveries with
  | .error error => .error (.error error)
  | .ok (.waiting _) => .ok none
  | .ok (.ended state _) =>
    match state.tcp with
    | none => .error (.error (.invalidState "no file descriptor received"))
    | some stream =>
      match closeOnExec with
      | .error error => .error (.error (.io error))
      | .ok () => (resume provider stream state.received).map some

end Oxish
