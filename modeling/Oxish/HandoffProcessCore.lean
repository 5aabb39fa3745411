import Oxish.HandoffReceiveCore

/-!
The two processes of a handoff and the socket between them. The listening process is in `spawn`,
behind the start of the session process; that one is in `resume`. An event is one answer of the
kernel to one of the two: any number of bytes may be taken or handed over at a time, every call may
fail, and the session process may be killed at any moment.
-/

namespace Oxish

variable {α σ ρ τ : Type} [SocketAddr α]

/-- A byte on its way to the session process, with the control messages that were sent along. -/
structure Cell where
  byte : UInt8
  rights : List (List Stream) := []

-- Control messages travel with the first byte of what they are sent with.
def cells (rights : List (List Stream)) : Bytes → List Cell
  | [] => []
  | byte :: bytes => { byte, rights } :: bytes.map fun byte => { byte }

inductive SpawnStage
  | sending
  | awaiting
  | returned (outcome : Except Error Unit)

/-- `decoded` is the session process before it acknowledges the handoff. A process that was killed
has exited without an error of its own. -/
inductive ResumeStage (α σ ρ τ : Type)
  | receiving (state : Receiving)
  | decoded (stream : Stream) (state : SessionState α SessionHostKey)
  | running (session : Session α σ ρ τ)
  | exited (stop : Option (Stop Error))

structure Handover (α σ ρ τ : Type) where
  sent : Nat := 0
  parent : SpawnStage := .sending
  toChild : List Cell := []
  child : ResumeStage α σ ρ τ := .receiving {}
  toParent : Bytes := []

def SpawnStage.inSpawn : SpawnStage → Bool
  | .returned _ => false
  | _ => true

def ResumeStage.alive : ResumeStage α σ ρ τ → Bool
  | .exited _ => false
  | _ => true

-- The socket is the standard input of the session process. Until `spawn` returns, its local
-- `command` holds that end of the socket as well.
def Handover.childEndOpen (handover : Handover α σ ρ τ) : Bool :=
  handover.child.alive || handover.parent.inSpawn

inductive HandoverEvent
  | sent (count : Nat)
  | sendFailed (error : IoError)
  | delivered (count : Nat) (closeOnExec : Except IoError Unit)
  | deliveryFailed (error : IoError)
  | deliveryEnded
  | acknowledged (sent adopted : Except IoError Unit)
  | killed
  | ackDelivered
  | ackFailed (error : IoError)
  | ackEnded

/-- `resume` between its loop and the acknowledgement. -/
def ResumeStage.checked (provider : CryptoProvider σ ρ) (closeOnExec : Except IoError Unit)
    (state : Receiving) : ResumeStage α σ ρ τ :=
  match state.tcp with
  | none => .exited (some (.error (.invalidState "no file descriptor received")))
  | some stream =>
    match closeOnExec with
    | .error error => .exited (some (.error (.io error)))
    | .ok () =>
      match (SessionState.decode provider state.received :
        Except (Stop ProtoError) (Decoded (SessionState α SessionHostKey))) with
      | .error stop => .exited (some (stopInto .proto stop))
      | .ok ⟨value, next⟩ =>
        if next.isEmpty then .decoded stream value
        else .exited (some (.error (.invalidState "trailing bytes after message")))

/-- `resume` behind the acknowledgement; `adopted` is how the descriptor becomes a stream. -/
def ResumeStage.adopt (provider : CryptoProvider σ ρ) (adopted : Except IoError Unit)
    (stream : Stream) (state : SessionState α SessionHostKey) : ResumeStage α σ ρ τ :=
  match (rebuild provider stream state : Except CryptoError (Session α σ ρ τ)) with
  | .error error => .exited (some (.error (.proto (.crypto error))))
  | .ok session =>
    match adopted with
    | .error error => .exited (some (.error (.io error)))
    | .ok () => .running session

def Handover.take (handover : Handover α σ ρ τ) (provider : CryptoProvider σ ρ)
    (closeOnExec : Except IoError Unit) (state : Receiving) (count : Nat) : Handover α σ ρ τ :=
  let taken := handover.toChild.take count
  let handover := { handover with toChild := handover.toChild.drop count }
  match state.accept { data := taken.map Cell.byte, rights := taken.flatMap Cell.rights } with
  | .error error => { handover with child := .exited (some (.error error)) }
  | .ok (.more next) => { handover with child := .receiving next }
  | .ok (.whole last) => { handover with child := .checked provider closeOnExec last }

variable (provider : CryptoProvider σ ρ) (stream : Stream) (payload : Bytes)

-- The first call sends the descriptor along with the bytes it takes.
def Handover.send (handover : Handover α σ ρ τ) (count : Nat) : Handover α σ ρ τ :=
  let message := handoffMessage payload
  let rights := if handover.sent = 0 then [[stream]] else []
  let sent := handover.sent + count
  { handover with
    sent
    parent := if sent < message.length then .sending else .awaiting
    toChild := handover.toChild ++ cells rights ((message.drop handover.sent).take count) }

/-- What follows an event, if the event can happen. -/
def Handover.step (handover : Handover α σ ρ τ) : HandoverEvent → Option (Handover α σ ρ τ)
  | .sent count =>
    match handover.parent with
    | .sending =>
      if 1 ≤ count ∧ handover.sent + count ≤ (handoffMessage payload).length then
        some (handover.send stream payload count)
      else none
    | _ => none
  | .sendFailed error =>
    match handover.parent with
    | .sending => some { handover with parent := .returned (.error (.io error)) }
    | _ => none
  | .delivered count closeOnExec =>
    match handover.child with
    | .receiving state =>
      if 1 ≤ count ∧ count ≤ handover.toChild.length ∧ count ≤ Delivery.chunkLen then
        some (handover.take provider closeOnExec state count)
      else none
    | _ => none
  | .deliveryFailed error =>
    match handover.child with
    | .receiving _ => some { handover with child := .exited (some (.error (.io error))) }
    | _ => none
  | .deliveryEnded =>
    match handover.child with
    | .receiving state =>
      if handover.toChild.isEmpty && !handover.parent.inSpawn then
        some (handover.take provider (.ok ()) state 0)
      else none
    | _ => none
  | .acknowledged sent adopted =>
    match handover.child with
    | .decoded stream state =>
      match sent with
      | .error error => some { handover with child := .exited (some (.error (.io error))) }
      | .ok () =>
        if handover.parent.inSpawn then
          some { handover with
            child := .adopt provider adopted stream state
            toParent := handover.toParent ++ [1] }
        else none
    | _ => none
  | .killed => if handover.child.alive then some { handover with child := .exited none } else none
  | .ackDelivered =>
    match handover.parent, handover.toParent with
    | .awaiting, _ :: rest => some { handover with parent := .returned (.ok ()), toParent := rest }
    | _, _ => none
  | .ackFailed error =>
    match handover.parent with
    | .awaiting => some { handover with parent := .returned (.error (.io error)) }
    | _ => none
  | .ackEnded =>
    match handover.parent, handover.toParent with
    | .awaiting, [] =>
      if handover.childEndOpen then none
      else some { handover with parent := .returned (.error
        (.invalidState "session process exited before acknowledging handoff")) }
    | _, _ => none

end Oxish
