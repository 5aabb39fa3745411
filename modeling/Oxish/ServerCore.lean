import Oxish.AcceptCore

/-!
All the connections of a server. `Server::run` starts a task for each of them, and the tasks share
one thing, the permits for those that are not authenticated yet. The steps of the tasks happen in
any order, and time passes between them, in seconds. A task whose timer is due may be cut off in the
`await` it is in; nothing says how soon that happens. What a step does takes no time, the lookup of
a user and of its keys included.
-/

namespace Oxish

variable {α σ ρ τ β : Type}

namespace AuthenticationState

/-- Whether `handle` comes to the verification of a signature. That runs on another thread, so
`handle` waits for it, and it has encoded nothing by then. -/
def verifies (context : Context σ ρ) : AuthenticationState → IncomingPacket → Bool
  | .awaitAuthRequest cached attempts, packet =>
    if packet.messageType = .userAuthRequest ∧ attempts - 1 ≠ 0 then
      match UserAuthRequest.tryFrom packet with
      | .error _ => false
      | .ok request =>
        match request.serviceName, request.method with
        | .connection, .publicKey publicKey =>
          match resolve context cached request.userName with
          | none => false
          | some user =>
            match publicKey.signature, user.keys.find? fun key => key.matchesKey publicKey with
            | some sig, some key => sig.algorithm = key.algorithm && sig.encode.toBool
            | some sig, none =>
              (fakeKey context.base64 publicKey.algorithm context.provider).toBool &&
                sig.encode.toBool
            | none, _ => false
        | _, _ => false
    else false
  | _, _ => false

end AuthenticationState

/-- What `accept` returns when it fails. -/
inductive AcceptError
  | message (text : String)
  | context (text : String) (cause : Stop Error)
  | cause (cause : Stop Error)

inductive TaskStage (τ : Type)
  | accepted
  | identifying
  | connected (phase : Phase τ)
  | refusing (error : Error)
  | returned (outcome : Except AcceptError Unit)

/-- One call of `accept`. The timer is the one of the `timeout` it is in. -/
structure Task (α σ ρ τ : Type) where
  link : Link α σ ρ τ
  stage : TaskStage τ := .accepted
  permit : Bool := false
  timer : Option Nat := none

/-- The `await` in which a task is cut off: one that waits for the stream, or the one in `handle`. -/
inductive Cut
  | stream
  | verification

inductive TaskEvent (τ : Type)
  | acquire
  | turn (turn : Turn τ)
  | expire (turn : Turn τ) (cut : Cut)

namespace Task

def exchangeSeconds : Nat := 30

def authenticateSeconds : Nat := 60

def refuseSeconds : Nat := 1

-- Whatever the task holds is dropped when it returns.
def finish (link : Link α σ ρ τ) (outcome : Except AcceptError Unit) : Task α σ ρ τ where
  link := link
  stage := .returned outcome

def acquire (task : Task α σ ρ τ) (now : Nat) (available : Bool) : Task α σ ρ τ :=
  if available then
    { task with stage := .identifying, permit := true, timer := some (now + exchangeSeconds) }
  else finish task.link (.error (.message "too many concurrent authentications"))

def timedOut : Error := .io { kind := .timedOut, message := "timed out" }

def timedOutDisconnect : Disconnect where
  reasonCode := .byApplication
  description := "authentication timed out"

section Steps

variable [SealingKey σ] [OpeningKey ρ]

/-- One round of the loop of `authenticate`. -/
def authenticateReply (server : Server σ ρ) (kx : KeyExchangeOutput)
    (state : AuthenticationState) : Trace α σ ρ τ (Except Error AuthenticationState) := do
  match ← Trace.drive (Drive.catching Connection.receive) with
  | .error error => pure (.error error)
  | .ok packet => do
    let handled ← Trace.handleAuth (server.context kx.sessionId) state packet
    let flushed ← Trace.drive (Drive.catching Connection.flush)
    match handled, flushed with
    | .ok next, .ok () => pure (.ok next)
    | .error error, _ | .ok _, .error error => pure (.error error)

/-- The client is told, and what is left is to flush that. -/
def refuse (now : Nat) (error : Error) (disconnect : Disconnect) (link : Link α σ ρ τ) :
    Task α σ ρ τ :=
  let payload := disconnect.encode
  match link.conn.write.encode payload with
  | (write, .ok ()) => {
      link := { conn := { link.conn with write }, log := link.log ++ [.packet payload] }
      stage := .refusing error
      permit := true
      timer := some (now + refuseSeconds) }
  | (write, .error stop) =>
    finish { link with conn := { link.conn with write } }
      (.error (.context "authentication failed" (stopInto .proto stop)))

def identifyTurn (server : Server σ ρ) (task : Task α σ ρ τ) (turn : Turn τ) :
    Option (Task α σ ρ τ) :=
  match Stateful.exec (Trace.drive Connection.identify) (task.link.supply turn) with
  | (.ok (exchange, identities), link) =>
    some { task with
      link, stage := .connected (.exchanging (.new exchange identities server.hostKeys)) }
  | (.error (.stopped stop), link) =>
    some (finish link (.error (.context "key exchange failed" stop)))
  | (.error .pending, _) => none

def exchangeTurn (server : Server σ ρ) (now : Nat) (task : Task α σ ρ τ)
    (state : InitialKeyExchangeState) (turn : Turn τ) : Option (Task α σ ρ τ) :=
  match Stateful.exec (Server.exchangeTurn (server.provider.drawing turn.draws) state)
      (task.link.supply turn) with
  | (.ok (.authenticating kx state), link) =>
    some { task with
      link, stage := .connected (.authenticating kx state),
      timer := some (now + authenticateSeconds) }
  | (.ok phase, link) => some { task with link, stage := .connected phase }
  | (.error (.stopped stop), link) =>
    some (finish link (.error (.context "key exchange failed" stop)))
  | (.error .pending, _) => none

def authenticateTurn (server : Server σ ρ) (now : Nat) (task : Task α σ ρ τ)
    (kx : KeyExchangeOutput) (state : AuthenticationState) (turn : Turn τ) :
    Option (Task α σ ρ τ) :=
  match Stateful.exec (authenticateReply server kx state) (task.link.supply turn) with
  | (.ok (.ok (.complete authenticated)), link) =>
    some { link, stage := .connected (.authenticated kx authenticated) }
  | (.ok (.ok next), link) => some { task with link, stage := .connected (.authenticating kx next) }
  | (.ok (.error error), link) => some (refuse now error (Connection.disconnectFor error) link)
  | (.error (.stopped stop), link) =>
    some (finish link (.error (.context "authentication failed" stop)))
  | (.error .pending, _) => none

-- A session process that fails exits with status 1, and one that panics with 101.
def sessionError (spawn : Bool) (stop : Stop Error) : Phase τ → AcceptError
  | .running _ =>
    match spawn, stop with
    | true, .error _ => .message "session process exited with exit status: 1"
    | true, .panic _ => .message "session process exited with exit status: 101"
    | false, stop => .context "session failed" stop
  | _ => .cause stop

def sessionTurn [SocketAddr α] (server : Server σ ρ) (spawn : Bool) (task : Task α σ ρ τ)
    (phase : Phase τ) (turn : Turn τ) : Option (Task α σ ρ τ) :=
  match Stateful.exec (server.phaseTurn spawn turn phase) (task.link.supply turn) with
  | (.ok (some phase), link) => some { task with link, stage := .connected phase }
  | (.ok none, link) => some (finish link (.ok ()))
  | (.error (.stopped stop), link) => some (finish link (.error (sessionError spawn stop phase)))
  | (.error .pending, _) => none

-- The result of this flush is dropped.
def refuseTurn (task : Task α σ ρ τ) (error : Error) (turn : Turn τ) : Option (Task α σ ρ τ) :=
  match Stateful.exec (Trace.drive Connection.flush) (task.link.supply turn) with
  | (.error .pending, _) => none
  | (_, link) => some (finish link (.error (.context "authentication failed" (.error error))))

/-- What a task does when it goes on. A turn that waits for the stream is not over. -/
def turn [SocketAddr α] (server : Server σ ρ) (spawn : Bool) (now : Nat) (task : Task α σ ρ τ)
    (turn : Turn τ) : Option (Task α σ ρ τ) :=
  match task.stage with
  | .accepted | .returned _ => none
  | .identifying => task.identifyTurn server turn
  | .connected (.exchanging state) => task.exchangeTurn server now state turn
  | .connected (.authenticating kx state) => task.authenticateTurn server now kx state turn
  | .connected phase => task.sessionTurn server spawn phase turn
  | .refusing error => task.refuseTurn error turn

/-- A step that is left unfinished, with the connection as it is in that `await`. -/
def interrupted (step : Trace α σ ρ τ β) (link : Link α σ ρ τ) : Option (Link α σ ρ τ) :=
  match Stateful.exec step link with
  | (.error .pending, link) => some link
  | _ => none

def verifying (server : Server σ ρ) (kx : KeyExchangeOutput) (state : AuthenticationState)
    (link : Link α σ ρ τ) : Option (Link α σ ρ τ) :=
  match Stateful.exec (Trace.drive Connection.receive) link with
  | (.ok packet, link) =>
    if state.verifies (server.context kx.sessionId) packet then some link else none
  | _ => none

/-- What becomes of a task when its time is up. -/
def expire (server : Server σ ρ) (now : Nat) (task : Task α σ ρ τ) (turn : Turn τ) (cut : Cut) :
    Option (Task α σ ρ τ) :=
  let link := task.link.supply turn
  match task.stage, cut with
  | .identifying, .stream => do
    let link ← interrupted (Trace.drive Connection.identify) link
    some (finish link (.error (.message "key exchange timed out")))
  | .connected (.exchanging state), .stream => do
    let link ← interrupted (Server.exchangeTurn (server.provider.drawing turn.draws) state) link
    some (finish link (.error (.message "key exchange timed out")))
  | .connected (.authenticating kx state), .stream => do
    let link ← interrupted (authenticateReply server kx state) link
    some (refuse now timedOut timedOutDisconnect link)
  | .connected (.authenticating kx state), .verification => do
    let link ← verifying server kx state link
    some (refuse now timedOut timedOutDisconnect link)
  | .refusing error, .stream => do
    let link ← interrupted (Trace.drive Connection.flush) link
    some (finish link (.error (.context "authentication failed" (.error error))))
  | _, _ => none

def due (now : Nat) (task : Task α σ ρ τ) : Bool := task.timer.any (· ≤ now)

def step [SocketAddr α] (server : Server σ ρ) (spawn : Bool) (now : Nat) (available : Bool)
    (task : Task α σ ρ τ) : TaskEvent τ → Option (Task α σ ρ τ)
  | .acquire =>
    match task.stage with
    | .accepted => some (task.acquire now available)
    | _ => none
  | .turn turn => task.turn server spawn now turn
  | .expire turn cut =>
    if task.due now then task.expire server now turn cut else none

end Steps

end Task

def Server.authenticatingPermits : Nat := 32

/-- The process that listens, with all the tasks it has started. -/
structure Hub (α σ ρ τ : Type) where
  now : Nat := 0
  permits : Nat := Server.authenticatingPermits
  tasks : List (Task α σ ρ τ) := []

inductive HubEvent (α τ : Type)
  | arrived (stream : Stream) (addr : α) (secureRandom : SecureRandom)
  | acceptFailed (error : IoError)
  | passed
  | task (index : Nat) (event : TaskEvent τ)

def Hub.step [SealingKey σ] [OpeningKey ρ] [SocketAddr α] (server : Server σ ρ) (spawn : Bool)
    (hub : Hub α σ ρ τ) : HubEvent α τ → Option (Hub α σ ρ τ)
  | .arrived stream addr secureRandom =>
    let task := { link := { conn := .new stream addr secureRandom } }
    some { hub with tasks := hub.tasks ++ [task] }
  | .acceptFailed _ => some hub
  | .passed => some { hub with now := hub.now + 1 }
  | .task index event => do
    let task ← hub.tasks[index]?
    let next ← task.step server spawn hub.now (0 < hub.permits) event
    some { hub with
      tasks := hub.tasks.set index next
      permits := hub.permits + task.permit.toNat - next.permit.toNat }

end Oxish
