import Oxish.HandoffCore
import Oxish.SessionCore

/-!
A connection from the key exchange to the end of its session, one turn at a time. A turn handles
one packet, starts the session, or polls the terminals once, and comes with the answers of the
stream that arrive during it. The log is bookkeeping for statements about a run: the payloads that
were encoded, the keys that were installed, the messages that were handled, and what happened to
the channels.
-/

namespace Oxish

inductive Act (σ τ : Type) where
  | packet (payload : Bytes)
  | keys (sealer : σ)
  | resumed (sealer : Option σ)
  | processed (packet : IncomingPacket)
  | channel (event : Event τ)

structure Link (α σ ρ τ : Type) where
  conn : Connection α σ ρ
  log : List (Act σ τ) := []

abbrev Trace (α σ ρ τ β : Type) := Stateful.Run Halt (Link α σ ρ τ) β

variable {α σ ρ τ β : Type}

namespace Trace

def drive (program : Drive α σ ρ β) : Trace α σ ρ τ β :=
  ExceptT.mk fun link =>
    let (outcome, conn) := Stateful.exec program link.conn
    (outcome, { link with conn })

def record (acts : List (Act σ τ)) : Trace α σ ρ τ Unit :=
  ExceptT.mk fun link => (.ok (), { link with log := link.log ++ acts })

section Sending

variable [SealingKey σ]

def encode (payload : Bytes) : Trace α σ ρ τ Unit := do
  drive (Connection.encode payload)
  record [.packet payload]

def installKeys (update : KeyUpdate σ ρ) : Trace α σ ρ τ Unit := do
  drive (Connection.installKeys update)
  record [.packet NewKeys.encode, .keys update.sealer]

-- A packet for one of the two key exchange machines.
def handleKx {S : Type} (handle : WriteState σ → Handled σ S (Option β)) :
    Trace α σ ρ τ (S × Option β) :=
  ExceptT.mk fun link =>
    let handled := handle link.conn.write
    let link := {
      conn := { link.conn with write := handled.outbox.write }
      log := link.log ++ handled.outbox.sent.map .packet }
    match handled.result with
    | .ok output => (.ok (handled.state, output), link)
    | .error stop => (.error (.stopped (stopInto .proto stop)), link)

def handleAuth (context : AuthenticationState.Context σ ρ) (state : AuthenticationState)
    (packet : IncomingPacket) : Trace α σ ρ τ (Except Error AuthenticationState) :=
  ExceptT.mk fun link =>
    let (result, outbox) :=
      Stateful.exec (AuthenticationState.handle context state packet) { write := link.conn.write }
    let link := {
      conn := { link.conn with write := outbox.write }
      log := link.log ++ outbox.sent.map fun reply => .packet (Encode.encode reply) }
    match result with
    | .ok next => (.ok (.ok next), link)
    | .error (.error error) => (.ok (.error error), link)
    | .error (.panic site) => (.error (.stopped (.panic site)), link)

def operate (channels : Channels τ) (operation : Operation σ τ β) :
    Trace α σ ρ τ (Channels τ × β) :=
  ExceptT.mk fun link =>
    let (outcome, mux) := Stateful.exec operation { channels, write := link.conn.write }
    let link := {
      conn := { link.conn with write := mux.write }
      log := link.log ++ mux.log.map .channel }
    match outcome with
    | .ok value => (.ok (mux.channels, value), link)
    | .error stop => (.error (.stopped stop), link)

end Sending

end Trace

/-- What a session keeps besides its connection and the provider. -/
structure Running (τ : Type) where
  kx : RekeyState
  channels : Channels τ
  postQuantumKx : Bool
  options : KeyOptions

def Session.running (session : Session α σ ρ τ) : Running τ where
  kx := session.kx
  channels := session.channels
  postQuantumKx := session.postQuantumKx
  options := session.options

def Running.view (running : Running τ) : SessionView where
  clientIdentity := running.kx.clientIdentity
  postQuantumKx := running.postQuantumKx
  options := running.options

inductive Branch where
  | receive
  | terminals

/-- One turn: the answers the stream gives meanwhile, which branch of the session's `select!` is
ready, what the operating system answers, and what the provider draws. -/
structure Turn (τ : Type) where
  reads : List (Except IoError Bytes) := []
  writes : List (Except IoError Nat) := []
  flushes : List (Except IoError Unit) := []
  branch : Branch := .receive
  host : TerminalHost τ
  draws : Draws

namespace Running

open Trace

variable [SealingKey σ] [OpeningKey ρ]

-- The branch that waits for a packet can be dropped and loses nothing: what has arrived is in
-- the buffer of the connection.
def receive : Trace α σ ρ τ (Option IncomingPacket) :=
  ExceptT.mk fun link =>
    match Stateful.exec Connection.receive link.conn with
    | (.ok packet, conn) => (.ok (some packet), { link with conn })
    | (.error .pending, conn) => (.ok none, { link with conn })
    | (.error halt, conn) => (.error halt, { link with conn })

def rekey (provider : CryptoProvider σ ρ) (running : Running τ) (packet : IncomingPacket) :
    Trace α σ ρ τ (Running τ) := do
  let (kx, output) ← handleKx fun write => running.kx.handle packet write provider
  match output with
  | some rekeyed => do
    installKeys rekeyed.update
    drive Connection.flush
    pure { running with kx, postQuantumKx := rekeyed.postQuantumKx }
  | none => do
    drive Connection.flush
    pure { running with kx }

def refuseGlobal (packet : IncomingPacket) : Trace α σ ρ τ Unit := do
  record [.processed packet]
  match GlobalRequest.tryFrom packet with
  | .error error => drive (Drive.fail (.proto error))
  | .ok request =>
    if request.wantReply then do
      encode MessageType.requestFailure.encode
      drive Connection.flush
    else pure ()

def channelMessage (host : TerminalHost τ) (running : Running τ) (packet : IncomingPacket) :
    Trace α σ ρ τ (Running τ) := do
  record [.processed packet]
  let (channels, _) ← operate running.channels
    (SessionInput.operation host (.received packet running.view))
  drive Connection.flush
  pure { running with channels }

/-- What the session does with a packet; it returns when the client disconnects. -/
def dispatch (provider : CryptoProvider σ ρ) (host : TerminalHost τ) (running : Running τ)
    (packet : IncomingPacket) : Trace α σ ρ τ (Option (Running τ)) :=
  match packet.messageType with
  | .ignore | .debug => pure (some running)
  | .disconnect => pure none
  | messageType =>
    if messageType = .keyExchangeInit || running.kx.inProgress then do
      let running ← rekey provider running packet
      pure (some running)
    else
      match messageType with
      | .globalRequest => do
        refuseGlobal packet
        pure (some running)
      | .requestSuccess | .requestFailure => pure (some running)
      | _ => do
        let running ← channelMessage host running packet
        pure (some running)

def pollTerminals (host : TerminalHost τ) (running : Running τ) : Trace α σ ρ τ (Running τ) :=
  if running.kx.inProgress then pure running
  else do
    let (channels, polled) ← operate running.channels (TerminalsFuture.poll host)
    match polled with
    | .ready () => do
      drive Connection.flush
      pure { running with channels }
    | .pending => pure { running with channels }

/-- One turn of `Session::run`. -/
def turn (provider : CryptoProvider σ ρ) (running : Running τ) (turn : Turn τ) :
    Trace α σ ρ τ (Option (Running τ)) :=
  match turn.branch with
  | .receive => do
    match ← receive with
    | some packet => dispatch provider turn.host running packet
    | none => pure (some running)
  | .terminals => do
    let running ← pollTerminals turn.host running
    pure (some running)

end Running

inductive Phase (τ : Type) where
  | exchanging (state : InitialKeyExchangeState)
  | authenticating (kx : KeyExchangeOutput) (state : AuthenticationState)
  | authenticated (kx : KeyExchangeOutput) (authenticated : Authenticated)
  | running (running : Running τ)

namespace Server

open Trace

variable [SealingKey σ] [OpeningKey ρ]

def sendExtInfo : Option ExtInfo → Trace α σ ρ τ Unit
  | some extInfo => encode extInfo.encode
  | none => pure ()

def exchangeTurn (provider : CryptoProvider σ ρ) (state : InitialKeyExchangeState) :
    Trace α σ ρ τ (Phase τ) := do
  let packet ← drive Connection.receive
  let (state, output) ← handleKx fun write => state.handle packet write provider
  match output with
  | some established => do
    installKeys established.update
    sendExtInfo established.extInfo
    encode (Ignore.encode {})
    drive Connection.flush
    pure (.authenticating established.output default)
  | none => do
    drive Connection.flush
    pure (.exchanging state)

-- The client is told why, as far as that still works.
def refuse (error : Error) : Trace α σ ρ τ β := do
  encode (Connection.disconnectFor error).encode
  let _ ← drive (Drive.catching Connection.flush)
  drive (Drive.fail error)

def afterAuth (kx : KeyExchangeOutput) : AuthenticationState → Phase τ
  | .complete authenticated => .authenticated kx authenticated
  | state => .authenticating kx state

def authenticateTurn (server : Server σ ρ) (kx : KeyExchangeOutput) (state : AuthenticationState) :
    Trace α σ ρ τ (Phase τ) := do
  match ← drive (Drive.catching Connection.receive) with
  | .error error => refuse error
  | .ok packet => do
    let handled ← handleAuth (server.context kx.sessionId) state packet
    let flushed ← drive (Drive.catching Connection.flush)
    match handled, flushed with
    | .ok next, .ok () => pure (afterAuth kx next)
    | .error error, _ | .ok _, .error error => refuse error

def startHere (provider : CryptoProvider σ ρ) (kx : KeyExchangeOutput) (options : KeyOptions) :
    Trace α σ ρ τ (Phase τ) :=
  ExceptT.mk fun link =>
    match (Session.new kx link.conn provider options : Except ProtoError (Session α σ ρ τ)) with
    | .ok session => (.ok (.running session.running), { link with conn := session.conn })
    | .error error => (.error (.stopped (.error (.proto error))), link)

-- The other process gets the encoded state and the stream.
def transfer [SocketAddr α] (provider : CryptoProvider σ ρ) (kx : KeyExchangeOutput)
    (options : KeyOptions) (conn : Connection α σ ρ) : Except (Stop Error) (Session α σ ρ τ) := do
  let state ← Server.handoff kx options conn
  resume provider conn.stream state.encode

def startElsewhere [SocketAddr α] (provider : CryptoProvider σ ρ) (kx : KeyExchangeOutput)
    (options : KeyOptions) : Trace α σ ρ τ (Phase τ) :=
  ExceptT.mk fun link =>
    match (transfer provider kx options link.conn : Except (Stop Error) (Session α σ ρ τ)) with
    | .error stop => (.error (.stopped stop), link)
    | .ok session =>
      (.ok (.running session.running), {
        conn := session.conn
        log := link.log ++ [.resumed session.conn.write.sealer] })

def phaseTurn [SocketAddr α] (server : Server σ ρ) (spawn : Bool) (turn : Turn τ) :
    Phase τ → Trace α σ ρ τ (Option (Phase τ))
  | .exchanging state => do
    let next ← exchangeTurn (server.provider.drawing turn.draws) state
    pure (some next)
  | .authenticating kx state => do
    let next ← authenticateTurn server kx state
    pure (some next)
  | .authenticated kx authenticated => do
    let next ←
      if spawn then startElsewhere (server.provider.drawing turn.draws) kx authenticated.options
      else startHere (server.provider.drawing turn.draws) kx authenticated.options
    pure (some next)
  | .running running => do
    let next ← running.turn (server.provider.drawing turn.draws) turn
    pure (next.map .running)

end Server

/-- A connection and where it is; it has ended when there is no phase. -/
structure Live (α σ ρ τ : Type) where
  link : Link α σ ρ τ
  phase : Option (Phase τ)

def Link.supply (link : Link α σ ρ τ) (turn : Turn τ) : Link α σ ρ τ :=
  { link with conn := { link.conn with stream := { link.conn.stream with
      reads := link.conn.stream.reads ++ turn.reads
      writes := link.conn.stream.writes ++ turn.writes
      flushes := link.conn.stream.flushes ++ turn.flushes } } }

-- A turn that stops ends the connection. One that still waits for the stream is not continued:
-- the turn with all its answers is another one.
def Live.step [SealingKey σ] [OpeningKey ρ] [SocketAddr α] (server : Server σ ρ) (spawn : Bool)
    (live : Live α σ ρ τ) (turn : Turn τ) : Live α σ ρ τ :=
  match live.phase with
  | none => live
  | some phase =>
    match Stateful.exec (server.phaseTurn spawn turn phase) (live.link.supply turn) with
    | (.ok phase, link) => { link, phase }
    | (.error _, link) => { link, phase := none }

def Live.run [SealingKey σ] [OpeningKey ρ] [SocketAddr α] (server : Server σ ρ) (spawn : Bool)
    (live : Live α σ ρ τ) (turns : List (Turn τ)) : Live α σ ρ τ :=
  turns.foldl (Live.step server spawn) live

/-- A connection whose identification lines have been exchanged. -/
def Live.start (conn : Connection α σ ρ) (exchange : HandshakeBuffer) (identities : Identities)
    (hostKeys : HostKeys) : Live α σ ρ τ where
  link := { conn }
  phase := some (.exchanging (.new exchange identities hostKeys))

end Oxish
