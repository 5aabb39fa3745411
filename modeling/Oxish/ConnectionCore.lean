import Oxish.AuthenticationCore
import Oxish.ConnectionsCore
import Oxish.KeyExchangeCore

/-!
A connection from its first byte to its session: identification, the initial key exchange and
authentication over a stream. The stream is the list of answers it will give to reads, writes
and flushes; a step that needs an answer the list does not have is still waiting. `sent` keeps
the bytes the stream has taken.
-/

namespace Oxish

structure Stream where
  reads : List (Except IoError Bytes)
  writes : List (Except IoError Nat)
  flushes : List (Except IoError Unit)
  sent : Bytes := []

/-- Why a step of the connection does not return: it stopped, or it waits for the stream. -/
inductive Halt where
  | stopped (stop : Stop Error)
  | pending

structure Connection (α σ ρ : Type) where
  stream : Stream
  addr : α
  read : ReadState ρ
  write : WriteState σ

abbrev Drive (α σ ρ β : Type) := Stateful.Run Halt (Connection α σ ρ) β

variable {α σ ρ β : Type}

def Drive.fail (error : Error) : Drive α σ ρ β := throw (.stopped (.error error))

def Drive.crash (site : String) : Drive α σ ρ β := throw (.stopped (.panic site))

-- `match result` on the outcome of an `async` step: its error is a value to the caller.
def Drive.catching (step : Drive α σ ρ β) : Drive α σ ρ (Except Error β) :=
  ExceptT.mk fun conn =>
    match Stateful.exec step conn with
    | (.ok value, conn) => (.ok (.ok value), conn)
    | (.error (.stopped (.error error)), conn) => (.ok (.error error), conn)
    | (.error halt, conn) => (.error halt, conn)

namespace Connection

def buffer : Drive α σ ρ Unit :=
  ExceptT.mk fun conn =>
    match conn.stream.reads with
    | [] => (.error .pending, conn)
    | outcome :: reads =>
      let conn := { conn with stream := { conn.stream with reads } }
      match outcome with
      | .error error => (.error (.stopped (.error (.io error))), conn)
      | .ok [] => (.error (.stopped (.error (.io ⟨.unexpectedEof, "EOF"⟩))), conn)
      | .ok bytes => (.ok (), { conn with read := { conn.read with buf := conn.read.buf ++ bytes } })

section Receiving

variable [OpeningKey ρ]

def pollPacket : Drive α σ ρ (Completion (UInt32 × PacketLength)) :=
  ExceptT.mk fun conn =>
    let (read, result) := conn.read.pollPacket
    let conn := { conn with read }
    match result with
    | .ok completion => (.ok completion, conn)
    | .error (.error (.incomplete amount)) => (.ok (.incomplete amount), conn)
    | .error stop => (.error (.stopped (stopInto .proto stop)), conn)

def decodePacket (number : UInt32) (length : PacketLength) : Drive α σ ρ IncomingPacket :=
  ExceptT.mk fun conn =>
    match conn.read.decodePacket number length with
    | .ok packet => (.ok packet, conn)
    | .error error => (.error (.stopped (.error (.proto error))), conn)

def receiveFor : Nat → Drive α σ ρ IncomingPacket
  | 0 => throw .pending
  | rounds + 1 => do
    match ← pollPacket with
    | .complete (number, length) => decodePacket number length
    | .incomplete _ => do
      buffer
      receiveFor rounds

-- Every round but the last takes an answer to a read.
def receive : Drive α σ ρ IncomingPacket :=
  ExceptT.mk fun conn => Stateful.exec (receiveFor (conn.stream.reads.length + 1)) conn

end Receiving

section Flushing

def buffered : Drive α σ ρ Bytes :=
  ExceptT.mk fun conn =>
    match conn.write.buffered with
    | none => (.error (.stopped (.panic "range start index out of range for slice")), conn)
    | some bytes => (.ok bytes, conn)

def pollWrite (bytes : Bytes) : Drive α σ ρ Nat :=
  ExceptT.mk fun conn =>
    match conn.stream.writes with
    | [] => (.error .pending, conn)
    | .error error :: writes =>
      (.error (.stopped (.error (.io error))),
        { conn with stream := { conn.stream with writes } })
    | .ok count :: writes =>
      (.ok count, { conn with
        stream := { conn.stream with writes, sent := conn.stream.sent ++ bytes.take count } })

def recordWritten (count : Nat) : Drive α σ ρ Unit :=
  ExceptT.mk fun conn =>
    match conn.write.recordWritten (.ok count) with
    | (write, .ok ()) => (.ok (), { conn with write })
    | (write, .error error) => (.error (.stopped (.error (.io error))), { conn with write })

def pollFlush : Drive α σ ρ Unit :=
  ExceptT.mk fun conn =>
    match conn.stream.flushes with
    | [] => (.error .pending, conn)
    | outcome :: flushes =>
      let conn := { conn with stream := { conn.stream with flushes } }
      match outcome with
      | .error error => (.error (.stopped (.error (.io error))), conn)
      | .ok () => (.ok (), conn)

def flushFor : Nat → Drive α σ ρ Unit
  | 0 => throw .pending
  | rounds + 1 => do
    match ← buffered with
    | [] => pollFlush
    | bytes => do
      let count ← pollWrite bytes
      recordWritten count
      flushFor rounds

def flush : Drive α σ ρ Unit :=
  ExceptT.mk fun conn => Stateful.exec (flushFor (conn.stream.writes.length + 1)) conn

-- `write_all`, which keeps its own place in the bytes.
def writeAllFor : Nat → Bytes → Drive α σ ρ Unit
  | _, [] => pure ()
  | 0, _ => throw .pending
  | rounds + 1, bytes => do
    let count ← pollWrite bytes
    if count = 0 then Drive.fail (.io ⟨.writeZero, "failed to write whole buffer"⟩)
    else if bytes.length < count then Drive.crash "mid > len"
    else writeAllFor rounds (bytes.drop count)

def writeAll (bytes : Bytes) : Drive α σ ρ Unit :=
  ExceptT.mk fun conn => Stateful.exec (writeAllFor (conn.stream.writes.length + 1) bytes) conn

end Flushing

section Identifying

def identifyFor : Nat → Drive α σ ρ (Bytes × Decoded Identification)
  | 0 => throw .pending
  | rounds + 1 => do
    buffer
    let buf ← ExceptT.mk fun conn => (.ok conn.read.buf, conn)
    match Identification.decode buf with
    | .ok (.complete decoded) => pure (buf, decoded)
    | .ok (.incomplete _) => identifyFor rounds
    | .error error => Drive.fail (.proto error)

def software : Bytes := strBytes "OxiSH/0.2.0"

def serverIdentification : Identification := { protocol := protocolVersion, software, comments := [] }

-- A line that cannot be cut out of its buffer would be left out of both records.
def recordLine (exchange : HandshakeBuffer) (buf : Bytes) (length : Nat) :
    HandshakeBuffer × Bytes :=
  match upTo? buf length with
  | some line => (exchange.prefixed line, line)
  | none => (exchange, [])

def takeIdentification (buf : Bytes) (rest : Nat) : Drive α σ ρ (HandshakeBuffer × Bytes) :=
  ExceptT.mk fun conn =>
    (.ok (recordLine {} buf (buf.length - rest - 2)),
      { conn with read := conn.read.setLastLength (buf.length - rest) })

def encodeIdentification : Drive α σ ρ Bytes :=
  ExceptT.mk fun conn =>
    let (write, bytes) := conn.write.encoded serverIdentification.encode
    (.ok bytes, { conn with write })

def clearWritten : Drive α σ ρ Unit :=
  ExceptT.mk fun conn => (.ok (), { conn with write := conn.write.clear })

def exchangeIdentification (buf : Bytes) (rest : Nat) :
    Drive α σ ρ (HandshakeBuffer × Identities) := do
  let (exchange, client) ← takeIdentification buf rest
  let bytes ← encodeIdentification
  writeAll bytes
  let (exchange, server) := recordLine exchange bytes (bytes.length - 2)
  clearWritten
  pure (exchange, { client, server })

def identify : Drive α σ ρ (HandshakeBuffer × Identities) := do
  let reads ← ExceptT.mk fun conn => (.ok conn.stream.reads.length, conn)
  let (buf, decoded) ← identifyFor (reads + 1)
  if decoded.value.protocol ≠ protocolVersion then
    Drive.fail (.proto (.identification (.unsupportedVersion decoded.value.protocol)))
  else exchangeIdentification buf decoded.next.length

end Identifying

section Exchanging

variable [SealingKey σ] [OpeningKey ρ]

def encode (payload : Bytes) : Drive α σ ρ Unit :=
  ExceptT.mk fun conn =>
    match conn.write.encode payload with
    | (write, .ok ()) => (.ok (), { conn with write })
    | (write, .error stop) => (.error (.stopped (stopInto .proto stop)), { conn with write })

def handleKx (provider : CryptoProvider σ ρ) (state : InitialKeyExchangeState)
    (packet : IncomingPacket) :
    Drive α σ ρ (InitialKeyExchangeState × Option (Established σ ρ)) :=
  ExceptT.mk fun conn =>
    let handled := state.handle packet conn.write provider
    let conn := { conn with write := handled.outbox.write }
    match handled.result with
    | .ok output => (.ok (handled.state, output), conn)
    | .error stop => (.error (.stopped (stopInto .proto stop)), conn)

def installKeys (update : KeyUpdate σ ρ) : Drive α σ ρ Unit :=
  ExceptT.mk fun conn =>
    match update.apply conn.write conn.read with
    | (write, read, .ok ()) => (.ok (), { conn with write, read })
    | (write, read, .error stop) =>
      (.error (.stopped (stopInto .proto stop)), { conn with write, read })

def sendExtInfo : Option ExtInfo → Drive α σ ρ Unit
  | some extInfo => encode extInfo.encode
  | none => pure ()

def finishExchange (established : Established σ ρ) : Drive α σ ρ KeyExchangeOutput := do
  installKeys established.update
  sendExtInfo established.extInfo
  encode (Ignore.encode {})
  flush
  pure established.output

def exchangeLoop (provider : CryptoProvider σ ρ) :
    Nat → InitialKeyExchangeState → Drive α σ ρ KeyExchangeOutput
  | 0, _ => throw .pending
  | rounds + 1, state => do
    let packet ← receive
    let (state, output) ← handleKx provider state packet
    match output with
    | some established => finishExchange established
    | none => do
      flush
      exchangeLoop provider rounds state

-- The machine returns its output or stops with its third packet.
def exchangeKeys (hostKeys : HostKeys) (provider : CryptoProvider σ ρ) :
    Drive α σ ρ KeyExchangeOutput := do
  let (exchange, identities) ← identify
  exchangeLoop provider 3 (.new exchange identities hostKeys)

end Exchanging

section Authenticating

variable [SealingKey σ] [OpeningKey ρ]

def handleAuth (context : AuthenticationState.Context σ ρ) (state : AuthenticationState)
    (packet : IncomingPacket) : Drive α σ ρ (Except Error AuthenticationState) :=
  ExceptT.mk fun conn =>
    let (result, outbox) :=
      Stateful.exec (AuthenticationState.handle context state packet) { write := conn.write }
    let conn := { conn with write := outbox.write }
    match result with
    | .ok next => (.ok (.ok next), conn)
    | .error (.error error) => (.ok (.error error), conn)
    | .error (.panic site) => (.error (.stopped (.panic site)), conn)

-- One packet: the reply is flushed whether or not the packet was accepted.
def authenticateStep (context : AuthenticationState.Context σ ρ) (state : AuthenticationState) :
    Drive α σ ρ (Except Error AuthenticationState) := do
  match ← Drive.catching receive with
  | .error error => pure (.error error)
  | .ok packet => do
    let handled ← handleAuth context state packet
    let flushed ← Drive.catching flush
    match handled, flushed with
    | .ok next, .ok () => pure (.ok next)
    | .error error, _ | .ok _, .error error => pure (.error error)

def authenticateLoop (context : AuthenticationState.Context σ ρ) :
    Nat → AuthenticationState → Drive α σ ρ (Except Error Authenticated)
  | 0, _ => throw .pending
  | rounds + 1, state => do
    match ← authenticateStep context state with
    | .error error => pure (.error error)
    | .ok (.complete authenticated) => pure (.ok authenticated)
    | .ok next => authenticateLoop context rounds next

def disconnectFor : Error → Disconnect
  | .auth .tooManyAttempts =>
    { reasonCode := .byApplication, description := "too many authentication attempts" }
  | .invalidState description => { reasonCode := .byApplication, description }
  | .invalidUsername => { reasonCode := .illegalUserName, description := "invalid username" }
  | .proto (.serviceNotAvailable description) =>
    { reasonCode := .serviceNotAvailable, description }
  | _ => { reasonCode := .byApplication, description := "authentication failed" }

def authenticate (context : AuthenticationState.Context σ ρ) (rounds : Nat) :
    Drive α σ ρ Authenticated := do
  match ← authenticateLoop context rounds default with
  | .ok authenticated => pure authenticated
  | .error error => do
    encode (disconnectFor error).encode
    let _ ← Drive.catching flush
    Drive.fail error

end Authenticating

end Connection

structure Server (σ ρ : Type) where
  provider : CryptoProvider σ ρ
  hostKeys : HostKeys
  store : UserStore σ ρ
  rootPolicy : RootPolicy
  base64 : Bytes → Option Bytes

def Server.context (server : Server σ ρ) (sessionId : Digest) :
    AuthenticationState.Context σ ρ where
  sessionId := sessionId
  store := server.store
  rootPolicy := server.rootPolicy
  provider := server.provider
  base64 := server.base64

-- The draws of its writer are its own: no other use of the generator gets them.
def Connection.new (stream : Stream) (addr : α) (secureRandom : SecureRandom) :
    Connection α σ ρ where
  stream := stream
  addr := addr
  read := {}
  write := .new secureRandom

/-- `accept` up to the point where the session starts, in this process or in another. `rounds`
bounds the packets of the authentication. -/
def Server.establish [SealingKey σ] [OpeningKey ρ] (server : Server σ ρ) (rounds : Nat) :
    Drive α σ ρ (KeyExchangeOutput × Authenticated) := do
  let kx ← Connection.exchangeKeys server.hostKeys server.provider
  let authenticated ← Connection.authenticate (server.context kx.sessionId) rounds
  pure (kx, authenticated)

end Oxish
