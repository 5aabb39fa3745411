import Oxish.ConnectionsCore
import Oxish.ProviderCore

/-!
How a session hands a channel message to its channels, with the warning shown to clients whose
key exchange is not post-quantum secure.
-/

namespace Oxish

variable {σ τ : Type}

def noPqPrefix : Bytes := strBytes "WARNING: "

def noPqWarning : Bytes := strBytes
  "the client negotiated a key exchange algorithm that is not post-quantum secure; your session may be decrypted by a cryptographically relevant quantum computer in the future"

def noPqWarningOpenSsh : Bytes :=
  strBytes "consider upgrading your client version to OpenSSH 9.9 or newer"

def space : UInt8 := 32

def asciiDigit (byte : UInt8) : Bool := 48 ≤ byte && byte ≤ 57

-- `u8::from_str`: an optional plus sign and digits, up to 255.
def parseU8 (text : Bytes) : Option Nat :=
  let digits := match text with
    | 43 :: rest => rest
    | _ => text
  if digits.isEmpty || !digits.all asciiDigit then none
  else
    let value := digits.foldl (fun value digit => 10 * value + (digit.toNat - 48)) 0
    if value < 256 then some value else none

def openSshBefore99 (clientIdentity : Bytes) : Bool :=
  match clientIdentity.dropPrefix? (strBytes "SSH-2.0-OpenSSH_") with
  | none => false
  | some version =>
    if (fromUtf8 version).isNone then false
    else
      match splitOnce (strBytes ".") version with
      | none => false
      | some (major, minor) =>
        match parseU8 major, parseU8 (minor.takeWhile asciiDigit) with
        | some major, some minor => major < 9 || (major == 9 && minor < 9)
        | _, _ => false

def wrapTokens (width : Nat) : List Bytes → Nat → Bytes → Bytes
  | [], _, banner => banner
  | token :: tokens, left, banner =>
    let (banner, left) :=
      if token.length + 1 ≥ left then (banner ++ crlf ++ noPqPrefix, width - noPqPrefix.length)
      else (banner, left)
    wrapTokens width tokens (left - (token.length + 1)) (banner ++ token ++ [space])

def bannerWidth (ptyReq : PtyReq) : Nat := if ptyReq.cols = 0 then 80 else max 40 ptyReq.cols.toNat

def banner (request : ChannelRequest) (clientIdentity : Bytes) (postQuantumKx : Bool) :
    Option Bytes :=
  if postQuantumKx then none
  else
    match request.type with
    | .ptyReq ptyReq =>
      let width := bannerWidth ptyReq
      let wrapped :=
        wrapTokens width (noPqWarning.splitOn space) (width - noPqPrefix.length) noPqPrefix
      let upgrade :=
        if openSshBefore99 clientIdentity then noPqPrefix ++ noPqWarningOpenSsh ++ crlf else []
      some (wrapped ++ crlf ++ upgrade)
    | _ => none

variable [SealingKey σ]

/-- What the session knows besides its channels when it handles a message. -/
structure SessionView where
  clientIdentity : Bytes
  postQuantumKx : Bool
  options : KeyOptions

def Channels.handle (host : TerminalHost τ) (session : SessionView) :
    IncomingChannelMessage → Operation σ τ Unit
  | .open message => Channels.open message
  | .request message =>
    Channels.request host message (banner message session.clientIdentity session.postQuantumKx)
      session.options
  | .data message => do
    match ← Channels.data message with
    | some (terminal, data) => attemptIo (host.write terminal data)
    | none => pure ()
  | .windowAdjust message => Channels.adjustWindow message
  | .eof message => Channels.eof message
  | .close message => Channels.close host message

/-- What the loop of the session hands to its channels: a packet that is neither ignored nor part
of a key exchange, or one poll of the terminals. -/
inductive SessionInput where
  | received (packet : IncomingPacket) (session : SessionView)
  | terminals

-- The loop flushes after each step and may change its keys, so the writer comes with the step.
structure SessionStep (σ τ : Type) where
  input : SessionInput
  host : TerminalHost τ
  write : WriteState σ

def parseMessage (packet : IncomingPacket) : Operation σ τ IncomingChannelMessage :=
  ExceptT.mk fun mux => (raise ((IncomingChannelMessage.tryFrom packet).mapError Error.proto), mux)

def SessionInput.operation (host : TerminalHost τ) : SessionInput → Operation σ τ Unit
  | .received packet session => do
    let message ← parseMessage packet
    Channels.handle host session message
  | .terminals => do
    let _ ← TerminalsFuture.poll host
    pure ()

def Mux.start (write : WriteState σ) : Mux σ τ := { channels := {}, write }

-- An error leaves the loop and ends the session.
def Mux.step (mux : Mux σ τ) (step : SessionStep σ τ) : Option (Mux σ τ) :=
  match Stateful.exec (step.input.operation step.host) { mux with write := step.write } with
  | (.ok (), next) => some next
  | (.error _, _) => none

section Client

def plainHost : TerminalHost Unit where
  spawn _ _ _ := .ok ()
  resize _ _ := .ok ()
  write _ _ := .ok ()
  pollRead _ _ := .pending
  pollWait _ := .pending
  now _ := 0

def plainSessionView : SessionView where
  clientIdentity := strBytes "SSH-2.0-client"
  postQuantumKx := true
  options := {}

def plainWriter : WriteState PlainSealer := .new (constantRandom 3)

def receivedStep (messageType : MessageType) (payload : Bytes) : SessionStep PlainSealer Unit where
  input := .received ⟨0, messageType, payload⟩ plainSessionView
  host := plainHost
  write := plainWriter

def openStep : SessionStep PlainSealer Unit :=
  receivedStep .channelOpen
    (encodeBytes (strBytes "session") ++ encodeU32 0 ++ encodeU32 1024 ++ encodeU32 1024)

def ptyStep : SessionStep PlainSealer Unit :=
  receivedStep .channelRequest
    (encodeU32 0 ++ encodeBytes (strBytes "pty-req") ++ encodeBool false ++
      encodeBytes (strBytes "vt") ++ encodeU32 80 ++ encodeU32 24 ++ encodeU32 0 ++ encodeU32 0 ++
      encodeBytes [0])

def shellStep : SessionStep PlainSealer Unit :=
  receivedStep .channelRequest (encodeU32 0 ++ encodeBytes (strBytes "shell") ++ encodeBool false)

end Client

end Oxish
