import Oxish.AuthCore
import Oxish.OutboxCore

/-!
The server's authentication machine. Verification runs on another thread; that thread failing
and the signature being rejected take the same branch, so `verify` stands for both. The
attempt counter is a byte and its decrement wraps as in a release build.
-/

namespace Oxish

variable {σ ρ : Type}

inductive AuthError
  | canceled
  | tooManyAttempts
  deriving DecidableEq, Repr

inductive Error
  | auth (error : AuthError)
  | invalidState (description : String)
  | invalidUsername
  | io (error : IoError)
  | proto (error : ProtoError)
  deriving DecidableEq, Repr

def controlOrSlash (char : Char) : Bool :=
  char.toNat < 0x20 || (0x7F ≤ char.toNat && char.toNat ≤ 0x9F) || char == '/'

structure Username where
  text : String
  valid : text.toList.any controlOrSlash = false
  deriving DecidableEq

def Username.tryFrom (value : String) : Except Error Username :=
  if valid : value.toList.any controlOrSlash = false then .ok ⟨value, valid⟩
  else .error .invalidUsername

structure User where
  name : Username
  id : UInt32
  gid : UInt32
  homeDir : Bytes
  shell : Bytes
  deriving DecidableEq

inductive RootPolicy
  | allow
  | deny
  deriving DecidableEq, Repr

structure UserStore (σ ρ : Type) where
  lookup : Username → RootPolicy → Option User
  keys : User → CryptoProvider σ ρ → List AuthorizedKey

structure CachedUser where
  data : User
  keys : List AuthorizedKey

structure Authenticated where
  user : User
  options : KeyOptions

inductive AuthenticationState where
  | awaitServiceRequest
  | awaitAuthRequest (cached : Option CachedUser) (attempts : UInt8)
  | complete (authenticated : Authenticated)

instance : Inhabited AuthenticationState where
  default := .awaitServiceRequest

inductive AuthReply where
  | serviceAccept (accept : ServiceAccept)
  | failure (failure : UserAuthFailure)
  | pkOk (pkOk : UserAuthPkOk)
  | success
  | disconnect (disconnect : Disconnect)

instance : Encode AuthReply where
  encode
    | .serviceAccept accept => accept.encode
    | .failure failure => failure.encode
    | .pkOk pkOk => pkOk.encode
    | .success => MessageType.userAuthSuccess.encode
    | .disconnect disconnect => disconnect.encode

def ecdsaFakeKey : String :=
  "ecdsa-sha2-nistp256 AAAAE2VjZHNhLXNoYTItbmlzdHAyNTYAAAAIbmlzdHAyNTYAAABBBE4MlZd759Tv7GElTKPf1D0FCmDWB9LEkkWyaP3E8T0H/fKyFnA0e0yBm/XpkG9erfxrcgMkAu1CM3e19g9bZWg="

def ed25519FakeKey : String :=
  "ssh-ed25519 AAAAC3NzaC1lZDI1NTE5AAAAIDX+GNCeikghR3A2bLB0KmlovqxdC+BUHAfYhYGcUJxA"

def fakeKey (base64 : Bytes → Option Bytes) (algorithm : PublicKeyAlgorithm)
    (provider : CryptoProvider σ ρ) : Except CryptoError AuthorizedKey :=
  let parsed := fun text =>
    match AuthorizedKey.fromStr base64 text provider with
    | some key => .ok key
    | none => .error .keyRejected
  match algorithm with
  | .ecdsaSha2Nistp256 => parsed ecdsaFakeKey
  | .ed25519 => parsed ed25519FakeKey
  | .unknown _ => .error .unknownAlgorithm

def supportedMethods : List MethodName := [.publicKey]

def authFailed : AuthReply := .failure { canContinue := supportedMethods, partialSuccess := false }

namespace AuthenticationState

variable [SealingKey σ]

/-- What `handle` is given besides its state and the packet. -/
structure Context (σ ρ : Type) where
  sessionId : Digest
  store : UserStore σ ρ
  rootPolicy : RootPolicy
  provider : CryptoProvider σ ρ
  base64 : Bytes → Option Bytes

def reply (message : AuthReply) : Emit σ AuthReply Error Unit := emit .proto message

def embedded {α : Type} (outcome : Except ProtoError α) : Emit σ AuthReply Error α :=
  attempt (outcome.mapError .proto)

def sendAuthFailed (cached : Option CachedUser) (attempts : UInt8) :
    Emit σ AuthReply Error AuthenticationState := do
  reply authFailed
  pure (.awaitAuthRequest cached attempts)

def lookupUser (context : Context σ ρ) (userName : String) : Option CachedUser :=
  match Username.tryFrom userName with
  | .error _ => none
  | .ok name =>
    match context.store.lookup name context.rootPolicy with
    | none => none
    | some data => some { data, keys := context.store.keys data context.provider }

-- The user named in the request: the cached one, or else looked up together with the keys.
def resolve (context : Context σ ρ) (cached : Option CachedUser) (userName : String) :
    Option CachedUser :=
  match cached with
  | some user => if user.data.name.text = userName then some user else lookupUser context userName
  | none => lookupUser context userName

-- `cached` holds the user by now, so the branch of the source that misses it is left out.
def verified (context : Context σ ρ) (request : UserAuthRequest) (publicKey : PublicKey)
    (user : CachedUser) (attempts : UInt8) (sig : Signature) (authorizedKey : AuthorizedKey) :
    Emit σ AuthReply Error AuthenticationState :=
  let message := SignatureData.encode {
    sessionId := context.sessionId.bytes
    userName := user.data.name.text
    serviceName := request.serviceName
    algorithm := publicKey.algorithm
    publicKey := publicKey.keyBlob }
  match sig.encode with
  | .error _ => sendAuthFailed (some user) attempts
  | .ok signature =>
    match authorizedKey.verify message signature with
    | .ok () => do
      reply .success
      pure (.complete { user := user.data, options := authorizedKey.options })
    | .error _ => sendAuthFailed (some user) attempts

def selected (context : Context σ ρ) (request : UserAuthRequest) (publicKey : PublicKey)
    (user : CachedUser) (attempts : UInt8) : Emit σ AuthReply Error AuthenticationState :=
  match publicKey.signature, user.keys.find? fun key => key.matchesKey publicKey with
  | some sig, some key =>
    if sig.algorithm = key.algorithm then verified context request publicKey user attempts sig key
    else sendAuthFailed (some user) attempts
  | some sig, none =>
    match fakeKey context.base64 publicKey.algorithm context.provider with
    | .ok key => verified context request publicKey user attempts sig key
    | .error _ => sendAuthFailed (some user) attempts
  | none, some _ => do
    reply (.pkOk { algorithm := publicKey.algorithm, keyBlob := publicKey.keyBlob })
    pure (.awaitAuthRequest (some user) attempts)
  | none, none => sendAuthFailed (some user) attempts

def handleServiceRequest (packet : IncomingPacket) : Emit σ AuthReply Error AuthenticationState := do
  let request ← embedded (ServiceRequest.tryFrom packet)
  match request.serviceName with
  | .userAuth => do
    reply (.serviceAccept { serviceName := .userAuth })
    pure (.awaitAuthRequest none 6)
  | _ =>
    throw (.error (.proto
      (.serviceNotAvailable "only user authentication service is supported")))

def handleAuthRequest (context : Context σ ρ) (cached : Option CachedUser) (attempts : UInt8)
    (packet : IncomingPacket) : Emit σ AuthReply Error AuthenticationState :=
  let attempts := attempts - 1
  if attempts = 0 then throw (.error (.auth .tooManyAttempts))
  else do
    let request ← embedded (UserAuthRequest.tryFrom packet)
    if request.serviceName != .connection then
      throw (.error (.proto (.serviceNotAvailable "only connection service is supported")))
    else
      match request.method with
      | .none => sendAuthFailed cached attempts
      | .publicKey publicKey =>
        match resolve context cached request.userName with
        | none => sendAuthFailed cached attempts
        | some user => selected context request publicKey user attempts

def handle (context : Context σ ρ) (state : AuthenticationState) (packet : IncomingPacket) :
    Emit σ AuthReply Error AuthenticationState :=
  match state, packet.messageType with
  | state, .ignore | state, .debug => pure state
  | _, .disconnect => throw (.error (.auth .canceled))
  | .awaitServiceRequest, .serviceRequest => handleServiceRequest packet
  | .awaitAuthRequest cached attempts, .userAuthRequest =>
    handleAuthRequest context cached attempts packet
  | _, _ => throw (.error (.invalidState "unexpected packet received during authentication"))

end AuthenticationState

end Oxish
