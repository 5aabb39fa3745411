import Oxish.AuthenticationCore
import Oxish.AuthorizedKeyReading
import Oxish.Lib.History
import Oxish.Lib.Outcome
import Oxish.Outbox
import Oxish.PacketEncoding
import Oxish.ProviderCore

/-!
What authentication accepts. `Stepped` lists the moves a successful step can make; a run can
complete only by a verified signature, and the user it was verified for is the one that the
store returned for the name in the request.
-/

namespace Oxish

open Stateful

theorem UserAuthRequest.tryFrom_type {packet : IncomingPacket} {request : UserAuthRequest}
    (parsed : UserAuthRequest.tryFrom packet = .ok request) :
    packet.messageType = .userAuthRequest := by
  by_contra wrong
  rw [UserAuthRequest.tryFrom, IncomingPacket.expect_wrong wrong] at parsed
  cases parsed

theorem Username.tryFrom_text (name : Username) : Username.tryFrom name.text = .ok name := by
  simp only [Username.tryFrom, name.valid, ↓reduceDIte]

theorem ServiceName.connection_of_not_bne {service : ServiceName}
    (same : (service != .connection) = false) : Named.name service = "ssh-connection" := by
  have equal : (service == .connection) = true := by simpa only [bne, Bool.not_eq_false'] using same
  exact beq_iff_eq.mp equal

namespace AuthenticationState

variable {σ ρ : Type}

def signatureData (context : Context σ ρ) (request : UserAuthRequest) (publicKey : PublicKey)
    (user : CachedUser) : SignatureData where
  sessionId := context.sessionId.bytes
  userName := user.data.name.text
  serviceName := request.serviceName
  algorithm := publicKey.algorithm
  publicKey := publicKey.keyBlob

def Accepts (context : Context σ ρ) (request : UserAuthRequest) (publicKey : PublicKey)
    (user : CachedUser) (sig : Signature) (key : AuthorizedKey) : Prop :=
  ∃ signature, sig.encode = .ok signature ∧
    key.verify (signatureData context request publicKey user).encode signature = .ok ()

/-- The key the signature is checked with: the first one of the user that is the key of the request,
or the decoy if the user has none. -/
def Chosen (context : Context σ ρ) (publicKey : PublicKey) (user : CachedUser) (sig : Signature)
    (key : AuthorizedKey) : Prop :=
  user.keys.find? (fun key => key.matchesKey publicKey) = some key ∧ sig.algorithm = key.algorithm ∨
  user.keys.find? (fun key => key.matchesKey publicKey) = none ∧
    fakeKey context.base64 publicKey.algorithm context.provider = .ok key

inductive Stepped (context : Context σ ρ) :
    AuthenticationState → IncomingPacket → AuthenticationState → Prop
  | ignored {state packet} (transport : packet.messageType = .ignore ∨ packet.messageType = .debug) :
      Stepped context state packet state
  | serviceAccepted {packet}
      (requested : ServiceRequest.tryFrom packet = .ok { serviceName := .userAuth }) :
      Stepped context .awaitServiceRequest packet (.awaitAuthRequest none 6)
  | refused {cached attempts packet} :
      Stepped context (.awaitAuthRequest cached attempts) packet
        (.awaitAuthRequest cached (attempts - 1))
  | resolved {cached attempts packet userName user}
      (found : resolve context cached userName = some user) :
      Stepped context (.awaitAuthRequest cached attempts) packet
        (.awaitAuthRequest (some user) (attempts - 1))
  | completed {cached attempts packet request publicKey user sig key}
      (parsed : UserAuthRequest.tryFrom packet = .ok request)
      (service : (request.serviceName != .connection) = false)
      (method : request.method = .publicKey publicKey)
      (found : resolve context cached request.userName = some user)
      (signed : publicKey.signature = some sig)
      (chosen : Chosen context publicKey user sig key)
      (accepted : Accepts context request publicKey user sig key) :
      Stepped context (.awaitAuthRequest cached attempts) packet
        (.complete { user := user.data, options := key.options })

variable [SealingKey σ]

theorem reply_cases (message : AuthReply) (next : AuthenticationState)
    (outbox : Outbox σ AuthReply) :
    (∃ last, exec (do reply message; pure next) outbox = (.ok next, last) ∧
      last.sent = outbox.sent ++ [message] ∧
      (outbox.write.encode (Encode.encode message)).2 = .ok ()) ∨
    (∃ stop last, exec (do reply message; pure next) outbox = (.error stop, last) ∧
      last.sent = outbox.sent ∧ (outbox.write.encode (Encode.encode message)).2 ≠ .ok ()) := by
  rw [reply, exec_bind, exec_emit]
  cases encoded : outbox.encode Error.proto message with
  | mk result last =>
      cases result with
      | ok done =>
          obtain ⟨sent, written⟩ := Outbox.encode_ok encoded
          exact Or.inl ⟨last, rfl, sent, by rw [written]⟩
      | error stop =>
          obtain ⟨sent, failed⟩ := Outbox.encode_error encoded
          exact Or.inr ⟨stop, last, rfl, sent, failed⟩

theorem reply_ok {message : AuthReply} {state next : AuthenticationState}
    {outbox last : Outbox σ AuthReply}
    (done : exec (do reply message; pure state) outbox = (.ok next, last)) : next = state := by
  rcases reply_cases message state outbox with ⟨_, ran, _⟩ | ⟨_, _, ran, _⟩
  · rw [ran] at done
    cases done
    rfl
  · rw [ran] at done
    cases done

def Refused (outbox : Outbox σ AuthReply)
    (outcome : Except (Stop Error) AuthenticationState × Outbox σ AuthReply) : Prop :=
  match outcome with
  | (.ok next, last) =>
    last.sent = outbox.sent ++ [authFailed] ∧
      ∃ cached attempts, next = .awaitAuthRequest cached attempts
  | (.error _, last) => last.sent = outbox.sent

theorem sendAuthFailed_refused (cached : Option CachedUser) (attempts : UInt8)
    (outbox : Outbox σ AuthReply) :
    Refused outbox (exec (sendAuthFailed cached attempts) outbox) := by
  rcases reply_cases authFailed (.awaitAuthRequest cached attempts) outbox with
    ⟨last, ran, sent, _⟩ | ⟨stop, last, ran, sent, _⟩
  · rw [sendAuthFailed, ran]
    exact ⟨sent, cached, attempts, rfl⟩
  · rw [sendAuthFailed, ran]
    exact sent

omit [SealingKey σ] in
theorem throw_refused (stop : Stop Error) (outbox : Outbox σ AuthReply) :
    Refused outbox (exec (throw stop : Emit σ AuthReply Error AuthenticationState) outbox) := rfl

theorem verified_refused_iff (context : Context σ ρ) (request : UserAuthRequest)
    (publicKey : PublicKey) (user : CachedUser) (attempts : UInt8) (sig : Signature)
    (key : AuthorizedKey) (outbox : Outbox σ AuthReply) :
    Refused outbox (exec (verified context request publicKey user attempts sig key) outbox) ↔
      ¬ (Accepts context request publicKey user sig key ∧
        (outbox.write.encode (Encode.encode AuthReply.success)).2 = .ok ()) := by
  unfold verified
  split
  · rename_i error malformed
    refine iff_of_true (sendAuthFailed_refused _ _ outbox) ?_
    rintro ⟨⟨signature, encoded, _⟩, _⟩
    rw [malformed] at encoded
    cases encoded
  · rename_i signature encoded
    dsimp only
    split
    · rename_i accepts
      rcases reply_cases .success (.complete { user := user.data, options := key.options }) outbox
        with ⟨last, ran, sent, written⟩ | ⟨stop, last, ran, sent, failed⟩
      · rw [ran]
        refine iff_of_false ?_ (not_not.mpr ⟨⟨signature, encoded, accepts⟩, written⟩)
        rintro ⟨_, cached, attempts, next⟩
        cases next
      · rw [ran]
        exact iff_of_true sent fun accepted => failed accepted.2
    · rename_i error rejects
      refine iff_of_true (sendAuthFailed_refused _ _ outbox) ?_
      rintro ⟨⟨other, encodes, accepts⟩, _⟩
      rw [encoded] at encodes
      cases encodes
      rw [signatureData] at accepts
      cases accepts.symm.trans rejects

theorem verified_ok {context : Context σ ρ} {request : UserAuthRequest} {publicKey : PublicKey}
    {user : CachedUser} {attempts : UInt8} {sig : Signature} {key : AuthorizedKey}
    {outbox last : Outbox σ AuthReply} {next : AuthenticationState}
    (done : exec (verified context request publicKey user attempts sig key) outbox =
      (.ok next, last)) :
    next = .awaitAuthRequest (some user) attempts ∨
      Accepts context request publicKey user sig key ∧
        next = .complete { user := user.data, options := key.options } := by
  unfold verified at done
  split at done
  · exact Or.inl (reply_ok done)
  · rename_i signature encoded
    dsimp only at done
    split at done
    · rename_i accepts
      exact Or.inr ⟨⟨signature, encoded, accepts⟩, reply_ok done⟩
    · exact Or.inl (reply_ok done)

theorem selected_ok {context : Context σ ρ} {request : UserAuthRequest} {publicKey : PublicKey}
    {user : CachedUser} {attempts : UInt8} {outbox last : Outbox σ AuthReply}
    {next : AuthenticationState}
    (done : exec (selected context request publicKey user attempts) outbox = (.ok next, last)) :
    next = .awaitAuthRequest (some user) attempts ∨
      ∃ sig key, publicKey.signature = some sig ∧ Chosen context publicKey user sig key ∧
        Accepts context request publicKey user sig key ∧
        next = .complete { user := user.data, options := key.options } := by
  unfold selected at done
  split at done
  · rename_i sig key signed found
    split at done
    · rename_i same
      rcases verified_ok done with waiting | ⟨accepted, complete⟩
      · exact Or.inl waiting
      · exact Or.inr ⟨sig, key, signed, Or.inl ⟨found, same⟩, accepted, complete⟩
    · exact Or.inl (reply_ok done)
  · rename_i sig signed unknown
    split at done
    · rename_i key decoy
      rcases verified_ok done with waiting | ⟨accepted, complete⟩
      · exact Or.inl waiting
      · exact Or.inr ⟨sig, key, signed, Or.inr ⟨unknown, decoy⟩, accepted, complete⟩
    · exact Or.inl (reply_ok done)
  · exact Or.inl (reply_ok done)
  · exact Or.inl (reply_ok done)

omit [SealingKey σ] in
theorem embedded_ok {α β : Type} {outcome : Except ProtoError α}
    {next : α → Emit σ AuthReply Error β} {outbox last : Outbox σ AuthReply} {result : β}
    (done : exec (embedded outcome >>= next) outbox = (.ok result, last)) :
    ∃ value, outcome = .ok value ∧ exec (next value) outbox = (.ok result, last) := by
  obtain ⟨value, mapped, rest⟩ := exec_attempt_ok.mp done
  cases outcome with
  | ok other =>
      cases mapped
      exact ⟨value, rfl, rest⟩
  | error error => cases mapped

theorem handleServiceRequest_ok {context : Context σ ρ} {packet : IncomingPacket}
    {outbox last : Outbox σ AuthReply} {next : AuthenticationState}
    (done : exec (handleServiceRequest packet) outbox = (.ok next, last)) :
    Stepped context .awaitServiceRequest packet next := by
  obtain ⟨⟨serviceName⟩, requested, done⟩ := embedded_ok done
  cases serviceName with
  | userAuth => exact reply_ok done ▸ .serviceAccepted requested
  | connection => cases done
  | unknown name => cases done

theorem handleAuthRequest_ok {context : Context σ ρ} {cached : Option CachedUser}
    {attempts : UInt8} {packet : IncomingPacket} {outbox last : Outbox σ AuthReply}
    {next : AuthenticationState}
    (done : exec (handleAuthRequest context cached attempts packet) outbox = (.ok next, last)) :
    Stepped context (.awaitAuthRequest cached attempts) packet next := by
  unfold handleAuthRequest at done
  dsimp only at done
  split at done
  · cases done
  · obtain ⟨request, parsed, done⟩ := embedded_ok done
    split at done
    · cases done
    · rename_i service
      split at done
      · exact reply_ok done ▸ .refused
      · rename_i publicKey method
        split at done
        · exact reply_ok done ▸ .refused
        · rename_i user found
          rcases selected_ok done with waiting | ⟨sig, key, signed, chosen, accepted, complete⟩
          · exact waiting ▸ .resolved found
          · exact complete ▸ .completed parsed (Bool.eq_false_iff.mpr service) method found signed
              chosen accepted

theorem handle_ok {context : Context σ ρ} {state next : AuthenticationState}
    {packet : IncomingPacket} {outbox last : Outbox σ AuthReply}
    (done : exec (handle context state packet) outbox = (.ok next, last)) :
    Stepped context state packet next := by
  unfold handle at done
  split at done
  · rename_i transport
    cases done
    exact .ignored (Or.inl transport)
  · rename_i transport
    cases done
    exact .ignored (Or.inr transport)
  · cases done
  · exact handleServiceRequest_ok done
  · exact handleAuthRequest_ok done
  · cases done

/-- The decoy key accepts the signature, everything before that point passes, and the message
that reports success can be written. -/
def DecoyAccepts (context : Context σ ρ) (state : AuthenticationState) (request : UserAuthRequest)
    (publicKey : PublicKey) (sig : Signature) (outbox : Outbox σ AuthReply) : Prop :=
  ∃ cached attempts user key, state = .awaitAuthRequest cached attempts ∧ attempts - 1 ≠ 0 ∧
    (request.serviceName != .connection) = false ∧
    resolve context cached request.userName = some user ∧
    fakeKey context.base64 publicKey.algorithm context.provider = .ok key ∧
    Accepts context request publicKey user sig key ∧
    (outbox.write.encode (Encode.encode AuthReply.success)).2 = .ok ()

theorem selected_unauthorized_iff (context : Context σ ρ) (request : UserAuthRequest)
    {publicKey : PublicKey} {sig : Signature} (signed : publicKey.signature = some sig)
    {user : CachedUser} (unauthorized : ∀ key ∈ user.keys, key.matchesKey publicKey = false)
    (attempts : UInt8) (outbox : Outbox σ AuthReply) :
    Refused outbox (exec (selected context request publicKey user attempts) outbox) ↔
      ¬ ∃ key, fakeKey context.base64 publicKey.algorithm context.provider = .ok key ∧
        Accepts context request publicKey user sig key ∧
        (outbox.write.encode (Encode.encode AuthReply.success)).2 = .ok () := by
  have missing : user.keys.find? (fun key => key.matchesKey publicKey) = none := by
    rw [List.find?_eq_none]
    intro key member
    rw [unauthorized key member]
    exact Bool.false_ne_true
  simp only [selected, signed, missing]
  cases decoy : fakeKey context.base64 publicKey.algorithm context.provider with
  | error error =>
      refine iff_of_true (sendAuthFailed_refused _ _ outbox) ?_
      rintro ⟨key, built, _⟩
      cases built
  | ok key =>
      dsimp only
      rw [verified_refused_iff, not_iff_not]
      constructor
      · intro accepted
        exact ⟨key, rfl, accepted⟩
      · rintro ⟨other, built, accepted⟩
        cases built
        exact accepted

theorem handleAuthRequest_parsed {context : Context σ ρ} {packet : IncomingPacket}
    {request : UserAuthRequest} {publicKey : PublicKey}
    (parsed : UserAuthRequest.tryFrom packet = .ok request)
    (method : request.method = .publicKey publicKey) (cached : Option CachedUser)
    (attempts : UInt8) :
    handleAuthRequest context cached attempts packet =
      if attempts - 1 = 0 then throw (.error (.auth .tooManyAttempts))
      else if request.serviceName != .connection then
        throw (.error (.proto (.serviceNotAvailable "only connection service is supported")))
      else
        match resolve context cached request.userName with
        | none => sendAuthFailed cached (attempts - 1)
        | some user => selected context request publicKey user (attempts - 1) := by
  obtain ⟨userName, serviceName, _⟩ := request
  subst method
  rw [handleAuthRequest, parsed]
  rfl

/-- A signed request that no authorized key matches is refused exactly when the decoy key does
not accept its signature. -/
theorem decoy_refused_iff (context : Context σ ρ) (state : AuthenticationState)
    (packet : IncomingPacket) (outbox : Outbox σ AuthReply) (request : UserAuthRequest)
    (publicKey : PublicKey) (sig : Signature)
    (parsed : UserAuthRequest.tryFrom packet = .ok request)
    (method : request.method = .publicKey publicKey) (signed : publicKey.signature = some sig)
    (unauthorized : ∀ cached attempts user, state = .awaitAuthRequest cached attempts →
      resolve context cached request.userName = some user →
      ∀ key ∈ user.keys, key.matchesKey publicKey = false) :
    Refused outbox (exec (handle context state packet) outbox) ↔
      ¬ DecoyAccepts context state request publicKey sig outbox := by
  have messageType := UserAuthRequest.tryFrom_type parsed
  cases state with
  | awaitServiceRequest =>
      refine iff_of_true ?_ ?_
      · simp only [handle, messageType]
        exact throw_refused _ outbox
      · rintro ⟨cached, attempts, user, key, same, _⟩
        cases same
  | complete authenticated =>
      refine iff_of_true ?_ ?_
      · simp only [handle, messageType]
        exact throw_refused _ outbox
      · rintro ⟨cached, attempts, user, key, same, _⟩
        cases same
  | awaitAuthRequest cached attempts =>
      simp only [handle, messageType, handleAuthRequest_parsed parsed method]
      by_cases last : attempts - 1 = 0
      · simp only [last, ↓reduceIte]
        refine iff_of_true (throw_refused _ outbox) ?_
        rintro ⟨_, _, user, key, same, counted, _⟩
        cases same
        exact counted last
      · simp only [last, ↓reduceIte]
        cases service : request.serviceName != .connection with
        | true =>
            refine iff_of_true (throw_refused _ outbox) ?_
            rintro ⟨_, _, user, key, _, _, connection, _⟩
            cases service.symm.trans connection
        | false =>
            simp only [Bool.false_eq_true, ↓reduceIte]
            cases found : resolve context cached request.userName with
            | none =>
                refine iff_of_true (sendAuthFailed_refused _ _ outbox) ?_
                rintro ⟨_, _, user, key, same, _, _, resolved, _⟩
                cases same
                cases found.symm.trans resolved
            | some user =>
                dsimp only
                rw [selected_unauthorized_iff context request signed
                  (unauthorized cached attempts user rfl found), not_iff_not]
                constructor
                · rintro ⟨key, built, accepted, written⟩
                  exact ⟨cached, attempts, user, key, rfl, last, service, found, built, accepted,
                    written⟩
                · rintro ⟨_, _, other, key, same, _, _, resolved, built, accepted, written⟩
                  cases same
                  cases found.symm.trans resolved
                  exact ⟨key, built, accepted, written⟩

end AuthenticationState

theorem fakeKey_ok {σ ρ : Type} {base64 : Bytes → Option Bytes} {algorithm : PublicKeyAlgorithm}
    {provider : CryptoProvider σ ρ} {key : AuthorizedKey}
    (built : fakeKey base64 algorithm provider = .ok key) :
    ∃ line, AuthorizedKey.fromStr base64 line provider = some key := by
  unfold fakeKey at built
  dsimp only at built
  split at built
  · split at built
    · rename_i read
      cases built
      exact ⟨_, read⟩
    · cases built
  · split at built
    · rename_i read
      cases built
      exact ⟨_, read⟩
    · cases built
  · cases built

def ed25519FakeBlob : Bytes :=
  encodeBytes (strBytes "ssh-ed25519") ++ encodeBytes
    [53, 254, 24, 208, 158, 138, 72, 33, 71, 112, 54, 108, 176, 116, 42, 105, 104, 190, 172, 93, 11,
      224, 84, 28, 7, 216, 133, 129, 156, 80, 156, 64]

def rootUser (name : Username) : User where
  name := name
  id := 0
  gid := 0
  homeDir := strBytes "/root"
  shell := strBytes "/bin/sh"

def plainContext (keys : List AuthorizedKey) (verifies : (key message signature : Bytes) → Bool) :
    AuthenticationState.Context PlainSealer PlainOpener where
  sessionId := ⟨[], by simp⟩
  store := { lookup := fun name _ => some (rootUser name), keys := fun _ _ => keys }
  rootPolicy := .allow
  provider := Backend.awsLc.provider { plainPrimitives with ed25519Verifies := verifies }
  base64 _ := some ed25519FakeBlob

def rootPublicKey : PublicKey where
  algorithm := .ed25519
  keyBlob := [7]
  signature := some { algorithm := .ed25519, signatureBlob := [8] }

def rootRequest : UserAuthRequest where
  userName := "root"
  serviceName := .connection
  method := .publicKey rootPublicKey

def rootPacket : IncomingPacket where
  sequenceNumber := 4
  messageType := .userAuthRequest
  payload := encodeBytes (strBytes "root") ++ encodeNamed ServiceName.connection ++
    encodeNamed MethodName.publicKey ++ encodeBool true ++
    encodeNamed PublicKeyAlgorithm.ed25519 ++ encodeBytes [7] ++
    encodeBytes (encodeNamed PublicKeyAlgorithm.ed25519 ++ encodeBytes [8])

def plainOutbox : Outbox PlainSealer AuthReply := { write := WriteState.new (constantRandom 6) }

namespace AuthenticationState

theorem plainContext_decoyRejects (keys : List AuthorizedKey) (algorithm : PublicKeyAlgorithm)
    (key : AuthorizedKey) (message signature : Bytes)
    (built : fakeKey (plainContext keys fun _ _ _ => false).base64 algorithm
      (plainContext keys fun _ _ _ => false).provider = .ok key) :
    key.verify message signature ≠ .ok () := by
  obtain ⟨line, read⟩ := fakeKey_ok built
  obtain ⟨carries, next, value, made⟩ := AuthorizedKey.fromStr_carries read
  have blob : ed25519FakeBlob = key.blob := Option.some.inj carries.decoded
  have named := made.named
  have verifies := made.verifies
  rw [← blob, ed25519FakeBlob, decodeBytes_encodeBytes (by decide)] at named
  rcases made.known with ecdsa | ed25519
  · rw [ecdsa] at named
    have same : strBytes "ssh-ed25519" = strBytes "ecdsa-sha2-nistp256" :=
      congrArg Decoded.value (Except.ok.inj named)
    exact absurd same (by decide)
  · rw [ed25519] at verifies
    have rejects : Primitives.verifyingKeyOf (fun _ _ => false) = key.key := Except.ok.inj verifies
    rw [AuthorizedKey.verify, ← rejects]
    exact nofun

set_option maxRecDepth 20000 in
theorem decoy_refused_iff_rejected :
    Refused plainOutbox (exec (handle (plainContext [] fun _ _ _ => false)
      (.awaitAuthRequest none 6) rootPacket) plainOutbox) := by
  refine (decoy_refused_iff _ _ rootPacket plainOutbox rootRequest rootPublicKey _ rfl rfl rfl
    ?_).mpr ?_
  · intro cached attempts user same found key member
    cases same
    cases found
    cases member
  · rintro ⟨cached, attempts, user, key, _, _, _, _, built, ⟨signature, _, accepted⟩, _⟩
    exact plainContext_decoyRejects [] _ key _ _ built accepted

set_option maxRecDepth 20000 in
theorem decoy_authenticates :
    UserAuthRequest.tryFrom rootPacket = .ok rootRequest ∧
      resolve (plainContext [] fun _ _ _ => true) none "root" =
        some { data := rootUser ⟨"root", rfl⟩, keys := [] } ∧
      (exec (handle (plainContext [] fun _ _ _ => true) (.awaitAuthRequest none 6) rootPacket)
        plainOutbox).1 = .ok (.complete { user := rootUser ⟨"root", rfl⟩, options := {} }) ∧
      (exec (handle (plainContext [] fun _ _ _ => true) (.awaitAuthRequest none 6) rootPacket)
        plainOutbox).2.sent = [.success] := by
  refine ⟨rfl, rfl, rfl, rfl⟩

variable {σ ρ : Type} [SealingKey σ]

structure AuthCall (σ : Type) where
  packet : IncomingPacket
  write : WriteState σ

def step (context : Context σ ρ) (state : AuthenticationState) (call : AuthCall σ) :
    Option AuthenticationState :=
  (exec (handle context state call.packet) { write := call.write }).1.toOption

theorem step_some {context : Context σ ρ} {state next : AuthenticationState} {call : AuthCall σ}
    (stepped : step context state call = some next) : Stepped context state call.packet next := by
  unfold step at stepped
  generalize ran : exec (handle context state call.packet) { write := call.write } = outcome
    at stepped
  obtain ⟨result, last⟩ := outcome
  cases result with
  | ok other =>
      cases stepped
      exact handle_ok ran
  | error stop => cases stepped

def ServiceAccepted (context : Context σ ρ) (calls : List (AuthCall σ)) : Prop :=
  ∃ before service after, calls = before ++ service :: after ∧
    History.run (step context) default before = some .awaitServiceRequest ∧
    ServiceRequest.tryFrom service.packet = .ok { serviceName := .userAuth } ∧
    step context .awaitServiceRequest service = some (.awaitAuthRequest none 6)

/-- The packet proves, for the user the store has under the name in the request, possession of
the first authorized key of that user that matches the request. -/
def Bound (context : Context σ ρ) (packet : IncomingPacket) (auth : Authenticated) : Prop :=
  ∃ request publicKey sig name key signature,
    UserAuthRequest.tryFrom packet = .ok request ∧
    Named.name request.serviceName = "ssh-connection" ∧
    request.method = .publicKey publicKey ∧ publicKey.signature = some sig ∧
    Username.tryFrom request.userName = .ok name ∧
    context.store.lookup name context.rootPolicy = some auth.user ∧
    (context.store.keys auth.user context.provider).find? (fun key => key.matchesKey publicKey) =
      some key ∧
    sig.algorithm = key.algorithm ∧ sig.encode = .ok signature ∧
    key.verify (SignatureData.encode {
      sessionId := context.sessionId.bytes
      userName := request.userName
      serviceName := .connection
      algorithm := publicKey.algorithm
      publicKey := publicKey.keyBlob }) signature = .ok () ∧
    auth.options = key.options

/-- No key of that user matches the request, and the decoy has accepted the signature. -/
def Decoyed (context : Context σ ρ) (packet : IncomingPacket) (auth : Authenticated) : Prop :=
  ∃ request publicKey sig name key signature,
    UserAuthRequest.tryFrom packet = .ok request ∧
    Named.name request.serviceName = "ssh-connection" ∧
    request.method = .publicKey publicKey ∧ publicKey.signature = some sig ∧
    Username.tryFrom request.userName = .ok name ∧
    context.store.lookup name context.rootPolicy = some auth.user ∧
    (context.store.keys auth.user context.provider).find? (fun key => key.matchesKey publicKey) =
      none ∧
    fakeKey context.base64 publicKey.algorithm context.provider = .ok key ∧
    sig.encode = .ok signature ∧
    key.verify (SignatureData.encode {
      sessionId := context.sessionId.bytes
      userName := request.userName
      serviceName := .connection
      algorithm := publicKey.algorithm
      publicKey := publicKey.keyBlob }) signature = .ok () ∧
    auth.options = key.options

def CacheCurrent (context : Context σ ρ) (cached : Option CachedUser) : Prop :=
  ∀ user, cached = some user →
    context.store.lookup user.data.name context.rootPolicy = some user.data ∧
      user.keys = context.store.keys user.data context.provider

omit [SealingKey σ] in
theorem lookupUser_some {context : Context σ ρ} {userName : String} {user : CachedUser}
    (found : lookupUser context userName = some user) :
    ∃ name, Username.tryFrom userName = .ok name ∧
      context.store.lookup name context.rootPolicy = some user.data ∧
      user.keys = context.store.keys user.data context.provider := by
  unfold lookupUser at found
  split at found
  · cases found
  · rename_i name valid
    split at found
    · cases found
    · rename_i data stored
      cases found
      exact ⟨name, valid, stored, rfl⟩

omit [SealingKey σ] in
theorem resolve_some {context : Context σ ρ} {cached : Option CachedUser} {userName : String}
    {user : CachedUser} (found : resolve context cached userName = some user) :
    (cached = some user ∧ user.data.name.text = userName) ∨
      lookupUser context userName = some user := by
  unfold resolve at found
  split at found
  · split at found
    · rename_i same
      cases found
      exact .inl ⟨rfl, same⟩
    · exact .inr found
  · exact .inr found

omit [SealingKey σ] in
theorem lookupUser_current {context : Context σ ρ}
    (lookupNamed : ∀ name user, context.store.lookup name context.rootPolicy = some user →
      user.name = name)
    {userName : String} {user : CachedUser} (found : lookupUser context userName = some user) :
    user.data.name.text = userName ∧ CacheCurrent context (some user) := by
  obtain ⟨name, valid, stored, keys⟩ := lookupUser_some found
  have named := lookupNamed name user.data stored
  refine ⟨?_, ?_⟩
  · unfold Username.tryFrom at valid
    split at valid
    · cases valid
      exact congrArg Username.text named
    · cases valid
  · intro user same
    cases same
    exact ⟨by rw [named]; exact stored, keys⟩

omit [SealingKey σ] in
theorem resolve_current {context : Context σ ρ}
    (lookupNamed : ∀ name user, context.store.lookup name context.rootPolicy = some user →
      user.name = name)
    {cached : Option CachedUser} (current : CacheCurrent context cached) {userName : String}
    {user : CachedUser} (found : resolve context cached userName = some user) :
    user.data.name.text = userName ∧ CacheCurrent context (some user) := by
  rcases resolve_some found with ⟨rfl, same⟩ | looked
  · exact ⟨same, current⟩
  · exact lookupUser_current lookupNamed looked

/-- The run was completed by a bound packet, and only ignored packets came after it. -/
def Concluded (context : Context σ ρ) (calls : List (AuthCall σ)) (auth : Authenticated) : Prop :=
  ∃ before accepted after cached attempts, calls = before ++ accepted :: after ∧
    ServiceAccepted context before ∧
    History.run (step context) default before = some (.awaitAuthRequest cached attempts) ∧
    step context (.awaitAuthRequest cached attempts) accepted = some (.complete auth) ∧
    Bound context accepted.packet auth ∧
    ∀ call ∈ after, call.packet.messageType = .ignore ∨ call.packet.messageType = .debug

def Reached (context : Context σ ρ) (calls : List (AuthCall σ)) : AuthenticationState → Prop
  | .awaitServiceRequest => True
  | .awaitAuthRequest cached _ => ServiceAccepted context calls ∧ CacheCurrent context cached
  | .complete auth => Concluded context calls auth

theorem ServiceAccepted.snoc {context : Context σ ρ} {calls : List (AuthCall σ)}
    (accepted : ServiceAccepted context calls) (call : AuthCall σ) :
    ServiceAccepted context (calls ++ [call]) := by
  obtain ⟨before, service, after, rfl, ran, requested, stepped⟩ := accepted
  exact ⟨before, service, after ++ [call], by simp, ran, requested, stepped⟩

theorem Concluded.snoc {context : Context σ ρ} {calls : List (AuthCall σ)} {auth : Authenticated}
    (concluded : Concluded context calls auth) {call : AuthCall σ}
    (transport : call.packet.messageType = .ignore ∨ call.packet.messageType = .debug) :
    Concluded context (calls ++ [call]) auth := by
  obtain ⟨before, accepted, after, cached, attempts, rfl, service, ran, stepped, bound, ignored⟩ :=
    concluded
  refine ⟨before, accepted, after ++ [call], cached, attempts, by simp, service, ran, stepped,
    bound, ?_⟩
  intro other member
  rcases List.mem_append.mp member with earlier | last
  · exact ignored other earlier
  · rw [List.mem_singleton.mp last]
    exact transport

omit [SealingKey σ] in
theorem signatureData_encode {context : Context σ ρ} {request : UserAuthRequest}
    {publicKey : PublicKey} {user : CachedUser}
    (service : Named.name request.serviceName = "ssh-connection")
    (named : user.data.name.text = request.userName) :
    (signatureData context request publicKey user).encode = SignatureData.encode {
      sessionId := context.sessionId.bytes
      userName := request.userName
      serviceName := .connection
      algorithm := publicKey.algorithm
      publicKey := publicKey.keyBlob } := by
  have encoded : encodeNamed request.serviceName = encodeNamed ServiceName.connection := by
    rw [encodeNamed, service]
    rfl
  simp only [SignatureData.encode, signatureData, encoded, named]

section Binding

variable {context : Context σ ρ}
  (decoyRejects : ∀ algorithm key message signature,
    fakeKey context.base64 algorithm context.provider = .ok key →
    key.verify message signature ≠ .ok ())
  (lookupNamed : ∀ name user, context.store.lookup name context.rootPolicy = some user →
    user.name = name)

include lookupNamed

omit [SealingKey σ] in
theorem completed_bound_or_decoyed {cached : Option CachedUser} (current : CacheCurrent context cached)
    {packet : IncomingPacket} {request : UserAuthRequest} {publicKey : PublicKey}
    {user : CachedUser} {sig : Signature} {key : AuthorizedKey}
    (parsed : UserAuthRequest.tryFrom packet = .ok request)
    (service : (request.serviceName != .connection) = false)
    (method : request.method = .publicKey publicKey)
    (found : resolve context cached request.userName = some user)
    (signed : publicKey.signature = some sig)
    (chosen : Chosen context publicKey user sig key)
    (accepted : Accepts context request publicKey user sig key) :
    Bound context packet { user := user.data, options := key.options } ∨
      Decoyed context packet { user := user.data, options := key.options } := by
  obtain ⟨signature, encoded, verified⟩ := accepted
  obtain ⟨named, kept⟩ := resolve_current lookupNamed current found
  obtain ⟨stored, keys⟩ := kept user rfl
  have connection := ServiceName.connection_of_not_bne service
  have name : Username.tryFrom request.userName = .ok user.data.name := by
    rw [← named]
    exact Username.tryFrom_text user.data.name
  rw [signatureData_encode connection named] at verified
  unfold Chosen at chosen
  rw [keys] at chosen
  rcases chosen with ⟨first, same⟩ | ⟨unknown, decoy⟩
  · exact .inl ⟨request, publicKey, sig, user.data.name, key, signature, parsed, connection, method,
      signed, name, stored, first, same, encoded, verified, rfl⟩
  · exact .inr ⟨request, publicKey, sig, user.data.name, key, signature, parsed, connection, method,
      signed, name, stored, unknown, decoy, encoded, verified, rfl⟩

include decoyRejects

theorem step_reached {past : List (AuthCall σ)} {state next : AuthenticationState}
    {call : AuthCall σ} (ran : History.run (step context) default past = some state)
    (reached : Reached context past state) (stepped : step context state call = some next) :
    Reached context (past ++ [call]) next := by
  have moved := step_some stepped
  cases moved with
  | ignored transport =>
      cases state with
      | awaitServiceRequest => exact trivial
      | awaitAuthRequest cached attempts => exact ⟨reached.1.snoc call, reached.2⟩
      | complete auth => exact Concluded.snoc reached transport
  | serviceAccepted requested =>
      refine ⟨⟨past, call, [], rfl, ran, requested, stepped⟩, ?_⟩
      intro user same
      cases same
  | refused => exact ⟨reached.1.snoc call, reached.2⟩
  | resolved found =>
      exact ⟨reached.1.snoc call, (resolve_current lookupNamed reached.2 found).2⟩
  | completed parsed service method found signed chosen accepted =>
      refine ⟨past, call, [], _, _, rfl, reached.1, ran, stepped, ?_, ?_⟩
      · rcases completed_bound_or_decoyed lookupNamed reached.2 parsed service method found signed
          chosen accepted with bound | ⟨_, _, _, _, _, _, _, _, _, _, _, _, _, decoy, _, verified, _⟩
        · exact bound
        · exact absurd verified (decoyRejects _ _ _ _ decoy)
      · intro other member
        cases member

/-- Authentication completes only on a packet that proves possession of an authorized key of
the user it completes for, whatever came before it. -/
theorem authentication_binding (calls : List (AuthCall σ)) (auth : Authenticated)
    (completed : History.run (step context) default calls = some (.complete auth)) :
    Concluded context calls auth :=
  History.run_invariant trivial (step_reached decoyRejects lookupNamed) completed

end Binding

def rootKey : AuthorizedKey where
  algorithm := .ed25519
  blob := [7]
  key := { verify := fun _ _ => .ok () }
  options := { command := some "uptime" }

def rootCalls : List (AuthCall PlainSealer) :=
  [{ packet := ⟨3, .serviceRequest, encodeNamed ServiceName.userAuth⟩, write := plainOutbox.write },
    { packet := rootPacket, write := plainOutbox.write }]

set_option maxRecDepth 20000 in
theorem authentication_binding_root :
    Concluded (plainContext [rootKey] fun _ _ _ => false) rootCalls
      { user := rootUser ⟨"root", rfl⟩, options := { command := some "uptime" } } := by
  refine authentication_binding ?_ ?_ rootCalls _ rfl
  · exact plainContext_decoyRejects [rootKey]
  · intro name user found
    cases found
    rfl

end AuthenticationState

end Oxish
