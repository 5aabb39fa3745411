import Oxish.Authentication
import Oxish.Lib.Lockstep

/-!
What the replies of authentication tell about the user store. The answer to a request depends
on the store through one thing only: the first key that the named user has authorized and that
is the key of the request. A user that the store does not have, or refuses, or has without that
key are answered alike, and a cached user answers as a fresh lookup would. Two stores that agree
on that key for every request of a run therefore cannot be told apart by the run.
-/

namespace Oxish

open Stateful

namespace AuthenticationState

variable {σ ρ : Type}

def Context.over (context : Context σ ρ) (store : UserStore σ ρ) : Context σ ρ :=
  { context with store }

def authorizedKey (context : Context σ ρ) (userName : String) (publicKey : PublicKey) :
    Option AuthorizedKey :=
  (lookupUser context userName).bind fun user => user.keys.find? fun key => key.matchesKey publicKey

def requestedMessage (context : Context σ ρ) (request : UserAuthRequest) (publicKey : PublicKey) :
    Bytes :=
  SignatureData.encode {
    sessionId := context.sessionId.bytes
    userName := request.userName
    serviceName := request.serviceName
    algorithm := publicKey.algorithm
    publicKey := publicKey.keyBlob }

/-- The keys have one algorithm and treat the signature of the request, if there is one, alike. -/
structure KeysAgree (context : Context σ ρ) (request : UserAuthRequest) (publicKey : PublicKey)
    (key other : AuthorizedKey) : Prop where
  algorithm : key.algorithm = other.algorithm
  verification : ∀ sig signature, publicKey.signature = some sig → sig.encode = .ok signature →
    (key.verify (requestedMessage context request publicKey) signature = .ok () ↔
      other.verify (requestedMessage context request publicKey) signature = .ok ())

/-- The stores authorize the key of a request alike: neither does, or both do by keys that agree. -/
def StoresAgree (context : Context σ ρ) (store other : UserStore σ ρ) (packet : IncomingPacket) :
    Prop :=
  ∀ request publicKey, UserAuthRequest.tryFrom packet = .ok request →
    request.method = .publicKey publicKey →
    Option.Rel (KeysAgree context request publicKey)
      (authorizedKey (context.over store) request.userName publicKey)
      (authorizedKey (context.over other) request.userName publicKey)

theorem resolve_eq_lookupUser {context : Context σ ρ} {cached : Option CachedUser}
    (current : CacheCurrent context cached) (userName : String) :
    resolve context cached userName = lookupUser context userName := by
  cases cached with
  | none => rfl
  | some user =>
      obtain ⟨stored, keys⟩ := current user rfl
      simp only [resolve]
      split
      · rename_i named
        simp only [lookupUser, ← named, Username.tryFrom_text, stored, ← keys]
      · rfl

variable [SealingKey σ]

/-- Two states that answer alike: the counters agree, and the caches are each one's store's. -/
inductive Similar (context other : Context σ ρ) : AuthenticationState → AuthenticationState → Prop
  | awaitServiceRequest : Similar context other .awaitServiceRequest .awaitServiceRequest
  | awaitAuthRequest {cached otherCached : Option CachedUser} (attempts : UInt8)
      (current : CacheCurrent context cached) (otherCurrent : CacheCurrent other otherCached) :
      Similar context other (.awaitAuthRequest cached attempts) (.awaitAuthRequest otherCached attempts)
  | complete (authenticated otherAuthenticated : Authenticated) :
      Similar context other (.complete authenticated) (.complete otherAuthenticated)

section Replies

variable {context other : Context σ ρ}

theorem reply_lockstep (message : AuthReply) {next otherNext : AuthenticationState}
    (similar : Similar context other next otherNext) :
    Lockstep (Similar context other) (do reply message; pure next : Emit σ AuthReply Error _)
      (do reply message; pure otherNext) :=
  Lockstep.bind_self fun _ => lockstep_pure similar

theorem sendAuthFailed_lockstep {cached otherCached : Option CachedUser} (attempts : UInt8)
    (current : CacheCurrent context cached) (otherCurrent : CacheCurrent other otherCached) :
    Lockstep (Similar context other) (sendAuthFailed cached attempts : Emit σ AuthReply Error _)
      (sendAuthFailed otherCached attempts) :=
  reply_lockstep authFailed (.awaitAuthRequest attempts current otherCurrent)

end Replies

section Answers

variable (context : Context σ ρ) {cached : Option CachedUser} {request : UserAuthRequest}
  {publicKey : PublicKey} {user : CachedUser} {attempts : UInt8} {sig : Signature}
  {key : AuthorizedKey}

def answered (context : Context σ ρ) (cached : Option CachedUser) (request : UserAuthRequest)
    (publicKey : PublicKey) (attempts : UInt8) : Emit σ AuthReply Error AuthenticationState :=
  match resolve context cached request.userName with
  | none => sendAuthFailed cached attempts
  | some user => selected context request publicKey user attempts

theorem verified_rejected (rejects : ∀ message signature, key.verify message signature ≠ .ok ()) :
    verified context request publicKey user attempts sig key =
      sendAuthFailed (some user) attempts := by
  unfold verified
  dsimp only
  split
  · rfl
  · split
    · rename_i accepts
      exact absurd accepts (rejects _ _)
    · rfl

theorem selected_unauthorized
    (decoyRejects : ∀ algorithm key message signature,
      fakeKey context.base64 algorithm context.provider = .ok key →
      key.verify message signature ≠ .ok ())
    (unauthorized : user.keys.find? (fun key => key.matchesKey publicKey) = none) :
    selected context request publicKey user attempts = sendAuthFailed (some user) attempts := by
  simp only [selected, unauthorized]
  cases publicKey.signature with
  | none => rfl
  | some sig =>
      cases decoy : fakeKey context.base64 publicKey.algorithm context.provider with
      | error cause => rfl
      | ok key => exact verified_rejected context fun message signature =>
          decoyRejects _ key message signature decoy

theorem answered_unauthorized (attempts : UInt8)
    (decoyRejects : ∀ algorithm key message signature,
      fakeKey context.base64 algorithm context.provider = .ok key →
      key.verify message signature ≠ .ok ())
    (lookupNamed : ∀ name user, context.store.lookup name context.rootPolicy = some user →
      user.name = name)
    (current : CacheCurrent context cached)
    (unauthorized : authorizedKey context request.userName publicKey = none) :
    ∃ kept, CacheCurrent context kept ∧
      answered context cached request publicKey attempts = sendAuthFailed kept attempts := by
  unfold answered
  rw [resolve_eq_lookupUser current]
  unfold authorizedKey at unauthorized
  cases found : lookupUser context request.userName with
  | none => exact ⟨cached, current, rfl⟩
  | some user =>
      rw [found] at unauthorized
      exact ⟨some user, (lookupUser_current lookupNamed found).2,
        selected_unauthorized context decoyRejects unauthorized⟩

theorem answered_authorized (attempts : UInt8)
    (lookupNamed : ∀ name user, context.store.lookup name context.rootPolicy = some user →
      user.name = name)
    (current : CacheCurrent context cached)
    (authorized : authorizedKey context request.userName publicKey = some key) :
    ∃ user, CacheCurrent context (some user) ∧ user.data.name.text = request.userName ∧
      user.keys.find? (fun key => key.matchesKey publicKey) = some key ∧
      answered context cached request publicKey attempts =
        selected context request publicKey user attempts := by
  obtain ⟨user, found, first⟩ := Option.bind_eq_some_iff.mp authorized
  obtain ⟨named, kept⟩ := lookupUser_current lookupNamed found
  refine ⟨user, kept, named, first, ?_⟩
  unfold answered
  rw [resolve_eq_lookupUser current, found]

end Answers

theorem handleServiceRequest_lockstep {context other : Context σ ρ} (packet : IncomingPacket) :
    Lockstep (Similar context other) (handleServiceRequest packet : Emit σ AuthReply Error _)
      (handleServiceRequest packet) := by
  refine Lockstep.bind_self fun request => ?_
  obtain ⟨serviceName⟩ := request
  cases serviceName with
  | userAuth =>
      have uncached {context : Context σ ρ} : CacheCurrent context none := nofun
      exact reply_lockstep _ (.awaitAuthRequest 6 uncached uncached)
  | connection => exact lockstep_throw _
  | unknown name => exact lockstep_throw _

structure Arrival (σ : Type) where
  packet : IncomingPacket
  flushed : WriteState σ → WriteState σ

def arrive (context : Context σ ρ) (state : AuthenticationState) (arrival : Arrival σ) :
    Emit σ AuthReply Error AuthenticationState := do
  modify fun outbox => { outbox with write := arrival.flushed outbox.write }
  handle context state arrival.packet

def authenticate (context : Context σ ρ) (arrivals : List (Arrival σ)) :
    Emit σ AuthReply Error AuthenticationState :=
  arrivals.foldlM (arrive context) default

def completed : AuthenticationState → Bool
  | .complete _ => true
  | _ => false

section Stores

variable {context : Context σ ρ} {store other : UserStore σ ρ}
  (decoyRejects : ∀ algorithm key message signature,
    fakeKey context.base64 algorithm context.provider = .ok key →
    key.verify message signature ≠ .ok ())
  (lookupNamed : ∀ name user, store.lookup name context.rootPolicy = some user → user.name = name)
  (otherNamed : ∀ name user, other.lookup name context.rootPolicy = some user → user.name = name)

theorem verified_lockstep {request : UserAuthRequest} {publicKey : PublicKey}
    {user otherUser : CachedUser} {attempts : UInt8} {sig : Signature} {key otherKey : AuthorizedKey}
    (current : CacheCurrent (context.over store) (some user))
    (otherCurrent : CacheCurrent (context.over other) (some otherUser))
    (named : user.data.name.text = request.userName)
    (otherNamed : otherUser.data.name.text = request.userName)
    (signed : publicKey.signature = some sig)
    (agree : KeysAgree context request publicKey key otherKey) :
    Lockstep (Similar (context.over store) (context.over other))
      (verified (context.over store) request publicKey user attempts sig key)
      (verified (context.over other) request publicKey otherUser attempts sig otherKey) := by
  have failed := sendAuthFailed_lockstep attempts current otherCurrent
  have message (store : UserStore σ ρ) : SignatureData.encode {
      sessionId := (context.over store).sessionId.bytes
      userName := request.userName
      serviceName := request.serviceName
      algorithm := publicKey.algorithm
      publicKey := publicKey.keyBlob } = requestedMessage context request publicKey := rfl
  unfold verified
  simp only [named, otherNamed]
  cases encoded : sig.encode with
  | error cause => exact failed
  | ok signature =>
      have alike := agree.verification sig signature signed encoded
      simp only [message]
      cases accepted : key.verify (requestedMessage context request publicKey) signature with
      | ok done =>
          rw [alike.mp accepted]
          exact reply_lockstep .success (.complete _ _)
      | error cause =>
          cases rejected : otherKey.verify (requestedMessage context request publicKey) signature with
          | ok done => cases (alike.mpr rejected).symm.trans accepted
          | error otherCause => exact failed

theorem selected_lockstep {request : UserAuthRequest} {publicKey : PublicKey}
    {user otherUser : CachedUser} {attempts : UInt8} {key otherKey : AuthorizedKey}
    (current : CacheCurrent (context.over store) (some user))
    (otherCurrent : CacheCurrent (context.over other) (some otherUser))
    (named : user.data.name.text = request.userName)
    (otherNamed : otherUser.data.name.text = request.userName)
    (first : user.keys.find? (fun key => key.matchesKey publicKey) = some key)
    (otherFirst : otherUser.keys.find? (fun key => key.matchesKey publicKey) = some otherKey)
    (agree : KeysAgree context request publicKey key otherKey) :
    Lockstep (Similar (context.over store) (context.over other))
      (selected (context.over store) request publicKey user attempts)
      (selected (context.over other) request publicKey otherUser attempts) := by
  simp only [selected, first, otherFirst]
  cases signed : publicKey.signature with
  | none => exact reply_lockstep _ (.awaitAuthRequest attempts current otherCurrent)
  | some sig =>
      dsimp only
      rw [agree.algorithm]
      by_cases same : sig.algorithm = otherKey.algorithm
      · rw [if_pos same, if_pos same]
        exact verified_lockstep current otherCurrent named otherNamed signed agree
      · rw [if_neg same, if_neg same]
        exact sendAuthFailed_lockstep attempts current otherCurrent

include decoyRejects lookupNamed otherNamed

theorem answered_lockstep {cached otherCached : Option CachedUser} {request : UserAuthRequest}
    {publicKey : PublicKey} {attempts : UInt8}
    (current : CacheCurrent (context.over store) cached)
    (otherCurrent : CacheCurrent (context.over other) otherCached)
    (agree : Option.Rel (KeysAgree context request publicKey)
      (authorizedKey (context.over store) request.userName publicKey)
      (authorizedKey (context.over other) request.userName publicKey)) :
    Lockstep (Similar (context.over store) (context.over other))
      (answered (context.over store) cached request publicKey attempts)
      (answered (context.over other) otherCached request publicKey attempts) := by
  generalize authorized : authorizedKey (context.over store) request.userName publicKey = found
    at agree
  generalize otherAuthorized : authorizedKey (context.over other) request.userName publicKey =
    otherFound at agree
  cases agree with
  | none =>
      obtain ⟨kept, keptCurrent, answer⟩ :=
        answered_unauthorized (context.over store) attempts decoyRejects lookupNamed current authorized
      obtain ⟨otherKept, otherKeptCurrent, otherAnswer⟩ :=
        answered_unauthorized (context.over other) attempts decoyRejects otherNamed otherCurrent
          otherAuthorized
      rw [answer, otherAnswer]
      exact sendAuthFailed_lockstep attempts keptCurrent otherKeptCurrent
  | some agree =>
      obtain ⟨user, userCurrent, named, first, answer⟩ :=
        answered_authorized (context.over store) attempts lookupNamed current authorized
      obtain ⟨otherUser, otherUserCurrent, otherName, otherFirst, otherAnswer⟩ :=
        answered_authorized (context.over other) attempts otherNamed otherCurrent otherAuthorized
      rw [answer, otherAnswer]
      exact selected_lockstep userCurrent otherUserCurrent named otherName first otherFirst agree

theorem handleAuthRequest_lockstep {cached otherCached : Option CachedUser} {attempts : UInt8}
    {packet : IncomingPacket} (agree : StoresAgree context store other packet)
    (current : CacheCurrent (context.over store) cached)
    (otherCurrent : CacheCurrent (context.over other) otherCached) :
    Lockstep (Similar (context.over store) (context.over other))
      (handleAuthRequest (context.over store) cached attempts packet)
      (handleAuthRequest (context.over other) otherCached attempts packet) := by
  unfold handleAuthRequest
  dsimp only
  split
  · exact lockstep_throw _
  · cases parsed : UserAuthRequest.tryFrom packet with
    | error cause => exact fun _ => ⟨rfl, rfl⟩
    | ok request =>
        change Lockstep _ (if _ then _ else _) (if _ then _ else _)
        split
        · exact lockstep_throw _
        · cases method : request.method with
          | none => exact sendAuthFailed_lockstep _ current otherCurrent
          | publicKey publicKey =>
              exact answered_lockstep decoyRejects lookupNamed otherNamed current otherCurrent
                (agree request publicKey parsed method)

theorem handle_lockstep {state otherState : AuthenticationState} {packet : IncomingPacket}
    (agree : StoresAgree context store other packet)
    (similar : Similar (context.over store) (context.over other) state otherState) :
    Lockstep (Similar (context.over store) (context.over other))
      (handle (context.over store) state packet) (handle (context.over other) otherState packet) := by
  cases similar with
  | awaitServiceRequest =>
      cases type : packet.messageType <;> simp only [handle, type]
      case ignore => exact lockstep_pure .awaitServiceRequest
      case debug => exact lockstep_pure .awaitServiceRequest
      case serviceRequest => exact handleServiceRequest_lockstep packet
      all_goals exact lockstep_throw _
  | awaitAuthRequest attempts current otherCurrent =>
      cases type : packet.messageType <;> simp only [handle, type]
      case ignore => exact lockstep_pure (.awaitAuthRequest attempts current otherCurrent)
      case debug => exact lockstep_pure (.awaitAuthRequest attempts current otherCurrent)
      case userAuthRequest =>
        exact handleAuthRequest_lockstep decoyRejects lookupNamed otherNamed agree current
          otherCurrent
      all_goals exact lockstep_throw _
  | complete authenticated otherAuthenticated =>
      cases type : packet.messageType <;> simp only [handle, type]
      case ignore => exact lockstep_pure (.complete authenticated otherAuthenticated)
      case debug => exact lockstep_pure (.complete authenticated otherAuthenticated)
      all_goals exact lockstep_throw _

/-- Whatever the packets, and whatever becomes of the written bytes in between, the two stores
lead to the same messages, and after the same packet to completion or to the same error. -/
theorem stores_indistinguishable (arrivals : List (Arrival σ))
    (agree : ∀ arrival ∈ arrivals, StoresAgree context store other arrival.packet) (count : Nat) :
    Lockstep (fun state otherState => state.completed = otherState.completed)
      (authenticate (context.over store) (arrivals.take count))
      (authenticate (context.over other) (arrivals.take count)) := by
  have ran : Lockstep (Similar (context.over store) (context.over other))
      (authenticate (context.over store) (arrivals.take count))
      (authenticate (context.over other) (arrivals.take count)) := by
    refine lockstep_foldlM ?_ .awaitServiceRequest
    intro arrival member state otherState similar
    refine Lockstep.bind_self fun _ => ?_
    exact handle_lockstep decoyRejects lookupNamed otherNamed
      (agree arrival (List.mem_of_mem_take member)) similar
  refine ran.mono ?_
  intro state otherState similar
  cases similar with
  | awaitServiceRequest => rfl
  | awaitAuthRequest attempts current otherCurrent => rfl
  | complete authenticated otherAuthenticated => rfl

end Stores

section Root

def nobody : UserStore PlainSealer PlainOpener where
  lookup _ _ := none
  keys _ _ := []

def keyless : UserStore PlainSealer PlainOpener where
  lookup name policy :=
    if name.text = "root" ∧ policy = .deny then none else some (rootUser name)
  keys _ _ := []

def rootArrivals : List (Arrival PlainSealer) :=
  rootCalls.map fun call => { packet := call.packet, flushed := WriteState.clear }

set_option maxRecDepth 20000 in
theorem stores_indistinguishable_root :
    (exec (authenticate ((plainContext [] fun _ _ _ => false).over keyless) rootArrivals)
        plainOutbox).2.sent = [.serviceAccept { serviceName := .userAuth }, authFailed] ∧
      Lockstep (fun state otherState => state.completed = otherState.completed)
        (authenticate ((plainContext [] fun _ _ _ => false).over nobody) (rootArrivals.take 2))
        (authenticate ((plainContext [] fun _ _ _ => false).over keyless) (rootArrivals.take 2)) := by
  refine ⟨rfl, stores_indistinguishable ?_ ?_ ?_ rootArrivals ?_ 2⟩
  · exact plainContext_decoyRejects []
  · intro name user found
    cases found
  · intro name user found
    simp only [keyless] at found
    split at found
    · cases found
    · cases found
      rfl
  · intro arrival member request publicKey parsed method
    have missing : authorizedKey ((plainContext [] fun _ _ _ => false).over nobody)
        request.userName publicKey = none := by
      unfold authorizedKey lookupUser
      split <;> rfl
    have keys : authorizedKey ((plainContext [] fun _ _ _ => false).over keyless)
        request.userName publicKey = none := by
      unfold authorizedKey lookupUser
      split
      · rfl
      · split <;> rfl
    rw [missing, keys]
    exact .none

end Root

end AuthenticationState

end Oxish
