import Oxish.Authentication

/-!
How many requests authentication looks at, and what it answers. The counter and the number of
requests so far add up to six, so the request that would be the sixth is refused before it is
read. Every request that does not end the connection is answered by one message.
-/

namespace Oxish

open Stateful

namespace AuthenticationState

variable {σ ρ : Type}

def Probes (context : Context σ ρ) (cached : Option CachedUser) (request : UserAuthRequest)
    (publicKey : PublicKey) : Prop :=
  request.method = .publicKey publicKey ∧ publicKey.signature = none ∧
    ∃ user, resolve context cached request.userName = some user ∧
      ∃ key ∈ user.keys, key.matchesKey publicKey = true

structure Answers (context : Context σ ρ) (cached : Option CachedUser) (request : UserAuthRequest)
    (next : AuthenticationState) (message : AuthReply) : Prop where
  success : message = .success ↔ ∃ authenticated, next = .complete authenticated
  refusal : (∀ authenticated, next ≠ .complete authenticated) →
    message = authFailed ∨ ∃ pkOk, message = .pkOk pkOk
  probe : ∀ pkOk, message = .pkOk pkOk ↔ ∃ publicKey, Probes context cached request publicKey ∧
    pkOk = { algorithm := publicKey.algorithm, keyBlob := publicKey.keyBlob }

section Answers

variable {context : Context σ ρ} {cached : Option CachedUser} {request : UserAuthRequest}

theorem Probes.unique {publicKey other : PublicKey}
    (probes : Probes context cached request publicKey) (method : request.method = .publicKey other) :
    publicKey = other :=
  Method.publicKey.inj (probes.1.symm.trans method)

theorem answers_failure (kept : Option CachedUser) (attempts : UInt8)
    (silent : ∀ publicKey, ¬ Probes context cached request publicKey) :
    Answers context cached request (.awaitAuthRequest kept attempts) authFailed := by
  constructor
  · constructor
    · intro same
      cases same
    · rintro ⟨authenticated, same⟩
      cases same
  · intro _
    exact .inl rfl
  · intro pkOk
    constructor
    · intro same
      cases same
    · rintro ⟨publicKey, probes, _⟩
      exact absurd probes (silent publicKey)

theorem answers_success (authenticated : Authenticated)
    (silent : ∀ publicKey, ¬ Probes context cached request publicKey) :
    Answers context cached request (.complete authenticated) .success := by
  constructor
  · exact iff_of_true rfl ⟨authenticated, rfl⟩
  · intro unfinished
    exact absurd rfl (unfinished authenticated)
  · intro pkOk
    constructor
    · intro same
      cases same
    · rintro ⟨publicKey, probes, _⟩
      exact absurd probes (silent publicKey)

theorem answers_pkOk {publicKey : PublicKey} (probes : Probes context cached request publicKey)
    (kept : Option CachedUser) (attempts : UInt8) :
    Answers context cached request (.awaitAuthRequest kept attempts)
      (.pkOk { algorithm := publicKey.algorithm, keyBlob := publicKey.keyBlob }) := by
  constructor
  · constructor
    · intro same
      cases same
    · rintro ⟨authenticated, same⟩
      cases same
  · intro _
    exact .inr ⟨_, rfl⟩
  · intro pkOk
    constructor
    · intro same
      exact ⟨publicKey, probes, (AuthReply.pkOk.inj same).symm⟩
    · rintro ⟨other, asked, rfl⟩
      rw [asked.unique probes.1]

end Answers

variable [SealingKey σ]

section Requests

variable {context : Context σ ρ} {cached : Option CachedUser} {attempts : UInt8}
  {request : UserAuthRequest} {publicKey : PublicKey} {user : CachedUser}
  {packet : IncomingPacket} {outbox last : Outbox σ AuthReply} {state next : AuthenticationState}

theorem reply_sent {message : AuthReply}
    (done : exec (do reply message; pure state) outbox = (.ok next, last)) :
    next = state ∧ last.sent = outbox.sent ++ [message] := by
  rcases reply_cases message state outbox with ⟨_, ran, sent, _⟩ | ⟨_, _, ran, _⟩
  · rw [ran] at done
    cases done
    exact ⟨rfl, sent⟩
  · rw [ran] at done
    cases done

theorem sendAuthFailed_answers {kept : Option CachedUser}
    (silent : ∀ publicKey, ¬ Probes context cached request publicKey)
    (done : exec (sendAuthFailed kept attempts) outbox = (.ok next, last)) :
    ∃ message, last.sent = outbox.sent ++ [message] ∧
      Answers context cached request next message := by
  obtain ⟨rfl, sent⟩ := reply_sent done
  exact ⟨authFailed, sent, answers_failure kept attempts silent⟩

theorem verified_answers {sig : Signature} {key : AuthorizedKey}
    (silent : ∀ publicKey, ¬ Probes context cached request publicKey)
    (done : exec (verified context request publicKey user attempts sig key) outbox =
      (.ok next, last)) :
    ∃ message, last.sent = outbox.sent ++ [message] ∧
      Answers context cached request next message := by
  unfold verified at done
  split at done
  · exact sendAuthFailed_answers silent done
  · dsimp only at done
    split at done
    · obtain ⟨rfl, sent⟩ := reply_sent done
      exact ⟨.success, sent, answers_success _ silent⟩
    · exact sendAuthFailed_answers silent done

theorem selected_answers (method : request.method = .publicKey publicKey)
    (found : resolve context cached request.userName = some user)
    (done : exec (selected context request publicKey user attempts) outbox = (.ok next, last)) :
    ∃ message, last.sent = outbox.sent ++ [message] ∧
      Answers context cached request next message := by
  have signedSilent {sig : Signature} (signed : publicKey.signature = some sig) :
      ∀ publicKey, ¬ Probes context cached request publicKey := by
    intro other probes
    obtain rfl := probes.unique method
    cases signed.symm.trans probes.2.1
  unfold selected at done
  split at done
  · rename_i sig key signed known
    split at done
    · exact verified_answers (signedSilent signed) done
    · exact sendAuthFailed_answers (signedSilent signed) done
  · rename_i sig signed unknown
    split at done
    · exact verified_answers (signedSilent signed) done
    · exact sendAuthFailed_answers (signedSilent signed) done
  · rename_i key unsigned known
    obtain ⟨rfl, sent⟩ := reply_sent done
    have fits : key.matchesKey publicKey = true := by simpa using List.find?_some known
    have probes : Probes context cached request publicKey :=
      ⟨method, unsigned, user, found, key, List.mem_of_find?_eq_some known, fits⟩
    exact ⟨_, sent, answers_pkOk probes _ _⟩
  · rename_i unsigned unknown
    refine sendAuthFailed_answers ?_ done
    rintro other ⟨asked, _, owner, resolved, key, member, fits⟩
    cases asked.symm.trans method
    cases resolved.symm.trans found
    exact List.find?_eq_none.mp unknown key member fits

theorem handleAuthRequest_answers
    (done : exec (handleAuthRequest context cached attempts packet) outbox = (.ok next, last)) :
    attempts - 1 ≠ 0 ∧ ∃ request message, UserAuthRequest.tryFrom packet = .ok request ∧
      last.sent = outbox.sent ++ [message] ∧ Answers context cached request next message := by
  unfold handleAuthRequest at done
  dsimp only at done
  split at done
  · cases done
  · rename_i counted
    obtain ⟨request, parsed, done⟩ := embedded_ok done
    refine ⟨counted, request, ?_⟩
    simp only [parsed, true_and]
    split at done
    · cases done
    · split at done
      · rename_i method
        refine sendAuthFailed_answers ?_ done
        rintro publicKey ⟨asked, _⟩
        cases asked.symm.trans method
      · rename_i publicKey method
        split at done
        · rename_i unknown
          refine sendAuthFailed_answers ?_ done
          rintro other ⟨_, _, owner, resolved, _⟩
          cases resolved.symm.trans unknown
        · rename_i user found
          exact selected_answers method found done

theorem handle_request_ok (asked : packet.messageType = .userAuthRequest)
    (done : exec (handle context state packet) outbox = (.ok next, last)) :
    ∃ cached attempts, state = .awaitAuthRequest cached attempts ∧
      exec (handleAuthRequest context cached attempts packet) outbox = (.ok next, last) := by
  cases state with
  | awaitServiceRequest =>
      simp only [handle, asked] at done
      cases done
  | awaitAuthRequest cached attempts =>
      simp only [handle, asked] at done
      exact ⟨cached, attempts, rfl, done⟩
  | complete authenticated =>
      simp only [handle, asked] at done
      cases done

theorem handle_other_ok (other : packet.messageType ≠ .userAuthRequest)
    (done : exec (handle context state packet) outbox = (.ok next, last)) :
    next = state ∨ state = .awaitServiceRequest ∧ next = .awaitAuthRequest none 6 := by
  unfold handle at done
  split at done
  · cases done
    exact .inl rfl
  · cases done
    exact .inl rfl
  · cases done
  · have moved : Stepped context .awaitServiceRequest packet next := handleServiceRequest_ok done
    cases moved with
    | ignored transport => exact .inl rfl
    | serviceAccepted requested => exact .inr ⟨rfl, rfl⟩
  · rename_i asked
    exact absurd asked other
  · cases done

end Requests

def requests (calls : List (AuthCall σ)) : Nat :=
  calls.countP fun call => call.packet.messageType = .userAuthRequest

def WithinBudget (calls : List (AuthCall σ)) : AuthenticationState → Prop
  | .awaitServiceRequest => requests calls = 0
  | .awaitAuthRequest _ attempts => 1 ≤ attempts ∧ attempts.toNat + requests calls = 6
  | .complete _ => requests calls ≤ 5

omit [SealingKey σ] in
theorem requests_snoc (calls : List (AuthCall σ)) (call : AuthCall σ) :
    requests (calls ++ [call]) =
      requests calls + if call.packet.messageType = .userAuthRequest then 1 else 0 := by
  rw [requests, List.countP_append, List.countP_singleton]
  simp [requests]

theorem step_withinBudget {context : Context σ ρ} {past : List (AuthCall σ)}
    {state next : AuthenticationState} {call : AuthCall σ}
    (within : WithinBudget past state) (stepped : step context state call = some next) :
    WithinBudget (past ++ [call]) next := by
  unfold step at stepped
  generalize ran : exec (handle context state call.packet) { write := call.write } = outcome
    at stepped
  obtain ⟨result, last⟩ := outcome
  cases result with
  | error stop => cases stepped
  | ok other =>
      cases stepped
      have counts := requests_snoc past call
      by_cases asked : call.packet.messageType = .userAuthRequest
      · obtain ⟨cached, attempts, rfl, done⟩ := handle_request_ok asked ran
        obtain ⟨counted, _⟩ := handleAuthRequest_answers done
        obtain ⟨some, total⟩ := within
        have fewer : (attempts - 1).toNat = attempts.toNat - 1 := UInt8.toNat_sub_of_le _ _ some
        have left : (attempts - 1).toNat ≠ 0 := fun none => counted (UInt8.toNat_inj.mp none)
        rw [if_pos asked] at counts
        have moved := handleAuthRequest_ok done
        cases moved with
        | ignored transport =>
            rw [asked] at transport
            rcases transport with wrong | wrong <;> cases wrong
        | refused => exact ⟨UInt8.le_iff_toNat_le.mpr (by simp; omega), by omega⟩
        | resolved found => exact ⟨UInt8.le_iff_toNat_le.mpr (by simp; omega), by omega⟩
        | completed _ _ _ _ _ _ _ =>
            change requests (past ++ [call]) ≤ 5
            omega
      · rw [if_neg asked, Nat.add_zero] at counts
        rcases handle_other_ok asked ran with rfl | ⟨rfl, rfl⟩
        · simpa only [WithinBudget, counts] using within
        · change requests past = 0 at within
          exact ⟨by decide, by rw [counts, within]; rfl⟩

def endedBy : AuthenticationState → Error
  | .awaitAuthRequest _ _ => .auth .tooManyAttempts
  | _ => .invalidState "unexpected packet received during authentication"

theorem handle_spent (context : Context σ ρ) {state : AuthenticationState}
    {packet : IncomingPacket} (asked : packet.messageType = .userAuthRequest)
    (spent : ∀ cached attempts, state = .awaitAuthRequest cached attempts → attempts = 1)
    (outbox : Outbox σ AuthReply) :
    exec (handle context state packet) outbox = (.error (.error (endedBy state)), outbox) := by
  cases state with
  | awaitServiceRequest =>
      simp only [handle, asked]
      rfl
  | awaitAuthRequest cached attempts =>
      obtain rfl := spent cached attempts rfl
      simp only [handle, asked]
      rfl
  | complete authenticated =>
      simp only [handle, asked]
      rfl

/-- What holds of a state that was reached by the given packets. -/
structure Disciplined (context : Context σ ρ) (calls : List (AuthCall σ))
    (state : AuthenticationState) : Prop where
  counter : ∀ cached attempts, state = .awaitAuthRequest cached attempts →
    1 ≤ attempts ∧ attempts ≤ 6 ∧ attempts.toNat + requests calls = 6
  requests : requests calls ≤ 5
  unread : ∀ (other : Context σ ρ) packet outbox, packet.messageType = .userAuthRequest →
    AuthenticationState.requests calls = 5 ∨
      (∀ cached attempts, state ≠ .awaitAuthRequest cached attempts) →
    exec (handle other state packet) outbox = (.error (.error (endedBy state)), outbox)
  ignored : ∀ packet outbox, packet.messageType = .ignore ∨ packet.messageType = .debug →
    exec (handle context state packet) outbox = (.ok state, outbox)
  answered : ∀ packet outbox next last, packet.messageType = .userAuthRequest →
    exec (handle context state packet) outbox = (.ok next, last) →
    ∃ cached attempts request message, state = .awaitAuthRequest cached attempts ∧
      UserAuthRequest.tryFrom packet = .ok request ∧ last.sent = outbox.sent ++ [message] ∧
      Answers context cached request next message

/-- Whatever packets have come, at most five requests were looked at, and each that did not end
the connection was answered by the one message that belongs to its outcome. -/
theorem authentication_disciplined (context : Context σ ρ) (calls : List (AuthCall σ))
    (state : AuthenticationState)
    (reached : History.run (step context) default calls = some state) :
    Disciplined context calls state := by
  have start : WithinBudget ([] : List (AuthCall σ)) default := rfl
  have within : WithinBudget calls state :=
    History.run_invariant start (fun _ within stepped => step_withinBudget within stepped) reached
  constructor
  · rintro cached attempts rfl
    obtain ⟨some, total⟩ := within
    exact ⟨some, UInt8.le_iff_toNat_le.mpr (by simp; omega), total⟩
  · cases state with
    | awaitServiceRequest =>
        change requests calls = 0 at within
        omega
    | awaitAuthRequest cached attempts =>
        obtain ⟨some, total⟩ := within
        have := UInt8.le_iff_toNat_le.mp some
        simp at this
        omega
    | complete authenticated => exact within
  · intro other packet outbox asked spent
    refine handle_spent other asked ?_ outbox
    rintro cached attempts rfl
    rcases spent with all | never
    · obtain ⟨_, total⟩ := within
      exact UInt8.toNat_inj.mp (by simp; omega)
    · exact absurd rfl (never cached attempts)
  · rintro packet outbox (transport | transport)
    · cases state <;> simp only [handle, transport] <;> rfl
    · cases state <;> simp only [handle, transport] <;> rfl
  · intro packet outbox next last asked done
    obtain ⟨cached, attempts, rfl, ran⟩ := handle_request_ok asked done
    obtain ⟨_, request, message, parsed, sent, answers⟩ := handleAuthRequest_answers ran
    exact ⟨cached, attempts, request, message, rfl, parsed, sent, answers⟩

section Clients

def nonePacket : IncomingPacket where
  sequenceNumber := 4
  messageType := .userAuthRequest
  payload := encodeBytes (strBytes "root") ++ encodeNamed ServiceName.connection ++
    encodeNamed MethodName.none

def fifthAccepted : List (AuthCall PlainSealer) :=
  rootCalls.take 1 ++ List.replicate 4 { packet := nonePacket, write := plainOutbox.write } ++
    rootCalls.drop 1

def fifthState : AuthenticationState :=
  .complete { user := rootUser ⟨"root", rfl⟩, options := { command := some "uptime" } }

set_option maxRecDepth 20000 in
theorem authentication_disciplined_fifth :
    Disciplined (plainContext [rootKey] fun _ _ _ => false) fifthAccepted fifthState :=
  authentication_disciplined _ _ _ rfl

set_option maxRecDepth 20000 in
/-- When the fifth request completes the authentication, a sixth is out of place, not one too
many. -/
theorem sixth_request_out_of_place :
    History.run (step (plainContext [rootKey] fun _ _ _ => false)) default fifthAccepted =
        some fifthState ∧
      requests fifthAccepted = 5 ∧ nonePacket.messageType = .userAuthRequest ∧
      exec (handle (plainContext [rootKey] fun _ _ _ => false) fifthState nonePacket) plainOutbox =
        (.error (.error (.invalidState "unexpected packet received during authentication")),
          plainOutbox) :=
  ⟨rfl, rfl, rfl, rfl⟩

end Clients

end AuthenticationState

end Oxish
