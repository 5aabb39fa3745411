import Oxish.Authentication
import Oxish.HandoffState
import Oxish.Negotiation

/-!
What a client signs to authenticate. Every field of the signed data stands behind its length or
has a fixed value, so that the bytes name one session, one user, one service and one key. The
requests that the server reads have fields short enough for that.
-/

namespace Oxish

structure SignatureData.Short (data : SignatureData) : Prop where
  sessionId : data.sessionId.length < 2 ^ 32
  userName : (strBytes data.userName).length < 2 ^ 32
  serviceName : (strBytes (Named.name data.serviceName)).length < 2 ^ 32
  algorithm : (strBytes (Named.name data.algorithm)).length < 2 ^ 32
  publicKey : data.publicKey.length < 2 ^ 32

structure SignatureData.Agree (left right : SignatureData) : Prop where
  sessionId : left.sessionId = right.sessionId
  userName : left.userName = right.userName
  serviceName : Named.name left.serviceName = Named.name right.serviceName
  algorithm : Named.name left.algorithm = Named.name right.algorithm
  publicKey : left.publicKey = right.publicKey

theorem strBytes_inj {left right : String} : strBytes left = strBytes right ↔ left = right := by
  constructor
  · intro same
    have read := fromUtf8_strBytes left
    rw [same, fromUtf8_strBytes] at read
    exact (Option.some.inj read).symm
  · intro same
    rw [same]

theorem signatureData_agree {left right : SignatureData} (leftShort : left.Short)
    (rightShort : right.Short) : left.encode = right.encode ↔ left.Agree right := by
  constructor
  · intro same
    simp only [SignatureData.encode, encodeNamed, List.append_assoc] at same
    obtain ⟨sessionId, same⟩ :=
      (encodeBytes_append_inj leftShort.sessionId rightShort.sessionId).mp same
    have same := List.append_cancel_left same
    obtain ⟨userName, same⟩ :=
      (encodeBytes_append_inj leftShort.userName rightShort.userName).mp same
    obtain ⟨serviceName, same⟩ :=
      (encodeBytes_append_inj leftShort.serviceName rightShort.serviceName).mp same
    have same := List.append_cancel_left (List.append_cancel_left same)
    obtain ⟨algorithm, same⟩ :=
      (encodeBytes_append_inj leftShort.algorithm rightShort.algorithm).mp same
    have publicKey := (encodeBytes_inj leftShort.publicKey rightShort.publicKey).mp same
    exact ⟨sessionId, strBytes_inj.mp userName, strBytes_inj.mp serviceName,
      strBytes_inj.mp algorithm, publicKey⟩
  · rintro ⟨sessionId, userName, serviceName, algorithm, publicKey⟩
    simp only [SignatureData.encode, encodeNamed, sessionId, userName, serviceName, algorithm,
      publicKey]

/-- The signed bytes are those of one session, one user, one service and one key. -/
theorem signatureData_unambiguous {left right : SignatureData} (leftShort : left.Short)
    (rightShort : right.Short) (same : left.encode = right.encode) : left.Agree right :=
  (signatureData_agree leftShort rightShort).mp same

/-- The service is compared by its name: the same bytes come from a name that is held as text. -/
theorem signatureData_unambiguous_text :
    SignatureData.Agree ⟨[1, 2], "root", .connection, .ed25519, [7]⟩
      ⟨[1, 2], "root", .unknown "ssh-connection", .ed25519, [7]⟩ :=
  signatureData_unambiguous
    ⟨by decide, by decide, by decide, by decide, by decide⟩
    ⟨by decide, by decide, by decide, by decide, by decide⟩
    rfl

theorem decodeNamed_ok {α : Type} [Named α] [LawfulNamed α] {bytes : Bytes} {decoded : Decoded α}
    (read : decodeNamed bytes = .ok decoded) :
    bytes = encodeNamed decoded.value ++ decoded.next ∧ Canonical decoded.value ∧
      (strBytes (Named.name decoded.value)).length < 2 ^ 32 := by
  obtain ⟨⟨text, next⟩, first, read⟩ := Outcome.bind_eq_ok.mp read
  obtain ⟨whole, short⟩ := decodeBytes_ok first
  dsimp only at read
  cases valid : fromUtf8 text with
  | none =>
      rw [valid] at read
      cases read
  | some name =>
      rw [valid] at read
      cases read
      dsimp only at whole short ⊢
      rw [encodeNamed, LawfulNamed.name_typed, strBytes_of_fromUtf8 valid]
      exact ⟨whole, typed_canonical name, short⟩

theorem PublicKey.decode_ok {input : Bytes} {decoded : Decoded PublicKey}
    (read : PublicKey.decode input = .ok decoded) :
    Canonical decoded.value.algorithm ∧
      (strBytes (Named.name decoded.value.algorithm)).length < 2 ^ 32 ∧
      decoded.value.keyBlob.length < 2 ^ 32 := by
  obtain ⟨⟨hasSignature, _⟩, _, read⟩ := Outcome.bind_eq_ok.mp read
  obtain ⟨⟨algorithm, _⟩, named, read⟩ := Outcome.bind_eq_ok.mp read
  obtain ⟨⟨keyBlob, next⟩, blob, read⟩ := Outcome.bind_eq_ok.mp read
  obtain ⟨_, canonical, short⟩ := decodeNamed_ok named
  have keyShort := (decodeBytes_ok blob).2
  dsimp only at canonical short keyShort read
  cases hasSignature with
  | false =>
      cases rest : next.isEmpty with
      | true =>
          rw [rest] at read
          cases read
          exact ⟨canonical, short, keyShort⟩
      | false =>
          rw [rest] at read
          cases read
  | true =>
      obtain ⟨⟨signature, behind⟩, _, read⟩ := Outcome.bind_eq_ok.mp read
      dsimp only at read
      split at read
      · cases read
        exact ⟨canonical, short, keyShort⟩
      · cases read

theorem UserAuthRequest.tryFrom_short {packet : IncomingPacket} {request : UserAuthRequest}
    {publicKey : PublicKey} (parsed : UserAuthRequest.tryFrom packet = .ok request)
    (method : request.method = .publicKey publicKey) :
    (strBytes request.userName).length < 2 ^ 32 ∧ Canonical publicKey.algorithm ∧
      (strBytes (Named.name publicKey.algorithm)).length < 2 ^ 32 ∧
      publicKey.keyBlob.length < 2 ^ 32 := by
  obtain ⟨_, _, parsed⟩ := Outcome.bind_eq_ok.mp parsed
  obtain ⟨⟨user, _⟩, text, parsed⟩ := Outcome.bind_eq_ok.mp parsed
  have userShort := (decodeBytes_ok text).2
  dsimp only at userShort parsed
  cases valid : fromUtf8 user with
  | none =>
      rw [valid] at parsed
      cases parsed
  | some userName =>
      rw [valid] at parsed
      obtain ⟨⟨serviceName, _⟩, _, parsed⟩ := Outcome.bind_eq_ok.mp parsed
      obtain ⟨⟨methodName, _⟩, _, parsed⟩ := Outcome.bind_eq_ok.mp parsed
      dsimp only at parsed
      cases methodName with
      | publicKey =>
          obtain ⟨⟨key, behind⟩, decoded, parsed⟩ := Outcome.bind_eq_ok.mp parsed
          dsimp only at parsed
          split at parsed
          · cases parsed
            cases method
            dsimp only
            rw [strBytes_of_fromUtf8 valid]
            exact ⟨userShort, PublicKey.decode_ok decoded⟩
          · cases parsed
      | none =>
          dsimp only at parsed
          split at parsed
          · cases parsed
            cases method
          · cases parsed
      | password => cases parsed
      | hostBased => cases parsed
      | unknown => cases parsed

def UserAuthRequest.signedData (request : UserAuthRequest) (publicKey : PublicKey)
    (sessionId : Digest) : SignatureData where
  sessionId := sessionId.bytes
  userName := request.userName
  serviceName := .connection
  algorithm := publicKey.algorithm
  publicKey := publicKey.keyBlob

theorem UserAuthRequest.signedData_short {packet : IncomingPacket} {request : UserAuthRequest}
    {publicKey : PublicKey} (parsed : UserAuthRequest.tryFrom packet = .ok request)
    (method : request.method = .publicKey publicKey) (sessionId : Digest) :
    (request.signedData publicKey sessionId).Short := by
  obtain ⟨userName, _, algorithm, keyBlob⟩ := UserAuthRequest.tryFrom_short parsed method
  have bounded := sessionId.bounded
  constructor
  case sessionId =>
    change sessionId.bytes.length < 2 ^ 32
    omega
  case userName => exact userName
  case serviceName =>
    change (strBytes "ssh-connection").length < 2 ^ 32
    decide
  case algorithm => exact algorithm
  case publicKey => exact keyBlob

/-- One signed message never serves two requests: the requests that the server verifies with the
same message come from one session and name one user and one key. -/
theorem UserAuthRequest.signedData_binds {packet other : IncomingPacket}
    {request otherRequest : UserAuthRequest} {publicKey otherKey : PublicKey}
    {sessionId otherId : Digest} (parsed : UserAuthRequest.tryFrom packet = .ok request)
    (otherParsed : UserAuthRequest.tryFrom other = .ok otherRequest)
    (method : request.method = .publicKey publicKey)
    (otherMethod : otherRequest.method = .publicKey otherKey)
    (same : (request.signedData publicKey sessionId).encode =
      (otherRequest.signedData otherKey otherId).encode) :
    sessionId.bytes = otherId.bytes ∧ request.userName = otherRequest.userName ∧
      publicKey.algorithm = otherKey.algorithm ∧ publicKey.keyBlob = otherKey.keyBlob := by
  have agree := (signatureData_agree (signedData_short parsed method sessionId)
    (signedData_short otherParsed otherMethod otherId)).mp same
  obtain ⟨_, canonical, _⟩ := UserAuthRequest.tryFrom_short parsed method
  obtain ⟨_, otherCanonical, _⟩ := UserAuthRequest.tryFrom_short otherParsed otherMethod
  exact ⟨agree.sessionId, agree.userName, (canonical.eq_iff otherCanonical).mpr agree.algorithm,
    agree.publicKey⟩

end Oxish
