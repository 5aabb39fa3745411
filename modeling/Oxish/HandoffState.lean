import Oxish.HandoffCore
import Oxish.ProviderCore
import Oxish.Wire

/-!
Round trip of the handed-off state: what the process of the session decodes is, field by field,
what the listening process encoded.
-/

namespace Oxish

variable {α σ ρ : Type}

structure KeySourceSide.Gcm (source : KeySourceSide) : Prop where
  algorithm : source.algorithm = .aes128Gcm
  encryptionKey : source.encryptionKey.length = 16
  initialIv : source.initialIv.length = 12

theorem decodeNamed_aes128Gcm (rest : Bytes) :
    (decodeNamed (encodeNamed EncryptionAlgorithm.aes128Gcm ++ rest) :
      Except ProtoError (Decoded EncryptionAlgorithm)) = .ok ⟨.aes128Gcm, rest⟩ := by
  have short : (strBytes (Named.name EncryptionAlgorithm.aes128Gcm)).length < 2 ^ 32 := by
    decide
  have typed : (Named.typed (Named.name EncryptionAlgorithm.aes128Gcm) : EncryptionAlgorithm) =
      .aes128Gcm := by
    decide
  refine Outcome.bind_ok (decodeBytes_encodeBytes short rest) ?_
  simp only [fromUtf8_strBytes, typed]

theorem SideState.decode_encode {side : SideState} (gcm : side.source.Gcm) (rest : Bytes) :
    SideState.decode (side.encode ++ rest) = .ok ⟨side, rest⟩ := by
  obtain ⟨⟨algorithm, initialIv, encryptionKey⟩, counter, sequenceNumber⟩ := side
  obtain ⟨known, keyLength, ivLength⟩ := gcm
  simp only at known keyLength ivLength
  subst known
  have shortKey : encryptionKey.length < 2 ^ 32 := by omega
  have shortIv : initialIv.length < 2 ^ 32 := by omega
  have keyFits : ¬ encryptionKey.length ≠ 16 := by omega
  have ivFits : ¬ initialIv.length ≠ 12 := by omega
  simp only [SideState.encode, List.append_assoc]
  refine Outcome.bind_ok (decodeNamed_aes128Gcm _) ?_
  refine Outcome.bind_ok (decodeBytes_encodeBytes shortKey _) ?_
  refine (if_neg keyFits).trans (Outcome.bind_ok (decodeBytes_encodeBytes shortIv _) ?_)
  refine (if_neg ivFits).trans (Outcome.bind_ok (decodeU64_encodeU64 counter _) ?_)
  exact Outcome.bind_ok (decodeU32_encodeU32 sequenceNumber rest) rfl

theorem Identities.decode_encode {identities : Identities}
    (client : identities.client.length < 2 ^ 32) (server : identities.server.length < 2 ^ 32)
    (rest : Bytes) : Identities.decode (identities.encode ++ rest) = .ok ⟨identities, rest⟩ := by
  rw [Identities.encode, List.append_assoc]
  refine Outcome.bind_ok (decodeBytes_encodeBytes client _) ?_
  exact Outcome.bind_ok (decodeBytes_encodeBytes server rest) rfl

theorem StrictKeyExchange.decode_encode (strictKx : Option StrictKeyExchange) (rest : Bytes) :
    StrictKeyExchange.decode (StrictKeyExchange.encode strictKx ++ rest) = .ok ⟨strictKx, rest⟩ := by
  refine Outcome.bind_ok (decodeBool_encodeBool strictKx.isSome rest) ?_
  cases strictKx with
  | none => rfl
  | some marker => rfl

theorem KeyOptions.decode_encode {options : KeyOptions}
    (short : ∀ command, options.command = some command → (strBytes command).length < 2 ^ 32)
    (rest : Bytes) : KeyOptions.decode (options.encode ++ rest) = .ok ⟨options, rest⟩ := by
  obtain ⟨_ | command⟩ := options
  · exact Outcome.bind_ok (decodeBool_encodeBool false rest) rfl
  · simp only [KeyOptions.encode, List.append_assoc]
    refine Outcome.bind_ok (decodeBool_encodeBool true _) ?_
    refine Outcome.bind_ok (decodeBytes_encodeBytes (short command rfl) rest) ?_
    simp only [fromUtf8_strBytes]

theorem SessionHostKey.decode_encode {hostKey : ServerHostKey} {provider : CryptoProvider σ ρ}
    {key : SigningKey} (short : hostKey.pkcs8.length < 2 ^ 32)
    (rebuilt : provider.signingKeyFromPkcs8 hostKey.pkcs8 = .ok key) (rest : Bytes) :
    SessionHostKey.decode (hostKey.encode ++ rest) provider = .ok ⟨⟨key⟩, rest⟩ := by
  refine Outcome.bind_ok (decodeBytes_encodeBytes short rest) ?_
  exact Outcome.bind_ok (congrArg cryptoResult rebuilt) rfl

namespace SessionState

variable [SocketAddr α]

theorem decodeAddr_encode {addr : α} (short : (strBytes (SocketAddr.display addr)).length < 2 ^ 32)
    (parsed : SocketAddr.fromStr (SocketAddr.display addr) = some addr) (rest : Bytes) :
    SessionState.decodeAddr (encodeBytes (strBytes (SocketAddr.display addr)) ++ rest) =
      .ok ⟨addr, rest⟩ := by
  refine Outcome.bind_ok (decodeBytes_encodeBytes short rest) ?_
  simp only [fromUtf8_strBytes, parsed]

def received (state : SessionState α ServerHostKey) (key : SigningKey) :
    SessionState α SessionHostKey :=
  { state with hostKey := ⟨key⟩ }

/-- The byte strings of the state fit their length fields and its two sides are complete. -/
structure Encodable (state : SessionState α ServerHostKey) : Prop where
  addr : (strBytes (SocketAddr.display state.addr)).length < 2 ^ 32
  hostKey : state.hostKey.pkcs8.length < 2 ^ 32
  client : state.identities.client.length < 2 ^ 32
  server : state.identities.server.length < 2 ^ 32
  read : state.read.source.Gcm
  write : state.write.source.Gcm
  readBuf : state.readBuf.length < 2 ^ 32
  command : ∀ command, state.options.command = some command → (strBytes command).length < 2 ^ 32

theorem decode_encode {state : SessionState α ServerHostKey} {provider : CryptoProvider σ ρ}
    {key : SigningKey} (encodable : state.Encodable)
    (parsed : SocketAddr.fromStr (SocketAddr.display state.addr) = some state.addr)
    (rebuilt : provider.signingKeyFromPkcs8 state.hostKey.pkcs8 = .ok key) (rest : Bytes) :
    SessionState.decode provider (state.encode ++ rest) = .ok ⟨state.received key, rest⟩ := by
  have shortId : state.sessionId.bytes.length < 2 ^ 32 :=
    Nat.lt_of_le_of_lt state.sessionId.bounded (by omega)
  have copied : Digest.new state.sessionId.bytes = .ok state.sessionId :=
    dif_pos state.sessionId.bounded
  simp only [SessionState.encode, List.append_assoc]
  refine Outcome.bind_ok (raise_eq_ok.mpr (decodeAddr_encode encodable.addr parsed _)) ?_
  refine Outcome.bind_ok
    (raise_eq_ok.mpr (SessionHostKey.decode_encode encodable.hostKey rebuilt _)) ?_
  refine Outcome.bind_ok
    (raise_eq_ok.mpr (Identities.decode_encode encodable.client encodable.server _)) ?_
  refine Outcome.bind_ok (raise_eq_ok.mpr (decodeBool_encodeBool state.postQuantumKx _)) ?_
  refine Outcome.bind_ok (raise_eq_ok.mpr (StrictKeyExchange.decode_encode state.strictKx _)) ?_
  refine Outcome.bind_ok (raise_eq_ok.mpr (decodeBytes_encodeBytes shortId _)) ?_
  refine Outcome.bind_ok (raise_eq_ok.mpr (SideState.decode_encode encodable.read _)) ?_
  refine Outcome.bind_ok (raise_eq_ok.mpr (SideState.decode_encode encodable.write _)) ?_
  refine Outcome.bind_ok (raise_eq_ok.mpr (decodeBytes_encodeBytes encodable.readBuf _)) ?_
  refine Outcome.bind_ok (raise_eq_ok.mpr (KeyOptions.decode_encode encodable.command rest)) ?_
  exact Outcome.bind_ok copied rfl

/-- Decoding an encoded state gives back every field of it and exactly the bytes behind it. -/
theorem session_state_round_trip (provider : CryptoProvider σ ρ)
    (state : SessionState α ServerHostKey) (encodable : state.Encodable)
    (parsed : SocketAddr.fromStr (SocketAddr.display state.addr) = some state.addr)
    (rebuilt : provider.signingKeyFromPkcs8 state.hostKey.pkcs8 = .ok state.hostKey.key)
    (suffix : Bytes) :
    ∃ decoded : SessionState α SessionHostKey,
      SessionState.decode provider (state.encode ++ suffix) = .ok ⟨decoded, suffix⟩ ∧
      decoded.addr = state.addr ∧ decoded.hostKey.key = state.hostKey.key ∧
      decoded.identities = state.identities ∧ decoded.postQuantumKx = state.postQuantumKx ∧
      decoded.strictKx = state.strictKx ∧ decoded.sessionId = state.sessionId ∧
      decoded.read = state.read ∧ decoded.write = state.write ∧
      decoded.readBuf = state.readBuf ∧ decoded.options = state.options := by
  refine ⟨state.received state.hostKey.key, decode_encode encodable parsed rebuilt suffix, ?_⟩
  simp only [received, and_self]

end SessionState

section Listener

-- An address that is written as it is.
instance plainAddr : SocketAddr String where
  display := id
  fromStr := some

def plainSide (counter : UInt64) (sequenceNumber : UInt32) : SideState where
  source := {
    algorithm := .aes128Gcm
    initialIv := List.replicate 12 4
    encryptionKey := List.replicate 16 5 }
  counter := counter
  sequenceNumber := sequenceNumber

def plainState : SessionState String ServerHostKey where
  addr := "192.0.2.1:22"
  hostKey := ⟨[7], Primitives.ed25519SigningKey { publicKey := [1], sign := fun _ => [2] }⟩
  identities := ⟨strBytes "SSH-2.0-client", strBytes "SSH-2.0-OxiSH/0.2.0"⟩
  postQuantumKx := true
  strictKx := some ⟨⟩
  sessionId := ⟨List.replicate 32 0, by decide⟩
  read := plainSide 3 5
  write := plainSide 4 6
  readBuf := [1, 2, 3]
  options := { command := some "uptime" }

theorem plainState_encodable : plainState.Encodable where
  addr := by decide
  hostKey := by decide
  client := by decide
  server := by decide
  read := ⟨rfl, rfl, rfl⟩
  write := ⟨rfl, rfl, rfl⟩
  readBuf := by decide
  command := by
    intro command forced
    cases forced
    decide

theorem session_state_round_trip_plain :
    ∃ decoded : SessionState String SessionHostKey,
      SessionState.decode plainProvider (plainState.encode ++ [9]) = .ok ⟨decoded, [9]⟩ ∧
        decoded.read = plainSide 3 5 ∧ decoded.write = plainSide 4 6 := by
  obtain ⟨decoded, done, _, _, _, _, _, _, read, write, _⟩ :=
    SessionState.session_state_round_trip plainProvider plainState plainState_encodable rfl rfl [9]
  exact ⟨decoded, done, read, write⟩

end Listener

end Oxish
