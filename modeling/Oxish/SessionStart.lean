import Oxish.Exchange
import Oxish.HandoffState

/-!
How a session starts once its client is authenticated: in this process, or in another one from the
state that was handed over. Both start from the same outcome of the key exchange and the same
options of the key that authenticated.
-/

namespace Oxish

open Stateful

variable {α σ ρ τ : Type}

theorem KeyOptions.decode_whole {options : KeyOptions} {decoded : Decoded KeyOptions}
    (done : KeyOptions.decode options.encode = .ok decoded) (whole : decoded.next = []) :
    decoded.value = options ∧
      ∀ command, options.command = some command → (strBytes command).length < 2 ^ 32 := by
  obtain ⟨_ | command⟩ := options
  · cases done
    exact ⟨rfl, nofun⟩
  · have flagged := decodeBool_encodeBool true (encodeBytes (strBytes command))
    obtain ⟨⟨flag, next⟩, read, done⟩ := Outcome.bind_eq_ok.mp done
    cases flagged.symm.trans read
    obtain ⟨⟨value, rest⟩, taken, done⟩ := Outcome.bind_eq_ok.mp done
    dsimp only at done
    split at done
    · cases done
    · rename_i text valid
      cases done
      change rest = [] at whole
      subst whole
      obtain ⟨rfl, short⟩ := decodeBytes_whole taken
      rw [fromUtf8_strBytes] at valid
      cases valid
      refine ⟨rfl, ?_⟩
      intro forced same
      cases same
      exact short

theorem SessionHostKey.decode_ok {hostKey : ServerHostKey} {provider : CryptoProvider σ ρ}
    {key : SigningKey} {rest next : Bytes} (short : hostKey.pkcs8.length < 2 ^ 32)
    (done : SessionHostKey.decode (hostKey.encode ++ rest) provider = .ok ⟨⟨key⟩, next⟩) :
    provider.signingKeyFromPkcs8 hostKey.pkcs8 = .ok key ∧ rest = next := by
  have taken := decodeBytes_encodeBytes short rest
  obtain ⟨⟨value, _⟩, read, done⟩ := Outcome.bind_eq_ok.mp done
  cases taken.symm.trans read
  obtain ⟨rebuilt, accepted, done⟩ := Outcome.bind_eq_ok.mp done
  cases done
  exact ⟨cryptoResult_ok accepted, rfl⟩

namespace SessionState

variable [SocketAddr α]

structure Fits (state : SessionState α ServerHostKey) : Prop where
  addr : (strBytes (SocketAddr.display state.addr)).length < 2 ^ 32
  hostKey : state.hostKey.pkcs8.length < 2 ^ 32
  client : state.identities.client.length < 2 ^ 32
  server : state.identities.server.length < 2 ^ 32
  read : state.read.source.Gcm
  write : state.write.source.Gcm
  readBuf : state.readBuf.length < 2 ^ 32

theorem decodeAddr_ok {addr found : α} {rest next : Bytes}
    (short : (strBytes (SocketAddr.display addr)).length < 2 ^ 32)
    (done : SessionState.decodeAddr (encodeBytes (strBytes (SocketAddr.display addr)) ++ rest) =
      .ok ⟨found, next⟩) :
    SocketAddr.fromStr (SocketAddr.display addr) = some found ∧ rest = next := by
  have taken := decodeBytes_encodeBytes short rest
  obtain ⟨⟨value, _⟩, read, done⟩ := Outcome.bind_eq_ok.mp done
  cases taken.symm.trans read
  dsimp only at done
  rw [fromUtf8_strBytes] at done
  dsimp only at done
  split at done
  · cases done
  · rename_i parsed
    cases done
    exact ⟨parsed, rfl⟩

theorem decode_ok {state : SessionState α ServerHostKey} {provider : CryptoProvider σ ρ}
    {decoded : SessionState α SessionHostKey} {next : Bytes} (fits : state.Fits)
    (done : SessionState.decode provider state.encode = .ok ⟨decoded, next⟩) :
    (∃ key, provider.signingKeyFromPkcs8 state.hostKey.pkcs8 = .ok key ∧
        decoded.hostKey = ⟨key⟩) ∧
      SocketAddr.fromStr (SocketAddr.display state.addr) = some decoded.addr ∧
      decoded.identities = state.identities ∧ decoded.strictKx = state.strictKx ∧
      decoded.sessionId = state.sessionId ∧ decoded.write = state.write ∧
      KeyOptions.decode state.options.encode = .ok ⟨decoded.options, next⟩ := by
  have shortId : state.sessionId.bytes.length < 2 ^ 32 :=
    Nat.lt_of_le_of_lt state.sessionId.bounded (by omega)
  have copied : Digest.new state.sessionId.bytes = .ok state.sessionId :=
    dif_pos state.sessionId.bounded
  simp only [SessionState.encode, List.append_assoc] at done
  obtain ⟨⟨addr, _⟩, readAddr, done⟩ := Outcome.bind_eq_ok.mp done
  obtain ⟨found, rfl⟩ := decodeAddr_ok fits.addr (raise_eq_ok.mp readAddr)
  obtain ⟨⟨⟨key⟩, _⟩, readKey, done⟩ := Outcome.bind_eq_ok.mp done
  obtain ⟨rebuilt, rfl⟩ := SessionHostKey.decode_ok fits.hostKey (raise_eq_ok.mp readKey)
  obtain ⟨_, read, done⟩ := Outcome.bind_eq_ok.mp done
  cases (Identities.decode_encode fits.client fits.server _).symm.trans (raise_eq_ok.mp read)
  obtain ⟨_, read, done⟩ := Outcome.bind_eq_ok.mp done
  cases (decodeBool_encodeBool state.postQuantumKx _).symm.trans (raise_eq_ok.mp read)
  obtain ⟨_, read, done⟩ := Outcome.bind_eq_ok.mp done
  cases (StrictKeyExchange.decode_encode state.strictKx _).symm.trans (raise_eq_ok.mp read)
  obtain ⟨_, read, done⟩ := Outcome.bind_eq_ok.mp done
  cases (decodeBytes_encodeBytes shortId _).symm.trans (raise_eq_ok.mp read)
  obtain ⟨_, read, done⟩ := Outcome.bind_eq_ok.mp done
  cases (SideState.decode_encode fits.read _).symm.trans (raise_eq_ok.mp read)
  obtain ⟨_, read, done⟩ := Outcome.bind_eq_ok.mp done
  cases (SideState.decode_encode fits.write _).symm.trans (raise_eq_ok.mp read)
  obtain ⟨_, read, done⟩ := Outcome.bind_eq_ok.mp done
  cases (decodeBytes_encodeBytes fits.readBuf _).symm.trans (raise_eq_ok.mp read)
  obtain ⟨⟨options, _⟩, readOptions, done⟩ := Outcome.bind_eq_ok.mp done
  obtain ⟨_, read, done⟩ := Outcome.bind_eq_ok.mp done
  cases copied.symm.trans read
  cases done
  exact ⟨⟨key, rebuilt, rfl⟩, found, rfl, rfl, rfl, rfl, raise_eq_ok.mp readOptions⟩

end SessionState

section Starting

variable [SocketAddr α] {provider : CryptoProvider σ ρ} {output : KeyExchangeOutput}
  {options : KeyOptions} {session : Session α σ ρ τ}

structure Session.StartsFrom (session : Session α σ ρ τ) (provider : CryptoProvider σ ρ)
    (output : KeyExchangeOutput) (options : KeyOptions) : Prop where
  supplied : session.provider = provider
  kx : ∃ key, provider.signingKeyFromPkcs8 output.hostKey.pkcs8 = .ok key ∧
    session.kx = .new output.sessionId output.strictKx output.identities ⟨key⟩
  channels : session.channels = {}
  options : session.options = options

/-- A session after authentication: in this process, or resumed from the state that was handed
over. -/
inductive Session.Begun [SealingKey σ] [OpeningKey ρ] (provider : CryptoProvider σ ρ)
    (output : KeyExchangeOutput) (options : KeyOptions) : Session α σ ρ τ → Prop
  | inProcess {conn session} (started : Session.new output conn provider options = .ok session) :
      Begun provider output options session
  | handedOff {conn : Connection α σ ρ} {state stream session}
      (handoff : Server.handoff output options conn = .ok state) (fits : state.Fits)
      (resumed : resume provider stream state.encode = .ok session) :
      Begun provider output options session

omit [SocketAddr α] in
theorem Session.new_ok {conn : Connection α σ ρ}
    (started : Session.new output conn provider options = .ok session) :
    session.StartsFrom provider output options ∧ session.conn = conn := by
  unfold Session.new at started
  obtain ⟨hostKey, rebuilt, started⟩ := Outcome.bind_eq_ok.mp started
  obtain ⟨key, accepted, rfl⟩ := Outcome.map_eq_ok.mp rebuilt
  cases started
  exact ⟨⟨rfl, ⟨key, cryptoResult_ok accepted, rfl⟩, rfl, rfl⟩, rfl⟩

omit [SocketAddr α] in
theorem rebuild_ok {stream : Stream} {state : SessionState α SessionHostKey}
    (rebuilt : rebuild provider stream state = .ok session) :
    session.provider = provider ∧
      session.kx = .new state.sessionId state.strictKx state.identities state.hostKey ∧
      session.channels = {} ∧ session.options = state.options ∧
      session.conn.write.sealer.isSome = true := by
  unfold rebuild at rebuilt
  obtain ⟨opener, _, rebuilt⟩ := Outcome.bind_eq_ok.mp rebuilt
  obtain ⟨sealer, _, rebuilt⟩ := Outcome.bind_eq_ok.mp rebuilt
  cases rebuilt
  exact ⟨rfl, rfl, rfl, rfl, rfl⟩

omit [SocketAddr α] in
theorem rebuild_empty {stream : Stream} {state : SessionState α SessionHostKey}
    (rebuilt : rebuild provider stream state = .ok session) : session.conn.write.buf = [] := by
  unfold rebuild at rebuilt
  obtain ⟨opener, _, rebuilt⟩ := Outcome.bind_eq_ok.mp rebuilt
  obtain ⟨sealer, _, rebuilt⟩ := Outcome.bind_eq_ok.mp rebuilt
  cases rebuilt
  rfl

theorem resume_decoded {received : Bytes} {stream : Stream}
    (resumed : resume provider stream received = .ok session) :
    ∃ state : SessionState α SessionHostKey,
      SessionState.decode provider received = .ok ⟨state, []⟩ ∧
        rebuild provider stream state = .ok session := by
  unfold resume at resumed
  split at resumed
  · cases resumed
  · rename_i state next accepted
    split at resumed
    · rename_i whole
      rw [List.isEmpty_iff.mp whole] at accepted
      split at resumed
      · rename_i rebuilt
        cases resumed
        exact ⟨state, accepted, rebuilt⟩
      · cases resumed
    · cases resumed

theorem resume_rebuilt {received : Bytes} {stream : Stream} {state : SessionState α SessionHostKey}
    (accepted : SessionState.decode provider received = .ok ⟨state, []⟩)
    (rebuilt : rebuild provider stream state = .ok session) :
    resume provider stream received = .ok session := by
  rw [resume, accepted]
  dsimp only
  rw [if_pos List.isEmpty_nil, rebuilt]

theorem resume_ok {state : SessionState α ServerHostKey} {stream : Stream} (fits : state.Fits)
    (resumed : resume provider stream state.encode = .ok session) :
    session.provider = provider ∧ session.channels = {} ∧ session.options = state.options ∧
      session.conn.write.sealer.isSome = true ∧
      ∃ key, provider.signingKeyFromPkcs8 state.hostKey.pkcs8 = .ok key ∧
        session.kx = .new state.sessionId state.strictKx state.identities ⟨key⟩ := by
  obtain ⟨decoded, accepted, rebuilt⟩ := resume_decoded resumed
  obtain ⟨⟨key, found, hostKey⟩, _, identities, strictKx, sessionId, _, options⟩ :=
    SessionState.decode_ok fits accepted
  obtain ⟨supplied, kx, channels, kept, sealed⟩ := rebuild_ok rebuilt
  have command := (KeyOptions.decode_whole options rfl).1
  refine ⟨supplied, channels, kept.trans command, sealed, key, found, ?_⟩
  rw [kx, sessionId, strictKx, identities, hostKey]

theorem Session.Begun.startsFrom [SealingKey σ] [OpeningKey ρ]
    (begun : session.Begun provider output options) :
    session.StartsFrom provider output options := by
  cases begun with
  | inProcess started => exact (Session.new_ok started).1
  | handedOff handoff fits resumed =>
      obtain ⟨same, channels, kept, _, key, found, kx⟩ := resume_ok fits resumed
      unfold Server.handoff at handoff
      split at handoff
      · cases handoff
      · cases handoff
      · split at handoff
        · cases handoff
        · cases handoff
          exact ⟨same, ⟨key, found, kx⟩, channels, kept⟩

end Starting

end Oxish
