import Oxish.Exchange

/-!
A client may announce with its KEXINIT that a guessed packet follows. The flag is decoded and
nothing reads it: once the server has answered the KEXINIT, the guessed packet is taken for the
KEX_ECDH_INIT, and the KEX_ECDH_INIT after it comes where NEWKEYS is due.
-/

namespace Oxish

open Stateful

variable {σ ρ : Type}

def InitialKeyExchangeState.negotiated : InitialKeyExchangeState → Option Negotiated
  | .awaitingEcdhInit kx _ _ _ _ => some kx.negotiated
  | .awaitingKexInit _ _ _ | .awaitingNewKeys _ _ | .complete => none

def RekeyState.negotiated : RekeyState → Option Negotiated
  | .awaitingEcdhInit kx _ => some kx.negotiated
  | .awaitingKexInit _ | .awaitingNewKeys _ _ _ | .transitioning => none

def ChosenAlike (packet other : IncomingPacket) : Prop :=
  ∃ init variant, KeyExchangeInit.tryFrom packet = .ok init ∧
    KeyExchangeInit.tryFrom other = .ok variant ∧
    ∀ server, Negotiated.choose init server = Negotiated.choose variant server

theorem ChosenAlike.symm {packet other : IncomingPacket} (alike : ChosenAlike packet other) :
    ChosenAlike other packet := by
  obtain ⟨init, variant, decodes, varies, same⟩ := alike
  exact ⟨variant, init, varies, decodes, fun server => (same server).symm⟩

theorem KeyExchange.start_alike {packet other : IncomingPacket} (alike : ChosenAlike packet other)
    {exchange : HandshakeBuffer} {algorithms : List PublicKeyAlgorithm}
    {extensions : List ExtensionId} {provider : CryptoProvider σ ρ} {start : KeyExchangeStart}
    (done : KeyExchange.start packet exchange algorithms extensions provider = .ok start) :
    ∃ hashed, KeyExchange.start other exchange algorithms extensions provider =
      .ok { start with kx := ⟨hashed, start.kx.negotiated⟩ } := by
  obtain ⟨init, variant, decodes, varies, same⟩ := alike
  unfold KeyExchange.start at done ⊢
  obtain ⟨peer, parsed, done⟩ := Outcome.bind_eq_ok.mp done
  obtain ⟨cookie, filled, done⟩ := Outcome.bind_eq_ok.mp done
  obtain ⟨negotiated, chosen, done⟩ := Outcome.bind_eq_ok.mp done
  obtain ⟨hash, hashes, done⟩ := Outcome.bind_eq_ok.mp done
  cases done
  cases decodes.symm.trans parsed
  rw [same] at chosen
  exact ⟨_, Outcome.bind_ok varies (Outcome.bind_ok filled
    (Outcome.bind_ok chosen (Outcome.bind_ok hashes rfl)))⟩

theorem KeyExchange.start_iff {packet : IncomingPacket} {init : KeyExchangeInit}
    (parsed : KeyExchangeInit.tryFrom packet = .ok init) {exchange : HandshakeBuffer}
    {algorithms : List PublicKeyAlgorithm} {extensions : List ExtensionId}
    {provider : CryptoProvider σ ρ} (Fits : KeyExchangeInit → Prop) :
    (∃ start, KeyExchange.start packet exchange algorithms extensions provider = .ok start ∧
        Fits start.localInit) ↔
      ∃ cookie negotiated hash, provider.secureRandom.fillOk 16 = .ok cookie ∧
        Negotiated.choose init (KeyExchange.localInit cookie provider.supportedAlgorithms
          algorithms extensions) = .ok negotiated ∧
        provider.hash negotiated.keyExchange = .ok hash ∧
        Fits (KeyExchange.localInit cookie provider.supportedAlgorithms algorithms extensions) := by
  unfold KeyExchange.start
  constructor
  · rintro ⟨start, done, fits⟩
    obtain ⟨peer, decodes, done⟩ := Outcome.bind_eq_ok.mp done
    obtain ⟨cookie, filled, done⟩ := Outcome.bind_eq_ok.mp done
    obtain ⟨negotiated, chosen, done⟩ := Outcome.bind_eq_ok.mp done
    obtain ⟨hash, hashes, done⟩ := Outcome.bind_eq_ok.mp done
    cases done
    cases parsed.symm.trans decodes
    exact ⟨cookie, negotiated, hash, filled, chosen, cryptoResult_ok hashes, fits⟩
  · rintro ⟨cookie, negotiated, hash, filled, chosen, hashes, fits⟩
    exact ⟨_, Outcome.bind_ok parsed (Outcome.bind_ok filled (Outcome.bind_ok chosen
      (Outcome.bind_ok (congrArg cryptoResult hashes) rfl))), fits⟩

section Stepping

variable {S α β : Type}

theorem replacing_alike {placeholder : S} {step other : Emit σ Bytes ProtoError (S × α)}
    {outbox : Outbox σ Bytes} (view : S → β)
    (forth : ∀ {next output last}, exec step outbox = (.ok (next, output), last) →
      ∃ following, exec other outbox = (.ok (following, output), last) ∧
        view following = view next)
    (back : ∀ {next output last}, exec other outbox = (.ok (next, output), last) →
      ∃ following, exec step outbox = (.ok (following, output), last) ∧
        view following = view next) :
    (replacing placeholder step outbox).result.isOk =
        (replacing placeholder other outbox).result.isOk ∧
      view (replacing placeholder step outbox).state =
        view (replacing placeholder other outbox).state := by
  cases ran : exec step outbox with
  | mk outcome last =>
      cases outcome with
      | ok ended =>
          obtain ⟨following, runs, looks⟩ := forth ran
          simp only [replacing, ran, runs, looks, and_self]
      | error stop =>
          cases runs : exec other outbox with
          | mk result final =>
              cases result with
              | ok ended =>
                  obtain ⟨following, runs, _⟩ := back runs
                  rw [ran] at runs
                  cases runs
              | error cause => simp only [replacing, ran, runs, and_true]; rfl

theorem replacing_refused_iff {placeholder : S} {step : Emit σ Bytes ProtoError (S × α)}
    {outbox : Outbox σ Bytes} :
    (replacing placeholder step outbox).result.isOk = false ↔
      ¬∃ ended last, exec step outbox = (.ok ended, last) := by
  cases ran : exec step outbox with
  | mk outcome last =>
      cases outcome with
      | ok ended => simp [replacing, ran, Except.isOk, Except.toBool]
      | error stop => simp [replacing, ran, Except.isOk, Except.toBool]

namespace KeyExchangeMachine

variable (machine : KeyExchangeMachine σ ρ S α)

def acceptance (state : S) (calls : List (KeyExchangeCall σ ρ)) : List Bool :=
  (machine.results state calls).map Except.isOk

theorem acceptance_cons (state : S) (call : KeyExchangeCall σ ρ)
    (calls : List (KeyExchangeCall σ ρ)) :
    machine.acceptance state (call :: calls) =
      (machine.handle state call).2.isOk :: machine.acceptance (machine.handle state call).1 calls :=
  rfl

theorem acceptance_stopped {state : S} (stopped : machine.stage state = none)
    (calls : List (KeyExchangeCall σ ρ)) :
    machine.acceptance state calls = List.replicate calls.length false := by
  induction calls generalizing state with
  | nil => rfl
  | cons call calls ih =>
      have answer : (machine.handle state call).2 = .error polledWhileTransitioning :=
        machine.stopped stopped
      rw [acceptance_cons, ih (machine.failed answer), answer]
      rfl

theorem acceptance_refused {state : S} {call : KeyExchangeCall σ ρ}
    (refused : (machine.handle state call).2.isOk = false) (calls : List (KeyExchangeCall σ ρ)) :
    machine.acceptance state (call :: calls) = List.replicate (calls.length + 1) false := by
  obtain ⟨stop, failed⟩ := Outcome.not_isOk_iff.mp refused
  rw [acceptance_cons, machine.acceptance_stopped (machine.failed failed), refused]
  rfl

/-- A live machine never stays where it is: a packet moves it on or stops it. -/
theorem handle_moves {state : S} (waiting : machine.stage state = some 1)
    (call : KeyExchangeCall σ ρ) : (machine.handle state call).1 ≠ state := by
  intro unmoved
  cases answer : (machine.handle state call).2 with
  | error stop =>
      have stopped := machine.failed answer
      rw [unmoved, waiting] at stopped
      cases stopped
  | ok output =>
      have moved := (machine.advanced waiting answer).1
      rw [unmoved, waiting] at moved
      have place := machine.following_eq moved.symm
      omega

end KeyExchangeMachine

/-- A KEXINIT with a guess announced that is wrong for a server with these host keys and
extensions, the guessed packet, the KEX_ECDH_INIT after it, and the calls that follow. The plain
packet is the KEXINIT with the flag cleared. -/
structure WrongGuess (σ ρ : Type) (hostKeys : List PublicKeyAlgorithm)
    (extensions : List ExtensionId) where
  provider : CryptoProvider σ ρ
  offering : WriteState σ
  init : KeyExchangeInit
  announced : IncomingPacket
  announces : KeyExchangeInit.tryFrom announced = .ok init
  follows : init.firstKexPacketFollows = true
  wrong : ∀ cookie,
    let server := KeyExchange.localInit cookie provider.supportedAlgorithms hostKeys extensions
    init.keyExchangeAlgorithms.head? ≠ server.keyExchangeAlgorithms.head? ∨
      init.serverHostKeyAlgorithms.head? ≠ server.serverHostKeyAlgorithms.head?
  plain : IncomingPacket
  clears : KeyExchangeInit.tryFrom plain = .ok { init with firstKexPacketFollows := false }
  guess : KeyExchangeCall σ ρ
  ecdhInit : KeyExchangeCall σ ρ
  isEcdhInit : ecdhInit.packet.messageType = .keyExchangeEcdhInit
  rest : List (KeyExchangeCall σ ρ)

namespace WrongGuess

variable {hostKeys : List PublicKeyAlgorithm} {extensions : List ExtensionId}
  (wrongGuess : WrongGuess σ ρ hostKeys extensions) (machine : KeyExchangeMachine σ ρ S α)
  (outbox : S → KeyExchangeCall σ ρ → Outbox σ Bytes) (negotiated : S → Option Negotiated)
  (start : S)

def announcing : KeyExchangeCall σ ρ :=
  { packet := wrongGuess.announced, write := wrongGuess.offering, provider := wrongGuess.provider }

def plainly : KeyExchangeCall σ ρ :=
  { packet := wrongGuess.plain, write := wrongGuess.offering, provider := wrongGuess.provider }

def guessed : List (KeyExchangeCall σ ρ) :=
  wrongGuess.announcing :: wrongGuess.guess :: wrongGuess.ecdhInit :: wrongGuess.rest

def unguessed : List (KeyExchangeCall σ ρ) :=
  wrongGuess.plainly :: wrongGuess.ecdhInit :: wrongGuess.rest

/-- The guessed packet is ignored: its call leaves the state as the KEXINIT left it and sends
nothing. The algorithms are those of the plain run, and the other calls are accepted as they are
there. -/
structure Skipped : Prop where
  unmoved : (machine.handle (machine.after start [wrongGuess.announcing]) wrongGuess.guess).1 =
    machine.after start [wrongGuess.announcing]
  silent : outbox (machine.after start [wrongGuess.announcing]) wrongGuess.guess =
    { write := wrongGuess.guess.write }
  chosen : negotiated (machine.after start [wrongGuess.announcing]) =
    negotiated (machine.after start [wrongGuess.plainly])
  accepted : (machine.acceptance start wrongGuess.guessed).eraseIdx 1 =
    machine.acceptance start wrongGuess.unguessed

theorem chosenAlike : ChosenAlike wrongGuess.announced wrongGuess.plain :=
  ⟨_, _, wrongGuess.announces, wrongGuess.clears, fun _ => rfl⟩

variable {machine outbox negotiated start}

theorem skipped_iff (fresh : machine.stage start = some 0)
    (moves : machine.following 0 = some 1)
    (inert : ∀ {state} call, machine.stage state = none →
      (machine.handle state call).1 = state ∧ outbox state call = { write := call.write })
    (alike : (machine.handle start wrongGuess.announcing).2.isOk =
        (machine.handle start wrongGuess.plainly).2.isOk ∧
      negotiated (machine.handle start wrongGuess.announcing).1 =
        negotiated (machine.handle start wrongGuess.plainly).1) :
    wrongGuess.Skipped machine outbox negotiated start ↔
      (machine.handle start wrongGuess.announcing).2.isOk = false := by
  constructor
  · intro skipped
    cases answer : (machine.handle start wrongGuess.announcing).2 with
    | error stop => rfl
    | ok output =>
        have waiting := (machine.advanced fresh answer).1.trans moves
        exact absurd skipped.unmoved (machine.handle_moves waiting wrongGuess.guess)
  · intro refused
    obtain ⟨stop, failed⟩ := Outcome.not_isOk_iff.mp refused
    have stopped := machine.failed failed
    have ignored := inert wrongGuess.guess stopped
    refine ⟨ignored.1, ignored.2, alike.2, ?_⟩
    unfold guessed unguessed
    rw [machine.acceptance_refused refused, machine.acceptance_refused (alike.1.symm.trans refused)]
    rfl

end WrongGuess

end Stepping

variable [SealingKey σ]

theorem emitKx_any {payload : Bytes} {exchange fed : HandshakeHash} {outbox last : Outbox σ Bytes}
    (done : exec (emitKx payload exchange) outbox = (.ok fed, last)) (other : HandshakeHash) :
    exec (emitKx payload other) outbox = (.ok (other.prefixed payload), last) := by
  rw [emitKx_eq] at done ⊢
  obtain ⟨_, middle, emitted, done⟩ := exec_bind_ok.mp done
  cases done
  exact exec_bind_ok.mpr ⟨_, _, emitted, rfl⟩

theorem emitKx_accepts (payload : Bytes) (exchange : HandshakeHash) (outbox : Outbox σ Bytes) :
    (∃ fed last, exec (emitKx payload exchange) outbox = (.ok fed, last)) ↔
      (outbox.write.encode payload).2 = .ok () := by
  constructor
  · rintro ⟨fed, last, done⟩
    rw [(emitKx_ok done).2.1]
  · intro written
    have whole : outbox.write.encode (Encode.encode payload) =
        ((outbox.write.encode payload).1, .ok ()) := Prod.ext rfl written
    let last : Outbox σ Bytes :=
      { write := (outbox.write.encode payload).1, sent := outbox.sent ++ [payload] }
    have emitted : exec (emit id payload : Emit σ Bytes ProtoError Unit) outbox =
        (.ok (), last) := by
      rw [exec_emit, Outbox.encode, whole]
    rw [emitKx_eq]
    exact ⟨_, last, exec_bind_ok.mpr ⟨(), last, emitted, rfl⟩⟩

theorem InitialKeyExchangeState.advance_alike {packet other : IncomingPacket}
    (alike : ChosenAlike packet other) {hostKeys : HostKeys} {identities : Identities}
    {exchange : HandshakeBuffer} {provider : CryptoProvider σ ρ} {outbox last : Outbox σ Bytes}
    {next : InitialKeyExchangeState} {output : Option (Established σ ρ)}
    (done : exec ((InitialKeyExchangeState.awaitingKexInit hostKeys identities exchange).advance
      packet provider) outbox = (.ok (next, output), last)) :
    ∃ following, exec ((InitialKeyExchangeState.awaitingKexInit hostKeys identities
        exchange).advance other provider) outbox = (.ok (following, output), last) ∧
      following.negotiated = next.negotiated := by
  obtain ⟨start, begun, done⟩ := exec_attempt_ok.mp done
  obtain ⟨fed, middle, emitted, done⟩ := exec_bind_ok.mp done
  cases done
  obtain ⟨hashed, begins⟩ := KeyExchange.start_alike alike begun
  exact ⟨_, exec_attempt_ok.mpr ⟨_, begins,
    exec_bind_ok.mpr ⟨_, _, emitKx_any emitted hashed, rfl⟩⟩, rfl⟩

theorem RekeyState.advance_alike {packet other : IncomingPacket}
    (alike : ChosenAlike packet other) {rekey : Rekey} {provider : CryptoProvider σ ρ}
    {outbox last : Outbox σ Bytes} {next : RekeyState} {output : Option (Rekeyed σ ρ)}
    (done : exec ((RekeyState.awaitingKexInit rekey).advance packet provider) outbox =
      (.ok (next, output), last)) :
    ∃ following, exec ((RekeyState.awaitingKexInit rekey).advance other provider) outbox =
        (.ok (following, output), last) ∧
      following.negotiated = next.negotiated := by
  obtain ⟨start, begun, done⟩ := exec_attempt_ok.mp done
  obtain ⟨fed, middle, emitted, done⟩ := exec_bind_ok.mp done
  cases done
  obtain ⟨hashed, begins⟩ := KeyExchange.start_alike alike begun
  exact ⟨_, exec_attempt_ok.mpr ⟨_, begins,
    exec_bind_ok.mpr ⟨_, _, emitKx_any emitted hashed, rfl⟩⟩, rfl⟩

namespace WrongGuess

variable {hostKeys : List PublicKeyAlgorithm} {extensions : List ExtensionId}
  (wrongGuess : WrongGuess σ ρ hostKeys extensions)

/-- The server has a KEXINIT to answer with: it draws a cookie, it has algorithms in common with
the client and a hash for them, and its KEXINIT can be encoded. -/
def Answerable : Prop :=
  ∃ cookie negotiated hash, wrongGuess.provider.secureRandom.fillOk 16 = .ok cookie ∧
    Negotiated.choose wrongGuess.init (KeyExchange.localInit cookie
      wrongGuess.provider.supportedAlgorithms hostKeys extensions) = .ok negotiated ∧
    wrongGuess.provider.hash negotiated.keyExchange = .ok hash ∧
    (wrongGuess.offering.encode (KeyExchange.localInit cookie
      wrongGuess.provider.supportedAlgorithms hostKeys extensions).encode).2 = .ok ()

theorem offer_refused_iff {S α : Type} {exchange : HandshakeBuffer} {placeholder : S}
    {wrap : KeyExchangeStart → HandshakeHash → S × Option α} :
    (replacing placeholder (do
        let start ← attempt (KeyExchange.start wrongGuess.announced exchange hostKeys extensions
          wrongGuess.provider)
        let fed ← emitKx start.localInit.encode start.kx.exchange
        pure (wrap start fed)) { write := wrongGuess.offering }).result.isOk = false ↔
      ¬wrongGuess.Answerable := by
  rw [replacing_refused_iff, not_iff_not, Answerable, ← KeyExchange.start_iff wrongGuess.announces
    fun localInit => (wrongGuess.offering.encode localInit.encode).2 = .ok ()]
  constructor
  · rintro ⟨ended, last, done⟩
    obtain ⟨start, begun, done⟩ := exec_attempt_ok.mp done
    obtain ⟨fed, middle, emitted, done⟩ := exec_bind_ok.mp done
    exact ⟨start, begun, (emitKx_accepts _ _ _).mp ⟨fed, middle, emitted⟩⟩
  · rintro ⟨start, begun, written⟩
    obtain ⟨fed, last, emitted⟩ :=
      (emitKx_accepts start.localInit.encode start.kx.exchange { write := wrongGuess.offering }).mpr
        written
    exact ⟨_, _, exec_attempt_ok.mpr ⟨start, begun, exec_bind_ok.mpr ⟨fed, last, emitted, rfl⟩⟩⟩

end WrongGuess

def InitialKeyExchangeState.outbox (state : InitialKeyExchangeState)
    (call : KeyExchangeCall σ ρ) : Outbox σ Bytes :=
  (state.handle call.packet call.write call.provider).outbox

def RekeyState.outbox (state : RekeyState) (call : KeyExchangeCall σ ρ) : Outbox σ Bytes :=
  (state.handle call.packet call.write call.provider).outbox

/-- In both machines a wrong guess is skipped only where the server cannot answer the KEXINIT, so
that the exchange is over before the guessed packet. -/
theorem wrong_guess_skipped_iff (σ ρ : Type) [SealingKey σ] :
    (∀ (exchange : HandshakeBuffer) (identities : Identities) (hostKeys : HostKeys)
      (wrongGuess : WrongGuess σ ρ hostKeys.algorithms [.strictKexServer]),
      wrongGuess.Skipped (InitialKeyExchangeState.machine σ ρ) InitialKeyExchangeState.outbox
          InitialKeyExchangeState.negotiated (.new exchange identities hostKeys) ↔
        ¬wrongGuess.Answerable) ∧
    (∀ (sessionId : Digest) (strictKx : Option StrictKeyExchange) (identities : Identities)
      (hostKey : SessionHostKey) (wrongGuess : WrongGuess σ ρ [hostKey.key.algorithm] []),
      wrongGuess.Skipped (RekeyState.machine σ ρ) RekeyState.outbox RekeyState.negotiated
          (.new sessionId strictKx identities hostKey) ↔
        ¬wrongGuess.Answerable) := by
  constructor
  · intro exchange identities hostKeys wrongGuess
    have alike := wrongGuess.chosenAlike
    refine Iff.trans (wrongGuess.skipped_iff rfl rfl ?_ ?_) wrongGuess.offer_refused_iff
    · intro state call stopped
      cases state with
      | complete => exact ⟨rfl, rfl⟩
      | awaitingKexInit hostKeys identities exchange => cases stopped
      | awaitingEcdhInit kx hostKeys identities strictKx extInfo => cases stopped
      | awaitingNewKeys output extInfo => cases stopped
    · exact replacing_alike InitialKeyExchangeState.negotiated
        (InitialKeyExchangeState.advance_alike alike)
        (InitialKeyExchangeState.advance_alike alike.symm)
  · intro sessionId strictKx identities hostKey wrongGuess
    have alike := wrongGuess.chosenAlike
    refine Iff.trans (wrongGuess.skipped_iff rfl rfl ?_ ?_) wrongGuess.offer_refused_iff
    · intro state call stopped
      cases state with
      | transitioning => exact ⟨rfl, rfl⟩
      | awaitingKexInit rekey => cases stopped
      | awaitingEcdhInit kx rekey => cases stopped
      | awaitingNewKeys rekey keys postQuantumKx => cases stopped
    · exact replacing_alike RekeyState.negotiated (RekeyState.advance_alike alike)
        (RekeyState.advance_alike alike.symm)

section Guessing

def plainGuess (hostKeys : List PublicKeyAlgorithm) (extensions : List ExtensionId) :
    WrongGuess PlainSealer PlainOpener hostKeys extensions where
  provider := plainProvider
  offering := .new (constantRandom 6)
  init := { clientKexInit with firstKexPacketFollows := true }
  announced := (plainCall .keyExchangeInit
    ({ clientKexInit with firstKexPacketFollows := true } : KeyExchangeInit).encode.tail).packet
  announces := by decide +kernel
  follows := rfl
  wrong := by
    intro cookie
    left
    change some (KeyExchangeAlgorithmOrExtensionId.keyExchange .curve25519Sha256) ≠
      some (.keyExchange .mlKem768X25519Sha256)
    decide
  plain := kexInitCall.packet
  clears := by decide +kernel
  guess := plainCall .keyExchangeEcdhInit (encodeBytes [7])
  ecdhInit := plainCall .keyExchangeEcdhInit (encodeBytes [8])
  isEcdhInit := rfl
  rest := [plainCall .newKeys []]

set_option maxRecDepth 20000 in
theorem plainGuess_initial :
    let machine := InitialKeyExchangeState.machine PlainSealer PlainOpener
    let start := .new {} plainIdentities plainHostKeys
    let wrongGuess := plainGuess plainHostKeys.algorithms [.strictKexServer]
    machine.acceptance start wrongGuess.guessed = [true, true, false, false] ∧
      machine.acceptance start wrongGuess.unguessed = [true, true, true] :=
  ⟨rfl, rfl⟩

set_option maxRecDepth 20000 in
theorem plainGuess_rekey :
    let machine := RekeyState.machine PlainSealer PlainOpener
    let start := .new ⟨[5], by decide⟩ none plainIdentities ⟨plainHostKey⟩
    let wrongGuess := plainGuess [.ed25519] []
    machine.acceptance start wrongGuess.guessed = [true, true, false, false] ∧
      machine.acceptance start wrongGuess.unguessed = [true, true, true] :=
  ⟨rfl, rfl⟩

theorem wrong_guess_taken :
    ¬(plainGuess plainHostKeys.algorithms [.strictKexServer]).Skipped
        (InitialKeyExchangeState.machine PlainSealer PlainOpener) InitialKeyExchangeState.outbox
        InitialKeyExchangeState.negotiated (.new {} plainIdentities plainHostKeys) ∧
      ¬(plainGuess [.ed25519] []).Skipped (RekeyState.machine PlainSealer PlainOpener)
        RekeyState.outbox RekeyState.negotiated
        (.new ⟨[5], by decide⟩ none plainIdentities ⟨plainHostKey⟩) := by
  constructor
  · intro skipped
    have same := skipped.accepted
    obtain ⟨guessed, unguessed⟩ := plainGuess_initial
    rw [guessed, unguessed] at same
    cases same
  · intro skipped
    have same := skipped.accepted
    obtain ⟨guessed, unguessed⟩ := plainGuess_rekey
    rw [guessed, unguessed] at same
    cases same

end Guessing

end Oxish
