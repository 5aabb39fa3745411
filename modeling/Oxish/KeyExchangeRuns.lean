import Oxish.KeyExchangeCore
import Oxish.Lib.Guarded
import Oxish.Lib.Outcome
import Oxish.Outbox
import Oxish.PacketEncoding
import Oxish.ProviderCore

/-!
The two key exchange machines over whole runs. A step succeeds only on the message its state
waits for, and a step that stops leaves the placeholder state, which refuses everything.
-/

namespace Oxish

open Stateful

theorem KeyExchange.start_wrong {σ ρ : Type} {packet : IncomingPacket}
    (wrong : packet.messageType ≠ .keyExchangeInit) (exchange : HandshakeBuffer)
    (algorithms : List PublicKeyAlgorithm) (extensions : List ExtensionId)
    (provider : CryptoProvider σ ρ) :
    KeyExchange.start packet exchange algorithms extensions provider =
      .error (.unexpectedMessage packet.messageType [.keyExchangeInit]) := by
  simp only [KeyExchange.start, KeyExchangeInit.tryFrom, IncomingPacket.expect_wrong wrong,
    Outcome.error_bind]

theorem EcdhKeyExchangeInit.tryFrom_wrong {packet : IncomingPacket}
    (wrong : packet.messageType ≠ .keyExchangeEcdhInit) :
    EcdhKeyExchangeInit.tryFrom packet =
      .error (.unexpectedMessage packet.messageType [.keyExchangeEcdhInit]) := by
  simp only [EcdhKeyExchangeInit.tryFrom, IncomingPacket.expect_wrong wrong, Outcome.error_bind]

theorem NewKeys.tryFrom_wrong {packet : IncomingPacket} (wrong : packet.messageType ≠ .newKeys) :
    NewKeys.tryFrom packet = .error (.unexpectedMessage packet.messageType [.newKeys]) := by
  simp only [NewKeys.tryFrom, IncomingPacket.expect_wrong wrong, Outcome.error_bind]

def keyExchangeMessage (stage : Nat) : MessageType :=
  match stage % 3 with
  | 0 => .keyExchangeInit
  | 1 => .keyExchangeEcdhInit
  | _ => .newKeys

structure KeyExchangeCall (σ ρ : Type) where
  packet : IncomingPacket
  write : WriteState σ
  provider : CryptoProvider σ ρ

def polledWhileTransitioning : Stop ProtoError :=
  .error (.unreachable "key exchange state machine polled while transitioning")

section Replacing

variable {σ S α : Type}

theorem replacing_ok {placeholder : S} {step : Emit σ Bytes ProtoError (S × α)}
    {outbox : Outbox σ Bytes} {output : α}
    (done : (replacing placeholder step outbox).result = .ok output) :
    exec step outbox = (.ok ((replacing placeholder step outbox).state, output),
      (replacing placeholder step outbox).outbox) := by
  unfold replacing at done ⊢
  split at done
  · rename_i state last outbox ran
    simp only [Except.ok.injEq] at done
    subst done
    rw [ran]
  · cases done

theorem replacing_error {placeholder : S} {step : Emit σ Bytes ProtoError (S × α)}
    {outbox : Outbox σ Bytes} {stop : Stop ProtoError}
    (failed : (replacing placeholder step outbox).result = .error stop) :
    (replacing placeholder step outbox).state = placeholder := by
  unfold replacing at failed ⊢
  split at failed
  · cases failed
  · rfl

theorem replacing_stopped {placeholder : S} {step : Emit σ Bytes ProtoError (S × α)}
    {outbox last : Outbox σ Bytes} {stop : Stop ProtoError}
    (stopped : exec step outbox = (.error stop, last)) :
    (replacing placeholder step outbox).result = .error stop := by
  simp only [replacing, stopped]

end Replacing

namespace InitialKeyExchangeState

variable {σ ρ : Type} [SealingKey σ]

def stage : InitialKeyExchangeState → Option Nat
  | .awaitingKexInit _ _ _ => some 0
  | .awaitingEcdhInit _ _ _ _ _ => some 1
  | .awaitingNewKeys _ _ => some 2
  | .complete => none

def following (stage : Nat) : Option Nat := if stage < 2 then some (stage + 1) else none

theorem advance_wrong {state : InitialKeyExchangeState} {number : Nat}
    (live : state.stage = some number) {packet : IncomingPacket}
    (wrong : packet.messageType ≠ keyExchangeMessage number) (provider : CryptoProvider σ ρ)
    (outbox : Outbox σ Bytes) :
    exec (state.advance packet provider) outbox =
      (.error (.error (.unexpectedMessage packet.messageType [keyExchangeMessage number])),
        outbox) := by
  cases state with
  | awaitingKexInit hostKeys identities exchange =>
      cases live
      exact exec_attempt_error (KeyExchange.start_wrong wrong _ _ _ provider) _ outbox
  | awaitingEcdhInit kx hostKeys identities strictKx extInfo =>
      cases live
      exact exec_attempt_error (EcdhKeyExchangeInit.tryFrom_wrong wrong) _ outbox
  | awaitingNewKeys output extInfo =>
      cases live
      exact exec_attempt_error (NewKeys.tryFrom_wrong wrong) _ outbox
  | complete => cases live

theorem advance_stage {state next : InitialKeyExchangeState} {number : Nat}
    (live : state.stage = some number) {packet : IncomingPacket} {provider : CryptoProvider σ ρ}
    {outbox last : Outbox σ Bytes} {output : Option (Established σ ρ)}
    (done : exec (state.advance packet provider) outbox = (.ok (next, output), last)) :
    next.stage = following number ∧ (output.isSome ↔ number = 2) := by
  cases state with
  | awaitingKexInit hostKeys identities exchange =>
      cases live
      obtain ⟨start, _, done⟩ := exec_attempt_ok.mp done
      obtain ⟨exchange, middle, _, done⟩ := exec_bind_ok.mp done
      cases done
      exact ⟨rfl, by simp⟩
  | awaitingEcdhInit kx hostKeys identities strictKx extInfo =>
      cases live
      obtain ⟨init, _, done⟩ := exec_attempt_ok.mp done
      obtain ⟨hostKey, _, done⟩ := exec_attempt_ok.mp done
      obtain ⟨reply, _, done⟩ := exec_attempt_ok.mp done
      obtain ⟨payload, _, _, done⟩ := exec_bind_ok.mp done
      obtain ⟨_, _, _, done⟩ := exec_bind_ok.mp done
      cases done
      exact ⟨rfl, by simp⟩
  | awaitingNewKeys output extInfo =>
      cases live
      obtain ⟨_, _, done⟩ := exec_attempt_ok.mp done
      obtain ⟨opener, _, done⟩ := exec_attempt_ok.mp done
      obtain ⟨sealer, _, done⟩ := exec_attempt_ok.mp done
      cases done
      exact ⟨rfl, by simp⟩
  | complete => cases live

end InitialKeyExchangeState

namespace RekeyState

variable {σ ρ : Type} [SealingKey σ]

def stage : RekeyState → Option Nat
  | .awaitingKexInit _ => some 0
  | .awaitingEcdhInit _ _ => some 1
  | .awaitingNewKeys _ _ _ => some 2
  | .transitioning => none

def following (stage : Nat) : Option Nat := some ((stage + 1) % 3)

theorem advance_wrong {state : RekeyState} {number : Nat} (live : state.stage = some number)
    {packet : IncomingPacket} (wrong : packet.messageType ≠ keyExchangeMessage number)
    (provider : CryptoProvider σ ρ) (outbox : Outbox σ Bytes) :
    exec (state.advance packet provider) outbox =
      (.error (.error (.unexpectedMessage packet.messageType [keyExchangeMessage number])),
        outbox) := by
  cases state with
  | awaitingKexInit rekey =>
      cases live
      exact exec_attempt_error (KeyExchange.start_wrong wrong _ _ _ provider) _ outbox
  | awaitingEcdhInit kx rekey =>
      cases live
      exact exec_attempt_error (EcdhKeyExchangeInit.tryFrom_wrong wrong) _ outbox
  | awaitingNewKeys rekey keys postQuantumKx =>
      cases live
      exact exec_attempt_error (NewKeys.tryFrom_wrong wrong) _ outbox
  | transitioning => cases live

theorem advance_stage {state next : RekeyState} {number : Nat} (live : state.stage = some number)
    {packet : IncomingPacket} {provider : CryptoProvider σ ρ} {outbox last : Outbox σ Bytes}
    {output : Option (Rekeyed σ ρ)}
    (done : exec (state.advance packet provider) outbox = (.ok (next, output), last)) :
    next.stage = following number ∧ (output.isSome ↔ number = 2) := by
  cases state with
  | awaitingKexInit rekey =>
      cases live
      obtain ⟨start, _, done⟩ := exec_attempt_ok.mp done
      obtain ⟨exchange, middle, _, done⟩ := exec_bind_ok.mp done
      cases done
      exact ⟨rfl, by simp⟩
  | awaitingEcdhInit kx rekey =>
      cases live
      obtain ⟨init, _, done⟩ := exec_attempt_ok.mp done
      obtain ⟨reply, _, done⟩ := exec_attempt_ok.mp done
      obtain ⟨payload, _, _, done⟩ := exec_bind_ok.mp done
      obtain ⟨_, _, _, done⟩ := exec_bind_ok.mp done
      cases done
      exact ⟨rfl, by simp⟩
  | awaitingNewKeys rekey keys postQuantumKx =>
      cases live
      obtain ⟨_, _, done⟩ := exec_attempt_ok.mp done
      obtain ⟨opener, _, done⟩ := exec_attempt_ok.mp done
      obtain ⟨sealer, _, done⟩ := exec_attempt_ok.mp done
      cases done
      exact ⟨rfl, by simp⟩
  | transitioning => cases live

theorem inProgress_iff_stage (state : RekeyState) :
    state.inProgress = true ↔ ∃ number, state.stage = some number ∧ number ≠ 0 := by
  cases state with
  | awaitingKexInit rekey => simp [inProgress, stage]
  | awaitingEcdhInit kx rekey => simp [inProgress, stage]
  | awaitingNewKeys rekey keys postQuantumKx => simp [inProgress, stage]
  | transitioning => simp [inProgress, stage]

end RekeyState

section Machines

variable {σ ρ : Type} {S α : Type}

/-- What the two machines have in common: the step, the stages, and how a step moves on. -/
structure KeyExchangeMachine (σ ρ S α : Type) where
  handle : S → KeyExchangeCall σ ρ → S × Except (Stop ProtoError) (Option α)
  stage : S → Option Nat
  following : Nat → Option Nat
  following_eq : ∀ {number next}, following number = some next → next = (number + 1) % 3
  advanced : ∀ {state call number output}, stage state = some number →
    (handle state call).2 = .ok output →
    stage (handle state call).1 = following number ∧ (output.isSome ↔ number = 2)
  wrong : ∀ {state call number}, stage state = some number →
    call.packet.messageType ≠ keyExchangeMessage number →
    ∃ error, (handle state call).2 = .error (.error error)
  failed : ∀ {state call stop}, (handle state call).2 = .error stop →
    stage (handle state call).1 = none
  stopped : ∀ {state call}, stage state = none →
    (handle state call).2 = .error polledWhileTransitioning

namespace KeyExchangeMachine

variable (machine : KeyExchangeMachine σ ρ S α)

def guarded : Guarded.Machine S (KeyExchangeCall σ ρ) (Except (Stop ProtoError) (Option α)) where
  step := machine.handle
  accepted := Except.isOk
  stage := machine.stage
  following := machine.following
  Allowed number call result :=
    call.packet.messageType = keyExchangeMessage number ∧
      ∃ output, result = .ok output ∧ (output.isSome ↔ number = 2)
  closed := .error polledWhileTransitioning
  allowed_of_accepted := by
    intro state call number live accepted
    obtain ⟨output, done⟩ := Outcome.isOk_iff.mp accepted
    refine ⟨?_, output, done, (machine.advanced live done).2⟩
    by_contra wrong
    obtain ⟨error, failed⟩ := machine.wrong live wrong
    rw [done] at failed
    cases failed
  stage_of_accepted := by
    intro state call number live accepted
    obtain ⟨output, done⟩ := Outcome.isOk_iff.mp accepted
    exact (machine.advanced live done).1
  stage_of_refused := by
    intro state call refused
    obtain ⟨stop, failed⟩ := Outcome.not_isOk_iff.mp refused
    exact machine.failed failed
  closed_of_stopped := machine.stopped
  closed_refused := rfl

def results (state : S) (calls : List (KeyExchangeCall σ ρ)) :
    List (Except (Stop ProtoError) (Option α)) := machine.guarded.results state calls

def after (state : S) (calls : List (KeyExchangeCall σ ρ)) : S := machine.guarded.after state calls

theorem stageAfter_mod {start number count : Nat} (small : start < 3)
    (reached : machine.guarded.stageAfter (some start) count = some number) :
    number = (start + count) % 3 := by
  induction count generalizing start with
  | zero =>
      cases reached
      omega
  | succ count ih =>
      rw [Guarded.Machine.stageAfter_succ] at reached
      change machine.guarded.stageAfter (machine.following start) count = _ at reached
      cases next : machine.following start with
      | none =>
          rw [next] at reached
          cases count with
          | zero => cases reached
          | succ count => cases reached
      | some following =>
          rw [next] at reached
          have position := machine.following_eq next
          have found := ih (by omega) reached
          omega

end KeyExchangeMachine

theorem keyExchangeMessage_mod (number : Nat) :
    keyExchangeMessage (number % 3) = keyExchangeMessage number := by
  simp only [keyExchangeMessage, Nat.mod_mod]

/-- A run accepts its messages in order and returns an output with every third one only; a
message out of order is an error, and after an error there are only errors. -/
structure FailsClosed (calls : List (KeyExchangeCall σ ρ))
    (results : List (Except (Stop ProtoError) (Option α))) : Prop where
  length : results.length = calls.length
  inOrder : ∀ {index output}, results[index]? = some (.ok output) → ∀ earlier ≤ index,
    ∃ call answer, calls[earlier]? = some call ∧
      call.packet.messageType = keyExchangeMessage earlier ∧
      results[earlier]? = some (.ok answer) ∧ (answer.isSome ↔ earlier % 3 = 2)
  wrongMessage : ∀ {index call}, calls[index]? = some call →
    call.packet.messageType ≠ keyExchangeMessage index →
    ∃ error, results[index]? = some (.error (.error error))
  closed : ∀ {index later stop}, results[index]? = some (.error stop) → index < later →
    later < calls.length → results[later]? = some (.error polledWhileTransitioning)

namespace KeyExchangeMachine

variable (machine : KeyExchangeMachine σ ρ S α)

theorem failsClosed {state : S} (fresh : machine.stage state = some 0)
    (calls : List (KeyExchangeCall σ ρ)) : FailsClosed calls (machine.results state calls) := by
  have length := machine.guarded.length_results state calls
  refine ⟨length, ?_, ?_, ?_⟩
  · intro index output found earlier order
    obtain ⟨number, call, result, reached, given, answered, accepted, message, answer, done, some⟩ :=
      machine.guarded.accepted_run fresh calls found rfl order
    have position := machine.stageAfter_mod (by omega) reached
    rw [Nat.zero_add] at position
    subst position done
    exact ⟨call, answer, given, by rw [message, keyExchangeMessage_mod], answered, some⟩
  · intro index call given wrong
    have bound : index < (machine.results state calls).length :=
      lt_of_lt_of_eq (List.getElem?_eq_some_iff.mp given).1 length.symm
    have found := List.getElem?_eq_getElem bound
    rcases machine.guarded.result_at fresh calls given found with
      ⟨number, current, reached, live, answer⟩ | closed
    · have position := machine.stageAfter_mod (by omega) reached
      rw [Nat.zero_add] at position
      subst position
      rw [← keyExchangeMessage_mod] at wrong
      obtain ⟨error, failed⟩ := machine.wrong live wrong
      exact ⟨error, found.trans (congrArg some (answer.trans failed))⟩
    · exact ⟨_, found.trans (congrArg some closed)⟩
  · intro index later stop found order bound
    have foundLater := List.getElem?_eq_getElem (lt_of_lt_of_eq bound length.symm)
    exact foundLater.trans (congrArg some
      (machine.guarded.closed_forever fresh calls found (Or.inl rfl) order foundLater))

end KeyExchangeMachine

end Machines

section Runs

variable {σ ρ : Type} [SealingKey σ]

def InitialKeyExchangeState.machine (σ ρ : Type) [SealingKey σ] :
    KeyExchangeMachine σ ρ InitialKeyExchangeState (Established σ ρ) where
  handle state call :=
    let handled := state.handle call.packet call.write call.provider
    (handled.state, handled.result)
  stage := InitialKeyExchangeState.stage
  following := InitialKeyExchangeState.following
  following_eq := by
    intro number next found
    unfold InitialKeyExchangeState.following at found
    split at found
    · cases found
      omega
    · cases found
  advanced := by
    intro state call number output live done
    exact InitialKeyExchangeState.advance_stage live (replacing_ok done)
  wrong := by
    intro state call number live different
    exact ⟨_, replacing_stopped
      (InitialKeyExchangeState.advance_wrong live different call.provider _)⟩
  failed := by
    intro state call stop failed
    exact congrArg InitialKeyExchangeState.stage (replacing_error failed)
  stopped := by
    intro state call ended
    cases state with
    | complete => rfl
    | awaitingKexInit hostKeys identities exchange => cases ended
    | awaitingEcdhInit kx hostKeys identities strictKx extInfo => cases ended
    | awaitingNewKeys output extInfo => cases ended

def RekeyState.machine (σ ρ : Type) [SealingKey σ] :
    KeyExchangeMachine σ ρ RekeyState (Rekeyed σ ρ) where
  handle state call :=
    let handled := state.handle call.packet call.write call.provider
    (handled.state, handled.result)
  stage := RekeyState.stage
  following := RekeyState.following
  following_eq := by
    intro number next found
    cases found
    rfl
  advanced := by
    intro state call number output live done
    exact RekeyState.advance_stage live (replacing_ok done)
  wrong := by
    intro state call number live different
    exact ⟨_, replacing_stopped (RekeyState.advance_wrong live different call.provider _)⟩
  failed := by
    intro state call stop failed
    exact congrArg RekeyState.stage (replacing_error failed)
  stopped := by
    intro state call ended
    cases state with
    | transitioning => rfl
    | awaitingKexInit rekey => cases ended
    | awaitingEcdhInit kx rekey => cases ended
    | awaitingNewKeys rekey keys postQuantumKx => cases ended

theorem InitialKeyExchangeState.established_last {state : InitialKeyExchangeState}
    (fresh : state.stage = some 0) (calls : List (KeyExchangeCall σ ρ)) {index : Nat}
    {established : Established σ ρ}
    (found : ((machine σ ρ).results state calls)[index]? = some (.ok (some established))) :
    index = 2 ∧ ∀ later, index < later → later < calls.length →
      ((machine σ ρ).results state calls)[later]? = some (.error polledWhileTransitioning) := by
  obtain ⟨number, call, result, reached, _, answered, _, _, answer, done, some⟩ :=
    (machine σ ρ).guarded.accepted_run fresh calls found rfl (Nat.le_refl index)
  have same := found.symm.trans answered
  rw [Option.some.injEq] at same
  subst same
  cases done
  have last := some.mp rfl
  subst last
  have two : index = 2 := by
    match index, reached with
    | 0, reached => cases reached
    | 1, reached => cases reached
    | 2, _ => rfl
    | index + 3, reached => cases reached
  subst two
  refine ⟨rfl, fun later order bound => ?_⟩
  have length := (machine σ ρ).guarded.length_results state calls
  have foundLater := List.getElem?_eq_getElem (lt_of_lt_of_eq bound length.symm)
  exact foundLater.trans (congrArg Option.some
    ((machine σ ρ).guarded.closed_forever fresh calls found (Or.inr rfl) order foundLater))

theorem RekeyState.stageAfter_eq {start : Nat} (small : start < 3) (count : Nat) :
    (machine σ ρ).guarded.stageAfter (some start) count = some ((start + count) % 3) := by
  induction count generalizing start with
  | zero => exact congrArg some (Nat.mod_eq_of_lt small).symm
  | succ count ih =>
      rw [Guarded.Machine.stageAfter_succ]
      change (machine σ ρ).guarded.stageAfter (some ((start + 1) % 3)) count = _
      rw [ih (by omega)]
      congr 1
      omega

theorem RekeyState.inProgress_after {state : RekeyState} (fresh : state.stage = some 0)
    (calls : List (KeyExchangeCall σ ρ)) :
    ((machine σ ρ).after state calls).inProgress = true ↔
      (∀ result ∈ (machine σ ρ).results state calls, result.isOk = true) ∧
        calls.length % 3 ≠ 0 := by
  obtain ⟨going, broken⟩ := (machine σ ρ).guarded.stage_after fresh calls
  rw [inProgress_iff_stage]
  by_cases all : ∀ result ∈ (machine σ ρ).results state calls, result.isOk = true
  · have reached := going all
    rw [stageAfter_eq (by omega), Nat.zero_add] at reached
    constructor
    · rintro ⟨number, live, moved⟩
      rw [KeyExchangeMachine.after, show ((machine σ ρ).guarded.after state calls).stage = _
        from reached] at live
      cases live
      exact ⟨all, moved⟩
    · intro ⟨_, moved⟩
      exact ⟨_, reached, moved⟩
  · constructor
    · rintro ⟨number, live, _⟩
      simp only [not_forall] at all
      obtain ⟨result, member, refused⟩ := all
      have stopped := broken ⟨result, member, Bool.eq_false_iff.mpr refused⟩
      cases stopped.symm.trans live
    · intro ⟨accepted, _⟩
      exact absurd accepted all

/-- An accepted KEXINIT that no accepted NEWKEYS has followed yet. -/
def Underway {α : Type} (calls : List (KeyExchangeCall σ ρ))
    (results : List (Except (Stop ProtoError) (Option α))) : Prop :=
  ∃ (index : Nat) (call : KeyExchangeCall σ ρ) (output : Option α), calls[index]? = some call ∧
    call.packet.messageType = .keyExchangeInit ∧ results[index]? = some (.ok output) ∧
    ∀ (later : Nat) (other : KeyExchangeCall σ ρ) (answer : Option α), index < later →
      calls[later]? = some other → results[later]? = some (.ok answer) →
      other.packet.messageType ≠ .newKeys

theorem keyExchangeMessage_init {number : Nat}
    (first : keyExchangeMessage number = .keyExchangeInit) : number % 3 = 0 := by
  unfold keyExchangeMessage at first
  split at first
  · assumption
  · cases first
  · cases first

theorem keyExchangeMessage_newKeys {number : Nat} :
    keyExchangeMessage number = .newKeys ↔ number % 3 = 2 := by
  have position : number % 3 = 0 ∨ number % 3 = 1 ∨ number % 3 = 2 := by omega
  rcases position with zero | one | two
  · simp [keyExchangeMessage, zero]
  · simp [keyExchangeMessage, one]
  · simp [keyExchangeMessage, two]

omit [SealingKey σ] in
theorem FailsClosed.message_at {α : Type} {calls : List (KeyExchangeCall σ ρ)}
    {results : List (Except (Stop ProtoError) (Option α))} (ordered : FailsClosed calls results)
    {index : Nat} {call : KeyExchangeCall σ ρ} {output : Option α}
    (given : calls[index]? = some call) (found : results[index]? = some (.ok output)) :
    call.packet.messageType = keyExchangeMessage index := by
  obtain ⟨other, _, same, message, _⟩ := ordered.inOrder found index (Nat.le_refl index)
  rw [given, Option.some.injEq] at same
  exact same ▸ message

omit [SealingKey σ] in
theorem FailsClosed.underway_iff {α : Type} {calls : List (KeyExchangeCall σ ρ)}
    {results : List (Except (Stop ProtoError) (Option α))} (ordered : FailsClosed calls results)
    (all : ∀ result ∈ results, result.isOk = true) :
    Underway calls results ↔ calls.length % 3 ≠ 0 := by
  have accepted : ∀ index, index < calls.length → ∃ call output,
      calls[index]? = some call ∧ results[index]? = some (.ok output) := by
    intro index bound
    have answered := List.getElem?_eq_getElem (lt_of_lt_of_eq bound ordered.length.symm)
    obtain ⟨output, done⟩ :=
      Outcome.isOk_iff.mp (all _ (List.mem_of_getElem? answered))
    exact ⟨_, output, List.getElem?_eq_getElem bound, answered.trans (congrArg some done)⟩
  constructor
  · rintro ⟨index, call, output, given, first, found, pending⟩ complete
    have start := keyExchangeMessage_init ((ordered.message_at given found).symm.trans first)
    have bound := (List.getElem?_eq_some_iff.mp given).1
    obtain ⟨other, answer, givenLater, foundLater⟩ := accepted (index + 2) (by omega)
    refine pending (index + 2) other answer (by omega) givenLater foundLater ?_
    rw [ordered.message_at givenLater foundLater]
    exact keyExchangeMessage_newKeys.mpr (by omega)
  · intro incomplete
    have start : (calls.length - calls.length % 3) % 3 = 0 := by omega
    obtain ⟨call, output, given, found⟩ := accepted (calls.length - calls.length % 3) (by omega)
    refine ⟨_, call, output, given, ?_, found, ?_⟩
    · rw [ordered.message_at given found, ← keyExchangeMessage_mod, start]
      rfl
    · intro later other answer order givenLater foundLater last
      have bound := (List.getElem?_eq_some_iff.mp givenLater).1
      rw [ordered.message_at givenLater foundLater, keyExchangeMessage_newKeys] at last
      omega

/-- Both key exchange machines accept exactly the messages of their exchange, in order, and
fail closed. A rekey is in progress between an accepted KEXINIT and the accepted NEWKEYS that
completes it, unless a call has failed, after which it no longer is. -/
theorem key_exchange_fails_closed (exchange : HandshakeBuffer) (identities : Identities)
    (hostKeys : HostKeys) (sessionId : Digest) (strictKx : Option StrictKeyExchange)
    (hostKey : SessionHostKey) (calls : List (KeyExchangeCall σ ρ)) :
    let initial := (InitialKeyExchangeState.machine σ ρ).results
      (.new exchange identities hostKeys) calls
    let rekey := (RekeyState.machine σ ρ).results
      (.new sessionId strictKx identities hostKey) calls
    let last := (RekeyState.machine σ ρ).after (.new sessionId strictKx identities hostKey) calls
    FailsClosed calls initial ∧
    (∀ index established, initial[index]? = some (.ok (some established)) →
      index = 2 ∧ ∀ later, index < later → later < calls.length →
        initial[later]? = some (.error polledWhileTransitioning)) ∧
    FailsClosed calls rekey ∧
    (last.inProgress = true ↔ Underway calls rekey ∧ ∀ result ∈ rekey, result.isOk = true) := by
  have ordered : FailsClosed calls ((RekeyState.machine σ ρ).results
      (.new sessionId strictKx identities hostKey) calls) :=
    KeyExchangeMachine.failsClosed _ rfl calls
  refine ⟨KeyExchangeMachine.failsClosed _ rfl calls, ?_, ordered, ?_⟩
  · intro index established found
    exact InitialKeyExchangeState.established_last rfl calls found
  · rw [RekeyState.inProgress_after rfl]
    constructor
    · rintro ⟨all, incomplete⟩
      exact ⟨(ordered.underway_iff all).mpr incomplete, all⟩
    · rintro ⟨underway, all⟩
      exact ⟨all, (ordered.underway_iff all).mp underway⟩

end Runs

def plainHostKey : SigningKey := { sign := fun _ => [2], publicKey := [1], algorithm := .ed25519 }

def clientKexInit : KeyExchangeInit :=
  KeyExchange.localInit ⟨List.replicate 16 4, rfl⟩
    { Backend.supportedAlgorithms with keyExchange := [.curve25519Sha256] } [.ed25519] []

def plainCall (messageType : MessageType) (payload : Bytes) :
    KeyExchangeCall PlainSealer PlainOpener where
  packet := { sequenceNumber := 0, messageType, payload }
  write := WriteState.new (constantRandom 6)
  provider := plainProvider

def kexInitCall : KeyExchangeCall PlainSealer PlainOpener :=
  plainCall .keyExchangeInit (clientKexInit.encode.drop 1)

def plainIdentities : Identities := { client := [67], server := [83] }

def plainHostKeys : HostKeys where
  keys := [{ pkcs8 := [], key := plainHostKey }]
  nonempty := by simp
  few := by decide

set_option maxRecDepth 20000 in
theorem key_exchange_fails_closed_established :
    let calls := [kexInitCall, plainCall .keyExchangeEcdhInit (encodeBytes [8]),
      plainCall .newKeys [], plainCall .ignore []]
    let results := (InitialKeyExchangeState.machine PlainSealer PlainOpener).results
      (.new {} plainIdentities plainHostKeys) calls
    (∃ established, results[2]? = some (.ok (some established))) ∧
      results[3]? = some (.error polledWhileTransitioning) := by
  intro calls results
  have established : ∃ established, results[2]? = some (.ok (some established)) := ⟨_, rfl⟩
  refine ⟨established, ?_⟩
  obtain ⟨output, found⟩ := established
  have closed := (key_exchange_fails_closed {} plainIdentities plainHostKeys
    ⟨[], by simp⟩ none ⟨plainHostKey⟩ calls).2.1 2 output found
  exact closed.2 3 (by omega) (by decide)

set_option maxRecDepth 20000 in
/-- A rekey that fails after its KEXINIT was accepted is not reported as in progress. -/
theorem rekey_failure_not_in_progress :
    let calls := [kexInitCall, plainCall .ignore []]
    let start := RekeyState.new ⟨[], Nat.zero_le 64⟩ none plainIdentities ⟨plainHostKey⟩
    Underway calls ((RekeyState.machine PlainSealer PlainOpener).results start calls) ∧
      ((RekeyState.machine PlainSealer PlainOpener).after start [kexInitCall]).inProgress = true ∧
      ((RekeyState.machine PlainSealer PlainOpener).after start calls).inProgress = false := by
  intro calls start
  refine ⟨⟨0, kexInitCall, none, rfl, rfl, rfl, ?_⟩, rfl, rfl⟩
  intro later other answer order given found last
  match later, given with
  | 1, given => 
    cases given
    cases last

end Oxish
