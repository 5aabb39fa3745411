import Oxish.Authentication
import Oxish.KeyExchangeWatch
import Oxish.Transcript

/-!
Silence during a key exchange, read from the log of a run: between its KEXINIT and its NEWKEYS the
server sends one reply and handles nothing, NEWKEYS goes out under the old keys and what follows
under the new ones, and nothing but the first exchange is ever sent in clear.
-/

namespace Oxish

open Stateful

variable {α σ ρ τ : Type}

section Reading

def Act.sealer : Act σ τ → Option σ
  | .keys sealer => some sealer
  | .resumed sealer => sealer
  | _ => none

def keysAfter (log : List (Act σ τ)) : Option σ := (log.filterMap Act.sealer).getLast?

theorem keysAfter_append (log : List (Act σ τ)) (act : Act σ τ) :
    keysAfter (log ++ [act]) = act.sealer.or (keysAfter log) := by
  rw [keysAfter, List.filterMap_append, List.getLast?_append]
  cases installed : act.sealer with
  | none => rw [List.filterMap_cons_none installed]; rfl
  | some sealer => rw [List.filterMap_cons_some installed]; rfl

theorem keysAfter_still {log : List (Act σ τ)} {act : Act σ τ} (still : act.sealer = none) :
    keysAfter (log ++ [act]) = keysAfter log := by
  rw [keysAfter_append, still, Option.none_or]

theorem Act.sealer_of_payload {act : Act σ τ} {payload : Bytes} (shown : act.payload = some payload) :
    act.sealer = none := by
  cases act with
  | packet payload => rfl
  | keys sealer => cases shown
  | resumed sealer => cases shown
  | processed packet => cases shown
  | channel event => rfl

inductive Watch.Sees : Watch → Act σ τ → Watch → Prop
  | offered {sealed act} (type : act.type = some .keyExchangeInit) :
      Sees ⟨.idle, sealed⟩ act ⟨.offered, sealed⟩
  | replied {sealed act} (type : act.type = some .keyExchangeEcdhReply) :
      Sees ⟨.offered, sealed⟩ act ⟨.replied, sealed⟩
  | announced {sealed act} (type : act.type = some .newKeys) :
      Sees ⟨.replied, sealed⟩ act ⟨.changing, sealed⟩
  | installed {sealed} (sealer : σ) : Sees ⟨.changing, sealed⟩ (.keys sealer) ⟨.idle, true⟩
  | ordinary {act} (noInit : act.type ≠ some .keyExchangeInit)
      (noReply : act.type ≠ some .keyExchangeEcdhReply) (noNewKeys : act.type ≠ some .newKeys)
      (noKeys : ∀ sealer, act ≠ .keys sealer) : Sees ⟨.idle, true⟩ act ⟨.idle, true⟩

theorem Watch.send_sees {here next : Watch} {act : Act σ τ} {payload : Bytes}
    (shown : act.payload = some payload) (sent : here.send (payloadType payload) = some next) :
    here.Sees act next := by
  have type : act.type = payloadType payload := by rw [Act.type, shown]; rfl
  obtain ⟨stage, sealed⟩ := here
  unfold Watch.send at sent
  split at sent
  · rename_i is
    obtain ⟨stands, same⟩ := Option.ite_none_right_eq_some.mp sent
    cases stands
    cases same
    exact .offered (type.trans is)
  · rename_i is
    obtain ⟨stands, same⟩ := Option.ite_none_right_eq_some.mp sent
    cases stands
    cases same
    exact .replied (type.trans is)
  · rename_i is
    obtain ⟨stands, same⟩ := Option.ite_none_right_eq_some.mp sent
    cases stands
    cases same
    exact .announced (type.trans is)
  · rename_i noInit noReply noNewKeys
    obtain ⟨stands, same⟩ := Option.ite_none_right_eq_some.mp sent
    cases stands
    cases same
    refine .ordinary ?_ ?_ ?_ ?_
    · intro is
      exact noInit (type.symm.trans is)
    · intro is
      exact noReply (type.symm.trans is)
    · intro is
      exact noNewKeys (type.symm.trans is)
    · intro sealer is
      rw [is] at shown
      cases shown

theorem Watch.see_sees {here next : Watch} {act : Act σ τ} (seen : here.see act = some next) :
    here.Sees act next := by
  unfold Watch.see at seen
  split at seen
  · rename_i payload shown
    exact Watch.send_sees shown seen
  · rename_i sealer silent
    obtain ⟨stage, sealed⟩ := here
    obtain ⟨stands, same⟩ := Option.ite_none_right_eq_some.mp seen
    cases stands
    cases same
    exact .installed sealer
  · rename_i act _ _ noKeys silent
    obtain ⟨stands, same⟩ := Option.ite_none_right_eq_some.mp seen
    cases stands
    cases same
    have untyped : act.type = none := by rw [Act.type, silent]; rfl
    refine .ordinary ?_ ?_ ?_ noKeys
    · rw [untyped]
      exact Option.some_ne_none _ ∘ Eq.symm
    · rw [untyped]
      exact Option.some_ne_none _ ∘ Eq.symm
    · rw [untyped]
      exact Option.some_ne_none _ ∘ Eq.symm

theorem Watch.follow_split {watch last : Watch} {before after : List (Act σ τ)} {act : Act σ τ}
    (seen : watch.follow (before ++ act :: after) = some last) :
    ∃ here next, watch.follow before = some here ∧ here.Sees act next ∧
      next.follow after = some last := by
  rw [Watch.follow_append] at seen
  obtain ⟨here, first, rest⟩ := Option.bind_eq_some_iff.mp seen
  rw [Watch.follow_cons] at rest
  obtain ⟨next, accepted, behind⟩ := Option.bind_eq_some_iff.mp rest
  exact ⟨here, next, first, Watch.see_sees accepted, behind⟩

theorem Watch.follow_first {watch last : Watch} {act : Act σ τ} {after : List (Act σ τ)}
    (seen : watch.follow (act :: after) = some last) :
    ∃ next, watch.Sees act next ∧ next.follow after = some last := by
  obtain ⟨here, next, first, sees, behind⟩ := @Watch.follow_split _ _ watch last [] after act seen
  cases first
  exact ⟨next, sees, behind⟩

theorem Act.eq_packet {act : Act σ τ} (type : act.type = some .keyExchangeEcdhReply) :
    ∃ payload, act = .packet payload ∧ payloadType payload = some .keyExchangeEcdhReply := by
  cases act with
  | packet payload => exact ⟨payload, rfl, type⟩
  | keys sealer => cases type
  | resumed sealer => cases type
  | processed packet => cases type
  | channel event =>
      obtain ⟨payload, shown, is⟩ := Option.bind_eq_some_iff.mp type
      exact absurd is (Event.payload_ordinary shown).2.1

theorem Watch.follow_offered {sealed : Bool} {between : List (Act σ τ)} {last : Watch}
    (seen : Watch.follow ⟨.offered, sealed⟩ between = some last)
    (unannounced : ∀ act ∈ between, act.type ≠ some .newKeys) :
    (between = [] ∧ last = ⟨.offered, sealed⟩) ∨
      ∃ payload, between = [.packet payload] ∧
        payloadType payload = some .keyExchangeEcdhReply ∧ last = ⟨.replied, sealed⟩ := by
  cases between with
  | nil =>
      cases seen
      exact .inl ⟨rfl, rfl⟩
  | cons act rest =>
      obtain ⟨next, sees, behind⟩ := Watch.follow_first seen
      cases sees with
      | replied type =>
          obtain ⟨payload, rfl, is⟩ := Act.eq_packet type
          cases rest with
          | nil =>
              cases behind
              exact .inr ⟨payload, rfl, is, rfl⟩
          | cons other rest =>
              obtain ⟨_, later, _⟩ := Watch.follow_first behind
              cases later with
              | announced type =>
                  have member : other ∈ Act.packet payload :: other :: rest := by simp
                  exact absurd type (unannounced other member)

theorem Watch.sealed_installed {log : List (Act σ τ)} {watch : Watch}
    (seen : Watch.follow {} log = some watch) (isSealed : watch.sealed = true) :
    ∃ sealer, keysAfter log = some sealer := by
  induction log using List.reverseRecOn generalizing watch with
  | nil =>
      cases seen
      cases isSealed
  | append_singleton log act ih =>
      obtain ⟨here, next, first, sees, behind⟩ := Watch.follow_split seen
      cases behind
      have later (kept : here.sealed = true) : ∃ sealer, keysAfter (log ++ [act]) = some sealer := by
        obtain ⟨sealer, found⟩ := ih first kept
        rw [keysAfter_append, found]
        cases act.sealer with
        | none => exact ⟨sealer, rfl⟩
        | some other => exact ⟨other, rfl⟩
      cases sees with
      | offered type => exact later isSealed
      | replied type => exact later isSealed
      | announced type => exact later isSealed
      | installed sealer => exact ⟨sealer, keysAfter_append log _⟩
      | ordinary _ _ _ _ => exact later rfl

def exchangeTypes : List (Option MessageType) :=
  [some .keyExchangeInit, some .keyExchangeEcdhReply, some .newKeys]

/-- What a log says of the key exchanges in it. -/
structure Silent (log : List (Act σ τ)) : Prop where
  quiet : ∀ {before between after init}, log = before ++ init :: (between ++ after) →
    init.type = some .keyExchangeInit → (∀ act ∈ between, act.type ≠ some .newKeys) →
    between = [] ∨
      ∃ payload, between = [.packet payload] ∧ payloadType payload = some .keyExchangeEcdhReply
  answered : ∀ {before between after init newKeys},
    log = before ++ init :: (between ++ newKeys :: after) → init.type = some .keyExchangeInit →
    (∀ act ∈ between, act.type ≠ some .newKeys) → newKeys.type = some .newKeys →
    ∃ payload, between = [.packet payload] ∧ payloadType payload = some .keyExchangeEcdhReply
  changed : ∀ {before after newKeys}, log = before ++ newKeys :: after →
    newKeys.type = some .newKeys → ∃ sealer rest, after = .keys sealer :: rest
  announced : ∀ {before after sealer}, log = before ++ .keys sealer :: after →
    ∃ earlier newKeys, before = earlier ++ [newKeys] ∧ newKeys.type = some .newKeys
  clear : ∀ {before after act payload}, log = before ++ act :: after →
    act.payload = some payload → keysAfter before = none → payloadType payload ∈ exchangeTypes

theorem Watch.offered_of_init {here next : Watch} {act : Act σ τ} (sees : here.Sees act next)
    (type : act.type = some .keyExchangeInit) : ∃ sealed, next = ⟨.offered, sealed⟩ := by
  cases sees with
  | offered _ => exact ⟨_, rfl⟩
  | replied other => cases type.symm.trans other
  | announced other => cases type.symm.trans other
  | installed sealer => cases type
  | ordinary noInit _ _ _ => exact absurd type noInit

theorem Watch.replied_of_newKeys {here next : Watch} {act : Act σ τ} (sees : here.Sees act next)
    (type : act.type = some .newKeys) :
    ∃ sealed, here = ⟨.replied, sealed⟩ ∧ next = ⟨.changing, sealed⟩ := by
  cases sees with
  | offered other => cases type.symm.trans other
  | replied other => cases type.symm.trans other
  | announced _ => exact ⟨_, rfl, rfl⟩
  | installed sealer => cases type
  | ordinary _ _ noNewKeys _ => exact absurd type noNewKeys

theorem Watch.silent {log : List (Act σ τ)} {watch : Watch}
    (seen : Watch.follow {} log = some watch) (settled : watch.stage ≠ .changing) : Silent log where
  quiet := by
    intro before between after init split type unannounced
    rw [split] at seen
    obtain ⟨here, next, _, sees, behind⟩ := Watch.follow_split seen
    obtain ⟨sealed, rfl⟩ := Watch.offered_of_init sees type
    rw [Watch.follow_append] at behind
    obtain ⟨last, within, _⟩ := Option.bind_eq_some_iff.mp behind
    obtain ⟨empty, _⟩ | ⟨payload, one, is, _⟩ := Watch.follow_offered within unannounced
    · exact .inl empty
    · exact .inr ⟨payload, one, is⟩
  answered := by
    intro before between after init newKeys split type unannounced announces
    rw [split] at seen
    obtain ⟨here, next, _, sees, behind⟩ := Watch.follow_split seen
    obtain ⟨sealed, rfl⟩ := Watch.offered_of_init sees type
    obtain ⟨last, later, within, again, _⟩ := Watch.follow_split behind
    obtain ⟨kept, standing, _⟩ := Watch.replied_of_newKeys again announces
    obtain ⟨_, other⟩ | ⟨payload, one, is, _⟩ := Watch.follow_offered within unannounced
    · cases standing.symm.trans other
    · exact ⟨payload, one, is⟩
  changed := by
    intro before after newKeys split announces
    rw [split] at seen
    obtain ⟨here, next, _, sees, behind⟩ := Watch.follow_split seen
    obtain ⟨sealed, _, rfl⟩ := Watch.replied_of_newKeys sees announces
    cases after with
    | nil =>
        cases behind
        exact absurd rfl settled
    | cons act rest =>
        obtain ⟨_, later, _⟩ := Watch.follow_first behind
        cases later with
        | installed sealer => exact ⟨sealer, rest, rfl⟩
  announced := by
    intro before after sealer split
    rw [split] at seen
    obtain ⟨here, next, first, sees, _⟩ := Watch.follow_split seen
    cases sees with
    | offered type => cases type
    | replied type => cases type
    | announced type => cases type
    | ordinary _ _ _ noKeys => exact absurd rfl (noKeys sealer)
    | installed _ =>
        induction before using List.reverseRecOn with
        | nil => cases first
        | append_singleton earlier act _ =>
            obtain ⟨_, _, _, last, ended⟩ := Watch.follow_split first
            cases ended
            cases last with
            | announced type => exact ⟨earlier, act, rfl, type⟩
  clear := by
    intro before after act payload split shown unsealed
    rw [split] at seen
    obtain ⟨here, next, first, sees, _⟩ := Watch.follow_split seen
    have typed : act.type = payloadType payload := by rw [Act.type, shown]; rfl
    rw [← typed]
    cases sees with
    | offered type => simp [type, exchangeTypes]
    | replied type => simp [type, exchangeTypes]
    | announced type => simp [type, exchangeTypes]
    | installed sealer => cases shown
    | ordinary _ _ _ _ =>
        obtain ⟨sealer, installed⟩ := Watch.sealed_installed first rfl
        cases unsealed.symm.trans installed

end Reading

section Sealing

variable [SealingKey σ]

abbrev Advanced : σ → σ → Prop :=
  Relation.ReflTransGen fun before after =>
    ∃ number data tag, after = (SealingKey.sealInPlace before number data tag).key

theorem WriteState.encode_advanced {state next : WriteState σ} {payload : Bytes}
    {outcome : Except (Stop ProtoError) Unit} (done : state.encode payload = (next, outcome))
    {installed : Option σ} (before : Option.Rel Advanced installed state.sealer) :
    Option.Rel Advanced installed next.sealer := by
  obtain ⟨same, _⟩ := Prod.mk.inj done
  subst same
  have course := encodeKx_course state payload none
  generalize state.encodeKx payload none = encoding at course ⊢
  have onward : ∀ sealer, state.sealer = some sealer →
      Option.Rel Advanced installed (some (state.sealDrawn payload sealer).key) := by
    intro sealer found
    rw [found] at before
    cases before with
    | some advanced => exact .some (advanced.tail ⟨_, _, _, rfl⟩)
  cases course with
  | unpadded => exact before
  | plain => exact before
  | sealed drawn found => exact onward _ found
  | refused drawn found => exact onward _ found

def Trail.InForce (trail : Trail σ τ) : Prop :=
  Option.Rel Advanced (keysAfter trail.log) trail.write.sealer

theorem Trail.Step.inForce {trail next : Trail σ τ} (step : trail.Step next)
    (before : trail.InForce) : next.InForce := by
  unfold Trail.InForce at before ⊢
  cases step with
  | packet shown encoded =>
      rw [keysAfter_still (Act.sealer_of_payload shown)]
      exact WriteState.encode_advanced encoded before
  | failed refused => exact WriteState.encode_advanced refused before
  | processed packet =>
      rw [keysAfter_still rfl]
      exact before
  | channel silent =>
      rw [keysAfter_still rfl]
      exact before
  | keys sealer strictKx =>
      rw [keysAfter_append]
      exact .some .refl
  | flushed recorded =>
      rw [WriteState.recordWritten_sealer recorded]
      exact before
  | resumed fresh sealed =>
      rw [keysAfter_append, sealed]
      exact .some .refl

theorem Trail.Reaches.inForce {start trail : Trail σ τ} (reached : start.Reaches trail)
    (before : start.InForce) : trail.InForce := by
  induction reached with
  | refl => exact before
  | tail _ step ih => exact step.inForce ih

theorem Trail.Step.log_grows {trail next : Trail σ τ} (step : trail.Step next) :
    next.log = trail.log ∨ ∃ act, next.log = trail.log ++ [act] ∧
      ∀ payload, act.payload = some payload → trail.write.encode payload = (next.write, .ok ()) := by
  have silent {act : Act σ τ} (nothing : act.payload = none) (payload : Bytes)
      (shown : act.payload = some payload) :
      trail.write.encode payload = (next.write, .ok ()) := by
    cases nothing.symm.trans shown
  cases step with
  | packet shown encoded =>
      refine .inr ⟨_, rfl, fun payload is => ?_⟩
      cases shown.symm.trans is
      exact encoded
  | failed refused => exact .inl rfl
  | processed packet => exact .inr ⟨_, rfl, silent rfl⟩
  | channel nothing => exact .inr ⟨_, rfl, silent nothing⟩
  | keys sealer strictKx => exact .inr ⟨_, rfl, silent rfl⟩
  | flushed recorded => exact .inl rfl
  | resumed fresh sealed => exact .inr ⟨_, rfl, silent rfl⟩

theorem Trail.Reaches.moment {start trail : Trail σ τ} (reached : start.Reaches trail)
    (fresh : start.log = []) {before after : List (Act σ τ)} {act : Act σ τ} {payload : Bytes}
    (split : trail.log = before ++ act :: after) (shown : act.payload = some payload) :
    ∃ write next, start.Reaches ⟨write, before⟩ ∧ write.encode payload = (next, .ok ()) := by
  induction reached generalizing after with
  | refl =>
      rw [fresh] at split
      exact absurd split.symm (by simp)
  | @tail middle last earlier step ih =>
      obtain same | ⟨newest, grown, encodes⟩ := step.log_grows
      · exact ih (same.symm.trans split)
      · rw [grown] at split
        obtain rfl | ⟨rest, final, rfl⟩ := after.eq_nil_or_concat
        · obtain ⟨rfl, one⟩ := List.append_inj' split rfl
          cases one
          exact ⟨middle.write, last.write, earlier, encodes payload shown⟩
        · have longer : before ++ act :: rest.concat final = (before ++ act :: rest) ++ [final] := by
            rw [List.concat_eq_append, List.append_assoc, List.cons_append]
          exact ih (List.append_inj' (split.trans longer) rfl).1

end Sealing

section Runs

variable [SealingKey σ] [OpeningKey ρ] [SocketAddr α]

/-- Along every run of a connection whose lines were exchanged the log is silent during its key
exchanges, and each packet of it was encoded by the writer of its moment, under the keys that were
installed last, and in clear only as part of the first exchange. -/
theorem key_exchange_silent (server : Server σ ρ) (stream : Stream) (addr : α)
    (secureRandom : SecureRandom) {exchange : HandshakeBuffer} {identities : Identities}
    {identified : Connection α σ ρ}
    (identifies : exec Connection.identify (.new stream addr secureRandom) =
      (.ok (exchange, identities), identified)) (spawn : Bool) (turns : List (Turn τ)) :
    let live := (Live.start identified exchange identities server.hostKeys).run server spawn turns
    Silent live.link.log ∧ Trail.Reaches ⟨identified.write, []⟩ live.link.trail ∧
      ∀ before act after payload, live.link.log = before ++ act :: after →
        act.payload = some payload →
        ∃ write next, Trail.Reaches ⟨identified.write, []⟩ ⟨write, before⟩ ∧
          write.encode payload = (next, .ok ()) ∧
          Option.Rel Advanced (keysAfter before) write.sealer ∧
          (write.sealer = none → payloadType payload ∈ exchangeTypes) := by
  intro live
  obtain ⟨_, _, unchanged, _⟩ := Connection.identify_ok rfl identifies
  have first : InPhase ⟨identified.write, []⟩ (.exchanging (.new exchange identities server.hostKeys))
      ({ conn := identified } : Link α σ ρ τ) :=
    ⟨{}, rfl, .refl, rfl, by decide⟩
  have lands : Lands ⟨identified.write, []⟩ live.phase live.link :=
    Live.run_lands server spawn turns first
  obtain ⟨watch, reached, seen, settled⟩ : Halted ⟨identified.write, []⟩ live.link := by
    unfold Lands at lands
    split at lands
    · exact lands.halted
    · exact lands
  have silent := Watch.silent seen settled
  refine ⟨silent, reached, ?_⟩
  intro before act after payload split shown
  obtain ⟨write, next, earlier, encoded⟩ := Trail.Reaches.moment reached rfl split shown
  have unsealed : Trail.InForce (⟨identified.write, []⟩ : Trail σ τ) := by
    rw [unchanged]
    exact .none
  have inForce : Option.Rel Advanced (keysAfter before) write.sealer := earlier.inForce unsealed
  refine ⟨write, next, earlier, encoded, inForce, fun clear => silent.clear split shown ?_⟩
  rw [clear] at inForce
  generalize keysAfter before = installed at inForce
  cases inForce with
  | none => rfl

end Runs

section Clients

def plainServer : Server PlainSealer PlainOpener where
  provider := plainProvider
  hostKeys := plainHostKeys
  store := { lookup := fun _ _ => none, keys := fun _ _ => [] }
  rootPolicy := .deny
  base64 _ := none

-- A server with one key for every user.
def commandServer (options : KeyOptions) : Server PlainSealer PlainOpener where
  provider := plainProvider
  hostKeys := plainHostKeys
  store := {
    lookup := fun name _ => some (rootUser name)
    keys := fun _ _ => [{ AuthenticationState.rootKey with options }] }
  rootPolicy := .allow
  base64 _ := none

-- The cipher that hides nothing adds only its tag, so one writer will do for all packets.
def sealedWriter : WriteState PlainSealer :=
  { plainWriter with sealer := some ⟨{
      key := .replicate 16 0
      nonce := .replicate 12 0
      counter := 0 }⟩ }

-- The client sends a payload in clear, and the stream takes what the server answers.
def plainTurn (payload : Bytes) (count : Nat) : Turn Unit where
  reads := [.ok (plainWriter.encode payload).1.buf]
  writes := [.ok count]
  flushes := [.ok ()]
  host := plainHost
  draws := plainDraws

def sealedTurn (payload : Bytes) (count : Nat) : Turn Unit :=
  { plainTurn payload count with reads := [.ok (sealedWriter.encode payload).1.buf] }

def plainTurns : List (Turn Unit) :=
  [plainTurn clientKexInit.encode 216,
    plainTurn (MessageType.keyExchangeEcdhInit.toByte :: encodeBytes [8]) 64,
    plainTurn NewKeys.encode 52]

-- The client proves who it is, and its session starts.
def authTurns : List (Turn Unit) :=
  [sealedTurn (MessageType.serviceRequest.toByte :: encodeNamed ServiceName.userAuth) 52,
    sealedTurn (rootPacket.messageType.toByte :: rootPacket.payload) 36,
    { host := plainHost, draws := plainDraws }]

-- The keys are exchanged again with other draws, and then the client opens a channel.
def rekeyTurns : List (Turn Unit) :=
  [{ sealedTurn clientKexInit.encode 212 with draws := laterDraws },
    { sealedTurn (MessageType.keyExchangeEcdhInit.toByte :: encodeBytes [9]) 84 with
      draws := laterDraws },
    sealedTurn NewKeys.encode 36,
    sealedTurn (MessageType.channelOpen.toByte :: (encodeBytes (strBytes "session") ++
      encodeU32 0 ++ encodeU32 1024 ++ encodeU32 1024)) 52]

def plainExchange : HandshakeBuffer := { bytes := plainLines.encode }

def plainIdentified : Connection String PlainSealer PlainOpener :=
  (exec Connection.identify (.new plainStream "192.0.2.1:22" plainProvider.secureRandom)).2

theorem plainIdentified_identifies :
    exec Connection.identify (.new plainStream "192.0.2.1:22" plainProvider.secureRandom) =
      (.ok (plainExchange, plainLines), plainIdentified) := rfl

def rekeyedLive : Live String PlainSealer PlainOpener Unit :=
  (Live.start plainIdentified plainExchange plainLines (commandServer {}).hostKeys).run
    (commandServer {}) false (plainTurns ++ authTurns ++ rekeyTurns)

theorem key_exchange_silent_established :
    rekeyedLive.link.log.map Act.type = [some .keyExchangeInit, some .keyExchangeEcdhReply,
      some .newKeys, none, some .ignore, some .serviceAccept, some .userAuthSuccess,
      some .keyExchangeInit, some .keyExchangeEcdhReply, some .newKeys, none, none, none,
      some .channelOpenConfirmation] ∧ Silent rekeyedLive.link.log := by
  have silent := key_exchange_silent (commandServer {}) plainStream "192.0.2.1:22"
    plainProvider.secureRandom plainIdentified_identifies false
    (plainTurns ++ authTurns ++ rekeyTurns)
  refine ⟨by decide +kernel, ?_⟩
  unfold rekeyedLive
  exact silent.1

end Clients

end Oxish
