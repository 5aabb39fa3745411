import Oxish.KeyExchangeRuns
import Oxish.Lib.Outcome

/-!
Negotiation in terms of the names that both sides list. Names become typed values and extension
markers stand between key exchange algorithms, so that a choice among typed values has to be read
back as a choice among names.
-/

namespace Oxish

section Names

variable {α : Type} [Named α]

def Canonical (value : α) : Prop := Named.typed (Named.name value) = value

def AllCanonical (values : List α) : Prop := ∀ value ∈ values, Canonical value

def namesOf (values : List α) : List String := values.map Named.name

class LawfulNamed (α : Type) [Named α] : Prop where
  name_typed : ∀ name, Named.name (Named.typed name : α) = name

instance : LawfulNamed KeyExchangeAlgorithm where
  name_typed name := by
    simp only [Named.typed]
    split <;> rfl

instance : LawfulNamed ExtensionId where
  name_typed name := by
    simp only [Named.typed]
    split <;> rfl

instance : LawfulNamed PublicKeyAlgorithm where
  name_typed name := by
    simp only [Named.typed]
    split <;> rfl

instance : LawfulNamed EncryptionAlgorithm where
  name_typed name := by
    simp only [Named.typed]
    split <;> rfl

instance : LawfulNamed MethodName where
  name_typed name := by
    simp only [Named.typed]
    split <;> rfl

instance : LawfulNamed ServiceName where
  name_typed name := by
    simp only [Named.typed]
    split <;> rfl

instance : LawfulNamed ExtensionName where
  name_typed name := by
    simp only [Named.typed]
    split <;> rfl

instance : LawfulNamed ChannelType where
  name_typed name := by
    simp only [Named.typed]
    split <;> rfl

instance : LawfulNamed MacAlgorithm where
  name_typed name := by
    simp only [Named.typed]
    split <;> rfl

instance : LawfulNamed CompressionAlgorithm where
  name_typed name := by
    simp only [Named.typed]
    split <;> rfl

instance : LawfulNamed Language where
  name_typed _ := rfl

instance : LawfulNamed KeyExchangeAlgorithmOrExtensionId where
  name_typed name := by
    have algorithm : Named.name (Named.typed name : KeyExchangeAlgorithm) = name :=
      LawfulNamed.name_typed name
    have extension : Named.name (Named.typed name : ExtensionId) = name :=
      LawfulNamed.name_typed name
    change Named.name (KeyExchangeAlgorithmOrExtensionId.typed name) = name
    unfold KeyExchangeAlgorithmOrExtensionId.typed
    split
    · split
      · rfl
      · exact extension
    · exact algorithm

theorem typed_canonical [LawfulNamed α] (name : String) : Canonical (Named.typed name : α) := by
  rw [Canonical, LawfulNamed.name_typed]

theorem Canonical.eq_iff {left right : α} (first : Canonical left) (second : Canonical right) :
    left = right ↔ Named.name left = Named.name right := by
  constructor
  · intro same
    rw [same]
  · intro same
    rw [← first, ← second, same]

theorem AllCanonical.mem_iff {values : List α} (canonical : AllCanonical values) {value : α}
    (one : Canonical value) : value ∈ values ↔ Named.name value ∈ namesOf values := by
  simp only [namesOf, List.mem_map]
  constructor
  · intro member
    exact ⟨value, member, rfl⟩
  · rintro ⟨other, member, same⟩
    rw [← ((canonical other member).eq_iff one).mpr same]
    exact member

theorem typedNames_canonical [LawfulNamed α] {names : List Bytes} {values : List α}
    (typed : typedNames names = .ok values) : AllCanonical values := by
  induction names generalizing values with
  | nil =>
      cases typed
      simp [AllCanonical]
  | cons name names ih =>
      unfold typedNames at typed
      split at typed
      · cases typed
      · rename_i text _
        obtain ⟨rest, others, typed⟩ := Outcome.bind_eq_ok.mp typed
        cases typed
        intro value member
        rcases List.mem_cons.mp member with first | later
        · rw [first]
          exact typed_canonical text
        · exact ih others value later

theorem IncomingNameList.decode_canonical [LawfulNamed α] {bytes : Bytes} {decoded : Decoded (List α)}
    (done : IncomingNameList.decode bytes = .ok decoded) : AllCanonical decoded.value := by
  obtain ⟨⟨len, next⟩, _, done⟩ := Outcome.bind_eq_ok.mp done
  dsimp only at done
  split at done
  · cases done
  · split at done
    · cases done
    · split at done
      · cases done
        simp [AllCanonical]
      · obtain ⟨values, typed, done⟩ := Outcome.bind_eq_ok.mp done
        cases done
        exact typedNames_canonical typed

end Names

structure KeyExchangeInit.Canonical (init : KeyExchangeInit) : Prop where
  keyExchange : AllCanonical init.keyExchangeAlgorithms
  hostKey : AllCanonical init.serverHostKeyAlgorithms
  clientToServer : AllCanonical init.encryptionAlgorithmsClientToServer
  serverToClient : AllCanonical init.encryptionAlgorithmsServerToClient

theorem KeyExchangeInit.tryFrom_canonical {packet : IncomingPacket} {init : KeyExchangeInit}
    (decoded : KeyExchangeInit.tryFrom packet = .ok init) : init.Canonical := by
  unfold KeyExchangeInit.tryFrom at decoded
  obtain ⟨_, _, decoded⟩ := Outcome.bind_eq_ok.mp decoded
  obtain ⟨_, _, decoded⟩ := Outcome.bind_eq_ok.mp decoded
  obtain ⟨keyExchange, first, decoded⟩ := Outcome.bind_eq_ok.mp decoded
  obtain ⟨hostKey, second, decoded⟩ := Outcome.bind_eq_ok.mp decoded
  obtain ⟨clientToServer, third, decoded⟩ := Outcome.bind_eq_ok.mp decoded
  obtain ⟨serverToClient, fourth, decoded⟩ := Outcome.bind_eq_ok.mp decoded
  obtain ⟨_, _, decoded⟩ := Outcome.bind_eq_ok.mp decoded
  obtain ⟨_, _, decoded⟩ := Outcome.bind_eq_ok.mp decoded
  obtain ⟨_, _, decoded⟩ := Outcome.bind_eq_ok.mp decoded
  obtain ⟨_, _, decoded⟩ := Outcome.bind_eq_ok.mp decoded
  obtain ⟨_, _, decoded⟩ := Outcome.bind_eq_ok.mp decoded
  obtain ⟨_, _, decoded⟩ := Outcome.bind_eq_ok.mp decoded
  obtain ⟨_, _, decoded⟩ := Outcome.bind_eq_ok.mp decoded
  obtain ⟨_, _, decoded⟩ := Outcome.bind_eq_ok.mp decoded
  dsimp only at decoded
  split at decoded
  · cases decoded
    exact ⟨IncomingNameList.decode_canonical first, IncomingNameList.decode_canonical second,
      IncomingNameList.decode_canonical third, IncomingNameList.decode_canonical fourth⟩
  · cases decoded

section Choice

/-- The first name of the client that the server lists too. -/
def FirstCommon (client server : List String) (chosen : String) : Prop :=
  ∃ before after, client = before ++ chosen :: after ∧ chosen ∈ server ∧
    ∀ name ∈ before, name ∉ server

def Common (client server : List String) : Prop := ∃ name ∈ client, name ∈ server

section First

variable {α : Type} [DecidableEq α]

theorem findSome_same (value : α) (server : List α) :
    (server.findSome? fun other => if value = other then some other else none) =
      if value ∈ server then some value else none := by
  induction server with
  | nil => simp
  | cons other server ih =>
      by_cases same : value = other
      · subst same
        simp
      · simp [same, ih]

theorem firstCommon_eq_some_iff {client server : List α} {chosen : α} :
    firstCommon client server = some chosen ↔
      ∃ before after, client = before ++ chosen :: after ∧ chosen ∈ server ∧
        ∀ value ∈ before, value ∉ server := by
  simp only [firstCommon, findSome_same, List.findSome?_eq_some_iff, ite_eq_right_iff,
    Option.ite_none_right_eq_some, Option.some.injEq, reduceCtorEq, imp_false]
  constructor
  · rintro ⟨before, value, after, split, ⟨member, rfl⟩, absent⟩
    exact ⟨before, after, split, member, absent⟩
  · rintro ⟨before, after, split, member, absent⟩
    exact ⟨before, chosen, after, split, ⟨member, rfl⟩, absent⟩

theorem firstCommon_eq_none_iff {client server : List α} :
    firstCommon client server = none ↔ ∀ value ∈ client, value ∉ server := by
  simp only [firstCommon, findSome_same, List.findSome?_eq_none_iff, ite_eq_right_iff,
    reduceCtorEq, imp_false]

variable [Named α] {client server : List α}

theorem firstCommon_names {chosen : α} (clientNames : AllCanonical client)
    (serverNames : AllCanonical server) (found : firstCommon client server = some chosen) :
    FirstCommon (namesOf client) (namesOf server) (Named.name chosen) := by
  obtain ⟨before, after, split, member, absent⟩ := firstCommon_eq_some_iff.mp found
  refine ⟨namesOf before, namesOf after, ?_, ?_, ?_⟩
  · rw [split]
    simp [namesOf]
  · exact (serverNames.mem_iff (serverNames chosen member)).mp member
  · intro name listed
    obtain ⟨value, earlier, rfl⟩ := List.mem_map.mp listed
    have canonical : Canonical value := clientNames value (by rw [split]; simp [earlier])
    rw [← serverNames.mem_iff canonical]
    exact absent value earlier

theorem firstCommon_isSome_iff (clientNames : AllCanonical client)
    (serverNames : AllCanonical server) :
    (∃ chosen, firstCommon client server = some chosen) ↔ Common (namesOf client) (namesOf server) := by
  rw [← Option.isSome_iff_exists, ← Option.ne_none_iff_isSome, ne_eq, firstCommon_eq_none_iff]
  simp only [not_forall, not_not, exists_prop, Common]
  constructor
  · rintro ⟨value, member, shared⟩
    exact ⟨Named.name value, List.mem_map.mpr ⟨value, member, rfl⟩,
      (serverNames.mem_iff (clientNames value member)).mp shared⟩
  · rintro ⟨name, listed, shared⟩
    obtain ⟨value, member, rfl⟩ := List.mem_map.mp listed
    exact ⟨value, member, (serverNames.mem_iff (clientNames value member)).mpr shared⟩

end First

def extensionMarkers : List String :=
  ["ext-info-c", "kex-strict-c-v00@openssh.com", "kex-strict-s-v00@openssh.com"]

def algorithmNames (names : List String) : List String :=
  names.filter fun name => name ∉ extensionMarkers

def algorithmsOf (values : List KeyExchangeAlgorithmOrExtensionId) : List KeyExchangeAlgorithm :=
  values.filterMap fun
    | .keyExchange algorithm => some algorithm
    | .extension _ => none

theorem findSome_filterMap {β γ δ : Type} (transform : β → Option γ) (look : γ → Option δ)
    (values : List β) :
    (values.filterMap transform).findSome? look =
      values.findSome? fun value => (transform value).bind look := by
  induction values with
  | nil => rfl
  | cons value values ih =>
      cases transformed : transform value with
      | none => simp [transformed, ih]
      | some other =>
          simp only [List.filterMap_cons, transformed, List.findSome?_cons, Option.bind_some, ih]

theorem firstCommonKeyExchange_eq (client server : List KeyExchangeAlgorithmOrExtensionId) :
    firstCommonKeyExchange client server = firstCommon (algorithmsOf client) (algorithmsOf server) := by
  simp only [firstCommonKeyExchange, firstCommon, algorithmsOf, findSome_filterMap]
  congr 1
  funext value
  cases value with
  | keyExchange algorithm =>
      rw [Option.bind_some]
      congr 1
      funext other
      cases other <;> rfl
  | extension id =>
      rw [Option.bind_none, List.findSome?_eq_none_iff]
      intro other _
      cases other <;> rfl

theorem typed_extension_known {name : String} {id : ExtensionId}
    (typed : (Named.typed name : ExtensionId) = id) (known : ∀ other, id ≠ .unknown other) :
    name ∈ extensionMarkers := by
  simp only [Named.typed] at typed
  split at typed
  · simp [extensionMarkers]
  · simp [extensionMarkers]
  · simp [extensionMarkers]
  · exact absurd typed.symm (known name)

theorem typed_extension_iff (name : String) :
    (∃ id, (Named.typed name : KeyExchangeAlgorithmOrExtensionId) = .extension id) ↔
      name ∈ extensionMarkers := by
  constructor
  · rintro ⟨id, extension⟩
    change KeyExchangeAlgorithmOrExtensionId.typed name = .extension id at extension
    unfold KeyExchangeAlgorithmOrExtensionId.typed at extension
    split at extension
    · split at extension
      · cases extension
      · rename_i known
        exact typed_extension_known rfl known
    · cases extension
  · simp only [extensionMarkers, List.mem_cons, List.not_mem_nil, or_false]
    rintro (rfl | rfl | rfl)
    · exact ⟨.extInfoC, rfl⟩
    · exact ⟨.strictKexClient, rfl⟩
    · exact ⟨.strictKexServer, rfl⟩

@[simp] theorem algorithmsOf_keyExchange (algorithm : KeyExchangeAlgorithm)
    (values : List KeyExchangeAlgorithmOrExtensionId) :
    algorithmsOf (.keyExchange algorithm :: values) = algorithm :: algorithmsOf values := rfl

@[simp] theorem algorithmsOf_extension (id : ExtensionId)
    (values : List KeyExchangeAlgorithmOrExtensionId) :
    algorithmsOf (.extension id :: values) = algorithmsOf values := rfl

theorem namesOf_algorithmsOf {values : List KeyExchangeAlgorithmOrExtensionId}
    (canonical : AllCanonical values) :
    namesOf (algorithmsOf values) = algorithmNames (namesOf values) := by
  induction values with
  | nil => rfl
  | cons value values ih =>
      have rest := ih fun other member => canonical other (List.mem_cons_of_mem value member)
      have one := canonical value List.mem_cons_self
      have marker := typed_extension_iff (Named.name value)
      rw [one] at marker
      cases value with
      | keyExchange algorithm =>
          have plain : Named.name algorithm ∉ extensionMarkers := by
            intro listed
            obtain ⟨id, same⟩ := marker.mpr listed
            cases same
          rw [algorithmsOf_keyExchange]
          change Named.name algorithm :: namesOf (algorithmsOf values) =
            algorithmNames (Named.name algorithm :: namesOf values)
          rw [rest]
          exact (List.filter_cons_of_pos (by simpa using plain)).symm
      | extension id =>
          have marked : Named.name id ∈ extensionMarkers := marker.mp ⟨id, rfl⟩
          rw [algorithmsOf_extension, rest]
          change _ = algorithmNames (Named.name id :: namesOf values)
          exact (List.filter_cons_of_neg (by simpa using marked)).symm

theorem algorithmsOf_canonical {values : List KeyExchangeAlgorithmOrExtensionId}
    (canonical : AllCanonical values) : AllCanonical (algorithmsOf values) := by
  intro algorithm member
  obtain ⟨value, listed, same⟩ := List.mem_filterMap.mp member
  have one := canonical value listed
  have lawful : Named.name (Named.typed (Named.name algorithm) : KeyExchangeAlgorithm) =
      Named.name algorithm := LawfulNamed.name_typed _
  cases value with
  | extension id => cases same
  | keyExchange other =>
      cases same
      change KeyExchangeAlgorithmOrExtensionId.typed (Named.name algorithm) = .keyExchange algorithm
        at one
      unfold KeyExchangeAlgorithmOrExtensionId.typed at one
      split at one
      · rename_i name typed
        split at one
        · have same := KeyExchangeAlgorithmOrExtensionId.keyExchange.inj one
          rw [typed] at lawful
          rw [Canonical, typed, ← same]
          exact congrArg KeyExchangeAlgorithm.unknown lawful
        · cases one
      · exact KeyExchangeAlgorithmOrExtensionId.keyExchange.inj one

end Choice

section Negotiations

variable {client server : KeyExchangeInit}

theorem KeyExchangeInit.hasExtension_iff (canonical : client.Canonical) {id : ExtensionId}
    (marker : Oxish.Canonical (KeyExchangeAlgorithmOrExtensionId.extension id)) :
    client.hasExtension id = true ↔ Named.name id ∈ namesOf client.keyExchangeAlgorithms := by
  have listed := canonical.keyExchange.mem_iff marker
  change _ ↔ Named.name id ∈ _ at listed
  rw [← listed, KeyExchangeInit.hasExtension, List.any_eq_true]
  constructor
  · rintro ⟨value, member, same⟩
    cases value with
    | keyExchange algorithm => cases same
    | extension other =>
        rw [← eq_of_beq same]
        exact member
  · intro member
    exact ⟨_, member, beq_self_eq_true id⟩

/-- What is agreed on, in terms of the names on both sides. -/
structure Agreed (client server : KeyExchangeInit) (negotiated : Negotiated) : Prop where
  keyExchange : FirstCommon (algorithmNames (namesOf client.keyExchangeAlgorithms))
    (algorithmNames (namesOf server.keyExchangeAlgorithms)) (Named.name negotiated.keyExchange)
  unmarked : Named.name negotiated.keyExchange ∉ extensionMarkers
  hostKey : FirstCommon (namesOf client.serverHostKeyAlgorithms)
    (namesOf server.serverHostKeyAlgorithms) (Named.name negotiated.serverHostKey)
  clientToServer : FirstCommon (namesOf client.encryptionAlgorithmsClientToServer)
    (namesOf server.encryptionAlgorithmsClientToServer)
    (Named.name negotiated.encryptionClientToServer)
  serverToClient : FirstCommon (namesOf client.encryptionAlgorithmsServerToClient)
    (namesOf server.encryptionAlgorithmsServerToClient)
    (Named.name negotiated.encryptionServerToClient)
  extInfo : negotiated.wantExtensionInfo = true ↔
    "ext-info-c" ∈ namesOf client.keyExchangeAlgorithms
  strict : negotiated.strictKeyExchange = true ↔
    "kex-strict-c-v00@openssh.com" ∈ namesOf client.keyExchangeAlgorithms

structure AllCommon (client server : KeyExchangeInit) : Prop where
  keyExchange : Common (algorithmNames (namesOf client.keyExchangeAlgorithms))
    (algorithmNames (namesOf server.keyExchangeAlgorithms))
  hostKey : Common (namesOf client.serverHostKeyAlgorithms) (namesOf server.serverHostKeyAlgorithms)
  clientToServer : Common (namesOf client.encryptionAlgorithmsClientToServer)
    (namesOf server.encryptionAlgorithmsClientToServer)
  serverToClient : Common (namesOf client.encryptionAlgorithmsServerToClient)
    (namesOf server.encryptionAlgorithmsServerToClient)

theorem orNoCommon_eq_ok {α : Type} {category : String} {found : Option α} {chosen : α} :
    orNoCommon category found = .ok chosen ↔ found = some chosen := by
  cases found with
  | none => simp [orNoCommon]
  | some other => simp [orNoCommon]

theorem FirstCommon.common {names others : List String} {chosen : String}
    (first : FirstCommon names others chosen) : Common names others := by
  obtain ⟨before, after, split, member, _⟩ := first
  exact ⟨chosen, by rw [split]; simp, member⟩

theorem choose_agreed (clientNames : client.Canonical) (serverNames : server.Canonical)
    {negotiated : Negotiated} (chosen : Negotiated.choose client server = .ok negotiated) :
    Agreed client server negotiated := by
  unfold Negotiated.choose at chosen
  obtain ⟨keyExchange, first, chosen⟩ := Outcome.bind_eq_ok.mp chosen
  obtain ⟨hostKey, second, chosen⟩ := Outcome.bind_eq_ok.mp chosen
  obtain ⟨clientToServer, third, chosen⟩ := Outcome.bind_eq_ok.mp chosen
  obtain ⟨serverToClient, fourth, chosen⟩ := Outcome.bind_eq_ok.mp chosen
  cases chosen
  have agreed := orNoCommon_eq_ok.mp first
  rw [firstCommonKeyExchange_eq] at agreed
  have common := firstCommon_names (algorithmsOf_canonical clientNames.keyExchange)
    (algorithmsOf_canonical serverNames.keyExchange) agreed
  rw [namesOf_algorithmsOf clientNames.keyExchange,
    namesOf_algorithmsOf serverNames.keyExchange] at common
  constructor
  · exact common
  · obtain ⟨_, _, _, listed, _⟩ := common
    simpa using (List.mem_filter.mp listed).2
  · exact firstCommon_names clientNames.hostKey serverNames.hostKey (orNoCommon_eq_ok.mp second)
  · exact firstCommon_names clientNames.clientToServer serverNames.clientToServer
      (orNoCommon_eq_ok.mp third)
  · exact firstCommon_names clientNames.serverToClient serverNames.serverToClient
      (orNoCommon_eq_ok.mp fourth)
  · exact KeyExchangeInit.hasExtension_iff clientNames rfl
  · exact KeyExchangeInit.hasExtension_iff clientNames rfl

theorem choose_ok_iff (clientNames : client.Canonical) (serverNames : server.Canonical) :
    (∃ negotiated, Negotiated.choose client server = .ok negotiated) ↔ AllCommon client server := by
  constructor
  · rintro ⟨negotiated, chosen⟩
    have agreed := choose_agreed clientNames serverNames chosen
    exact ⟨agreed.keyExchange.common, agreed.hostKey.common, agreed.clientToServer.common,
      agreed.serverToClient.common⟩
  · intro common
    have named := common.keyExchange
    rw [← namesOf_algorithmsOf clientNames.keyExchange,
      ← namesOf_algorithmsOf serverNames.keyExchange] at named
    obtain ⟨keyExchange, first⟩ := (firstCommon_isSome_iff
      (algorithmsOf_canonical clientNames.keyExchange)
      (algorithmsOf_canonical serverNames.keyExchange)).mpr named
    rw [← firstCommonKeyExchange_eq] at first
    obtain ⟨hostKey, second⟩ :=
      (firstCommon_isSome_iff clientNames.hostKey serverNames.hostKey).mpr common.hostKey
    obtain ⟨clientToServer, third⟩ := (firstCommon_isSome_iff clientNames.clientToServer
      serverNames.clientToServer).mpr common.clientToServer
    obtain ⟨serverToClient, fourth⟩ := (firstCommon_isSome_iff clientNames.serverToClient
      serverNames.serverToClient).mpr common.serverToClient
    refine ⟨⟨keyExchange, hostKey, clientToServer, serverToClient, client.hasExtension .extInfoC,
      client.hasExtension .strictKexClient⟩, Outcome.bind_ok (orNoCommon_eq_ok.mpr first) ?_⟩
    refine Outcome.bind_ok (orNoCommon_eq_ok.mpr second) ?_
    refine Outcome.bind_ok (orNoCommon_eq_ok.mpr third) ?_
    exact Outcome.bind_ok (orNoCommon_eq_ok.mpr fourth) rfl

theorem orNoCommon_bind_error {α β : Type} {category : String} {found : Option α}
    {next : α → Except ProtoError β} {error : ProtoError}
    (failed : (orNoCommon category found >>= next) = .error error) :
    error = .noCommonAlgorithm category ∨ ∃ chosen, next chosen = .error error := by
  cases found with
  | none =>
      cases failed
      exact .inl rfl
  | some chosen => exact .inr ⟨chosen, failed⟩

theorem choose_error {error : ProtoError} (failed : Negotiated.choose client server = .error error) :
    ∃ category, error = .noCommonAlgorithm category := by
  unfold Negotiated.choose at failed
  obtain is | ⟨_, failed⟩ := orNoCommon_bind_error failed
  · exact ⟨_, is⟩
  obtain is | ⟨_, failed⟩ := orNoCommon_bind_error failed
  · exact ⟨_, is⟩
  obtain is | ⟨_, failed⟩ := orNoCommon_bind_error failed
  · exact ⟨_, is⟩
  obtain is | ⟨_, failed⟩ := orNoCommon_bind_error failed
  · exact ⟨_, is⟩
  · cases failed

/-- The negotiation takes the first name of the client that the server lists too, where extension
markers do not count as key exchange algorithms, and fails exactly when there is none. -/
theorem negotiation_first_common (packet : IncomingPacket) (client server : KeyExchangeInit)
    (decoded : KeyExchangeInit.tryFrom packet = .ok client) (serverNames : server.Canonical) :
    (∀ negotiated, Negotiated.choose client server = .ok negotiated →
        Agreed client server negotiated) ∧
      ((∃ category, Negotiated.choose client server = .error (.noCommonAlgorithm category)) ↔
        ¬ AllCommon client server) := by
  have clientNames := KeyExchangeInit.tryFrom_canonical decoded
  refine ⟨fun negotiated chosen => choose_agreed clientNames serverNames chosen, ?_⟩
  rw [← choose_ok_iff clientNames serverNames]
  constructor
  · rintro ⟨category, failed⟩ ⟨negotiated, chosen⟩
    cases failed.symm.trans chosen
  · intro none
    cases outcome : Negotiated.choose client server with
    | ok negotiated => exact absurd ⟨negotiated, outcome⟩ none
    | error error =>
        obtain ⟨category, rfl⟩ := choose_error outcome
        exact ⟨category, rfl⟩

end Negotiations

section Clients

def markedServer : KeyExchangeInit :=
  KeyExchange.localInit (.replicate 16 4) Backend.supportedAlgorithms [.ed25519]
    [.strictKexServer]

def markedClient (algorithms : List KeyExchangeAlgorithmOrExtensionId) : KeyExchangeInit :=
  { markedServer with
    keyExchangeAlgorithms := .extension .strictKexServer :: .extension .extInfoC :: algorithms }

def KeyExchangeInit.packet (init : KeyExchangeInit) : IncomingPacket :=
  { sequenceNumber := 0, messageType := .keyExchangeInit, payload := init.encode.drop 1 }

theorem markedServer_canonical : markedServer.Canonical := by
  constructor
  · unfold AllCanonical Canonical
    decide
  · unfold AllCanonical Canonical
    decide
  · unfold AllCanonical Canonical
    decide
  · unfold AllCanonical Canonical
    decide

theorem markedClient_decodes :
    KeyExchangeInit.tryFrom (markedClient [.keyExchange .curve25519Sha256]).packet =
        .ok (markedClient [.keyExchange .curve25519Sha256]) ∧
      KeyExchangeInit.tryFrom (markedClient []).packet = .ok (markedClient []) := by
  decide +kernel

theorem negotiation_first_common_marked :
    KeyExchangeInit.tryFrom (markedClient [.keyExchange .curve25519Sha256]).packet =
        .ok (markedClient [.keyExchange .curve25519Sha256]) ∧
      ∃ negotiated,
        Negotiated.choose (markedClient [.keyExchange .curve25519Sha256]) markedServer =
          .ok negotiated ∧
        Agreed (markedClient [.keyExchange .curve25519Sha256]) markedServer negotiated := by
  have both := negotiation_first_common _ _ markedServer markedClient_decodes.1 markedServer_canonical
  exact ⟨markedClient_decodes.1, _, rfl, both.1 _ rfl⟩

/-- A marker that both sides list is a common name that is never chosen. -/
theorem negotiation_marker_common :
    KeyExchangeInit.tryFrom (markedClient []).packet = .ok (markedClient []) ∧
      markedServer.Canonical ∧
      Common (namesOf (markedClient []).keyExchangeAlgorithms)
        (namesOf markedServer.keyExchangeAlgorithms) ∧
      Common (namesOf (markedClient []).serverHostKeyAlgorithms)
        (namesOf markedServer.serverHostKeyAlgorithms) ∧
      Common (namesOf (markedClient []).encryptionAlgorithmsClientToServer)
        (namesOf markedServer.encryptionAlgorithmsClientToServer) ∧
      Common (namesOf (markedClient []).encryptionAlgorithmsServerToClient)
        (namesOf markedServer.encryptionAlgorithmsServerToClient) ∧
      Negotiated.choose (markedClient []) markedServer =
        .error (.noCommonAlgorithm "key exchange") := by
  refine ⟨markedClient_decodes.2, markedServer_canonical, ?_, ?_, ?_, ?_, rfl⟩
  · exact ⟨"kex-strict-s-v00@openssh.com", by decide, by decide⟩
  · exact ⟨"ssh-ed25519", by decide, by decide⟩
  · exact ⟨"aes128-gcm@openssh.com", by decide, by decide⟩
  · exact ⟨"aes128-gcm@openssh.com", by decide, by decide⟩

end Clients

end Oxish
