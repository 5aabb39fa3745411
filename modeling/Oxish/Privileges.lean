import Oxish.AuthenticatedShells
import Oxish.KeyExchangeInitCodec
import Oxish.UnixCore

/-!
Whose keys a login rests on, and as whom its session runs. A client that stands authenticated has
signed with a key out of a file to which, like to the directories it is in, only the user and root
can write. The process of its session has become exactly the user of that name in the database, or
it is what the server is, if the server may not choose; it is root only where that is allowed.
-/

namespace Oxish

variable {α σ ρ τ H : Type}

section Names

theorem CString.new_eq_some {bytes : Bytes} {text : CString} (made : CString.new bytes = some text) :
    text.bytes = bytes := by
  unfold CString.new at made
  split at made
  · cases made
    rfl
  · cases made

theorem Username.text_of_tryFrom {value : String} {name : Username}
    (made : Username.tryFrom value = .ok name) : name.text = value := by
  unfold Username.tryFrom at made
  split at made
  · cases made
    rfl
  · cases made

theorem Username.noNul (name : Username) : 0 ∉ strBytes name.text := by
  intro member
  rw [strBytes_eq_flatMap, List.mem_flatMap] at member
  obtain ⟨char, written, encoded⟩ := member
  have same := toNat_of_mem_utf8EncodeChar (by decide) encoded
  have control : controlOrSlash char = true := by
    unfold controlOrSlash
    rw [same]
    rfl
  have none := List.any_eq_false.mp name.valid char written
  exact none control

end Names

section Lookups

variable {libc : Libc}

namespace UserLookup

theorem ask_name (name : Username) :
    ∃ cName : CString, cName.bytes = strBytes name.text ∧
      (UserLookup.name name).ask libc = .ok (libc.getpwnam cName) := by
  have made : CString.new (strBytes name.text) = some ⟨strBytes name.text, name.noNul⟩ :=
    dif_pos name.noNul
  refine ⟨⟨strBytes name.text, name.noNul⟩, rfl, ?_⟩
  unfold ask
  dsimp only
  rw [made]

theorem found_name {name : Username} {entry : Option Passwd}
    (found : (UserLookup.name name).found libc = .ok entry) :
    ∃ (cName : CString) (len : Nat), cName.bytes = strBytes name.text ∧
      entry = if (libc.getpwnam cName len).ret = 0 then (libc.getpwnam cName len).entry else none := by
  obtain ⟨cName, bytes, asked⟩ := ask_name name
  unfold UserLookup.found at found
  rw [asked] at found
  cases found
  exact ⟨cName, _, bytes, rfl⟩

theorem resolve_name {name : Username} {user : User}
    (resolved : (UserLookup.name name).resolve libc = .ok user) :
    ∃ entry, (UserLookup.name name).found libc = .ok entry ∧ user = userOf name entry := by
  obtain ⟨entry, found, resolved⟩ := Outcome.bind_eq_ok.mp resolved
  cases resolved
  exact ⟨entry, found, rfl⟩

theorem userOf_listed {name : Username} {entry : Option Passwd}
    (real : (userOf name entry).id ≠ u32Max) : ∃ listed, entry = some listed := by
  cases entry with
  | none => exact absurd rfl real
  | some listed => exact ⟨listed, rfl⟩

end UserLookup

theorem SystemStore.lookup_some {name : Username} {policy : RootPolicy} {user : User}
    (known : SystemStore.lookup libc name policy = some user) :
    (∃ entry, (UserLookup.name name).found libc = .ok entry ∧
      user = UserLookup.userOf name entry) ∧ (policy = .deny → user.id ≠ 0) := by
  unfold SystemStore.lookup at known
  split at known
  · rename_i data resolved
    have made := UserLookup.resolve_name resolved
    split at known
    · cases known
      exact ⟨made, fun denied => by cases denied⟩
    · cases known
    · rename_i other
      cases known
      exact ⟨made, fun _ => by simpa using other⟩
  · cases known

end Lookups

section Keys

variable {files : Files H} {base64 : Bytes → Option Bytes} {provider : CryptoProvider σ ρ}

/-- Who may write to a file: root, or its owner, its group or anybody, as its mode has it. -/
def Metadata.writable (data : Metadata) (uid : UInt32) (member : Bool) : Bool :=
  if uid = 0 then true
  else if uid = data.uid then data.mode &&& 0o200 != 0
  else if member then data.mode &&& 0o020 != 0
  else data.mode &&& 0o002 != 0

def Guarded (files : Files H) (file : H) (uid : UInt32) : Prop :=
  ∃ data, files.metadata file = .ok data ∧
    ∀ other member, data.writable other member = true → other = 0 ∨ other = uid

theorem guarded_of_check {file : H} {uid : UInt32}
    (checked : checkPermissions files file uid = true) : Guarded files file uid := by
  unfold checkPermissions at checked
  split at checked
  · cases checked
  · rename_i data read
    simp only [Bool.and_eq_true, Bool.or_eq_true, beq_iff_eq] at checked
    obtain ⟨masked, owner⟩ := checked
    have part (bit : UInt32) (inside : 0o022 &&& bit = bit) : data.mode &&& bit = 0 := by
      rw [← inside, ← UInt32.and_assoc, masked, UInt32.zero_and]
    refine ⟨data, read, ?_⟩
    intro other member writes
    unfold Metadata.writable at writes
    by_cases root : other = 0
    · exact .inl root
    · rw [if_neg root] at writes
      by_cases own : other = data.uid
      · rw [own]
        exact owner
      · rw [if_neg own, part 0o020 (by decide), part 0o002 (by decide)] at writes
        cases member <;> cases writes

/-- The key stands on a line of the user's file, and nobody else could have written it there. -/
def Provenance (files : Files H) (base64 : Bytes → Option Bytes) (provider : CryptoProvider σ ρ)
    (user : User) (key : AuthorizedKey) : Prop :=
  ∃ home sshDir keyFile contents line,
    files.openDir user.homeDir = .ok home ∧ Guarded files home user.id ∧
    files.openDirAt home ".ssh" = .ok sshDir ∧ Guarded files sshDir user.id ∧
    files.openFileAt sshDir "authorized_keys" = .ok keyFile ∧ Guarded files keyFile user.id ∧
    files.readToString keyFile = .ok contents ∧ line ∈ Lines.ofText contents ∧
    AuthorizedKey.fromStr base64 line provider = some key

theorem ok_of_toOption {ε β : Type} {outcome : Except ε β} {value : β}
    (is : outcome.toOption = some value) : outcome = .ok value := by
  cases outcome with
  | error error => cases is
  | ok other =>
      cases is
      rfl

theorem guard_eq_some {condition : Bool} {value : Unit}
    (held : (guard condition : Option Unit) = some value) : condition = true := by
  cases condition with
  | false => cases held
  | true => rfl

theorem SystemStore.keys_provenance {user : User} {key : AuthorizedKey}
    (member : key ∈ SystemStore.keys files base64 user provider) :
    Provenance files base64 provider user key := by
  unfold SystemStore.keys at member
  split at member
  · cases member
  · rename_i contents read
    obtain ⟨line, among, parsed⟩ := List.mem_filterMap.mp member
    unfold SystemStore.contents at read
    obtain ⟨home, opened, read⟩ := Option.bind_eq_some_iff.mp read
    obtain ⟨_, homeHeld, read⟩ := Option.bind_eq_some_iff.mp read
    obtain ⟨sshDir, entered, read⟩ := Option.bind_eq_some_iff.mp read
    obtain ⟨_, sshHeld, read⟩ := Option.bind_eq_some_iff.mp read
    obtain ⟨keyFile, found, read⟩ := Option.bind_eq_some_iff.mp read
    obtain ⟨_, fileHeld, read⟩ := Option.bind_eq_some_iff.mp read
    exact ⟨home, sshDir, keyFile, contents, line,
      ok_of_toOption opened, guarded_of_check (guard_eq_some homeHeld),
      ok_of_toOption entered, guarded_of_check (guard_eq_some sshHeld),
      ok_of_toOption found, guarded_of_check (guard_eq_some fileHeld),
      ok_of_toOption read, among, parsed⟩

end Keys

section Stores

variable {libc : Libc} {files : Files H} {base64 : Bytes → Option Bytes} {euid : UInt32}
  {provider : CryptoProvider σ ρ} {store : Store σ ρ}

theorem DefaultStore.new_ok (opened : DefaultStore.new libc files base64 euid provider = .ok store) :
    (euid = 0 ∧ store = systemStore libc files base64) ∨
    (euid ≠ 0 ∧ ∃ data,
      store = singleUser { data, keys := SystemStore.keys files base64 data provider }) := by
  unfold DefaultStore.new at opened
  split at opened
  · rename_i root
    cases opened
    exact .inl ⟨root, rfl⟩
  · rename_i other
    obtain ⟨data, _, opened⟩ := Outcome.bind_eq_ok.mp opened
    cases opened
    exact .inr ⟨other, data, rfl⟩

theorem DefaultStore.lookup_named
    (opened : DefaultStore.new libc files base64 euid provider = .ok store) {name : Username}
    {policy : RootPolicy} {user : User} (known : store.lookup name policy = some user) :
    user.name = name := by
  obtain ⟨_, rfl⟩ | ⟨_, data, rfl⟩ := DefaultStore.new_ok opened
  · obtain ⟨⟨entry, _, rfl⟩, _⟩ := SystemStore.lookup_some known
    rfl
  · obtain ⟨same, is⟩ := Option.ite_none_right_eq_some.mp known
    cases is
    exact same

theorem DefaultStore.keys_provenance
    (opened : DefaultStore.new libc files base64 euid provider = .ok store) {name : Username}
    {policy : RootPolicy} {user : User} (known : store.lookup name policy = some user)
    {key : AuthorizedKey} (member : key ∈ store.keys user provider) :
    Provenance files base64 provider user key := by
  obtain ⟨_, rfl⟩ | ⟨_, data, rfl⟩ := DefaultStore.new_ok opened
  · exact SystemStore.keys_provenance member
  · obtain ⟨_, is⟩ := Option.ite_none_right_eq_some.mp known
    cases is
    exact SystemStore.keys_provenance member

end Stores

section Processes

variable {libc : Libc} {kernel : Kernel} {user : User} {process last : Process}

/-- What a call has done when it succeeds, for `setgid` and `setuid` in a privileged process: they set
all three ids, and -1 is no id. The program that `exec` runs is not one that changes the ids. -/
structure Kernel.Lawful (kernel : Kernel) : Prop where
  setgroups : ∀ {groups process last}, kernel.setgroups groups process = .ok last →
    last = { process with credentials := { process.credentials with groups } }
  setgid : ∀ {gid process last}, process.credentials.euid = 0 →
    kernel.setgid gid process = .ok last → last = { process with
      credentials := { process.credentials with rgid := gid, egid := gid, sgid := gid } }
  setuid : ∀ {uid process last}, process.credentials.euid = 0 →
    kernel.setuid uid process = .ok last → uid ≠ u32Max ∧ last = { process with
      credentials := { process.credentials with ruid := uid, euid := uid, suid := uid } }
  chdir : ∀ {path process last}, kernel.chdir path process = .ok last →
    last = { process with cwd := path.bytes }
  setsid : ∀ {process last}, kernel.setsid process = .ok last →
    last = { process with leadsSession := true }
  exec : ∀ {process last}, kernel.exec process = .ok last → last = process

namespace Spawn

theorem preExec_ok {groups : List UInt32} {home : CString} (lawful : kernel.Lawful)
    (privileged : process.credentials.euid = 0)
    (ran : preExec kernel groups user home process = .ok last) :
    user.id ≠ u32Max ∧ last = {
      credentials := ⟨user.id, user.id, user.id, user.gid, user.gid, user.gid, groups⟩
      cwd := home.bytes
      leadsSession := true } := by
  obtain ⟨grouped, first, ran⟩ := Outcome.bind_eq_ok.mp ran
  obtain ⟨owned, second, ran⟩ := Outcome.bind_eq_ok.mp ran
  obtain ⟨become, third, ran⟩ := Outcome.bind_eq_ok.mp ran
  obtain ⟨moved, fourth, ran⟩ := Outcome.bind_eq_ok.mp ran
  obtain rfl := lawful.setgroups first
  obtain rfl := lawful.setgid (by exact privileged) second
  obtain ⟨real, rfl⟩ := lawful.setuid (by exact privileged) third
  obtain rfl := lawful.chdir fourth
  exact ⟨real, lawful.setsid ran⟩

theorem supplementaryGroups_ok {name : CString} {gid : UInt32} {groups : List UInt32}
    (listed : supplementaryGroups libc name gid = .ok groups) :
    ∃ len ≤ maxGroups, (libc.getgrouplist name gid len).ret ≠ -1 ∧
      groups = (libc.getgrouplist name gid len).groups.take
        (asUsize (libc.getgrouplist name gid len).count) := by
  refine ⟨growth.last (libc.getgrouplist name gid) 32 initialLen_positive, ?_, ?_⟩
  · apply Growth.last_le
    change 32 ≤ 65536
    omega
  · unfold supplementaryGroups at listed
    dsimp only at listed
    split at listed
    · cases listed
    · rename_i enough
      cases listed
      exact ⟨enough, rfl⟩

theorem withoutNul_ok {bytes : Bytes} {complaint : String} {text : CString}
    (made : withoutNul bytes complaint = .ok text) : text.bytes = bytes := by
  unfold withoutNul at made
  split at made
  · rename_i other built
    cases made
    exact CString.new_eq_some built
  · cases made

theorem becoming_ok {before : Process → Except IoError Process}
    (prepared : becoming libc kernel user = .ok before) :
    ∃ name home groups, name.bytes = strBytes user.name.text ∧ home.bytes = user.homeDir ∧
      supplementaryGroups libc name user.gid = .ok groups ∧
      before = preExec kernel groups user home := by
  obtain ⟨home, homed, prepared⟩ := Outcome.bind_eq_ok.mp prepared
  obtain ⟨name, named, prepared⟩ := Outcome.bind_eq_ok.mp prepared
  obtain ⟨groups, listed, prepared⟩ := Outcome.bind_eq_ok.mp prepared
  cases prepared
  exact ⟨name, home, groups, withoutNul_ok named, withoutNul_ok homed, listed, rfl⟩

theorem start_ok {session : Bytes} {env : List (String × Bytes)} (lawful : kernel.Lawful)
    {before : Process → Except IoError Process}
    (started : start kernel session env before process = .ok last) : before process = .ok last := by
  unfold start at started
  split at started
  · cases started
  · obtain ⟨made, ran, started⟩ := Outcome.bind_eq_ok.mp started
    rw [lawful.exec started]
    exact ran

theorem launch_ok {session : Bytes} {dropPrivileges : Bool} {child : Child}
    (lawful : kernel.Lawful)
    (launched : launch libc kernel session dropPrivileges user process = .ok child) :
    child.program = session ∧ child.env = env user ∧
    ∃ before, prepare libc kernel dropPrivileges user = .ok before ∧
      before process = .ok child.process := by
  obtain ⟨before, prepared, launched⟩ := Outcome.bind_eq_ok.mp launched
  obtain ⟨made, started, launched⟩ := Outcome.bind_eq_ok.mp launched
  cases launched
  refine ⟨rfl, rfl, before, prepared, ?_⟩
  cases begun : start kernel session (env user) before process with
  | error error =>
      rw [begun] at started
      cases started
  | ok last =>
      rw [begun] at started
      cases started
      exact start_ok lawful begun

theorem launch_dropped {session : Bytes} {child : Child} (lawful : kernel.Lawful)
    (privileged : process.credentials.euid = 0)
    (launched : launch libc kernel session true user process = .ok child) :
    user.id ≠ u32Max ∧ ∃ name : CString, name.bytes = strBytes user.name.text ∧ ∃ len ≤ maxGroups,
      (libc.getgrouplist name user.gid len).ret ≠ -1 ∧
      child.process = {
        credentials := ⟨user.id, user.id, user.id, user.gid, user.gid, user.gid,
          (libc.getgrouplist name user.gid len).groups.take
            (asUsize (libc.getgrouplist name user.gid len).count)⟩
        cwd := user.homeDir
        leadsSession := true } := by
  obtain ⟨_, _, before, prepared, ran⟩ := launch_ok lawful launched
  obtain ⟨name, home, groups, named, homed, listed, rfl⟩ := becoming_ok prepared
  obtain ⟨real, become⟩ := preExec_ok lawful privileged ran
  obtain ⟨len, within, enough, rfl⟩ := supplementaryGroups_ok listed
  rw [homed] at become
  exact ⟨real, name, named, len, within, enough, become⟩

theorem launch_kept {session : Bytes} {child : Child} (lawful : kernel.Lawful)
    (launched : launch libc kernel session false user process = .ok child) :
    child.process = process := by
  obtain ⟨_, _, before, prepared, ran⟩ := launch_ok lawful launched
  cases prepared
  cases ran
  rfl

end Spawn

end Processes

section Guest

open AuthenticationState

theorem guestHome_noNul : 0 ∉ strBytes "/home/guest" := by decide

def guestHome : CString := ⟨strBytes "/home/guest", guestHome_noNul⟩

def guestEntry : Passwd := ⟨none, 1000, 100, some guestHome, none⟩

def guestLibc : Libc where
  sysconf := -1
  getpwnam _ _ := ⟨0, some guestEntry⟩
  getpwuid _ _ := ⟨0, some guestEntry⟩
  getgrouplist _ gid len := ⟨2, 2, gid :: 27 :: List.replicate (len - 2) 0⟩

def guestFiles : Files Unit where
  openDir _ := .ok ()
  openDirAt _ _ := .ok ()
  openFileAt _ _ := .ok ()
  metadata _ := .ok ⟨0o755, 1000⟩
  readToString _ := .ok "# keys\r\nssh-ed25519 key guest\n"

def guestBlob : Bytes := encodeNamed PublicKeyAlgorithm.ed25519 ++ encodeBytes [7]

def guestBase64 (text : Bytes) : Option Bytes :=
  if text = strBytes "key" then some guestBlob else none

def guestServer : Server PlainSealer PlainOpener :=
  { commandServer {} with
    store := (systemStore guestLibc guestFiles guestBase64).toUserStore
    rootPolicy := .deny
    base64 := guestBase64 }

def guestPayload : Bytes :=
  encodeBytes (strBytes "guest") ++ encodeNamed ServiceName.connection ++
    encodeNamed MethodName.publicKey ++ encodeBool true ++
    encodeNamed PublicKeyAlgorithm.ed25519 ++ encodeBytes guestBlob ++
    encodeBytes (encodeNamed PublicKeyAlgorithm.ed25519 ++ encodeBytes [8])

def guestEvents : List (HubEvent String Unit) :=
  [.arrived plainStream "192.0.2.1:22" plainProvider.secureRandom, .task 0 .acquire,
    .task 0 (.turn { host := plainHost, draws := plainDraws })] ++
    (plainTurns ++
      [sealedTurn (MessageType.serviceRequest.toByte :: encodeNamed ServiceName.userAuth) 52,
        sealedTurn (MessageType.userAuthRequest.toByte :: guestPayload) 36]).map
      fun turn => .task 0 (.turn turn)

theorem guestName_valid : "guest".toList.any controlOrSlash = false := by decide

def guestUser : User := UserLookup.userOf ⟨"guest", guestName_valid⟩ (some guestEntry)

def TaskStage.standing : TaskStage τ → Option (KeyExchangeOutput × Authenticated)
  | .connected (.authenticated kx auth) => some (kx, auth)
  | _ => none

theorem TaskStage.standing_some {stage : TaskStage τ} {kx : KeyExchangeOutput}
    {auth : Authenticated} (stands : stage.standing = some (kx, auth)) :
    stage = .connected (.authenticated kx auth) := by
  unfold TaskStage.standing at stands
  split at stands
  · cases stands
    rfl
  · cases stands

theorem guest_stood : ∃ kx auth, Stood guestServer false guestEvents 0 kx auth ∧
    auth.user = guestUser := by
  have shown : (History.run (Hub.step guestServer false) {} guestEvents).bind (fun hub =>
      hub.tasks[0]?.bind fun task => task.stage.standing.map fun standing => standing.2.user) =
      some guestUser := by
    decide +kernel
  obtain ⟨hub, ran, shown⟩ := Option.bind_eq_some_iff.mp shown
  obtain ⟨task, found, shown⟩ := Option.bind_eq_some_iff.mp shown
  obtain ⟨⟨kx, auth⟩, stands, same⟩ := Option.map_eq_some_iff.mp shown
  exact ⟨kx, auth, ⟨guestEvents, [], hub, task, (List.append_nil _).symm, ran, found,
    TaskStage.standing_some stands⟩, same⟩

theorem guest_undecoyed (algorithm : PublicKeyAlgorithm) (key : AuthorizedKey) :
    fakeKey guestServer.base64 algorithm guestServer.provider ≠ .ok key := by
  have undecoded : (fakeKey guestServer.base64 algorithm guestServer.provider).toOption.isSome =
      false := by
    cases algorithm with
    | ecdsaSha2Nistp256 => decide +kernel
    | ed25519 => decide +kernel
    | unknown name => rfl
  intro built
  rw [built] at undecoded
  cases undecoded

/-- A kernel that refuses nothing to a privileged process, except -1 as its id. -/
def plainKernel : Kernel where
  setgroups groups process :=
    .ok { process with credentials := { process.credentials with groups } }
  setgid gid process := .ok { process with
    credentials := { process.credentials with rgid := gid, egid := gid, sgid := gid } }
  setuid uid process :=
    if uid = u32Max then .error ⟨.other 22, "invalid argument"⟩
    else .ok { process with
      credentials := { process.credentials with ruid := uid, euid := uid, suid := uid } }
  chdir path process := .ok { process with cwd := path.bytes }
  setsid process := .ok { process with leadsSession := true }
  exec process := .ok process

theorem plainKernel_lawful : plainKernel.Lawful where
  setgroups done := (Except.ok.inj done).symm
  setgid _ done := (Except.ok.inj done).symm
  setuid {uid process last} _ done := by
    unfold plainKernel at done
    dsimp only at done
    split at done
    · cases done
    · rename_i real
      exact ⟨real, (Except.ok.inj done).symm⟩
  chdir done := (Except.ok.inj done).symm
  setsid done := (Except.ok.inj done).symm
  exec done := (Except.ok.inj done).symm

end Guest

section Results

open AuthenticationState

variable [SealingKey σ] [OpeningKey ρ] [SocketAddr α]

/-- The client had a signature of the identifier of its session accepted by a key that stands on a
line of its user's `authorized_keys` file. -/
def Trusted (files : Files H) (server : Server σ ρ) (kx : KeyExchangeOutput)
    (packet : IncomingPacket) (auth : Authenticated) : Prop :=
  ∃ request publicKey key signature,
    UserAuthRequest.tryFrom packet = .ok request ∧
    request.method = .publicKey publicKey ∧ key.matchesKey publicKey = true ∧
    request.userName = auth.user.name.text ∧
    key.verify (SignatureData.encode {
      sessionId := kx.sessionId.bytes
      userName := auth.user.name.text
      serviceName := .connection
      algorithm := publicKey.algorithm
      publicKey := publicKey.keyBlob }) signature = .ok () ∧
    auth.options = key.options ∧
    Provenance files server.base64 server.provider auth.user key

/-- In every run of a server over its default store, a client that stands authenticated has sent a
packet with a signature of the identifier of its session. The key that accepted it stands on a line
of its user's `authorized_keys` file, or it is the decoy, and then no key of the user matched the
request. The file was reached through the user's home directory and the `.ssh` directory in it, and
each of the three is one to which nobody but the user and root can write. -/
theorem logins_trusted (libc : Libc) (files : Files H) (euid : UInt32) (server : Server σ ρ)
    (spawn : Bool) (events : List (HubEvent α τ)) {store : Store σ ρ}
    (opened : DefaultStore.new libc files server.base64 euid server.provider = .ok store)
    (used : server.store = store.toUserStore) {index : Nat} {kx : KeyExchangeOutput}
    {auth : Authenticated} (stood : Stood server spawn events index kx auth) :
    ∃ packet, Submitted server spawn events index kx packet ∧
      (Trusted files server kx packet auth ∨
        Decoyed (server.context kx.sessionId) packet auth) := by
  have lookupNamed (name : Username) (user : User)
      (known : server.store.lookup name server.rootPolicy = some user) : user.name = name := by
    rw [used] at known
    exact DefaultStore.lookup_named opened known
  obtain ⟨packet, submitted, bound | decoyed⟩ := stood.bound_or_decoyed lookupNamed
  · refine ⟨packet, submitted, .inl ?_⟩
    obtain ⟨request, publicKey, sig, name, key, signature, parsed, _, method, _, named, known,
      chosen, _, _, verified, options⟩ := bound
    have text : name.text = request.userName := Username.text_of_tryFrom named
    have same : auth.user.name = name := lookupNamed name auth.user known
    have member : key ∈ server.store.keys auth.user server.provider :=
      List.mem_of_find?_eq_some chosen
    rw [used] at member
    change server.store.lookup name server.rootPolicy = some auth.user at known
    rw [used] at known
    rw [← text, ← same] at verified
    refine ⟨request, publicKey, key, signature, parsed, method, ?_, ?_, verified, options,
      DefaultStore.keys_provenance opened known member⟩
    · have found := List.find?_some chosen
      exact found
    · rw [← text, same]
  · exact ⟨packet, submitted, .inr decoyed⟩

theorem logins_trusted_guest :
    ∃ kx auth packet, Stood guestServer false guestEvents 0 kx auth ∧ auth.user = guestUser ∧
      Submitted guestServer false guestEvents 0 kx packet ∧
      Trusted guestFiles guestServer kx packet auth := by
  obtain ⟨kx, auth, stood, same⟩ := guest_stood
  obtain ⟨packet, submitted, trusted | decoyed⟩ :=
    logins_trusted guestLibc guestFiles 0 guestServer false guestEvents rfl rfl stood
  · exact ⟨kx, auth, packet, stood, same, submitted, trusted⟩
  · obtain ⟨_, _, _, _, key, _, _, _, _, _, _, _, _, decoy, _⟩ := decoyed
    exact absurd decoy (guest_undecoyed _ key)

/-- In every run of a server over its default store, the process that is started for the session of
a client that stands authenticated is what its user may be. If the server is root, the user is one
of the database, the process has the user's ids and groups, all of them and no others, and is in the
user's home directory; otherwise it is as the server is. If root may not log in, the process is not
root's. Its environment is made from the user alone. -/
theorem session_processes_confined (libc : Libc) (kernel : Kernel) (lawful : kernel.Lawful)
    (files : Files H) (session : Bytes) (process : Process) (server : Server σ ρ) (spawn : Bool)
    (events : List (HubEvent α τ)) {store : Store σ ρ}
    (opened : DefaultStore.new libc files server.base64 process.credentials.euid server.provider =
      .ok store)
    (used : server.store = store.toUserStore) {index : Nat} {kx : KeyExchangeOutput}
    {auth : Authenticated} (stood : Stood server spawn events index kx auth) {child : Child}
    (launched : Spawn.launch libc kernel session store.dropPrivileges auth.user process =
      .ok child) :
    (server.rootPolicy = .deny → child.process.credentials.euid ≠ 0) ∧
    child.program = session ∧ child.env = Spawn.env auth.user ∧
    (process.credentials.euid ≠ 0 → child.process = process) ∧
    (process.credentials.euid = 0 → ∃ (name : CString) (entry : Passwd) (len room : Nat),
      name.bytes = strBytes auth.user.name.text ∧
      (libc.getpwnam name len).ret = 0 ∧ (libc.getpwnam name len).entry = some entry ∧
      (libc.getgrouplist name entry.gid room).ret ≠ -1 ∧
      child.process = {
        credentials := ⟨entry.uid, entry.uid, entry.uid, entry.gid, entry.gid, entry.gid,
          (libc.getgrouplist name entry.gid room).groups.take
            (Spawn.asUsize (libc.getgrouplist name entry.gid room).count)⟩
        cwd := auth.user.homeDir
        leadsSession := true }) := by
  have lookupNamed (name : Username) (user : User)
      (known : server.store.lookup name server.rootPolicy = some user) : user.name = name := by
    rw [used] at known
    exact DefaultStore.lookup_named opened known
  obtain ⟨name, known⟩ : ∃ name, server.store.lookup name server.rootPolicy = some auth.user := by
    obtain ⟨_, _, proved⟩ := stood.bound_or_decoyed lookupNamed
    rcases proved with ⟨_, _, _, name, _, _, _, _, _, _, _, known, _⟩ |
      ⟨_, _, _, name, _, _, _, _, _, _, _, known, _⟩
    · exact ⟨name, known⟩
    · exact ⟨name, known⟩
  rw [used] at known
  obtain ⟨program, environment, _⟩ := Spawn.launch_ok lawful launched
  obtain ⟨root, rfl⟩ | ⟨other, data, rfl⟩ := DefaultStore.new_ok opened
  · obtain ⟨⟨found, asked, made⟩, allowed⟩ := SystemStore.lookup_some known
    obtain ⟨real, cName, named, room, _, enough, become⟩ := Spawn.launch_dropped lawful root launched
    refine ⟨?_, program, environment, fun other => absurd root other, ?_⟩
    · intro denied
      rw [become]
      exact allowed denied
    · intro _
      rw [made] at real named enough become
      obtain ⟨entry, rfl⟩ := UserLookup.userOf_listed real
      obtain ⟨asName, len, bytes, answered⟩ := UserLookup.found_name asked
      have one : asName = cName := CString.ext (bytes.trans named.symm)
      subst one
      obtain ⟨ret, listed⟩ := Option.ite_none_right_eq_some.mp answered.symm
      rw [made]
      exact ⟨asName, entry, len, room, bytes, ret, listed, enough, become⟩
  · have same := Spawn.launch_kept lawful launched
    refine ⟨?_, program, environment, fun _ => same, fun root => absurd root other⟩
    intro _
    rw [same]
    exact other

theorem session_processes_confined_guest :
    ∃ kx auth child, Stood guestServer false guestEvents 0 kx auth ∧
      Spawn.launch guestLibc plainKernel (strBytes "oxish-session") true auth.user
        ⟨⟨0, 0, 0, 0, 0, 0, []⟩, strBytes "/", false⟩ = .ok child ∧
      child.process = ⟨⟨1000, 1000, 1000, 100, 100, 100, [100, 27]⟩, strBytes "/home/guest", true⟩ ∧
      child.process.credentials.euid ≠ 0 := by
  obtain ⟨kx, auth, stood, same⟩ := guest_stood
  have shown : ((Spawn.launch guestLibc plainKernel (strBytes "oxish-session") true guestUser
      ⟨⟨0, 0, 0, 0, 0, 0, []⟩, strBytes "/", false⟩).toOption.map Child.process) =
      some ⟨⟨1000, 1000, 1000, 100, 100, 100, [100, 27]⟩, strBytes "/home/guest", true⟩ := by
    decide +kernel
  obtain ⟨child, made, become⟩ := Option.map_eq_some_iff.mp shown
  have launched := ok_of_toOption made
  rw [← same] at launched
  have confined := session_processes_confined guestLibc plainKernel plainKernel_lawful guestFiles
    (strBytes "oxish-session") ⟨⟨0, 0, 0, 0, 0, 0, []⟩, strBytes "/", false⟩ guestServer false
    guestEvents rfl rfl stood launched
  exact ⟨kx, auth, child, stood, launched, become, confined.1 rfl⟩

end Results

end Oxish
