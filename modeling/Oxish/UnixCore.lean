import Oxish.AuthenticationCore
import Oxish.Lib.Growing
import Oxish.Lib.Lines

/-!
What the server asks of the system it runs on: its users, the files with their keys, and a process
for a session. What the C library answers and what the kernel does are parameters.
-/

namespace Oxish

variable {σ ρ H : Type}

@[ext] structure CString where
  bytes : Bytes
  noNul : 0 ∉ bytes

def CString.new (bytes : Bytes) : Option CString :=
  if noNul : 0 ∉ bytes then some ⟨bytes, noNul⟩ else none

/-- An entry of the user database. The pointers in it may be null. -/
structure Passwd where
  name : Option CString
  uid : UInt32
  gid : UInt32
  dir : Option CString
  shell : Option CString

/-- What `getpwnam_r` and `getpwuid_r` return: the code, and the entry unless `result` is null. -/
structure PasswdAnswer where
  ret : Int32
  entry : Option Passwd

/-- What `getgrouplist` returns, with what it has left in `count` and in the list. -/
structure GroupAnswer where
  ret : Int32
  count : Int32
  groups : List UInt32

/-- The answers of the C library. An answer depends on the room that is offered for it. -/
structure Libc where
  sysconf : Int64
  getpwnam : CString → Nat → PasswdAnswer
  getpwuid : UInt32 → Nat → PasswdAnswer
  getgrouplist : CString → UInt32 → Nat → GroupAnswer

def u32Max : UInt32 := 4294967295

namespace Username

theorem nobody_valid : "nobody".toList.any controlOrSlash = false := by decide

def nobody : Username := ⟨"nobody", nobody_valid⟩

def tryFromCStr (value : CString) : Except Error Username :=
  match fromUtf8 value.bytes with
  | none => .error .invalidUsername
  | some name => tryFrom name

end Username

inductive UserLookup
  | name (name : Username)
  | id (id : UInt32)

namespace UserLookup

def maxBufLen : Nat := 1048576

def bufLen (sysconf : Int64) : Nat :=
  if sysconf = -1 then 1024 else min (max sysconf.toUInt64.toNat 1024) maxBufLen

theorem bufLen_positive (sysconf : Int64) : 0 < bufLen sysconf := by
  unfold bufLen maxBufLen
  split <;> omega

def erange : Int32 := 34

def nextLen (len : Nat) (answer : PasswdAnswer) : Option Nat :=
  if answer.ret ≠ erange ∨ maxBufLen ≤ len then none else some (min (len * 2) maxBufLen)

theorem nextLen_rises {len : Nat} {answer : PasswdAnswer} {more : Nat} (positive : 0 < len)
    (asked : nextLen len answer = some more) : len < more ∧ more ≤ maxBufLen := by
  obtain ⟨again, same⟩ := Option.ite_none_left_eq_some.mp asked
  cases same
  omega

def growth : Growth PasswdAnswer where
  next := nextLen
  bound := maxBufLen
  rises := nextLen_rises

def ask (libc : Libc) : UserLookup → Except Error (Nat → PasswdAnswer)
  | .name user =>
    match CString.new (strBytes user.text) with
    | some cName => .ok (libc.getpwnam cName)
    | none => .error .invalidUsername
  | .id uid => .ok (libc.getpwuid uid)

/-- The entry that was found: the code is zero and `result` is not null. -/
def found (libc : Libc) (lookup : UserLookup) : Except Error (Option Passwd) := do
  let call ← lookup.ask libc
  let answer := call (growth.last call (bufLen libc.sysconf) (bufLen_positive _))
  pure (if answer.ret = 0 then answer.entry else none)

def nameOf (entry : Option Passwd) : UserLookup → Except Error Username
  | .name user => .ok user
  | .id _ =>
    match entry.bind Passwd.name with
    | some listed => Username.tryFromCStr listed
    | none => .ok Username.nobody

def fakeHome : Bytes := strBytes "/var/empty"

def defaultShell : Bytes := strBytes "/bin/sh"

def userOf (user : Username) (entry : Option Passwd) : User where
  name := user
  id := entry.elim u32Max Passwd.uid
  gid := entry.elim u32Max Passwd.gid
  homeDir := (entry.bind Passwd.dir).elim fakeHome CString.bytes
  shell :=
    match (entry.bind Passwd.shell).elim defaultShell CString.bytes with
    | [] => defaultShell
    | bytes => bytes

def resolve (libc : Libc) (lookup : UserLookup) : Except Error User := do
  let entry ← lookup.found libc
  let user ← lookup.nameOf entry
  pure (userOf user entry)

end UserLookup

structure Metadata where
  mode : UInt32
  uid : UInt32

/-- The files, by handles. A directory is opened by its path or inside another. -/
structure Files (H : Type) where
  openDir : Bytes → Except IoError H
  openDirAt : H → String → Except IoError H
  openFileAt : H → String → Except IoError H
  metadata : H → Except IoError Metadata
  readToString : H → Except IoError String

def checkPermissions (files : Files H) (file : H) (uid : UInt32) : Bool :=
  match files.metadata file with
  | .error _ => false
  | .ok data => data.mode &&& 0o022 == 0 && (data.uid == 0 || data.uid == uid)

/-- A user store, and whether the process of a session is to become its user. -/
structure Store (σ ρ : Type) extends UserStore σ ρ where
  dropPrivileges : Bool

namespace SystemStore

def lookup (libc : Libc) (name : Username) (rootPolicy : RootPolicy) : Option User :=
  match (UserLookup.name name).resolve libc with
  | .ok user =>
    match user.id == 0, rootPolicy with
    | true, .allow => some user
    | true, .deny => none
    | false, _ => some user
  | .error _ => none

def contents (files : Files H) (user : User) : Option String := do
  let home ← Except.toOption (files.openDir user.homeDir)
  guard (checkPermissions files home user.id)
  let sshDir ← Except.toOption (files.openDirAt home ".ssh")
  guard (checkPermissions files sshDir user.id)
  let keyFile ← Except.toOption (files.openFileAt sshDir "authorized_keys")
  guard (checkPermissions files keyFile user.id)
  Except.toOption (files.readToString keyFile)

def keys (files : Files H) (base64 : Bytes → Option Bytes) (user : User)
    (provider : CryptoProvider σ ρ) : List AuthorizedKey :=
  match contents files user with
  | none => []
  | some contents =>
    (Lines.ofText contents).filterMap fun line => AuthorizedKey.fromStr base64 line provider

end SystemStore

def systemStore (libc : Libc) (files : Files H) (base64 : Bytes → Option Bytes) : Store σ ρ where
  lookup := SystemStore.lookup libc
  keys := SystemStore.keys files base64
  dropPrivileges := true

def singleUser (user : CachedUser) : Store σ ρ where
  lookup name _ := if user.data.name = name then some user.data else none
  keys _ _ := user.keys
  dropPrivileges := false

def DefaultStore.new (libc : Libc) (files : Files H) (base64 : Bytes → Option Bytes)
    (euid : UInt32) (provider : CryptoProvider σ ρ) : Except Error (Store σ ρ) :=
  if euid = 0 then .ok (systemStore libc files base64)
  else do
    let data ← (UserLookup.id euid).resolve libc
    pure (singleUser { data, keys := SystemStore.keys files base64 data provider })

structure Credentials where
  ruid : UInt32
  euid : UInt32
  suid : UInt32
  rgid : UInt32
  egid : UInt32
  sgid : UInt32
  groups : List UInt32
  deriving DecidableEq

structure Process where
  credentials : Credentials
  cwd : Bytes
  leadsSession : Bool
  deriving DecidableEq

/-- The calls with which a process changes what it is. `exec` stands for running the program. -/
structure Kernel where
  setgroups : List UInt32 → Process → Except IoError Process
  setgid : UInt32 → Process → Except IoError Process
  setuid : UInt32 → Process → Except IoError Process
  chdir : CString → Process → Except IoError Process
  setsid : Process → Except IoError Process
  exec : Process → Except IoError Process

/-- The process of a session, as it runs its program. -/
structure Child where
  program : Bytes
  env : List (String × Bytes)
  process : Process

namespace Spawn

def maxGroups : Nat := 65536

def asUsize (count : Int32) : Nat := count.toInt64.toUInt64.toNat

def nextLen (len : Nat) (answer : GroupAnswer) : Option Nat :=
  if answer.ret ≠ -1 then none
  else if maxGroups < max (asUsize answer.count) (len * 2) then none
  else some (max (asUsize answer.count) (len * 2))

theorem nextLen_rises {len : Nat} {answer : GroupAnswer} {more : Nat} (positive : 0 < len)
    (asked : nextLen len answer = some more) : len < more ∧ more ≤ maxGroups := by
  unfold nextLen at asked
  split at asked
  · cases asked
  · obtain ⟨within, same⟩ := Option.ite_none_left_eq_some.mp asked
    cases same
    omega

def growth : Growth GroupAnswer where
  next := nextLen
  bound := maxGroups
  rises := nextLen_rises

theorem initialLen_positive : 0 < 32 := by omega

-- A list that is still too small when the loop ends is one that needs more than there may be.
def supplementaryGroups (libc : Libc) (name : CString) (gid : UInt32) :
    Except Error (List UInt32) :=
  let call := libc.getgrouplist name gid
  let answer := call (growth.last call 32 initialLen_positive)
  if answer.ret = -1 then .error (.invalidState "too many supplementary groups")
  else .ok (answer.groups.take (asUsize answer.count))

def preExec (kernel : Kernel) (groups : List UInt32) (user : User) (home : CString)
    (process : Process) : Except IoError Process := do
  let process ← kernel.setgroups groups process
  let process ← kernel.setgid user.gid process
  let process ← kernel.setuid user.id process
  let process ← kernel.chdir home process
  kernel.setsid process

def withoutNul (bytes : Bytes) (complaint : String) : Except Error CString :=
  match CString.new bytes with
  | some text => .ok text
  | none => .error (.invalidState complaint)

-- What the child does before it runs its program.
def becoming (libc : Libc) (kernel : Kernel) (user : User) :
    Except Error (Process → Except IoError Process) := do
  let home ← withoutNul user.homeDir "home directory path contains an interior NUL"
  let name ← withoutNul (strBytes user.name.text) "user name contains an interior NUL"
  let groups ← supplementaryGroups libc name user.gid
  pure (preExec kernel groups user home)

def env (user : User) : List (String × Bytes) :=
  [("HOME", user.homeDir), ("USER", strBytes user.name.text), ("LOGNAME", strBytes user.name.text),
    ("SHELL", user.shell), ("PATH", strBytes "/usr/bin:/bin:/usr/sbin:/sbin")]

def nulFound : IoError := ⟨.other 22, "nul byte found in provided data"⟩

def start (kernel : Kernel) (session : Bytes) (env : List (String × Bytes))
    (before : Process → Except IoError Process) (server : Process) : Except IoError Process :=
  if 0 ∈ session ∨ env.any (fun entry => entry.2.contains 0) then .error nulFound
  else do
    let process ← before server
    kernel.exec process

def prepare (libc : Libc) (kernel : Kernel) (dropPrivileges : Bool) (user : User) :
    Except Error (Process → Except IoError Process) :=
  if dropPrivileges then becoming libc kernel user else .ok .ok

/-- The part of `spawn` up to `command.spawn()`, by a server that is this process. -/
def launch (libc : Libc) (kernel : Kernel) (session : Bytes) (dropPrivileges : Bool) (user : User)
    (server : Process) : Except Error Child := do
  let before ← prepare libc kernel dropPrivileges user
  let process ← (start kernel session (env user) before server).mapError .io
  pure { program := session, env := env user, process }

end Spawn

end Oxish
