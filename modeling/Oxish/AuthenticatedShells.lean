import Oxish.Admission
import Oxish.Authentication
import Oxish.ForcedCommand
import Oxish.Handoff

/-!
Nobody gets a shell without a key. Every shell of every connection was spawned for a client that
had proved, on the same connection and for its session identifier, that it holds an authorized key
of its user, and with the command and the environment that this key allows.
-/

namespace Oxish

open Stateful

variable {α σ ρ τ β : Type}

section Logs

variable {options : KeyOptions}

def Spawnless (link : Link α σ ρ τ) : Prop := ∀ options, LinkConfined options link

theorem Spawnless.unspawned {link : Link α σ ρ τ} (spawnless : Spawnless link) {event : Event τ}
    (member : .channel event ∈ link.log) (Spawns : Option String → List (String × String) → Prop) :
    event.Within Spawns := by
  cases event with
  | spawned localId command env terminal =>
      have none : command = none := (spawnless {} _ member).1
      have some : command = some "" := (spawnless { command := some "" } _ member).1
      cases none.symm.trans some
  | _ => trivial

theorem Spawnless.after {link last : Link α σ ρ τ} (spawnless : Spawnless link) {turn : Turn τ}
    {program : Trace α σ ρ τ β} {outcome : Except Halt β}
    (kept : ∀ options, Keeps (LinkConfined options) program)
    (ran : exec program (link.supply turn) = (outcome, last)) : Spawnless last := by
  intro options
  have supplied : LinkConfined options (link.supply turn) := spawnless options
  have ended := (kept options).last _ supplied
  rw [ran] at ended
  exact ended

variable [SealingKey σ]

theorem handleAuth_confined (context : AuthenticationState.Context σ ρ)
    (state : AuthenticationState) (packet : IncomingPacket) :
    Keeps (LinkConfined options) (Trace.handleAuth context state packet : Trace α σ ρ τ _) := by
  refine keeps_of_last fun {link} confined => ?_
  have plain (replies : List AuthReply) : LogConfined options (sentActs replies : List (Act σ τ)) := by
    intro event member
    obtain ⟨reply, _, other⟩ := List.mem_map.mp member
    cases other
  rw [Trace.exec_handleAuth]
  split
  · exact confined.append (plain _)
  · exact confined.append (plain _)
  · exact confined.append (plain _)

variable [OpeningKey ρ]

theorem exchangeTurn_confined (provider : CryptoProvider σ ρ) (state : InitialKeyExchangeState) :
    Keeps (LinkConfined options) (Server.exchangeTurn provider state : Trace α σ ρ τ _) := by
  refine (drive_confined _).bind fun packet => ?_
  refine (handleKx_confined _).bind fun outcome => ?_
  obtain ⟨next, output⟩ := outcome
  cases output with
  | none => exact (drive_confined _).bind fun _ => ensures_pure fun _ confined => confined
  | some established =>
      have informed : Keeps (LinkConfined options)
          (Server.sendExtInfo established.extInfo : Trace α σ ρ τ Unit) := by
        cases established.extInfo with
        | none => exact ensures_pure fun _ confined => confined
        | some extInfo => exact encode_confined _
      refine (installKeys_confined _).bind fun _ => informed.bind fun _ => ?_
      refine (encode_confined _).bind fun _ => (drive_confined _).bind fun _ => ?_
      exact ensures_pure fun _ confined => confined

theorem authenticateReply_confined (server : Server σ ρ) (kx : KeyExchangeOutput)
    (state : AuthenticationState) :
    Keeps (LinkConfined options) (Task.authenticateReply server kx state : Trace α σ ρ τ _) := by
  refine (drive_confined _).bind fun received => ?_
  cases received with
  | error error => exact ensures_pure fun _ confined => confined
  | ok packet =>
      refine (handleAuth_confined _ state packet).bind fun handled => ?_
      refine (drive_confined _).bind fun flushed => ?_
      split <;> exact ensures_pure fun _ confined => confined

end Logs

section Authentication

open AuthenticationState

variable [SealingKey σ] [OpeningKey ρ]

theorem authenticateReply_stepped {server : Server σ ρ} {kx : KeyExchangeOutput}
    {state next : AuthenticationState} {link last : Link α σ ρ τ}
    (ran : exec (Task.authenticateReply server kx state) link = (.ok (.ok next), last)) :
    ∃ packet middle, exec (Trace.drive Connection.receive) link = (.ok packet, middle) ∧
      Stepped (server.context kx.sessionId) state packet next := by
  unfold Task.authenticateReply at ran
  obtain ⟨received, read, receiving, ran⟩ := exec_bind_ok.mp ran
  cases received with
  | error error => cases ran
  | ok packet =>
      obtain ⟨handled, middle, handling, ran⟩ := exec_bind_ok.mp ran
      obtain ⟨flushed, _, _, ran⟩ := exec_bind_ok.mp ran
      obtain ⟨caught, kept⟩ := Trace.drive_ran receiving
      have heard : exec (Trace.drive Connection.receive) link = (.ok packet, read) :=
        Trace.exec_drive (Drive.catching_ok caught) kept
      refine ⟨packet, read, heard, ?_⟩
      cases handled with
      | error error => cases ran
      | ok value =>
          cases flushed with
          | error error => cases ran
          | ok done =>
              cases ran
              rw [Trace.exec_handleAuth] at handling
              split at handling
              · rename_i answered
                cases handling
                exact handle_ok answered
              · cases handling
              · cases handling

omit [SealingKey σ] [OpeningKey ρ] in
theorem AuthenticationState.Stepped.vouches {server : Server σ ρ} {id : Digest}
    (lookupNamed : ∀ name user, server.store.lookup name server.rootPolicy = some user →
      user.name = name)
    {state next : AuthenticationState} {packet : IncomingPacket}
    (stepped : Stepped (server.context id) state packet next)
    (pending : ∀ earlier, state ≠ .complete earlier)
    (current : ∀ cached attempts, state = .awaitAuthRequest cached attempts →
      CacheCurrent (server.context id) cached) :
    (∀ cached attempts, next = .awaitAuthRequest cached attempts →
      CacheCurrent (server.context id) cached) ∧
    ∀ auth, next = .complete auth →
      Bound (server.context id) packet auth ∨ Decoyed (server.context id) packet auth := by
  cases stepped with
  | ignored transport => exact ⟨current, fun auth is => absurd is (pending auth)⟩
  | serviceAccepted requested =>
      refine ⟨?_, fun auth is => by cases is⟩
      intro cached attempts is
      cases is
      intro user other
      cases other
  | @refused cached attempts packet =>
      refine ⟨?_, fun auth is => by cases is⟩
      intro kept left is
      cases is
      exact current cached attempts rfl
  | @resolved cached attempts packet userName user found =>
      refine ⟨?_, fun auth is => by cases is⟩
      intro kept left is
      cases is
      exact (resolve_current lookupNamed (current cached attempts rfl) found).2
  | @completed cached attempts packet request publicKey user sig key parsed service method found
      signed chosen accepted =>
      refine ⟨?_, ?_⟩
      · intro kept left is
        cases is
      intro auth is
      cases is
      exact completed_bound_or_decoyed lookupNamed (current cached attempts rfl) parsed service
        method found signed chosen accepted

end Authentication

section Starting

variable [SealingKey σ] [OpeningKey ρ] [SocketAddr α]

theorem Session.Begun.running_confined {provider : CryptoProvider σ ρ} {output : KeyExchangeOutput}
    {options : KeyOptions} {session : Session α σ ρ τ}
    (begun : session.Begun provider output options) : session.running.Confined options := by
  obtain ⟨running, same, confined⟩ := begun.confined.phase _ rfl
  cases same
  exact confined

def Task.Portable (task : Task α σ ρ τ) : Prop :=
  ∀ kx auth state, task.stage = .connected (.authenticated kx auth) →
    Server.handoff kx auth.options task.link.conn = .ok state → state.Fits

theorem phaseTurn_starts {server : Server σ ρ} {spawn : Bool} {turn : Turn τ}
    {kx : KeyExchangeOutput} {auth : Authenticated} {link last : Link α σ ρ τ}
    {running : Running τ}
    (fits : spawn = true →
      ∀ state, Server.handoff kx auth.options link.conn = .ok state → state.Fits)
    (ran : exec (server.phaseTurn spawn turn (.authenticated kx auth)) (link.supply turn) =
      (.ok (some (.running running)), last)) : running.Confined auth.options := by
  unfold Server.phaseTurn at ran
  dsimp only at ran
  split at ran
  · rename_i elsewhere
    obtain ⟨started, _, starting, ran⟩ := exec_bind_ok.mp ran
    cases ran
    rw [Server.startElsewhere, exec_mk] at starting
    split at starting
    · cases starting
    · rename_i session moved
      cases starting
      obtain ⟨state, handed, resumed⟩ := Outcome.bind_eq_ok.mp moved
      exact (Session.Begun.handedOff handed (fits elsewhere state handed) resumed).running_confined
  · obtain ⟨started, _, starting, ran⟩ := exec_bind_ok.mp ran
    cases ran
    rw [Server.startHere, exec_mk] at starting
    split at starting
    · rename_i session begun
      cases starting
      exact (Session.Begun.inProcess begun).running_confined
    · cases starting

theorem phaseTurn_spawns_nothing {options : KeyOptions} (server : Server σ ρ) (spawn : Bool)
    (turn : Turn τ) (kx : KeyExchangeOutput) (auth : Authenticated) :
    Keeps (LinkConfined options)
      (server.phaseTurn spawn turn (.authenticated kx auth) : Trace α σ ρ τ _) := by
  unfold Server.phaseTurn
  dsimp only
  split
  · have started : Keeps (LinkConfined options)
        (Server.startElsewhere (server.provider.drawing turn.draws) kx auth.options :
          Trace α σ ρ τ _) := by
      refine keeps_of_last fun {link} confined => ?_
      rw [Server.startElsewhere, exec_mk]
      split
      · exact confined
      · exact confined.append (by simp [LogConfined])
    exact started.bind fun _ => ensures_pure fun _ confined => confined
  · have started : Keeps (LinkConfined options)
        (Server.startHere (server.provider.drawing turn.draws) kx auth.options : Trace α σ ρ τ _) := by
      refine keeps_of_last fun {link} confined => ?_
      rw [Server.startHere, exec_mk]
      split
      · exact confined
      · exact confined
    exact started.bind fun _ => ensures_pure fun _ confined => confined

theorem phaseTurn_confined {server : Server σ ρ} {spawn : Bool} {turn : Turn τ}
    {options : KeyOptions} {running : Running τ} (confined : running.Confined options)
    {link last : Link α σ ρ τ} (logged : LogConfined options link.log)
    {outcome : Except Halt (Option (Phase τ))}
    (ran : exec (server.phaseTurn spawn turn (.running running)) (link.supply turn) =
      (outcome, last)) :
    (∀ later, outcome = .ok (some (.running later)) → later.Confined options) ∧
      LogConfined options last.log := by
  have supplied : LinkConfined options (link.supply turn) := logged
  have confines := turn_confines (α := α) (σ := σ) (ρ := ρ) confined
    (server.provider.drawing turn.draws) turn supplied
  rw [Server.phaseTurn, exec_bind] at ran
  split at ran
  · rename_i next middle turned
    rw [turned] at confines
    cases ran
    refine ⟨?_, confines.2⟩
    intro later is
    obtain ⟨same, kept, other⟩ := Option.map_eq_some_iff.mp (Except.ok.inj is)
    cases other
    exact confines.1 later kept
  · rename_i halt middle turned
    rw [turned] at confines
    cases ran
    refine ⟨?_, confines⟩
    intro later is
    cases is

end Starting

section Standing

open AuthenticationState

variable [SealingKey σ] [OpeningKey ρ] [SocketAddr α] (server : Server σ ρ) (spawn : Bool)

/-- The client of the task was authenticated so at some moment of the run. -/
def Stood (events : List (HubEvent α τ)) (index : Nat) (kx : KeyExchangeOutput)
    (auth : Authenticated) : Prop :=
  ∃ (before after : List (HubEvent α τ)) (hub : Hub α σ ρ τ) (task : Task α σ ρ τ),
    events = before ++ after ∧ History.run (Hub.step server spawn) {} before = some hub ∧
      hub.tasks[index]? = some task ∧ task.stage = .connected (.authenticated kx auth)

/-- The task received the packet while its client was being authenticated. -/
def Submitted (events : List (HubEvent α τ)) (index : Nat) (kx : KeyExchangeOutput)
    (packet : IncomingPacket) : Prop :=
  ∃ (before : List (HubEvent α τ)) (turn : Turn τ) (after : List (HubEvent α τ))
    (hub : Hub α σ ρ τ) (task : Task α σ ρ τ) (state : AuthenticationState) (link : Link α σ ρ τ),
    events = before ++ .task index (.turn turn) :: after ∧
    History.run (Hub.step server spawn) {} before = some hub ∧
    hub.tasks[index]? = some task ∧ task.stage = .connected (.authenticating kx state) ∧
    exec (Trace.drive Connection.receive) (task.link.supply turn) = (.ok packet, link)

def Task.Proven (Submits : KeyExchangeOutput → IncomingPacket → Prop) (task : Task α σ ρ τ) : Prop :=
  match task.stage with
  | .connected (.authenticating kx state) => (∀ earlier, state ≠ .complete earlier) ∧
    ∀ cached attempts, state = .awaitAuthRequest cached attempts →
      CacheCurrent (server.context kx.sessionId) cached
  | .connected (.authenticated kx auth) => ∃ packet, Submits kx packet ∧
    (Bound (server.context kx.sessionId) packet auth ∨
      Decoyed (server.context kx.sessionId) packet auth)
  | _ => True

variable {server spawn} {available : Bool} {now : Nat} {own : TaskEvent τ}
  {task next : Task α σ ρ τ}

section Proofs

variable
  (lookupNamed : ∀ name user, server.store.lookup name server.rootPolicy = some user →
    user.name = name)

include lookupNamed in
theorem Task.Proven.move {Submits : KeyExchangeOutput → IncomingPacket → Prop}
    (proven : task.Proven server Submits)
    (submits : ∀ turn kx state packet link, own = .turn turn →
      task.stage = .connected (.authenticating kx state) →
      exec (Trace.drive Connection.receive) (task.link.supply turn) = (.ok packet, link) →
      Submits kx packet)
    (moves : Task.Moves server spawn now available task own next) :
    next.Proven server Submits := by
  have refused (error : Error) (disconnect : Disconnect) (link : Link α σ ρ τ) :
      (Task.refuse now error disconnect link).Proven server Submits := by
    unfold Task.refuse
    dsimp only
    split <;> trivial
  have before := proven
  unfold Task.Proven at before
  cases moves with
  | acquired fresh =>
      unfold Task.acquire
      split <;> trivial
  | identified | exchanged | continued | finished => trivial
  | established stage ran =>
      refine ⟨?_, ?_⟩
      · intro earlier other
        cases other
      · intro cached attempts other
        cases other
  | @replied turn kx state later link stage unfinished ran =>
      rw [stage] at before
      obtain ⟨packet, _, _, stepped⟩ := authenticateReply_stepped ran
      exact ⟨unfinished, (stepped.vouches lookupNamed before.1 before.2).1⟩
  | @welcomed turn kx state auth link stage ran =>
      rw [stage] at before
      obtain ⟨packet, _, received, stepped⟩ := authenticateReply_stepped ran
      exact ⟨packet, submits turn kx state packet _ rfl stage received,
        (stepped.vouches lookupNamed before.1 before.2).2 auth rfl⟩
  | refused | expired => exact refused _ _ _

include lookupNamed in
theorem Stood.bound_or_decoyed {events : List (HubEvent α τ)} {index : Nat} {kx : KeyExchangeOutput}
    {auth : Authenticated} (stood : Stood server spawn events index kx auth) :
    ∃ packet, Submitted server spawn events index kx packet ∧
      (Bound (server.context kx.sessionId) packet auth ∨
        Decoyed (server.context kx.sessionId) packet auth) := by
  obtain ⟨before, after, hub, task, rfl, reached, found, stage⟩ := stood
  have proven : task.Proven server (Submitted server spawn (before ++ after) index) := by
    refine Hub.tasks_along
      (P := fun _ index task => task.Proven server (Submitted server spawn (before ++ after) index))
      (fun _ => trivial) (fun proven => proven) ?_ reached found
    intro past rest middle index own earlier next split came stood proven moves
    refine proven.move lookupNamed ?_ moves
    rintro turn kx state packet link rfl stage received
    refine ⟨past, turn, rest ++ after, middle, earlier, state, link, ?_, came, stood, stage, received⟩
    rw [split, List.append_assoc, List.cons_append]
  unfold Task.Proven at proven
  rw [stage] at proven
  exact proven

end Proofs

theorem Stood.snoc {events : List (HubEvent α τ)} {index : Nat} {kx : KeyExchangeOutput}
    {auth : Authenticated} (stood : Stood server spawn events index kx auth)
    (event : HubEvent α τ) : Stood server spawn (events ++ [event]) index kx auth := by
  obtain ⟨before, after, hub, task, split, reached, found, stage⟩ := stood
  refine ⟨before, after ++ [event], hub, task, ?_, reached, found, stage⟩
  rw [split, List.append_assoc]

end Standing

section Vouching

variable (Known : KeyExchangeOutput → Authenticated → Prop)

def Permitted (command : Option String) (env : List (String × String)) : Prop :=
  ∃ kx auth, Known kx auth ∧ Confined auth.options command env

def Task.Vouched (task : Task α σ ρ τ) : Prop :=
  match task.stage with
  | .connected (.running running) => ∃ kx auth, Known kx auth ∧ running.Confined auth.options ∧
    LogConfined auth.options task.link.log
  | .returned _ => ∀ event, .channel event ∈ task.link.log → event.Within (Permitted Known)
  | _ => Spawnless task.link

variable {Known} {task next : Task α σ ρ τ}

theorem Spawnless.returned {link : Link α σ ρ τ} (spawnless : Spawnless link)
    (outcome : Except AcceptError Unit) : (Task.finish link outcome).Vouched Known :=
  fun _ member => spawnless.unspawned member _

theorem Spawnless.refused [SealingKey σ] {link : Link α σ ρ τ} (spawnless : Spawnless link)
    (now : Nat) (error : Error) (disconnect : Disconnect) :
    (Task.refuse now error disconnect link).Vouched Known := by
  unfold Task.refuse
  dsimp only
  split
  · exact fun options => (spawnless options).append (by simp [LogConfined])
  · exact fun _ member => spawnless.unspawned member _

theorem Event.Within.mono {Spawns Others : Option String → List (String × String) → Prop}
    {event : Event τ} (within : event.Within Spawns)
    (more : ∀ command env, Spawns command env → Others command env) : event.Within Others := by
  cases event with
  | spawned localId command env terminal => exact more command env within
  | _ => trivial

theorem Task.Vouched.permitted (vouched : task.Vouched Known) {event : Event τ}
    (member : .channel event ∈ task.link.log) : event.Within (Permitted Known) := by
  unfold Task.Vouched at vouched
  split at vouched
  · obtain ⟨kx, auth, known, _, logged⟩ := vouched
    exact (logged event member).mono fun _ _ confined => ⟨kx, auth, known, confined⟩
  · exact vouched event member
  · exact vouched.unspawned member _

theorem Task.Vouched.mono {Later : KeyExchangeOutput → Authenticated → Prop}
    (vouched : task.Vouched Known) (more : ∀ kx auth, Known kx auth → Later kx auth) :
    task.Vouched Later := by
  have permitted (event : Event τ) (member : .channel event ∈ task.link.log) :
      event.Within (Permitted Later) := by
    refine (vouched.permitted member).mono ?_
    rintro command env ⟨kx, auth, known, confined⟩
    exact ⟨kx, auth, more kx auth known, confined⟩
  obtain ⟨link, stage, permit, timer⟩ := task
  cases stage with
  | connected phase =>
      cases phase with
      | running running =>
          obtain ⟨kx, auth, known, rest⟩ := vouched
          exact ⟨kx, auth, more kx auth known, rest⟩
      | _ => exact vouched
  | returned outcome => exact permitted
  | _ => exact vouched

section Moving

variable [SealingKey σ] [OpeningKey ρ] [SocketAddr α] {server : Server σ ρ}
  {spawn available : Bool} {now : Nat} {event : TaskEvent τ}

theorem Task.Vouched.ends (vouched : task.Vouched Known)
    {turn : Turn τ} {link : Link α σ ρ τ} (outcome : Except AcceptError Unit)
    (ends : Task.Ends server spawn turn task.link task.stage link) :
    (Task.finish link outcome).Vouched Known := by
  have before := vouched
  unfold Task.Vouched at before
  generalize stage : task.stage = place at ends before
  cases ends with
  | identifying ran => exact (Spawnless.after before (fun _ => drive_confined _) ran).returned _
  | exchanging ran =>
      exact (Spawnless.after before (fun _ => exchangeTurn_confined _ _) ran).returned _
  | authenticating ran =>
      exact (Spawnless.after before (fun _ => authenticateReply_confined _ _ _) ran).returned _
  | verifying ran | refusing ran =>
      exact (Spawnless.after before (fun _ => drive_confined _) ran).returned _
  | @session phase outcome last inSession ran =>
      cases phase with
      | exchanging state => exact inSession.elim
      | authenticating kx state => exact inSession.elim
      | authenticated kx auth =>
          exact (Spawnless.after before
            (fun _ => phaseTurn_spawns_nothing _ _ _ _ _) ran).returned _
      | running running =>
          obtain ⟨kx, auth, known, confined, logged⟩ := before
          have ended := phaseTurn_confined confined logged ran
          exact fun event member => (ended.2 event member).mono fun _ _ confined =>
            ⟨kx, auth, known, confined⟩

theorem Task.Vouched.move (vouched : task.Vouched Known) (portable : spawn = true → task.Portable)
    (known : ∀ kx auth, task.stage = .connected (.authenticated kx auth) → Known kx auth)
    (moves : Task.Moves server spawn now available task event next) : next.Vouched Known := by
  have before := vouched
  unfold Task.Vouched at before
  cases moves with
  | acquired fresh =>
      rw [fresh] at before
      unfold Task.acquire
      split
      · exact before
      · exact Spawnless.returned before _
  | identified stage ran =>
      rw [stage] at before
      exact Spawnless.after before (fun _ => drive_confined _) ran
  | exchanged stage ran | established stage ran =>
      rw [stage] at before
      exact Spawnless.after before (fun _ => exchangeTurn_confined _ _) ran
  | replied stage _ ran | welcomed stage ran =>
      rw [stage] at before
      exact Spawnless.after before (fun _ => authenticateReply_confined _ _ _) ran
  | @continued turn phase later link stage inSession ran =>
      rw [stage] at before
      cases phase with
      | exchanging state => exact inSession.elim
      | authenticating kx state => exact inSession.elim
      | authenticated kx auth =>
          have logged := Spawnless.after before
            (fun _ => phaseTurn_spawns_nothing server spawn turn kx auth) ran
          refine ⟨kx, auth, known kx auth stage, ?_, logged auth.options⟩
          refine phaseTurn_starts ?_ ran
          intro elsewhere state handed
          exact portable elsewhere kx auth state stage handed
      | running current =>
          obtain ⟨kx, auth, known, confined, logged⟩ := before
          have ended := phaseTurn_confined confined logged ran
          exact ⟨kx, auth, known, ended.1 later rfl, ended.2⟩
  | refused stage ran =>
      rw [stage] at before
      exact (Spawnless.after before (fun _ => authenticateReply_confined _ _ _) ran).refused _ _ _
  | expired stage ends =>
      rw [stage] at before ends
      refine Spawnless.refused ?_ _ _ _
      cases ends with
      | authenticating ran =>
          exact Spawnless.after before (fun _ => authenticateReply_confined _ _ _) ran
      | verifying ran => exact Spawnless.after before (fun _ => drive_confined _) ran
      | session inSession ran => exact inSession.elim
  | finished outcome later ends => exact vouched.ends outcome ends

end Moving

end Vouching

section Result

open AuthenticationState

variable [SealingKey σ] [OpeningKey ρ] [SocketAddr α]

/-- In every order of events, a shell on a connection was asked for by a client that stood
authenticated on the same connection. A packet that it had sent there carried a signature of the
identifier of this session, and the key that accepted it allows the command and the environment of
the shell. This is a key that is authorized for the user, or the decoy where none of the user's keys
matched the request. -/
theorem shells_authenticated (server : Server σ ρ) (spawn : Bool) (events : List (HubEvent α τ))
    (lookupNamed : ∀ name user, server.store.lookup name server.rootPolicy = some user →
      user.name = name)
    (portable : spawn = true → History.Always (Hub.step server spawn) {} events
      fun (hub : Hub α σ ρ τ) => ∀ task ∈ hub.tasks, task.Portable)
    {hub : Hub α σ ρ τ} (ran : History.run (Hub.step server spawn) {} events = some hub)
    {index : Nat} {task : Task α σ ρ τ} (found : hub.tasks[index]? = some task)
    {localId : UInt32} {command : Option String} {env : List (String × String)} {terminal : τ}
    (spawned : .channel (.spawned localId command env terminal) ∈ task.link.log) :
    ∃ kx auth packet, Stood server spawn events index kx auth ∧
      Submitted server spawn events index kx packet ∧
      (Bound (server.context kx.sessionId) packet auth ∨
        Decoyed (server.context kx.sessionId) packet auth) ∧
      Confined auth.options command env := by
  have vouched : task.Vouched (Stood server spawn events index) := by
    refine Hub.tasks_along (P := fun past index task => task.Vouched (Stood server spawn past index))
      ?_ ?_ ?_ ran found
    · intro past index stream addr secureRandom _ options event member
      cases member
    · intro past event index task before
      exact before.mono fun kx auth stood => stood.snoc event
    · intro past rest middle index own before after split reached stood vouched moves
      refine vouched.move ?_ ?_ moves
      · intro elsewhere
        exact portable elsewhere past _ middle split reached before (List.mem_of_getElem? stood)
      · intro kx auth stage
        exact ⟨past, [], middle, before, (List.append_nil _).symm, reached, stood, stage⟩
  obtain ⟨kx, auth, stood, confined⟩ := vouched.permitted spawned
  obtain ⟨packet, submitted, proved⟩ := stood.bound_or_decoyed lookupNamed
  exact ⟨kx, auth, packet, stood, submitted, proved, confined⟩

omit [SealingKey σ] in
theorem mem_spawnedWith {log : List (Act σ τ)} {command : Option String}
    {env : List (String × String)} (member : (command, env) ∈ spawnedWith log) :
    ∃ localId terminal, .channel (.spawned localId command env terminal) ∈ log := by
  obtain ⟨act, member, shown⟩ := List.mem_filterMap.mp member
  split at shown
  · rename_i localId _ _ terminal
    cases shown
    exact ⟨localId, terminal, member⟩
  · cases shown

-- The client proves who it is, opens a channel and asks for a terminal and a shell.
def loginTurns : List (Turn Unit) :=
  authTurns ++ [
    sealedTurn (MessageType.channelOpen.toByte :: (encodeBytes (strBytes "session") ++
      encodeU32 0 ++ encodeU32 1024 ++ encodeU32 1024)) 52,
    sealedTurn (requestPayload "pty-req" (encodeBytes (strBytes "vt") ++ encodeU32 80 ++
      encodeU32 24 ++ encodeU32 0 ++ encodeU32 0 ++ encodeBytes [0])) 244,
    sealedTurn (requestPayload "shell" []) 36]

def login : List (HubEvent String Unit) :=
  [.arrived plainStream "192.0.2.1:22" plainProvider.secureRandom, .task 0 .acquire,
    .task 0 (.turn { host := plainHost, draws := plainDraws })] ++
    (plainTurns ++ loginTurns).map fun turn => .task 0 (.turn turn)

theorem shells_authenticated_login :
    ∃ (hub : Hub String PlainSealer PlainOpener Unit)
      (task : Task String PlainSealer PlainOpener Unit) (kx : KeyExchangeOutput)
      (auth : Authenticated) (packet : IncomingPacket),
      History.run (Hub.step (commandServer uptimeOptions) false) {} login = some hub ∧
      hub.tasks[0]? = some task ∧ spawnedWith task.link.log = [(some "uptime", [])] ∧
      Stood (commandServer uptimeOptions) false login 0 kx auth ∧
      Submitted (commandServer uptimeOptions) false login 0 kx packet ∧
      Bound ((commandServer uptimeOptions).context kx.sessionId) packet auth ∧
      Confined auth.options (some "uptime") [] := by
  have shown : (History.run (Hub.step (commandServer uptimeOptions) false) {} login).bind
      (fun hub => hub.tasks[0]?.map fun task => spawnedWith task.link.log) =
      some [(some "uptime", [])] := by
    decide +kernel
  obtain ⟨hub, ran, shown⟩ := Option.bind_eq_some_iff.mp shown
  obtain ⟨task, found, shells⟩ := Option.map_eq_some_iff.mp shown
  obtain ⟨localId, terminal, spawned⟩ :=
    mem_spawnedWith (show (some "uptime", []) ∈ spawnedWith task.link.log by rw [shells]; simp)
  have lookupNamed (name : Username) (user : User)
      (known : (commandServer uptimeOptions).store.lookup name
        (commandServer uptimeOptions).rootPolicy = some user) : user.name = name := by
    cases known
    rfl
  obtain ⟨kx, auth, packet, stood, submitted, proved, confined⟩ :=
    shells_authenticated (commandServer uptimeOptions) false login lookupNamed
      (fun elsewhere => by cases elsewhere) ran found spawned
  -- The server knows no Base64, so it has no decoy.
  have bound : Bound ((commandServer uptimeOptions).context kx.sessionId) packet auth := by
    rcases proved with bound | ⟨_, _, _, _, _, _, _, _, _, _, _, _, _, decoy, _⟩
    · exact bound
    · exact absurd decoy (fakeKey_undecoded _ plainProvider _)
  exact ⟨hub, task, kx, auth, packet, ran, found, shells, stood, submitted, bound, confined⟩

end Result

end Oxish
