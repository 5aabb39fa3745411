import Oxish.Authentication
import Oxish.ChannelActs
import Oxish.KeyExchangeSilence

/-!
What the shells of a session are spawned with: the command that the options of the key force, and an
environment of at most 32 variables with names from a short list. A host that answers differently to
any other call is not told apart from the real one by any run.
-/

namespace Oxish

open Stateful

variable {α σ ρ τ β : Type}

def EnvName (name : String) : Prop :=
  name = "TZ" ∨ name = "LANG" ∨ strBytes "LC_" <+: strBytes name

instance (name : String) : Decidable (EnvName name) :=
  inferInstanceAs (Decidable (_ ∨ _ ∨ _))

theorem envAllowed_iff (name : String) : envAllowed name = true ↔ EnvName name := by
  simp [envAllowed, allowEnv, EnvName, or_assoc]

structure ConfinedEnv (env : List (String × String)) : Prop where
  few : env.length ≤ 32
  names : ∀ entry ∈ env, EnvName entry.1

instance (env : List (String × String)) : Decidable (ConfinedEnv env) :=
  decidable_of_iff (env.length ≤ 32 ∧ ∀ entry ∈ env, EnvName entry.1)
    ⟨fun both => ⟨both.1, both.2⟩, fun confined => ⟨confined.few, confined.names⟩⟩

theorem confinedEnv_nil : ConfinedEnv [] := ⟨by simp, by simp⟩

theorem ConfinedEnv.append {env : List (String × String)} {name : String} (confined : ConfinedEnv env)
    (allowed : envAllowed name = true) (few : env.length < 32) (value : String) :
    ConfinedEnv (env ++ [(name, value)]) := by
  constructor
  · simp only [List.length_append, List.length_singleton]
    omega
  · intro entry member
    rcases List.mem_append.mp member with earlier | last
    · exact confined.names entry earlier
    · rw [List.mem_singleton.mp last]
      exact (envAllowed_iff name).mp allowed

/-- A call of `spawn` as the options of the key want it. -/
def Confined (options : KeyOptions) (command : Option String) (env : List (String × String)) : Prop :=
  command = options.command ∧ ConfinedEnv env

instance (options : KeyOptions) (command : Option String) (env : List (String × String)) :
    Decidable (Confined options command env) :=
  inferInstanceAs (Decidable (_ ∧ _))

section Guards

variable {host : TerminalHost τ} {options : KeyOptions}
  {fallback : Option String → PtyReq → List (String × String) → Except IoError τ}

/-- The host with another answer to every call that is not confined. -/
def TerminalHost.guarded (host : TerminalHost τ) (options : KeyOptions)
    (fallback : Option String → PtyReq → List (String × String) → Except IoError τ) :
    TerminalHost τ :=
  { host with spawn := fun command ptyReq env =>
      if Confined options command env then host.spawn command ptyReq env
      else fallback command ptyReq env }

def Turn.guarded (options : KeyOptions)
    (fallback : Option String → PtyReq → List (String × String) → Except IoError τ)
    (turn : Turn τ) : Turn τ :=
  { turn with host := turn.host.guarded options fallback }

def TableConfined (channels : Channels τ) : Prop :=
  ∀ (localId : UInt32) (channel : Channel τ),
    channels.channels[localId]? = some channel → ConfinedEnv channel.env

variable [SealingKey σ]

theorem answer_guarded {request : ChannelRequest} {banner : Option Bytes} {channel : Channel τ}
    (confined : ConfinedEnv channel.env) :
    (Channels.answer (host.guarded options fallback) request banner options channel :
      Operation σ τ Unit) = Channels.answer host request banner options channel := by
  have called (ptyReq : PtyReq) :
      (host.guarded options fallback).spawn options.command ptyReq channel.env =
        host.spawn options.command ptyReq channel.env := if_pos ⟨rfl, confined⟩
  have shell (localId : UInt32) :
      (Channels.requestShell (host.guarded options fallback) localId channel options :
        Operation σ τ (Channel τ)) = Channels.requestShell host localId channel options := by
    unfold Channels.requestShell
    split
    · rw [called]
    · rfl
  unfold Channels.answer
  rw [shell]
  rfl

theorem exec_request_guarded {request : ChannelRequest} {banner : Option Bytes} {mux : Mux σ τ}
    (confined : TableConfined mux.channels) :
    exec (Channels.request (host.guarded options fallback) request banner options) mux =
      exec (Channels.request host request banner options) mux := by
  have looked : exec (lookupChannel request.recipientChannel) mux =
      (.ok mux.channels.channels[request.recipientChannel]?, mux) := rfl
  rw [Channels.request_eq, Channels.request_eq, exec_bind, exec_bind, looked]
  dsimp only
  split
  · rfl
  · rename_i channel found
    rw [answer_guarded (confined _ _ found)]

theorem exec_operation_guarded {packet : IncomingPacket} {session : SessionView} {mux : Mux σ τ}
    (same : session.options = options) (confined : TableConfined mux.channels) :
    exec ((SessionInput.received packet session).operation (host.guarded options fallback)) mux =
      exec ((SessionInput.received packet session).operation host) mux := by
  have parsing : exec (parseMessage packet) mux =
      (raise ((IncomingChannelMessage.tryFrom packet).mapError Error.proto), mux) := rfl
  rw [SessionInput.operation, SessionInput.operation, exec_bind, exec_bind, parsing]
  cases raise ((IncomingChannelMessage.tryFrom packet).mapError Error.proto) with
  | error stop => rfl
  | ok message =>
      subst same
      cases message with
      | request message => exact exec_request_guarded confined
      | «open» message => rfl
      | data message => rfl
      | windowAdjust message => rfl
      | eof message => rfl
      | close message => rfl

theorem poll_guarded :
    (TerminalsFuture.poll (host.guarded options fallback) : Operation σ τ (Poll Unit)) =
      TerminalsFuture.poll host := by
  have each (localIds : List UInt32) :
      (TerminalsFuture.pollEach (host.guarded options fallback) localIds :
        Operation σ τ (Poll Unit)) = TerminalsFuture.pollEach host localIds := by
    induction localIds with
    | nil => rfl
    | cons localId localIds ih =>
        unfold TerminalsFuture.pollEach
        rw [ih]
        rfl
  unfold TerminalsFuture.poll
  rw [funext each]

end Guards

section Environments

variable {host : TerminalHost τ} {session : SessionView} {localId : UInt32} {channel : Channel τ}
  {events : List (Event τ)} {entry : Option (Channel τ)}

@[simp] theorem Channel.finished_env (channel : Channel τ) (banner : Option Bytes) :
    (channel.finished banner).env = channel.env := by
  unfold Channel.finished
  split <;> rfl

@[simp] theorem Channel.toppedUp_env (channel : Channel τ) : channel.toppedUp.env = channel.env := by
  unfold Channel.toppedUp
  split <;> rfl

def EntryConfined (_ : UInt32) (entry : Option (Channel τ)) (_ : List (Event τ)) : Prop :=
  ∀ channel, entry = some channel → ConfinedEnv channel.env

theorem Carried.confined {options : KeyOptions} {type : ChannelRequestType} {next : Channel τ}
    (done : Carried host options localId channel type events next)
    (confined : ConfinedEnv channel.env) : ConfinedEnv next.env := by
  cases done with
  | pty ptyReq => exact confined
  | @env request allowed few => exact confined.append allowed few request.value
  | shell requested spawned => exact confined
  | resize windowChange => exact confined

theorem MessageAct.confined {message : IncomingChannelMessage} {past : List (Event τ)}
    (act : MessageAct host session localId channel message events entry)
    (holds : EntryConfined localId (some channel) past) :
    EntryConfined localId entry (past ++ events) := by
  have confined := holds channel rfl
  intro next stored
  cases act with
  | request same act =>
      cases stored
      cases act with
      | carried done =>
          rw [Channel.finished_env]
          exact done.confined confined
      | refused noPty noShell => exact confined
  | data same fits =>
      cases stored
      rw [Channel.toppedUp_env]
      exact confined
  | adjusted same =>
      cases stored
      exact confined
  | eof same =>
      cases stored
      exact confined
  | killed same held fresh =>
      cases stored
      exact confined
  | awaited same reaps =>
      cases stored
      exact confined
  | removed same free => cases stored

theorem PollAct.confined {past : List (Event τ)} (act : PollAct host localId channel events entry)
    (holds : EntryConfined localId (some channel) past) :
    EntryConfined localId entry (past ++ events) := by
  have confined := holds channel rfl
  intro next stored
  -- A poll that keeps its channel keeps the environment of it.
  obtain ⟨_, visit⟩ := act
  cases visit <;> cases stored <;> exact confined

theorem entryConfined_invariant :
    ActInvariant (EntryConfined : UInt32 → Option (Channel τ) → List (Event τ) → Prop) where
  vacant := by
    intro localId channel found
    cases found
  opened := by
    intro localId open_ channel found
    cases found
    exact confinedEnv_nil
  message := MessageAct.confined
  polled := PollAct.confined

variable [SealingKey σ] {channels : Channels τ} {write : WriteState σ} {last : Mux σ τ}

theorem operation_confined {input : SessionInput} (confined : TableConfined channels)
    (done : exec (input.operation host) { channels, write } = (.ok (), last)) :
    TableConfined last.channels := by
  have stepped : Mux.step { channels, write } { input, host, write } = some last := by
    rw [Mux.step, done]
  exact entryConfined_invariant.step stepped confined

theorem poll_confined {value : Poll Unit} (confined : TableConfined channels)
    (done : exec (TerminalsFuture.poll host) { channels, write } = (.ok value, last)) :
    TableConfined last.channels :=
  View.Every.polls PollAct.confined (poll_visits done).acts confined

end Environments

section Logs

variable {Spawns : Option String → List (String × String) → Prop}

def LogWithin (Spawns : Option String → List (String × String) → Prop) (log : List (Event τ)) :
    Prop :=
  ∀ event ∈ log, event.Within Spawns

theorem LogWithin.append {log : List (Event τ)} {event : Event τ} (within : LogWithin Spawns log)
    (last : event.Within Spawns) : LogWithin Spawns (log ++ [event]) := by
  intro other member
  rcases List.mem_append.mp member with earlier | newest
  · exact within other earlier
  · rw [List.mem_singleton.mp newest]
    exact last

variable [SealingKey σ]

theorem MuxBuilt.logs {operation : Operation σ τ β} (built : MuxBuilt Spawns operation) :
    Keeps (fun mux => LogWithin Spawns mux.log) operation := by
  apply Built.keeps built
  intro β operation is
  cases is with
  | tabled change => exact keeps_of_last fun within => within
  | noted event silent last => exact keeps_of_last fun within => within.append last
  | transmitted event payload shown =>
      refine keeps_of_last fun {mux} within => ?_
      change LogWithin Spawns (mux.encode event payload).2.log
      unfold Mux.encode
      split
      · exact within.append (Event.within_of_payload shown)
      · exact within
  | decided outcome => exact keeps_of_last fun within => within

variable {host : TerminalHost τ} {options : KeyOptions} {channels : Channels τ}

theorem request_logs {request : ChannelRequest} {banner : Option Bytes} {mux : Mux σ τ}
    (confined : TableConfined mux.channels) (within : LogWithin (Confined options) mux.log) :
    LogWithin (Confined options)
      (exec (Channels.request host request banner options) mux).2.log := by
  have looked : exec (lookupChannel request.recipientChannel) mux =
      (.ok mux.channels.channels[request.recipientChannel]?, mux) := rfl
  rw [Channels.request_eq, exec_bind, looked]
  dsimp only
  split
  · exact within
  · rename_i channel found
    have built : MuxBuilt (Confined options)
        (Channels.answer host request banner options channel : Operation σ τ Unit) :=
      Channels.answer_built host request banner ⟨rfl, confined _ _ found⟩
    exact Keeps.last built.logs mux within

theorem operation_logs {packet : IncomingPacket} {session : SessionView} {mux : Mux σ τ}
    (same : session.options = options) (confined : TableConfined mux.channels)
    (within : LogWithin (Confined options) mux.log) :
    LogWithin (Confined options)
      (exec ((SessionInput.received packet session).operation host) mux).2.log := by
  have parsing : exec (parseMessage packet) mux =
      (raise ((IncomingChannelMessage.tryFrom packet).mapError Error.proto), mux) := rfl
  rw [SessionInput.operation, exec_bind, parsing]
  cases raise ((IncomingChannelMessage.tryFrom packet).mapError Error.proto) with
  | error stop => exact within
  | ok message =>
      subst same
      by_cases asks : ∃ request, message = .request request
      · obtain ⟨request, rfl⟩ := asks
        exact request_logs confined within
      · have built : MuxBuilt (Confined session.options)
            (Channels.handle host session message : Operation σ τ Unit) :=
          Channels.handle_built host session message fun request is => absurd ⟨request, is⟩ asks
        exact Keeps.last built.logs mux within

end Logs

section Turns

variable {options : KeyOptions}

def LogConfined (options : KeyOptions) (log : List (Act σ τ)) : Prop :=
  ∀ event, .channel event ∈ log → event.Within (Confined options)

structure Running.Confined (options : KeyOptions) (running : Running τ) : Prop where
  options : running.options = options
  channels : TableConfined running.channels

abbrev LinkConfined (options : KeyOptions) (link : Link α σ ρ τ) : Prop :=
  LogConfined options link.log

theorem LogConfined.append {log acts : List (Act σ τ)} (confined : LogConfined options log)
    (more : LogConfined options acts) : LogConfined options (log ++ acts) := by
  intro event member
  rcases List.mem_append.mp member with earlier | later
  · exact confined event earlier
  · exact more event later

theorem drive_confined (program : Drive α σ ρ β) :
    Keeps (LinkConfined options) (Trace.drive program : Trace α σ ρ τ β) :=
  keeps_of_last fun confined => confined

theorem record_confined {acts : List (Act σ τ)} (more : LogConfined options acts) :
    Keeps (LinkConfined options) (Trace.record acts : Trace α σ ρ τ Unit) :=
  keeps_of_last fun confined => confined.append more

theorem handleKx_confined {S : Type} (handle : WriteState σ → Handled σ S (Option β)) :
    Keeps (LinkConfined options) (Trace.handleKx handle : Trace α σ ρ τ _) := by
  refine keeps_of_last fun {link} confined => ?_
  have more : LogConfined options
      ((handle link.conn.write).outbox.sent.map Act.packet : List (Act σ τ)) := by
    intro event member
    obtain ⟨payload, _, same⟩ := List.mem_map.mp member
    cases same
  rw [Trace.exec_handleKx]
  cases (handle link.conn.write).result with
  | ok output => exact confined.append more
  | error stop => exact confined.append more

theorem operate_confined {channels : Channels τ} {operation : Operation σ τ β}
    (logs : ∀ write, LogWithin (Confined options) (exec operation { channels, write }).2.log)
    (tables : ∀ {write value last}, exec operation { channels, write } = (.ok value, last) →
      TableConfined last.channels) :
    Ensures (LinkConfined options) (Trace.operate channels operation : Trace α σ ρ τ _)
      (fun outcome link => TableConfined outcome.1 ∧ LinkConfined options link)
      (LinkConfined options) := by
  intro link confined
  have within := logs link.conn.write
  have table {value last} := @tables link.conn.write value last
  rw [Trace.exec_operate]
  generalize exec operation { channels, write := link.conn.write } = ran at within table
  obtain ⟨outcome, mux⟩ := ran
  have more : LogConfined options (mux.log.map Act.channel : List (Act σ τ)) := by
    intro event member
    obtain ⟨other, earlier, same⟩ := List.mem_map.mp member
    cases same
    exact within event earlier
  cases outcome with
  | ok value => exact ⟨table rfl, confined.append more⟩
  | error stop => exact confined.append more

theorem operate_congr {channels : Channels τ} {first second : Operation σ τ β}
    (same : ∀ write, exec first { channels, write } = exec second { channels, write }) :
    (Trace.operate channels first : Trace α σ ρ τ _) = Trace.operate channels second := by
  unfold Trace.operate
  congr 1
  funext link
  rw [same]

variable {running : Running τ}

abbrev Confines (options : KeyOptions) (program : Trace α σ ρ τ (Option (Running τ))) : Prop :=
  Ensures (LinkConfined options) program
    (fun next link => (∀ running, next = some running → running.Confined options) ∧
      LinkConfined options link) (LinkConfined options)

theorem confines_pure (confined : running.Confined options) :
    Confines options (pure (some running) : Trace α σ ρ τ _) := by
  refine ensures_pure fun link logged => ⟨?_, logged⟩
  intro other same
  cases same
  exact confined

variable [SealingKey σ]

theorem installKeys_confined (update : KeyUpdate σ ρ) :
    Keeps (LinkConfined options) (Trace.installKeys update : Trace α σ ρ τ Unit) :=
  (drive_confined _).bind fun _ => record_confined (by simp [LogConfined])

theorem encode_confined (payload : Bytes) :
    Keeps (LinkConfined options) (Trace.encode payload : Trace α σ ρ τ Unit) :=
  (drive_confined _).bind fun _ => record_confined (by simp [LogConfined])

theorem rekey_confines (confined : running.Confined options) (provider : CryptoProvider σ ρ)
    (packet : IncomingPacket) :
    Confines options (do
      let running ← running.rekey provider packet
      pure (some running) : Trace α σ ρ τ _) := by
  have kept (kx : RekeyState) (postQuantumKx : Bool) :
      Running.Confined options { running with kx, postQuantumKx } :=
    ⟨confined.options, confined.channels⟩
  have rekeyed : Ensures (LinkConfined options) (running.rekey provider packet)
      (fun next link => next.Confined options ∧ LinkConfined options link)
      (LinkConfined options : Link α σ ρ τ → Prop) := by
    refine (handleKx_confined _).bind fun outcome => ?_
    obtain ⟨kx, output⟩ := outcome
    cases output with
    | none =>
        refine (drive_confined _).bind fun _ => ensures_pure fun link logged => ?_
        exact ⟨kept kx running.postQuantumKx, logged⟩
    | some rekeyed =>
        refine (installKeys_confined rekeyed.update).bind fun _ => ?_
        refine (drive_confined _).bind fun _ => ensures_pure fun link logged => ?_
        exact ⟨kept kx rekeyed.postQuantumKx, logged⟩
  exact rekeyed.bind fun next => ensures_and confines_pure

theorem refuseGlobal_confined (packet : IncomingPacket) :
    Keeps (LinkConfined options) (Running.refuseGlobal packet : Trace α σ ρ τ Unit) := by
  refine (record_confined (by simp [LogConfined])).bind fun _ => ?_
  split
  · exact drive_confined _
  · split
    · exact (encode_confined _).bind fun _ => drive_confined _
    · exact ensures_pure fun _ logged => logged

theorem channelMessage_confines (confined : running.Confined options) (host : TerminalHost τ)
    (packet : IncomingPacket) :
    Confines options (do
      let running ← running.channelMessage host packet
      pure (some running) : Trace α σ ρ τ _) := by
  have handled : Ensures (LinkConfined options) (running.channelMessage host packet)
      (fun next link => next.Confined options ∧ LinkConfined options link)
      (LinkConfined options : Link α σ ρ τ → Prop) := by
    refine (record_confined (by simp [LogConfined])).bind fun _ => ?_
    refine (operate_confined ?_ ?_).bind fun outcome => ensures_and fun table => ?_
    · intro write
      exact operation_logs confined.options confined.channels (by simp [LogWithin])
    · intro write value last done
      exact operation_confined confined.channels done
    · refine (drive_confined _).bind fun _ => ensures_pure fun link logged => ?_
      exact ⟨⟨confined.options, table⟩, logged⟩
  exact handled.bind fun next => ensures_and confines_pure

theorem dispatch_confines (confined : running.Confined options) (provider : CryptoProvider σ ρ)
    (host : TerminalHost τ) (packet : IncomingPacket) :
    Confines options (running.dispatch provider host packet : Trace α σ ρ τ _) := by
  unfold Running.dispatch
  split
  · exact confines_pure confined
  · exact confines_pure confined
  · refine ensures_pure fun link logged => ⟨?_, logged⟩
    intro next ended
    cases ended
  · split
    · exact rekey_confines confined provider packet
    · split
      · exact (refuseGlobal_confined packet).bind fun _ => confines_pure confined
      · exact confines_pure confined
      · exact confines_pure confined
      · exact channelMessage_confines confined host packet

theorem pollTerminals_confines (confined : running.Confined options) (host : TerminalHost τ) :
    Confines options (do
      let running ← running.pollTerminals host
      pure (some running) : Trace α σ ρ τ _) := by
  have polled : Ensures (LinkConfined options) (running.pollTerminals host)
      (fun next link => next.Confined options ∧ LinkConfined options link)
      (LinkConfined options : Link α σ ρ τ → Prop) := by
    unfold Running.pollTerminals
    split
    · exact ensures_pure fun link logged => ⟨confined, logged⟩
    · refine (operate_confined ?_ ?_).bind fun outcome => ensures_and fun table => ?_
      · intro write
        exact Keeps.last (MuxBuilt.logs (TerminalsFuture.poll_built host)) _ (by simp [LogWithin])
      · intro write value last done
        exact poll_confined confined.channels done
      · obtain ⟨channels, polled⟩ := outcome
        cases polled with
        | ready value =>
            refine (drive_confined _).bind fun _ => ensures_pure fun link logged => ?_
            exact ⟨⟨confined.options, table⟩, logged⟩
        | pending => exact ensures_pure fun link logged => ⟨⟨confined.options, table⟩, logged⟩
  exact polled.bind fun next => ensures_and confines_pure

theorem turn_confines [OpeningKey ρ] (confined : running.Confined options)
    (provider : CryptoProvider σ ρ) (turn : Turn τ) :
    Confines options (running.turn provider turn : Trace α σ ρ τ _) := by
  unfold Running.turn
  split
  · have received : Keeps (LinkConfined options) (Running.receive : Trace α σ ρ τ _) := by
      refine keeps_of_last fun {link} logged => ?_
      rw [Running.receive, exec_mk]
      split
      · exact logged
      · exact logged
      · exact logged
    refine received.bind fun packet => ?_
    cases packet with
    | some packet => exact dispatch_confines confined provider turn.host packet
    | none => exact confines_pure confined
  · exact pollTerminals_confines confined turn.host

variable {fallback : Option String → PtyReq → List (String × String) → Except IoError τ}

theorem turn_guarded [OpeningKey ρ] (confined : running.Confined options)
    (provider : CryptoProvider σ ρ) (turn : Turn τ) :
    (running.turn provider (turn.guarded options fallback) : Trace α σ ρ τ _) =
      running.turn provider turn := by
  have handled (packet : IncomingPacket) :
      (running.channelMessage (turn.host.guarded options fallback) packet : Trace α σ ρ τ _) =
        running.channelMessage turn.host packet := by
    unfold Running.channelMessage
    rw [operate_congr fun write => exec_operation_guarded confined.options confined.channels]
  have polled : (running.pollTerminals (turn.host.guarded options fallback) : Trace α σ ρ τ _) =
      running.pollTerminals turn.host := by
    unfold Running.pollTerminals
    rw [poll_guarded]
  have dispatched (packet : IncomingPacket) :
      (running.dispatch provider (turn.host.guarded options fallback) packet : Trace α σ ρ τ _) =
        running.dispatch provider turn.host packet := by
    unfold Running.dispatch
    rw [handled]
  unfold Running.turn
  have branch : (turn.guarded options fallback).branch = turn.branch := rfl
  rw [branch]
  cases turn.branch with
  | receive =>
      dsimp only [Turn.guarded]
      simp only [dispatched]
  | terminals =>
      dsimp only [Turn.guarded]
      rw [polled]

end Turns

section Runs

variable {options : KeyOptions} [SealingKey σ] [OpeningKey ρ] [SocketAddr α]
  {fallback : Option String → PtyReq → List (String × String) → Except IoError τ}

def Session.live (session : Session α σ ρ τ) : Live α σ ρ τ where
  link := { conn := session.conn }
  phase := some (.running session.running)

structure Live.Confined (options : KeyOptions) (live : Live α σ ρ τ) : Prop where
  log : LogConfined options live.link.log
  phase : ∀ phase, live.phase = some phase →
    ∃ running, phase = .running running ∧ running.Confined options

theorem Live.step_guarded (server : Server σ ρ) (spawn : Bool) {live : Live α σ ρ τ}
    (confined : live.Confined options) (turn : Turn τ) :
    live.step server spawn (turn.guarded options fallback) = live.step server spawn turn := by
  unfold Live.step
  split
  · rfl
  · rename_i phase found
    obtain ⟨running, rfl, held⟩ := confined.phase phase found
    have same : (server.phaseTurn spawn (turn.guarded options fallback) (.running running) :
        Trace α σ ρ τ _) = server.phaseTurn spawn turn (.running running) := by
      unfold Server.phaseTurn
      dsimp only
      rw [turn_guarded held]
      rfl
    rw [same]
    rfl

theorem Live.step_confined (server : Server σ ρ) (spawn : Bool) {live : Live α σ ρ τ}
    (confined : live.Confined options) (turn : Turn τ) :
    (live.step server spawn turn).Confined options := by
  unfold Live.step
  split
  · exact confined
  · rename_i phase found
    obtain ⟨running, rfl, held⟩ := confined.phase phase found
    have turned : Ensures (LinkConfined options) (server.phaseTurn spawn turn (.running running))
        (fun next link => (∀ phase, next = some phase →
          ∃ running, phase = .running running ∧ running.Confined options) ∧
            LinkConfined options link)
        (LinkConfined options : Link α σ ρ τ → Prop) := by
      refine (turn_confines held (server.provider.drawing turn.draws) turn).bind fun next =>
        ensures_pure ?_
      rintro link ⟨kept, logged⟩
      refine ⟨?_, logged⟩
      intro phase same
      obtain ⟨other, is, rfl⟩ := Option.map_eq_some_iff.mp same
      exact ⟨other, rfl, kept other is⟩
    have ended := @turned (live.link.supply turn) confined.log
    split at ended
    · rename_i next link done
      rw [done]
      exact ⟨ended.2, ended.1⟩
    · rename_i halt link failed
      rw [failed]
      refine ⟨ended, ?_⟩
      intro phase same
      cases same

theorem Live.run_guarded (server : Server σ ρ) (spawn : Bool) (turns : List (Turn τ))
    {live : Live α σ ρ τ} (confined : live.Confined options) :
    live.run server spawn (turns.map (Turn.guarded options fallback)) =
      live.run server spawn turns := by
  induction turns generalizing live with
  | nil => rfl
  | cons turn turns ih =>
      change (live.step server spawn (turn.guarded options fallback)).run server spawn _ =
        (live.step server spawn turn).run server spawn turns
      rw [Live.step_guarded server spawn confined turn]
      exact ih (Live.step_confined server spawn confined turn)

theorem Live.run_confined (server : Server σ ρ) (spawn : Bool) (turns : List (Turn τ))
    {live : Live α σ ρ τ} (confined : live.Confined options) :
    (live.run server spawn turns).Confined options := by
  induction turns generalizing live with
  | nil => exact confined
  | cons turn turns ih => exact ih (Live.step_confined server spawn confined turn)

section Keys

open AuthenticationState

variable {context : Context σ ρ}

/-- One of the packets asked for a user of the store and carried a signature, and this is the key of
that user, or else the decoy, that accepted it. -/
def AuthenticatedBy (context : Context σ ρ) (calls : List (AuthCall σ))
    (authenticated : Authenticated) (key : AuthorizedKey) : Prop :=
  ∃ before call after cached attempts request publicKey user sig,
    calls = before ++ call :: after ∧
    History.run (AuthenticationState.step context) default before =
      some (.awaitAuthRequest cached attempts) ∧
    UserAuthRequest.tryFrom call.packet = .ok request ∧ request.method = .publicKey publicKey ∧
    publicKey.signature = some sig ∧ resolve context cached request.userName = some user ∧
    user.keys = context.store.keys user.data context.provider ∧
    Chosen context publicKey user sig key ∧ Accepts context request publicKey user sig key ∧
    authenticated = { user := user.data, options := key.options }

omit [OpeningKey ρ] in
theorem AuthenticatedBy.options_eq {calls : List (AuthCall σ)} {authenticated : Authenticated}
    {key : AuthorizedKey} (authenticates : AuthenticatedBy context calls authenticated key) :
    authenticated.options = key.options := by
  obtain ⟨_, _, _, _, _, _, _, user, _, _, _, _, _, _, _, _, _, _, rfl⟩ := authenticates
  rfl

def KeysStored (context : Context σ ρ) (cached : Option CachedUser) : Prop :=
  ∀ user, cached = some user → user.keys = context.store.keys user.data context.provider

omit [SealingKey σ] [OpeningKey ρ] in
theorem resolve_stored {cached : Option CachedUser} (stored : KeysStored context cached)
    {userName : String} {user : CachedUser} (found : resolve context cached userName = some user) :
    user.keys = context.store.keys user.data context.provider := by
  rcases resolve_some found with ⟨same, _⟩ | looked
  · exact stored user same
  · obtain ⟨_, _, _, keys⟩ := lookupUser_some looked
    exact keys

-- Who is authenticated was so by a key, and the users in between have the keys of the store.
def KeyTaken (context : Context σ ρ) (calls : List (AuthCall σ)) : AuthenticationState → Prop
  | .awaitServiceRequest => True
  | .awaitAuthRequest cached _ => KeysStored context cached
  | .complete authenticated => ∃ key, AuthenticatedBy context calls authenticated key

omit [OpeningKey ρ] in
theorem step_keyTaken {past : List (AuthCall σ)} {state next : AuthenticationState}
    {call : AuthCall σ} (ran : History.run (AuthenticationState.step context) default past = some state)
    (taken : KeyTaken context past state)
    (stepped : AuthenticationState.step context state call = some next) :
    KeyTaken context (past ++ [call]) next := by
  cases step_some stepped with
  | ignored transport =>
      cases state with
      | awaitServiceRequest => trivial
      | awaitAuthRequest cached attempts => exact taken
      | complete authenticated =>
          obtain ⟨key, before, accepted, after, cached, attempts, request, publicKey, user, sig, rfl,
            facts⟩ := taken
          exact ⟨key, before, accepted, after ++ [call], cached, attempts, request, publicKey, user,
            sig, by simp, facts⟩
  | serviceAccepted requested =>
      intro user other
      cases other
  | refused => exact taken
  | resolved found =>
      intro user same
      cases same
      exact resolve_stored taken found
  | completed parsed service method found signed chosen accepted =>
      exact ⟨_, past, call, [], _, _, _, _, _, _, rfl, ran, parsed, method, signed, found,
        resolve_stored taken found, chosen, accepted, rfl⟩

end Keys

theorem Session.Begun.confined {provider : CryptoProvider σ ρ} {output : KeyExchangeOutput}
    {session : Session α σ ρ τ} (begun : session.Begun provider output options) :
    session.live.Confined options := by
  have starts := begun.startsFrom
  refine ⟨by simp [Session.live, LogConfined], ?_⟩
  intro phase found
  cases found
  refine ⟨_, rfl, starts.options, ?_⟩
  change TableConfined session.channels
  rw [starts.channels]
  intro localId channel stored
  simp at stored

/-- However an authenticated session begins and whatever its client sends, its runs do not depend
on what `spawn` would do with another command or environment than the options of the key allow,
and every shell was spawned as they want it. The options are those of the key that accepted the
signature of the client. -/
theorem forced_command_confined (server : Server σ ρ) (spawn : Bool) (authenticated : Authenticated)
    {provider : CryptoProvider σ ρ} {output : KeyExchangeOutput} {session : Session α σ ρ τ}
    (begun : session.Begun provider output authenticated.options) (turns : List (Turn τ)) :
    (∀ fallback, session.live.run server spawn
        (turns.map (Turn.guarded authenticated.options fallback)) =
      session.live.run server spawn turns) ∧
    (∀ localId command env terminal, .channel (.spawned localId command env terminal) ∈
        (session.live.run server spawn turns).link.log →
      Confined authenticated.options command env) ∧
    ∀ (context : AuthenticationState.Context σ ρ) calls,
      History.run (AuthenticationState.step context) default calls =
        some (.complete authenticated) →
      ∃ key, AuthenticatedBy context calls authenticated key ∧
        authenticated.options = key.options := by
  refine ⟨?_, ?_, ?_⟩
  · intro fallback
    exact Live.run_guarded server spawn turns begun.confined
  · intro localId command env terminal member
    exact (Live.run_confined server spawn turns begun.confined).log _ member
  · intro context calls completed
    have taken : KeyTaken context calls (.complete authenticated) :=
      History.run_invariant trivial step_keyTaken completed
    obtain ⟨key, authenticates⟩ := taken
    exact ⟨key, authenticates, authenticates.options_eq⟩

end Runs

section Clients

def uptimeUser : Authenticated where
  user := rootUser ⟨"root", by decide⟩
  options := { command := some "uptime" }

def requestPayload (name : String) (rest : Bytes) : Bytes :=
  MessageType.channelRequest.toByte :: (encodeU32 0 ++ encodeBytes (strBytes name) ++
    encodeBool false ++ rest)

def quietTurn (payload : Bytes) : Turn Unit := { plainTurn payload 0 with writes := [] }

-- The client opens a channel, sets one variable that is allowed and one that is not, and asks for a
-- terminal, for a command of its own and for a shell.
def uptimeTurns : List (Turn Unit) :=
  [plainTurn (MessageType.channelOpen.toByte :: (encodeBytes (strBytes "session") ++ encodeU32 0 ++
      encodeU32 1024 ++ encodeU32 1024)) 32,
    quietTurn (requestPayload "env" (encodeBytes (strBytes "LC_ALL") ++ encodeBytes (strBytes "C"))),
    quietTurn (requestPayload "env" (encodeBytes (strBytes "PATH") ++ encodeBytes (strBytes "/"))),
    quietTurn (requestPayload "pty-req" (encodeBytes (strBytes "vt") ++ encodeU32 80 ++
      encodeU32 24 ++ encodeU32 0 ++ encodeU32 0 ++ encodeBytes [0])),
    quietTurn (requestPayload "exec" (encodeBytes (strBytes "id"))),
    plainTurn (requestPayload "shell" []) 24]

def plainOutput : KeyExchangeOutput where
  identities := plainLines
  hostKey := { pkcs8 := [], key := plainHostKey }
  strictKx := none
  sessionId := plainState.sessionId
  keys := { clientToServer := (plainSide 0 0).source, serverToClient := (plainSide 0 0).source }
  postQuantumKx := true

def uptimeSession : Session String PlainSealer PlainOpener Unit where
  provider := plainProvider
  conn := .new { reads := [], writes := [], flushes := [] } "192.0.2.1:22"
    plainProvider.secureRandom
  kx := .new plainOutput.sessionId plainOutput.strictKx plainOutput.identities ⟨plainHostKey⟩
  channels := {}
  postQuantumKx := true
  options := uptimeUser.options

def spawnedWith (log : List (Act σ τ)) : List (Option String × List (String × String)) :=
  log.filterMap fun act =>
    match act with
    | .channel (.spawned _ command env _) => some (command, env)
    | _ => none

set_option maxRecDepth 20000 in
theorem forced_command_confined_uptime :
    spawnedWith (uptimeSession.live.run plainServer false uptimeTurns).link.log =
        [(some "uptime", [("LC_ALL", "C")])] ∧
      (∀ fallback, uptimeSession.live.run plainServer false
          (uptimeTurns.map (Turn.guarded uptimeUser.options fallback)) =
        uptimeSession.live.run plainServer false uptimeTurns) ∧
      ∃ key, AuthenticatedBy
          (plainContext [AuthenticationState.rootKey] fun _ _ _ => false)
          AuthenticationState.rootCalls uptimeUser key ∧
        key.options.command = some "uptime" := by
  have started : Session.new plainOutput uptimeSession.conn plainServer.provider uptimeUser.options =
      .ok uptimeSession := rfl
  obtain ⟨guarded, _, keyed⟩ :=
    forced_command_confined plainServer false uptimeUser (.inProcess started) uptimeTurns
  refine ⟨by decide +kernel, guarded, ?_⟩
  obtain ⟨key, authenticates, options⟩ :=
    keyed (plainContext [AuthenticationState.rootKey] fun _ _ _ => false)
      AuthenticationState.rootCalls rfl
  exact ⟨key, authenticates, by rw [← options]; rfl⟩

end Clients

end Oxish
