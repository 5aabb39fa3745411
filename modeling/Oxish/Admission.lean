import Oxish.Accept
import Oxish.KeyExchangeSilence
import Oxish.Lib.History
import Oxish.ServerCore

/-!
How many clients a server serves before they are authenticated, and for how long. Every task that
has not got past its authentication holds one of the permits, no other task does, and a timer runs
for each of them.
-/

namespace Oxish

open Stateful

variable {α σ ρ τ : Type} [SealingKey σ] [OpeningKey ρ]

def TaskStage.unauthenticated : TaskStage τ → Bool
  | .identifying | .connected (.exchanging _) | .connected (.authenticating _ _) | .refusing _ =>
    true
  | _ => false

namespace Task

section Phases

theorem exchangeTurn_phase {provider : CryptoProvider σ ρ} {state : InitialKeyExchangeState}
    {link last : Link α σ ρ τ} {phase : Phase τ}
    (done : exec (Server.exchangeTurn provider state) link = (.ok phase, last)) :
    (∃ next, phase = .exchanging next) ∨ ∃ kx, phase = .authenticating kx default := by
  unfold Server.exchangeTurn at done
  obtain ⟨packet, _, _, done⟩ := exec_bind_ok.mp done
  obtain ⟨⟨next, output⟩, _, _, done⟩ := exec_bind_ok.mp done
  cases output with
  | none =>
      obtain ⟨_, _, _, done⟩ := exec_bind_ok.mp done
      cases done
      exact .inl ⟨next, rfl⟩
  | some established =>
      obtain ⟨_, _, _, done⟩ := exec_bind_ok.mp done
      obtain ⟨_, _, _, done⟩ := exec_bind_ok.mp done
      obtain ⟨_, _, _, done⟩ := exec_bind_ok.mp done
      obtain ⟨_, _, _, done⟩ := exec_bind_ok.mp done
      cases done
      exact .inr ⟨established.output, rfl⟩

def inSession : Phase τ → Prop
  | .authenticated _ _ | .running _ => True
  | _ => False

omit [SealingKey σ] [OpeningKey ρ] in
theorem startHere_running {provider : CryptoProvider σ ρ} {kx : KeyExchangeOutput}
    {options : KeyOptions} {link last : Link α σ ρ τ} {phase : Phase τ}
    (done : exec (Server.startHere provider kx options) link = (.ok phase, last)) :
    ∃ running, phase = .running running := by
  rw [Server.startHere, exec_mk] at done
  split at done
  · cases done
    exact ⟨_, rfl⟩
  · cases done

theorem startElsewhere_running [SocketAddr α] {provider : CryptoProvider σ ρ}
    {kx : KeyExchangeOutput} {options : KeyOptions} {link last : Link α σ ρ τ} {phase : Phase τ}
    (done : exec (Server.startElsewhere provider kx options) link = (.ok phase, last)) :
    ∃ running, phase = .running running := by
  rw [Server.startElsewhere, exec_mk] at done
  split at done
  · cases done
  · cases done
    exact ⟨_, rfl⟩

theorem phaseTurn_running [SocketAddr α] {server : Server σ ρ} {spawn : Bool} {turn : Turn τ}
    {phase next : Phase τ} {link last : Link α σ ρ τ} (inSession : inSession phase)
    (done : exec (server.phaseTurn spawn turn phase) link = (.ok (some next), last)) :
    ∃ running, next = .running running := by
  cases phase with
  | exchanging state => exact inSession.elim
  | authenticating kx state => exact inSession.elim
  | authenticated kx authenticated =>
      unfold Server.phaseTurn at done
      dsimp only at done
      split at done
      · obtain ⟨started, _, ran, done⟩ := exec_bind_ok.mp done
        cases done
        exact startElsewhere_running ran
      · obtain ⟨started, _, ran, done⟩ := exec_bind_ok.mp done
        cases done
        exact startHere_running ran
  | running running =>
      obtain ⟨turned, _, _, done⟩ := exec_bind_ok.mp done
      rw [exec_pure] at done
      have same := Except.ok.inj (Prod.mk.inj done).1
      obtain ⟨running, _, rfl⟩ := Option.map_eq_some_iff.mp same
      exact ⟨running, rfl⟩

end Phases

section Moves

variable [SocketAddr α] (server : Server σ ρ) (spawn : Bool)

inductive Ends (turn : Turn τ) (link : Link α σ ρ τ) : TaskStage τ → Link α σ ρ τ → Prop
  | identifying {halt : Halt} {last : Link α σ ρ τ}
      (ran : exec (Trace.drive Connection.identify) (link.supply turn) = (.error halt, last)) :
      Ends turn link .identifying last
  | exchanging {state : InitialKeyExchangeState} {halt : Halt} {last : Link α σ ρ τ}
      (ran : exec (Server.exchangeTurn (server.provider.drawing turn.draws) state) (link.supply turn) =
        (.error halt, last)) :
      Ends turn link (.connected (.exchanging state)) last
  | authenticating {kx : KeyExchangeOutput} {state : AuthenticationState} {halt : Halt}
      {last : Link α σ ρ τ}
      (ran : exec (authenticateReply server kx state) (link.supply turn) = (.error halt, last)) :
      Ends turn link (.connected (.authenticating kx state)) last
  | verifying {kx : KeyExchangeOutput} {state : AuthenticationState} {packet : IncomingPacket}
      {last : Link α σ ρ τ}
      (ran : exec (Trace.drive Connection.receive) (link.supply turn) = (.ok packet, last)) :
      Ends turn link (.connected (.authenticating kx state)) last
  | session {phase : Phase τ} {outcome : Except Halt (Option (Phase τ))} {last : Link α σ ρ τ}
      (inSession : inSession phase)
      (ran : exec (server.phaseTurn spawn turn phase) (link.supply turn) = (outcome, last)) :
      Ends turn link (.connected phase) last
  | refusing {error : Error} {outcome : Except Halt Unit} {last : Link α σ ρ τ}
      (ran : exec (Trace.drive Connection.flush) (link.supply turn) = (outcome, last)) :
      Ends turn link (.refusing error) last

inductive Moves (now : Nat) (available : Bool) (task : Task α σ ρ τ) :
    TaskEvent τ → Task α σ ρ τ → Prop
  | acquired (fresh : task.stage = .accepted) :
      Moves now available task .acquire (task.acquire now available)
  | identified {turn : Turn τ} {exchange : HandshakeBuffer} {identities : Identities}
      {link : Link α σ ρ τ} (stage : task.stage = .identifying)
      (ran : exec (Trace.drive Connection.identify) (task.link.supply turn) =
        (.ok (exchange, identities), link)) :
      Moves now available task (.turn turn) { task with
        link, stage := .connected (.exchanging (.new exchange identities server.hostKeys)) }
  | exchanged {turn : Turn τ} {state next : InitialKeyExchangeState} {link : Link α σ ρ τ}
      (stage : task.stage = .connected (.exchanging state))
      (ran : exec (Server.exchangeTurn (server.provider.drawing turn.draws) state)
        (task.link.supply turn) = (.ok (.exchanging next), link)) :
      Moves now available task (.turn turn) { task with link, stage := .connected (.exchanging next) }
  | established {turn : Turn τ} {state : InitialKeyExchangeState} {kx : KeyExchangeOutput}
      {link : Link α σ ρ τ} (stage : task.stage = .connected (.exchanging state))
      (ran : exec (Server.exchangeTurn (server.provider.drawing turn.draws) state)
        (task.link.supply turn) = (.ok (.authenticating kx default), link)) :
      Moves now available task (.turn turn) { task with
        link, stage := .connected (.authenticating kx default),
        timer := some (now + authenticateSeconds) }
  | replied {turn : Turn τ} {kx : KeyExchangeOutput} {state next : AuthenticationState}
      {link : Link α σ ρ τ} (stage : task.stage = .connected (.authenticating kx state))
      (unfinished : ∀ authenticated, next ≠ .complete authenticated)
      (ran : exec (authenticateReply server kx state) (task.link.supply turn) =
        (.ok (.ok next), link)) :
      Moves now available task (.turn turn) { task with
        link, stage := .connected (.authenticating kx next) }
  | welcomed {turn : Turn τ} {kx : KeyExchangeOutput} {state : AuthenticationState}
      {authenticated : Authenticated} {link : Link α σ ρ τ}
      (stage : task.stage = .connected (.authenticating kx state))
      (ran : exec (authenticateReply server kx state) (task.link.supply turn) =
        (.ok (.ok (.complete authenticated)), link)) :
      Moves now available task (.turn turn) {
        link, stage := .connected (.authenticated kx authenticated) }
  | continued {turn : Turn τ} {phase : Phase τ} {running : Running τ} {link : Link α σ ρ τ}
      (stage : task.stage = .connected phase) (inSession : inSession phase)
      (ran : exec (server.phaseTurn spawn turn phase) (task.link.supply turn) =
        (.ok (some (.running running)), link)) :
      Moves now available task (.turn turn) { task with link, stage := .connected (.running running) }
  | refused {turn : Turn τ} {kx : KeyExchangeOutput} {state : AuthenticationState} {error : Error}
      {link : Link α σ ρ τ} (stage : task.stage = .connected (.authenticating kx state))
      (ran : exec (authenticateReply server kx state) (task.link.supply turn) =
        (.ok (.error error), link)) :
      Moves now available task (.turn turn) (refuse now error (Connection.disconnectFor error) link)
  | expired {turn : Turn τ} {cut : Cut} {kx : KeyExchangeOutput} {state : AuthenticationState}
      {link : Link α σ ρ τ} (stage : task.stage = .connected (.authenticating kx state))
      (ends : Ends server spawn turn task.link task.stage link) :
      Moves now available task (.expire turn cut) (refuse now timedOut timedOutDisconnect link)
  | finished {event : TaskEvent τ} {turn : Turn τ} {link : Link α σ ρ τ}
      (outcome : Except AcceptError Unit) (later : event ≠ .acquire)
      (ends : Ends server spawn turn task.link task.stage link) :
      Moves now available task event (finish link outcome)

variable {server spawn} {now : Nat} {available : Bool} {task next : Task α σ ρ τ}

omit [SealingKey σ] [OpeningKey ρ] [SocketAddr α] in
theorem interrupted_eq_some {β : Type} {step : Trace α σ ρ τ β} {link last : Link α σ ρ τ} :
    interrupted step link = some last ↔ exec step link = (.error .pending, last) := by
  unfold interrupted
  constructor
  · intro cut
    split at cut
    · rename_i ran
      cases cut
      exact ran
    · cases cut
  · intro ran
    rw [ran]

theorem identifyTurn_moves {turn : Turn τ} (stage : task.stage = .identifying)
    (turned : task.identifyTurn server turn = some next) :
    Moves server spawn now available task (.turn turn) next := by
  unfold identifyTurn at turned
  split at turned
  · rename_i ran
    cases turned
    exact .identified stage ran
  · rename_i ran
    cases turned
    exact .finished _ (fun other => by cases other) (by rw [stage]; exact .identifying ran)
  · cases turned

theorem exchangeTurn_moves {turn : Turn τ} {state : InitialKeyExchangeState}
    (stage : task.stage = .connected (.exchanging state))
    (turned : task.exchangeTurn server now state turn = some next) :
    Moves server spawn now available task (.turn turn) next := by
  unfold exchangeTurn at turned
  split at turned
  · rename_i kx later link ran
    cases turned
    obtain ⟨_, other⟩ | ⟨_, same⟩ := exchangeTurn_phase ran
    · cases other
    · cases same
      exact .established stage ran
  · rename_i phase link unsettled ran
    cases turned
    obtain ⟨later, rfl⟩ | ⟨kx, rfl⟩ := exchangeTurn_phase ran
    · exact .exchanged stage ran
    · exact (unsettled kx default rfl).elim
  · rename_i ran
    cases turned
    exact .finished _ (fun other => by cases other) (by rw [stage]; exact .exchanging ran)
  · cases turned

theorem authenticateTurn_moves {turn : Turn τ} {kx : KeyExchangeOutput}
    {state : AuthenticationState} (stage : task.stage = .connected (.authenticating kx state))
    (turned : task.authenticateTurn server now kx state turn = some next) :
    Moves server spawn now available task (.turn turn) next := by
  unfold authenticateTurn at turned
  split at turned
  · rename_i ran
    cases turned
    exact .welcomed stage ran
  · rename_i later link unfinished ran
    cases turned
    exact .replied stage (fun authenticated is => unfinished authenticated is) ran
  · rename_i ran
    cases turned
    exact .refused stage ran
  · rename_i ran
    cases turned
    exact .finished _ (fun other => by cases other) (by rw [stage]; exact .authenticating ran)
  · cases turned

theorem sessionTurn_moves {turn : Turn τ} {phase : Phase τ} (stage : task.stage = .connected phase)
    (inSession : inSession phase) (turned : task.sessionTurn server spawn phase turn = some next) :
    Moves server spawn now available task (.turn turn) next := by
  unfold sessionTurn at turned
  split at turned
  · rename_i later link ran
    cases turned
    obtain ⟨running, rfl⟩ := phaseTurn_running inSession ran
    exact .continued stage inSession ran
  · rename_i ran
    cases turned
    exact .finished _ (fun other => by cases other) (by rw [stage]; exact .session inSession ran)
  · rename_i ran
    cases turned
    exact .finished _ (fun other => by cases other) (by rw [stage]; exact .session inSession ran)
  · cases turned

theorem turn_moves {turn : Turn τ} (turned : task.turn server spawn now turn = some next) :
    Moves server spawn now available task (.turn turn) next := by
  unfold Task.turn at turned
  split at turned
  · cases turned
  · cases turned
  · rename_i stage
    exact identifyTurn_moves stage turned
  · rename_i stage
    exact exchangeTurn_moves stage turned
  · rename_i stage
    exact authenticateTurn_moves stage turned
  · rename_i phase unexchanged unauthenticated stage
    refine sessionTurn_moves stage ?_ turned
    cases phase with
    | exchanging state => exact unexchanged state rfl
    | authenticating kx state => exact unauthenticated kx state rfl
    | authenticated kx authenticated => trivial
    | running running => trivial
  · rename_i error stage
    unfold refuseTurn at turned
    split at turned
    · cases turned
    · rename_i ran
      cases turned
      exact .finished _ (fun other => by cases other) (by rw [stage]; exact .refusing ran)

omit [SealingKey σ] [SocketAddr α] in
theorem verifying_received {kx : KeyExchangeOutput} {state : AuthenticationState}
    {link last : Link α σ ρ τ} (cut : verifying server kx state link = some last) :
    ∃ packet, exec (Trace.drive Connection.receive) link = (.ok packet, last) := by
  unfold verifying at cut
  split at cut
  · rename_i packet link ran
    obtain ⟨_, same⟩ := Option.ite_none_right_eq_some.mp cut
    cases same
    exact ⟨packet, ran⟩
  · cases cut

theorem expire_moves {turn : Turn τ} {cut : Cut}
    (expired : task.expire server now turn cut = some next) :
    Moves server spawn now available task (.expire turn cut) next := by
  unfold expire at expired
  dsimp only at expired
  split at expired
  · rename_i stage
    obtain ⟨link, ran, same⟩ := Option.bind_eq_some_iff.mp expired
    cases same
    have ends := interrupted_eq_some.mp ran
    exact .finished _ (fun other => by cases other) (by rw [stage]; exact .identifying ends)
  · rename_i stage
    obtain ⟨link, ran, same⟩ := Option.bind_eq_some_iff.mp expired
    cases same
    have ends := interrupted_eq_some.mp ran
    exact .finished _ (fun other => by cases other) (by rw [stage]; exact .exchanging ends)
  · rename_i stage
    obtain ⟨link, ran, same⟩ := Option.bind_eq_some_iff.mp expired
    cases same
    exact .expired stage (by rw [stage]; exact .authenticating (interrupted_eq_some.mp ran))
  · rename_i stage
    obtain ⟨link, ran, same⟩ := Option.bind_eq_some_iff.mp expired
    cases same
    obtain ⟨packet, received⟩ := verifying_received ran
    exact .expired stage (by rw [stage]; exact .verifying received)
  · rename_i stage
    obtain ⟨link, ran, same⟩ := Option.bind_eq_some_iff.mp expired
    cases same
    have ends := interrupted_eq_some.mp ran
    exact .finished _ (fun other => by cases other) (by rw [stage]; exact .refusing ends)
  · cases expired

theorem step_moves {event : TaskEvent τ}
    (stepped : task.step server spawn now available event = some next) :
    Moves server spawn now available task event next := by
  cases event with
  | acquire =>
      rw [step] at stepped
      split at stepped
      · rename_i fresh
        cases stepped
        exact .acquired fresh
      · cases stepped
  | turn turn => exact turn_moves stepped
  | expire turn cut =>
      rw [step] at stepped
      obtain ⟨_, expired⟩ := Option.ite_none_right_eq_some.mp stepped
      exact expire_moves expired

end Moves

section Permits

/-- A task holds a permit and has a timer exactly until it is past its authentication. -/
structure Armed (task : Task α σ ρ τ) : Prop where
  permit : task.permit = task.stage.unauthenticated
  timer : task.timer.isSome = task.stage.unauthenticated

variable {task next : Task α σ ρ τ}

omit [SealingKey σ] [OpeningKey ρ] in
theorem armed_finish (link : Link α σ ρ τ) (outcome : Except AcceptError Unit) :
    (finish link outcome).Armed := ⟨rfl, rfl⟩

omit [OpeningKey ρ] in
theorem armed_refuse (now : Nat) (error : Error) (disconnect : Disconnect) (link : Link α σ ρ τ) :
    (refuse now error disconnect link).Armed := by
  unfold refuse
  dsimp only
  split
  · exact ⟨rfl, rfl⟩
  · exact armed_finish _ _

omit [SealingKey σ] [OpeningKey ρ] in
theorem Armed.of_same (armed : task.Armed) (permit : next.permit = task.permit)
    (timer : next.timer = task.timer)
    (same : next.stage.unauthenticated = task.stage.unauthenticated) : next.Armed :=
  ⟨by rw [permit, armed.permit, same], by rw [timer, armed.timer, same]⟩

variable [SocketAddr α] {server : Server σ ρ} {spawn available : Bool} {now : Nat}
  {event : TaskEvent τ}

theorem Armed.move (armed : task.Armed)
    (moves : Moves server spawn now available task event next) : next.Armed := by
  cases moves with
  | acquired fresh =>
      unfold acquire
      split
      · exact ⟨rfl, rfl⟩
      · exact armed_finish _ _
  | identified stage | exchanged stage | replied stage =>
      exact armed.of_same rfl rfl (by rw [stage]; rfl)
  | established stage ran =>
      have held := armed.permit
      rw [stage] at held
      exact ⟨held, rfl⟩
  | welcomed stage ran => exact ⟨rfl, rfl⟩
  | @continued turn phase running link stage inSession ran =>
      refine armed.of_same rfl rfl ?_
      rw [stage]
      cases phase with
      | exchanging state => exact inSession.elim
      | authenticating kx state => exact inSession.elim
      | authenticated kx authenticated => rfl
      | running running => rfl
  | refused | expired => exact armed_refuse _ _ _ _
  | finished => exact armed_finish _ _

theorem Armed.permit_of_next (armed : task.Armed)
    (moves : Moves server spawn now available task event next) (held : next.permit = true) :
    task.permit = true ∨ available = true := by
  have authenticating {kx : KeyExchangeOutput} {state : AuthenticationState}
      (stage : task.stage = .connected (.authenticating kx state)) : task.permit = true := by
    rw [armed.permit, stage]
    rfl
  cases moves with
  | acquired fresh =>
      by_cases free : available = true
      · exact .inr free
      · rw [acquire, if_neg free] at held
        cases held
  | identified | exchanged | established | replied | continued => exact .inl held
  | refused stage | expired stage => exact .inl (authenticating stage)
  | welcomed | finished => cases held

end Permits

section Timers

def budget : TaskStage τ → Option Nat
  | .identifying | .connected (.exchanging _) => some exchangeSeconds
  | .connected (.authenticating _ _) => some (exchangeSeconds + authenticateSeconds)
  | .refusing _ => some (exchangeSeconds + authenticateSeconds + refuseSeconds)
  | _ => none

-- The timer is not overdue, and it leaves no more time than the stages so far.
def Timed (since now : Nat) (task : Task α σ ρ τ) : Prop :=
  ∀ seconds, budget task.stage = some seconds →
    ∃ due, task.timer = some due ∧ now ≤ due ∧ due ≤ since + seconds

variable {since now : Nat} {task next : Task α σ ρ τ}

omit [SealingKey σ] [OpeningKey ρ] in
theorem timed_untimed (untimed : budget task.stage = none) : task.Timed since now := by
  intro seconds other
  rw [untimed] at other
  cases other

omit [SealingKey σ] [OpeningKey ρ] in
theorem Timed.of_same (timed : task.Timed since now) (timer : next.timer = task.timer)
    (same : budget next.stage = budget task.stage) : next.Timed since now := by
  intro seconds left
  rw [same] at left
  rw [timer]
  exact timed seconds left

omit [SealingKey σ] [OpeningKey ρ] in
theorem Timed.pass (timed : task.Timed since now) (served : task.due now = false) :
    task.Timed since (now + 1) := by
  intro seconds left
  obtain ⟨due, is, _, within⟩ := timed seconds left
  have later : ¬ due ≤ now := by
    unfold Task.due at served
    rw [is] at served
    exact of_decide_eq_false served
  exact ⟨due, is, by omega, within⟩

omit [OpeningKey ρ] in
theorem Timed.refuse {kx : KeyExchangeOutput} {state : AuthenticationState}
    (timed : task.Timed since now) (stage : task.stage = .connected (.authenticating kx state))
    (error : Error) (disconnect : Disconnect) (link : Link α σ ρ τ) :
    (refuse now error disconnect link).Timed since now := by
  obtain ⟨due, _, soon, within⟩ := timed _ (by rw [stage]; rfl)
  unfold Task.refuse
  dsimp only
  split
  · intro seconds left
    cases left
    exact ⟨_, rfl, by omega, by omega⟩
  · exact timed_untimed rfl

variable [SocketAddr α] {server : Server σ ρ} {spawn available : Bool} {event : TaskEvent τ}

theorem timed_acquired (moves : Moves server spawn now available task .acquire next) :
    next.Timed now now := by
  cases moves with
  | acquired fresh =>
      unfold acquire
      split
      · intro seconds left
        cases left
        exact ⟨_, rfl, by omega, Nat.le_refl _⟩
      · exact timed_untimed rfl
  | finished outcome later ends => exact absurd rfl later

theorem Timed.move (timed : task.Timed since now) (later : event ≠ .acquire)
    (moves : Moves server spawn now available task event next) : next.Timed since now := by
  cases moves with
  | acquired fresh => exact absurd rfl later
  | identified stage | exchanged stage | replied stage =>
      exact timed.of_same rfl (by rw [stage]; rfl)
  | established stage ran =>
      obtain ⟨due, _, soon, within⟩ := timed _ (by rw [stage]; rfl)
      intro seconds left
      cases left
      exact ⟨_, rfl, by omega, by omega⟩
  | welcomed | continued => exact timed_untimed rfl
  | refused stage | expired stage => exact timed.refuse stage _ _ _
  | finished => exact timed_untimed rfl

theorem Moves.not_accepted (moves : Moves server spawn now available task event next) :
    next.stage ≠ .accepted := by
  have refused (error : Error) (disconnect : Disconnect) (link : Link α σ ρ τ) :
      (refuse now error disconnect link).stage ≠ .accepted := by
    unfold refuse
    dsimp only
    split <;> exact fun other => by cases other
  cases moves with
  | acquired fresh =>
      unfold acquire
      split <;> exact fun other => by cases other
  | refused | expired => exact refused _ _ _
  | _ => exact fun other => by cases other

omit [SealingKey σ] [OpeningKey ρ] [SocketAddr α] in
theorem budget_of_unauthenticated {stage : TaskStage τ} (waiting : stage.unauthenticated = true) :
    ∃ seconds ≤ 91, budget stage = some seconds := by
  cases stage with
  | connected phase =>
      cases phase with
      | exchanging state => exact ⟨_, by decide, rfl⟩
      | authenticating kx state => exact ⟨_, by decide, rfl⟩
      | authenticated | running => cases waiting
  | identifying | refusing => exact ⟨_, by decide, rfl⟩
  | accepted | returned => cases waiting

omit [SealingKey σ] [OpeningKey ρ] [SocketAddr α] in
theorem Timed.le (timed : task.Timed since now) (waiting : task.stage.unauthenticated = true) :
    now ≤ since + 91 := by
  obtain ⟨seconds, short, left⟩ := budget_of_unauthenticated waiting
  obtain ⟨due, _, soon, within⟩ := timed seconds left
  omega

end Timers

section Service

omit [SealingKey σ] [OpeningKey ρ] in
theorem flushFor_shorter (rounds : Nat) {conn last : Connection α σ ρ} {value : Unit}
    (done : exec (Connection.flushFor rounds) conn = (.ok value, last)) :
    last.stream.flushes.length < conn.stream.flushes.length := by
  induction rounds generalizing conn with
  | zero => cases done
  | succ rounds ih =>
      unfold Connection.flushFor at done
      obtain ⟨bytes, _, shown, done⟩ := exec_bind_ok.mp done
      obtain ⟨rfl, _⟩ := Connection.buffered_ok shown
      split at done
      · obtain ⟨flushes, answers, rfl⟩ := Connection.pollFlush_ok done
        rw [answers]
        exact Nat.lt_succ_self _
      · obtain ⟨count, _, polled, done⟩ := exec_bind_ok.mp done
        obtain ⟨writes, _, rfl⟩ := Connection.pollWrite_ok polled
        obtain ⟨_, _, recorded, done⟩ := exec_bind_ok.mp done
        obtain ⟨write, _, rfl⟩ := Connection.recordWritten_ok recorded
        have shorter := ih done
        exact shorter

def flushes (link : Link α σ ρ τ) : Nat := link.conn.stream.flushes.length

variable {link last : Link α σ ρ τ}

omit [SealingKey σ] in
theorem receive_flushes {packet : IncomingPacket}
    (done : exec Connection.receive link.conn = (.ok packet, last.conn)) :
    flushes last = flushes link := by
  have kept := Keeps.last (@Connection.receive_outgoing _ _ _
    (fun outgoing => outgoing.2.flushes = link.conn.stream.flushes) _) link.conn rfl
  rw [done] at kept
  exact congrArg List.length kept

omit [SealingKey σ] [OpeningKey ρ] in
theorem handleKx_flushes {S β : Type} {handle : WriteState σ → Handled σ S (Option β)}
    {value : S × Option β} (done : exec (Trace.handleKx handle) link = (.ok value, last)) :
    flushes last = flushes link := by
  rw [Trace.exec_handleKx] at done
  split at done <;> cases done
  rfl

omit [OpeningKey ρ] in
theorem handleAuth_flushes {context : AuthenticationState.Context σ ρ}
    {state : AuthenticationState} {packet : IncomingPacket}
    {value : Except Error AuthenticationState}
    (done : exec (Trace.handleAuth context state packet) link = (.ok value, last)) :
    flushes last = flushes link := by
  rw [Trace.exec_handleAuth] at done
  split at done <;> cases done <;> rfl

theorem exchangeTurn_flushes {provider : CryptoProvider σ ρ}
    {state next : InitialKeyExchangeState}
    (done : exec (Server.exchangeTurn provider state) link = (.ok (.exchanging next), last)) :
    flushes last < flushes link := by
  unfold Server.exchangeTurn at done
  obtain ⟨packet, _, received, done⟩ := exec_bind_ok.mp done
  obtain ⟨⟨later, output⟩, _, handled, done⟩ := exec_bind_ok.mp done
  cases output with
  | none =>
      obtain ⟨_, _, flushed, done⟩ := exec_bind_ok.mp done
      cases done
      have shorter := flushFor_shorter _ (Trace.drive_ran flushed).1
      rwa [← receive_flushes (Trace.drive_ran received).1, ← handleKx_flushes handled]
  | some established =>
      obtain ⟨_, _, _, done⟩ := exec_bind_ok.mp done
      obtain ⟨_, _, _, done⟩ := exec_bind_ok.mp done
      obtain ⟨_, _, _, done⟩ := exec_bind_ok.mp done
      obtain ⟨_, _, _, done⟩ := exec_bind_ok.mp done
      cases done

theorem authenticateReply_flushes {server : Server σ ρ} {kx : KeyExchangeOutput}
    {state next : AuthenticationState}
    (done : exec (authenticateReply server kx state) link = (.ok (.ok next), last)) :
    flushes last < flushes link := by
  unfold authenticateReply at done
  obtain ⟨received, _, receiving, done⟩ := exec_bind_ok.mp done
  cases received with
  | error error => cases done
  | ok packet =>
      obtain ⟨handled, _, handling, done⟩ := exec_bind_ok.mp done
      obtain ⟨flushed, _, flushing, done⟩ := exec_bind_ok.mp done
      cases handled with
      | error error => cases done
      | ok value =>
          cases flushed with
          | error error => cases done
          | ok value =>
              cases done
              have shorter := flushFor_shorter _ (Drive.catching_ok (Trace.drive_ran flushing).1)
              rwa [← receive_flushes (Drive.catching_ok (Trace.drive_ran receiving).1),
                ← handleAuth_flushes handling]

variable [SocketAddr α] {server : Server σ ρ} {spawn : Bool} {now : Nat} {task : Task α σ ρ τ}

omit [SealingKey σ] [OpeningKey ρ] [SocketAddr α] in
theorem Armed.waiting (armed : task.Armed) (due : task.due now = true) :
    task.stage.unauthenticated = true := by
  rw [← armed.timer]
  unfold Task.due at due
  cases is : task.timer with
  | none =>
      rw [is] at due
      cases due
  | some moment => rfl

omit [SealingKey σ] [OpeningKey ρ] [SocketAddr α] in
theorem undue_later {seconds : Nat} (set : task.timer = some (now + seconds))
    (positive : 0 < seconds) : task.due now = false := by
  unfold Task.due
  rw [set]
  exact decide_eq_false (by omega)

omit [OpeningKey ρ] [SocketAddr α] in
theorem undue_refuse (error : Error) (disconnect : Disconnect) (link : Link α σ ρ τ) :
    (refuse now error disconnect link).due now = false := by
  unfold refuse
  dsimp only
  split
  · exact undue_later rfl (by decide)
  · rfl

/-- The step with which the runtime serves a task whose time is up and whose client is silent: what
the task can still do with the answers of the stream, or else the timeout. -/
def Serves (server : Server σ ρ) (spawn : Bool) (now : Nat) (quiet : Turn τ)
    (task : Task α σ ρ τ) (own : TaskEvent τ) (next : Task α σ ρ τ) : Prop :=
  (own = .turn quiet ∨ own = .expire quiet .stream) ∧
    ∀ available, task.step server spawn now available own = some next

-- After the step the task has more time, or it is nearer to the end.
def Advances (server : Server σ ρ) (spawn : Bool) (now : Nat) (quiet : Turn τ)
    (task : Task α σ ρ τ) : Prop :=
  ∃ own next, Serves server spawn now quiet task own next ∧
    (next.due now = false ∨ next.stage ≠ .identifying ∧
      (task.stage ≠ .identifying → flushes next.link < flushes task.link))

variable {quiet : Turn τ} {next : Task α σ ρ τ}

theorem advances_undue_turn (turned : task.turn server spawn now quiet = some next)
    (undue : next.due now = false) : Advances server spawn now quiet task :=
  ⟨.turn quiet, next, ⟨.inl rfl, fun _ => turned⟩, .inl undue⟩

theorem advances_turn (turned : task.turn server spawn now quiet = some next)
    (later : next.stage ≠ .identifying)
    (nearer : task.stage ≠ .identifying → flushes next.link < flushes task.link) :
    Advances server spawn now quiet task :=
  ⟨.turn quiet, next, ⟨.inl rfl, fun _ => turned⟩, .inr ⟨later, nearer⟩⟩

theorem advances_cut {β : Type} {step : Trace α σ ρ τ β} {last : Link α σ ρ τ}
    (after : Link α σ ρ τ → Task α σ ρ τ) (due : task.due now = true)
    (ran : exec step (task.link.supply quiet) = (.error .pending, last))
    (expires : task.expire server now quiet .stream =
      (interrupted step (task.link.supply quiet)).bind fun link => some (after link))
    (undue : (after last).due now = false) : Advances server spawn now quiet task := by
  rw [interrupted_eq_some.mpr ran] at expires
  exact ⟨.expire quiet .stream, after last,
    ⟨.inr rfl, fun _ => (if_pos due).trans expires⟩, .inl undue⟩

theorem advances_identifying (due : task.due now = true) (stage : task.stage = .identifying) :
    Advances server spawn now quiet task := by
  have turned : task.turn server spawn now quiet = task.identifyTurn server quiet := by
    unfold Task.turn
    rw [stage]
  rw [identifyTurn] at turned
  cases ran : exec (Trace.drive Connection.identify) (task.link.supply quiet) with
  | mk outcome last =>
      rw [ran] at turned
      cases outcome with
      | ok found => exact advances_turn turned (fun other => by cases other) (absurd stage)
      | error halt =>
          cases halt with
          | stopped stop => exact advances_undue_turn turned rfl
          | pending =>
              refine advances_cut (finish · (.error (.message "key exchange timed out"))) due ran ?_ rfl
              unfold expire
              rw [stage]
              rfl

theorem advances_refusing {error : Error} (due : task.due now = true)
    (stage : task.stage = .refusing error) : Advances server spawn now quiet task := by
  have turned : task.turn server spawn now quiet = task.refuseTurn error quiet := by
    unfold Task.turn
    rw [stage]
  rw [refuseTurn] at turned
  cases ran : exec (Trace.drive Connection.flush) (task.link.supply quiet) with
  | mk outcome last =>
      rw [ran] at turned
      cases outcome with
      | ok value => exact advances_undue_turn turned rfl
      | error halt =>
          cases halt with
          | stopped stop => exact advances_undue_turn turned rfl
          | pending =>
              refine advances_cut
                (finish · (.error (.context "authentication failed" (.error error)))) due ran ?_ rfl
              unfold expire
              rw [stage]
              rfl

omit [SealingKey σ] [OpeningKey ρ] [SocketAddr α] in
theorem supply_flushes (silent : quiet.flushes = []) :
    flushes (link.supply quiet) = flushes link := by
  unfold flushes Link.supply
  rw [silent, List.append_nil]

theorem advances_exchanging {state : InitialKeyExchangeState} (due : task.due now = true)
    (silent : quiet.flushes = []) (stage : task.stage = .connected (.exchanging state)) :
    Advances server spawn now quiet task := by
  have turned : task.turn server spawn now quiet = task.exchangeTurn server now state quiet := by
    unfold Task.turn
    rw [stage]
  rw [exchangeTurn] at turned
  cases ran : exec (Server.exchangeTurn (server.provider.drawing quiet.draws) state)
      (task.link.supply quiet) with
  | mk outcome last =>
      rw [ran] at turned
      cases outcome with
      | ok phase =>
          obtain ⟨later, rfl⟩ | ⟨kx, rfl⟩ := exchangeTurn_phase ran
          · have nearer := exchangeTurn_flushes ran
            rw [supply_flushes silent] at nearer
            exact advances_turn turned (fun other => by cases other) fun _ => nearer
          · exact advances_undue_turn turned (undue_later rfl (by decide))
      | error halt =>
          cases halt with
          | stopped stop => exact advances_undue_turn turned rfl
          | pending =>
              refine advances_cut (finish · (.error (.message "key exchange timed out"))) due ran ?_ rfl
              unfold expire
              rw [stage]
              rfl

theorem advances_authenticating {kx : KeyExchangeOutput} {state : AuthenticationState}
    (due : task.due now = true) (silent : quiet.flushes = [])
    (stage : task.stage = .connected (.authenticating kx state)) :
    Advances server spawn now quiet task := by
  have turned : task.turn server spawn now quiet =
      task.authenticateTurn server now kx state quiet := by
    unfold Task.turn
    rw [stage]
  rw [authenticateTurn] at turned
  cases ran : exec (authenticateReply server kx state) (task.link.supply quiet) with
  | mk outcome last =>
      rw [ran] at turned
      cases outcome with
      | ok replied =>
          cases replied with
          | ok next =>
              have nearer := authenticateReply_flushes ran
              rw [supply_flushes silent] at nearer
              cases next with
              | complete authenticated => exact advances_undue_turn turned rfl
              | _ => exact advances_turn turned (fun other => by cases other) fun _ => nearer
          | error error => exact advances_undue_turn turned (undue_refuse _ _ _)
      | error halt =>
          cases halt with
          | stopped stop => exact advances_undue_turn turned rfl
          | pending =>
              refine advances_cut (refuse now timedOut timedOutDisconnect) due ran ?_
                (undue_refuse _ _ _)
              unfold expire
              rw [stage]
              rfl

theorem Armed.advances (armed : task.Armed) (due : task.due now = true)
    (silent : quiet.flushes = []) : Advances server spawn now quiet task := by
  have waiting := armed.waiting due
  cases stage : task.stage with
  | accepted | returned =>
      rw [stage] at waiting
      cases waiting
  | identifying => exact advances_identifying due stage
  | refusing error => exact advances_refusing due stage
  | connected phase =>
      cases phase with
      | exchanging state => exact advances_exchanging due silent stage
      | authenticating kx state => exact advances_authenticating due silent stage
      | authenticated | running =>
          rw [stage] at waiting
          cases waiting

end Service

end Task

namespace Hub

variable [SocketAddr α] {server : Server σ ρ} {spawn : Bool} {hub next : Hub α σ ρ τ}
  {event : HubEvent α τ}

def freshTask (stream : Stream) (addr : α) (secureRandom : SecureRandom) : Task α σ ρ τ where
  link := { conn := .new stream addr secureRandom }

inductive Became (server : Server σ ρ) (spawn : Bool) (hub : Hub α σ ρ τ) (event : HubEvent α τ)
    (index : Nat) (after : Task α σ ρ τ) : Prop
  | fresh {stream : Stream} {addr : α} {secureRandom : SecureRandom}
      (arrived : event = .arrived stream addr secureRandom) (last : index = hub.tasks.length)
      (is : after = freshTask stream addr secureRandom)
  | same (found : hub.tasks[index]? = some after) (aside : ∀ own, event ≠ .task index own)
  | moved {before : Task α σ ρ τ} {own : TaskEvent τ} (found : hub.tasks[index]? = some before)
      (mine : event = .task index own)
      (moves : before.Moves server spawn hub.now (0 < hub.permits) own after)

theorem task_step {index : Nat} {own : TaskEvent τ}
    (stepped : hub.step server spawn (.task index own) = some next) :
    ∃ task moved, hub.tasks[index]? = some task ∧
      task.Moves server spawn hub.now (0 < hub.permits) own moved ∧
      next = { hub with
        tasks := hub.tasks.set index moved
        permits := hub.permits + task.permit.toNat - moved.permit.toNat } := by
  obtain ⟨task, found, stepped⟩ := Option.bind_eq_some_iff.mp stepped
  obtain ⟨moved, moves, same⟩ := Option.bind_eq_some_iff.mp stepped
  cases same
  exact ⟨task, moved, found, Task.step_moves moves, rfl⟩

theorem step_became (stepped : hub.step server spawn event = some next) {index : Nat}
    {after : Task α σ ρ τ} (found : next.tasks[index]? = some after) :
    Became server spawn hub event index after := by
  cases event with
  | arrived stream addr secureRandom =>
      cases stepped
      dsimp only at found
      by_cases old : index < hub.tasks.length
      · rw [List.getElem?_append_left old] at found
        refine .same found ?_
        intro own other
        cases other
      · have here : index = hub.tasks.length := by
          obtain ⟨bound, _⟩ := List.getElem?_eq_some_iff.mp found
          rw [List.length_append, List.length_singleton] at bound
          omega
        subst here
        rw [List.getElem?_append_right (Nat.le_refl _), Nat.sub_self] at found
        cases found
        exact .fresh rfl rfl rfl
  | acceptFailed error =>
      cases stepped
      refine .same found ?_
      intro own other
      cases other
  | passed =>
      cases stepped
      refine .same found ?_
      intro own other
      cases other
  | task place own =>
      obtain ⟨task, moved, stood, moves, same⟩ := task_step stepped
      cases same
      dsimp only at found
      rw [List.getElem?_set] at found
      by_cases here : place = index
      · subst here
        have bound := (List.getElem?_eq_some_iff.mp stood).1
        rw [if_pos rfl, if_pos bound] at found
        cases found
        exact .moved stood rfl moves
      · rw [if_neg here] at found
        refine .same found ?_
        intro own other
        cases other
        exact here rfl

/-- What holds of every task that arrives, stays true while others move and is kept by the task's
own moves holds of all tasks along a run. -/
theorem tasks_along {P : List (HubEvent α τ) → Nat → Task α σ ρ τ → Prop}
    {events : List (HubEvent α τ)}
    (fresh : ∀ {past index stream addr secureRandom}, .arrived stream addr secureRandom ∈ events →
      P past index (freshTask stream addr secureRandom))
    (older : ∀ {past event index task}, P past index task → P (past ++ [event]) index task)
    (kept : ∀ {past rest middle index own before after}, events = past ++ .task index own :: rest →
      History.run (Hub.step server spawn) {} past = some middle →
      middle.tasks[index]? = some before → P past index before →
      before.Moves server spawn middle.now (0 < middle.permits) own after → P past index after)
    (ran : History.run (Hub.step server spawn) {} events = some hub) {index : Nat}
    {task : Task α σ ρ τ} (found : hub.tasks[index]? = some task) : P events index task := by
  suffices every : ∀ past rest hub, events = past ++ rest →
      History.run (Hub.step server spawn) {} past = some hub →
      ∀ index task, hub.tasks[index]? = some task → P past index task from
    every events [] hub (List.append_nil _).symm ran index task found
  intro past
  induction past using List.reverseRecOn with
  | nil =>
      intro rest hub _ ran index task found
      cases ran
      cases found
  | append_singleton past event ih =>
      intro rest hub split ran index task found
      obtain ⟨middle, reached, stepped⟩ := History.run_snoc_some ran
      rw [List.append_assoc] at split
      have before := ih _ middle split reached
      refine older ?_
      cases step_became stepped found with
      | fresh arrived last is =>
          subst is
          refine fresh ?_
          rw [split, arrived]
          simp
      | same stood aside => exact before index task stood
      | moved stood mine moves =>
          subst mine
          exact kept split reached stood (before index _ stood) moves

theorem tasks_invariant {P : Task α σ ρ τ → Prop}
    (fresh : ∀ stream addr secureRandom, P (freshTask stream addr secureRandom))
    (kept : ∀ {task next own now available}, P task →
      Task.Moves server spawn now available task own next → P next)
    {events : List (HubEvent α τ)}
    (ran : History.run (Hub.step server spawn) {} events = some hub) :
    ∀ task ∈ hub.tasks, P task := by
  intro task member
  obtain ⟨index, found⟩ := List.mem_iff_getElem?.mp member
  exact tasks_along (P := fun _ _ task => P task) (fun _ => fresh _ _ _) (fun holds => holds)
    (fun _ _ _ => kept) ran found

section Accounting

theorem armed_run {events : List (HubEvent α τ)}
    (ran : History.run (Hub.step server spawn) {} events = some hub) :
    ∀ task ∈ hub.tasks, task.Armed :=
  tasks_invariant (fun _ _ _ => ⟨rfl, rfl⟩) (fun armed moves => armed.move moves) ran

def Balanced (hub : Hub α σ ρ τ) : Prop :=
  hub.permits + hub.tasks.countP Task.permit = Server.authenticatingPermits

omit [SealingKey σ] [OpeningKey ρ] [SocketAddr α] in
theorem countP_permit_set {index : Nat} {task : Task α σ ρ τ}
    (found : hub.tasks[index]? = some task) (moved : Task α σ ρ τ) :
    (hub.tasks.set index moved).countP Task.permit + task.permit.toNat =
      hub.tasks.countP Task.permit + moved.permit.toNat := by
  obtain ⟨bound, is⟩ := List.getElem?_eq_some_iff.mp found
  rw [List.countP_set bound, is]
  cases held : task.permit with
  | false => cases moved.permit <;> simp
  | true =>
      have counted : 0 < hub.tasks.countP Task.permit :=
        List.countP_pos_iff.mpr ⟨task, List.mem_of_getElem? found, held⟩
      cases moved.permit with
      | false =>
          simp
          omega
      | true =>
          simp
          omega

theorem Balanced.step (balanced : hub.Balanced) (armed : ∀ task ∈ hub.tasks, task.Armed)
    (stepped : hub.step server spawn event = some next) : next.Balanced := by
  unfold Balanced at balanced ⊢
  cases event with
  | arrived stream addr secureRandom =>
      cases stepped
      rw [List.countP_append]
      exact balanced
  | acceptFailed error =>
      cases stepped
      exact balanced
  | passed =>
      cases stepped
      exact balanced
  | task index own =>
      obtain ⟨task, moved, found, moves, same⟩ := task_step stepped
      cases same
      have known := armed task (List.mem_of_getElem? found)
      have counted := countP_permit_set found moved
      have enough : moved.permit.toNat ≤ hub.permits + task.permit.toNat := by
        cases held : moved.permit with
        | false => exact Nat.zero_le _
        | true =>
            rcases known.permit_of_next moves held with before | free
            · rw [before]
              exact Nat.le_add_left _ _
            · exact Nat.le_trans (of_decide_eq_true free) (Nat.le_add_right _ _)
      dsimp only
      omega

theorem balanced_run {events : List (HubEvent α τ)}
    (ran : History.run (Hub.step server spawn) {} events = some hub) : hub.Balanced := by
  have start : Balanced ({} : Hub α σ ρ τ) := rfl
  refine @History.run_invariant _ _ _ {} (fun _ (hub : Hub α σ ρ τ) => hub.Balanced) start ?_ _ _ ran
  intro _ before event next reached balanced stepped
  exact balanced.step (armed_run reached) stepped

def unauthenticated (hub : Hub α σ ρ τ) : Nat :=
  hub.tasks.countP fun task => task.stage.unauthenticated

theorem permits_add {events : List (HubEvent α τ)}
    (ran : History.run (Hub.step server spawn) {} events = some hub) :
    hub.permits + hub.unauthenticated = Server.authenticatingPermits := by
  have same : hub.unauthenticated = hub.tasks.countP Task.permit := by
    refine List.countP_congr fun task member => ?_
    rw [(armed_run ran task member).permit]
  rw [same]
  exact balanced_run ran

end Accounting

section Clock

def Timed (bound : Nat) (hub : Hub α σ ρ τ) : Prop :=
  ∀ (index : Nat) (task : Task α σ ρ τ), hub.tasks[index]? = some task →
    ∃ since, since ≤ bound ∧ task.Timed since hub.now

omit [SealingKey σ] [OpeningKey ρ] [SocketAddr α] in
theorem Timed.mono {bound later : Nat} (timed : hub.Timed bound) (order : bound ≤ later) :
    hub.Timed later := by
  intro index task found
  obtain ⟨since, early, known⟩ := timed index task found
  exact ⟨since, Nat.le_trans early order, known⟩

theorem step_now (stepped : hub.step server spawn event = some next) :
    next.now = hub.now ∨ event = .passed ∧ next.tasks = hub.tasks ∧ next.now = hub.now + 1 := by
  cases event with
  | arrived stream addr secureRandom =>
      cases stepped
      exact .inl rfl
  | acceptFailed error =>
      cases stepped
      exact .inl rfl
  | passed =>
      cases stepped
      exact .inr ⟨rfl, rfl, rfl⟩
  | task index own =>
      obtain ⟨task, moved, _, _, same⟩ := task_step stepped
      cases same
      exact .inl rfl

-- The runtime gets to every timer that is due before another second is over.
def Served (hub : Hub α σ ρ τ) (event : HubEvent α τ) : Prop :=
  event = .passed → ∀ task ∈ hub.tasks, task.due hub.now = false

theorem Timed.step {bound : Nat} (timed : hub.Timed bound) (served : hub.Served event)
    (stepped : hub.step server spawn event = some next)
    (early : ∀ index, event = .task index .acquire → hub.now ≤ bound) : next.Timed bound := by
  intro index task found
  obtain same | ⟨passed, tasks, later⟩ := step_now stepped
  · rw [same]
    cases step_became stepped found with
    | fresh arrived last is =>
        subst is
        exact ⟨0, Nat.zero_le _, Task.timed_untimed rfl⟩
    | same stood aside => exact timed index task stood
    | @moved before own stood mine moves =>
        by_cases first : own = .acquire
        · subst first
          exact ⟨hub.now, early index mine, Task.timed_acquired moves⟩
        · obtain ⟨since, within, known⟩ := timed index before stood
          exact ⟨since, within, known.move first moves⟩
  · rw [tasks] at found
    obtain ⟨since, within, known⟩ := timed index task found
    rw [later]
    exact ⟨since, within, known.pass (served passed task (List.mem_of_getElem? found))⟩

structure Since (index since : Nat) (hub : Hub α σ ρ τ) : Prop where
  present : index < hub.tasks.length
  timed : ∀ task, hub.tasks[index]? = some task → task.stage ≠ .accepted ∧
    task.Timed since hub.now

theorem step_length (stepped : hub.step server spawn event = some next) :
    hub.tasks.length ≤ next.tasks.length := by
  cases event with
  | arrived stream addr secureRandom =>
      cases stepped
      rw [List.length_append]
      exact Nat.le_add_right _ _
  | acceptFailed error =>
      cases stepped
      exact Nat.le_refl _
  | passed =>
      cases stepped
      exact Nat.le_refl _
  | task index own =>
      obtain ⟨task, moved, _, _, same⟩ := task_step stepped
      cases same
      exact Nat.le_of_eq (List.length_set).symm

theorem since_acquire {index : Nat}
    (stepped : hub.step server spawn (.task index .acquire) = some next) :
    next.Since index hub.now := by
  obtain ⟨task, moved, found, moves, same⟩ := task_step stepped
  have present := (List.getElem?_eq_some_iff.mp found).1
  have length := step_length stepped
  refine ⟨by omega, ?_⟩
  intro after there
  cases same
  dsimp only at there
  rw [List.getElem?_set_self present] at there
  cases there
  exact ⟨moves.not_accepted, Task.timed_acquired moves⟩

theorem Since.step {index since : Nat} (timed : hub.Since index since) (served : hub.Served event)
    (stepped : hub.step server spawn event = some next) : next.Since index since := by
  have length := step_length stepped
  have present := timed.present
  refine ⟨by omega, ?_⟩
  intro task found
  obtain same | ⟨passed, tasks, later⟩ := step_now stepped
  · rw [same]
    cases step_became stepped found with
    | fresh arrived last is => omega
    | same stood aside => exact timed.timed task stood
    | @moved before own stood mine moves =>
        obtain ⟨asked, known⟩ := timed.timed before stood
        refine ⟨moves.not_accepted, known.move ?_ moves⟩
        rintro rfl
        cases moves with
        | acquired fresh => exact asked fresh
        | finished outcome later ends => exact later rfl
  · rw [tasks] at found
    obtain ⟨asked, known⟩ := timed.timed task found
    rw [later]
    exact ⟨asked, known.pass (served passed task (List.mem_of_getElem? found))⟩

/-- The timers of all tasks are served in time along the run. -/
def Prompt (server : Server σ ρ) (spawn : Bool) (start : Hub α σ ρ τ)
    (events : List (HubEvent α τ)) : Prop :=
  History.Throughout (Hub.step server spawn) start events Served

def promptly (server : Server σ ρ) (spawn : Bool) (hub : Hub α σ ρ τ) :
    List (HubEvent α τ) → Bool
  | [] => true
  | event :: rest =>
    (match event with
      | .passed => hub.tasks.all fun task => !task.due hub.now
      | _ => true) &&
    (match hub.step server spawn event with
      | some next => promptly server spawn next rest
      | none => true)

theorem prompt_of_promptly {events : List (HubEvent α τ)}
    (checked : promptly server spawn hub events = true) : Prompt server spawn hub events := by
  induction events generalizing hub with
  | nil => exact History.throughout_nil
  | cons event rest ih =>
      obtain ⟨here, onward⟩ := Bool.and_eq_true_iff.mp checked
      refine History.throughout_cons.mpr ⟨?_, ?_⟩
      · rintro rfl task member
        exact Bool.not_eq_true' _ |>.mp (List.all_eq_true.mp here task member)
      · intro next stepped
        rw [stepped] at onward
        exact ih onward

theorem Since.run {index since : Nat} {later : List (HubEvent α τ)} (timed : hub.Since index since)
    (prompt : Prompt server spawn hub later)
    (ran : History.run (Hub.step server spawn) hub later = some next) : next.Since index since :=
  History.always_of_throughout (P := Since index since) timed
    (fun served known stepped => known.step served stepped) prompt later [] next
    (List.append_nil _).symm ran

theorem Timed.run {bound : Nat} {later : List (HubEvent α τ)} (timed : hub.Timed bound)
    (prompt : Prompt server spawn hub later)
    (none : ∀ index, HubEvent.task index .acquire ∉ later)
    (ran : History.run (Hub.step server spawn) hub later = some next) : next.Timed bound := by
  have good : History.Throughout (Hub.step server spawn) hub later fun hub event =>
      hub.Served event ∧ ∀ index, event ≠ .task index .acquire := by
    intro before event after state split reached
    refine ⟨prompt before event after state split reached, ?_⟩
    rintro index rfl
    exact none index (split ▸ List.mem_append_right _ (.head _))
  refine History.always_of_throughout (P := Timed bound) timed ?_ good later [] next
    (List.append_nil _).symm ran
  intro hub event next settled known stepped
  exact known.step settled.1 stepped fun index asked => absurd asked (settled.2 index)

theorem timed_run {events : List (HubEvent α τ)} (prompt : Prompt server spawn {} events)
    (ran : History.run (Hub.step server spawn) {} events = some hub) : hub.Timed hub.now := by
  refine History.always_of_throughout (P := fun hub => Timed hub.now hub) ?_ ?_ prompt events []
    hub (List.append_nil _).symm ran
  · intro index task found
    cases found
  · intro hub event next served timed stepped
    have onward : hub.now ≤ next.now := by
      rcases step_now stepped with same | ⟨_, _, later⟩ <;> omega
    exact (timed.step served stepped fun _ _ => Nat.le_refl _).mono onward

end Clock

section Service

/-- Steps of one task and nothing else, with a stream that gives no more answers, after which the
task is not due. -/
def Relieved (server : Server σ ρ) (spawn : Bool) (hub : Hub α σ ρ τ) (index : Nat)
    (quiet : Turn τ) : Prop :=
  ∃ (steps : List (TaskEvent τ)) (last : Hub α σ ρ τ) (task : Task α σ ρ τ),
    (∀ own ∈ steps, own = .turn quiet ∨ own = .expire quiet .stream) ∧
    History.run (Hub.step server spawn) hub (steps.map (.task index)) = some last ∧
    last.now = hub.now ∧ last.tasks[index]? = some task ∧ task.due last.now = false

variable {index : Nat} {task after : Task α σ ρ τ} {quiet : Turn τ} {own : TaskEvent τ}

theorem step_serves (found : hub.tasks[index]? = some task)
    (serves : task.Serves server spawn hub.now quiet own after) :
    ∃ next, hub.step server spawn (.task index own) = some next ∧ next.now = hub.now ∧
      next.tasks[index]? = some after := by
  have stepped : hub.step server spawn (.task index own) = some { hub with
      tasks := hub.tasks.set index after
      permits := hub.permits + task.permit.toNat - after.permit.toNat } :=
    Option.bind_eq_some_iff.mpr ⟨task, found,
      Option.bind_eq_some_iff.mpr ⟨after, serves.2 _, rfl⟩⟩
  exact ⟨_, stepped, rfl, List.getElem?_set_self (List.getElem?_eq_some_iff.mp found).1⟩

theorem relieved_undue (found : hub.tasks[index]? = some task) (undue : task.due hub.now = false) :
    Relieved server spawn hub index quiet :=
  ⟨[], hub, task, fun _ member => absurd member List.not_mem_nil, rfl, rfl, found, undue⟩

theorem Relieved.cons (first : own = .turn quiet ∨ own = .expire quiet .stream)
    (stepped : hub.step server spawn (.task index own) = some next) (now : next.now = hub.now)
    (relieved : Relieved server spawn next index quiet) :
    Relieved server spawn hub index quiet := by
  obtain ⟨steps, last, task, quietly, ran, same, found, undue⟩ := relieved
  refine ⟨own :: steps, last, task, ?_, ?_, same.trans now, found, undue⟩
  · intro other member
    rcases List.mem_cons.mp member with rfl | member
    · exact first
    · exact quietly other member
  · rw [History.run, List.map_cons, List.foldlM_cons, stepped]
    exact ran

theorem relieved_identified (silent : quiet.flushes = [])
    (found : hub.tasks[index]? = some task) (armed : task.Armed)
    (identified : task.stage ≠ .identifying) : Relieved server spawn hub index quiet := by
  -- Every turn of such a task uses up an answer to a flush.
  induction left : Task.flushes task.link using Nat.strongRecOn generalizing hub task with
  | ind count ih =>
      cases due : task.due hub.now with
      | false => exact relieved_undue found due
      | true =>
          have advances : task.Advances server spawn hub.now quiet := armed.advances due silent
          obtain ⟨own, after, serves, outcome⟩ := advances
          obtain ⟨next, stepped, now, there⟩ := step_serves found serves
          refine Relieved.cons serves.1 stepped now ?_
          rcases outcome with undue | ⟨past, nearer⟩
          · exact relieved_undue there (now ▸ undue)
          · have fewer := nearer identified
            rw [left] at fewer
            exact ih _ fewer there (armed.move (Task.step_moves (serves.2 true))) past rfl

theorem relieved (silent : quiet.flushes = []) (found : hub.tasks[index]? = some task)
    (armed : task.Armed) : Relieved server spawn hub index quiet := by
  cases due : task.due hub.now with
  | false => exact relieved_undue found due
  | true =>
      have advances : task.Advances server spawn hub.now quiet := armed.advances due silent
      obtain ⟨own, after, serves, outcome⟩ := advances
      obtain ⟨next, stepped, now, there⟩ := step_serves found serves
      refine Relieved.cons serves.1 stepped now ?_
      rcases outcome with undue | ⟨past, _⟩
      · exact relieved_undue there (now ▸ undue)
      · exact relieved_identified silent there (armed.move (Task.step_moves (serves.2 true))) past

end Service

section Results

variable (server : Server σ ρ) (spawn : Bool) (events : List (HubEvent α τ))

/-- However the connections come and go, at most 32 of them are served before they are
authenticated: every such connection holds one permit and nothing else does. A connection is
turned away if and only if 32 others are being served so at that moment. -/
theorem admission_bounded
    (ran : History.run (Hub.step server spawn) {} events = some hub) :
    hub.permits + hub.unauthenticated = 32 ∧
    (∀ task ∈ hub.tasks, task.permit = task.stage.unauthenticated) ∧
    History.EveryStep (Hub.step server spawn) {} events fun before event after =>
      ∀ index, event = .task index .acquire → ∃ task : Task α σ ρ τ,
        after.tasks[index]? = some task ∧
        (before.unauthenticated < 32 → task.stage = .identifying) ∧
        (before.unauthenticated = 32 → task.stage =
          .returned (.error (.message "too many concurrent authentications"))) := by
  refine ⟨permits_add ran, fun task member => (armed_run ran task member).permit, ?_⟩
  rintro before event after state next split reached stepped index rfl
  have balance := permits_add reached
  obtain ⟨task, moved, found, moves, rfl⟩ := task_step stepped
  have here : (state.tasks.set index moved)[index]? = some moved := by
    rw [List.getElem?_set_self (List.getElem?_eq_some_iff.mp found).1]
  refine ⟨moved, here, ?_, ?_⟩
  · intro room
    have free : 0 < state.permits := by
      unfold Server.authenticatingPermits at balance
      omega
    cases moves with
    | finished outcome later ends => exact absurd rfl later
    | acquired fresh =>
        rw [Task.acquire, if_pos (decide_eq_true free)]
  · intro full
    have none : ¬ 0 < state.permits := by
      unfold Server.authenticatingPermits at balance
      omega
    cases moves with
    | finished outcome later ends => exact absurd rfl later
    | acquired fresh =>
        rw [Task.acquire, if_neg (by rw [decide_eq_false none]; exact Bool.false_ne_true)]
        rfl

/-- A timer that is due can be served at once, whatever the client has done: steps of that task
alone end it or set it a later timer. If every timer is served before another second passes, no
client keeps its permit for longer than 91 seconds: 30 for the key exchange, 60 for the
authentication and one to be told that it failed. So when nobody has asked for a permit for that
long, all 32 of them are there again. -/
theorem permits_return {middle : Hub α σ ρ τ} (later : List (HubEvent α τ))
    (reached : History.run (Hub.step server spawn) {} events = some middle)
    (ran : History.run (Hub.step server spawn) middle later = some hub) :
    (∀ index task, hub.tasks[index]? = some task → ∀ host draws,
      Relieved server spawn hub index { host, draws }) ∧
    (Prompt server spawn {} (events ++ later) →
      (∀ index rest task, later = .task index .acquire :: rest → hub.tasks[index]? = some task →
        task.permit = true → hub.now ≤ middle.now + 91) ∧
      ((∀ index, HubEvent.task index .acquire ∉ later) → middle.now + 91 < hub.now →
        hub.permits = 32)) := by
  have whole : History.run (Hub.step server spawn) {} (events ++ later) = some hub := by
    rw [History.run_append, reached]
    exact ran
  have armed := armed_run whole
  constructor
  · intro index task found host draws
    exact relieved rfl found (armed task (List.mem_of_getElem? found))
  intro prompt
  have served : Prompt server spawn middle later := prompt.later reached
  constructor
  · rintro index rest task rfl found held
    have since : hub.Since index middle.now := by
      rw [History.run, List.foldlM_cons] at ran
      obtain ⟨admitted, stepped, ran⟩ := Option.bind_eq_some_iff.mp ran
      exact (since_acquire stepped).run ((History.throughout_cons.mp served).2 admitted stepped) ran
    refine (since.timed task found).2.le ?_
    rw [← (armed task (List.mem_of_getElem? found)).permit, held]
  · intro none long
    have timed : hub.Timed middle.now := (timed_run prompt.before reached).run served none ran
    have nobody : hub.unauthenticated = 0 := by
      refine List.countP_eq_zero.mpr fun task member => ?_
      obtain ⟨index, found⟩ := List.mem_iff_getElem?.mp member
      obtain ⟨since, early, known⟩ := timed index task found
      intro waiting
      have soon := known.le waiting
      omega
    have total := permits_add whole
    rw [nobody] at total
    exact total

end Results

section Plain

def plainArrival : HubEvent String Unit :=
  .arrived { reads := [], writes := [], flushes := [] } "192.0.2.1:22" plainProvider.secureRandom

def crowd : List (HubEvent String Unit) :=
  List.replicate 33 plainArrival ++ (List.range 33).map fun index => .task index .acquire

theorem admission_bounded_crowd : ∃ hub : Hub String PlainSealer PlainOpener Unit,
    History.run (Hub.step plainServer false) {} crowd = some hub ∧ hub.permits = 0 ∧
      hub.unauthenticated = 32 := by
  have served : (History.run (Hub.step plainServer false) {} crowd).map Hub.permits = some 0 := rfl
  obtain ⟨hub, ran, none⟩ := Option.map_eq_some_iff.mp served
  have total := (admission_bounded plainServer false crowd ran).1
  exact ⟨hub, ran, none, by omega⟩

def silence : List (HubEvent String Unit) :=
  List.replicate 30 .passed ++
    .task 0 (.expire { host := plainHost, draws := plainDraws } .stream) ::
      List.replicate 62 .passed

theorem permits_return_silence : ∃ middle hub : Hub String PlainSealer PlainOpener Unit,
    History.run (Hub.step plainServer false) {} [plainArrival, .task 0 .acquire] = some middle ∧
      middle.permits = 31 ∧ History.run (Hub.step plainServer false) middle silence = some hub ∧
      hub.now = 92 ∧ hub.permits = 32 := by
  have admitted : (History.run (Hub.step plainServer false) {}
      [plainArrival, .task 0 .acquire]).isSome = true := rfl
  obtain ⟨middle, reached⟩ := Option.isSome_iff_exists.mp admitted
  have left : middle.now = 0 ∧ middle.permits = 31 := by
    cases reached
    exact ⟨rfl, rfl⟩
  have waited : (History.run (Hub.step plainServer false) middle silence).map Hub.now =
      some 92 := by
    cases reached
    rfl
  obtain ⟨hub, ran, now⟩ := Option.map_eq_some_iff.mp waited
  have quiet (index : Nat) : HubEvent.task index .acquire ∉ silence := by
    simp [silence]
  have prompt : Prompt plainServer false {} ([plainArrival, .task 0 .acquire] ++ silence) :=
    prompt_of_promptly rfl
  refine ⟨middle, hub, reached, left.2, ran, now, ?_⟩
  exact ((permits_return plainServer false _ silence reached ran).2 prompt).2 quiet (by omega)

end Plain

end Hub

end Oxish
