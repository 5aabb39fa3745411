import Oxish.ChannelActs

/-!
Who holds a shell. A channel keeps the terminal it spawned until the shell has been waited for, or
until a killed shell has used up its grace period, exactly as long as the client asks for no
second terminal on the channel.
-/

namespace Oxish

open Stateful

variable {σ τ : Type}

def Event.spawns : Event τ → Bool
  | .spawned _ _ _ _ => true
  | _ => false

def Event.waits : Event τ → Bool
  | .waited _ _ => true
  | _ => false

def spawns (past : List (Event τ)) : Nat := past.countP Event.spawns

def WaitedFor (host : TerminalHost τ) (localId : UInt32) (terminal : τ)
    (before past : List (Event τ)) : Prop :=
  (∃ outcome, host.pollWait terminal = .ready outcome) ∧
    ∃ more, past = before ++ more ∧ .waited localId terminal ∈ more

def GivenUp (host : TerminalHost τ) (localId : UInt32) (channel : Channel τ) (terminal : τ)
    (before : List (Event τ)) : Prop :=
  .killed localId terminal ∈ before ∧
    ∃ deadline, channel.terminal = some (.reaping terminal deadline) ∧ deadline ≤ host.now localId

def Holds (entry : Option (Channel τ)) (terminal : τ) : Prop :=
  ∃ channel, entry = some channel ∧ channel.held = some terminal

section Acts

variable {host : TerminalHost τ} {session : SessionView} {message : IncomingChannelMessage}
  {localId : UInt32} {channel next : Channel τ} {past events : List (Event τ)}
  {entry : Option (Channel τ)} {terminal : τ}

theorem Channel.held_congr (same : next.terminal = channel.terminal) :
    next.held = channel.held := by
  rw [Channel.held, Channel.held, same]

def IncomingChannelMessage.AsksPty (message : IncomingChannelMessage) : Prop :=
  ∃ request ptyReq, message = .request request ∧ request.type = .ptyReq ptyReq

def IncomingChannelMessage.AsksShell (message : IncomingChannelMessage) : Prop :=
  ∃ request, message = .request request ∧ request.type = .shell

theorem MessageAct.holds (act : MessageAct host session localId channel message events entry)
    (held : channel.held = some terminal) (noPty : ¬ message.AsksPty) : Holds entry terminal := by
  cases act with
  | @request request _ _ same act =>
      refine ⟨_, rfl, ?_⟩
      cases act with
      | @carried _ middle done =>
          rw [Channel.held_congr (Channel.finished_terminal middle _)]
          generalize kind : request.type = type at done
          cases done with
          | pty ptyReq => exact absurd ⟨request, ptyReq, rfl, kind⟩ noPty
          | env allowed few => exact held
          | resize windowChange => exact held
          | shell requested spawned =>
              rw [Channel.held, requested] at held
              cases held
      | refused => exact held
  | data same fits =>
      refine ⟨_, rfl, ?_⟩
      rw [Channel.held_congr (Channel.toppedUp_terminal _)]
      exact held
  | adjusted same => exact ⟨_, rfl, held⟩
  | eof same => exact ⟨_, rfl, held⟩
  | killed same found fresh => exact ⟨_, rfl, found.symm.trans held⟩
  | awaited same reaps => exact ⟨_, rfl, held⟩
  | removed same free =>
      rw [free] at held
      cases held

theorem spawns_append (past events : List (Event τ)) :
    spawns (past ++ events) = spawns past + spawns events :=
  List.countP_append

theorem spawns_eq_zero : spawns events = 0 ↔ ∀ event ∈ events, event.spawns = false := by
  simp [spawns, List.countP_eq_zero]

theorem Channel.finishEvents_spawns (channel : Channel τ) (localId : UInt32) (wantReply : Bool)
    (banner : Option Bytes) :
    ∀ event ∈ channel.finishEvents localId wantReply banner, event.spawns = false := by
  intro event member
  rcases Channel.mem_finishEvents member with ⟨_, rfl⟩ | ⟨_, rfl⟩ <;> rfl

theorem Channel.closeEvents_spawns (channel : Channel τ) (localId : UInt32) :
    ∀ event ∈ channel.closeEvents localId, event.spawns = false := by
  intro event member
  rw [Channel.mem_closeEvents member]
  rfl

theorem MessageAct.spawns_none
    (act : MessageAct host session localId channel message events entry)
    (noShell : ¬ message.AsksShell) : ∀ event ∈ events, event.spawns = false := by
  cases act with
  | @request request _ _ same act =>
      cases act with
      | @carried early middle done =>
          have quiet : ∀ event ∈ early, event.spawns = false := by
            generalize kind : request.type = type at done
            cases done with
            | shell requested spawned => exact absurd ⟨request, rfl, kind⟩ noShell
            | _ => exact nofun
          intro event member
          rcases List.mem_append.mp member with before | behind
          · exact quiet event before
          · exact Channel.finishEvents_spawns _ _ _ _ event behind
      | refused =>
          intro event member
          split at member
          · rw [List.mem_singleton.mp member]
            rfl
          · cases member
  | data same fits =>
      refine List.forall_mem_cons.mpr ⟨rfl, fun event member => ?_⟩
      obtain ⟨adjust, rfl⟩ := Channel.mem_topUpEvents member
      rfl
  | adjusted same => simp [Event.spawns]
  | eof same => exact nofun
  | killed same held fresh =>
      refine List.forall_mem_append.mpr ⟨channel.closeEvents_spawns localId, ?_⟩
      exact List.forall_mem_singleton.mpr rfl
  | awaited same reaps => exact channel.closeEvents_spawns localId
  | removed same free =>
      refine List.forall_mem_append.mpr ⟨channel.closeEvents_spawns localId, ?_⟩
      exact List.forall_mem_singleton.mpr rfl

theorem MessageAct.spawns_one
    (act : MessageAct host session localId channel message events entry)
    (asks : message.AsksShell) :
    spawns events = 1 ∧ ∀ other command env terminal,
      .spawned other command env terminal ∈ events → Holds entry terminal := by
  obtain ⟨request, rfl, kind⟩ := asks
  cases act with
  | request same act =>
      cases act with
      | @carried _ middle done =>
          rw [kind] at done
          have quiet := middle.finishEvents_spawns request.recipientChannel request.wantReply
            (banner request session.clientIdentity session.postQuantumKx)
          cases done with
          | @shell _ spawned =>
              refine ⟨?_, ?_⟩
              · rw [spawns_append, spawns_eq_zero.mpr quiet]
                rfl
              · intro other command env terminal member
                refine ⟨_, rfl, ?_⟩
                rw [Channel.held_congr (Channel.finished_terminal _ _)]
                rcases List.mem_append.mp member with here | behind
                · simp only [List.mem_cons, Event.spawned.injEq, reduceCtorEq, List.not_mem_nil,
                    or_false] at here
                  rw [here.2.2.2]
                  rfl
                · cases quiet _ behind
      | refused _ noShell => exact absurd kind noShell

/-- What became of a terminal that its channel held, `before` being what had happened then. -/
def Accounted (host : TerminalHost τ) (localId : UInt32) (channel : Channel τ) (terminal : τ)
    (before : List (Event τ)) (entry : Option (Channel τ)) (past : List (Event τ)) : Prop :=
  Holds entry terminal ∨ WaitedFor host localId terminal before past ∨
    (GivenUp host localId channel terminal before ∧ entry = none)

theorem WaitedFor.append {before : List (Event τ)}
    (waited : WaitedFor host localId terminal before past) (events : List (Event τ)) :
    WaitedFor host localId terminal before (past ++ events) := by
  obtain ⟨ready, more, rfl, member⟩ := waited
  exact ⟨ready, more ++ events, List.append_assoc .., List.mem_append_left _ member⟩

theorem MessageAct.pty_unaccounted
    (act : MessageAct host session localId channel message events entry)
    (asks : message.AsksPty) : ¬ Accounted host localId channel terminal past entry (past ++ events) := by
  obtain ⟨request, ptyReq, rfl, kind⟩ := asks
  cases act with
  | request same act =>
      cases act with
      | @carried early middle done =>
          rw [kind] at done
          cases done with
          | pty =>
              rintro (⟨later, entered, held⟩ | ⟨_, more, appended, waited⟩ | ⟨_, absent⟩)
              · cases entered
                rw [Channel.held_congr (Channel.finished_terminal _ _)] at held
                cases held
              · rw [← List.append_cancel_left appended] at waited
                rcases Channel.mem_finishEvents waited with ⟨_, sent⟩ | ⟨_, sent⟩ <;> cases sent
              · cases absent
      | refused noPty => exact absurd kind (noPty ptyReq)

theorem MessageAct.reaping {deadline : Instant}
    (act : MessageAct host session localId channel message events (some next))
    (reaping : next.terminal = some (.reaping terminal deadline)) :
    channel.terminal = some (.reaping terminal deadline) ∨ .killed localId terminal ∈ events := by
  generalize entered : some next = entry at act
  cases act with
  | @request request _ _ same act =>
      cases entered
      cases act with
      | @carried _ middle done =>
          rw [Channel.finished_terminal] at reaping
          generalize request.type = type at done
          cases done with
          | pty ptyReq => cases reaping
          | env allowed few => exact Or.inl reaping
          | shell requested spawned => cases reaping
          | resize windowChange => exact Or.inl reaping
      | refused => exact Or.inl reaping
  | data same fits =>
      cases entered
      rw [Channel.toppedUp_terminal] at reaping
      exact Or.inl reaping
  | adjusted same =>
      cases entered
      exact Or.inl reaping
  | eof same =>
      cases entered
      exact Or.inl reaping
  | killed same held fresh =>
      cases entered
      cases reaping
      exact Or.inr (List.mem_append_right _ List.mem_cons_self)
  | awaited same reaps =>
      cases entered
      exact Or.inl reaping
  | removed same free => cases entered

theorem PollAct.reaping {deadline : Instant}
    (act : PollAct host localId channel events (some next))
    (reaping : next.terminal = some (.reaping terminal deadline)) :
    channel.terminal = some (.reaping terminal deadline) := by
  obtain ⟨_, visit⟩ := act
  cases visit with
  | idle | output | overdue | closed => exact reaping
  | ended | status | statusDropped | waitedStatus | waitedDropped | waitedClosed => cases reaping

theorem killed_invariant : ActInvariant fun localId (entry : Option (Channel τ)) past =>
    ∀ channel terminal deadline, entry = some channel →
      channel.terminal = some (.reaping terminal deadline) → .killed localId terminal ∈ past where
  vacant _ := nofun
  opened localId open_ := by
    rintro channel terminal deadline entered reaping
    cases entered
    cases reaping
  message act killed := by
    rintro next terminal deadline rfl reaping
    rcases act.reaping reaping with before | now
    · exact List.mem_append_left _ (killed _ terminal deadline rfl before)
    · exact List.mem_append_right _ now
  polled act killed := by
    rintro next terminal deadline rfl reaping
    exact List.mem_append_left _ (killed _ terminal deadline rfl (act.reaping reaping))

theorem PollAct.accounted (act : PollAct host localId channel events entry)
    (held : channel.held = some terminal)
    (killed : ∀ deadline, channel.terminal = some (.reaping terminal deadline) →
      .killed localId terminal ∈ past) :
    Accounted host localId channel terminal past entry (past ++ events) := by
  have waits : ∀ {exited outcome}, channel.held = some exited →
      host.pollWait exited = .ready outcome → .waited localId exited ∈ events →
      WaitedFor host localId terminal past (past ++ events) := by
    intro exited outcome found ready member
    cases held.symm.trans found
    exact ⟨⟨outcome, ready⟩, events, rfl, member⟩
  obtain ⟨_, visit⟩ := act
  cases visit with
  | idle => exact Or.inl ⟨_, rfl, held⟩
  | output => exact Or.inl ⟨_, rfl, held⟩
  | ended running =>
      rw [Channel.held, running] at held
      exact Or.inl ⟨_, rfl, held⟩
  | overdue exiting => exact Or.inl ⟨_, rfl, held⟩
  | closed closing =>
      rw [Channel.held, closing] at held
      cases held
  | status exited | statusDropped exited =>
      rw [Channel.held, exited] at held
      cases held
  | waitedStatus exiting waited | waitedDropped exiting waited | waitedClosed exiting waited =>
      exact Or.inr (Or.inl (waits (by rw [Channel.held, exiting]) waited List.mem_cons_self))
  | reaped reaping waited =>
      exact Or.inr (Or.inl (waits (by rw [Channel.held, reaping]) waited List.mem_cons_self))
  | @expired exited deadline reaping passed =>
      have same : some exited = some terminal := by
        rw [← held, Channel.held, reaping]
      cases same
      exact Or.inr (Or.inr ⟨⟨killed deadline reaping, deadline, reaping, passed⟩, rfl⟩)

end Acts

section Polls

variable {host : TerminalHost τ} {localId : UInt32} {channel : Channel τ} {terminal : τ}
  {view last : View τ}

def View.Killed (view : View τ) : Prop :=
  view.Every fun localId entry past => ∀ channel terminal deadline, entry = some channel →
    channel.terminal = some (.reaping terminal deadline) → .killed localId terminal ∈ past

structure Followed (host : TerminalHost τ) (localId : UInt32) (channel : Channel τ)
    (terminal : τ) (before : List (Event τ)) (entry : Option (Channel τ))
    (past : List (Event τ)) : Prop where
  grown : before <+: past
  accounted : Accounted host localId channel terminal before entry past
  period : ∀ later deadline, entry = some later →
    later.terminal = some (.reaping terminal deadline) →
      channel.terminal = some (.reaping terminal deadline)

theorem Followed.polled {before past events : List (Event τ)} {later : Channel τ}
    {entry : Option (Channel τ)}
    (killed : ∀ deadline, channel.terminal = some (.reaping terminal deadline) →
      .killed localId terminal ∈ before)
    (act : PollAct host localId later events entry)
    (followed : Followed host localId channel terminal before (some later) past) :
    Followed host localId channel terminal before entry (past ++ events) := by
  obtain ⟨grown, accounted, period⟩ := followed
  refine ⟨grown.trans (List.prefix_append past events), ?_, ?_⟩
  · rcases accounted with ⟨_, same, held⟩ | waited | ⟨_, absent⟩
    · cases same
      rcases act.accounted held fun deadline reaping =>
          grown.subset (killed deadline (period later deadline rfl reaping)) with
        still | waited | ⟨⟨_, deadline, reaping, passed⟩, absent⟩
      · exact Or.inl still
      · obtain ⟨ready, more, same, member⟩ := waited
        obtain ⟨early, rfl⟩ := grown
        refine Or.inr (Or.inl ⟨ready, early ++ more, ?_, List.mem_append_right _ member⟩)
        rw [same, List.append_assoc]
      · have first := period later deadline rfl reaping
        exact Or.inr (Or.inr ⟨⟨killed deadline first, deadline, first, passed⟩, absent⟩)
    · exact Or.inr (Or.inl (waited.append events))
    · cases absent
  · rintro next deadline rfl reaping
    exact period later deadline rfl (act.reaping reaping)

theorem PollSteps.accounted (steps : PollSteps host view last) (killed : view.Killed)
    (live : view.get localId = some channel) (held : channel.held = some terminal) :
    Accounted host localId channel terminal (eventsOf localId view.log) (last.get localId)
      (eventsOf localId last.log) := by
  have every : last.Every fun other entry past => other = localId →
      Followed host localId channel terminal (eventsOf localId view.log) entry past := by
    refine View.Every.polls ?_ steps ?_
    · rintro _ later past events entry act followed rfl
      exact (followed rfl).polled (fun deadline => killed _ channel terminal deadline live) act
    · rintro _ rfl
      refine ⟨List.prefix_refl _, Or.inl ⟨channel, live, held⟩, ?_⟩
      intro later deadline entered reaping
      cases live.symm.trans entered
      exact reaping
  exact (every localId rfl).accounted

theorem PollAct.spawns_none {events : List (Event τ)} {entry : Option (Channel τ)}
    (act : PollAct host localId channel events entry) : ∀ event ∈ events, event.spawns = false := by
  obtain ⟨_, visit⟩ := act
  cases visit <;> simp [Event.spawns]

end Polls

section Runs

variable [SealingKey σ]

structure Mux.KeepsShells (mux : Mux σ τ) (step : SessionStep σ τ) (next : Mux σ τ) : Prop where
  held : ∀ localId channel terminal, mux.view.get localId = some channel →
    channel.held = some terminal →
      Accounted step.host localId channel terminal (eventsOf localId mux.log)
        (next.view.get localId) (eventsOf localId next.log)
  spawned : ∀ localId command env terminal more, next.log = mux.log ++ more →
    .spawned localId command env terminal ∈ more → Holds (next.view.get localId) terminal
  once : ∀ localId, spawns (eventsOf localId next.log) ≤ 1

/-- The client asks for a terminal only while the channel holds no shell, and for a shell only
once. -/
structure Mux.AsksOnce (mux : Mux σ τ) (step : SessionStep σ τ) : Prop where
  pty : ∀ session request ptyReq channel, step.Delivers session (.request request) →
    request.type = .ptyReq ptyReq → mux.view.get request.recipientChannel = some channel →
      channel.held = none
  shell : ∀ session request channel, step.Delivers session (.request request) →
    request.type = .shell → mux.view.get request.recipientChannel = some channel →
      spawns (eventsOf request.recipientChannel mux.log) = 0

theorem MessageStep.accounted {host : TerminalHost τ} {session : SessionView}
    {message : IncomingChannelMessage} {view last : View τ} {localId : UInt32} {channel : Channel τ}
    {terminal : τ} (acted : MessageStep host session message view last)
    (polite : message.recipient = some localId → ¬ message.AsksPty)
    (live : view.get localId = some channel) (held : channel.held = some terminal) :
    Holds (last.get localId) terminal := by
  have kept : ∀ {other entry events}, localId ≠ other →
      Holds ((view.change other entry events).get localId) terminal := by
    intro other entry events apart
    simp only [View.change, Function.update_of_ne apart]
    exact ⟨channel, live, held⟩
  cases acted with
  | refused failure => exact ⟨channel, live, held⟩
  | @opened _ opening _ vacant =>
      by_cases same : localId = opening
      · subst same
        cases vacant.symm.trans live
      · exact kept same
  | @acted _ other _ _ events entry found act =>
      by_cases same : localId = other
      · subst same
        cases live.symm.trans found
        rw [View.change_get]
        exact act.holds held (polite act.addressed)
      · exact kept same
  | unknown absent => exact ⟨channel, live, held⟩

theorem MessageStep.spawned {host : TerminalHost τ} {session : SessionView}
    {message : IncomingChannelMessage} {view last : View τ} {localId : UInt32} {terminal : τ}
    {command : Option String} {env : List (String × String)} {more : List (Event τ)}
    (acted : MessageStep host session message view last) (grown : last.log = view.log ++ more)
    (spawned : .spawned localId command env terminal ∈ more) :
    Holds (last.get localId) terminal := by
  cases acted with
  | refused failure =>
      rw [← List.append_cancel_left grown] at spawned
      simp at spawned
  | opened vacant =>
      rw [← List.append_cancel_left grown] at spawned
      simp at spawned
  | @acted _ other _ _ events entry found act =>
      rw [← List.append_cancel_left grown] at spawned
      have own := (act.own _ spawned).1
      cases own
      rw [View.change_get]
      by_cases asks : message.AsksShell
      · exact (act.spawns_one asks).2 _ _ _ _ spawned
      · cases act.spawns_none asks _ spawned
  | unknown absent =>
      rw [← List.append_cancel_left ((List.append_nil _).trans grown)] at spawned
      cases spawned

theorem PollSteps.spawns_none {host : TerminalHost τ} {view last : View τ}
    (steps : PollSteps host view last) :
    ∃ more, last.log = view.log ++ more ∧ ∀ event ∈ more, event.spawns = false := by
  induction steps with
  | refl => exact ⟨[], (List.append_nil _).symm, nofun⟩
  | tail _ step ih =>
      obtain ⟨more, grown, quiet⟩ := ih
      cases step with
      | @polled _ _ events _ live act =>
          refine ⟨more ++ events, ?_, List.forall_mem_append.mpr ⟨quiet, act.spawns_none⟩⟩
          rw [View.change, grown, List.append_assoc]

theorem PollSteps.spawns_eq {host : TerminalHost τ} {view last : View τ}
    (steps : PollSteps host view last) (localId : UInt32) :
    spawns (eventsOf localId last.log) = spawns (eventsOf localId view.log) := by
  have every : last.Every fun other _ past => spawns past = spawns (eventsOf other view.log) := by
    refine View.Every.polls ?_ steps (fun _ => rfl)
    intro other channel past events entry act same
    rw [spawns_append, spawns_eq_zero.mpr act.spawns_none, same, Nat.add_zero]
  exact every localId

structure Mux.Keeping (mux : Mux σ τ) : Prop where
  killed : mux.view.Killed
  once : ∀ localId, spawns (eventsOf localId mux.log) ≤ 1

theorem Mux.AsksOnce.spawns_le {mux next : Mux σ τ} {step : SessionStep σ τ}
    (asksOnce : mux.AsksOnce step) (keeping : mux.Keeping) (stepped : mux.step step = some next)
    (localId : UInt32) : spawns (eventsOf localId next.log) ≤ 1 := by
  rcases step_acts stepped with ⟨session, message, delivers, acted⟩ | ⟨_, polled⟩
  · have every : next.view.Every fun _ _ past => spawns past ≤ 1 := by
      refine Begins.message ⟨fun _ => Nat.zero_le 1, fun _ _ => Nat.zero_le 1⟩ ?_ acted
        (fun localId => keeping.once localId)
      intro localId channel events entry live act before
      rw [spawns_append]
      by_cases asks : message.AsksShell
      · obtain ⟨request, rfl, kind⟩ := asks
        have here := act.addressed
        cases here
        have first := asksOnce.shell session request channel delivers kind live
        have one := (act.spawns_one ⟨request, rfl, kind⟩).1
        change spawns (eventsOf request.recipientChannel mux.log) + spawns events ≤ 1
        omega
      · rw [spawns_eq_zero.mpr (act.spawns_none asks)]
        exact before
    exact every localId
  · have same : spawns (eventsOf localId next.log) = spawns (eventsOf localId mux.log) :=
      PollSteps.spawns_eq polled localId
    rw [same]
    exact keeping.once localId

theorem keepsShells_of_asksOnce {mux next : Mux σ τ} {step : SessionStep σ τ}
    (keeping : mux.Keeping) (stepped : mux.step step = some next)
    (asksOnce : mux.AsksOnce step) : mux.KeepsShells step next := by
  refine ⟨?_, ?_, asksOnce.spawns_le keeping stepped⟩
  · intro localId channel terminal live held
    rcases step_acts stepped with ⟨session, message, delivers, acted⟩ | ⟨_, polled⟩
    · refine Or.inl (acted.accounted ?_ live held)
      rintro addressed ⟨request, ptyReq, rfl, kind⟩
      cases addressed
      rw [asksOnce.pty session request ptyReq channel delivers kind live] at held
      cases held
    · exact PollSteps.accounted polled keeping.killed live held
  · intro localId command env terminal more grown spawned
    rcases step_acts stepped with ⟨session, message, delivers, acted⟩ | ⟨_, polled⟩
    · exact acted.spawned grown spawned
    · obtain ⟨_, appended, quiet⟩ := PollSteps.spawns_none polled
      have same := List.append_cancel_left (grown.symm.trans appended)
      subst same
      cases quiet _ spawned

theorem MessageStep.request_acted {host : TerminalHost τ} {session : SessionView}
    {request : ChannelRequest} {view last : View τ} {channel : Channel τ}
    (acted : MessageStep host session (.request request) view last)
    (live : view.get request.recipientChannel = some channel) :
    ∃ events, MessageAct host session request.recipientChannel channel (.request request) events
        (last.get request.recipientChannel) ∧
      eventsOf request.recipientChannel last.log =
        eventsOf request.recipientChannel view.log ++ events := by
  cases acted with
  | acted found act =>
      cases act.addressed
      cases live.symm.trans found
      refine ⟨_, ?_, eventsOf_own act.own _⟩
      rw [View.change_get]
      exact act

theorem asksOnce_of_keepsShells {mux next : Mux σ τ} {step : SessionStep σ τ}
    (stepped : mux.step step = some next) (keeps : mux.KeepsShells step next) :
    mux.AsksOnce step := by
  refine ⟨?_, ?_⟩
  · intro session request ptyReq channel delivers kind live
    obtain ⟨events, act, appended⟩ := (step_delivers stepped delivers).request_acted live
    by_contra holds
    obtain ⟨terminal, held⟩ := Option.ne_none_iff_exists'.mp holds
    have accounted := keeps.held _ channel terminal live held
    change Accounted _ _ _ _ _ _ (eventsOf _ next.view.log) at accounted
    rw [appended] at accounted
    exact act.pty_unaccounted ⟨request, ptyReq, rfl, kind⟩ accounted
  · intro session request channel delivers kind live
    obtain ⟨events, act, appended⟩ := (step_delivers stepped delivers).request_acted live
    have once := keeps.once request.recipientChannel
    have one := (act.spawns_one ⟨request, rfl, kind⟩).1
    change spawns (eventsOf _ next.view.log) ≤ 1 at once
    rw [appended, spawns_append, one] at once
    change spawns (eventsOf request.recipientChannel mux.view.log) = 0
    omega

theorem killed_step {mux next : Mux σ τ} {step : SessionStep σ τ}
    (stepped : mux.step step = some next) (killed : mux.view.Killed) : next.view.Killed :=
  killed_invariant.step stepped killed

/-- No shell is lost all along a run exactly when every step of it asks once. -/
theorem shells_kept_iff (write : WriteState σ) (steps : List (SessionStep σ τ))
    {last : Mux σ τ} (ran : History.run Mux.step (Mux.start write) steps = some last) :
    History.EveryStep Mux.step (Mux.start write) steps Mux.KeepsShells ↔
      History.Throughout Mux.step (Mux.start write) steps Mux.AsksOnce := by
  have initial : (Mux.start write : Mux σ τ).Keeping :=
    ⟨killed_invariant.start write, fun _ => Nat.zero_le 1⟩
  refine History.everyStep_iff_throughout initial ?_ ?_ ran
  · intro mux step next keeping stepped asksOnce
    exact ⟨keepsShells_of_asksOnce keeping stepped asksOnce,
      killed_step stepped keeping.killed, asksOnce.spawns_le keeping stepped⟩
  · intro mux step next _ stepped keeps
    exact asksOnce_of_keepsShells stepped keeps

end Runs

section Clients

/-- A second request for a terminal drops the running shell, and with a second request for a shell
the channel has spawned twice. -/
theorem shells_lost :
    (∃ mux next, History.run Mux.step (Mux.start plainWriter) [openStep, ptyStep, shellStep] =
        some mux ∧ mux.step ptyStep = some next ∧ Holds (mux.view.get 0) () ∧
        ¬ mux.KeepsShells ptyStep next) ∧
      ∃ last, History.run Mux.step (Mux.start plainWriter)
        [openStep, ptyStep, shellStep, ptyStep, shellStep] = some last ∧
        spawns (eventsOf 0 last.log) = 2 := by
  constructor
  · have check : (History.run Mux.step (Mux.start plainWriter) [openStep, ptyStep, shellStep]).bind
        (fun mux => (mux.step ptyStep).map fun next =>
          ((mux.view.get 0).bind Channel.held, (next.view.get 0).map Channel.held,
            (eventsOf 0 next.log).any Event.waits)) = some (some (), some none, false) := by
      decide
    obtain ⟨mux, ran, after⟩ := Option.bind_eq_some_iff.mp check
    obtain ⟨next, stepped, seen⟩ := Option.map_eq_some_iff.mp after
    obtain ⟨holds, dropped, quiet⟩ : _ ∧ _ ∧ _ := by simpa only [Prod.mk.injEq] using seen
    obtain ⟨channel, live, held⟩ := Option.bind_eq_some_iff.mp holds
    refine ⟨mux, next, ran, stepped, ⟨channel, live, held⟩, fun keeps => ?_⟩
    rcases keeps.held 0 channel () live held with
      ⟨later, entered, still⟩ | ⟨_, more, appended, waited⟩ | ⟨_, absent⟩
    · rw [entered, Option.map_some, still] at dropped
      cases dropped
    · rw [appended] at quiet
      exact List.any_eq_false.mp quiet _ (List.mem_append_right _ waited) rfl
    · rw [absent] at dropped
      cases dropped
  · have check : (History.run Mux.step (Mux.start plainWriter)
        [openStep, ptyStep, shellStep, ptyStep, shellStep]).map
          (fun last => spawns (eventsOf 0 last.log)) = some 2 := by
      decide +kernel
    exact Option.map_eq_some_iff.mp check

theorem shells_kept_iff_closed :
    ∃ last, History.run Mux.step (Mux.start plainWriter)
        [openStep, ptyStep, shellStep, closeStep, pollStep exitedHost] = some last ∧
      spawns (eventsOf 0 last.log) = 1 ∧
      (History.EveryStep Mux.step (Mux.start plainWriter)
          [openStep, ptyStep, shellStep, closeStep, pollStep exitedHost] Mux.KeepsShells ↔
        History.Throughout Mux.step (Mux.start plainWriter)
          [openStep, ptyStep, shellStep, closeStep, pollStep exitedHost] Mux.AsksOnce) := by
  have check : (History.run Mux.step (Mux.start plainWriter)
      [openStep, ptyStep, shellStep, closeStep, pollStep exitedHost]).map
        (fun last => spawns (eventsOf 0 last.log)) = some 1 := by
    decide +kernel
  obtain ⟨last, ran, one⟩ := Option.map_eq_some_iff.mp check
  exact ⟨last, ran, one, shells_kept_iff plainWriter _ ran⟩

end Clients

end Oxish
