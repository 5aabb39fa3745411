import Oxish.ChannelActs

/-!
The close handshake of a channel: one close from the server, no exit status behind it, and no
removal before the client has closed its side.
-/

namespace Oxish

open Stateful

variable {σ τ : Type}

namespace Event

def closes : Event τ → Bool
  | .sent _ (.close _) => true
  | _ => false

def reportsStatus : Event τ → Bool
  | .sent _ (.exitStatus _) => true
  | _ => false

end Event

def closesSent (past : List (Event τ)) : Nat := past.countP Event.closes

structure CloseLedger (entry : Option (Channel τ)) (past : List (Event τ)) : Prop where
  once : closesSent past ≤ 1
  counted : ∀ channel, entry = some channel → closesSent past = channel.closeSent.toNat
  reaping : ∀ channel, entry = some channel → channel.reaps = true → channel.closeSent = true
  statusFirst : past.Pairwise fun earlier later =>
    earlier.closes = true → later.reportsStatus = false

section Ledger

variable {host : TerminalHost τ} {session : SessionView} {localId : UInt32}
  {channel next : Channel τ} {past events : List (Event τ)} {entry : Option (Channel τ)}

@[simp] theorem closesSent_append (past events : List (Event τ)) :
    closesSent (past ++ events) = closesSent past + closesSent events :=
  List.countP_append

theorem closesSent_eq_zero {past : List (Event τ)} :
    closesSent past = 0 ↔ ∀ event ∈ past, event.closes = false := by
  simp [closesSent, List.countP_eq_zero]

theorem CloseLedger.quiet (ledger : CloseLedger (some channel) past)
    (quiet : ∀ event ∈ events, event.closes = false ∧ event.reportsStatus = false)
    (same : ∀ next, entry = some next → next.closeSent = channel.closeSent)
    (reaping : ∀ next, entry = some next → next.reaps = true → channel.closeSent = true) :
    CloseLedger entry (past ++ events) := by
  have none : closesSent events = 0 :=
    closesSent_eq_zero.mpr fun event member => (quiet event member).1
  refine ⟨?_, ?_, ?_, ?_⟩
  · rw [closesSent_append, none]
    exact ledger.once
  · intro next entered
    rw [closesSent_append, none, same next entered]
    exact ledger.counted channel rfl
  · intro next entered reaps
    rw [same next entered]
    exact reaping next entered reaps
  · refine List.pairwise_append.mpr ⟨ledger.statusFirst, ?_, ?_⟩
    · exact List.pairwise_of_forall_mem_list fun _ _ later member _ => (quiet later member).2
    · intro earlier _ later member _
      exact (quiet later member).2

theorem CloseLedger.close {before after : List (Event τ)} {closing : Event τ}
    (ledger : CloseLedger (some channel) past) (unclosed : channel.closeSent = false)
    (isClose : closing.closes = true) (noStatus : closing.reportsStatus = false)
    (quiet : ∀ event ∈ before ++ after, event.closes = false ∧ event.reportsStatus = false)
    (set : ∀ next, entry = some next → next.closeSent = true) :
    CloseLedger entry (past ++ (before ++ closing :: after)) := by
  have none : closesSent past = 0 := by
    rw [ledger.counted channel rfl, unclosed]
    rfl
  have outer : closesSent (before ++ after) = 0 :=
    closesSent_eq_zero.mpr fun event member => (quiet event member).1
  have one : closesSent (past ++ (before ++ closing :: after)) = 1 := by
    have here : closesSent (closing :: after) = 1 + closesSent after := by
      simp [closesSent, isClose, Nat.add_comm]
    rw [closesSent_append] at outer
    rw [closesSent_append, closesSent_append, here, none]
    omega
  have silent : ∀ event ∈ before ++ closing :: after, event.reportsStatus = false := by
    intro event member
    rcases List.mem_append.mp member with early | late
    · exact (quiet event (List.mem_append_left _ early)).2
    · rcases List.mem_cons.mp late with rfl | behind
      · exact noStatus
      · exact (quiet event (List.mem_append_right _ behind)).2
  refine ⟨by omega, ?_, ?_, ?_⟩
  · intro next entered
    rw [one, set next entered]
    rfl
  · intro next entered _
    exact set next entered
  · refine List.pairwise_append.mpr ⟨ledger.statusFirst, ?_, ?_⟩
    · exact List.pairwise_of_forall_mem_list fun _ _ later member _ => silent later member
    · intro earlier _ later member _
      exact silent later member

theorem CloseLedger.status {before : List (Event τ)} {status : Event τ}
    (ledger : CloseLedger (some channel) past) (unclosed : channel.closeSent = false)
    (notClose : status.closes = false) (quiet : ∀ event ∈ before, event.closes = false)
    (same : ∀ next, entry = some next → next.closeSent = channel.closeSent)
    (settled : ∀ next, entry = some next → next.reaps = false) :
    CloseLedger entry (past ++ (before ++ [status])) := by
  have none : closesSent past = 0 := by
    rw [ledger.counted channel rfl, unclosed]
    rfl
  have silent : ∀ event ∈ past ++ (before ++ [status]), event.closes = false := by
    intro event member
    rcases List.mem_append.mp member with early | late
    · exact closesSent_eq_zero.mp none event early
    · rcases List.mem_append.mp late with here | last
      · exact quiet event here
      · rw [List.mem_singleton.mp last]
        exact notClose
  have still : closesSent (past ++ (before ++ [status])) = 0 := closesSent_eq_zero.mpr silent
  refine ⟨by omega, ?_, ?_, ?_⟩
  · intro next entered
    rw [still, same next entered, unclosed]
    rfl
  · intro next entered reaps
    rw [settled next entered] at reaps
    cases reaps
  · refine List.pairwise_of_forall_mem_list fun earlier member later _ isClose => ?_
    rw [silent earlier member] at isClose
    cases isClose

theorem Channel.finishEvents_quiet (channel : Channel τ) (localId : UInt32) (wantReply : Bool)
    (banner : Option Bytes) : ∀ event ∈ channel.finishEvents localId wantReply banner,
      event.closes = false ∧ event.reportsStatus = false := by
  intro event member
  rcases Channel.mem_finishEvents member with ⟨_, rfl⟩ | ⟨_, rfl⟩ <;> exact ⟨rfl, rfl⟩

theorem Carried.quiet {options : KeyOptions} {type : ChannelRequestType}
    (done : Carried host options localId channel type events next) :
    (∀ event ∈ events, event.closes = false ∧ event.reportsStatus = false) ∧
      next.closeSent = channel.closeSent ∧ (next.reaps = true → channel.reaps = true) := by
  cases done with
  | pty ptyReq => exact ⟨nofun, rfl, nofun⟩
  | env allowed few => exact ⟨nofun, rfl, id⟩
  | shell requested spawned =>
      refine ⟨?_, rfl, nofun⟩
      simp [Event.closes, Event.reportsStatus]
  | resize windowChange => exact ⟨nofun, rfl, id⟩

theorem Channel.reaps_congr (same : next.terminal = channel.terminal) :
    next.reaps = channel.reaps := by
  rw [Channel.reaps, Channel.reaps, same]

theorem RequestAct.quiet {request : ChannelRequest}
    (act : RequestAct host session request channel events next) :
    (∀ event ∈ events, event.closes = false ∧ event.reportsStatus = false) ∧
      next.closeSent = channel.closeSent ∧ (next.reaps = true → channel.reaps = true) := by
  cases act with
  | @carried events next done =>
      obtain ⟨quiet, same, reaping⟩ := done.quiet
      refine ⟨?_, ?_, ?_⟩
      · intro event member
        rcases List.mem_append.mp member with early | late
        · exact quiet event early
        · exact Channel.finishEvents_quiet _ _ _ _ event late
      · rw [Channel.finished_closeSent, same]
      · intro reaps
        rw [Channel.reaps_congr (Channel.finished_terminal next _)] at reaps
        exact reaping reaps
  | refused =>
      refine ⟨?_, rfl, id⟩
      intro event member
      split at member
      · rw [List.mem_singleton.mp member]
        exact ⟨rfl, rfl⟩
      · cases member

theorem Channel.topUpEvents_quiet (channel : Channel τ) (localId : UInt32) :
    ∀ event ∈ channel.topUpEvents localId, event.closes = false ∧ event.reportsStatus = false := by
  intro event member
  obtain ⟨adjust, rfl⟩ := Channel.mem_topUpEvents member
  exact ⟨rfl, rfl⟩

theorem CloseLedger.answer (ledger : CloseLedger (some channel) past)
    (quiet : ∀ event ∈ events, event.closes = false ∧ event.reportsStatus = false)
    (set : ∀ next, entry = some next → next.closeSent = true) :
    CloseLedger entry (past ++ (channel.closeEvents localId ++ events)) := by
  unfold Channel.closeEvents
  by_cases closed : channel.closeSent = true
  · rw [if_pos closed, List.nil_append]
    refine ledger.quiet quiet ?_ ?_
    · intro next entered
      rw [set next entered, closed]
    · intro next entered _
      exact closed
  · rw [if_neg closed]
    change CloseLedger entry (past ++ ([] ++ .sent localId (.close ⟨channel.remoteId⟩) :: events))
    exact ledger.close (Bool.eq_false_iff.mpr closed) rfl rfl quiet set

theorem CloseLedger.message {message : IncomingChannelMessage}
    (act : MessageAct host session localId channel message events entry)
    (ledger : CloseLedger (some channel) past) : CloseLedger entry (past ++ events) := by
  cases act with
  | request same act =>
      obtain ⟨quiet, kept, reaping⟩ := act.quiet
      refine ledger.quiet quiet ?_ ?_
      · intro next entered
        cases entered
        exact kept
      · intro next entered reaps
        cases entered
        exact ledger.reaping channel rfl (reaping reaps)
  | data same fits =>
      refine ledger.quiet (List.forall_mem_cons.mpr ⟨⟨rfl, rfl⟩, Channel.topUpEvents_quiet _ _⟩) ?_ ?_
      · intro next entered
        cases entered
        rw [Channel.toppedUp_closeSent]
      · intro next entered reaps
        cases entered
        rw [Channel.reaps_congr (Channel.toppedUp_terminal _)] at reaps
        exact ledger.reaping channel rfl reaps
  | adjusted same =>
      refine ledger.quiet (by simp [Event.closes, Event.reportsStatus]) ?_ ?_
      · intro next entered
        cases entered
        rfl
      · intro next entered reaps
        cases entered
        exact ledger.reaping channel rfl reaps
  | eof same =>
      rw [List.append_nil]
      exact ledger
  | killed same held fresh =>
      refine ledger.answer (by simp [Event.closes, Event.reportsStatus]) ?_
      intro next entered
      cases entered
      rfl
  | awaited same reaps =>
      rw [← List.append_nil (channel.closeEvents localId)]
      refine ledger.answer nofun ?_
      intro next entered
      cases entered
      rfl
  | removed same free =>
      exact ledger.answer (by simp [Event.closes, Event.reportsStatus]) nofun

theorem CloseLedger.polled (act : PollAct host localId channel events entry)
    (ledger : CloseLedger (some channel) past) : CloseLedger entry (past ++ events) := by
  obtain ⟨_, visit⟩ := act
  cases visit with
  | idle =>
      rw [List.append_nil]
      exact ledger
  | status exited unclosed =>
      change CloseLedger _ (past ++ ([] ++ [_]))
      refine ledger.status unclosed rfl nofun ?_ ?_
      · intro next entered
        cases entered
        rfl
      · intro next entered
        cases entered
        rfl
  | waitedStatus exiting waited unclosed =>
      change CloseLedger _ (past ++ ([_] ++ [_]))
      refine ledger.status unclosed rfl (by simp [Event.closes]) ?_ ?_
      · intro next entered
        cases entered
        rfl
      · intro next entered
        cases entered
        rfl
  | waitedClosed exiting waited _ unclosed =>
      change CloseLedger _ (past ++ ([_] ++ _ :: []))
      refine ledger.close unclosed rfl rfl (by simp [Event.closes, Event.reportsStatus]) ?_
      intro next entered
      cases entered
      rfl
  | closed closing unclosed =>
      change CloseLedger _ (past ++ ([] ++ _ :: []))
      refine ledger.close unclosed rfl rfl nofun ?_
      intro next entered
      cases entered
      rfl
  | overdue exiting =>
      refine ledger.quiet (by simp [Event.closes, Event.reportsStatus]) ?_ ?_
      · intro next entered
        cases entered
        rfl
      · intro next entered reaps
        cases entered
        exact ledger.reaping channel rfl reaps
  | output =>
      refine ledger.quiet (by simp [Event.closes, Event.reportsStatus]) ?_ ?_
      · intro next entered
        cases entered
        rfl
      · intro next entered reaps
        cases entered
        exact ledger.reaping channel rfl reaps
  | ended running =>
      refine ledger.quiet (by simp [Event.closes, Event.reportsStatus]) ?_ ?_
      · intro next entered
        cases entered
        rfl
      · intro next entered reaps
        cases entered
        cases reaps
  | statusDropped exited =>
      refine ledger.quiet nofun ?_ ?_
      · intro next entered
        cases entered
        rfl
      · intro next entered reaps
        cases entered
        cases reaps
  | waitedDropped exiting waited =>
      refine ledger.quiet (by simp [Event.closes, Event.reportsStatus]) ?_ ?_
      · intro next entered
        cases entered
        rfl
      · intro next entered reaps
        cases entered
        cases reaps
  | reaped reaping waited =>
      exact ledger.quiet (by simp [Event.closes, Event.reportsStatus]) nofun nofun
  | expired reaping passed =>
      exact ledger.quiet (by simp [Event.closes, Event.reportsStatus]) nofun nofun

theorem closeLedger_invariant :
    ActInvariant fun _ (entry : Option (Channel τ)) past => CloseLedger entry past where
  vacant localId := ⟨Nat.zero_le _, nofun, nofun, List.Pairwise.nil⟩
  opened localId open_ := by
    refine ⟨Nat.zero_le _, ?_, ?_, ?_⟩
    · intro channel entered
      cases entered
      rfl
    · intro channel entered reaps
      cases entered
      cases reaps
    · simp [Event.closes]
  message := CloseLedger.message
  polled := CloseLedger.polled

end Ledger

section Continuing

variable {localId : UInt32} {view last : View τ}

/-- No channel was opened under the id in between: what has the id is still the same entry. -/
def View.Continues (localId : UInt32) (view last : View τ) : Prop :=
  ∃ more, last.log = view.log ++ more ∧
    ∀ event ∈ more, event.localId = some localId → event.opens = false

theorem View.Continues.refl (localId : UInt32) (view : View τ) : view.Continues localId view :=
  ⟨[], (List.append_nil _).symm, nofun⟩

theorem View.Continues.trans {middle : View τ} (first : view.Continues localId middle)
    (second : middle.Continues localId last) : view.Continues localId last := by
  obtain ⟨early, grown, quiet⟩ := first
  obtain ⟨late, grownOn, quietOn⟩ := second
  refine ⟨early ++ late, by rw [grownOn, grown, List.append_assoc], ?_⟩
  intro event member
  rcases List.mem_append.mp member with before | behind
  · exact quiet event before
  · exact quietOn event behind

theorem View.Continues.change (localId other : UInt32) (view : View τ) {entry : Option (Channel τ)}
    {events : List (Event τ)} (own : Own other events) :
    view.Continues localId (view.change other entry events) :=
  ⟨events, rfl, fun event member _ => (own event member).2⟩

theorem View.Continues.eventsOf (continues : view.Continues localId last) :
    eventsOf localId view.log <+: eventsOf localId last.log := by
  obtain ⟨more, grown, quiet⟩ := continues
  rw [grown, eventsOf_continued quiet]
  exact List.prefix_append _ _

theorem eventsOf_ne_nil {log : List (Event τ)} {open_ : ChannelOpen}
    (opened : .opened localId open_ ∈ log) : eventsOf localId log ≠ [] := by
  obtain ⟨before, after, rfl⟩ := List.append_of_mem opened
  have grows : ∀ (events past : List (Event τ)), past ≠ [] →
      events.foldl (record localId) past ≠ [] := by
    intro events
    induction events with
    | nil => exact fun _ some => some
    | cons event events ih =>
        intro past some
        refine ih _ ?_
        unfold record
        split
        · split <;> simp
        · exact some
  rw [eventsOf, List.foldl_append, List.foldl_cons]
  refine grows after _ ?_
  simp [record, Event.localId, Event.opens]

theorem MessageStep.continues {host : TerminalHost τ} {session : SessionView}
    {message : IncomingChannelMessage} (step : MessageStep host session message view last)
    (localId : UInt32) : view.Continues localId last ∨
      ∃ open_, last.get localId = some (openedChannel open_) := by
  cases step with
  | refused failure => exact Or.inl ⟨_, rfl, by simp [Event.opens]⟩
  | @opened _ opening open_ vacant =>
      by_cases same : localId = opening
      · subst same
        exact Or.inr ⟨open_, View.change_get ..⟩
      · refine Or.inl ⟨_, rfl, ?_⟩
        have apart : opening ≠ localId := Ne.symm same
        simp [Event.localId, Event.opens, apart]
  | acted live act => exact Or.inl (.change _ _ _ act.own)
  | unknown absent => exact Or.inl (.refl _ _)

theorem PollSteps.continues {host : TerminalHost τ} (steps : PollSteps host view last)
    (localId : UInt32) : view.Continues localId last := by
  induction steps with
  | refl => exact .refl _ _
  | tail _ step ih =>
      cases step with
      | polled live act => exact ih.trans (.change _ _ _ act.own)

theorem step_continues [SealingKey σ] {mux next : Mux σ τ} {step : SessionStep σ τ}
    (stepped : mux.step step = some next) (localId : UInt32) :
    mux.view.Continues localId next.view ∨
      ∃ open_, next.view.get localId = some (openedChannel open_) := by
  rcases step_acts stepped with ⟨session, message, _, acted⟩ | ⟨_, polled⟩
  · exact acted.continues localId
  · exact Or.inl (PollSteps.continues polled localId)

end Continuing

section Handshake

variable {host : TerminalHost τ} {session : SessionView} {localId : UInt32} {channel : Channel τ}
  {past events : List (Event τ)} {entry : Option (Channel τ)}

def Departs (entry : Option (Channel τ)) (past : List (Event τ)) : Prop :=
  (∃ channel, entry = some channel ∧ channel.reaps = true) ∨ (entry = none ∧ past ≠ [])

theorem Departs.of_reaps (departs : Departs (some channel) past) : channel.reaps = true := by
  rcases departs with ⟨next, same, reaps⟩ | ⟨absent, _⟩
  · cases same
    exact reaps
  · cases absent

theorem departs_of_reaps (reaps : channel.reaps = true) : Departs (some channel) past :=
  Or.inl ⟨channel, rfl, reaps⟩

theorem MessageAct.departs {message : IncomingChannelMessage}
    (act : MessageAct host session localId channel message events entry)
    (departs : Departs entry (past ++ events)) :
    Departs (some channel) past ∨
      ∃ close : ChannelClose, message = .close close ∧ close.recipientChannel = localId := by
  cases act with
  | request same act => exact Or.inl (departs_of_reaps (act.quiet.2.2 departs.of_reaps))
  | data same fits =>
      have reaps := departs.of_reaps
      rw [Channel.reaps_congr (Channel.toppedUp_terminal _)] at reaps
      exact Or.inl (departs_of_reaps reaps)
  | adjusted same => exact Or.inl (departs_of_reaps departs.of_reaps)
  | eof same => exact Or.inl (departs_of_reaps departs.of_reaps)
  | killed same held fresh => exact Or.inr ⟨_, rfl, same⟩
  | awaited same reaps => exact Or.inr ⟨_, rfl, same⟩
  | removed same free => exact Or.inr ⟨_, rfl, same⟩

theorem PollAct.departs (act : PollAct host localId channel events entry)
    (departs : Departs entry (past ++ events)) : Departs (some channel) past := by
  obtain ⟨_, visit⟩ := act
  cases visit with
  | reaped reaping | expired reaping => exact departs_of_reaps (by rw [Channel.reaps, reaping])
  | idle | output | overdue | closed => exact departs_of_reaps departs.of_reaps
  | ended | status | statusDropped | waitedStatus | waitedDropped | waitedClosed =>
      cases departs.of_reaps

theorem step_departs [SealingKey σ] {mux next : Mux σ τ} {step : SessionStep σ τ}
    (stepped : mux.step step = some next)
    (departs : Departs (next.view.get localId) (eventsOf localId next.log)) :
    Departs (mux.view.get localId) (eventsOf localId mux.log) ∨
      ∃ session close channel, step.Delivers session (.close close) ∧
        close.recipientChannel = localId ∧ mux.view.get localId = some channel := by
  -- Every id that departs now did so before, or has just been closed by the client.
  rcases step_acts stepped with ⟨session, message, delivers, acted⟩ | ⟨_, polled⟩
  · have every : next.view.Every fun localId entry past => Departs entry past →
        Departs (mux.view.get localId) (eventsOf localId mux.log) ∨
          ∃ session close channel, step.Delivers session (.close close) ∧
            close.recipientChannel = localId ∧ mux.view.get localId = some channel := by
      refine Begins.message ⟨?_, ?_⟩ ?_ acted (fun _ departs => Or.inl departs)
      · rintro _ (⟨_, absent, _⟩ | ⟨_, some⟩)
        · cases absent
        · exact absurd rfl some
      · intro _ _ departs
        cases departs.of_reaps
      · intro localId channel events entry live act before departs
        rcases act.departs departs with earlier | ⟨close, rfl, addressed⟩
        · exact before earlier
        · exact Or.inr ⟨session, close, channel, delivers, addressed, live⟩
    exact every localId departs
  · have every : next.view.Every fun localId entry past => Departs entry past →
        Departs (mux.view.get localId) (eventsOf localId mux.log) :=
      View.Every.polls (fun act before departs => before (act.departs departs)) polled
        (fun _ departs => departs)
    exact Or.inl (every localId departs)

variable [SealingKey σ]

/-- In this run the client has closed the channel that has the id in the last state, or that had
it last. -/
inductive ClosedByClient (start : Mux σ τ) (localId : UInt32) (last : Mux σ τ) :
    List (SessionStep σ τ) → Prop
  | closed {before step after session close channel earlier next}
      (reached : History.run Mux.step start before = some earlier)
      (stepped : earlier.step step = some next) (delivers : step.Delivers session (.close close))
      (addressed : close.recipientChannel = localId)
      (live : earlier.view.get localId = some channel)
      (continues : next.view.Continues localId last.view) :
      ClosedByClient start localId last (before ++ step :: after)

theorem ClosedByClient.snoc {start mux next : Mux σ τ} {steps : List (SessionStep σ τ)}
    {step : SessionStep σ τ} (closed : ClosedByClient start localId mux steps)
    (continues : mux.view.Continues localId next.view) :
    ClosedByClient start localId next (steps ++ [step]) := by
  obtain ⟨reached, stepped, delivers, addressed, live, earlier⟩ := closed
  rw [List.append_assoc, List.cons_append]
  exact .closed reached stepped delivers addressed live (earlier.trans continues)

theorem closedByClient_of_departs {start last : Mux σ τ} {steps : List (SessionStep σ τ)}
    (initial : ∀ localId, ¬ Departs (start.view.get localId) (eventsOf localId start.log))
    (ran : History.run Mux.step start steps = some last) (localId : UInt32)
    (departs : Departs (last.view.get localId) (eventsOf localId last.log)) :
    ClosedByClient start localId last steps := by
  refine @History.run_invariant _ _ _ start (fun steps mux => ∀ localId,
    Departs (mux.view.get localId) (eventsOf localId mux.log) →
      ClosedByClient start localId mux steps) ?_ ?_ steps last ran localId departs
  · intro localId departs
    exact absurd departs (initial localId)
  · intro steps mux step next reached holds stepped localId departs
    rcases step_departs stepped departs with before | ⟨_, close, channel, delivers, addressed, live⟩
    · refine (holds localId before).snoc ?_
      rcases step_continues stepped localId with continues | ⟨open_, opened⟩
      · exact continues
      · rw [opened] at departs
        cases departs.of_reaps
    · exact .closed reached stepped delivers addressed live (.refl _ _)

theorem CloseLedger.answered (ledger : CloseLedger (some channel) past)
    (quiet : ∀ event ∈ events, event.closes = false) :
    closesSent (past ++ (channel.closeEvents localId ++ events)) = 1 := by
  have before := ledger.counted channel rfl
  have behind : closesSent events = 0 := closesSent_eq_zero.mpr quiet
  rw [closesSent_append, closesSent_append, before, behind]
  unfold Channel.closeEvents
  by_cases closed : channel.closeSent = true
  · rw [if_pos closed, closed]
    rfl
  · rw [if_neg closed, Bool.eq_false_iff.mpr closed]
    rfl

theorem MessageStep.closesSent {view last : View τ} {close : ChannelClose}
    (acted : MessageStep host session (.close close) view last)
    (live : view.get close.recipientChannel = some channel)
    (ledger : CloseLedger (some channel) (eventsOf close.recipientChannel view.log)) :
    closesSent (eventsOf close.recipientChannel last.log) = 1 := by
  cases acted with
  | acted found act =>
      have own := act.own
      cases act with
      | killed same held fresh =>
          subst same
          cases live.symm.trans found
          rw [View.change, eventsOf_own own]
          exact ledger.answered (by simp [Event.closes])
      | awaited same reaps =>
          subst same
          cases live.symm.trans found
          rw [View.change, eventsOf_own own, ← List.append_nil (channel.closeEvents _)]
          exact ledger.answered (List.forall_mem_nil _)
      | removed same free =>
          subst same
          cases live.symm.trans found
          rw [View.change, eventsOf_own own]
          exact ledger.answered (by simp [Event.closes])
  | unknown absent =>
      rw [absent] at live
      cases live

theorem ClosedByClient.closesSent {write : WriteState σ} {last : Mux σ τ}
    {steps : List (SessionStep σ τ)} (ledger : CloseLedger (last.view.get localId)
      (eventsOf localId last.log))
    (closed : ClosedByClient (Mux.start write) localId last steps) :
    Oxish.closesSent (eventsOf localId last.log) = 1 := by
  obtain ⟨reached, stepped, delivers, addressed, live, continues⟩ := closed
  have before := closeLedger_invariant.run reached localId
  subst addressed
  rw [live] at before
  have once := (step_delivers stepped delivers).closesSent live before
  refine Nat.le_antisymm ledger.once ?_
  rw [← once]
  exact continues.eventsOf.sublist.countP_le

/-- The close handshake: at most one close goes out, exactly one once the client has closed, no
channel is gone unless the client closed it, a channel that is being reaped has sent its close,
and no exit status follows a close. -/
theorem close_handshake (write : WriteState σ) (steps : List (SessionStep σ τ)) {last : Mux σ τ}
    (ran : History.run Mux.step (Mux.start write) steps = some last) (localId : UInt32) :
    closesSent (eventsOf localId last.log) ≤ 1 ∧
      (ClosedByClient (Mux.start write) localId last steps →
        closesSent (eventsOf localId last.log) = 1) ∧
      ((∃ open_, .opened localId open_ ∈ last.log) → last.view.get localId = none →
        ClosedByClient (Mux.start write) localId last steps) ∧
      (∀ channel, last.view.get localId = some channel → channel.reaps = true →
        channel.closeSent = true) ∧
      (eventsOf localId last.log).Pairwise fun earlier later =>
        earlier.closes = true → later.reportsStatus = false := by
  have ledger := closeLedger_invariant.run ran localId
  refine ⟨ledger.once, ClosedByClient.closesSent ledger, ?_, ledger.reaping, ledger.statusFirst⟩
  rintro ⟨open_, opened⟩ gone
  refine closedByClient_of_departs ?_ ran localId (Or.inr ⟨gone, eventsOf_ne_nil opened⟩)
  rintro other (⟨_, live, _⟩ | ⟨_, some⟩)
  · rw [Mux.start_vacant] at live
    cases live
  · exact absurd rfl some

end Handshake

section Clients

theorem close_handshake_closed :
    ∃ last, History.run Mux.step (Mux.start plainWriter)
        [openStep, ptyStep, shellStep, closeStep, pollStep exitedHost] = some last ∧
      closesSent (eventsOf 0 last.log) = 1 ∧
      ClosedByClient (Mux.start plainWriter) 0 last
        [openStep, ptyStep, shellStep, closeStep, pollStep exitedHost] := by
  have gone : (History.run Mux.step (Mux.start plainWriter)
      [openStep, ptyStep, shellStep, closeStep, pollStep exitedHost]).map
        (fun last => (last.log.any fun event => event.localId = some 0 && event.opens,
          (last.view.get 0).isNone)) = some (true, true) := by
    decide +kernel
  obtain ⟨last, ran, seen⟩ := Option.map_eq_some_iff.mp gone
  obtain ⟨opened, absent⟩ := Prod.mk.inj seen
  obtain ⟨event, member, here⟩ := List.any_eq_true.mp opened
  have entered : ∃ open_, .opened 0 open_ ∈ last.log := by
    cases event with
    | opened localId open_ =>
        simp only [Event.localId, Event.opens, Option.some.injEq, Bool.and_true,
          decide_eq_true_eq] at here
        exact ⟨open_, here ▸ member⟩
    | _ => simp [Event.opens] at here
  obtain ⟨_, once, departed, _⟩ := close_handshake plainWriter _ ran 0
  have closed := departed entered (Option.isNone_iff_eq_none.mp absent)
  exact ⟨last, ran, once closed, closed⟩

end Clients

end Oxish
