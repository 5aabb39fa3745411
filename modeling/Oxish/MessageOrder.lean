import Oxish.CloseHandshake
import Oxish.SendWindow
import Oxish.TerminalPolling

/-!
The order of the messages for one channel. Output behind an end of file, or anything behind a
close, goes out exactly when a client asks for it with a request or with data that the close has
not reached yet, or starts a second shell on the channel.
-/

namespace Oxish

open Stateful TerminalsFuture

variable {σ τ : Type}

namespace Event

def sends : Event τ → Bool
  | .sent _ _ => true
  | _ => false

def ends : Event τ → Bool
  | .sent _ (.eof _) => true
  | _ => false

-- The banner is channel data too.
def carriesData : Event τ → Bool
  | .sent _ (.data _) | .sent _ (.banner _) => true
  | _ => false

def Allows (earlier later : Event τ) : Prop :=
  (earlier.closes = true → later.sends = false) ∧ (earlier.ends = true → later.carriesData = false)

instance (earlier later : Event τ) : Decidable (earlier.Allows later) :=
  inferInstanceAs (Decidable (_ ∧ _))

end Event

/-- No data follows an end of file, and nothing follows a close. -/
def Ordered (past : List (Event τ)) : Prop := past.Pairwise Event.Allows

instance (past : List (Event τ)) : Decidable (Ordered past) :=
  inferInstanceAs (Decidable (past.Pairwise Event.Allows))

def Mux.Ordered (mux : Mux σ τ) : Prop := ∀ localId, Oxish.Ordered (eventsOf localId mux.log)

def eofSent (past : List (Event τ)) : Bool := past.any Event.ends

def Channel.settled (channel : Channel τ) : Bool :=
  match channel.terminal with
  | some (.running _) | some (.exiting _ _) | some (.exited _) => false
  | _ => true

def Channel.runs (channel : Channel τ) : Bool :=
  match channel.terminal with
  | some (.running _) => true
  | _ => false

def Channel.showsBanner (channel : Channel τ) (session : SessionView) :
    IncomingChannelMessage → Bool
  | .request request =>
    (channel.dueBanner (banner request session.clientIdentity session.postQuantumKx)).isSome
  | _ => false

/-- The message calls for a message of the server, apart from a close: a reply, the window of a new
shell, the banner, or more window for data. -/
def Channel.answers (channel : Channel τ) (session : SessionView) :
    IncomingChannelMessage → Bool
  | .request request =>
    request.wantReply || request.type == .shell || channel.showsBanner session (.request request)
  | .data data =>
    match checkedSub channel.receiveWindow (lenAsU32 data.data) with
    | some window => window < initialWindowSize / 2
    | none => false
  | _ => false

section Lists

variable {past events : List (Event τ)} {channel : Channel τ}

theorem ordered_append : Ordered (past ++ events) ↔
    Ordered past ∧ Ordered events ∧
      (past.any Event.closes = true → events.any Event.sends = false) ∧
      (eofSent past = true → events.any Event.carriesData = false) := by
  simp only [Ordered, List.pairwise_append, eofSent, List.any_eq_true, List.any_eq_false,
    Bool.not_eq_true, Event.Allows]
  constructor
  · rintro ⟨before, behind, across⟩
    refine ⟨before, behind, ?_, ?_⟩
    · rintro ⟨earlier, member, closes⟩ later follows
      exact (across earlier member later follows).1 closes
    · rintro ⟨earlier, member, ends⟩ later follows
      exact (across earlier member later follows).2 ends
  · rintro ⟨before, behind, closed, ended⟩
    refine ⟨before, behind, ?_⟩
    intro earlier member later follows
    exact ⟨fun closes => closed ⟨earlier, member, closes⟩ later follows,
      fun ends => ended ⟨earlier, member, ends⟩ later follows⟩

theorem CloseLedger.any_closes (ledger : CloseLedger (some channel) past) :
    past.any Event.closes = channel.closeSent := by
  have counted := ledger.counted channel rfl
  cases closed : channel.closeSent with
  | true =>
      have positive : 0 < past.countP Event.closes := by
        change 0 < closesSent past
        rw [counted, closed]
        exact Nat.one_pos
      obtain ⟨event, member, closes⟩ := List.countP_pos_iff.mp positive
      exact List.any_eq_true.mpr ⟨event, member, closes⟩
  | false =>
      rw [closed] at counted
      refine List.any_eq_false.mpr fun event member => ?_
      rw [closesSent_eq_zero.mp counted event member]
      exact Bool.false_ne_true

theorem Event.allows_silent {earlier later : Event τ} (silent : later.sends = false) :
    earlier.Allows later := by
  refine ⟨fun _ => silent, fun _ => ?_⟩
  cases later with
  | sent localId message => cases silent
  | _ => rfl

theorem ordered_of_quiet (quiet : ∀ event ∈ events, event.closes = false ∧ event.ends = false) :
    Ordered events := by
  refine List.pairwise_of_forall_mem_list fun earlier member _ _ => ⟨?_, ?_⟩
  · rw [(quiet earlier member).1]
    exact nofun
  · rw [(quiet earlier member).2]
    exact nofun

end Lists

section Requests

variable {host : TerminalHost τ} {session : SessionView} {request : ChannelRequest}
  {localId : UInt32} {channel next : Channel τ} {events : List (Event τ)}

theorem banner_of_not_pty (noPty : ∀ ptyReq, request.type ≠ .ptyReq ptyReq)
    (clientIdentity : Bytes) (postQuantumKx : Bool) :
    banner request clientIdentity postQuantumKx = none := by
  unfold banner
  split
  · rfl
  · split
    · rename_i ptyReq asked
      exact absurd asked (noPty ptyReq)
    · rfl

theorem Channel.finishEvents_any (channel : Channel τ) (localId : UInt32) (wantReply : Bool)
    (banner : Option Bytes) :
    (channel.finishEvents localId wantReply banner).any Event.sends =
        (wantReply || (channel.dueBanner banner).isSome) ∧
      (channel.finishEvents localId wantReply banner).any Event.carriesData =
        (channel.dueBanner banner).isSome ∧
      ∀ event ∈ channel.finishEvents localId wantReply banner,
        event.closes = false ∧ event.ends = false := by
  unfold Channel.finishEvents
  cases wantReply <;> cases channel.dueBanner banner <;>
    simp [Event.sends, Event.carriesData, Event.closes, Event.ends]

theorem Carried.events_any {options : KeyOptions} {type : ChannelRequestType}
    (done : Carried host options localId channel type events next) :
    events.any Event.sends = (type == .shell) ∧ events.any Event.carriesData = false ∧
      (∀ event ∈ events, event.closes = false ∧ event.ends = false) ∧
      next.sendWindow = channel.sendWindow := by
  cases done <;> simp [Event.sends, Event.carriesData, Event.closes, Event.ends]

theorem RequestAct.events_any (act : RequestAct host session request channel events next) :
    events.any Event.sends = channel.answers session (.request request) ∧
      events.any Event.carriesData = channel.showsBanner session (.request request) ∧
      ∀ event ∈ events, event.closes = false ∧ event.ends = false := by
  cases act with
  | @carried early middle done =>
      obtain ⟨sends, data, quiet, window⟩ := done.events_any
      obtain ⟨sendsOn, dataOn, quietOn⟩ := middle.finishEvents_any request.recipientChannel
        request.wantReply (banner request session.clientIdentity session.postQuantumKx)
      have due : middle.dueBanner (banner request session.clientIdentity session.postQuantumKx) =
          channel.dueBanner (banner request session.clientIdentity session.postQuantumKx) := by
        rw [Channel.dueBanner, Channel.dueBanner, window]
      refine ⟨?_, ?_, ?_⟩
      · rw [List.any_append, sends, sendsOn, due, Channel.answers, Channel.showsBanner,
          ← Bool.or_assoc, Bool.or_comm (request.type == .shell)]
      · rw [List.any_append, data, dataOn, due, Channel.showsBanner, Bool.false_or]
      · intro event member
        rcases List.mem_append.mp member with before | behind
        · exact quiet event before
        · exact quietOn event behind
  | refused noPty noShell =>
      have none := banner_of_not_pty noPty session.clientIdentity session.postQuantumKx
      have isShell : (request.type == .shell) = false := beq_eq_false_iff_ne.mpr noShell
      rw [Channel.answers, Channel.showsBanner, none, isShell]
      cases request.wantReply <;>
        simp [Channel.dueBanner, Event.sends, Event.carriesData, Event.closes, Event.ends]

end Requests

section Messages

variable {host : TerminalHost τ} {session : SessionView} {message : IncomingChannelMessage}
  {localId : UInt32} {channel next : Channel τ} {past events : List (Event τ)}
  {entry : Option (Channel τ)}

theorem Channel.topUpEvents_any (channel : Channel τ) (localId : UInt32) :
    (channel.topUpEvents localId).any Event.sends =
        decide (channel.receiveWindow < initialWindowSize / 2) ∧
      (channel.topUpEvents localId).any Event.carriesData = false ∧
      ∀ event ∈ channel.topUpEvents localId, event.closes = false ∧ event.ends = false := by
  unfold Channel.topUpEvents
  split <;> rename_i low <;>
    simp [low, Event.sends, Event.carriesData, Event.closes, Event.ends]

theorem Channel.closeEvents_any (channel : Channel τ) (localId : UInt32) :
    (channel.closeEvents localId).any Event.sends = !channel.closeSent ∧
      (channel.closeEvents localId).any Event.carriesData = false := by
  unfold Channel.closeEvents
  cases channel.closeSent <;> simp [Event.sends, Event.carriesData]

theorem Channel.closeEvents_ordered (channel : Channel τ) (localId : UInt32)
    {events : List (Event τ)} (quiet : ∀ event ∈ events, event.sends = false) :
    Ordered (channel.closeEvents localId ++ events) := by
  refine List.pairwise_append.mpr ⟨?_, ?_, ?_⟩
  · unfold Channel.closeEvents
    cases channel.closeSent
    · exact List.pairwise_singleton _ _
    · exact List.Pairwise.nil
  · exact List.pairwise_of_forall_mem_list fun _ _ later member =>
      Event.allows_silent (quiet later member)
  · intro earlier _ later member
    exact Event.allows_silent (quiet later member)

theorem MessageAct.events_any
    (act : MessageAct host session localId channel message events entry) :
    (channel.closeSent = true → events.any Event.sends = channel.answers session message) ∧
      events.any Event.carriesData = channel.showsBanner session message ∧ Ordered events := by
  cases act with
  | request same act =>
      obtain ⟨sends, data, quiet⟩ := act.events_any
      exact ⟨fun _ => sends, data, ordered_of_quiet quiet⟩
  | @data data window same fits =>
      obtain ⟨sends, dataOn, quiet⟩ :=
        { channel with receiveWindow := window }.topUpEvents_any localId
      refine ⟨?_, ?_, ?_⟩
      · intro _
        rw [List.any_cons, sends, Channel.answers, fits]
        rfl
      · rw [List.any_cons, dataOn]
        rfl
      · exact ordered_of_quiet (List.forall_mem_cons.mpr ⟨⟨rfl, rfl⟩, quiet⟩)
  | adjusted same => exact ⟨fun _ => rfl, rfl, List.pairwise_singleton _ _⟩
  | eof same => exact ⟨fun _ => rfl, rfl, List.Pairwise.nil⟩
  | killed same held fresh =>
      obtain ⟨sends, data⟩ := channel.closeEvents_any localId
      refine ⟨?_, ?_, channel.closeEvents_ordered localId (by simp [Event.sends])⟩
      · intro closed
        rw [List.any_append, sends, closed]
        rfl
      · rw [List.any_append, data]
        rfl
  | awaited same reaps =>
      obtain ⟨sends, data⟩ := channel.closeEvents_any localId
      refine ⟨?_, data, ?_⟩
      · intro closed
        rw [sends, closed]
        rfl
      · rw [← List.append_nil (channel.closeEvents localId)]
        exact channel.closeEvents_ordered localId nofun
  | removed same free =>
      obtain ⟨sends, data⟩ := channel.closeEvents_any localId
      refine ⟨?_, ?_, channel.closeEvents_ordered localId (by simp [Event.sends])⟩
      · intro closed
        rw [List.any_append, sends, closed]
        rfl
      · rw [List.any_append, data]
        rfl

structure Orderly (entry : Option (Channel τ)) (past : List (Event τ)) : Prop where
  ordered : Ordered past
  ledger : CloseLedger entry past
  settled : ∀ channel, entry = some channel → channel.closeSent = true → channel.settled = true

def Channel.InTime (channel : Channel τ) (past : List (Event τ)) (session : SessionView)
    (message : IncomingChannelMessage) : Prop :=
  (channel.closeSent = true → channel.answers session message = false) ∧
    (eofSent past = true → channel.showsBanner session message = false)

theorem MessageAct.ordered_iff
    (act : MessageAct host session localId channel message events entry)
    (orderly : Orderly (some channel) past) :
    Ordered (past ++ events) ↔ channel.InTime past session message := by
  obtain ⟨sends, data, inner⟩ := act.events_any
  rw [ordered_append, orderly.ledger.any_closes, data]
  constructor
  · rintro ⟨_, _, closed, ended⟩
    refine ⟨?_, ended⟩
    intro isClosed
    rw [← sends isClosed]
    exact closed isClosed
  · rintro ⟨closed, ended⟩
    refine ⟨orderly.ordered, inner, ?_, ended⟩
    intro isClosed
    rw [sends isClosed]
    exact closed isClosed

theorem Channel.settled_congr (same : next.terminal = channel.terminal) :
    next.settled = channel.settled := by
  rw [Channel.settled, Channel.settled, same]

theorem Orderly.acted (act : MessageAct host session localId channel message events entry)
    (inTime : channel.InTime past session message) (orderly : Orderly (some channel) past) :
    Orderly entry (past ++ events) := by
  refine ⟨(act.ordered_iff orderly).mpr inTime, orderly.ledger.message act, ?_⟩
  intro next entered closed
  have before := orderly.settled channel rfl
  cases act with
  | @request request _ _ same act =>
      cases entered
      obtain ⟨_, kept, _⟩ := act.quiet
      rw [kept] at closed
      have silent := inTime.1 closed
      cases act with
      | @carried _ middle done =>
          rw [Channel.settled_congr (Channel.finished_terminal middle _)]
          generalize kind : request.type = type at done
          cases done with
          | pty ptyReq => rfl
          | env allowed few => exact before closed
          | resize windowChange => exact before closed
          | shell requested spawned => simp [Channel.answers, kind] at silent
      | refused => exact before closed
  | data same fits =>
      cases entered
      rw [Channel.toppedUp_closeSent] at closed
      rw [Channel.settled_congr (Channel.toppedUp_terminal _)]
      exact before closed
  | adjusted same =>
      cases entered
      exact before closed
  | eof same =>
      cases entered
      exact before closed
  | killed same held fresh =>
      cases entered
      rfl
  | awaited same reaps =>
      cases entered
      rw [Channel.reaps] at reaps
      rw [Channel.settled]
      split at reaps
      · rename_i waiting
        rw [waiting]
      · cases reaps
  | removed same free => cases entered

theorem MessageStep.inTime {view last : View τ}
    (acted : MessageStep host session message view last)
    (holds : view.Every fun _ => Orderly)
    (ordered : ∀ localId, Ordered (eventsOf localId last.log))
    (addressed : message.recipient = some localId) (live : view.get localId = some channel) :
    channel.InTime (eventsOf localId view.log) session message := by
  cases acted with
  | refused => cases addressed
  | opened => cases addressed
  | acted here act =>
      cases act.addressed.symm.trans addressed
      cases live.symm.trans here
      have orderly := holds localId
      have behind := ordered localId
      rw [live] at orderly
      rw [View.change, eventsOf_own act.own] at behind
      exact (act.ordered_iff orderly).mp behind
  | unknown absent =>
      cases addressed
      cases absent.symm.trans live

end Messages

section Polls

variable {host : TerminalHost τ} {localId : UInt32} {channel : Channel τ}
  {past events : List (Event τ)} {entry : Option (Channel τ)} {view last : View τ}

theorem Orderly.silent (orderly : Orderly (some channel) past)
    (ledger : CloseLedger entry (past ++ events)) (quiet : ∀ event ∈ events, event.sends = false)
    (settled : ∀ next, entry = some next → next.closeSent = true → next.settled = true) :
    Orderly entry (past ++ events) := by
  refine ⟨List.pairwise_append.mpr ⟨orderly.ordered, ?_, ?_⟩, ledger, settled⟩
  · exact List.pairwise_of_forall_mem_list fun _ _ later member =>
      Event.allows_silent (quiet later member)
  · intro earlier _ later member
    exact Event.allows_silent (quiet later member)

theorem Orderly.unclosed (orderly : Orderly (some channel) past)
    (ledger : CloseLedger entry (past ++ events)) (unclosed : channel.closeSent = false)
    (inner : Ordered events)
    (inTime : eofSent past = true → events.any Event.carriesData = false)
    (settled : ∀ next, entry = some next → next.closeSent = true → next.settled = true) :
    Orderly entry (past ++ events) := by
  refine ⟨ordered_append.mpr ⟨orderly.ordered, inner, ?_, inTime⟩, ledger, settled⟩
  rw [orderly.ledger.any_closes, unclosed]
  exact nofun

theorem Orderly.closeSent_of_unsettled (orderly : Orderly (some channel) past)
    (unsettled : channel.settled = false) : channel.closeSent = false := by
  by_contra closed
  rw [orderly.settled channel rfl (Bool.not_eq_false _ ▸ closed)] at unsettled
  cases unsettled

theorem Orderly.polled (act : PollAct host localId channel events entry)
    (inTime : channel.runs = true → (∃ terminal data, .read localId terminal data ∈ events) →
      eofSent past = false)
    (orderly : Orderly (some channel) past) : Orderly entry (past ++ events) := by
  have ledger := orderly.ledger.polled act
  have before := orderly.settled channel rfl
  obtain ⟨_, visit⟩ := act
  cases visit with
  | idle =>
      rw [List.append_nil]
      exact orderly
  | @output terminal _ running =>
      have unclosed := orderly.closeSent_of_unsettled (by rw [Channel.settled, running])
      have fresh : eofSent past = false := by
        exact inTime (by rw [Channel.runs, running]) ⟨terminal, _, List.mem_cons_self⟩
      refine orderly.unclosed ledger unclosed ?_ ?_ ?_
      · exact ordered_of_quiet (by simp [Event.closes, Event.ends])
      · rw [fresh]
        exact (absurd · Bool.false_ne_true)
      · intro next entered closed
        cases entered
        rw [unclosed] at closed
        cases closed
  | ended running =>
      have unclosed := orderly.closeSent_of_unsettled (by rw [Channel.settled, running])
      refine orderly.unclosed ledger unclosed (List.pairwise_singleton _ _) (fun _ => rfl) ?_
      intro next entered closed
      cases entered
      rw [unclosed] at closed
      cases closed
  | status exited unclosed =>
      refine orderly.unclosed ledger unclosed (List.pairwise_singleton _ _) (fun _ => rfl) ?_
      intro next entered _
      cases entered
      rfl
  | statusDropped exited =>
      refine orderly.silent ledger (List.forall_mem_nil _) ?_
      intro next entered _
      cases entered
      rfl
  | waitedStatus exiting waited unclosed =>
      refine orderly.unclosed ledger unclosed ?_ (fun _ => rfl) ?_
      · exact ordered_of_quiet (by simp [Event.closes, Event.ends])
      · intro next entered _
        cases entered
        rfl
  | waitedDropped exiting waited =>
      refine orderly.silent ledger (by simp [Event.sends]) ?_
      intro next entered _
      cases entered
      rfl
  | waitedClosed exiting waited _ unclosed =>
      refine orderly.unclosed ledger unclosed ?_ (fun _ => rfl) ?_
      · exact List.pairwise_pair.mpr
          ⟨(absurd · Bool.false_ne_true), (absurd · Bool.false_ne_true)⟩
      · intro next entered _
        cases entered
        rfl
  | overdue exiting =>
      refine orderly.silent ledger (by simp [Event.sends]) ?_
      intro next entered closed
      cases entered
      exact before closed
  | closed closing unclosed =>
      refine orderly.unclosed ledger unclosed (List.pairwise_singleton _ _) (fun _ => rfl) ?_
      intro next entered _
      cases entered
      rw [Channel.settled, closing]
  | reaped reaping waited =>
      refine orderly.silent ledger (by simp [Event.sends]) ?_
      intro next entered
      cases entered
  | expired reaping passed =>
      refine orderly.silent ledger (by simp [Event.sends]) ?_
      intro next entered
      cases entered

theorem PollAct.runs_before {next : Channel τ}
    (act : PollAct host localId channel events (some next)) (running : next.runs = true)
    (ended : eofSent (past ++ events) = true) : channel.runs = true ∧ eofSent past = true := by
  obtain ⟨_, visit⟩ := act
  cases visit with
  | idle =>
      rw [List.append_nil] at ended
      exact ⟨running, ended⟩
  | output =>
      refine ⟨running, ?_⟩
      simpa [eofSent, Event.ends] using ended
  | overdue exiting =>
      rw [Channel.runs, exiting] at running
      cases running
  | closed closing =>
      change channel.runs = true at running
      rw [Channel.runs, closing] at running
      cases running
  | ended | status | statusDropped | waitedStatus | waitedDropped | waitedClosed => cases running

theorem PollAct.sends_read {other : UInt32} {terminal : τ} {data : Bytes}
    (act : PollAct host localId channel events entry)
    (read : .read other terminal data ∈ events) :
    ∃ sent, .sent other (.data sent) ∈ events := by
  obtain ⟨_, visit⟩ := act
  cases visit with
  | output =>
      simp only [List.mem_cons, Event.read.injEq, reduceCtorEq, List.not_mem_nil, or_false] at read
      rw [read.1]
      exact ⟨_, List.mem_cons_of_mem _ List.mem_cons_self⟩
  | _ => simp at read

theorem PollSteps.grown (steps : PollSteps host view last) :
    ∃ more, last.log = view.log ++ more ∧ (∀ event ∈ more, event.opens = false) ∧
      ∀ localId terminal data, .read localId terminal data ∈ more →
        ∃ sent, .sent localId (.data sent) ∈ more := by
  induction steps with
  | refl => exact ⟨[], (List.append_nil _).symm, nofun, nofun⟩
  | tail _ step ih =>
      obtain ⟨more, grown, closed, sends⟩ := ih
      cases step with
      | @polled localId channel events entry live act =>
          refine ⟨more ++ events, ?_, ?_, ?_⟩
          · rw [View.change, grown, List.append_assoc]
          · intro event member
            rcases List.mem_append.mp member with before | behind
            · exact closed event before
            · exact (act.own event behind).2
          · intro other terminal data read
            rcases List.mem_append.mp read with before | behind
            · obtain ⟨sent, member⟩ := sends other terminal data before
              exact ⟨sent, List.mem_append_left _ member⟩
            · obtain ⟨sent, member⟩ := act.sends_read behind
              exact ⟨sent, List.mem_append_right _ member⟩

theorem Orderly.polls {more : List (Event τ)} (steps : PollSteps host view last)
    (grown : last.log = view.log ++ more)
    (inTime : ∀ localId terminal data, .read localId terminal data ∈ more →
      eofSent (eventsOf localId view.log) = false)
    (holds : view.Every fun _ => Orderly) :
    last.Every fun localId entry past => Orderly entry past ∧
      ∀ channel, entry = some channel → channel.runs = true → eofSent past = true →
        eofSent (eventsOf localId view.log) = true := by
  induction steps generalizing more with
  | refl => exact fun localId => ⟨holds localId, fun _ _ _ ended => ended⟩
  | tail before step ih =>
      obtain ⟨early, grownBefore, _, _⟩ := PollSteps.grown before
      cases step with
      | @polled localId channel events entry live act =>
          rw [View.change, grownBefore, List.append_assoc, List.append_cancel_left_eq] at grown
          subst grown
          have earlier := ih grownBefore fun localId terminal data read =>
            inTime localId terminal data (List.mem_append_left _ read)
          refine earlier.act live act.own ?_
          rintro ⟨orderly, stopped⟩
          refine ⟨orderly.polled act ?_, ?_⟩
          · rintro running ⟨terminal, data, read⟩
            have fresh := inTime localId terminal data (List.mem_append_right _ read)
            by_contra ended
            rw [stopped channel rfl running (Bool.not_eq_false _ ▸ ended)] at fresh
            cases fresh
          · rintro next rfl running ended
            obtain ⟨ran, already⟩ := act.runs_before running ended
            exact stopped channel rfl ran already

end Polls

section Choice

variable {host : TerminalHost τ} {localId head : UInt32} {localIds : List UInt32}
  {channel : Channel τ} {entry : Option (Channel τ)} {events : List (Event τ)} {polled : Polled}
  {mux last : Mux σ τ}

theorem Channel.rests_read {terminal : τ} {outcome : ReadOutcome}
    (running : channel.terminal = some (.running terminal))
    (read : host.pollRead terminal (min (readLimit channel) bufLen) = .ready (.ok outcome))
    (room : readLimit channel ≠ 0) : channel.rests host localId = false := by
  rw [Channel.rests_running running, read, beq_eq_false_iff_ne.mpr room]
  rfl

theorem Channel.rests_of_outputs (outputs : channel.outputs host = true) :
    channel.rests host localId = false := by
  unfold Channel.outputs at outputs
  split at outputs
  · rename_i terminal running
    obtain ⟨room, outputs⟩ := Bool.and_eq_true_iff.mp outputs
    split at outputs
    · rename_i outcome read
      exact Channel.rests_read running read (bne_iff_ne.mp room)
    · cases outputs
  · cases outputs

theorem Channel.outputs_of_idle {state : TerminalState τ} (present : channel.terminal = some state)
    (stopped : ∀ terminal, state ≠ .running terminal) : channel.outputs host = false := by
  unfold Channel.outputs
  split
  · rename_i terminal running
    cases present.symm.trans running
    exact absurd rfl (stopped terminal)
  · rfl

theorem Visit.next_iff (visit : Visit host localId channel polled events entry) :
    polled = .next ↔ channel.rests host localId = true := by
  have goesOn (rests : channel.rests host localId = true) :
      Polled.next = .next ↔ channel.rests host localId = true := iff_of_true rfl rests
  have ends {other : Polled} (different : other ≠ .next)
      (busy : channel.rests host localId = false) :
      other = .next ↔ channel.rests host localId = true :=
    iff_of_false different (by rw [busy]; exact Bool.false_ne_true)
  cases visit with
  | idle waits => exact goesOn waits.rests
  | output running read room | ended running read room =>
      exact ends (fun other => by cases other) (Channel.rests_read running read room)
  | status exited unclosed =>
      exact ends (fun other => by cases other) (by rw [Channel.rests, exited]; exact unclosed)
  | statusDropped exited closed => exact goesOn (by rw [Channel.rests, exited]; exact closed)
  | waitedStatus exiting waited unclosed | waitedClosed exiting waited _ unclosed =>
      refine ends (fun other => by cases other) ?_
      rw [Channel.rests_exiting exiting, waited, unclosed]
      rfl
  | waitedDropped exiting waited closed =>
      refine goesOn ?_
      rw [Channel.rests_exiting exiting, closed, Bool.or_true]
  | overdue exiting waiting =>
      refine goesOn ?_
      rw [Channel.rests_exiting exiting, waiting]
      rfl
  | closed closing unclosed =>
      exact ends (fun other => by cases other) (by rw [Channel.rests, closing]; exact unclosed)
  | reaped reaping waited =>
      refine ends (fun other => by cases other) ?_
      rw [Channel.rests_reaping reaping, waited]
      rfl
  | expired reaping passed =>
      refine ends (fun other => by cases other) ?_
      rw [Channel.rests_reaping reaping, decide_eq_false (Nat.not_lt.mpr passed), Bool.and_false]

theorem Visit.reads_iff (visit : Visit host head channel polled events entry) :
    (∃ terminal data, .read localId terminal data ∈ events) ↔
      localId = head ∧ channel.outputs host = true := by
  have neither (silent : ∀ terminal data, .read localId terminal data ∉ events)
      (exhausted : channel.outputs host = false) :
      (∃ terminal data, .read localId terminal data ∈ events) ↔
        localId = head ∧ channel.outputs host = true := by
    refine iff_of_false ?_ ?_
    · rintro ⟨terminal, data, read⟩
      exact silent terminal data read
    · rintro ⟨_, outputs⟩
      rw [exhausted] at outputs
      cases outputs
  cases visit with
  | output running read room nonempty =>
      simp [Channel.outputs_running running read, room, nonempty]
  | idle waits =>
      refine neither (by simp) ?_
      by_contra outputs
      have rests := waits.rests
      rw [Channel.rests_of_outputs (Bool.not_eq_false _ ▸ outputs)] at rests
      cases rests
  | ended running read room empty =>
      refine neither (by simp) ?_
      rw [Channel.outputs_running running read, empty]
      exact Bool.and_false _
  | status state | statusDropped state | waitedStatus state | waitedDropped state
  | waitedClosed state | overdue state | closed state | reaped state | expired state =>
      exact neither (by simp) (Channel.outputs_of_idle state fun _ other => by cases other)

def GivesAmong (host : TerminalHost τ) (localIds : List UInt32) (mux : Mux σ τ)
    (localId : UInt32) : Prop :=
  localId ∈ localIds ∧ ∃ channel, mux.view.get localId = some channel ∧
    channel.outputs host = true ∧ ∀ other ∈ localIds, other < localId →
      ∀ entry, mux.view.get other = some entry → entry.rests host other = true

theorem givesAmong_busy (sorted : (head :: localIds).Pairwise (· < ·))
    (live : mux.view.get head = some channel) (busy : channel.rests host head = false) :
    GivesAmong host (head :: localIds) mux localId ↔
      localId = head ∧ channel.outputs host = true := by
  have later := (List.pairwise_cons.mp sorted).1
  constructor
  · rintro ⟨member, found, there, outputs, before⟩
    rcases List.mem_cons.mp member with rfl | behind
    · cases live.symm.trans there
      exact ⟨rfl, outputs⟩
    · have rests := before head List.mem_cons_self (later localId behind) channel live
      rw [busy] at rests
      cases rests
  · rintro ⟨rfl, outputs⟩
    refine ⟨List.mem_cons_self, channel, live, outputs, ?_⟩
    intro other among smaller
    rcases List.mem_cons.mp among with rfl | behind
    · exact absurd smaller (UInt32.lt_irrefl _)
    · exact absurd (later other behind) (UInt32.lt_asymm smaller)

variable [SealingKey σ]

theorem givesAmong_rests {middle : Mux σ τ} (sorted : (head :: localIds).Pairwise (· < ·))
    (live : mux.view.get head = some channel) (rests : channel.rests host head = true)
    (leaves : Leaves head entry events mux middle) :
    GivesAmong host (head :: localIds) mux localId ↔ GivesAmong host localIds middle localId := by
  have later := (List.pairwise_cons.mp sorted).1
  have apart {other : UInt32} (behind : other ∈ localIds) :
      middle.view.get other = mux.view.get other :=
    leaves.get_of_ne (UInt32.ne_of_lt (later other behind)).symm
  constructor
  · rintro ⟨member, found, there, outputs, before⟩
    rcases List.mem_cons.mp member with rfl | behind
    · cases live.symm.trans there
      rw [Channel.rests_of_outputs outputs] at rests
      cases rests
    · refine ⟨behind, found, (apart behind).trans there, outputs, ?_⟩
      intro other among smaller entry stands
      rw [apart among] at stands
      exact before other (List.mem_cons_of_mem _ among) smaller entry stands
  · rintro ⟨behind, found, there, outputs, before⟩
    refine ⟨List.mem_cons_of_mem _ behind, found, (apart behind).symm.trans there, outputs, ?_⟩
    intro other among smaller entry stands
    rcases List.mem_cons.mp among with rfl | inside
    · cases live.symm.trans stands
      exact rests
    · exact before other inside smaller entry ((apart inside).trans stands)

omit [SealingKey σ] in
theorem givesAmong_absent (gone : mux.view.get head = none) :
    GivesAmong host (head :: localIds) mux localId ↔ GivesAmong host localIds mux localId := by
  constructor
  · rintro ⟨member, found, there, outputs, before⟩
    rcases List.mem_cons.mp member with rfl | behind
    · cases gone.symm.trans there
    · exact ⟨behind, found, there, outputs, fun other among =>
        before other (List.mem_cons_of_mem _ among)⟩
  · rintro ⟨behind, found, there, outputs, before⟩
    refine ⟨List.mem_cons_of_mem _ behind, found, there, outputs, ?_⟩
    intro other among smaller entry stands
    rcases List.mem_cons.mp among with rfl | inside
    · cases gone.symm.trans stands
    · exact before other inside smaller entry stands

theorem Visits.reads_iff {value : Poll Unit} (visits : Visits host localIds mux value last)
    (sorted : localIds.Pairwise (· < ·)) {more : List (Event τ)}
    (grown : last.log = mux.log ++ more) :
    (∃ terminal data, .read localId terminal data ∈ more) ↔
      GivesAmong host localIds mux localId := by
  induction visits generalizing more with
  | pending =>
      have none : more = [] := List.self_eq_append_right.mp grown
      subst none
      refine iff_of_false ?_ fun gives => List.not_mem_nil gives.1
      rintro ⟨_, _, read⟩
      exact List.not_mem_nil read
  | absent gone rest ih =>
      exact (ih (List.pairwise_cons.mp sorted).2 grown).trans (givesAmong_absent gone).symm
  | @next head localIds channel events entry mux middle value last live visit leaves rest ih =>
      obtain ⟨behind, after, _, _⟩ := PollSteps.grown rest.acts
      have log : middle.log = mux.log ++ events := congrArg View.log leaves.view
      change last.log = middle.log ++ behind at after
      have split : more = events ++ behind := by
        rw [after, log, List.append_assoc] at grown
        exact (List.append_cancel_left grown).symm
      have rests := visit.next_iff.mp rfl
      have silent : ¬ ∃ terminal data, .read localId terminal data ∈ events := by
        rw [visit.reads_iff]
        rintro ⟨_, outputs⟩
        rw [Channel.rests_of_outputs outputs] at rests
        cases rests
      rw [givesAmong_rests sorted live rests leaves,
        ← ih (List.pairwise_cons.mp sorted).2 after, split]
      constructor
      · rintro ⟨terminal, data, read⟩
        rcases List.mem_append.mp read with early | late
        · exact absurd ⟨terminal, data, early⟩ silent
        · exact ⟨terminal, data, late⟩
      · rintro ⟨terminal, data, read⟩
        exact ⟨terminal, data, List.mem_append_right _ read⟩
  | ready live visit leaves | remove live visit leaves =>
      have same := List.append_cancel_left ((congrArg View.log leaves.view).symm.trans grown)
      have busy := Bool.eq_false_iff.mpr fun rests => by cases visit.next_iff.mpr rests
      rw [givesAmong_busy sorted live busy, ← same]
      exact visit.reads_iff

end Choice

section Runs

variable [SealingKey σ]

/-- The shell of the channel has output, and a poll passes over every channel before it. -/
def Mux.Gives (mux : Mux σ τ) (host : TerminalHost τ) (localId : UInt32) : Prop :=
  ∃ channel, mux.view.get localId = some channel ∧ channel.outputs host = true ∧
    ∀ other < localId, ∀ entry, mux.view.get other = some entry → entry.rests host other = true

omit [SealingKey σ] in
theorem gives_iff {mux : Mux σ τ} {host : TerminalHost τ} {localId : UInt32} :
    mux.Gives host localId ↔ GivesAmong host mux.channels.channels.keys mux localId := by
  constructor
  · rintro ⟨channel, live, outputs, before⟩
    exact ⟨mem_keys_of_live live, channel, live, outputs, fun other _ => before other⟩
  · rintro ⟨_, channel, live, outputs, before⟩
    exact ⟨channel, live, outputs, fun other smaller entry stands =>
      before other (mem_keys_of_live stands) smaller entry stands⟩

omit [SealingKey σ] in
theorem keys_sorted (mux : Mux σ τ) : mux.channels.channels.keys.Pairwise (· < ·) := by
  have ordered : mux.channels.channels.keys.Pairwise fun left right => compare left right = .lt :=
    Std.TreeMap.ordered_keys
  exact ordered.imp compareOfLessAndEq_eq_lt.mp

theorem step_reads_iff {mux next : Mux σ τ} {step : SessionStep σ τ} {more : List (Event τ)}
    {localId : UInt32} (stepped : mux.step step = some next) (polls : step.input = .terminals)
    (grown : next.log = mux.log ++ more) :
    (∃ terminal data, .read localId terminal data ∈ more) ↔ mux.Gives step.host localId := by
  obtain ⟨begun, same, done⟩ := Mux.step_some stepped
  obtain ⟨input, host, write⟩ := step
  cases polls
  obtain ⟨polled, last, poll, done⟩ := exec_bind_ok.mp done
  cases done
  have before : begun.log = mux.log := congrArg View.log same
  have alike : begun.Gives host localId ↔ mux.Gives host localId := by
    unfold Mux.Gives
    rw [same]
  rw [← before] at grown
  exact ((poll_visits poll).reads_iff (keys_sorted _) grown).trans (gives_iff.symm.trans alike)

/-- The step calls for no message that its channel may not have any more. -/
structure Mux.Timely (mux : Mux σ τ) (step : SessionStep σ τ) : Prop where
  message : ∀ session message localId channel, step.Delivers session message →
    message.recipient = some localId → mux.view.get localId = some channel →
      channel.InTime (eventsOf localId mux.log) session message
  output : step.input = .terminals → ∀ localId, mux.Gives step.host localId →
    eofSent (eventsOf localId mux.log) = false

theorem orderly_begins : Begins fun _ (entry : Option (Channel τ)) past => Orderly entry past where
  vacant localId := ⟨List.Pairwise.nil, closeLedger_invariant.vacant localId, nofun⟩
  opened localId open_ := by
    refine ⟨?_, closeLedger_invariant.opened localId open_, ?_⟩
    · exact ordered_of_quiet (by simp [Event.closes, Event.ends])
    · intro channel entered closed
      cases entered
      cases closed

def Mux.Orderly (mux : Mux σ τ) : Prop := mux.view.Every fun _ => Oxish.Orderly

theorem orderly_step {mux next : Mux σ τ} {step : SessionStep σ τ}
    (holds : mux.Orderly) (stepped : mux.step step = some next)
    (timely : mux.Timely step) : next.Orderly := by
  rcases step_acts stepped with ⟨session, message, delivers, acted⟩ | ⟨polls, polled⟩
  · refine orderly_begins.message ?_ acted holds
    intro localId channel events entry live act orderly
    exact orderly.acted act
      (timely.message session message localId channel delivers act.addressed live)
  · obtain ⟨more, grown, _, _⟩ := PollSteps.grown polled
    have every := Orderly.polls polled grown (fun localId terminal data read =>
      timely.output polls localId
        ((step_reads_iff stepped polls grown).mp ⟨terminal, data, read⟩)) holds
    exact fun localId => (every localId).1

theorem timely_of_ordered {mux next : Mux σ τ} {step : SessionStep σ τ} (holds : mux.Orderly)
    (stepped : mux.step step = some next) (ordered : next.Ordered) : mux.Timely step := by
  refine ⟨?_, ?_⟩
  · intro session message localId channel delivers addressed live
    exact (step_delivers stepped delivers).inTime holds ordered addressed live
  · intro polls localId gives
    obtain ⟨more, grown, closed, sends⟩ := PollSteps.grown (step_terminals stepped polls)
    obtain ⟨terminal, data, read⟩ := (step_reads_iff stepped polls grown).mpr gives
    obtain ⟨sent, member⟩ := sends localId terminal data read
    by_contra ended
    have behind := ordered localId
    change Oxish.Ordered (eventsOf localId next.view.log) at behind
    rw [grown, eventsOf_continued fun event member _ => closed event member] at behind
    obtain ⟨_, _, _, quiet⟩ := ordered_append.mp behind
    have silent := List.any_eq_false.mp (quiet (Bool.not_eq_false _ ▸ ended)) _
      (List.mem_filter.mpr ⟨member, decide_eq_true rfl⟩)
    exact silent rfl

/-- The messages of every channel come in order all along a run exactly when every step of the run
comes in time. -/
theorem messages_in_order_iff (write : WriteState σ) (steps : List (SessionStep σ τ))
    {last : Mux σ τ} (ran : History.run Mux.step (Mux.start write) steps = some last) :
    History.Always Mux.step (Mux.start write) steps Mux.Ordered ↔
      History.Throughout Mux.step (Mux.start write) steps Mux.Timely := by
  have initial : (Mux.start write : Mux σ τ).Orderly := orderly_begins.start write
  rw [History.always_iff_everyStep fun localId => (initial localId).ordered]
  refine History.everyStep_iff_throughout initial ?_ ?_ ran
  · intro mux step next holds stepped timely
    have after := orderly_step holds stepped timely
    exact ⟨fun localId => (after localId).ordered, after⟩
  · intro mux step next holds stepped ordered
    exact timely_of_ordered holds stepped ordered

end Runs

section Clients

def exitSteps : List (SessionStep PlainSealer Unit) :=
  [openStep, ptyStep, shellStep, pollStep exitedHost, pollStep exitedHost, pollStep exitedHost]

def askStep : SessionStep PlainSealer Unit :=
  receivedStep .channelRequest
    (encodeU32 0 ++ encodeBytes (strBytes "env") ++ encodeBool true ++ encodeBytes (strBytes "A") ++
      encodeBytes (strBytes "B"))

def secondShellSteps : List (SessionStep PlainSealer Unit) :=
  [openStep, ptyStep, shellStep, pollStep exitedHost, ptyStep, shellStep, greetingStep]

theorem run_not_ordered {steps : List (SessionStep PlainSealer Unit)}
    (check : (History.run Mux.step (Mux.start plainWriter) steps).map
      (fun last => decide (Ordered (eventsOf 0 last.log))) = some false) :
    ∃ last, History.run Mux.step (Mux.start plainWriter) steps = some last ∧ ¬ last.Ordered := by
  obtain ⟨last, ran, failed⟩ := Option.map_eq_some_iff.mp check
  exact ⟨last, ran, fun ordered => of_decide_eq_false failed (ordered 0)⟩

/-- A request that crosses the server's close is answered behind the close, and a second shell
writes behind the end of file of the first. -/
theorem messages_out_of_order :
    (∃ last, History.run Mux.step (Mux.start plainWriter) (exitSteps ++ [askStep]) = some last ∧
      ¬ last.Ordered) ∧
    ∃ last, History.run Mux.step (Mux.start plainWriter) secondShellSteps = some last ∧
      ¬ last.Ordered := by
  constructor
  · exact run_not_ordered (by decide +kernel)
  · exact run_not_ordered (by decide +kernel)

theorem messages_in_order_iff_exited :
    ∃ last, History.run Mux.step (Mux.start plainWriter) exitSteps = some last ∧
      Ordered (eventsOf 0 last.log) ∧ closesSent (eventsOf 0 last.log) = 1 ∧
      (History.Always Mux.step (Mux.start plainWriter) exitSteps Mux.Ordered ↔
        History.Throughout Mux.step (Mux.start plainWriter) exitSteps Mux.Timely) := by
  have check : (History.run Mux.step (Mux.start plainWriter) exitSteps).map
      (fun last => (decide (Ordered (eventsOf 0 last.log)), closesSent (eventsOf 0 last.log))) =
        some (true, 1) := by
    decide +kernel
  obtain ⟨last, ran, seen⟩ := Option.map_eq_some_iff.mp check
  obtain ⟨ordered, once⟩ := Prod.mk.inj seen
  exact ⟨last, ran, of_decide_eq_true ordered, once, messages_in_order_iff plainWriter _ ran⟩

end Clients

end Oxish
