import Oxish.Connections

/-!
What one client message does to its channel, and what one poll does to each channel it visits:
the events it leaves, in their order, and the entry it puts back. Every step of a session is one
message or a series of polls.
-/

namespace Oxish

open Stateful

variable {σ τ : Type}

section Requests

def Channel.dueBanner (channel : Channel τ) (banner : Option Bytes) : Option (Bytes × UInt32) :=
  banner.bind fun text =>
    (checkedSub channel.sendWindow (lenAsU32 text)).map fun window => (text, window)

def Channel.finishEvents (channel : Channel τ) (localId : UInt32) (wantReply : Bool)
    (banner : Option Bytes) : List (Event τ) :=
  (if wantReply then [.sent localId (.success channel.success)] else []) ++
    match channel.dueBanner banner with
    | some (text, _) => [.sent localId (.banner ⟨channel.remoteId, text⟩)]
    | none => []

def Channel.finished (channel : Channel τ) (banner : Option Bytes) : Channel τ :=
  match channel.dueBanner banner with
  | some (_, window) => { channel with sendWindow := window }
  | none => channel

@[simp] theorem Channel.finished_terminal (channel : Channel τ) (banner : Option Bytes) :
    (channel.finished banner).terminal = channel.terminal := by
  unfold Channel.finished
  split <;> rfl

@[simp] theorem Channel.finished_closeSent (channel : Channel τ) (banner : Option Bytes) :
    (channel.finished banner).closeSent = channel.closeSent := by
  unfold Channel.finished
  split <;> rfl

theorem Channel.mem_finishEvents {channel : Channel τ} {localId : UInt32} {wantReply : Bool}
    {banner : Option Bytes} {event : Event τ}
    (member : event ∈ channel.finishEvents localId wantReply banner) :
    (∃ success, event = .sent localId (.success success)) ∨
      ∃ data, event = .sent localId (.banner data) := by
  unfold Channel.finishEvents at member
  rcases List.mem_append.mp member with reply | text
  · split at reply
    · exact Or.inl ⟨_, List.mem_singleton.mp reply⟩
    · cases reply
  · split at text
    · exact Or.inr ⟨_, List.mem_singleton.mp text⟩
    · cases text

inductive Carried (host : TerminalHost τ) (options : KeyOptions) (localId : UInt32)
    (channel : Channel τ) : ChannelRequestType → List (Event τ) → Channel τ → Prop
  | pty (ptyReq : PtyReq) :
      Carried host options localId channel (.ptyReq ptyReq) []
        { channel with terminal := some (.requested ptyReq) }
  | env {env} (allowed : envAllowed env.name = true) (few : channel.env.length < 32) :
      Carried host options localId channel (.env env) []
        { channel with env := channel.env ++ [(env.name, env.value)] }
  | shell {ptyReq terminal} (requested : channel.terminal = some (.requested ptyReq))
      (spawned : host.spawn options.command ptyReq channel.env = .ok terminal) :
      Carried host options localId channel .shell
        [.spawned localId options.command channel.env terminal,
          .sent localId (.windowAdjust ⟨channel.remoteId, initialWindowSize⟩)]
        { channel with
          terminal := some (.running terminal), receiveWindow := initialWindowSize }
  | resize (windowChange : WindowChange) :
      Carried host options localId channel (.windowChange windowChange) [] channel

inductive RequestAct (host : TerminalHost τ) (session : SessionView) (request : ChannelRequest)
    (channel : Channel τ) : List (Event τ) → Channel τ → Prop
  | carried {events next} (done : Carried host session.options request.recipientChannel channel
        request.type events next) :
      RequestAct host session request channel
        (events ++ next.finishEvents request.recipientChannel request.wantReply
          (banner request session.clientIdentity session.postQuantumKx))
        (next.finished (banner request session.clientIdentity session.postQuantumKx))
  | refused (noPty : ∀ ptyReq, request.type ≠ .ptyReq ptyReq) (noShell : request.type ≠ .shell) :
      RequestAct host session request channel
        (if request.wantReply then [.sent request.recipientChannel (.failure channel.failure)]
          else []) channel

end Requests

section Messages

def Channel.topUpEvents (channel : Channel τ) (localId : UInt32) : List (Event τ) :=
  if channel.receiveWindow < initialWindowSize / 2 then
    [.sent localId (.windowAdjust
      ⟨channel.remoteId, initialWindowSize - channel.receiveWindow⟩)]
  else []

def Channel.toppedUp (channel : Channel τ) : Channel τ :=
  if channel.receiveWindow < initialWindowSize / 2 then
    { channel with receiveWindow := initialWindowSize }
  else channel

def Channel.closeEvents (channel : Channel τ) (localId : UInt32) : List (Event τ) :=
  if channel.closeSent then [] else [.sent localId (.close ⟨channel.remoteId⟩)]

theorem Channel.mem_topUpEvents {channel : Channel τ} {localId : UInt32} {event : Event τ}
    (member : event ∈ channel.topUpEvents localId) :
    ∃ adjust, event = .sent localId (.windowAdjust adjust) := by
  unfold Channel.topUpEvents at member
  split at member
  · exact ⟨_, List.mem_singleton.mp member⟩
  · cases member

theorem Channel.mem_closeEvents {channel : Channel τ} {localId : UInt32} {event : Event τ}
    (member : event ∈ channel.closeEvents localId) :
    event = .sent localId (.close ⟨channel.remoteId⟩) := by
  unfold Channel.closeEvents at member
  split at member
  · cases member
  · exact List.mem_singleton.mp member

def Channel.held (channel : Channel τ) : Option τ :=
  match channel.terminal with
  | some (.running terminal) | some (.exiting terminal _) | some (.reaping terminal _) =>
    some terminal
  | _ => none

def Channel.reaps (channel : Channel τ) : Bool :=
  match channel.terminal with
  | some (.reaping _ _) => true
  | _ => false

@[simp] theorem Channel.toppedUp_terminal (channel : Channel τ) :
    channel.toppedUp.terminal = channel.terminal := by
  unfold Channel.toppedUp
  split <;> rfl

@[simp] theorem Channel.toppedUp_closeSent (channel : Channel τ) :
    channel.toppedUp.closeSent = channel.closeSent := by
  unfold Channel.toppedUp
  split <;> rfl

def IncomingChannelMessage.recipient : IncomingChannelMessage → Option UInt32
  | .open _ => none
  | .request message => some message.recipientChannel
  | .data message => some message.recipientChannel
  | .windowAdjust message => some message.recipientChannel
  | .eof message => some message.recipientChannel
  | .close message => some message.recipientChannel

/-- What a message does to the live channel it is for. -/
inductive MessageAct (host : TerminalHost τ) (session : SessionView) (localId : UInt32)
    (channel : Channel τ) : IncomingChannelMessage → List (Event τ) → Option (Channel τ) → Prop
  | request {message events next} (same : message.recipientChannel = localId)
      (act : RequestAct host session message channel events next) :
      MessageAct host session localId channel (.request message) events (some next)
  | data {message window} (same : message.recipientChannel = localId)
      (fits : checkedSub channel.receiveWindow (lenAsU32 message.data) = some window) :
      MessageAct host session localId channel (.data message)
        (.accepted localId message.data ::
          { channel with receiveWindow := window }.topUpEvents localId)
        (some { channel with receiveWindow := window }.toppedUp)
  | adjusted {message} (same : message.recipientChannel = localId) :
      MessageAct host session localId channel (.windowAdjust message)
        [.granted localId message.bytesToAdd]
        (some { channel with sendWindow := saturatingAdd channel.sendWindow message.bytesToAdd })
  | eof {message} (same : message.recipientChannel = localId) :
      MessageAct host session localId channel (.eof message) [] (some channel)
  | killed {message terminal deadline} (same : message.recipientChannel = localId)
      (held : channel.held = some terminal) (fresh : channel.reaps = false) :
      MessageAct host session localId channel (.close message)
        (channel.closeEvents localId ++ [.killed localId terminal])
        (some { channel with closeSent := true, terminal := some (.reaping terminal deadline) })
  | awaited {message} (same : message.recipientChannel = localId) (reaps : channel.reaps = true) :
      MessageAct host session localId channel (.close message) (channel.closeEvents localId)
        (some { channel with closeSent := true })
  | removed {message} (same : message.recipientChannel = localId) (free : channel.held = none) :
      MessageAct host session localId channel (.close message)
        (channel.closeEvents localId ++ [.removed localId]) none

theorem MessageAct.addressed {host : TerminalHost τ} {session : SessionView}
    {message : IncomingChannelMessage} {localId : UInt32} {channel : Channel τ}
    {events : List (Event τ)} {entry : Option (Channel τ)}
    (act : MessageAct host session localId channel message events entry) :
    message.recipient = some localId := by
  cases act with
  | request same => exact congrArg some same
  | data same => exact congrArg some same
  | adjusted same => exact congrArg some same
  | eof same => exact congrArg some same
  | killed same => exact congrArg some same
  | awaited same => exact congrArg some same
  | removed same => exact congrArg some same

inductive MessageStep (host : TerminalHost τ) (session : SessionView) :
    IncomingChannelMessage → View τ → View τ → Prop
  | refused {view message} (failure : ChannelOpenFailure) :
      MessageStep host session (.open message) view ⟨view.get, view.log ++ [.refused failure]⟩
  | opened {view localId message} (vacant : view.get localId = none) :
      MessageStep host session (.open message) view
        (view.change localId (some (openedChannel message))
          [.opened localId message, .sent localId
            (.openConfirmation ((openedChannel message : Channel τ).confirmation localId))])
  | acted {view localId message channel events entry} (live : view.get localId = some channel)
      (act : MessageAct host session localId channel message events entry) :
      MessageStep host session message view (view.change localId entry events)
  | unknown {view message} (absent : view.get message.recipientChannel = none) :
      MessageStep host session (.close message) view view

end Messages

section Polls

open TerminalsFuture

def TerminalsFuture.readLimit (channel : Channel τ) : Nat :=
  (min channel.maximumPacketSize channel.sendWindow).toNat

def TerminalsFuture.Unread (host : TerminalHost τ) (channel : Channel τ) : Prop :=
  ∀ terminal, channel.terminal = some (.running terminal) →
    readLimit channel = 0 ∨ host.pollRead terminal (min (readLimit channel) bufLen) = .pending

/-- A poll of the channel has nothing to do now. -/
def Channel.Waits (host : TerminalHost τ) (localId : UInt32) (channel : Channel τ) : Prop :=
  match channel.terminal with
  | none | some (.requested _) => True
  | some (.running terminal) =>
    readLimit channel = 0 ∨ host.pollRead terminal (min (readLimit channel) bufLen) = .pending
  | some (.exiting terminal _) => host.pollWait terminal = .pending
  | some (.exited _) => False
  | some (.reaping terminal deadline) =>
    host.pollWait terminal = .pending ∧ host.now localId < deadline
  | some .closing => channel.closeSent = true

def Poll.isPending {α : Type} : Poll α → Bool
  | .pending => true
  | .ready _ => false

/-- A poll passes the channel over. -/
def Channel.rests (host : TerminalHost τ) (localId : UInt32) (channel : Channel τ) : Bool :=
  match channel.terminal with
  | none | some (.requested _) => true
  | some (.running terminal) =>
    readLimit channel == 0 || (host.pollRead terminal (min (readLimit channel) bufLen)).isPending
  | some (.exiting terminal _) => (host.pollWait terminal).isPending || channel.closeSent
  | some (.exited _) | some .closing => channel.closeSent
  | some (.reaping terminal deadline) =>
    (host.pollWait terminal).isPending && decide (host.now localId < deadline)

/-- The shell of the channel has output, and the client has room for it. -/
def Channel.outputs (host : TerminalHost τ) (channel : Channel τ) : Bool :=
  match channel.terminal with
  | some (.running terminal) => readLimit channel != 0 &&
    match host.pollRead terminal (min (readLimit channel) bufLen) with
    | .ready (.ok outcome) => outcome.count != 0
    | _ => false
  | _ => false

section Rests

variable {host : TerminalHost τ} {localId : UInt32} {channel : Channel τ} {terminal : τ}
  {deadline : Instant}

theorem Channel.rests_running (running : channel.terminal = some (.running terminal)) :
    channel.rests host localId = (readLimit channel == 0 ||
      (host.pollRead terminal (min (readLimit channel) bufLen)).isPending) := by
  rw [Channel.rests, running]

theorem Channel.rests_exiting (exiting : channel.terminal = some (.exiting terminal deadline)) :
    channel.rests host localId = ((host.pollWait terminal).isPending || channel.closeSent) := by
  rw [Channel.rests, exiting]

theorem Channel.rests_reaping (reaping : channel.terminal = some (.reaping terminal deadline)) :
    channel.rests host localId =
      ((host.pollWait terminal).isPending && decide (host.now localId < deadline)) := by
  rw [Channel.rests, reaping]

theorem Channel.outputs_running {outcome : ReadOutcome}
    (running : channel.terminal = some (.running terminal))
    (read : host.pollRead terminal (min (readLimit channel) bufLen) = .ready (.ok outcome)) :
    channel.outputs host = (readLimit channel != 0 && outcome.count != 0) := by
  unfold Channel.outputs
  rw [running]
  dsimp only
  rw [read]

theorem Channel.Waits.rests (waits : channel.Waits host localId) :
    channel.rests host localId = true := by
  unfold Channel.Waits at waits
  unfold Channel.rests
  generalize channel.terminal = entry at waits ⊢
  cases entry with
  | none => rfl
  | some state =>
      cases state with
      | requested => rfl
      | running =>
          rcases waits with none | pending
          · simp [none]
          · simp [pending, Poll.isPending]
      | exiting => simp [show host.pollWait _ = .pending from waits, Poll.isPending]
      | exited => exact waits.elim
      | reaping => simp [waits.1, waits.2, Poll.isPending]
      | closing => exact waits

end Rests

/-- All that the poll of one channel can come to: how it ends, the events it leaves and the entry
that is left. -/
inductive Visit (host : TerminalHost τ) (localId : UInt32) (channel : Channel τ) :
    Polled → List (Event τ) → Option (Channel τ) → Prop
  | idle (waits : channel.Waits host localId) : Visit host localId channel .next [] (some channel)
  | output {terminal outcome} (running : channel.terminal = some (.running terminal))
      (polled : host.pollRead terminal (min (readLimit channel) bufLen) = .ready (.ok outcome))
      (room : readLimit channel ≠ 0) (nonempty : outcome.count ≠ 0)
      (inside : outcome.count ≤ bufLen) :
      Visit host localId channel .ready
        [.read localId terminal (outcome.buffer.val.take outcome.count),
          .sent localId (.data ⟨channel.remoteId, outcome.buffer.val.take outcome.count⟩)]
        (some { channel with
          sendWindow := saturatingSub channel.sendWindow (UInt32.ofNat outcome.count) })
  | ended {terminal deadline outcome} (running : channel.terminal = some (.running terminal))
      (polled : host.pollRead terminal (min (readLimit channel) bufLen) = .ready (.ok outcome))
      (room : readLimit channel ≠ 0) (empty : outcome.count = 0) :
      Visit host localId channel .ready [.sent localId (.eof ⟨channel.remoteId⟩)]
        (some { channel with terminal := some (.exiting terminal deadline) })
  | status {status} (exited : channel.terminal = some (.exited status))
      (unclosed : channel.closeSent = false) :
      Visit host localId channel .ready
        [.sent localId (.exitStatus ⟨channel.remoteId, .exitStatus status, false⟩)]
        (some { channel with terminal := some .closing })
  | statusDropped {status} (exited : channel.terminal = some (.exited status))
      (closed : channel.closeSent = true) :
      Visit host localId channel .next [] (some { channel with terminal := some .closing })
  | waitedStatus {terminal deadline code}
      (exiting : channel.terminal = some (.exiting terminal deadline))
      (waited : host.pollWait terminal = .ready (.ok (some code)))
      (unclosed : channel.closeSent = false) :
      Visit host localId channel .ready
        [.waited localId terminal,
          .sent localId (.exitStatus ⟨channel.remoteId, .exitStatus code.toUInt32, false⟩)]
        (some { channel with terminal := some .closing })
  | waitedDropped {terminal deadline outcome}
      (exiting : channel.terminal = some (.exiting terminal deadline))
      (waited : host.pollWait terminal = .ready outcome) (closed : channel.closeSent = true) :
      Visit host localId channel .next [.waited localId terminal]
        (some { channel with terminal := some .closing })
  | waitedClosed {terminal deadline outcome}
      (exiting : channel.terminal = some (.exiting terminal deadline))
      (waited : host.pollWait terminal = .ready outcome)
      (unknown : ∀ code, outcome ≠ .ok (some code)) (unclosed : channel.closeSent = false) :
      Visit host localId channel .ready
        [.waited localId terminal, .sent localId (.close ⟨channel.remoteId⟩)]
        (some { channel with terminal := some .closing, closeSent := true })
  | overdue {terminal deadline} (exiting : channel.terminal = some (.exiting terminal deadline))
      (waiting : host.pollWait terminal = .pending) :
      Visit host localId channel .next [.killed localId terminal] (some channel)
  | closed (closing : channel.terminal = some .closing) (unclosed : channel.closeSent = false) :
      Visit host localId channel .ready [.sent localId (.close ⟨channel.remoteId⟩)]
        (some { channel with closeSent := true })
  | reaped {terminal deadline outcome}
      (reaping : channel.terminal = some (.reaping terminal deadline))
      (waited : host.pollWait terminal = .ready outcome) :
      Visit host localId channel .remove [.waited localId terminal, .removed localId] none
  | expired {terminal deadline} (reaping : channel.terminal = some (.reaping terminal deadline))
      (passed : deadline ≤ host.now localId) :
      Visit host localId channel .remove [.removed localId] none

def PollAct (host : TerminalHost τ) (localId : UInt32) (channel : Channel τ)
    (events : List (Event τ)) (entry : Option (Channel τ)) : Prop :=
  ∃ polled, Visit host localId channel polled events entry

inductive PollStep (host : TerminalHost τ) : View τ → View τ → Prop
  | polled {view localId channel events entry} (live : view.get localId = some channel)
      (act : PollAct host localId channel events entry) :
      PollStep host view (view.change localId entry events)

abbrev PollSteps (host : TerminalHost τ) : View τ → View τ → Prop :=
  Relation.ReflTransGen (PollStep host)

def Event.message? : Event τ → Option ServerMessage
  | .sent _ message => some message
  | _ => none

def messages (events : List (Event τ)) : List ServerMessage := events.filterMap Event.message?

section Leaves

variable [SealingKey σ]

def encodeStep (write : WriteState σ) (message : ServerMessage) : Option (WriteState σ) :=
  match write.encode message.encode with
  | (next, .ok ()) => some next
  | (_, .error _) => none

structure Leaves (localId : UInt32) (entry : Option (Channel τ)) (events : List (Event τ))
    (mux last : Mux σ τ) : Prop where
  view : last.view = mux.view.change localId entry events
  written : History.run encodeStep mux.write (messages events) = some last.write

variable {localId : UInt32} {channel next : Channel τ} {entry later : Option (Channel τ)}
  {events more : List (Event τ)} {mux middle last : Mux σ τ} {value : Unit}

theorem Leaves.get (leaves : Leaves localId entry events mux last) :
    last.view.get localId = entry := by
  rw [leaves.view, View.change_get]

theorem Leaves.trans (first : Leaves localId entry events mux middle)
    (second : Leaves localId later more middle last) :
    Leaves localId later (events ++ more) mux last := by
  refine ⟨?_, ?_⟩
  · rw [second.view, first.view, View.change_change]
  · rw [messages, List.filterMap_append, History.run_append]
    exact Option.bind_eq_some_iff.mpr ⟨middle.write, first.written, second.written⟩

theorem leaves_self (live : mux.view.get localId = some channel) :
    Leaves localId (some channel) [] mux mux := by
  refine ⟨?_, rfl⟩
  rw [View.change_self live, List.append_nil]

theorem leaves_put (put : exec (putChannel localId next) mux = (.ok value, last)) :
    Leaves localId (some next) [] mux last := by
  refine ⟨putChannel_ok put, ?_⟩
  cases put
  rfl

theorem leaves_note {event : Event τ} (live : mux.view.get localId = some channel)
    (unsent : event.message? = none) (noted : exec (note event) mux = (.ok value, last)) :
    Leaves localId (some channel) [event] mux last := by
  refine ⟨?_, ?_⟩
  · rw [note_ok noted, View.change_self live]
  · rw [messages, List.filterMap_cons_none unsent]
    cases noted
    rfl

theorem leaves_transmit {message : ServerMessage} (live : mux.view.get localId = some channel)
    (sent : exec (transmit localId message) mux = (.ok value, last)) :
    Leaves localId (some channel) [.sent localId message] mux last := by
  refine ⟨?_, ?_⟩
  · rw [transmitAs_ok sent, View.change_self live]
  · change mux.encode _ _ = _ at sent
    change encodeStep mux.write message >>= pure = some last.write
    unfold Mux.encode at sent
    rw [bind_pure, encodeStep]
    cases encoded : mux.write.encode message.encode with
    | mk write outcome =>
        rw [encoded] at sent
        cases outcome with
        | ok value =>
            cases sent
            rfl
        | error stop => cases sent

theorem leaves_remove (removed : exec (removeChannel localId) mux = (.ok value, last)) :
    Leaves localId none [.removed localId] mux last := by
  refine ⟨removeChannel_ok removed, ?_⟩
  cases removed
  rfl

end Leaves

inductive Visits [SealingKey σ] (host : TerminalHost τ) :
    List UInt32 → Mux σ τ → Poll Unit → Mux σ τ → Prop
  | pending {mux} : Visits host [] mux .pending mux
  | absent {localId localIds mux value last} (gone : mux.view.get localId = none)
      (rest : Visits host localIds mux value last) :
      Visits host (localId :: localIds) mux value last
  | next {localId localIds channel events entry mux middle value last}
      (live : mux.view.get localId = some channel)
      (visit : Visit host localId channel .next events (some entry))
      (leaves : Leaves localId (some entry) events mux middle)
      (rest : Visits host localIds middle value last) :
      Visits host (localId :: localIds) mux value last
  | ready {localId localIds channel events entry mux last}
      (live : mux.view.get localId = some channel)
      (visit : Visit host localId channel .ready events (some entry))
      (leaves : Leaves localId (some entry) events mux last) :
      Visits host (localId :: localIds) mux (.ready ()) last
  | remove {localId localIds channel events mux last}
      (live : mux.view.get localId = some channel)
      (visit : Visit host localId channel .remove events none)
      (leaves : Leaves localId none events mux last) :
      Visits host (localId :: localIds) mux (.ready ()) last

-- A channel that is to be removed is still there when its own poll ends.
def Visited [SealingKey σ] (host : TerminalHost τ) (localId : UInt32) (channel : Channel τ)
    (polled : Polled) (mux last : Mux σ τ) : Prop :=
  ∃ events next, Leaves localId (some next) events mux last ∧ match polled with
    | .next | .ready => Visit host localId channel polled events (some next)
    | .remove => Visit host localId channel polled (events ++ [.removed localId]) none

variable [SealingKey σ] {host : TerminalHost τ} {localId : UInt32} {channel : Channel τ}
  {mux last : Mux σ τ} {polled : Polled}

theorem pollClosing_leaves (live : mux.view.get localId = some channel)
    (done : exec (pollClosing localId channel) mux = (.ok polled, last)) :
    (channel.closeSent = true ∧ polled = .next ∧ Leaves localId (some channel) [] mux last) ∨
      (channel.closeSent = false ∧ polled = .ready ∧
        Leaves localId (some { channel with closeSent := true })
          [.sent localId (.close ⟨channel.remoteId⟩)] mux last) := by
  unfold pollClosing at done
  split at done
  · rename_i closed
    cases done
    exact Or.inl ⟨closed, rfl, leaves_self live⟩
  · rename_i unclosed
    obtain ⟨_, stored, put, done⟩ := exec_bind_ok.mp done
    obtain ⟨_, sent, transmitted, done⟩ := exec_bind_ok.mp done
    cases done
    have first := leaves_put put
    exact Or.inr ⟨Bool.eq_false_iff.mpr unclosed, rfl,
      first.trans (leaves_transmit first.get transmitted)⟩

theorem pollExited_leaves {status : UInt32}
    (done : exec (pollExited localId channel status) mux = (.ok polled, last)) :
    (channel.closeSent = true ∧ polled = .next ∧
        Leaves localId (some { channel with terminal := some .closing }) [] mux last) ∨
      (channel.closeSent = false ∧ polled = .ready ∧
        Leaves localId (some { channel with terminal := some .closing })
          [.sent localId (.exitStatus ⟨channel.remoteId, .exitStatus status, false⟩)] mux last) := by
  unfold pollExited at done
  obtain ⟨_, stored, put, done⟩ := exec_bind_ok.mp done
  have first := leaves_put put
  dsimp only at done
  split at done
  · rename_i closed
    rcases pollClosing_leaves first.get done with ⟨_, ended, second⟩ | ⟨unclosed, _⟩
    · exact Or.inl ⟨closed, ended, first.trans second⟩
    · exact absurd closed (Bool.eq_false_iff.mp unclosed)
  · rename_i unclosed
    obtain ⟨_, sent, transmitted, done⟩ := exec_bind_ok.mp done
    cases done
    exact Or.inr ⟨Bool.eq_false_iff.mpr unclosed, rfl,
      first.trans (leaves_transmit first.get transmitted)⟩

theorem visit_idle (live : mux.view.get localId = some channel)
    (waits : channel.Waits host localId) :
    Visited host localId channel .next mux mux :=
  ⟨_, _, leaves_self live, .idle waits⟩

theorem pollExiting_visit {terminal : τ} {deadline : Instant}
    (live : mux.view.get localId = some channel)
    (exiting : channel.terminal = some (.exiting terminal deadline))
    (done : exec (pollExiting host localId channel terminal deadline) mux = (.ok polled, last)) :
    Visited host localId channel polled mux last := by
  have unknown : ∀ outcome, host.pollWait terminal = .ready outcome →
      (∀ code, outcome ≠ .ok (some code)) → exec (do
        note (.waited localId terminal)
        putChannel localId { channel with terminal := some .closing }
        pollClosing localId { channel with terminal := some .closing }) mux = (.ok polled, last) →
      Visited host localId channel polled mux last := by
    intro outcome waited nothing ran
    obtain ⟨_, noted, logged, ran⟩ := exec_bind_ok.mp ran
    obtain ⟨_, stored, put, ran⟩ := exec_bind_ok.mp ran
    have first := (leaves_note live rfl logged).trans (leaves_put put)
    rcases pollClosing_leaves first.get ran with ⟨closed, rfl, second⟩ | ⟨unclosed, rfl, second⟩
    · exact ⟨_, _, first.trans second, .waitedDropped exiting waited closed⟩
    · exact ⟨_, _, first.trans second, .waitedClosed exiting waited nothing unclosed⟩
  unfold pollExiting at done
  split at done
  · rename_i code waited
    obtain ⟨_, noted, logged, done⟩ := exec_bind_ok.mp done
    obtain ⟨_, stored, put, done⟩ := exec_bind_ok.mp done
    have first := (leaves_note live rfl logged).trans (leaves_put put)
    rcases pollExited_leaves done with ⟨closed, rfl, second⟩ | ⟨unclosed, rfl, second⟩
    · exact ⟨_, _, first.trans second, .waitedDropped exiting waited closed⟩
    · exact ⟨_, _, first.trans second, .waitedStatus exiting waited unclosed⟩
  · rename_i waited
    exact unknown _ waited (by simp) done
  · rename_i error waited
    exact unknown _ waited (by simp) done
  · rename_i waiting
    split at done
    · cases done
      refine visit_idle live ?_
      rw [Channel.Waits, exiting]
      exact waiting
    · obtain ⟨_, noted, logged, done⟩ := exec_bind_ok.mp done
      cases done
      exact ⟨_, _, leaves_note live rfl logged, .overdue exiting waiting⟩

theorem pollReaping_visit {terminal : τ} {deadline : Instant}
    (live : mux.view.get localId = some channel)
    (reaping : channel.terminal = some (.reaping terminal deadline))
    (done : exec (pollReaping host localId terminal deadline) mux = (.ok polled, last)) :
    Visited host localId channel polled mux last := by
  unfold pollReaping at done
  split at done
  · rename_i outcome waited
    obtain ⟨_, noted, logged, done⟩ := exec_bind_ok.mp done
    cases done
    exact ⟨_, _, leaves_note live rfl logged, .reaped reaping waited⟩
  · rename_i waiting
    split at done
    · rename_i early
      cases done
      refine visit_idle live ?_
      rw [Channel.Waits, reaping]
      exact ⟨waiting, early⟩
    · rename_i passed
      cases done
      exact ⟨_, _, leaves_self live, .expired reaping (Nat.le_of_not_lt passed)⟩

theorem pollRunning_visit {terminal : τ} (live : mux.view.get localId = some channel)
    (running : channel.terminal = some (.running terminal))
    (done : exec (pollRunning host localId channel terminal) mux = (.ok polled, last)) :
    Visited host localId channel polled mux last := by
  have idle (asked : readLimit channel = 0 ∨
      host.pollRead terminal (min (readLimit channel) bufLen) = .pending) :
      channel.Waits host localId := by
    rw [Channel.Waits, running]
    exact asked
  unfold pollRunning at done
  dsimp only at done
  split at done
  · rename_i none
    cases done
    exact visit_idle live (idle (.inl none))
  · rename_i room
    split at done
    · rename_i pending
      cases done
      exact visit_idle live (idle (.inr pending))
    · obtain ⟨_, noted, logged, done⟩ := exec_bind_ok.mp done
      cases done
    · rename_i outcome read
      split at done
      · rename_i empty
        obtain ⟨_, stored, put, done⟩ := exec_bind_ok.mp done
        obtain ⟨_, sent, transmitted, done⟩ := exec_bind_ok.mp done
        cases done
        have first := leaves_put put
        exact ⟨_, _, first.trans (leaves_transmit first.get transmitted),
          .ended running read room empty⟩
      · rename_i nonempty
        obtain ⟨_, stored, put, done⟩ := exec_bind_ok.mp done
        split at done
        · rename_i inside
          obtain ⟨_, noted, logged, done⟩ := exec_bind_ok.mp done
          obtain ⟨_, sent, transmitted, done⟩ := exec_bind_ok.mp done
          cases done
          have first := leaves_put put
          have second := leaves_note first.get rfl logged
          exact ⟨_, _, (first.trans second).trans (leaves_transmit second.get transmitted),
            .output running read room nonempty inside⟩
        · cases done

theorem pollChannel_visit (live : mux.view.get localId = some channel)
    (done : exec (pollChannel host localId channel) mux = (.ok polled, last)) :
    Visited host localId channel polled mux last := by
  unfold pollChannel at done
  split at done
  · rename_i unset
    cases done
    refine visit_idle live ?_
    rw [Channel.Waits, unset]
    trivial
  · rename_i requested
    cases done
    refine visit_idle live ?_
    rw [Channel.Waits, requested]
    trivial
  · rename_i terminal running
    exact pollRunning_visit live running done
  · rename_i terminal deadline exiting
    exact pollExiting_visit live exiting done
  · rename_i status exited
    rcases pollExited_leaves done with ⟨closed, rfl, leaves⟩ | ⟨unclosed, rfl, leaves⟩
    · exact ⟨_, _, leaves, .statusDropped exited closed⟩
    · exact ⟨_, _, leaves, .status exited unclosed⟩
  · rename_i terminal deadline reaping
    exact pollReaping_visit live reaping done
  · rename_i closing
    rcases pollClosing_leaves live done with ⟨closed, rfl, leaves⟩ | ⟨unclosed, rfl, leaves⟩
    · refine ⟨_, _, leaves, .idle ?_⟩
      rw [Channel.Waits, closing]
      exact closed
    · exact ⟨_, _, leaves, .closed closing unclosed⟩

theorem pollEach_visits {localIds : List UInt32} {value : Poll Unit}
    (done : exec (pollEach host localIds) mux = (.ok value, last)) :
    Visits host localIds mux value last := by
  induction localIds generalizing mux with
  | nil =>
    cases done
    exact .pending
  | cons localId localIds ih =>
    unfold pollEach at done
    obtain ⟨entry, _, looked, done⟩ := exec_bind_ok.mp done
    obtain ⟨rfl, live⟩ := lookupChannel_ok looked
    cases entry with
    | none => exact .absent live (ih done)
    | some channel =>
      obtain ⟨polled, middle, step, done⟩ := exec_bind_ok.mp done
      obtain ⟨events, next, leaves, visit⟩ := pollChannel_visit live step
      cases polled with
      | next => exact .next live visit leaves (ih done)
      | ready =>
        cases done
        exact .ready live visit leaves
      | remove =>
        obtain ⟨_, removed, remove, done⟩ := exec_bind_ok.mp done
        cases done
        exact .remove live visit (leaves.trans (leaves_remove remove))

theorem poll_visits {value : Poll Unit} (done : exec (poll host) mux = (.ok value, last)) :
    Visits host mux.channels.channels.keys mux value last := by
  unfold poll at done
  obtain ⟨localIds, _, keys, done⟩ := exec_bind_ok.mp done
  cases keys
  exact pollEach_visits done

theorem Visits.acts {localIds : List UInt32} {value : Poll Unit}
    (visits : Visits host localIds mux value last) : PollSteps host mux.view last.view := by
  induction visits with
  | pending => exact .refl
  | absent _ _ ih => exact ih
  | next live visit leaves _ ih =>
    refine .head ?_ ih
    rw [leaves.view]
    exact .polled live ⟨_, visit⟩
  | ready live visit leaves | remove live visit leaves =>
    rw [leaves.view]
    exact .single (.polled live ⟨_, visit⟩)

end Polls

section Handling

variable [SealingKey σ] {host : TerminalHost τ} {session : SessionView} {localId : UInt32}
  {channel : Channel τ} {mux last : Mux σ τ}

open Channels

theorem finishRequest_acts {wantReply : Bool} {banner : Option Bytes} {value : Unit}
    (live : mux.view.get localId = some channel)
    (done : exec (finishRequest localId channel wantReply banner) mux = (.ok value, last)) :
    last.view = mux.view.change localId (some (channel.finished banner))
      (channel.finishEvents localId wantReply banner) := by
  unfold finishRequest at done
  obtain ⟨_, replied, reply, done⟩ := exec_bind_ok.mp done
  have first : replied.view = mux.view.change localId (some channel)
      (if wantReply then [.sent localId (.success channel.success)] else []) := by
    unfold replySuccess at reply
    split at reply
    · rename_i wanted
      rw [transmitAs_ok reply, View.change_self live, if_pos wanted]
    · rename_i unwanted
      cases reply
      rw [View.change_self live, if_neg unwanted, List.append_nil]
  unfold sendBanner at done
  unfold Channel.finished Channel.finishEvents Channel.dueBanner
  split at done
  · cases done
    rw [first, Option.bind_none, List.append_nil]
  · rename_i text
    split at done
    · rename_i tight
      cases done
      rw [first, Option.bind_some, tight, Option.map_none, List.append_nil]
    · rename_i window fits
      obtain ⟨_, stored, put, sent⟩ := exec_bind_ok.mp done
      rw [put_transmit put sent, first, View.change_change, Option.bind_some, fits,
        Option.map_some]

theorem put_finishRequest_acts {next : Channel τ} {wantReply : Bool} {banner : Option Bytes}
    {value : Unit}
    (done : exec (do putChannel localId next; finishRequest localId next wantReply banner) mux =
      (.ok value, last)) :
    last.view = mux.view.change localId (some (next.finished banner))
      (next.finishEvents localId wantReply banner) := by
  obtain ⟨_, stored, put, done⟩ := exec_bind_ok.mp done
  have view := putChannel_ok put
  have live : stored.view.get localId = some next := by rw [view, View.change_get]
  rw [finishRequest_acts live done, view, View.change_change, List.nil_append]

theorem replyFailure_view {wantReply : Bool} {value : Unit}
    (live : mux.view.get localId = some channel)
    (done : exec (replyFailure localId channel wantReply) mux = (.ok value, last)) :
    last.view = mux.view.change localId (some channel)
      (if wantReply then [.sent localId (.failure channel.failure)] else []) := by
  unfold replyFailure at done
  split at done
  · rename_i wanted
    rw [transmitAs_ok done, View.change_self live, if_pos wanted]
  · rename_i unwanted
    cases done
    rw [View.change_self live, if_neg unwanted, List.append_nil]

theorem request_acts {request : ChannelRequest} {value : Unit}
    (done : exec (Channels.request host request
      (banner request session.clientIdentity session.postQuantumKx) session.options) mux =
        (.ok value, last)) :
    MessageStep host session (.request request) mux.view last.view := by
  unfold Channels.request at done
  obtain ⟨entry, _, looked, done⟩ := exec_bind_ok.mp done
  obtain ⟨rfl, live⟩ := lookupChannel_ok looked
  split at done
  · cases done
  · rename_i channel
    have carried : ∀ {type events next}, request.type = type →
        Carried host session.options request.recipientChannel channel type events next →
        last.view = mux.view.change request.recipientChannel
          (some (next.finished (banner request session.clientIdentity session.postQuantumKx)))
          (events ++ next.finishEvents request.recipientChannel request.wantReply
            (banner request session.clientIdentity session.postQuantumKx)) →
        MessageStep host session (.request request) mux.view last.view := by
      intro type events next isType carried view
      subst isType
      rw [view]
      exact .acted live (.request rfl (.carried carried))
    have refused : (∀ ptyReq, request.type ≠ .ptyReq ptyReq) → request.type ≠ .shell →
        exec (replyFailure request.recipientChannel channel request.wantReply) mux =
          (.ok value, last) →
        MessageStep host session (.request request) mux.view last.view := by
      intro noPty noShell ran
      rw [replyFailure_view live ran]
      exact .acted live (.request rfl (.refused noPty noShell))
    split at done
    · rename_i ptyReq isPty
      exact carried isPty (.pty ptyReq) (put_finishRequest_acts done)
    · rename_i env isEnv
      split at done
      · rename_i room
        rw [Bool.and_eq_true, decide_eq_true_eq] at room
        exact carried isEnv (.env room.1 room.2) (put_finishRequest_acts done)
      · exact refused (by simp [isEnv]) (by simp [isEnv]) done
    · rename_i isShell
      obtain ⟨next, started, start, done⟩ := exec_bind_ok.mp done
      obtain ⟨ptyReq, terminal, requested, spawned, rfl, view⟩ := requestShell_view start
      refine carried isShell (.shell requested spawned) ?_
      rw [finishRequest_acts (by rw [view, View.change_get]) done, view, View.change_change]
    · rename_i windowChange isResize
      obtain ⟨_, resized, resize, finished⟩ := exec_bind_ok.mp done
      have same : resized = mux := by
        unfold resizeTerminal at resize
        split at resize
        · exact (attemptIo_ok resize).1.symm
        · cases resize
          rfl
      subst same
      refine carried isResize (.resize windowChange) ?_
      rw [finishRequest_acts live finished, List.nil_append]
    · rename_i status isOther
      exact refused (by simp [isOther]) (by simp [isOther]) done
    · rename_i isOther
      exact refused (by simp [isOther]) (by simp [isOther]) done
    · rename_i name isOther
      exact refused (by simp [isOther]) (by simp [isOther]) done
    · rename_i command isOther
      exact refused (by simp [isOther]) (by simp [isOther]) done

theorem data_acts {data : ChannelData} {value : Option (τ × Bytes)}
    (done : exec (Channels.data data) mux = (.ok value, last)) :
    MessageStep host session (.data data) mux.view last.view := by
  unfold Channels.data at done
  obtain ⟨entry, _, looked, done⟩ := exec_bind_ok.mp done
  obtain ⟨rfl, live⟩ := lookupChannel_ok looked
  split at done
  · cases done
  · rename_i channel
    split at done
    · cases done
    · rename_i window fits
      obtain ⟨_, stored, put, done⟩ := exec_bind_ok.mp done
      obtain ⟨_, noted, logged, done⟩ := exec_bind_ok.mp done
      obtain ⟨_, topped, top, done⟩ := exec_bind_ok.mp done
      have view : noted.view = mux.view.change data.recipientChannel
          (some { channel with receiveWindow := window })
          [.accepted data.recipientChannel data.data] := by
        rw [note_ok logged, putChannel_ok put]
        simp only [View.change, List.append_nil]
      have act : MessageAct host session data.recipientChannel channel (.data data) _ _ :=
        .data rfl fits
      have same : last = topped := by
        split at done
        · cases done
          rfl
        · cases done
          rfl
      subst same
      unfold Channel.topUpEvents Channel.toppedUp at act
      unfold topUp at top
      split at top
      · rename_i low
        obtain ⟨_, raised, put, sent⟩ := exec_bind_ok.mp top
        rw [if_pos low, if_pos low] at act
        rw [put_transmit put sent, view, View.change_change]
        exact .acted live act
      · rename_i high
        cases top
        rw [if_neg high, if_neg high] at act
        rw [view]
        exact .acted live act

omit [SealingKey σ] in
theorem adjustWindow_acts {adjust : ChannelWindowAdjust} {value : Unit}
    (done : exec (adjustWindow adjust) mux = (.ok value, last)) :
    MessageStep host session (.windowAdjust adjust) mux.view last.view := by
  unfold adjustWindow at done
  obtain ⟨entry, _, looked, done⟩ := exec_bind_ok.mp done
  obtain ⟨rfl, live⟩ := lookupChannel_ok looked
  split at done
  · cases done
  · rename_i channel
    obtain ⟨_, stored, put, done⟩ := exec_bind_ok.mp done
    rw [note_ok done, putChannel_ok put]
    have step : MessageStep host session (.windowAdjust adjust) mux.view _ :=
      .acted live (.adjusted rfl)
    simpa only [View.change, List.append_nil] using step

omit [SealingKey σ] in
theorem eof_acts {eof : ChannelEof} {value : Unit}
    (done : exec (Channels.eof eof) mux = (.ok value, last)) :
    MessageStep host session (.eof eof) mux.view last.view := by
  unfold Channels.eof at done
  obtain ⟨entry, _, looked, done⟩ := exec_bind_ok.mp done
  obtain ⟨rfl, live⟩ := lookupChannel_ok looked
  split at done
  · cases done
  · rename_i channel
    cases done
    have step : MessageStep host session (.eof eof) mux.view _ := .acted live (.eof rfl)
    rw [View.change_self live, List.append_nil] at step
    exact step

theorem replyClose_view {next : Channel τ} (live : mux.view.get localId = some channel)
    (done : exec (replyClose localId channel) mux = (.ok next, last)) :
    next = { channel with closeSent := true } ∧
      last.view = mux.view.change localId (some next) (channel.closeEvents localId) := by
  unfold replyClose at done
  unfold Channel.closeEvents
  split at done
  · rename_i closed
    cases done
    refine ⟨by rw [← closed], ?_⟩
    rw [if_pos closed, View.change_self live, List.append_nil]
  · rename_i unclosed
    obtain ⟨_, stored, put, done⟩ := exec_bind_ok.mp done
    obtain ⟨_, sent, transmitted, done⟩ := exec_bind_ok.mp done
    cases done
    refine ⟨rfl, ?_⟩
    rw [put_transmit put transmitted, if_neg unclosed]

theorem close_acts {close : ChannelClose} {value : Unit}
    (done : exec (Channels.close host close) mux = (.ok value, last)) :
    MessageStep host session (.close close) mux.view last.view := by
  unfold Channels.close at done
  obtain ⟨entry, _, looked, done⟩ := exec_bind_ok.mp done
  obtain ⟨rfl, live⟩ := lookupChannel_ok looked
  split at done
  · cases done
    exact .unknown live
  · rename_i channel
    obtain ⟨next, replied, reply, done⟩ := exec_bind_ok.mp done
    obtain ⟨rfl, view⟩ := replyClose_view live reply
    have killed : ∀ terminal deadline, channel.held = some terminal → channel.reaps = false →
        exec (do
          note (.killed close.recipientChannel terminal)
          putChannel close.recipientChannel
            { channel with closeSent := true, terminal := some (.reaping terminal deadline) })
          replied = (.ok value, last) →
        MessageStep host session (.close close) mux.view last.view := by
      intro terminal deadline held fresh ran
      obtain ⟨_, noted, logged, stored⟩ := exec_bind_ok.mp ran
      rw [note_put_view logged stored, view, View.change_change]
      exact .acted live (.killed rfl held fresh)
    have removed : channel.held = none →
        exec (removeChannel close.recipientChannel) replied = (.ok value, last) →
        MessageStep host session (.close close) mux.view last.view := by
      intro free ran
      rw [removeChannel_ok ran, view, View.change_change]
      exact .acted live (.removed rfl free)
    split at done
    · rename_i terminal running
      exact killed terminal _ (by rw [Channel.held, running]) (by rw [Channel.reaps, running]) done
    · rename_i terminal earlier exiting
      exact killed terminal _ (by rw [Channel.held, exiting]) (by rw [Channel.reaps, exiting]) done
    · rename_i terminal deadline reaping
      cases done
      rw [view]
      exact .acted live (.awaited rfl (by rw [Channel.reaps, reaping]))
    · rename_i ptyReq requested
      exact removed (by rw [Channel.held, requested]) done
    · rename_i status exited
      exact removed (by rw [Channel.held, exited]) done
    · rename_i closing
      exact removed (by rw [Channel.held, closing]) done
    · rename_i absent
      exact removed (by rw [Channel.held, absent]) done

theorem open_acts {open_ : ChannelOpen} {value : Unit}
    (done : exec (Channels.open open_) mux = (.ok value, last)) :
    MessageStep host session (.open open_) mux.view last.view := by
  unfold Channels.open at done
  split at done
  · rw [transmitAs_ok done]
    exact .refused _
  · obtain ⟨localId, counted, assigned, done⟩ := exec_bind_ok.mp done
    obtain ⟨entry, _, looked, done⟩ := exec_bind_ok.mp done
    obtain ⟨rfl, found⟩ := lookupChannel_ok looked
    have same : counted.view = mux.view := by
      cases assigned
      rfl
    split at done
    · rw [transmitAs_ok done, same]
      exact .refused _
    · obtain ⟨_, stored, put, done⟩ := exec_bind_ok.mp done
      obtain ⟨_, noted, opened, done⟩ := exec_bind_ok.mp done
      rw [transmitAs_ok done, note_ok opened, putChannel_ok put, same]
      rw [same] at found
      have step : MessageStep host session (.open open_) mux.view _ := .opened found
      simpa only [View.change, List.append_nil, List.append_assoc, List.cons_append,
        List.nil_append] using step

theorem handle_acts {message : IncomingChannelMessage} {value : Unit}
    (done : exec (Channels.handle host session message) mux = (.ok value, last)) :
    MessageStep host session message mux.view last.view := by
  cases message with
  | «open» message => exact open_acts done
  | request message => exact request_acts done
  | data message =>
      obtain ⟨found, stored, read, done⟩ := exec_bind_ok.mp done
      have step : MessageStep host session (.data message) mux.view stored.view := data_acts read
      split at done
      · exact (attemptIo_ok done).1 ▸ step
      · cases done
        exact step
  | windowAdjust message => exact adjustWindow_acts done
  | eof message => exact eof_acts done
  | close message => exact close_acts done

end Handling

def SessionStep.Delivers (step : SessionStep σ τ) (session : SessionView)
    (message : IncomingChannelMessage) : Prop :=
  ∃ packet, step.input = .received packet session ∧
    IncomingChannelMessage.tryFrom packet = .ok message

theorem SessionStep.Delivers.unique {step : SessionStep σ τ} {session other : SessionView}
    {message later : IncomingChannelMessage} (first : step.Delivers session message)
    (second : step.Delivers other later) : session = other ∧ message = later := by
  obtain ⟨packet, received, parsed⟩ := first
  obtain ⟨_, same, read⟩ := second
  cases received.symm.trans same
  cases parsed.symm.trans read
  exact ⟨rfl, rfl⟩

theorem SessionStep.Delivers.not_terminals {step : SessionStep σ τ} {session : SessionView}
    {message : IncomingChannelMessage} (delivers : step.Delivers session message) :
    step.input ≠ .terminals := by
  obtain ⟨packet, received, _⟩ := delivers
  rw [received]
  exact nofun

theorem step_acts [SealingKey σ] {mux next : Mux σ τ} {step : SessionStep σ τ}
    (stepped : mux.step step = some next) :
    (∃ session message, step.Delivers session message ∧
        MessageStep step.host session message mux.view next.view) ∨
      (step.input = .terminals ∧ PollSteps step.host mux.view next.view) := by
  obtain ⟨begun, same, done⟩ := Mux.step_some stepped
  obtain ⟨input, host, write⟩ := step
  rw [← same]
  cases input with
  | received packet session =>
      obtain ⟨message, _, read, handled⟩ := exec_bind_ok.mp done
      obtain ⟨rfl, parsed⟩ := parseMessage_ok read
      exact Or.inl ⟨session, message, ⟨packet, rfl, parsed⟩, handle_acts handled⟩
  | terminals =>
      obtain ⟨polled, last, poll, done⟩ := exec_bind_ok.mp done
      cases done
      exact Or.inr ⟨rfl, (poll_visits poll).acts⟩

theorem step_delivers [SealingKey σ] {mux next : Mux σ τ} {step : SessionStep σ τ}
    {session : SessionView} {message : IncomingChannelMessage}
    (stepped : mux.step step = some next) (delivers : step.Delivers session message) :
    MessageStep step.host session message mux.view next.view := by
  rcases step_acts stepped with ⟨other, read, delivered, acted⟩ | ⟨polled, _⟩
  · obtain ⟨rfl, rfl⟩ := delivers.unique delivered
    exact acted
  · exact absurd polled delivers.not_terminals

theorem step_terminals [SealingKey σ] {mux next : Mux σ τ} {step : SessionStep σ τ}
    (stepped : mux.step step = some next) (polled : step.input = .terminals) :
    PollSteps step.host mux.view next.view := by
  rcases step_acts stepped with ⟨_, _, delivers, _⟩ | ⟨_, steps⟩
  · exact absurd polled delivers.not_terminals
  · exact steps

section Invariants

variable {host : TerminalHost τ} {session : SessionView} {localId : UInt32} {channel : Channel τ}
  {events : List (Event τ)} {entry : Option (Channel τ)} {view last : View τ}

theorem Channel.finishEvents_own (channel : Channel τ) (localId : UInt32) (wantReply : Bool)
    (banner : Option Bytes) : Own localId (channel.finishEvents localId wantReply banner) := by
  intro event member
  rcases Channel.mem_finishEvents member with ⟨_, rfl⟩ | ⟨_, rfl⟩ <;> exact ⟨rfl, rfl⟩

theorem Carried.own {options : KeyOptions} {type : ChannelRequestType} {next : Channel τ}
    (done : Carried host options localId channel type events next) : Own localId events := by
  cases done <;> simp [Own, Event.localId, Event.opens]

theorem RequestAct.own {request : ChannelRequest} {next : Channel τ}
    (act : RequestAct host session request channel events next) :
    Own request.recipientChannel events := by
  cases act with
  | carried done => exact done.own.append (Channel.finishEvents_own _ _ _ _)
  | refused => split <;> simp [Own, Event.localId, Event.opens]

theorem Channel.closeEvents_own (channel : Channel τ) (localId : UInt32) :
    Own localId (channel.closeEvents localId) := by
  intro event member
  rw [Channel.mem_closeEvents member]
  exact ⟨rfl, rfl⟩

theorem Channel.topUpEvents_own (channel : Channel τ) (localId : UInt32) :
    Own localId (channel.topUpEvents localId) := by
  intro event member
  obtain ⟨adjust, rfl⟩ := Channel.mem_topUpEvents member
  exact ⟨rfl, rfl⟩

theorem MessageAct.own {message : IncomingChannelMessage}
    (act : MessageAct host session localId channel message events entry) :
    Own localId events := by
  cases act with
  | request same act => exact same ▸ act.own
  | data same fits =>
      exact List.forall_mem_cons.mpr ⟨⟨rfl, rfl⟩, Channel.topUpEvents_own _ localId⟩
  | adjusted => simp [Own, Event.localId, Event.opens]
  | eof => simp [Own]
  | killed =>
      exact (channel.closeEvents_own localId).append (by simp [Own, Event.localId, Event.opens])
  | awaited => exact channel.closeEvents_own localId
  | removed =>
      exact (channel.closeEvents_own localId).append (by simp [Own, Event.localId, Event.opens])

theorem PollAct.own (act : PollAct host localId channel events entry) : Own localId events := by
  obtain ⟨_, visit⟩ := act
  cases visit <;> simp [Own, Event.localId, Event.opens]

/-- Every id has the property: with its entry, or without one, and with what happened to the
channel that has it or had it last. -/
def View.Every (view : View τ)
    (Inv : UInt32 → Option (Channel τ) → List (Event τ) → Prop) : Prop :=
  ∀ localId, Inv localId (view.get localId) (eventsOf localId view.log)

variable {Inv : UInt32 → Option (Channel τ) → List (Event τ) → Prop}

theorem View.Every.change (holds : view.Every Inv)
    (own : ∀ event ∈ events, event.localId = some localId)
    (here : Inv localId entry (eventsOf localId (view.log ++ events))) :
    (view.change localId entry events).Every Inv := by
  intro other
  by_cases same : other = localId
  · subst same
    rw [View.change_get]
    exact here
  · have apart : ∀ event ∈ events, event.localId ≠ some other := by
      intro event member claimed
      rw [own event member, Option.some.injEq] at claimed
      exact same claimed.symm
    simp only [View.change, Function.update_of_ne same, eventsOf_other apart]
    exact holds other

theorem View.Every.act (holds : view.Every Inv) (live : view.get localId = some channel)
    (own : Own localId events)
    (kept : Inv localId (some channel) (eventsOf localId view.log) →
      Inv localId entry (eventsOf localId view.log ++ events)) :
    (view.change localId entry events).Every Inv := by
  refine holds.change (fun event member => (own event member).1) ?_
  rw [eventsOf_own own]
  exact kept (live ▸ holds localId)

structure Begins (Inv : UInt32 → Option (Channel τ) → List (Event τ) → Prop) : Prop where
  vacant : ∀ localId, Inv localId none []
  opened : ∀ localId open_, Inv localId (some (openedChannel open_))
    [.opened localId open_,
      .sent localId (.openConfirmation ((openedChannel open_ : Channel τ).confirmation localId))]

theorem Begins.message {message : IncomingChannelMessage} (begins : Begins Inv)
    (kept : ∀ {localId channel events entry}, view.get localId = some channel →
      MessageAct host session localId channel message events entry →
      Inv localId (some channel) (eventsOf localId view.log) →
      Inv localId entry (eventsOf localId view.log ++ events))
    (step : MessageStep host session message view last) (holds : view.Every Inv) :
    last.Every Inv := by
  cases step with
  | refused failure =>
      intro localId
      rw [eventsOf_other (by simp [Event.localId])]
      exact holds localId
  | opened vacant =>
      refine holds.change (by simp [Event.localId]) ?_
      rw [eventsOf_opened]
      exact begins.opened _ _
  | acted live act => exact holds.act live act.own (kept live act)
  | unknown absent => exact holds

theorem View.Every.polls
    (kept : ∀ {localId channel past events entry}, PollAct host localId channel events entry →
      Inv localId (some channel) past → Inv localId entry (past ++ events))
    (steps : PollSteps host view last) (holds : view.Every Inv) : last.Every Inv := by
  induction steps with
  | refl => exact holds
  | tail _ step ih =>
      cases step with
      | polled live act => exact ih.act live act.own (kept act)

structure ActInvariant (Inv : UInt32 → Option (Channel τ) → List (Event τ) → Prop) : Prop
    extends Begins Inv where
  message : ∀ {host session localId channel message past events entry},
    MessageAct host session localId channel message events entry → Inv localId (some channel) past →
      Inv localId entry (past ++ events)
  polled : ∀ {host localId channel past events entry},
    PollAct host localId channel events entry → Inv localId (some channel) past →
      Inv localId entry (past ++ events)

theorem ActInvariant.step [SealingKey σ] {mux next : Mux σ τ} {step : SessionStep σ τ}
    (invariant : ActInvariant Inv) (stepped : mux.step step = some next)
    (holds : mux.view.Every Inv) : next.view.Every Inv := by
  rcases step_acts stepped with ⟨session, message, _, acted⟩ | ⟨_, polled⟩
  · exact invariant.toBegins.message (fun _ act => invariant.message act) acted holds
  · exact View.Every.polls invariant.polled polled holds

theorem Begins.start (begins : Begins Inv) (write : WriteState σ) :
    (Mux.start write : Mux σ τ).view.Every Inv := by
  intro localId
  rw [Mux.start_vacant]
  exact begins.vacant localId

theorem ActInvariant.run [SealingKey σ] {write : WriteState σ} {steps : List (SessionStep σ τ)}
    {last : Mux σ τ} (invariant : ActInvariant Inv)
    (ran : History.run Mux.step (Mux.start write) steps = some last) : last.view.Every Inv := by
  have keeps : (fun (_ : List (SessionStep σ τ)) (mux : Mux σ τ) => mux.view.Every Inv) steps last :=
    History.run_invariant (invariant.toBegins.start write)
      (fun _ holds stepped => invariant.step stepped holds) ran
  exact keeps

end Invariants

section Client

def closeStep : SessionStep PlainSealer Unit := receivedStep .channelClose (encodeU32 0)

def pollStep (host : TerminalHost Unit) : SessionStep PlainSealer Unit where
  input := .terminals
  host := host
  write := plainWriter

def exitedHost : TerminalHost Unit where
  spawn := plainHost.spawn
  resize := plainHost.resize
  write := plainHost.write
  pollRead _ _ := .ready (.ok ⟨0, ⟨List.replicate 4096 0, List.length_replicate⟩⟩)
  pollWait _ := .ready (.ok (some 0))
  now := plainHost.now

end Client

end Oxish
