import Oxish.SessionCore
import Oxish.Lib.History
import Oxish.Outbox
import Oxish.Wire
import Mathlib.Logic.Relation

/-!
What the channels of a session can do. The map of channels is abstracted to a function, and the
moves are listed here: one for each way the code changes a channel, with the events it leaves in
the log. A property of all runs is proved by looking at the moves.
-/

namespace Oxish

open Stateful

variable {σ τ : Type}

structure View (τ : Type) where
  get : UInt32 → Option (Channel τ)
  log : List (Event τ)

def Mux.view (mux : Mux σ τ) : View τ := ⟨fun localId => mux.channels.channels[localId]?, mux.log⟩

def View.change (view : View τ) (localId : UInt32) (entry : Option (Channel τ))
    (events : List (Event τ)) : View τ :=
  ⟨Function.update view.get localId entry, view.log ++ events⟩

inductive ChannelMove (host : TerminalHost τ) (shell : Channel τ → Prop) (localId : UInt32) :
    Channel τ → List (Event τ) → Channel τ → Prop
  | ptyRequested {channel} (ptyReq : PtyReq) :
      ChannelMove host shell localId channel []
        { channel with terminal := some (.requested ptyReq) }
  | envPushed {channel env} (allowed : envAllowed env.1 = true) (few : channel.env.length < 32) :
      ChannelMove host shell localId channel [] { channel with env := channel.env ++ [env] }
  | shellSpawned {channel ptyReq command terminal}
      (requested : channel.terminal = some (.requested ptyReq))
      (spawned : host.spawn command ptyReq channel.env = .ok terminal) (allowed : shell channel) :
      ChannelMove host shell localId channel
        [.spawned localId command channel.env terminal,
          .sent localId (.windowAdjust ⟨channel.remoteId, initialWindowSize⟩)]
        { channel with
          terminal := some (.running terminal), receiveWindow := initialWindowSize }
  | succeeded {channel} :
      ChannelMove host shell localId channel [.sent localId (.success channel.success)] channel
  | failed {channel} :
      ChannelMove host shell localId channel [.sent localId (.failure channel.failure)] channel
  | bannerSent {channel banner window} (short : banner.length < 2 ^ 32)
      (fits : checkedSub channel.sendWindow (lenAsU32 banner) = some window) :
      ChannelMove host shell localId channel
        [.sent localId (.banner ⟨channel.remoteId, banner⟩)] { channel with sendWindow := window }
  | granted {channel} (bytesToAdd : UInt32) :
      ChannelMove host shell localId channel [.granted localId bytesToAdd]
        { channel with sendWindow := saturatingAdd channel.sendWindow bytesToAdd }
  | dataAccepted {channel data window} (short : data.length < 2 ^ 32)
      (fits : checkedSub channel.receiveWindow (lenAsU32 data) = some window) :
      ChannelMove host shell localId channel [.accepted localId data]
        { channel with receiveWindow := window }
  | toppedUp {channel} (low : channel.receiveWindow < initialWindowSize / 2) :
      ChannelMove host shell localId channel
        [.sent localId (.windowAdjust
          ⟨channel.remoteId, initialWindowSize - channel.receiveWindow⟩)]
        { channel with receiveWindow := initialWindowSize }
  | closed {channel} (first : channel.closeSent = false) :
      ChannelMove host shell localId channel [.sent localId (.close ⟨channel.remoteId⟩)]
        { channel with closeSent := true }
  | reaping {channel terminal deadline}
      (held : channel.terminal = some (.running terminal) ∨
        ∃ earlier, channel.terminal = some (.exiting terminal earlier)) :
      ChannelMove host shell localId channel [.killed localId terminal]
        { channel with terminal := some (.reaping terminal deadline) }
  | exited {channel terminal deadline code}
      (exiting : channel.terminal = some (.exiting terminal deadline))
      (waited : host.pollWait terminal = .ready (.ok (some code))) :
      ChannelMove host shell localId channel [.waited localId terminal]
        { channel with terminal := some (.exited code.toUInt32) }
  | exitedUnknown {channel terminal deadline outcome}
      (exiting : channel.terminal = some (.exiting terminal deadline))
      (waited : host.pollWait terminal = .ready outcome) :
      ChannelMove host shell localId channel [.waited localId terminal]
        { channel with terminal := some .closing }
  | overdueKilled {channel terminal deadline}
      (exiting : channel.terminal = some (.exiting terminal deadline)) :
      ChannelMove host shell localId channel [.killed localId terminal] channel
  | exitStatusSent {channel status} (exited : channel.terminal = some (.exited status))
      (unclosed : channel.closeSent = false) :
      ChannelMove host shell localId channel
        [.sent localId (.exitStatus ⟨channel.remoteId, .exitStatus status, false⟩)]
        { channel with terminal := some .closing }
  | exitStatusDropped {channel status} (exited : channel.terminal = some (.exited status))
      (closed : channel.closeSent = true) :
      ChannelMove host shell localId channel [] { channel with terminal := some .closing }
  | reaped {channel terminal deadline outcome}
      (reaping : channel.terminal = some (.reaping terminal deadline))
      (waited : host.pollWait terminal = .ready outcome) :
      ChannelMove host shell localId channel [.waited localId terminal] channel
  | outputEnded {channel terminal deadline}
      (running : channel.terminal = some (.running terminal)) :
      ChannelMove host shell localId channel [.sent localId (.eof ⟨channel.remoteId⟩)]
        { channel with terminal := some (.exiting terminal deadline) }
  | outputSent {channel terminal limit outcome}
      (running : channel.terminal = some (.running terminal))
      (limited : limit = (min channel.maximumPacketSize channel.sendWindow).toNat)
      (polled : host.pollRead terminal (min limit TerminalsFuture.bufLen) = .ready (.ok outcome))
      (inside : outcome.count ≤ TerminalsFuture.bufLen) :
      ChannelMove host shell localId channel
        [.read localId terminal (outcome.buffer.val.take outcome.count),
          .sent localId (.data ⟨channel.remoteId, outcome.buffer.val.take outcome.count⟩)]
        { channel with
          sendWindow := saturatingSub channel.sendWindow (UInt32.ofNat outcome.count) }

def Removable (host : TerminalHost τ) (localId : UInt32) (channel : Channel τ) : Prop :=
  channel.terminal = none ∨ (∃ ptyReq, channel.terminal = some (.requested ptyReq)) ∨
    (∃ status, channel.terminal = some (.exited status)) ∨ channel.terminal = some .closing ∨
    ∃ terminal deadline, channel.terminal = some (.reaping terminal deadline) ∧
      ((∃ outcome, host.pollWait terminal = .ready outcome) ∨ deadline ≤ host.now localId)

inductive Move (host : TerminalHost τ) (shell : Channel τ → Prop) : View τ → View τ → Prop
  | refused {view} (failure : ChannelOpenFailure) :
      Move host shell view ⟨view.get, view.log ++ [.refused failure]⟩
  | opened {view localId} (open_ : ChannelOpen) (vacant : view.get localId = none) :
      Move host shell view (view.change localId (some (openedChannel open_))
        [.opened localId open_,
          .sent localId (.openConfirmation ((openedChannel open_ : Channel τ).confirmation localId))])
  | changed {view localId channel events next} (live : view.get localId = some channel)
      (moved : ChannelMove host shell localId channel events next) :
      Move host shell view (view.change localId (some next) events)
  | removed {view localId channel} (live : view.get localId = some channel)
      (removable : Removable host localId channel) :
      Move host shell view (view.change localId none [.removed localId])

abbrev Moves (host : TerminalHost τ) (shell : Channel τ → Prop) :=
  Relation.ReflTransGen (Move host shell)

section View

theorem View.change_self {view : View τ} {localId : UInt32} {channel : Channel τ}
    (live : view.get localId = some channel) (events : List (Event τ)) :
    view.change localId (some channel) events = ⟨view.get, view.log ++ events⟩ := by
  rw [View.change, ← live, Function.update_eq_self]

theorem View.change_change (view : View τ) (localId : UInt32) (first last : Option (Channel τ))
    (events more : List (Event τ)) :
    (view.change localId first events).change localId last more =
      view.change localId last (events ++ more) := by
  simp only [View.change, Function.update_idem, List.append_assoc]

theorem View.change_get (view : View τ) (localId : UInt32) (entry : Option (Channel τ))
    (events : List (Event τ)) : (view.change localId entry events).get localId = entry := by
  simp only [View.change, Function.update_self]

theorem Channels.put_get (channels : Channels τ) (localId : UInt32) (channel : Channel τ) :
    (fun other => (channels.put localId channel).channels[other]?) =
      Function.update (fun other => channels.channels[other]?) localId (some channel) := by
  funext other
  simp only [Channels.put, Std.TreeMap.getElem?_insert, Std.LawfulEqCmp.compare_eq_iff_eq,
    Function.update_apply]
  exact if_congr eq_comm rfl rfl

theorem Channels.remove_get (channels : Channels τ) (localId : UInt32) :
    (fun other => (channels.remove localId).channels[other]?) =
      Function.update (fun other => channels.channels[other]?) localId none := by
  funext other
  simp only [Channels.remove, Std.TreeMap.getElem?_erase, Std.LawfulEqCmp.compare_eq_iff_eq,
    Function.update_apply]
  exact if_congr eq_comm rfl rfl

theorem Mux.view_put (mux : Mux σ τ) (localId : UInt32) (channel : Channel τ) :
    ({ mux with channels := mux.channels.put localId channel } : Mux σ τ).view =
      mux.view.change localId (some channel) [] := by
  simp only [Mux.view, View.change, Channels.put_get, List.append_nil]

theorem Mux.view_remove (mux : Mux σ τ) (localId : UInt32) :
    ({ mux with
        channels := mux.channels.remove localId
        log := mux.log ++ [.removed localId] } : Mux σ τ).view =
      mux.view.change localId none [.removed localId] := by
  simp only [Mux.view, View.change, Channels.remove_get]

end View

section Windows

theorem toNat_lenAsU32 {bytes : Bytes} (short : bytes.length < 2 ^ 32) :
    (lenAsU32 bytes).toNat = bytes.length :=
  toNat_ofNat_of_lt short

theorem checkedSub_eq_some {window count left : UInt32}
    (fits : checkedSub window count = some left) : left.toNat + count.toNat = window.toNat := by
  unfold checkedSub at fits
  split at fits
  · rename_i bound
    cases fits
    rw [UInt32.toNat_sub_of_le _ _ bound]
    have := UInt32.le_iff_toNat_le.mp bound
    omega
  · cases fits

end Windows

section Rules

theorem putChannel_ok {localId : UInt32} {channel : Channel τ} {mux last : Mux σ τ} {value : Unit}
    (done : exec (putChannel localId channel) mux = (.ok value, last)) :
    last.view = mux.view.change localId (some channel) [] := by
  cases done
  exact mux.view_put localId channel

theorem removeChannel_ok {localId : UInt32} {mux last : Mux σ τ} {value : Unit}
    (done : exec (removeChannel localId) mux = (.ok value, last)) :
    last.view = mux.view.change localId none [.removed localId] := by
  cases done
  exact mux.view_remove localId

theorem note_ok {event : Event τ} {mux last : Mux σ τ} {value : Unit}
    (done : exec (note event) mux = (.ok value, last)) :
    last.view = ⟨mux.view.get, mux.view.log ++ [event]⟩ := by
  cases done
  rfl

theorem lookupChannel_ok {localId : UInt32} {mux last : Mux σ τ} {entry : Option (Channel τ)}
    (done : exec (lookupChannel localId) mux = (.ok entry, last)) :
    mux = last ∧ mux.view.get localId = entry := by
  cases done
  exact ⟨rfl, rfl⟩

theorem attemptIo_ok {α : Type} {outcome : Except IoError α} {mux last : Mux σ τ} {value : α}
    (done : exec (attemptIo outcome) mux = (.ok value, last)) :
    mux = last ∧ outcome = .ok value := by
  cases outcome with
  | ok other =>
      cases done
      exact ⟨rfl, rfl⟩
  | error error => cases done

theorem note_put_view {event : Event τ} {localId : UInt32} {channel : Channel τ}
    {mux noted stored : Mux σ τ} {value other : Unit}
    (logged : exec (note event) mux = (.ok value, noted))
    (put : exec (putChannel localId channel) noted = (.ok other, stored)) :
    stored.view = mux.view.change localId (some channel) [event] := by
  rw [putChannel_ok put, note_ok logged]
  simp only [View.change, List.append_nil]

variable [SealingKey σ]

theorem transmitAs_ok {event : Event τ} {payload : Bytes} {mux last : Mux σ τ} {value : Unit}
    (done : exec (transmitAs event payload) mux = (.ok value, last)) :
    last.view = ⟨mux.view.get, mux.view.log ++ [event]⟩ := by
  change mux.encode event payload = _ at done
  unfold Mux.encode at done
  split at done
  · cases done
    rfl
  · cases done

theorem put_transmit {localId : UInt32} {channel : Channel τ} {message : ServerMessage}
    {mux middle last : Mux σ τ} {put sent : Unit}
    (stored : exec (putChannel localId channel) mux = (.ok put, middle))
    (done : exec (transmit localId message) middle = (.ok sent, last)) :
    last.view = mux.view.change localId (some channel) [.sent localId message] := by
  rw [transmitAs_ok done, putChannel_ok stored]
  simp only [View.change, List.append_nil]

end Rules

section Shell

variable [SealingKey σ] {host : TerminalHost τ}

open Channels

theorem requestShell_view {localId : UInt32} {channel next : Channel τ} {options : KeyOptions}
    {mux last : Mux σ τ}
    (done : exec (requestShell host localId channel options) mux = (.ok next, last)) :
    ∃ ptyReq terminal, channel.terminal = some (.requested ptyReq) ∧
      host.spawn options.command ptyReq channel.env = .ok terminal ∧
      next = { channel with
        terminal := some (.running terminal), receiveWindow := initialWindowSize } ∧
      last.view = mux.view.change localId (some next)
        [.spawned localId options.command channel.env terminal,
          .sent localId (.windowAdjust ⟨channel.remoteId, initialWindowSize⟩)] := by
  unfold requestShell at done
  split at done
  · rename_i ptyReq requested
    obtain ⟨_, taken, take, done⟩ := exec_bind_ok.mp done
    obtain ⟨terminal, _, io, done⟩ := exec_bind_ok.mp done
    obtain ⟨rfl, spawned⟩ := attemptIo_ok io
    obtain ⟨_, stored, put, done⟩ := exec_bind_ok.mp done
    obtain ⟨_, noted, logged, done⟩ := exec_bind_ok.mp done
    obtain ⟨_, sent, transmitted, done⟩ := exec_bind_ok.mp done
    cases done
    refine ⟨ptyReq, terminal, requested, spawned, rfl, ?_⟩
    rw [transmitAs_ok transmitted, note_ok logged, putChannel_ok put, putChannel_ok take]
    simp only [View.change, Function.update_idem, List.append_nil, List.append_assoc,
      List.cons_append, List.nil_append]
  · obtain ⟨_, taken, take, done⟩ := exec_bind_ok.mp done
    cases done

end Shell

section Banner

theorem length_wrapTokens_le (width : Nat) {tokens : List Bytes} {total : Nat}
    (counted : (tokens.map fun token => token.length + 12).sum = total) (left : Nat)
    (banner : Bytes) : (wrapTokens width tokens left banner).length ≤ banner.length + total := by
  subst counted
  induction tokens generalizing left banner with
  | nil => simp [wrapTokens]
  | cons token tokens ih =>
      have wide : (crlf ++ noPqPrefix).length = 11 := rfl
      rw [List.length_append] at wide
      simp only [wrapTokens, List.map_cons, List.sum_cons]
      split
      · refine Nat.le_trans (ih _ _) ?_
        simp only [List.length_append, List.length_singleton]
        omega
      · refine Nat.le_trans (ih _ _) ?_
        simp only [List.length_append, List.length_singleton]
        omega

theorem noPqWarning_tokens_length :
    ((noPqWarning.splitOn space).map fun token => token.length + 12).sum = 459 := by
  decide +kernel

theorem banner_short {request : ChannelRequest} {clientIdentity : Bytes} {postQuantumKx : Bool}
    {text : Bytes} (shown : banner request clientIdentity postQuantumKx = some text) :
    text.length < 2 ^ 32 := by
  unfold banner at shown
  split at shown
  · cases shown
  · split at shown
    · rename_i ptyReq _
      rw [Option.some.injEq] at shown
      subst shown
      have wrapped := length_wrapTokens_le (bannerWidth ptyReq) noPqWarning_tokens_length
        (bannerWidth ptyReq - noPqPrefix.length) noPqPrefix
      have lead : noPqPrefix.length = 9 := rfl
      have upgrade : noPqWarningOpenSsh.length = 62 := by decide
      have ending : crlf.length = 2 := rfl
      simp only [List.length_append]
      split
      · simp only [List.length_append]
        omega
      · simp only [List.length_nil]
        omega
    · cases shown

end Banner

section Steps

theorem ChannelData.tryFrom_short {packet : IncomingPacket} {message : ChannelData}
    (parsed : ChannelData.tryFrom packet = .ok message) : message.data.length < 2 ^ 32 := by
  unfold ChannelData.tryFrom at parsed
  obtain ⟨_, _, parsed⟩ := Outcome.bind_eq_ok.mp parsed
  obtain ⟨⟨recipient, next⟩, _, parsed⟩ := Outcome.bind_eq_ok.mp parsed
  obtain ⟨⟨data, next⟩, decoded, parsed⟩ := Outcome.bind_eq_ok.mp parsed
  dsimp only [whenEmpty] at parsed
  split at parsed
  · cases parsed
    exact (decodeBytes_ok decoded).2
  · cases parsed

theorem IncomingChannelMessage.data_short {packet : IncomingPacket} {message : ChannelData}
    (parsed : IncomingChannelMessage.tryFrom packet = .ok (.data message)) :
    message.data.length < 2 ^ 32 := by
  unfold IncomingChannelMessage.tryFrom at parsed
  split at parsed
  · obtain ⟨other, _, wrong⟩ := Outcome.map_eq_ok.mp parsed
    cases wrong
  · obtain ⟨other, _, wrong⟩ := Outcome.map_eq_ok.mp parsed
    cases wrong
  · obtain ⟨other, decoded, same⟩ := Outcome.map_eq_ok.mp parsed
    cases same
    exact ChannelData.tryFrom_short decoded
  · obtain ⟨other, _, wrong⟩ := Outcome.map_eq_ok.mp parsed
    cases wrong
  · obtain ⟨other, _, wrong⟩ := Outcome.map_eq_ok.mp parsed
    cases wrong
  · obtain ⟨other, _, wrong⟩ := Outcome.map_eq_ok.mp parsed
    cases wrong
  · cases parsed

variable [SealingKey σ]

omit [SealingKey σ] in
theorem Mux.start_vacant (write : WriteState σ) (localId : UInt32) :
    (Mux.start write : Mux σ τ).view.get localId = none :=
  Std.TreeMap.getElem?_emptyc

theorem Mux.step_some {mux next : Mux σ τ} {step : SessionStep σ τ}
    (stepped : mux.step step = some next) :
    ∃ begun : Mux σ τ, begun.view = mux.view ∧
      exec (step.input.operation step.host) begun = (.ok (), next) := by
  unfold Mux.step at stepped
  split at stepped
  · rename_i done
    cases stepped
    exact ⟨{ mux with write := step.write }, rfl, done⟩
  · cases stepped

omit [SealingKey σ] in
theorem parseMessage_ok {packet : IncomingPacket} {mux last : Mux σ τ}
    {message : IncomingChannelMessage}
    (done : exec (parseMessage packet) mux = (.ok message, last)) :
    mux = last ∧ IncomingChannelMessage.tryFrom packet = .ok message := by
  change (raise ((IncomingChannelMessage.tryFrom packet).mapError Error.proto), mux) = _ at done
  obtain ⟨parsed, same⟩ := Prod.mk.inj done
  refine ⟨same, ?_⟩
  cases outcome : IncomingChannelMessage.tryFrom packet with
  | ok other =>
      rw [outcome] at parsed
      cases parsed
      rfl
  | error cause =>
      rw [outcome] at parsed
      cases parsed

end Steps

section Events

def Event.localId : Event τ → Option UInt32
  | .opened localId _ | .removed localId | .sent localId _ | .accepted localId _
  | .granted localId _ | .spawned localId _ _ _ | .read localId _ _ | .waited localId _
  | .killed localId _ => some localId
  | .refused _ => none

def Event.opens : Event τ → Bool
  | .opened _ _ => true
  | _ => false

def record (localId : UInt32) (past : List (Event τ)) (event : Event τ) : List (Event τ) :=
  if event.localId = some localId then if event.opens then [event] else past ++ [event] else past

/-- What happened to a channel, from the moment it was opened. An id is given out again only
when the channel that had it is gone. -/
def eventsOf (localId : UInt32) (log : List (Event τ)) : List (Event τ) :=
  log.foldl (record localId) []

def Own (localId : UInt32) (events : List (Event τ)) : Prop :=
  ∀ event ∈ events, event.localId = some localId ∧ event.opens = false

theorem Own.append {localId : UInt32} {events more : List (Event τ)} (first : Own localId events)
    (second : Own localId more) : Own localId (events ++ more) := by
  intro event member
  rcases List.mem_append.mp member with early | late
  · exact first event early
  · exact second event late

theorem eventsOf_continued {localId : UInt32} {events : List (Event τ)}
    (quiet : ∀ event ∈ events, event.localId = some localId → event.opens = false)
    (log : List (Event τ)) : eventsOf localId (log ++ events) =
      eventsOf localId log ++ events.filter fun event => event.localId = some localId := by
  induction events generalizing log with
  | nil => simp
  | cons event events ih =>
      obtain ⟨here, later⟩ := List.forall_mem_cons.mp quiet
      have step : eventsOf localId (log ++ [event]) = record localId (eventsOf localId log) event := by
        rw [eventsOf, List.foldl_append]
        rfl
      rw [← List.singleton_append, ← List.append_assoc, ih later, step, List.filter_append,
        ← List.append_assoc]
      by_cases own : event.localId = some localId
      · simp [record, own, here own]
      · simp [record, own]

theorem eventsOf_own {localId : UInt32} {events : List (Event τ)} (own : Own localId events)
    (log : List (Event τ)) : eventsOf localId (log ++ events) = eventsOf localId log ++ events := by
  rw [eventsOf_continued fun event member _ => (own event member).2, List.filter_eq_self.mpr]
  intro event member
  exact decide_eq_true (own event member).1

theorem eventsOf_other {localId : UInt32} {events : List (Event τ)}
    (other : ∀ event ∈ events, event.localId ≠ some localId) (log : List (Event τ)) :
    eventsOf localId (log ++ events) = eventsOf localId log := by
  rw [eventsOf_continued fun event member own => absurd own (other event member),
    List.filter_eq_nil_iff.mpr, List.append_nil]
  intro event member own
  exact other event member (of_decide_eq_true own)

theorem eventsOf_opened (localId : UInt32) (open_ : ChannelOpen) (log : List (Event τ))
    (message : ServerMessage) :
    eventsOf localId (log ++ [.opened localId open_, .sent localId message]) =
      [.opened localId open_, .sent localId message] := by
  simp [eventsOf, record, Event.localId, Event.opens]

variable {host : TerminalHost τ} {shell : Channel τ → Prop}

theorem ChannelMove.own {localId : UInt32} {channel next : Channel τ} {events : List (Event τ)}
    (moved : ChannelMove host shell localId channel events next) : Own localId events := by
  cases moved <;> simp [Own, Event.localId, Event.opens]

def View.Each (view : View τ) (Inv : UInt32 → Channel τ → List (Event τ) → Prop) : Prop :=
  ∀ localId channel, view.get localId = some channel →
    Inv localId channel (eventsOf localId view.log)

/-- A property of one channel that holds when the channel is opened and that every move keeps. -/
structure ChannelInvariant (host : TerminalHost τ) (shell : Channel τ → Prop)
    (Inv : UInt32 → Channel τ → List (Event τ) → Prop) : Prop where
  opened : ∀ localId open_, Inv localId (openedChannel open_)
    [.opened localId open_,
      .sent localId (.openConfirmation ((openedChannel open_ : Channel τ).confirmation localId))]
  changed : ∀ {localId channel events next past},
    ChannelMove host shell localId channel events next → Inv localId channel past →
      Inv localId next (past ++ events)

variable {Inv : UInt32 → Channel τ → List (Event τ) → Prop}

theorem View.Each.change {view : View τ} {localId : UInt32} {entry : Option (Channel τ)}
    {events : List (Event τ)} (holds : view.Each Inv)
    (own : ∀ event ∈ events, event.localId = some localId)
    (here : ∀ channel, entry = some channel →
      Inv localId channel (eventsOf localId (view.log ++ events))) :
    (view.change localId entry events).Each Inv := by
  intro other channel live
  by_cases same : other = localId
  · subst same
    rw [View.change_get] at live
    exact here channel live
  · have apart : ∀ event ∈ events, event.localId ≠ some other := by
      intro event member claimed
      rw [own event member, Option.some.injEq] at claimed
      exact same claimed.symm
    simp only [View.change, Function.update_of_ne same] at live
    simp only [View.change, eventsOf_other apart]
    exact holds other channel live

theorem ChannelInvariant.move {view next : View τ} (invariant : ChannelInvariant host shell Inv)
    (moved : Move host shell view next) (holds : view.Each Inv) : next.Each Inv := by
  cases moved with
  | refused failure =>
      intro localId channel live
      rw [eventsOf_other (by simp [Event.localId])]
      exact holds localId channel live
  | opened open_ vacant =>
      refine holds.change (by simp [Event.localId]) ?_
      intro channel entered
      cases entered
      rw [eventsOf_opened]
      exact invariant.opened _ open_
  | changed live moved =>
      refine holds.change (fun event member => (moved.own event member).1) ?_
      intro channel entered
      cases entered
      rw [eventsOf_own moved.own]
      exact invariant.changed moved (holds _ _ live)
  | removed live removable =>
      refine holds.change (by simp [Event.localId]) ?_
      intro channel entered
      cases entered

theorem ChannelInvariant.moves {view last : View τ} (invariant : ChannelInvariant host shell Inv)
    (moves : Moves host shell view last) (holds : view.Each Inv) : last.Each Inv := by
  induction moves with
  | refl => exact holds
  | tail _ moved ih => exact invariant.move moved ih

end Events

end Oxish
