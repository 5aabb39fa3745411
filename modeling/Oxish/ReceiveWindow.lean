import Oxish.ChannelMoves
import Oxish.PacketEncoding

/-!
The receive window of a channel against the credit its peer was given. The shell request assigns
the window instead of adding to it, so the two agree exactly when a shell is only ever started
on a channel that has no credit left.
-/

namespace Oxish

open Stateful

variable {σ τ : Type}

namespace Event

def credit : Event τ → Nat
  | .sent _ (.openConfirmation confirmation) => confirmation.initialWindowSize.toNat
  | .sent _ (.windowAdjust adjust) => adjust.bytesToAdd.toNat
  | _ => 0

def use : Event τ → Nat
  | .accepted _ data => data.length
  | _ => 0

end Event

def advertised (past : List (Event τ)) : Nat := (past.map Event.credit).sum

def acceptedLen (past : List (Event τ)) : Nat := (past.map Event.use).sum

def WindowAgrees (channel : Channel τ) (past : List (Event τ)) : Prop :=
  channel.receiveWindow.toNat + acceptedLen past = advertised past

def Mux.WindowsAgree (mux : Mux σ τ) : Prop :=
  mux.view.Each fun _ channel past => WindowAgrees channel past

/-- Data within the credit of a live channel is not turned away for the window. -/
def Mux.CreditHonoured [SealingKey σ] (mux : Mux σ τ) : Prop :=
  ∀ (data : ChannelData) channel, mux.view.get data.recipientChannel = some channel →
    acceptedLen (eventsOf data.recipientChannel mux.log) + data.data.length ≤
      advertised (eventsOf data.recipientChannel mux.log) →
    (exec (Channels.data data) mux).1 ≠
      .error (.error (.proto (.invalidPacket "channel data exceeds receive window")))

/-- A shell request finds no credit on its channel. -/
def Mux.ShellUnfunded (mux : Mux σ τ) (step : SessionStep σ τ) : Prop :=
  ∀ request channel, step.StartsShell request →
    mux.view.get request.recipientChannel = some channel → channel.receiveWindow = 0

section Arithmetic

@[simp] theorem advertised_append (past events : List (Event τ)) :
    advertised (past ++ events) = advertised past + advertised events := by
  simp [advertised]

@[simp] theorem acceptedLen_append (past events : List (Event τ)) :
    acceptedLen (past ++ events) = acceptedLen past + acceptedLen events := by
  simp [acceptedLen]

theorem ledgers_shell (localId : UInt32) (command : Option String) (env : List (String × String))
    (terminal : τ) (adjust : ChannelWindowAdjust) :
    advertised [.spawned localId command env terminal, .sent localId (.windowAdjust adjust)] =
        adjust.bytesToAdd.toNat ∧
      acceptedLen [.spawned localId command env terminal, .sent localId (.windowAdjust adjust)] =
        0 := by
  simp [advertised, acceptedLen, Event.credit, Event.use]

theorem initialWindowSize_toNat : initialWindowSize.toNat = 1048576 := rfl

theorem toppedUp_toNat {window : UInt32} (low : window < initialWindowSize / 2) :
    (initialWindowSize - window).toNat + window.toNat = initialWindowSize.toNat := by
  have half : (initialWindowSize / 2).toNat = 524288 := rfl
  have small := UInt32.lt_iff_toNat_lt.mp low
  have whole := initialWindowSize_toNat
  rw [UInt32.toNat_sub_of_le _ _ (UInt32.le_iff_toNat_le.mpr (by omega))]
  omega

end Arithmetic

section Accounting

variable {host : TerminalHost τ} {localId : UInt32} {channel next : Channel τ}
  {past events : List (Event τ)}

theorem WindowAgrees.moved {given used : Nat} (agrees : WindowAgrees channel past)
    (credited : advertised events = given) (taken : acceptedLen events = used)
    (balanced : next.receiveWindow.toNat + used = channel.receiveWindow.toNat + given) :
    WindowAgrees next (past ++ events) := by
  unfold WindowAgrees at agrees ⊢
  rw [advertised_append, acceptedLen_append, credited, taken]
  omega

theorem WindowAgrees.shellSpawned {command : Option String} {env : List (String × String)}
    {terminal : τ} {adjust : ChannelWindowAdjust} (agrees : WindowAgrees channel past)
    (unfunded : channel.receiveWindow = 0) (assigned : next.receiveWindow = adjust.bytesToAdd) :
    WindowAgrees next
      (past ++ [.spawned localId command env terminal, .sent localId (.windowAdjust adjust)]) := by
  obtain ⟨credited, taken⟩ := ledgers_shell localId command env terminal adjust
  refine agrees.moved credited taken ?_
  rw [assigned, unfunded, Nat.add_zero]
  exact (Nat.zero_add _).symm

theorem WindowAgrees.dataAccepted {data : Bytes} {window : UInt32}
    (agrees : WindowAgrees channel past) (short : data.length < 2 ^ 32)
    (fits : checkedSub channel.receiveWindow (lenAsU32 data) = some window)
    (left : next.receiveWindow = window) :
    WindowAgrees next (past ++ [.accepted localId data]) := by
  have credited : advertised [(.accepted localId data : Event τ)] = 0 := rfl
  have taken : acceptedLen [(.accepted localId data : Event τ)] = data.length := by
    simp [acceptedLen, Event.use]
  refine agrees.moved credited taken ?_
  have balance := checkedSub_eq_some fits
  rw [toNat_lenAsU32 short] at balance
  rw [left, Nat.add_zero, balance]

theorem WindowAgrees.toppedUp {adjust : ChannelWindowAdjust} (agrees : WindowAgrees channel past)
    (balance : adjust.bytesToAdd.toNat + channel.receiveWindow.toNat = next.receiveWindow.toNat) :
    WindowAgrees next (past ++ [.sent localId (.windowAdjust adjust)]) := by
  have credited : advertised [(.sent localId (.windowAdjust adjust) : Event τ)] =
      adjust.bytesToAdd.toNat := by
    simp [advertised, Event.credit]
  have taken : acceptedLen [(.sent localId (.windowAdjust adjust) : Event τ)] = 0 := rfl
  refine agrees.moved credited taken ?_
  rw [Nat.add_zero, ← balance, Nat.add_comm]

theorem windowAgrees_invariant :
    ChannelInvariant host (fun channel => channel.receiveWindow = 0)
      fun _ channel past => WindowAgrees channel past where
  opened localId open_ := rfl
  changed moved agrees := by
    cases moved with
    | shellSpawned requested spawned unfunded => exact agrees.shellSpawned unfunded rfl
    | dataAccepted short fits => exact agrees.dataAccepted short fits rfl
    | toppedUp low => exact agrees.toppedUp (toppedUp_toNat low)
    | _ => exact agrees.moved rfl rfl rfl

end Accounting

section Shell

variable [SealingKey σ] {host : TerminalHost τ}

open Channels

theorem finishRequest_view {localId : UInt32} {channel : Channel τ} {wantReply : Bool}
    {banner : Option Bytes} {mux last : Mux σ τ} {value : Unit}
    (live : mux.view.get localId = some channel)
    (done : exec (finishRequest localId channel wantReply banner) mux = (.ok value, last)) :
    ∃ next events, last.view = mux.view.change localId (some next) events ∧
      Own localId events ∧ next.receiveWindow = channel.receiveWindow ∧ advertised events = 0 ∧
      acceptedLen events = 0 := by
  unfold finishRequest at done
  obtain ⟨_, replied, reply, done⟩ := exec_bind_ok.mp done
  have first : ∃ events, replied.view = mux.view.change localId (some channel) events ∧
      Own localId events ∧ advertised events = 0 ∧ acceptedLen events = 0 := by
    unfold replySuccess at reply
    split at reply
    · refine ⟨[.sent localId (.success channel.success)], ?_, ?_, rfl, rfl⟩
      · rw [transmitAs_ok reply, View.change_self live]
      · simp [Own, Event.localId, Event.opens]
    · cases reply
      refine ⟨[], ?_, List.forall_mem_nil _, rfl, rfl⟩
      rw [View.change_self live, List.append_nil]
  obtain ⟨events, view, own, given, used⟩ := first
  unfold sendBanner at done
  split at done
  · cases done
    exact ⟨channel, events, view, own, rfl, given, used⟩
  · rename_i text _
    split at done
    · cases done
      exact ⟨channel, events, view, own, rfl, given, used⟩
    · rename_i window _
      obtain ⟨_, stored, put, sent⟩ := exec_bind_ok.mp done
      refine ⟨{ channel with sendWindow := window },
        events ++ [.sent localId (.banner ⟨channel.remoteId, text⟩)], ?_, ?_, rfl, ?_, ?_⟩
      · rw [put_transmit put sent, view, View.change_change]
      · exact own.append (by simp [Own, Event.localId, Event.opens])
      · rw [advertised_append, given]
        rfl
      · rw [acceptedLen_append, used]
        rfl

theorem request_shell_view {request : ChannelRequest} {banner : Option Bytes}
    {options : KeyOptions} {mux last : Mux σ τ} {value : Unit} {channel : Channel τ}
    (isShell : request.type = .shell)
    (live : mux.view.get request.recipientChannel = some channel)
    (done : exec (Channels.request host request banner options) mux = (.ok value, last)) :
    ∃ next, last.view.get request.recipientChannel = some next ∧
      next.receiveWindow = initialWindowSize ∧
      advertised (eventsOf request.recipientChannel last.log) =
        advertised (eventsOf request.recipientChannel mux.log) + initialWindowSize.toNat ∧
      acceptedLen (eventsOf request.recipientChannel last.log) =
        acceptedLen (eventsOf request.recipientChannel mux.log) := by
  unfold Channels.request at done
  obtain ⟨entry, _, looked, done⟩ := exec_bind_ok.mp done
  obtain ⟨rfl, found⟩ := lookupChannel_ok looked
  rw [live] at found
  subst found
  dsimp only at done
  rw [isShell] at done
  obtain ⟨started, begun, start, finish⟩ := exec_bind_ok.mp done
  obtain ⟨ptyReq, terminal, requested, spawned, rfl, view⟩ := requestShell_view start
  have current := congrArg (fun seen => seen.get request.recipientChannel) view
  rw [View.change_get] at current
  obtain ⟨next, events, finished, own, same, given, used⟩ := finishRequest_view current finish
  rw [view, View.change_change] at finished
  have logged : last.log = mux.log ++ (_ ++ events) := congrArg View.log finished
  refine ⟨next, ?_, same, ?_⟩
  · rw [finished, View.change_get]
  · have start_own : Own request.recipientChannel _ := 
      (.shellSpawned requested spawned trivial :
        ChannelMove host (fun _ => True) request.recipientChannel channel _ _).own
    rw [logged, eventsOf_own (start_own.append own)]
    simp only [advertised_append, acceptedLen_append, given, used, ledgers_shell, Nat.add_zero, and_self]

theorem windowsAgree_shell {mux next : Mux σ τ} {step : SessionStep σ τ}
    (agrees : mux.WindowsAgree) (stepped : mux.step step = some next) (after : next.WindowsAgree) :
    mux.ShellUnfunded step := by
  intro request channel starts live
  obtain ⟨packet, session, input, parsed, isShell⟩ := starts
  obtain ⟨begun, same, done⟩ := Mux.step_some stepped
  rw [input] at done
  obtain ⟨message, _, read, handled⟩ := exec_bind_ok.mp done
  obtain ⟨rfl, decoded⟩ := parseMessage_ok read
  rw [parsed] at decoded
  cases decoded
  rw [← same] at live
  obtain ⟨last, current, window, given, used⟩ := request_shell_view isShell live handled
  have before := agrees _ channel (same ▸ live)
  have later := after _ last current
  have logs : begun.log = mux.log := congrArg View.log same
  simp only [WindowAgrees] at before later
  rw [logs] at given used
  change _ + acceptedLen (eventsOf _ next.log) = advertised (eventsOf _ next.log) at later
  change _ + acceptedLen (eventsOf _ mux.log) = advertised (eventsOf _ mux.log) at before
  rw [given, used, window] at later
  apply UInt32.toNat_inj.mp
  have none : (0 : UInt32).toNat = 0 := rfl
  generalize initialWindowSize.toNat = whole at later
  omega

end Shell

section Credit

variable [SealingKey σ]

theorem transmitAs_not_invalidPacket {event : Event τ} {payload : Bytes} {mux last : Mux σ τ}
    {message : String} :
    exec (transmitAs event payload) mux ≠
      (.error (.error (.proto (.invalidPacket message))), last) := by
  intro failed
  change mux.encode event payload = _ at failed
  unfold Mux.encode at failed
  split at failed
  · cases failed
  · rename_i write stop written
    have refused : (mux.write.encodeKx payload none).result = .error stop :=
      congrArg Prod.snd written
    cases stop with
    | error cause =>
        cases failed
        exact mux.write.encodeKx_not_invalidPacket payload none message refused
    | panic site => cases failed

theorem topUp_not_invalidPacket {localId : UInt32} {channel : Channel τ} {mux last : Mux σ τ}
    {message : String} :
    exec (Channels.topUp localId channel) mux ≠
      (.error (.error (.proto (.invalidPacket message))), last) := by
  intro failed
  unfold Channels.topUp at failed
  split at failed
  · rcases exec_bind_error.mp failed with stored | ⟨_, stored, _, sent⟩
    · cases stored
    · exact transmitAs_not_invalidPacket sent
  · cases failed

theorem data_within_window {data : ChannelData} {channel : Channel τ} {mux last : Mux σ τ}
    {message : String} (live : mux.view.get data.recipientChannel = some channel)
    (within : data.data.length ≤ channel.receiveWindow.toNat) :
    exec (Channels.data data) mux ≠
      (.error (.error (.proto (.invalidPacket message))), last) := by
  intro failed
  have small : data.data.length < 2 ^ 32 := Nat.lt_of_le_of_lt within channel.receiveWindow.toNat_lt
  have fits : checkedSub channel.receiveWindow (lenAsU32 data.data) =
      some (channel.receiveWindow - lenAsU32 data.data) := by
    refine if_pos (UInt32.le_iff_toNat_le.mpr ?_)
    rw [toNat_lenAsU32 small]
    exact within
  unfold Channels.data at failed
  rcases exec_bind_error.mp failed with looked | ⟨entry, _, looked, failed⟩
  · cases looked
  · obtain ⟨rfl, found⟩ := lookupChannel_ok looked
    rw [live] at found
    subst found
    dsimp only at failed
    rw [fits] at failed
    rcases exec_bind_error.mp failed with stored | ⟨_, stored, _, failed⟩
    · cases stored
    · rcases exec_bind_error.mp failed with noted | ⟨_, noted, _, failed⟩
      · cases noted
      · rcases exec_bind_error.mp failed with topped | ⟨_, topped, _, failed⟩
        · exact topUp_not_invalidPacket topped
        · split at failed
          · cases failed
          · cases failed

theorem Mux.WindowsAgree.creditHonoured {mux : Mux σ τ} (agrees : mux.WindowsAgree) :
    mux.CreditHonoured := by
  intro data channel live within rejected
  have balance : channel.receiveWindow.toNat + _ = _ := agrees _ channel live
  refine data_within_window live ?_ (Prod.ext rejected rfl)
  change _ + acceptedLen (eventsOf data.recipientChannel mux.log) =
    advertised (eventsOf data.recipientChannel mux.log) at balance
  omega

end Credit

section Runs

variable [SealingKey σ]

omit [SealingKey σ] in
theorem windowsAgree_start (write : WriteState σ) : (Mux.start write : Mux σ τ).WindowsAgree := by
  intro localId channel live
  rw [Mux.start_vacant] at live
  cases live

theorem windowsAgree_step {mux next : Mux σ τ} {step : SessionStep σ τ}
    (agrees : mux.WindowsAgree) (stepped : mux.step step = some next) :
    next.WindowsAgree ↔ mux.ShellUnfunded step := by
  constructor
  · exact windowsAgree_shell agrees stepped
  · intro unfunded
    exact windowAgrees_invariant.moves (step_moves unfunded stepped) agrees

/-- In every state of a run the windows agree with the credit given, and data within the credit
is taken, exactly when every shell request of the run finds a channel without credit. -/
theorem receive_window_agrees_iff (write : WriteState σ) (steps : List (SessionStep σ τ))
    {last : Mux σ τ} (ran : History.run Mux.step (Mux.start write) steps = some last) :
    History.Always Mux.step (Mux.start write) steps
        (fun mux => mux.WindowsAgree ∧ mux.CreditHonoured) ↔
      History.Throughout Mux.step (Mux.start write) steps Mux.ShellUnfunded := by
  rw [← History.always_iff_throughout (windowsAgree_start write) windowsAgree_step ran]
  constructor
  · intro always before after mux split reached
    exact (always before after mux split reached).1
  · intro always before after mux split reached
    have agrees := always before after mux split reached
    exact ⟨agrees, agrees.creditHonoured⟩

end Runs

section Clients

def emptyDataStep : SessionStep PlainSealer Unit :=
  receivedStep .channelData (encodeU32 0 ++ encodeBytes [])

def receiveLedger (mux : Mux PlainSealer Unit) (localId : UInt32) : Option (Nat × Nat × Nat) :=
  (mux.view.get localId).map fun channel =>
    (channel.receiveWindow.toNat, acceptedLen (eventsOf localId mux.log),
      advertised (eventsOf localId mux.log))

/-- A data message of length zero before the shell is enough: the credit it brings is given a
second time and forgotten. -/
theorem receive_window_forgets_credit :
    ∃ last, History.run Mux.step (Mux.start plainWriter)
        [openStep, emptyDataStep, ptyStep, shellStep] = some last ∧
      receiveLedger last 0 = some (1048576, 0, 2097152) ∧ ¬ last.WindowsAgree := by
  have ledger : (History.run Mux.step (Mux.start plainWriter)
      [openStep, emptyDataStep, ptyStep, shellStep]).bind (receiveLedger · 0) =
        some (1048576, 0, 2097152) := by
    rfl
  obtain ⟨last, ran, entries⟩ := Option.bind_eq_some_iff.mp ledger
  refine ⟨last, ran, entries, fun agrees => ?_⟩
  obtain ⟨channel, live, entry⟩ := Option.map_eq_some_iff.mp entries
  have balance : channel.receiveWindow.toNat + acceptedLen (eventsOf 0 last.log) =
      advertised (eventsOf 0 last.log) := agrees 0 channel live
  simp only [Prod.mk.injEq] at entry
  omega

theorem receive_window_agrees_iff_opened :
    ∃ last, History.run Mux.step (Mux.start plainWriter) [openStep, ptyStep, shellStep] =
        some last ∧
      receiveLedger last 0 = some (1048576, 0, 1048576) ∧
      (History.Always Mux.step (Mux.start plainWriter) [openStep, ptyStep, shellStep]
          (fun mux => mux.WindowsAgree ∧ mux.CreditHonoured) ↔
        History.Throughout Mux.step (Mux.start plainWriter) [openStep, ptyStep, shellStep]
          Mux.ShellUnfunded) := by
  have ledger : (History.run Mux.step (Mux.start plainWriter) [openStep, ptyStep, shellStep]).bind
      (receiveLedger · 0) = some (1048576, 0, 1048576) := by
    decide
  obtain ⟨last, ran, balanced⟩ := Option.bind_eq_some_iff.mp ledger
  exact ⟨last, ran, balanced, receive_window_agrees_iff plainWriter _ ran⟩

end Clients

end Oxish
