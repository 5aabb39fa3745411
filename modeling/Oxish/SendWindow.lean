import Oxish.ChannelMoves

/-!
The send window of a channel against the credit the client gave, and the output of its terminals
on the way to the client. Terminal output and the banner share one window.
-/

namespace Oxish

open Stateful

variable {σ τ : Type}

/-- What the code relies on: a read fills at most the buffer it is given. -/
def TerminalHost.Bounded (host : TerminalHost τ) : Prop :=
  ∀ terminal limit outcome, host.pollRead terminal limit = .ready (.ok outcome) →
    outcome.count ≤ limit

namespace Event

def allowance : Event τ → Nat
  | .opened _ open_ => open_.initialWindowSize.toNat
  | .granted _ bytesToAdd => bytesToAdd.toNat
  | _ => 0

def spend : Event τ → Nat
  | .sent _ (.banner data) | .sent _ (.data data) => data.data.length
  | _ => 0

def output? : Event τ → Option ChannelData
  | .sent _ (.data data) => some data
  | _ => none

def chunk? : Event τ → Option (τ × Bytes)
  | .read _ terminal data => some (terminal, data)
  | _ => none

def spawned? : Event τ → Option τ
  | .spawned _ _ _ terminal => some terminal
  | _ => none

end Event

def allowed (past : List (Event τ)) : Nat := (past.map Event.allowance).sum

def sentLen (past : List (Event τ)) : Nat := (past.map Event.spend).sum

def outputs (past : List (Event τ)) : List ChannelData := past.filterMap Event.output?

def chunks (past : List (Event τ)) : List (τ × Bytes) := past.filterMap Event.chunk?

def terminals (past : List (Event τ)) : List τ := past.filterMap Event.spawned?

def TerminalState.terminal? : TerminalState τ → Option τ
  | .running terminal | .exiting terminal _ | .reaping terminal _ => some terminal
  | .requested _ | .exited _ | .closing => none

def Channel.terminal? (channel : Channel τ) : Option τ := channel.terminal.bind (·.terminal?)

theorem Channel.terminal?_of {channel : Channel τ} {state : TerminalState τ}
    (present : channel.terminal = some state) : channel.terminal? = state.terminal? := by
  rw [Channel.terminal?, present]
  rfl

structure SendAccount (channel : Channel τ) (past : List (Event τ)) : Prop where
  budget : sentLen past + channel.sendWindow.toNat ≤ allowed past
  relayed : outputs past = (chunks past).map fun chunk => ⟨channel.remoteId, chunk.2⟩
  held : ∀ terminal, channel.terminal? = some terminal → terminal ∈ terminals past
  sources : ∀ chunk ∈ chunks past, chunk.1 ∈ terminals past

section Ledgers

@[simp] theorem allowed_append (past events : List (Event τ)) :
    allowed (past ++ events) = allowed past + allowed events := by
  simp [allowed]

@[simp] theorem sentLen_append (past events : List (Event τ)) :
    sentLen (past ++ events) = sentLen past + sentLen events := by
  simp [sentLen]

@[simp] theorem outputs_append (past events : List (Event τ)) :
    outputs (past ++ events) = outputs past ++ outputs events := by
  simp [outputs]

@[simp] theorem chunks_append (past events : List (Event τ)) :
    chunks (past ++ events) = chunks past ++ chunks events := by
  simp [chunks]

@[simp] theorem terminals_append (past events : List (Event τ)) :
    terminals (past ++ events) = terminals past ++ terminals events := by
  simp [terminals]

theorem saturatingAdd_le (window count : UInt32) :
    (saturatingAdd window count).toNat ≤ window.toNat + count.toNat := by
  unfold saturatingAdd
  split
  · rw [UInt32.toNat_add]
    exact Nat.mod_le _ _
  · rename_i full
    have top : (UInt32.ofNat (2 ^ 32 - 1)).toNat = 2 ^ 32 - 1 := rfl
    omega

theorem saturatingSub_exact {window : UInt32} {count : Nat} (fits : count ≤ window.toNat) :
    checkedSub window (UInt32.ofNat count) = some (saturatingSub window (UInt32.ofNat count)) ∧
      (saturatingSub window (UInt32.ofNat count)).toNat + count = window.toNat := by
  have small : (UInt32.ofNat count).toNat = count :=
    toNat_ofNat_of_lt (Nat.lt_of_le_of_lt fits window.toNat_lt)
  have below : UInt32.ofNat count ≤ window := by
    rw [UInt32.le_iff_toNat_le, small]
    exact fits
  have taken : checkedSub window (UInt32.ofNat count) = some (window - UInt32.ofNat count) :=
    if_pos below
  simp only [saturatingSub, taken, Option.getD_some, true_and]
  rw [UInt32.toNat_sub_of_le _ _ below, small]
  omega

theorem min_toNat_le (packet window : UInt32) :
    (min packet window).toNat ≤ packet.toNat ∧ (min packet window).toNat ≤ window.toNat := by
  change (if packet ≤ window then packet else window).toNat ≤ _ ∧
    (if packet ≤ window then packet else window).toNat ≤ _
  by_cases smaller : packet ≤ window
  · rw [if_pos smaller]
    exact ⟨Nat.le_refl _, UInt32.le_iff_toNat_le.mp smaller⟩
  · rw [if_neg smaller]
    exact ⟨Nat.le_of_lt (UInt32.lt_iff_toNat_lt.mp (UInt32.not_le.mp smaller)), Nat.le_refl _⟩

theorem TerminalHost.Bounded.count_le {host : TerminalHost τ} (bounded : host.Bounded)
    {channel : Channel τ} {terminal : τ} {outcome : ReadOutcome}
    (polled : host.pollRead terminal
      (min (min channel.maximumPacketSize channel.sendWindow).toNat TerminalsFuture.bufLen) =
        .ready (.ok outcome)) :
    outcome.count ≤ channel.maximumPacketSize.toNat ∧
      outcome.count ≤ channel.sendWindow.toNat := by
  have limited := bounded _ _ _ polled
  have capped := min_toNat_le channel.maximumPacketSize channel.sendWindow
  omega

end Ledgers

section Accounting

variable {host : TerminalHost τ} {localId : UInt32} {channel next : Channel τ}
  {past events : List (Event τ)}

theorem SendAccount.moved {given used : Nat} (account : SendAccount channel past)
    (credited : allowed events = given) (spent : sentLen events = used)
    (balanced : used + next.sendWindow.toNat ≤ given + channel.sendWindow.toNat)
    (remote : next.remoteId = channel.remoteId) (silent : outputs events = [])
    (unread : chunks events = [])
    (kept : ∀ terminal, next.terminal? = some terminal →
      channel.terminal? = some terminal ∨ terminal ∈ terminals events) :
    SendAccount next (past ++ events) where
  budget := by
    have budget := account.budget
    rw [sentLen_append, allowed_append, credited, spent]
    omega
  relayed := by
    rw [outputs_append, chunks_append, silent, unread, List.append_nil, List.append_nil, remote]
    exact account.relayed
  held := by
    intro terminal holds
    rw [terminals_append, List.mem_append]
    rcases kept terminal holds with before | started
    · exact Or.inl (account.held terminal before)
    · exact Or.inr started
  sources := by
    intro chunk member
    rw [chunks_append, unread, List.append_nil] at member
    rw [terminals_append, List.mem_append]
    exact Or.inl (account.sources chunk member)

theorem SendAccount.keep (account : SendAccount channel past)
    (credited : allowed events = 0) (spent : sentLen events = 0)
    (window : next.sendWindow = channel.sendWindow) (remote : next.remoteId = channel.remoteId)
    (silent : outputs events = []) (unread : chunks events = [])
    (kept : ∀ terminal, next.terminal? = some terminal →
      channel.terminal? = some terminal ∨ terminal ∈ terminals events) :
    SendAccount next (past ++ events) := by
  have same : 0 + next.sendWindow.toNat = 0 + channel.sendWindow.toNat := by rw [window]
  exact account.moved credited spent (Nat.le_of_eq same) remote silent unread kept

theorem SendAccount.relay {terminal : τ} {data : Bytes} (account : SendAccount channel past)
    (running : channel.terminal? = some terminal) (same : next.terminal? = channel.terminal?)
    (remote : next.remoteId = channel.remoteId)
    (balanced : next.sendWindow.toNat + data.length = channel.sendWindow.toNat) :
    SendAccount next (past ++
      [.read localId terminal data, .sent localId (.data ⟨channel.remoteId, data⟩)]) where
  budget := by
    have budget := account.budget
    rw [sentLen_append, allowed_append]
    simp only [sentLen, allowed, List.map_cons, List.map_nil, List.sum_cons, List.sum_nil,
      Event.spend, Event.allowance] at budget ⊢
    omega
  relayed := by
    rw [outputs_append, chunks_append, List.map_append, account.relayed, remote]
    rfl
  held := by
    intro other holds
    rw [terminals_append, List.mem_append]
    exact Or.inl (account.held other (same ▸ holds))
  sources := by
    intro chunk member
    rw [chunks_append, List.mem_append] at member
    rw [terminals_append, List.mem_append]
    refine Or.inl ?_
    rcases member with early | late
    · exact account.sources chunk early
    · cases List.mem_singleton.mp late
      exact account.held terminal running

theorem sendAccount_opened (localId : UInt32) (open_ : ChannelOpen) :
    SendAccount (openedChannel open_ : Channel τ) [.opened localId open_,
      .sent localId (.openConfirmation ((openedChannel open_ : Channel τ).confirmation localId))]
    where
  budget := by
    simp [sentLen, allowed, Event.spend, Event.allowance, openedChannel]
  relayed := rfl
  held := nofun
  sources := nofun

theorem sendAccount_invariant (bounded : host.Bounded) :
    ChannelInvariant host (fun _ => True) fun _ channel past => SendAccount channel past where
  opened := sendAccount_opened
  changed {localId channel events next past} moved account := by
    cases moved with
    | bannerSent short fits =>
        have balance := checkedSub_eq_some fits
        rw [toNat_lenAsU32 short] at balance
        refine account.moved rfl rfl ?_ rfl rfl rfl fun terminal holds => Or.inl holds
        simp only [sentLen, allowed, List.map_cons, List.map_nil, List.sum_cons, List.sum_nil,
          Event.spend, Event.allowance]
        omega
    | granted bytesToAdd =>
        have capped := saturatingAdd_le channel.sendWindow bytesToAdd
        refine account.moved rfl rfl ?_ rfl rfl rfl fun terminal holds => Or.inl holds
        simp only [sentLen, allowed, List.map_cons, List.map_nil, List.sum_cons, List.sum_nil,
          Event.spend, Event.allowance]
        omega
    | outputSent running limited polled inside =>
        subst limited
        rename_i terminal outcome
        refine account.relay (Channel.terminal?_of running) rfl rfl ?_
        have inBuffer : outcome.count ≤ outcome.buffer.val.length := by
          rw [outcome.buffer.property]
          exact inside
        rw [List.length_take, Nat.min_eq_left inBuffer]
        exact (saturatingSub_exact (bounded.count_le polled).2).2
    | shellSpawned requested spawned _ =>
        refine account.keep rfl rfl rfl rfl rfl rfl fun terminal holds => Or.inr ?_
        cases holds
        exact List.mem_singleton_self _
    | reaping held =>
        refine account.keep rfl rfl rfl rfl rfl rfl fun terminal holds => Or.inl ?_
        cases holds
        rcases held with running | ⟨earlier, exiting⟩
        · exact Channel.terminal?_of running
        · exact Channel.terminal?_of exiting
    | outputEnded running =>
        refine account.keep rfl rfl rfl rfl rfl rfl fun terminal holds => Or.inl ?_
        cases holds
        exact Channel.terminal?_of running
    | ptyRequested _ | exited _ _ | exitedUnknown _ _ | exitStatusSent _ _
    | exitStatusDropped _ _ => exact account.keep rfl rfl rfl rfl rfl rfl nofun
    | _ => exact account.keep rfl rfl rfl rfl rfl rfl fun terminal holds => Or.inl holds

end Accounting

section Runs

variable [SealingKey σ]

def Mux.SendsAccounted (mux : Mux σ τ) : Prop :=
  mux.view.Each fun _ channel past => SendAccount channel past

/-- The window is never smaller than what a read returns, so that it is charged in full. -/
def TerminalHost.NeverClamps (host : TerminalHost τ) : Prop :=
  ∀ (channel : Channel τ) terminal outcome,
    host.pollRead terminal
        (min (min channel.maximumPacketSize channel.sendWindow).toNat TerminalsFuture.bufLen) =
      .ready (.ok outcome) →
    checkedSub channel.sendWindow (UInt32.ofNat outcome.count) =
        some (saturatingSub channel.sendWindow (UInt32.ofNat outcome.count)) ∧
      (saturatingSub channel.sendWindow (UInt32.ofNat outcome.count)).toNat + outcome.count =
        channel.sendWindow.toNat

omit [SealingKey σ] in
theorem sendsAccounted_start (write : WriteState σ) :
    (Mux.start write : Mux σ τ).SendsAccounted := by
  intro localId channel live
  rw [Mux.start_vacant] at live
  cases live

theorem sendsAccounted_step {mux next : Mux σ τ} {step : SessionStep σ τ}
    (bounded : step.host.Bounded) (account : mux.SendsAccounted)
    (stepped : mux.step step = some next) : next.SendsAccounted :=
  (sendAccount_invariant bounded).moves (step_moves (fun _ _ _ _ => trivial) stepped) account

/-- On every channel in every state of a run, the channel data sent keeps within the credit the
client gave, and the output sent is what was read from the terminals of the channel, each chunk
once and in order. The window is charged for every chunk in full. -/
theorem send_window_accounted (write : WriteState σ) (steps : List (SessionStep σ τ))
    (bounded : ∀ step ∈ steps, step.host.Bounded) :
    History.Always Mux.step (Mux.start write) steps Mux.SendsAccounted ∧
      ∀ step ∈ steps, step.host.NeverClamps := by
  constructor
  · have good : History.Throughout Mux.step (Mux.start write) steps
        fun _ step => step.host.Bounded := by
      intro before step after mux split _
      refine bounded step ?_
      rw [split]
      exact List.mem_append_right before List.mem_cons_self
    exact History.always_of_throughout (sendsAccounted_start write) sendsAccounted_step good
  · intro step member channel terminal outcome polled
    exact saturatingSub_exact ((bounded step member).count_le polled).2

end Runs

section Client

def greetingBuffer : FixedBytes 4096 :=
  ⟨[104, 105] ++ List.replicate 4094 0, by rw [List.length_append, List.length_replicate]; rfl⟩

def greetingHost : TerminalHost Unit where
  spawn _ _ _ := .ok ()
  resize _ _ := .ok ()
  write _ _ := .ok ()
  pollRead _ limit :=
    if 2 ≤ limit then .ready (.ok { count := 2, buffer := greetingBuffer }) else .pending
  pollWait _ := .pending
  now _ := 0

theorem plainHost_bounded : plainHost.Bounded := by
  intro terminal limit outcome polled
  cases polled

theorem greetingHost_bounded : greetingHost.Bounded := by
  intro terminal limit outcome polled
  simp only [greetingHost] at polled
  split at polled
  · rename_i room
    cases polled
    exact room
  · cases polled

def greetingStep : SessionStep PlainSealer Unit where
  input := .terminals
  host := greetingHost
  write := plainWriter

theorem send_window_accounted_greeting :
    ∃ last, History.run Mux.step (Mux.start plainWriter)
        [openStep, ptyStep, shellStep, greetingStep] = some last ∧
      outputs (eventsOf 0 last.log) = [⟨0, [104, 105]⟩] ∧ last.SendsAccounted ∧
      greetingStep.host.NeverClamps := by
  have relayed : (History.run Mux.step (Mux.start plainWriter)
      [openStep, ptyStep, shellStep, greetingStep]).map (fun last => outputs (eventsOf 0 last.log)) =
        some [⟨0, [104, 105]⟩] := by
    decide +kernel
  obtain ⟨last, ran, output⟩ := Option.map_eq_some_iff.mp relayed
  have bounded : ∀ step ∈ [openStep, ptyStep, shellStep, greetingStep], step.host.Bounded := by
    simp only [List.forall_mem_cons, List.not_mem_nil, false_implies, implies_true, and_true]
    exact ⟨plainHost_bounded, plainHost_bounded, plainHost_bounded, greetingHost_bounded⟩
  obtain ⟨accounted, exact⟩ := send_window_accounted plainWriter _ bounded
  refine ⟨last, ran, output, accounted _ [] last (List.append_nil _).symm ran, ?_⟩
  exact exact greetingStep (by simp)

end Client

end Oxish
