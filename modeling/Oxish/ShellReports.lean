import Oxish.TerminalPolling
import Mathlib.Algebra.Order.BigOperators.Group.List
import Mathlib.Algebra.Order.Ring.Nat

/-!
Polls of the terminals come to rest. As long as the client says nothing, each poll that is ready
takes something away from what the channels can still give, so that after so many of them a poll is
pending; then every channel waits for its terminal or for room. No channel can keep another waiting
for longer than that: the end of a shell is reported, with its status, whatever the others do.
-/

namespace Oxish

open Stateful TerminalsFuture

variable {σ τ : Type} {host : TerminalHost τ} {localId : UInt32} {channel next : Channel τ}

section Polls

def TerminalsFuture.Polled.ends : Polled → Bool
  | .next => false
  | .ready | .remove => true

/-- A poll of channels one after the other, as it is for each of them. -/
inductive Served (host : TerminalHost τ) : List UInt32 → View τ → Poll Unit → View τ → Prop
  | pending {view} : Served host [] view .pending view
  | absent {localId localIds view value last} (gone : view.get localId = none)
      (rest : Served host localIds view value last) : Served host (localId :: localIds) view value last
  | next {localId localIds view channel events entry value last}
      (live : view.get localId = some channel)
      (visit : Visit host localId channel .next events (some entry))
      (rest : Served host localIds (view.change localId (some entry) events) value last) :
      Served host (localId :: localIds) view value last
  | ends {localId localIds view channel polled events entry}
      (live : view.get localId = some channel)
      (visit : Visit host localId channel polled events entry) (ends : polled.ends = true) :
      Served host (localId :: localIds) view (.ready ())
        (view.change localId entry events)

theorem Visits.served [SealingKey σ] {localIds : List UInt32} {mux last : Mux σ τ}
    {value : Poll Unit} (visits : Visits host localIds mux value last) :
    Served host localIds mux.view value last.view := by
  induction visits with
  | pending => exact .pending
  | absent gone _ ih => exact .absent gone ih
  | next live visit leaves _ ih =>
      rw [leaves.view] at ih
      exact .next live visit ih
  | ready live visit leaves | remove live visit leaves =>
      rw [leaves.view]
      exact .ends live visit rfl

variable {localIds : List UInt32} {view last : View τ} {value : Poll Unit}

theorem Served.every {Inv : UInt32 → Option (Channel τ) → List (Event τ) → Prop}
    (kept : ∀ {localId channel polled past events entry},
      Visit host localId channel polled events entry → Inv localId (some channel) past →
        Inv localId entry (past ++ events))
    (served : Served host localIds view value last) (holds : view.Every Inv) : last.Every Inv := by
  induction served with
  | pending => exact holds
  | absent gone _ ih => exact ih holds
  | next live visit _ ih => exact ih (holds.act live (PollAct.own ⟨_, visit⟩) (kept visit))
  | ends live visit => exact holds.act live (PollAct.own ⟨_, visit⟩) (kept visit)

theorem Served.get_of_notMem (served : Served host localIds view value last)
    (apart : localId ∉ localIds) : last.get localId = view.get localId := by
  induction served with
  | pending => rfl
  | absent gone _ ih => exact ih fun member => apart (List.mem_cons_of_mem _ member)
  | next live visit _ ih =>
      rw [ih fun member => apart (List.mem_cons_of_mem _ member)]
      refine Function.update_of_ne ?_ _ _
      rintro rfl
      exact apart List.mem_cons_self
  | ends live visit =>
      refine Function.update_of_ne ?_ _ _
      rintro rfl
      exact apart List.mem_cons_self

theorem Visit.waiting {events : List (Event τ)}
    (visit : Visit host localId channel .next events (some next)) :
    next.Waits host localId := by
  cases visit with
  | idle waits => exact waits
  | overdue exiting waited =>
      rw [Channel.Waits, exiting]
      exact waited
  | statusDropped exited closed => exact closed
  | waitedDropped exiting waited closed => exact closed

theorem Served.waits (served : Served host localIds view value last) (distinct : localIds.Nodup)
    (pending : value = .pending) (member : localId ∈ localIds)
    (live : last.get localId = some channel) : channel.Waits host localId := by
  induction served with
  | pending => cases member
  | @absent other _ view _ last gone rest ih =>
      obtain ⟨fresh, others⟩ := List.nodup_cons.mp distinct
      rcases List.mem_cons.mp member with rfl | later
      · rw [rest.get_of_notMem fresh, gone] at live
        cases live
      · exact ih others pending later live
  | @next other _ view _ _ entry _ last found visit rest ih =>
      obtain ⟨fresh, others⟩ := List.nodup_cons.mp distinct
      rcases List.mem_cons.mp member with rfl | later
      · rw [rest.get_of_notMem fresh, View.change_get] at live
        cases live
        exact visit.waiting
      · exact ih others pending later live
  | ends found visit => cases pending

end Polls

section Loads

/-- How often a poll can still be ready for the channel, if the client says nothing more. -/
def Channel.load (channel : Channel τ) : Nat :=
  match channel.terminal with
  | none | some (.requested _) => 0
  | some (.running _) => channel.sendWindow.toNat + 4
  | some (.exiting _ _) => 3
  | some (.exited _) => 2
  | some (.reaping _ _) => 1
  | some .closing => if channel.closeSent then 0 else 1

def loadOf (entry : Option (Channel τ)) : Nat := entry.elim 0 Channel.load

theorem saturatingSub_lt {window : UInt32} {count : Nat} (nonempty : count ≠ 0)
    (few : count ≤ bufLen) (room : window.toNat ≠ 0) :
    (saturatingSub window (UInt32.ofNat count)).toNat < window.toNat := by
  by_cases fits : count ≤ window.toNat
  · have whole := (saturatingSub_exact fits).2
    omega
  · have whole : (UInt32.ofNat count).toNat = count := by
      rw [UInt32.toNat_ofNat']
      apply Nat.mod_eq_of_lt
      unfold bufLen at few
      omega
    have none : checkedSub window (UInt32.ofNat count) = none := by
      unfold checkedSub
      rw [if_neg]
      rw [UInt32.le_iff_toNat_le, whole]
      exact fits
    unfold saturatingSub
    rw [none]
    exact Nat.pos_of_ne_zero room

theorem window_of_room (room : readLimit channel ≠ 0) : channel.sendWindow.toNat ≠ 0 := by
  intro empty
  have zero : channel.sendWindow = 0 := UInt32.toNat_inj.mp empty
  apply room
  unfold readLimit
  rw [zero, UInt32.min_def]
  split
  · rename_i least
    exact Nat.le_zero.mp least
  · rfl

theorem Visit.load {polled : Polled} {events : List (Event τ)} {entry : Option (Channel τ)}
    (visit : Visit host localId channel polled events entry) :
    loadOf entry + polled.ends.toNat ≤ channel.load := by
  cases visit with
  | idle => exact Nat.le_refl _
  | overdue => exact Nat.le_refl _
  | statusDropped exited closed => simp [loadOf, Channel.load, Polled.ends, exited, closed]
  | waitedDropped exiting waited closed =>
      simp [loadOf, Channel.load, Polled.ends, exiting, closed]
  | output running polled room nonempty inside =>
      have less := saturatingSub_lt nonempty inside (window_of_room room)
      simp only [loadOf, Channel.load, Polled.ends, running, Option.elim_some,
        Bool.toNat_true]
      omega
  | ended running => simp [loadOf, Channel.load, Polled.ends, running]
  | status exited unclosed | waitedStatus exited _ unclosed =>
      simp [loadOf, Channel.load, Polled.ends, exited, unclosed]
  | waitedClosed exiting => simp [loadOf, Channel.load, Polled.ends, exiting]
  | closed closing unclosed =>
      simp [loadOf, Channel.load, Polled.ends, closing, unclosed]
  | reaped reaping | expired reaping =>
      simp [loadOf, Channel.load, Polled.ends, reaping]

variable {localIds : List UInt32} {view last : View τ} {value : Poll Unit}

theorem View.change_load {view : View τ} {events : List (Event τ)} {entry : Option (Channel τ)}
    (live : view.get localId = some channel) (less : loadOf entry ≤ channel.load) (other : UInt32) :
    loadOf ((view.change localId entry events).get other) ≤ loadOf (view.get other) := by
  by_cases same : other = localId
  · subst same
    rw [View.change_get, live]
    exact less
  · exact Nat.le_of_eq (congrArg loadOf (Function.update_of_ne same _ _))

theorem Served.load (served : Served host localIds view value last) (other : UInt32) :
    loadOf (last.get other) ≤ loadOf (view.get other) := by
  induction served with
  | pending => exact Nat.le_refl _
  | absent gone _ ih => exact ih
  | next live visit _ ih =>
      exact ih.trans (View.change_load live (Nat.le_of_add_right_le visit.load) other)
  | ends live visit => exact View.change_load live (Nat.le_of_add_right_le visit.load) other

theorem Served.load_ready (served : Served host localIds view value last)
    (ready : value = .ready ()) :
    ∃ localId, loadOf (last.get localId) < loadOf (view.get localId) := by
  induction served with
  | pending => cases ready
  | absent gone _ ih => exact ih ready
  | next live visit _ ih =>
      obtain ⟨localId, less⟩ := ih ready
      exact ⟨localId, less.trans_le
        (View.change_load live (Nat.le_of_add_right_le visit.load) localId)⟩
  | @ends localId _ view _ _ _ _ live visit ends =>
      have less := visit.load
      rw [ends] at less
      refine ⟨localId, ?_⟩
      rw [View.change_get, live]
      exact less

def total (localIds : List UInt32) (view : View τ) : Nat :=
  (localIds.map fun localId => loadOf (view.get localId)).sum

def Poll.isReady : Poll Unit → Bool
  | .ready _ => true
  | .pending => false

theorem Served.total {everyone : List UInt32} (served : Served host localIds view value last)
    (among : ∀ localId, 0 < loadOf (view.get localId) → localId ∈ everyone) :
    Oxish.total everyone last + value.isReady.toNat ≤ Oxish.total everyone view := by
  cases value with
  | pending => exact List.sum_le_sum fun localId _ => served.load localId
  | ready value =>
      obtain ⟨localId, less⟩ := served.load_ready rfl
      exact List.sum_lt_sum _ _ (fun other _ => served.load other)
        ⟨localId, among localId (Nat.zero_lt_of_lt less), less⟩

theorem mem_keys_of_load {mux : Mux σ τ} (loaded : 0 < loadOf (mux.view.get localId)) :
    localId ∈ mux.channels.channels.keys := by
  cases entry : mux.view.get localId with
  | none =>
      rw [entry] at loaded
      exact absurd loaded (Nat.lt_irrefl 0)
  | some channel => exact mem_keys_of_live entry

end Loads

section Runs

variable [SealingKey σ]

structure TerminalPoll (σ τ : Type) where
  host : TerminalHost τ
  write : WriteState σ

structure PollRun (σ τ : Type) where
  mux : Mux σ τ
  results : List (Poll Unit) := []

def PollRun.step (state : PollRun σ τ) (input : TerminalPoll σ τ) : Option (PollRun σ τ) :=
  match exec (TerminalsFuture.poll input.host) { state.mux with write := input.write } with
  | (.ok value, mux) => some { mux, results := state.results ++ [value] }
  | (.error _, _) => none

def Mux.backlog (mux : Mux σ τ) : Nat := total mux.channels.channels.keys mux.view

theorem PollRun.step_served {state next : PollRun σ τ} {input : TerminalPoll σ τ}
    (stepped : state.step input = some next) :
    ∃ value, next.results = state.results ++ [value] ∧
      Served input.host state.mux.channels.channels.keys state.mux.view value next.mux.view := by
  unfold PollRun.step at stepped
  split at stepped
  · rename_i value mux polled
    cases stepped
    exact ⟨value, rfl, (poll_visits polled).served⟩
  · cases stepped

theorem PollRun.step_waits {state next : PollRun σ τ} {input : TerminalPoll σ τ}
    {results : List (Poll Unit)} (stepped : state.step input = some next)
    (pending : next.results = results ++ [.pending])
    (live : next.mux.view.get localId = some channel) : channel.Waits input.host localId := by
  obtain ⟨value, ended, served⟩ := PollRun.step_served stepped
  have isPending : value = .pending :=
    (List.cons.inj (List.append_inj' (pending.symm.trans ended) rfl).2).1.symm
  refine served.waits Std.TreeMap.nodup_keys isPending ?_ live
  by_contra absent
  rw [served.get_of_notMem absent] at live
  exact absent (mem_keys_of_live live)

theorem PollRun.readies_le {mux : Mux σ τ} {polls : List (TerminalPoll σ τ)}
    {last : PollRun σ τ} (ran : History.run PollRun.step { mux } polls = some last) :
    last.results.length = polls.length ∧ last.results.countP Poll.isReady ≤ mux.backlog := by
  suffices counted : last.results.length = polls.length ∧
      (∀ localId, loadOf (last.mux.view.get localId) ≤ loadOf (mux.view.get localId)) ∧
      last.results.countP Poll.isReady + total mux.channels.channels.keys last.mux.view ≤
        mux.backlog by
    refine ⟨counted.1, ?_⟩
    have bound := counted.2.2
    omega
  refine @History.run_invariant _ _ _ { mux } (fun past (state : PollRun σ τ) =>
    state.results.length = past.length ∧
    (∀ localId, loadOf (state.mux.view.get localId) ≤ loadOf (mux.view.get localId)) ∧
    state.results.countP Poll.isReady + total mux.channels.channels.keys state.mux.view ≤
      mux.backlog) ?_ ?_ _ _ ran
  · exact ⟨rfl, fun _ => Nat.le_refl _, Nat.le_of_eq (Nat.zero_add _)⟩
  · rintro past state input next _ ⟨count, less, bound⟩ stepped
    obtain ⟨value, results, served⟩ := PollRun.step_served stepped
    refine ⟨?_, fun localId => (served.load localId).trans (less localId), ?_⟩
    · rw [results, List.length_append, List.length_append, count]
      rfl
    · have taken := served.total fun localId loaded =>
        mem_keys_of_load (Nat.lt_of_lt_of_le loaded (less localId))
      have one : [value].countP Poll.isReady = value.isReady.toNat := by
        cases value with
        | ready value => rfl
        | pending => rfl
      rw [results, List.countP_append]
      omega

/-- As long as the client says nothing, the terminals can be polled with success only so often
before a poll is pending: once for each byte of the send windows of the channels with a running
shell, and four times for each of the channels. When a poll is pending, every channel waits: for
output, for room in its window, for the end of its shell, or for the client to close it. -/
theorem polls_settle (mux : Mux σ τ) (polls : List (TerminalPoll σ τ)) {last : PollRun σ τ}
    (ran : History.run PollRun.step { mux } polls = some last) :
    last.results.countP Poll.isReady ≤ mux.backlog ∧
    ∀ (before : List (TerminalPoll σ τ)) (poll : TerminalPoll σ τ) (results : List (Poll Unit)),
      polls = before ++ [poll] → last.results = results ++ [.pending] →
      ∀ localId channel, last.mux.view.get localId = some channel →
        channel.Waits poll.host localId := by
  refine ⟨(PollRun.readies_le ran).2, ?_⟩
  rintro before poll results rfl pending localId channel live
  obtain ⟨earlier, _, stepped⟩ := History.run_snoc_some ran
  exact PollRun.step_waits stepped pending live

def goneHost : TerminalHost Unit :=
  { plainHost with
    pollRead := fun _ _ => .ready (.ok ⟨0, .replicate 4096 0⟩)
    pollWait := fun _ => .ready (.ok (some 7)) }

def shellChannel : Channel Unit where
  remoteId := 5
  sendWindow := 1
  receiveWindow := 0
  maximumPacketSize := 1024
  env := []
  terminal := some (.running ())
  closeSent := false

def shellMux : Mux PlainSealer Unit where
  channels := { nextId := 1, channels := Std.TreeMap.empty.insert 0 shellChannel }
  write := plainWriter

def shellPolls : List (TerminalPoll PlainSealer Unit) := List.replicate 6 ⟨goneHost, plainWriter⟩

theorem polls_settle_shell :
    ∃ last, History.run PollRun.step { mux := shellMux } shellPolls = some last ∧
      last.results.countP Poll.isReady = 3 ∧ shellMux.backlog = 5 ∧
      last.results.countP Poll.isReady ≤ shellMux.backlog := by
  have shown : (History.run PollRun.step { mux := shellMux } shellPolls).map
      (fun last => last.results.countP Poll.isReady) = some 3 := by
    decide +kernel
  obtain ⟨last, ran, count⟩ := Option.map_eq_some_iff.mp shown
  exact ⟨last, ran, count, by decide +kernel, (polls_settle shellMux shellPolls ran).1⟩

end Runs

section Reports

variable [SealingKey σ] {terminal : τ} {code : Option Int32}

/-- The shell is gone: nothing more can be read, and waiting for it returns at once, with a status
unless a signal has killed it or the wait fails. -/
def Gone (terminal : τ) (code : Option Int32) (host : TerminalHost τ) : Prop :=
  (∀ limit, ∃ outcome, host.pollRead terminal limit = .ready (.ok outcome) ∧ outcome.count = 0) ∧
    ∃ outcome, host.pollWait terminal = .ready outcome ∧ outcome.toOption.join = code

def reports (localId remoteId : UInt32) (terminal : τ) (code : Option Int32) : List (Event τ) :=
  [.sent localId (.eof ⟨remoteId⟩), .waited localId terminal] ++
    code.toList.map (fun code =>
      .sent localId (.exitStatus ⟨remoteId, .exitStatus code.toUInt32, false⟩)) ++
    [.sent localId (.close ⟨remoteId⟩)]

inductive Reporting (localId : UInt32) (channel : Channel τ) (terminal : τ) (code : Option Int32) :
    Option (Channel τ) → List (Event τ) → Prop
  | running : Reporting localId channel terminal code (some channel) []
  | exiting {deadline : Instant} : Reporting localId channel terminal code
      (some { channel with terminal := some (.exiting terminal deadline) })
      ((reports localId channel.remoteId terminal code).take 1)
  | closing {status : Int32} (known : code = some status) : Reporting localId channel terminal code
      (some { channel with terminal := some .closing })
      ((reports localId channel.remoteId terminal code).take 3)
  | closed : Reporting localId channel terminal code
      (some { channel with terminal := some .closing, closeSent := true })
      (reports localId channel.remoteId terminal code)

theorem join_eq_none {outcome : Except IoError (Option Int32)}
    (unknown : ∀ code, outcome ≠ .ok (some code)) : outcome.toOption.join = none := by
  cases outcome with
  | error cause => rfl
  | ok status =>
      cases status with
      | none => rfl
      | some code => exact absurd rfl (unknown code)

omit [SealingKey σ] in
theorem Reporting.visit {entry next : Option (Channel τ)} {current : Channel τ} {polled : Polled}
    {past events : List (Event τ)} (running : channel.terminal = some (.running terminal))
    (unclosed : channel.closeSent = false) (gone : Gone terminal code host)
    (visit : Visit host localId current polled events next)
    (reporting : Reporting localId channel terminal code entry past) (here : entry = some current) :
    Reporting localId channel terminal code next (past ++ events) := by
  cases reporting with
  | running =>
      cases here
      cases visit with
      | idle =>
          rw [List.append_nil]
          exact .running
      | output same read room nonempty =>
          cases running.symm.trans same
          obtain ⟨outcome, empty, none⟩ := gone.1 (min (readLimit channel) bufLen)
          cases read.symm.trans empty
          exact absurd none nonempty
      | ended same =>
          cases running.symm.trans same
          exact .exiting
      | overdue other | waitedDropped other | waitedStatus other | waitedClosed other
      | statusDropped other | status other | closed other | reaped other | expired other =>
          cases running.symm.trans other
  | exiting =>
      cases here
      obtain ⟨outcome, ready, rfl⟩ := gone.2
      cases visit with
      | idle waits => cases ready.symm.trans waits
      | overdue same waited =>
          cases same
          cases ready.symm.trans waited
      | waitedDropped same waited closed => cases unclosed.symm.trans closed
      | waitedStatus same waited =>
          cases same
          cases ready.symm.trans waited
          exact .closing rfl
      | waitedClosed same waited unknown =>
          cases same
          cases ready.symm.trans waited
          rw [join_eq_none unknown]
          exact .closed
      | output other | ended other | closed other | statusDropped other | status other
      | reaped other | expired other => cases other
  | closing known =>
      cases here
      subst known
      cases visit with
      | idle waits => cases unclosed.symm.trans waits
      | closed same => exact .closed
      | overdue other | waitedDropped other | waitedStatus other | waitedClosed other
      | output other | ended other | statusDropped other | status other | reaped other
      | expired other => cases other
  | closed =>
      cases here
      cases visit with
      | idle waits =>
          rw [List.append_nil]
          exact .closed
      | closed same unclosed => cases unclosed
      | overdue other | waitedDropped other | waitedStatus other | waitedClosed other
      | output other | ended other | statusDropped other | status other | reaped other
      | expired other => cases other

omit [SealingKey σ] in
theorem Reporting.waits {entry : Option (Channel τ)} {current : Channel τ} {past : List (Event τ)}
    (running : channel.terminal = some (.running terminal)) (unclosed : channel.closeSent = false)
    (room : readLimit channel ≠ 0) (gone : Gone terminal code host)
    (reporting : Reporting localId channel terminal code entry past) (here : entry = some current)
    (waits : current.Waits host localId) : past = reports localId channel.remoteId terminal code := by
  cases reporting with
  | running =>
      cases here
      unfold Channel.Waits at waits
      rw [running] at waits
      rcases waits with none | pending
      · exact absurd none room
      · obtain ⟨outcome, read, _⟩ := gone.1 (min (readLimit channel) bufLen)
        cases pending.symm.trans read
  | exiting =>
      cases here
      obtain ⟨outcome, ready, _⟩ := gone.2
      cases ready.symm.trans waits
  | closing =>
      cases here
      cases unclosed.symm.trans waits
  | closed => rfl

omit [SealingKey σ] in
theorem Reporting.live {entry : Option (Channel τ)} {past : List (Event τ)}
    (reporting : Reporting localId channel terminal code entry past) :
    ∃ current, entry = some current := by
  cases reporting with
  | _ => exact ⟨_, rfl⟩

omit [SealingKey σ] in
theorem Reporting.length_le {entry : Option (Channel τ)} {past : List (Event τ)}
    (reporting : Reporting localId channel terminal code entry past) :
    past.length ≤ (reports localId channel.remoteId terminal code).length := by
  cases reporting with
  | running => exact Nat.zero_le _
  | exiting | closing => exact List.length_take_le' _ _
  | closed => exact Nat.le_refl _

def Reported (localId : UInt32) (channel : Channel τ) (terminal : τ) (code : Option Int32)
    (before : List (Event τ)) (settled : Prop) (entry : Option (Channel τ))
    (events : List (Event τ)) : Prop :=
  ∃ emitted, events = before ++ emitted ∧ Reporting localId channel terminal code entry emitted ∧
    (settled → emitted = reports localId channel.remoteId terminal code)

omit [SealingKey σ] in
theorem Reported.visit {entry next : Option (Channel τ)} {current : Channel τ} {polled : Polled}
    {before past events : List (Event τ)} {settled : Prop}
    (running : channel.terminal = some (.running terminal)) (unclosed : channel.closeSent = false)
    (gone : Gone terminal code host) (visit : Visit host localId current polled events next)
    (reported : Reported localId channel terminal code before settled entry past)
    (here : entry = some current) :
    Reported localId channel terminal code before settled next (past ++ events) := by
  obtain ⟨emitted, rfl, reporting, full⟩ := reported
  have further := reporting.visit running unclosed gone visit here
  refine ⟨emitted ++ events, List.append_assoc _ _ _, further, ?_⟩
  -- What was reported in full is not reported again.
  intro held
  have few := further.length_le
  rw [full held, List.length_append] at few
  rw [List.eq_nil_of_length_eq_zero (show events.length = 0 by omega), List.append_nil]
  exact full held

end Reports

end Oxish
