import Oxish.ChannelActs
import Oxish.SendWindow
import Mathlib.Data.Set.Insert

/-!
One poll of the terminals does at most one thing. The loop over the states of a terminal is written
out as it runs, and comes to its end within three rounds; a poll that is pending has taken nothing
from a terminal and given nothing to the client, so that it can be dropped.
-/

namespace Oxish.TerminalsFuture

open Stateful

variable {σ τ : Type}

section Rounds

variable [SealingKey σ]

inductive Round (τ : Type)
  | again (channel : Channel τ)
  | settled (polled : Polled)

def exitedRound (localId : UInt32) (channel : Channel τ) (status : UInt32) :
    Operation σ τ (Round τ) := do
  let request := {
    recipientChannel := channel.remoteId
    type := .exitStatus status
    wantReply := false }
  let channel := { channel with terminal := some .closing }
  putChannel localId channel
  if !channel.closeSent then do
    transmit localId (.exitStatus request)
    pure (.settled .ready)
  else pure (.again channel)

def exitingRound (host : TerminalHost τ) (localId : UInt32) (channel : Channel τ) (terminal : τ)
    (deadline : Instant) : Operation σ τ (Round τ) :=
  match host.pollWait terminal with
  | .ready (.ok status) => do
    note (.waited localId terminal)
    let channel := { channel with
      terminal := match status with
        | some code => some (.exited code.toUInt32)
        | none => some .closing }
    putChannel localId channel
    pure (.again channel)
  | .ready (.error _) => do
    note (.waited localId terminal)
    let channel := { channel with terminal := some .closing }
    putChannel localId channel
    pure (.again channel)
  | .pending =>
    if host.now localId < deadline then pure (.settled .next)
    else do
      note (.killed localId terminal)
      pure (.settled .next)

def round (host : TerminalHost τ) (localId : UInt32) (channel : Channel τ) :
    Operation σ τ (Round τ) :=
  match channel.terminal with
  | none | some (.requested _) => pure (.settled .next)
  | some (.running terminal) => .settled <$> pollRunning host localId channel terminal
  | some (.exiting terminal deadline) => exitingRound host localId channel terminal deadline
  | some (.exited status) => exitedRound localId channel status
  | some (.reaping terminal deadline) => .settled <$> pollReaping host localId terminal deadline
  | some .closing => .settled <$> pollClosing localId channel

def rounds (host : TerminalHost τ) (localId : UInt32) :
    Nat → Channel τ → Operation σ τ (Option Polled)
  | 0, _ => pure none
  | fuel + 1, channel => do
    match ← round host localId channel with
    | .again channel => rounds host localId fuel channel
    | .settled polled => pure (some polled)

def roundsEach (host : TerminalHost τ) (fuel : Nat) :
    List UInt32 → Operation σ τ (Option (Poll Unit))
  | [] => pure (some .pending)
  | localId :: localIds => do
    match ← lookupChannel localId with
    | none => roundsEach host fuel localIds
    | some channel =>
      match ← rounds host localId fuel channel with
      | none => pure none
      | some .next => roundsEach host fuel localIds
      | some .ready => pure (some (.ready ()))
      | some .remove => do
        removeChannel localId
        pure (some (.ready ()))

def pollRounds (host : TerminalHost τ) (fuel : Nat) : Operation σ τ (Option (Poll Unit)) := do
  let localIds ← ExceptT.mk fun mux => (.ok mux.channels.channels.keys, mux)
  roundsEach host fuel localIds

variable (host : TerminalHost τ) (localId : UInt32) (channel : Channel τ)

variable {host localId channel} in
theorem rounds_settled {program : Operation σ τ Polled}
    (settles : round host localId channel = .settled <$> program) (fuel : Nat) :
    rounds host localId (fuel + 1) channel = some <$> program := by
  rw [rounds, settles, bind_map_left, map_eq_pure_bind]

theorem rounds_closing (closing : channel.terminal = some .closing) (fuel : Nat) :
    (rounds host localId (fuel + 1) channel : Operation σ τ (Option Polled)) =
      some <$> pollClosing localId channel := by
  refine rounds_settled ?_ fuel
  simp only [round, closing]

theorem rounds_exited {status : UInt32} (exited : channel.terminal = some (.exited status))
    (fuel : Nat) :
    (rounds host localId (fuel + 2) channel : Operation σ τ (Option Polled)) =
      some <$> pollExited localId channel status := by
  rw [rounds]
  simp only [round, exited, exitedRound, pollExited, bind_assoc, map_bind]
  congr 1
  funext _
  cases channel.closeSent with
  | false =>
    simp only [Bool.not_false, Bool.false_eq_true, ↓reduceIte, bind_assoc, pure_bind, map_bind,
      map_pure]
  | true =>
    simp only [Bool.not_true, Bool.false_eq_true, ↓reduceIte, pure_bind]
    exact rounds_closing host localId _ rfl fuel

theorem rounds_exiting {terminal : τ} {deadline : Instant}
    (exiting : channel.terminal = some (.exiting terminal deadline)) (fuel : Nat) :
    (rounds host localId (fuel + 3) channel : Operation σ τ (Option Polled)) =
      some <$> pollExiting host localId channel terminal deadline := by
  rw [rounds]
  simp only [round, exiting, exitingRound, pollExiting]
  cases host.pollWait terminal with
  | pending =>
    by_cases early : host.now localId < deadline
    · simp only [early, ↓reduceIte, pure_bind, map_pure]
    · simp only [early, ↓reduceIte, bind_assoc, pure_bind, map_bind, map_pure]
  | ready outcome =>
    rcases outcome with error | ⟨⟩ | code
    · simp only [bind_assoc, pure_bind, map_bind, rounds_closing]
    · simp only [bind_assoc, pure_bind, map_bind, rounds_closing]
    · have onward : (rounds host localId (fuel + 2) _ : Operation σ τ (Option Polled)) = _ :=
        rounds_exited host localId { channel with terminal := some (.exited code.toUInt32) } rfl
          fuel
      simp only [bind_assoc, pure_bind, map_bind, onward]

/-- Three rounds are enough: from `Exiting` over `Exited` to `Closing`. -/
theorem rounds_eq (fuel : Nat) :
    (rounds host localId (fuel + 3) channel : Operation σ τ (Option Polled)) =
      some <$> pollChannel host localId channel := by
  unfold pollChannel
  split
  · rename_i unset
    refine rounds_settled ?_ (fuel + 2)
    simp only [round, unset, map_pure]
  · rename_i requested
    refine rounds_settled ?_ (fuel + 2)
    simp only [round, requested, map_pure]
  · rename_i terminal running
    refine rounds_settled ?_ (fuel + 2)
    simp only [round, running]
  · rename_i terminal deadline exiting
    exact rounds_exiting host localId channel exiting fuel
  · rename_i status exited
    exact rounds_exited host localId channel exited (fuel + 1)
  · rename_i terminal deadline reaping
    refine rounds_settled ?_ (fuel + 2)
    simp only [round, reaping]
  · rename_i closing
    exact rounds_closing host localId channel closing (fuel + 2)

theorem roundsEach_eq (fuel : Nat) (localIds : List UInt32) :
    (roundsEach host (fuel + 3) localIds : Operation σ τ (Option (Poll Unit))) =
      some <$> pollEach host localIds := by
  induction localIds with
  | nil => simp only [roundsEach, pollEach, map_pure]
  | cons localId localIds ih =>
    simp only [roundsEach, pollEach, map_bind]
    congr 1
    funext entry
    cases entry with
    | none => exact ih
    | some channel =>
      simp only [rounds_eq, bind_map_left, map_bind]
      congr 1
      funext polled
      cases polled with
      | next => exact ih
      | ready => simp only [map_pure]
      | remove => simp only [map_bind, map_pure]

theorem pollRounds_eq (fuel : Nat) :
    (pollRounds host (fuel + 3) : Operation σ τ (Option (Poll Unit))) = some <$> poll host := by
  simp only [pollRounds, poll, map_bind, roundsEach_eq]

end Rounds

end Oxish.TerminalsFuture

namespace Oxish

open Stateful TerminalsFuture

variable {σ τ : Type} {host : TerminalHost τ} {localId : UInt32} {localIds : List UInt32}
  {channel : Channel τ} {entry : Option (Channel τ)} {events : List (Event τ)} {polled : Polled}
  {mux middle last : Mux σ τ}

section Quiet

def TerminalsFuture.ids (mux : Mux σ τ) : Set UInt32 :=
  { localId | (mux.view.get localId).isSome }

structure TerminalsFuture.Silent (mux last : Mux σ τ) : Prop where
  write : last.write = mux.write
  chunks : chunks last.log = chunks mux.log

theorem TerminalsFuture.Silent.refl (mux : Mux σ τ) : Silent mux mux := ⟨rfl, rfl⟩

theorem TerminalsFuture.Silent.trans (first : Silent mux middle) (second : Silent middle last) :
    Silent mux last :=
  ⟨second.write.trans first.write, second.chunks.trans first.chunks⟩

theorem Visit.quiet (visit : Visit host localId channel polled events entry)
    (unready : polled ≠ .ready) : messages events = [] ∧ chunks events = [] := by
  cases visit with
  | output | ended | status | waitedStatus | waitedClosed | closed => exact absurd rfl unready
  | idle | statusDropped | waitedDropped | overdue | reaped | expired => exact ⟨rfl, rfl⟩

theorem Visit.sends (visit : Visit host localId channel .ready events entry) :
    ∃ message, messages events = [message] := by
  cases visit with
  | output | ended | status | waitedStatus | waitedClosed | closed => exact ⟨_, rfl⟩

theorem unread_of {state : TerminalState τ} (present : channel.terminal = some state)
    (stopped : ∀ terminal, state ≠ .running terminal) : Unread host channel := by
  intro terminal running
  rw [present] at running
  exact absurd (Option.some.inj running) (stopped terminal)

theorem Visit.unread (visit : Visit host localId channel .next events entry) :
    Unread host channel := by
  cases visit with
  | idle waits =>
      intro terminal running
      rw [Channel.Waits, running] at waits
      exact waits
  | statusDropped exited => exact unread_of exited fun _ same => by cases same
  | waitedDropped exiting => exact unread_of exiting fun _ same => by cases same
  | overdue exiting => exact unread_of exiting fun _ same => by cases same

variable [SealingKey σ]

theorem Leaves.silent (leaves : Leaves localId entry events mux last)
    (quiet : messages events = [] ∧ chunks events = []) : Silent mux last := by
  have written := leaves.written
  have log : last.log = mux.log ++ events := congrArg View.log leaves.view
  rw [quiet.1] at written
  refine ⟨(Option.some.inj written).symm, ?_⟩
  rw [log, chunks_append, quiet.2, List.append_nil]

theorem Leaves.encoded {message : ServerMessage} (leaves : Leaves localId entry events mux last)
    (sent : messages events = [message]) :
    mux.write.encode message.encode = (last.write, .ok ()) := by
  have written := leaves.written
  rw [sent] at written
  change encodeStep mux.write message >>= pure = _ at written
  rw [bind_pure, encodeStep] at written
  split at written
  · rename_i write encoded
    cases written
    exact encoded
  · cases written

theorem Leaves.get_of_ne (leaves : Leaves localId entry events mux last) {other : UInt32}
    (different : other ≠ localId) : last.view.get other = mux.view.get other := by
  rw [leaves.view]
  exact Function.update_of_ne different _ _

theorem Leaves.ids {next : Channel τ} (leaves : Leaves localId (some next) events mux last)
    (live : mux.view.get localId = some channel) :
    TerminalsFuture.ids last = TerminalsFuture.ids mux := by
  ext other
  simp only [TerminalsFuture.ids, Set.mem_ofPred_eq]
  by_cases same : other = localId
  · rw [same, leaves.get, live]
    rfl
  · rw [leaves.get_of_ne same]

theorem Leaves.ids_removed (leaves : Leaves localId none events mux last) :
    TerminalsFuture.ids last = TerminalsFuture.ids mux \ {localId} := by
  ext other
  simp only [TerminalsFuture.ids, Set.mem_ofPred_eq, Set.mem_sdiff, Set.mem_singleton_iff]
  by_cases same : other = localId
  · simp [same, leaves.get]
  · simp [same, leaves.get_of_ne same]

end Quiet

section OneStep

variable [SealingKey σ]

inductive TerminalsFuture.Stepped (mux last : Mux σ τ) : Prop
  | sent (message : ServerMessage)
      (encoded : mux.write.encode message.encode = (last.write, .ok ()))
      (ids : ids last = ids mux)
  | removed (localId : UInt32) (live : localId ∈ ids mux) (silent : Silent mux last)
      (ids : ids last = ids mux \ {localId})

theorem TerminalsFuture.Stepped.after (silent : Silent mux middle)
    (same : ids middle = ids mux) (stepped : Stepped middle last) : Stepped mux last := by
  cases stepped with
  | sent message encoded kept =>
    rw [silent.write] at encoded
    exact .sent message encoded (kept.trans same)
  | removed localId live later removed =>
    rw [same] at live removed
    exact .removed localId live (silent.trans later) removed

structure TerminalsFuture.Idle (host : TerminalHost τ) (localIds : List UInt32)
    (mux last : Mux σ τ) : Prop where
  silent : Silent mux last
  ids : ids last = ids mux
  unread : ∀ localId ∈ localIds, ∀ channel, mux.view.get localId = some channel →
    Unread host channel

omit [SealingKey σ] in
theorem TerminalsFuture.Idle.absent (idle : Idle host localIds mux last)
    (gone : mux.view.get localId = none) : Idle host (localId :: localIds) mux last := by
  refine ⟨idle.silent, idle.ids, ?_⟩
  intro other member channel live
  rcases List.mem_cons.mp member with rfl | later
  · rw [gone] at live
    cases live
  · exact idle.unread other later channel live

theorem TerminalsFuture.Idle.cons {next : Channel τ} (live : mux.view.get localId = some channel)
    (visit : Visit host localId channel .next events (some next))
    (leaves : Leaves localId (some next) events mux middle) (fresh : localId ∉ localIds)
    (idle : Idle host localIds middle last) : Idle host (localId :: localIds) mux last := by
  have silent := leaves.silent (visit.quiet nofun)
  refine ⟨silent.trans idle.silent, idle.ids.trans (leaves.ids live), ?_⟩
  intro other member entry found
  rcases List.mem_cons.mp member with rfl | later
  · rw [live] at found
    cases found
    exact visit.unread
  · have different : other ≠ localId := by
      rintro rfl
      exact fresh later
    rw [← leaves.get_of_ne different] at found
    exact idle.unread other later entry found

/-- What the poll of the channels in a list has done when it ends without an error. -/
inductive TerminalsFuture.Ended (host : TerminalHost τ) (localIds : List UInt32)
    (mux last : Mux σ τ) : Poll Unit → Prop
  | pending (idle : Idle host localIds mux last) : Ended host localIds mux last .pending
  | ready (stepped : Stepped mux last) : Ended host localIds mux last (.ready ())

theorem Visits.ended {value : Poll Unit} (visits : Visits host localIds mux value last)
    (distinct : localIds.Nodup) : Ended host localIds mux last value := by
  induction visits with
  | pending => exact .pending ⟨.refl _, rfl, nofun⟩
  | absent gone _ ih =>
    cases ih (List.nodup_cons.mp distinct).2 with
    | pending idle => exact .pending (idle.absent gone)
    | ready stepped => exact .ready stepped
  | next live visit leaves _ ih =>
    obtain ⟨fresh, others⟩ := List.nodup_cons.mp distinct
    cases ih others with
    | pending idle => exact .pending (.cons live visit leaves fresh idle)
    | ready stepped =>
      exact .ready (stepped.after (leaves.silent (visit.quiet nofun)) (leaves.ids live))
  | ready live visit leaves =>
    obtain ⟨message, sent⟩ := visit.sends
    exact .ready (.sent message (leaves.encoded sent) (leaves.ids live))
  | remove live visit leaves =>
    have present : _ ∈ ids _ := Option.isSome_iff_exists.mpr ⟨_, live⟩
    exact .ready (.removed _ present (leaves.silent (visit.quiet nofun)) leaves.ids_removed)

omit [SealingKey σ] in
theorem mem_keys_of_live (live : mux.view.get localId = some channel) :
    localId ∈ mux.channels.channels.keys := by
  rw [Std.TreeMap.mem_keys, Std.TreeMap.mem_iff_isSome_getElem?]
  exact Option.isSome_iff_exists.mpr ⟨channel, live⟩

def TerminalsFuture.OneStep (host : TerminalHost τ) (mux last : Mux σ τ) :
    Except (Stop Error) (Poll Unit) → Prop
  | .ok .pending => Silent mux last ∧ ids last = ids mux ∧
      ∀ localId channel, mux.view.get localId = some channel → Unread host channel
  | .ok (.ready ()) => Stepped mux last
  | .error _ => True

theorem oneStep_of_ended {value : Poll Unit}
    (ended : Ended host mux.channels.channels.keys mux last value) :
    OneStep host mux last (.ok value) := by
  cases ended with
  | pending idle =>
    refine ⟨idle.silent, idle.ids, ?_⟩
    intro localId channel live
    exact idle.unread localId (mem_keys_of_live live) channel live
  | ready stepped => exact stepped

/-- The poll ends for any channels and any behaviour of the terminals, whatever its loop runs
through. Pending, it has encoded nothing, read nothing and removed nothing; ready, it has encoded
one message and removed no channel, or it has encoded none and removed one channel. -/
theorem TerminalsFuture.poll_one_step (host : TerminalHost τ) (mux : Mux σ τ) (fuel : Nat) :
    ∃ outcome last, exec (pollRounds host (fuel + 3)) mux = (outcome.map some, last) ∧
      exec (poll host) mux = (outcome, last) ∧ OneStep host mux last outcome := by
  generalize polled : exec (poll host) mux = result
  obtain ⟨outcome, last⟩ := result
  refine ⟨outcome, last, ?_, rfl, ?_⟩
  · rw [pollRounds_eq, exec_map, polled]
  · cases outcome with
    | error stop => trivial
    | ok value => exact oneStep_of_ended ((poll_visits polled).ended Std.TreeMap.nodup_keys)

end OneStep

end Oxish
