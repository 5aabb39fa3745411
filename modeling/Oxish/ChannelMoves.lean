import Oxish.ChannelActs

/-!
Every step of a session is a chain of moves: what a message or a poll does to its channel is taken
apart into the single changes.
-/

namespace Oxish

open Stateful

variable {σ τ : Type} {host : TerminalHost τ} {shell : Channel τ → Prop} {view : View τ}
  {localId : UInt32} {channel next : Channel τ} {events : List (Event τ)}
  {entry : Option (Channel τ)}

section Changes

theorem moves_change (live : view.get localId = some channel)
    (moved : ChannelMove host shell localId channel events next) :
    Moves host shell view (view.change localId (some next) events) :=
  .single (.changed live moved)

theorem moves_self (live : view.get localId = some channel) :
    Moves host shell view (view.change localId (some channel) []) := by
  have same := View.change_self live []
  rw [List.append_nil] at same
  exact same ▸ .refl

theorem Moves.andThen {more : List (Event τ)}
    (first : Moves host shell view (view.change localId (some channel) events))
    (second : ∀ {later : View τ}, later.get localId = some channel →
      Moves host shell later (later.change localId entry more)) :
    Moves host shell view (view.change localId entry (events ++ more)) := by
  rw [← View.change_change view localId (some channel) entry events more]
  exact first.trans (second (View.change_get ..))

end Changes

section Messages

theorem finish_moves {wantReply : Bool} {banner : Option Bytes}
    (short : ∀ text, banner = some text → text.length < 2 ^ 32)
    (live : view.get localId = some channel) :
    Moves host shell view (view.change localId (some (channel.finished banner))
      (channel.finishEvents localId wantReply banner)) := by
  have reply : Moves host shell view (view.change localId (some channel)
      (if wantReply then [.sent localId (.success channel.success)] else [])) := by
    split
    · exact moves_change live .succeeded
    · exact moves_self live
  refine reply.andThen fun live => ?_
  unfold Channel.finished
  split
  · rename_i text window due
    obtain ⟨shown, isShown, fits⟩ := Option.bind_eq_some_iff.mp due
    obtain ⟨left, taken, same⟩ := Option.map_eq_some_iff.mp fits
    cases same
    exact moves_change live (.bannerSent (short text isShown) taken)
  · exact moves_self live

theorem Carried.moves {options : KeyOptions} {type : ChannelRequestType}
    (done : Carried host options localId channel type events next)
    (allowed : type = .shell → shell channel) (live : view.get localId = some channel) :
    Moves host shell view (view.change localId (some next) events) := by
  cases done with
  | pty ptyReq => exact moves_change live (.ptyRequested ptyReq)
  | env permitted few => exact moves_change live (.envPushed permitted few)
  | shell requested spawned =>
    exact moves_change live (.shellSpawned requested spawned (allowed rfl))
  | resize => exact moves_self live

theorem RequestAct.moves {session : SessionView} {request : ChannelRequest}
    (act : RequestAct host session request channel events next)
    (allowed : request.type = .shell → shell channel)
    (live : view.get request.recipientChannel = some channel) :
    Moves host shell view (view.change request.recipientChannel (some next) events) := by
  cases act with
  | carried done =>
    exact (done.moves allowed live).andThen (finish_moves fun _ => banner_short)
  | refused =>
    split
    · exact moves_change live .failed
    · exact moves_self live

theorem topUp_moves (live : view.get localId = some channel) :
    Moves host shell view
      (view.change localId (some channel.toppedUp) (channel.topUpEvents localId)) := by
  unfold Channel.toppedUp Channel.topUpEvents
  by_cases low : channel.receiveWindow < initialWindowSize / 2
  · rw [if_pos low, if_pos low]
    exact moves_change live (.toppedUp low)
  · rw [if_neg low, if_neg low]
    exact moves_self live

theorem close_moves (live : view.get localId = some channel) :
    Moves host shell view
      (view.change localId (some { channel with closeSent := true })
        (channel.closeEvents localId)) := by
  unfold Channel.closeEvents
  by_cases closed : channel.closeSent = true
  · have same : { channel with closeSent := true } = channel := by rw [← closed]
    rw [if_pos closed, same]
    exact moves_self live
  · rw [if_neg closed]
    exact moves_change live (.closed (Bool.eq_false_iff.mpr closed))

theorem Channel.running_or_exiting {terminal : τ} (held : channel.held = some terminal)
    (fresh : channel.reaps = false) :
    channel.terminal = some (.running terminal) ∨
      ∃ earlier, channel.terminal = some (.exiting terminal earlier) := by
  unfold Channel.held at held
  unfold Channel.reaps at fresh
  split at held
  · rename_i running
    cases held
    exact Or.inl running
  · rename_i earlier exiting
    cases held
    exact Or.inr ⟨earlier, exiting⟩
  · rename_i deadline reaping
    rw [reaping] at fresh
    cases fresh
  · cases held

theorem removable_of_free (free : channel.held = none) : Removable host localId channel := by
  unfold Channel.held at free
  unfold Removable
  cases state : channel.terminal with
  | none => exact Or.inl rfl
  | some terminal =>
    rw [state] at free
    cases terminal with
    | requested ptyReq => exact Or.inr (Or.inl ⟨ptyReq, rfl⟩)
    | running => cases free
    | exiting => cases free
    | exited status => exact Or.inr (Or.inr (Or.inl ⟨status, rfl⟩))
    | reaping => cases free
    | closing => exact Or.inr (Or.inr (Or.inr (Or.inl rfl)))

theorem MessageAct.moves {session : SessionView} {message : IncomingChannelMessage}
    (act : MessageAct host session localId channel message events entry)
    (short : ∀ data, message = .data data → data.data.length < 2 ^ 32)
    (allowed : ∀ request, message = .request request → request.type = .shell → shell channel)
    (live : view.get localId = some channel) :
    Moves host shell view (view.change localId entry events) := by
  cases act with
  | request same act =>
    subst same
    exact act.moves (allowed _ rfl) live
  | data same fits =>
    exact (moves_change live (.dataAccepted (short _ rfl) fits)).andThen topUp_moves
  | adjusted => exact moves_change live (.granted _)
  | eof => exact moves_self live
  | killed same held fresh =>
    exact (close_moves live).andThen fun live =>
      moves_change live (.reaping (Channel.running_or_exiting held fresh))
  | awaited => exact close_moves live
  | removed same free =>
    exact (close_moves live).andThen fun live => .single (.removed live (removable_of_free free))

theorem MessageStep.moves {session : SessionView} {message : IncomingChannelMessage}
    {last : View τ} (step : MessageStep host session message view last)
    (short : ∀ data, message = .data data → data.data.length < 2 ^ 32)
    (allowed : ∀ request, message = .request request → request.type = .shell →
      ∀ channel, view.get request.recipientChannel = some channel → shell channel) :
    Moves host shell view last := by
  cases step with
  | refused failure => exact .single (.refused failure)
  | opened vacant => exact .single (.opened _ vacant)
  | acted live act =>
    refine act.moves short ?_ live
    rintro request rfl isShell
    cases act.addressed
    exact allowed request rfl isShell _ live
  | unknown => exact .refl

end Messages

section Polls

open TerminalsFuture

theorem Visit.moves {polled : Polled} (visit : Visit host localId channel polled events entry)
    (live : view.get localId = some channel) :
    Moves host shell view (view.change localId entry events) := by
  cases visit with
  | idle => exact moves_self live
  | output running polled _ _ inside => exact moves_change live (.outputSent running rfl polled inside)
  | ended running => exact moves_change live (.outputEnded running)
  | status exited unclosed => exact moves_change live (.exitStatusSent exited unclosed)
  | statusDropped exited closed => exact moves_change live (.exitStatusDropped exited closed)
  | waitedStatus exiting waited unclosed =>
    exact (moves_change live (.exited exiting waited)).andThen fun live =>
      moves_change live (.exitStatusSent rfl unclosed)
  | waitedDropped exiting waited => exact moves_change live (.exitedUnknown exiting waited)
  | waitedClosed exiting waited _ unclosed =>
    exact (moves_change live (.exitedUnknown exiting waited)).andThen fun live =>
      moves_change live (.closed unclosed)
  | overdue exiting => exact moves_change live (.overdueKilled exiting)
  | closed closing unclosed => exact moves_change live (.closed unclosed)
  | reaped reaping waited =>
    have removable : Removable host localId channel :=
      Or.inr (Or.inr (Or.inr (Or.inr ⟨_, _, reaping, Or.inl ⟨_, waited⟩⟩)))
    exact (moves_change live (.reaped reaping waited)).andThen fun live =>
      .single (.removed live removable)
  | expired reaping passed =>
    exact .single (.removed live
      (Or.inr (Or.inr (Or.inr (Or.inr ⟨_, _, reaping, Or.inr passed⟩)))))

variable [SealingKey σ]

theorem Visits.moves {localIds : List UInt32} {mux last : Mux σ τ} {value : Poll Unit}
    (visits : Visits host localIds mux value last) : Moves host shell mux.view last.view := by
  induction visits with
  | pending => exact .refl
  | absent _ _ ih => exact ih
  | next live visit leaves _ ih =>
    refine Relation.ReflTransGen.trans ?_ ih
    rw [leaves.view]
    exact visit.moves live
  | ready live visit leaves | remove live visit leaves =>
    rw [leaves.view]
    exact visit.moves live

end Polls

section Steps

variable [SealingKey σ]

def SessionStep.StartsShell (step : SessionStep σ τ) (request : ChannelRequest) : Prop :=
  ∃ packet session, step.input = .received packet session ∧
    IncomingChannelMessage.tryFrom packet = .ok (.request request) ∧ request.type = .shell

theorem step_moves {mux next : Mux σ τ} {step : SessionStep σ τ}
    (allowed : ∀ request channel, step.StartsShell request →
      mux.view.get request.recipientChannel = some channel → shell channel)
    (stepped : mux.step step = some next) : Moves step.host shell mux.view next.view := by
  obtain ⟨begun, same, done⟩ := Mux.step_some stepped
  obtain ⟨input, host, write⟩ := step
  rw [← same] at allowed ⊢
  cases input with
  | received packet session =>
    obtain ⟨message, _, read, handled⟩ := exec_bind_ok.mp done
    obtain ⟨rfl, parsed⟩ := parseMessage_ok read
    refine (handle_acts handled).moves ?_ ?_
    · rintro data rfl
      exact IncomingChannelMessage.data_short parsed
    · rintro request rfl isShell channel live
      exact allowed request channel ⟨packet, session, rfl, parsed, isShell⟩ live
  | terminals =>
    obtain ⟨polled, last, poll, done⟩ := exec_bind_ok.mp done
    cases done
    exact (poll_visits poll).moves

end Steps

end Oxish
