import Oxish.ChannelActs
import Oxish.ChannelPrograms

/-!
To whom the channels reply, and how often. The log tells for every local id whether a channel
lives under it and which id the client gave that channel; the table always agrees with the log.
Every message for a channel is sent while it lives and goes to the id of its opening. This holds
whether an operation succeeds or stops half way, so it is kept by every program over the table.
-/

namespace Oxish

open Stateful

variable {σ τ : Type}

def ServerMessage.recipient : ServerMessage → UInt32
  | .openConfirmation message => message.recipientChannel
  | .openFailure message => message.recipientChannel
  | .windowAdjust message => message.recipientChannel
  | .success message => message.recipientChannel
  | .failure message => message.recipientChannel
  | .banner message | .data message => message.recipientChannel
  | .exitStatus message => message.recipientChannel
  | .eof message => message.recipientChannel
  | .close message => message.recipientChannel

def ServerMessage.confirms : ServerMessage → Bool
  | .openConfirmation _ => true
  | _ => false

section Owners

def Event.owner (localId : UInt32) (current : Option UInt32) : Event τ → Option UInt32
  | .opened other open_ => if other = localId then some open_.senderChannel else current
  | .removed other => if other = localId then none else current
  | _ => current

/-- The id that the client gave the channel that now lives under a local id. -/
def ownerOf (localId : UInt32) (log : List (Event τ)) : Option UInt32 :=
  log.foldl (fun current event => event.owner localId current) none

@[simp] theorem ownerOf_snoc (localId : UInt32) (log : List (Event τ)) (event : Event τ) :
    ownerOf localId (log ++ [event]) = event.owner localId (ownerOf localId log) := by
  simp only [ownerOf, List.foldl_append, List.foldl_cons, List.foldl_nil]

/-- What an event needs to have happened before it. -/
def Event.Fits (before : List (Event τ)) : Event τ → Prop
  | .opened localId _ => ownerOf localId before = none
  | .sent localId message =>
    ownerOf localId before = some message.recipient ∧
      ∀ confirmation, message = .openConfirmation confirmation →
        confirmation.senderChannel = localId ∧
          ∃ earlier open_, before = earlier ++ [.opened localId open_]
  | _ => True

def Faithful (log : List (Event τ)) : Prop :=
  ∀ before event after, log = before ++ event :: after → event.Fits before

theorem Faithful.snoc {log : List (Event τ)} {event : Event τ} (faithful : Faithful log)
    (fits : event.Fits log) : Faithful (log ++ [event]) := by
  intro before other after split
  rcases List.eq_nil_or_concat after with rfl | ⟨rest, final, rfl⟩
  · obtain ⟨rfl, same⟩ := List.append_inj' split rfl
    cases same
    exact fits
  · rw [List.concat_eq_append, ← List.cons_append, ← List.append_assoc] at split
    obtain ⟨earlier, _⟩ := List.append_inj' split rfl
    exact faithful before other rest earlier

structure Owned (view : View τ) : Prop where
  live : ∀ localId, (view.get localId).map Channel.remoteId = ownerOf localId view.log
  faithful : Faithful view.log

def Event.quiet : Event τ → Bool
  | .opened _ _ | .removed _ | .sent _ _ => false
  | _ => true

theorem Event.quiet_fits {event : Event τ} (quiet : event.quiet = true) (log : List (Event τ)) :
    event.Fits log := by
  cases event with
  | opened => cases quiet
  | sent => cases quiet
  | _ => trivial

theorem Event.quiet_owner {event : Event τ} (quiet : event.quiet = true) (localId : UInt32)
    (current : Option UInt32) : event.owner localId current = current := by
  cases event with
  | opened => cases quiet
  | removed => cases quiet
  | _ => rfl

theorem Owned.put {view : View τ} (owned : Owned view) {localId : UInt32} {channel : Channel τ}
    (same : ownerOf localId view.log = some channel.remoteId) :
    Owned (view.change localId (some channel) []) := by
  constructor
  · intro other
    simp only [View.change, List.append_nil]
    by_cases here : other = localId
    · subst here
      rw [Function.update_self, same]
      rfl
    · rw [Function.update_of_ne here]
      exact owned.live other
  · simpa only [View.change, List.append_nil] using owned.faithful

theorem Owned.logged {view : View τ} (owned : Owned view) {event : Event τ}
    (fits : event.Fits view.log)
    (unmoved : ∀ localId current, event.owner localId current = current) :
    Owned ⟨view.get, view.log ++ [event]⟩ := by
  constructor
  · intro localId
    rw [ownerOf_snoc, unmoved]
    exact owned.live localId
  · exact owned.faithful.snoc fits

theorem Owned.given {view : View τ} (owned : Owned view) {localId : UInt32}
    {slot : Option (Channel τ)} {event : Event τ} (fits : event.Fits view.log)
    (gives : ∀ other current, event.owner other current =
      if localId = other then slot.map Channel.remoteId else current) :
    Owned (view.change localId slot [event]) := by
  constructor
  · intro other
    simp only [View.change, ownerOf_snoc, gives]
    by_cases here : other = localId
    · subst here
      rw [Function.update_self, if_pos rfl]
    · rw [Function.update_of_ne here, if_neg (Ne.symm here)]
      exact owned.live other
  · exact owned.faithful.snoc fits

theorem Owned.removed {view : View τ} (owned : Owned view) (localId : UInt32) :
    Owned (view.change localId none [.removed localId]) := by
  refine owned.given ?_ ?_
  · trivial
  · intro other current
    rfl

theorem Owned.opened {view : View τ} (owned : Owned view) {localId : UInt32}
    (vacant : view.get localId = none) (open_ : ChannelOpen) :
    Owned (view.change localId (some (openedChannel open_)) [.opened localId open_]) := by
  have free : ownerOf localId view.log = none := by rw [← owned.live, vacant, Option.map_none]
  refine owned.given ?_ ?_
  · exact free
  · intro other current
    rfl

end Owners

section Tending

def Tended (localId remoteId : UInt32) (mux : Mux σ τ) : Prop :=
  Owned mux.view ∧ ownerOf localId mux.view.log = some remoteId

variable {localId remoteId : UInt32}

theorem tended_put {channel : Channel τ} (same : channel.remoteId = remoteId) :
    Keeps (Tended localId remoteId) (putChannel localId channel : Operation σ τ Unit) := by
  apply keeps_of_last
  intro mux tended
  have view := mux.view_put localId channel
  obtain ⟨owned, owner⟩ := tended
  refine ⟨?_, owner⟩
  exact view ▸ owned.put (by rw [owner, same])

theorem tended_note {event : Event τ} (quiet : event.quiet = true) :
    Keeps (Tended localId remoteId) (note event : Operation σ τ Unit) := by
  apply keeps_of_last
  intro mux tended
  obtain ⟨owned, owner⟩ := tended
  refine ⟨owned.logged (event.quiet_fits quiet _) (event.quiet_owner quiet), ?_⟩
  change ownerOf localId (mux.log ++ [event]) = _
  rw [ownerOf_snoc, event.quiet_owner quiet]
  exact owner

theorem tended_attemptIo {β : Type} (outcome : Except IoError β) :
    Keeps (Tended localId remoteId) (attemptIo outcome : Operation σ τ β) := by
  apply keeps_of_last
  intro mux tended
  exact tended

theorem tended_pure {β : Type} (value : β) :
    Keeps (Tended localId remoteId) (pure value : Operation σ τ β) :=
  ensures_pure fun _ tended => tended

theorem tended_throw {β : Type} (stop : Stop Error) :
    Keeps (Tended localId remoteId) (throw stop : Operation σ τ β) :=
  ensures_throw stop fun _ tended => tended

def Mux.Owned (mux : Mux σ τ) : Prop := Oxish.Owned mux.view

theorem tended_owned {β : Type} {program : Operation σ τ β}
    (tends : Keeps (Tended localId remoteId) program) :
    Ensures (Tended localId remoteId) program (fun _ => Mux.Owned) Mux.Owned :=
  tends.mono (fun _ start => start) (fun _ _ tended => tended.1) (fun _ tended => tended.1)

theorem owned_lookup {β : Type} {next : Option (Channel τ) → Operation σ τ β}
    (absent : Keeps Mux.Owned (next none))
    (present : ∀ channel : Channel τ,
      Ensures (Tended localId channel.remoteId) (next (some channel)) (fun _ => Mux.Owned)
        Mux.Owned) :
    Keeps Mux.Owned (lookupChannel localId >>= next) := by
  intro mux owned
  have looked : exec (lookupChannel localId : Operation σ τ _) mux =
      (.ok (mux.view.get localId), mux) := rfl
  rw [exec_bind, looked]
  dsimp only
  cases found : mux.view.get localId with
  | none => exact absent owned
  | some channel =>
      refine present channel ⟨owned, ?_⟩
      rw [← owned.live, found, Option.map_some]

variable [SealingKey σ]

theorem transmitAs_view (event : Event τ) (payload : Bytes) (mux : Mux σ τ) :
    (exec (transmitAs event payload) mux).2.view = mux.view ∨
      (exec (transmitAs event payload) mux).2.view = ⟨mux.view.get, mux.view.log ++ [event]⟩ := by
  change (mux.encode event payload).2.view = _ ∨ (mux.encode event payload).2.view = _
  unfold Mux.encode
  split
  · exact .inr rfl
  · exact .inl rfl

theorem tended_transmit {message : ServerMessage} (same : message.recipient = remoteId)
    (plain : message.confirms = false) :
    Keeps (Tended localId remoteId) (transmit localId message : Operation σ τ Unit) := by
  apply keeps_of_last
  intro mux tended
  obtain ⟨owned, owner⟩ := tended
  unfold Tended
  rcases transmitAs_view (.sent localId message) message.encode mux with kept | logged
  · exact ⟨kept ▸ owned, kept ▸ owner⟩
  · refine ⟨?_, ?_⟩
    · refine logged ▸ owned.logged ⟨by rw [owner, same], ?_⟩ fun _ _ => rfl
      rintro confirmation rfl
      cases plain
    · rw [transmit, logged]
      change ownerOf localId (mux.view.log ++ [.sent localId message]) = _
      rw [ownerOf_snoc]
      exact owner

end Tending

section Programs

variable [SealingKey σ] {host : TerminalHost τ} {localId remoteId : UInt32} {channel : Channel τ}
  (same : channel.remoteId = remoteId)

include same

namespace Channels

theorem replyFailure_tended {wantReply : Bool} :
    Keeps (Tended localId remoteId)
      (replyFailure localId channel wantReply : Operation σ τ Unit) := by
  unfold replyFailure
  split
  · exact tended_transmit same rfl
  · exact tended_pure ()

theorem finishRequest_tended (wantReply : Bool) (banner : Option Bytes) :
    Keeps (Tended localId remoteId)
      (finishRequest localId channel wantReply banner : Operation σ τ Unit) := by
  apply Ensures.bind
  · unfold replySuccess
    split
    · exact tended_transmit same rfl
    · exact tended_pure ()
  · intro _
    unfold sendBanner
    split
    · exact tended_pure ()
    · split
      · exact tended_pure ()
      · exact Ensures.bind (tended_put same) fun _ => tended_transmit same rfl

theorem requestShell_tended {options : KeyOptions} :
    Ensures (Tended localId remoteId)
      (requestShell host localId channel options : Operation σ τ (Channel τ))
      (fun next mux => next.remoteId = remoteId ∧ Tended localId remoteId mux)
      (Tended localId remoteId) := by
  unfold requestShell
  split
  · refine Ensures.bind (tended_put same) fun _ => ?_
    refine Ensures.bind (tended_attemptIo _) fun terminal => ?_
    refine Ensures.bind (tended_put same) fun _ => ?_
    refine Ensures.bind (tended_note rfl) fun _ => ?_
    refine Ensures.bind (tended_transmit same rfl) fun _ => ?_
    exact ensures_pure fun _ tended => ⟨same, tended⟩
  · exact Ensures.bind (tended_put same) fun _ => ensures_throw _ fun _ tended => tended

theorem answer_tended {request : ChannelRequest} {banner : Option Bytes} {options : KeyOptions} :
    Keeps (Tended request.recipientChannel remoteId)
      (answer host request banner options channel : Operation σ τ Unit) := by
  unfold answer
  split
  · refine Ensures.bind (tended_put same) fun _ => ?_
    apply finishRequest_tended
    exact same
  · split
    · refine Ensures.bind (tended_put same) fun _ => ?_
      apply finishRequest_tended
      exact same
    · exact replyFailure_tended same
  · refine Ensures.bind (requestShell_tended same) fun next => ?_
    apply ensures_and
    intro kept
    exact finishRequest_tended kept _ _
  · apply Ensures.bind
    · unfold resizeTerminal
      split
      · exact tended_attemptIo _
      · exact tended_pure ()
    · intro _
      exact finishRequest_tended same _ _
  · exact replyFailure_tended same
  · exact replyFailure_tended same
  · exact replyFailure_tended same
  · exact replyFailure_tended same

theorem topUp_tended :
    Keeps (Tended localId remoteId) (topUp localId channel : Operation σ τ Unit) := by
  unfold topUp
  split
  · exact Ensures.bind (tended_put same) fun _ => tended_transmit same rfl
  · exact tended_pure ()

theorem replyClose_tended :
    Ensures (Tended localId remoteId) (replyClose localId channel : Operation σ τ (Channel τ))
      (fun next mux => next.remoteId = remoteId ∧ Tended localId remoteId mux)
      (Tended localId remoteId) := by
  unfold replyClose
  split
  · exact ensures_pure fun _ tended => ⟨same, tended⟩
  · refine Ensures.bind (tended_put same) fun _ => ?_
    refine Ensures.bind (tended_transmit same rfl) fun _ => ?_
    exact ensures_pure fun _ tended => ⟨same, tended⟩

end Channels

namespace TerminalsFuture

theorem pollClosing_tended :
    Keeps (Tended localId remoteId) (pollClosing localId channel : Operation σ τ Polled) := by
  unfold pollClosing
  split
  · exact tended_pure _
  · refine Ensures.bind (tended_put same) fun _ => ?_
    exact Ensures.bind (tended_transmit same rfl) fun _ => tended_pure _

theorem pollExited_tended {status : UInt32} :
    Keeps (Tended localId remoteId)
      (pollExited localId channel status : Operation σ τ Polled) := by
  refine Ensures.bind (tended_put same) fun _ => ?_
  dsimp only
  split
  · exact pollClosing_tended same
  · exact Ensures.bind (tended_transmit same rfl) fun _ => tended_pure _

theorem pollExiting_tended {terminal : τ} {deadline : Instant} :
    Keeps (Tended localId remoteId)
      (pollExiting host localId channel terminal deadline : Operation σ τ Polled) := by
  have ended : Keeps (Tended localId remoteId) (do
      note (.waited localId terminal)
      putChannel localId { channel with terminal := some .closing }
      pollClosing localId { channel with terminal := some .closing } : Operation σ τ Polled) :=
    Ensures.bind (tended_note rfl) fun _ => Ensures.bind (tended_put same) fun _ => pollClosing_tended same
  unfold pollExiting
  split
  · refine Ensures.bind (tended_note rfl) fun _ => ?_
    exact Ensures.bind (tended_put same) fun _ => pollExited_tended same
  · exact ended
  · exact ended
  · split
    · exact tended_pure _
    · exact Ensures.bind (tended_note rfl) fun _ => tended_pure _

omit same [SealingKey σ] in
theorem pollReaping_tended {terminal : τ} {deadline : Instant} :
    Keeps (Tended localId remoteId)
      (pollReaping host localId terminal deadline : Operation σ τ Polled) := by
  unfold pollReaping
  split
  · exact Ensures.bind (tended_note rfl) fun _ => tended_pure _
  · split
    · exact tended_pure _
    · exact tended_pure _

theorem pollRunning_tended {terminal : τ} :
    Keeps (Tended localId remoteId)
      (pollRunning host localId channel terminal : Operation σ τ Polled) := by
  unfold pollRunning
  dsimp only
  split
  · exact tended_pure _
  · split
    · exact tended_pure _
    · exact Ensures.bind (tended_note rfl) fun _ => tended_throw _
    · split
      · refine Ensures.bind (tended_put same) fun _ => ?_
        exact Ensures.bind (tended_transmit same rfl) fun _ => tended_pure _
      · refine Ensures.bind (tended_put same) fun _ => ?_
        split
        · refine Ensures.bind (tended_note rfl) fun _ => ?_
          exact Ensures.bind (tended_transmit same rfl) fun _ => tended_pure _
        · exact tended_throw _

theorem pollChannel_tended :
    Keeps (Tended localId remoteId) (pollChannel host localId channel : Operation σ τ Polled) := by
  unfold pollChannel
  split
  · exact tended_pure _
  · exact tended_pure _
  · exact pollRunning_tended same
  · exact pollExiting_tended same
  · exact pollExited_tended same
  · exact pollReaping_tended
  · exact pollClosing_tended same

end TerminalsFuture

end Programs

section Operations

variable [SealingKey σ] {host : TerminalHost τ}

omit [SealingKey σ] in
theorem owned_pure {β : Type} (value : β) : Keeps Mux.Owned (pure value : Operation σ τ β) :=
  ensures_pure fun _ owned => owned

omit [SealingKey σ] in
theorem owned_throw {β : Type} (stop : Stop Error) :
    Keeps Mux.Owned (throw stop : Operation σ τ β) :=
  ensures_throw stop fun _ owned => owned

omit [SealingKey σ] in
theorem owned_remove (localId : UInt32) :
    Keeps Mux.Owned (removeChannel localId : Operation σ τ Unit) := by
  apply keeps_of_last
  intro mux owned
  have removed := owned.removed localId
  rw [← mux.view_remove localId] at removed
  exact removed

theorem View.logged_change (view : View τ) (localId : UInt32) (entry : Option (Channel τ))
    (events : List (Event τ)) (event : Event τ) :
    (⟨(view.change localId entry events).get, (view.change localId entry events).log ++ [event]⟩ :
      View τ) = view.change localId entry (events ++ [event]) := by
  simp only [View.change, List.append_assoc]

inductive OpenView (open_ : ChannelOpen) (view : View τ) :
    Except (Stop Error) Unit → View τ → Prop
  | unsent {stop} : OpenView open_ view (.error stop) view
  | refused {failure : ChannelOpenFailure}
      (addressed : failure.recipientChannel = open_.senderChannel) :
      OpenView open_ view (.ok ()) ⟨view.get, view.log ++ [.refused failure]⟩
  | entered {localId stop} (vacant : view.get localId = none) :
      OpenView open_ view (.error stop)
        (view.change localId (some (openedChannel open_)) [.opened localId open_])
  | confirmed {localId} (vacant : view.get localId = none) :
      OpenView open_ view (.ok ())
        (view.change localId (some (openedChannel open_))
          [.opened localId open_, .sent localId
            (.openConfirmation ((openedChannel open_ : Channel τ).confirmation localId))])

namespace Channels

theorem refuse_view {open_ : ChannelOpen} {failure : ChannelOpenFailure}
    (addressed : failure.recipientChannel = open_.senderChannel) (mux : Mux σ τ) :
    OpenView open_ mux.view (exec (refuse failure) mux).1 (exec (refuse failure) mux).2.view := by
  change OpenView open_ mux.view (mux.encode (.refused failure) failure.encode).1
    (mux.encode (.refused failure) failure.encode).2.view
  unfold Mux.encode
  split
  · exact .refused addressed
  · exact .unsent

theorem open_view (open_ : ChannelOpen) (mux : Mux σ τ) :
    OpenView open_ mux.view (exec (Channels.open open_) mux).1
      (exec (Channels.open open_) mux).2.view := by
  unfold Channels.open
  split
  · exact refuse_view rfl mux
  · rw [exec_bind]
    change OpenView open_ mux.view (exec (lookupChannel mux.channels.nextId >>= _)
      { mux with channels := { mux.channels with nextId := mux.channels.nextId + 1 } }).1
      (exec (lookupChannel mux.channels.nextId >>= _)
      { mux with channels := { mux.channels with nextId := mux.channels.nextId + 1 } }).2.view
    generalize counted : ({ mux with
      channels := { mux.channels with nextId := mux.channels.nextId + 1 } } : Mux σ τ) = next
    have sameView : next.view = mux.view := by
      rw [← counted]
      rfl
    rw [← sameView]
    generalize mux.channels.nextId = localId
    have looked : exec (lookupChannel localId : Operation σ τ _) next =
      (.ok (next.view.get localId), next) := rfl
    rw [exec_bind, looked]
    dsimp only
    cases found : next.view.get localId with
    | some channel => exact refuse_view rfl next
    | none =>
        -- The channel is put into the table and noted before anything can fail.
        have view : ({ next with
            channels := next.channels.put localId (openedChannel open_)
            log := next.log ++ [.opened localId open_] } : Mux σ τ).view =
            next.view.change localId (some (openedChannel open_)) [.opened localId open_] := by
          simp only [Mux.view, View.change, Channels.put_get]
        generalize stored : ({ next with
          channels := next.channels.put localId (openedChannel open_)
          log := next.log ++ [.opened localId open_] } : Mux σ τ) = noted at view
        change OpenView open_ next.view
          (exec (transmit localId _) { next with
            channels := next.channels.put localId (openedChannel open_)
            log := next.log ++ [.opened localId open_] }).1
          (exec (transmit localId _) { next with
            channels := next.channels.put localId (openedChannel open_)
            log := next.log ++ [.opened localId open_] }).2.view
        rw [stored]
        change OpenView open_ next.view (noted.encode _ _).1 (noted.encode _ _).2.view
        unfold Mux.encode
        split
        · have confirmed : OpenView open_ next.view (.ok ()) _ := .confirmed found
          rw [← List.singleton_append, ← View.logged_change, ← view] at confirmed
          exact confirmed
        · have entered {stop} : OpenView open_ next.view (.error stop) _ := .entered found
          rw [← view] at entered
          exact entered

theorem open_owned (open_ : ChannelOpen) :
    Keeps Mux.Owned (Channels.open open_ : Operation σ τ Unit) := by
  apply keeps_of_last
  intro mux owned
  have moved := open_view open_ mux
  generalize exec (Channels.open open_) mux = ran at moved
  obtain ⟨outcome, last⟩ := ran
  generalize viewed : last.view = view at moved
  unfold Mux.Owned
  rw [viewed]
  cases moved with
  | unsent => exact owned
  | refused _ => exact owned.logged trivial fun _ _ => rfl
  | entered vacant => exact owned.opened vacant open_
  | confirmed vacant =>
      rw [← List.singleton_append, ← View.logged_change]
      refine (owned.opened vacant open_).logged ⟨?_, ?_⟩ fun _ _ => rfl
      · simp only [View.change, ownerOf_snoc, Event.owner, ↓reduceIte]
        rfl
      · intro confirmation same
        cases same
        exact ⟨rfl, mux.view.log, open_, rfl⟩

theorem request_owned (request : ChannelRequest) (banner : Option Bytes) (options : KeyOptions) :
    Keeps Mux.Owned (Channels.request host request banner options : Operation σ τ Unit) := by
  rw [request_eq]
  apply owned_lookup
  · exact owned_throw _
  · intro channel
    apply tended_owned
    exact answer_tended rfl

omit [SealingKey σ] in
theorem adjustWindow_owned (adjust : ChannelWindowAdjust) :
    Keeps Mux.Owned (adjustWindow adjust : Operation σ τ Unit) := by
  apply owned_lookup
  · exact owned_throw _
  · intro channel
    apply tended_owned
    exact Ensures.bind (tended_put rfl) fun _ => tended_note rfl

theorem data_owned (data : ChannelData) :
    Keeps Mux.Owned (Channels.data data : Operation σ τ _) := by
  apply owned_lookup
  · exact owned_throw _
  · intro channel
    apply tended_owned
    dsimp only
    split
    · exact tended_throw _
    · refine Ensures.bind (tended_put rfl) fun _ => ?_
      refine Ensures.bind (tended_note rfl) fun _ => ?_
      apply Ensures.bind
      · apply topUp_tended
        rfl
      · intro _
        split
        · exact tended_pure _
        · exact tended_pure _

omit [SealingKey σ] in
theorem eof_owned (eof : ChannelEof) : Keeps Mux.Owned (Channels.eof eof : Operation σ τ Unit) := by
  apply owned_lookup
  · exact owned_throw _
  · intro channel
    exact tended_owned (tended_pure ())

theorem close_owned (close : ChannelClose) :
    Keeps Mux.Owned (Channels.close host close : Operation σ τ Unit) := by
  apply owned_lookup
  · exact owned_pure ()
  · intro channel
    have removed : Ensures (Tended close.recipientChannel channel.remoteId)
        (removeChannel close.recipientChannel : Operation σ τ Unit) (fun _ => Mux.Owned) Mux.Owned :=
      (owned_remove _).mono (fun _ tended => tended.1) (fun _ _ owned => owned) fun _ owned => owned
    have replied : Ensures (Tended close.recipientChannel channel.remoteId)
        (replyClose close.recipientChannel channel : Operation σ τ (Channel τ))
        (fun next mux => next.remoteId = channel.remoteId ∧
          Tended close.recipientChannel channel.remoteId mux) Mux.Owned :=
      (replyClose_tended rfl).mono (fun _ tended => tended) (fun _ _ kept => kept)
        fun _ tended => tended.1
    refine replied.bind fun next => ?_
    apply ensures_and
    intro same
    have reaping (terminal : τ) (deadline : Instant) :
        Ensures (Tended close.recipientChannel channel.remoteId) (do
          note (.killed close.recipientChannel terminal)
          putChannel close.recipientChannel { next with
            terminal := some (.reaping terminal deadline) } : Operation σ τ Unit)
          (fun _ => Mux.Owned) Mux.Owned :=
      tended_owned (Ensures.bind (tended_note rfl) fun _ => tended_put same)
    split
    · exact reaping _ _
    · exact reaping _ _
    · exact tended_owned (tended_pure ())
    · exact removed
    · exact removed
    · exact removed
    · exact removed

end Channels

namespace TerminalsFuture

theorem pollEach_owned (localIds : List UInt32) :
    Keeps Mux.Owned (pollEach host localIds : Operation σ τ (Poll Unit)) := by
  induction localIds with
  | nil => exact owned_pure _
  | cons localId localIds ih =>
      apply owned_lookup
      · exact ih
      · intro channel
        refine Ensures.bind (tended_owned (pollChannel_tended rfl)) fun polled => ?_
        cases polled with
        | next => exact ih
        | ready => exact owned_pure _
        | remove => exact Ensures.bind (owned_remove _) fun _ => owned_pure _

theorem poll_owned : Keeps Mux.Owned (poll host : Operation σ τ (Poll Unit)) := by
  refine Ensures.bind ?_ fun localIds => pollEach_owned localIds
  apply keeps_of_last
  intro mux owned
  exact owned

end TerminalsFuture

end Operations

section Replies

def Event.replies : Event τ → Bool
  | .sent _ (.success _) | .sent _ (.failure _) => true
  | _ => false

structure RepliedOnce (localId : UInt32) (wantReply : Bool) (events : List (Event τ)) : Prop where
  count : events.countP Event.replies = if wantReply then 1 else 0
  addressed : ∀ event ∈ events, event.replies = true → event.localId = some localId

theorem repliedOnce_finish (channel : Channel τ) (localId : UInt32) (wantReply : Bool)
    (banner : Option Bytes) :
    RepliedOnce localId wantReply (channel.finishEvents localId wantReply banner) := by
  constructor
  · unfold Channel.finishEvents
    cases wantReply <;> cases channel.dueBanner banner <;> rfl
  · intro event member _
    rcases Channel.mem_finishEvents member with ⟨_, rfl⟩ | ⟨_, rfl⟩
    · rfl
    · rfl

theorem repliedOnce_failure (channel : Channel τ) (localId : UInt32) (wantReply : Bool) :
    RepliedOnce localId wantReply
      (if wantReply then [.sent localId (.failure channel.failure)] else [] : List (Event τ)) := by
  cases wantReply with
  | false => exact ⟨rfl, nofun⟩
  | true =>
      refine ⟨rfl, ?_⟩
      intro event member _
      rw [List.mem_singleton.mp member]
      rfl

theorem RepliedOnce.behind {localId : UInt32} {wantReply : Bool} {before events : List (Event τ)}
    (once : RepliedOnce localId wantReply events)
    (silent : ∀ event ∈ before, event.replies = false) :
    RepliedOnce localId wantReply (before ++ events) := by
  constructor
  · have none : before.countP Event.replies = 0 := by
      rw [List.countP_eq_zero]
      intro event member
      rw [silent event member]
      exact Bool.false_ne_true
    rw [List.countP_append, none, Nat.zero_add]
    exact once.count
  · intro event member replies
    rcases List.mem_append.mp member with early | late
    · rw [silent event early] at replies
      cases replies
    · exact once.addressed event late replies

variable [SealingKey σ] {host : TerminalHost τ} {mux last : Mux σ τ}

theorem Channels.answer_replied {request : ChannelRequest} {banner : Option Bytes}
    {options : KeyOptions} {channel : Channel τ}
    (live : mux.view.get request.recipientChannel = some channel)
    (done : exec (answer host request banner options channel) mux = (.ok (), last)) :
    ∃ events, last.log = mux.log ++ events ∧
      RepliedOnce request.recipientChannel request.wantReply events := by
  have finished {next : Channel τ} {entry : Option (Channel τ)} (before : List (Event τ))
      (silent : ∀ event ∈ before, event.replies = false)
      (view : last.view = mux.view.change request.recipientChannel entry
        (before ++ next.finishEvents request.recipientChannel request.wantReply banner)) :
      ∃ events, last.log = mux.log ++ events ∧
        RepliedOnce request.recipientChannel request.wantReply events :=
    ⟨_, congrArg View.log view, (repliedOnce_finish next _ _ banner).behind silent⟩
  have refused (ran : exec (replyFailure request.recipientChannel channel request.wantReply) mux =
      (.ok (), last)) :
      ∃ events, last.log = mux.log ++ events ∧
        RepliedOnce request.recipientChannel request.wantReply events :=
    ⟨_, congrArg View.log (replyFailure_view live ran), repliedOnce_failure channel _ _⟩
  unfold answer at done
  split at done
  · exact finished [] nofun (put_finishRequest_acts done)
  · split at done
    · exact finished [] nofun (put_finishRequest_acts done)
    · exact refused done
  · obtain ⟨next, started, start, done⟩ := exec_bind_ok.mp done
    obtain ⟨ptyReq, terminal, _, _, rfl, view⟩ := requestShell_view start
    have tail := finishRequest_acts (by rw [view, View.change_get]) done
    rw [view, View.change_change] at tail
    refine finished _ ?_ tail
    intro event member
    simp only [List.mem_cons, List.not_mem_nil, or_false] at member
    rcases member with rfl | rfl
    · rfl
    · rfl
  · obtain ⟨_, resized, resize, rest⟩ := exec_bind_ok.mp done
    have same : resized = mux := by
      unfold resizeTerminal at resize
      split at resize
      · exact (attemptIo_ok resize).1.symm
      · cases resize
        rfl
    rw [same] at rest
    exact finished [] nofun (finishRequest_acts live rest)
  · exact refused done
  · exact refused done
  · exact refused done
  · exact refused done

inductive OpenAnswered (view : View τ) (open_ : ChannelOpen) : List (Event τ) → Prop
  | refused {failure : ChannelOpenFailure}
      (addressed : failure.recipientChannel = open_.senderChannel) :
      OpenAnswered view open_ [.refused failure]
  | confirmed {localId : UInt32} {confirmation : ChannelOpenConfirmation}
      (addressed : confirmation.recipientChannel = open_.senderChannel)
      (announced : confirmation.senderChannel = localId) (free : view.get localId = none) :
      OpenAnswered view open_
        [.opened localId open_, .sent localId (.openConfirmation confirmation)]

theorem OpenView.answered {open_ : ChannelOpen} {view after : View τ}
    (moved : OpenView open_ view (.ok ()) after) :
    ∃ events, after.log = view.log ++ events ∧ OpenAnswered view open_ events := by
  cases moved with
  | refused addressed => exact ⟨_, rfl, .refused addressed⟩
  | confirmed vacant => exact ⟨_, rfl, .confirmed rfl rfl vacant⟩

theorem OpenView.kept {open_ : ChannelOpen} {view after : View τ}
    {outcome : Except (Stop Error) Unit} (moved : OpenView open_ view outcome after)
    {localId : UInt32} {channel : Channel τ} (live : view.get localId = some channel) :
    after.get localId = some channel := by
  have elsewhere {other : UInt32} (vacant : view.get other = none) : localId ≠ other := by
    rintro rfl
    cases live.symm.trans vacant
  cases moved with
  | unsent => exact live
  | refused _ => exact live
  | entered vacant => exact (Function.update_of_ne (elsewhere vacant) _ _).trans live
  | confirmed vacant => exact (Function.update_of_ne (elsewhere vacant) _ _).trans live

end Replies

section Runs

variable [SealingKey σ]

inductive ChannelCall where
  | open (message : ChannelOpen)
  | request (message : ChannelRequest) (banner : Option Bytes) (options : KeyOptions)
  | adjustWindow (message : ChannelWindowAdjust)
  | data (message : ChannelData)
  | eof (message : ChannelEof)
  | close (message : ChannelClose)
  | poll

def ChannelCall.operation (host : TerminalHost τ) : ChannelCall → Operation σ τ Unit
  | .open message => Channels.open message
  | .request message banner options => Channels.request host message banner options
  | .adjustWindow message => Channels.adjustWindow message
  | .data message => do
    let _ ← Channels.data message
    pure ()
  | .eof message => Channels.eof message
  | .close message => Channels.close host message
  | .poll => do
    let _ ← TerminalsFuture.poll host
    pure ()

structure ChannelTurn (σ τ : Type) where
  call : ChannelCall
  host : TerminalHost τ
  write : WriteState σ

def Mux.called (mux : Mux σ τ) (turn : ChannelTurn σ τ) : Except (Stop Error) Unit × Mux σ τ :=
  exec (turn.call.operation turn.host) { mux with write := turn.write }

/-- The channels after a series of calls, each of which may have failed. -/
def Mux.afterCalls (mux : Mux σ τ) (turns : List (ChannelTurn σ τ)) : Mux σ τ :=
  turns.foldl (fun mux turn => (mux.called turn).2) mux

theorem ChannelCall.operation_owned (host : TerminalHost τ) (call : ChannelCall) :
    Keeps Mux.Owned (call.operation host : Operation σ τ Unit) := by
  cases call with
  | «open» message => exact Channels.open_owned message
  | request message banner options => exact Channels.request_owned message banner options
  | adjustWindow message => exact Channels.adjustWindow_owned message
  | data message => exact Ensures.bind (Channels.data_owned message) fun _ => owned_pure ()
  | eof message => exact Channels.eof_owned message
  | close message => exact Channels.close_owned message
  | poll => exact Ensures.bind TerminalsFuture.poll_owned fun _ => owned_pure ()

theorem Mux.called_owned {mux : Mux σ τ} (owned : mux.Owned) (turn : ChannelTurn σ τ) :
    (mux.called turn).2.Owned :=
  (turn.call.operation_owned turn.host).last _ owned

theorem Mux.afterCalls_owned {mux : Mux σ τ} (owned : mux.Owned) (turns : List (ChannelTurn σ τ)) :
    (mux.afterCalls turns).Owned := by
  induction turns generalizing mux with
  | nil => exact owned
  | cons turn turns ih => exact ih (Mux.called_owned owned turn)

omit [SealingKey σ] in
theorem Mux.start_owned (write : WriteState σ) : (Mux.start write : Mux σ τ).Owned := by
  constructor
  · intro localId
    rw [Mux.start_vacant]
    rfl
  · intro before event after split
    cases before <;> cases split

structure RepliesInOrder (mux : Mux σ τ) : Prop where
  /-- A message for a channel goes to the id of the opening that created it, a channel is opened
  only where none lives, and it is confirmed under its own id right after. -/
  faithful : Faithful mux.log
  live : ∀ localId, (mux.view.get localId).map Channel.remoteId = ownerOf localId mux.log
  opened : ∀ open_ host write last, mux.called ⟨.open open_, host, write⟩ = (.ok (), last) →
    ∃ events, last.log = mux.log ++ events ∧ OpenAnswered mux.view open_ events
  kept : ∀ open_ host write localId channel, mux.view.get localId = some channel →
    (mux.called ⟨.open open_, host, write⟩).2.view.get localId = some channel
  answered : ∀ request banner options host write channel last,
    mux.view.get request.recipientChannel = some channel →
    mux.called ⟨.request request banner options, host, write⟩ = (.ok (), last) →
    ∃ events, last.log = mux.log ++ events ∧
      RepliedOnce request.recipientChannel request.wantReply events

/-- However the operations on the channels are called, and whichever of the calls fail, the
channels reply to every opening and every request as they should. -/
theorem channel_replies_in_order (write : WriteState σ) (turns : List (ChannelTurn σ τ)) :
    RepliesInOrder ((Mux.start write).afterCalls turns) := by
  have owned := Mux.afterCalls_owned (Mux.start_owned write) turns
  generalize (Mux.start write).afterCalls turns = mux at owned
  constructor
  · exact owned.faithful
  · exact owned.live
  · intro open_ host write last done
    have moved := Channels.open_view open_ { mux with write }
    change exec (Channels.open open_) { mux with write } = _ at done
    rw [done] at moved
    exact moved.answered
  · intro open_ host write localId channel live
    have moved := Channels.open_view open_ { mux with write }
    exact moved.kept live
  · intro request banner options host write channel last live done
    change exec (Channels.request host request banner options) { mux with write } = _ at done
    rw [Channels.request_eq] at done
    obtain ⟨entry, _, looked, done⟩ := exec_bind_ok.mp done
    obtain ⟨rfl, found⟩ := lookupChannel_ok looked
    have here : ({ mux with write } : Mux σ τ).view.get request.recipientChannel = some channel :=
      live
    cases found.symm.trans here
    have replied := Channels.answer_replied here done
    exact replied

end Runs

end Oxish
