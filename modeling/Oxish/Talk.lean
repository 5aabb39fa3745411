import Oxish.KeyExchangeWatch
import Oxish.Lib.History

/-!
The grammar of what a server says to a client, from the first key exchange to the end of the
connection. It is an automaton that reads the log of a connection, and what it accepts is in order.
-/

namespace Oxish

variable {σ τ : Type}

/-- How far the conversation is. During the authentication the replies are counted; in a session a
global request may be waiting for its reply. -/
inductive Talk
  | exchanging
  | keyed
  | informed
  | ready
  | serving (replies : Nat)
  | welcomed
  | opened (owed : Bool)
  | closed
  deriving DecidableEq

namespace Talk

def exchanges : Option MessageType → Bool
  | some .keyExchangeInit | some .keyExchangeEcdhReply | some .newKeys => true
  | _ => false

def say : Talk → Option MessageType → Option Talk
  | .exchanging, type => if exchanges type then some .exchanging else none
  | .keyed, some .extInfo => some .informed
  | .keyed, some .ignore | .informed, some .ignore => some .ready
  | .ready, some .serviceAccept => some (.serving 0)
  | .serving replies, some .userAuthFailure | .serving replies, some .userAuthPkOk =>
    if replies < 5 then some (.serving (replies + 1)) else none
  | .serving replies, some .userAuthSuccess => if replies < 5 then some .welcomed else none
  | .ready, some .disconnect | .serving _, some .disconnect | .welcomed, some .disconnect =>
    some .closed
  | .welcomed, type | .opened false, type => if exchanges type then some (.opened false) else none
  | .opened true, some .requestFailure => some (.opened false)
  | _, _ => none

def process (packet : IncomingPacket) : Talk :=
  if packet.messageType = .globalRequest then
    match GlobalRequest.tryFrom packet with
    | .ok request => .opened request.wantReply
    | .error _ => .closed
  else .opened false

def inSession : Talk → Bool
  | .welcomed | .opened false => true
  | _ => false

def hear (talk : Talk) : Act σ τ → Option Talk
  | .packet payload => talk.say (payloadType payload)
  | .keys _ =>
    if talk = .exchanging then some .keyed
    else if talk.inSession then some (.opened false) else none
  | .processed packet => if talk.inSession then some (process packet) else none
  | .resumed _ | .channel _ => if talk.inSession then some (.opened false) else none

end Talk

abbrev InSession (talk : Talk) : Prop := talk.inSession = true

theorem InSession.eq {talk : Talk} (here : InSession talk) :
    talk = .welcomed ∨ talk = .opened false := by
  cases talk with
  | welcomed => exact .inl rfl
  | opened owed =>
      cases owed with
      | false => exact .inr rfl
      | true => cases here
  | _ => cases here

theorem InSession.say {talk : Talk} (here : InSession talk) {type : Option MessageType}
    (exchanged : Talk.exchanges type = true) :
    ∃ next, talk.say type = some next ∧ InSession next := by
  refine ⟨.opened false, ?_, rfl⟩
  unfold Talk.exchanges at exchanged
  rcases here.eq with rfl | rfl <;> split at exchanged <;> first | rfl | cases exchanged

theorem InSession.hear {talk : Talk} (here : InSession talk) {act : Act σ τ}
    (plain : ∀ payload, act ≠ .packet payload) (other : ∀ packet, act ≠ .processed packet) :
    ∃ next, talk.hear act = some next ∧ InSession next := by
  refine ⟨.opened false, ?_, rfl⟩
  cases act with
  | packet payload => exact absurd rfl (plain payload)
  | processed packet => exact absurd rfl (other packet)
  | keys sealer => rcases here.eq with rfl | rfl <;> rfl
  | resumed sealer => exact if_pos here
  | channel event => exact if_pos here

theorem InSession.hear_channels {talk : Talk} (here : InSession talk) (events : List (Event τ)) :
    ∃ next, History.run Talk.hear talk (events.map .channel : List (Act σ τ)) = some next ∧
      InSession next := by
  induction events generalizing talk with
  | nil => exact ⟨talk, rfl, here⟩
  | cons event events ih =>
      obtain ⟨next, read, there⟩ := @ih (.opened false) rfl
      refine ⟨next, ?_, there⟩
      have first : talk.hear (.channel event : Act σ τ) = some (.opened false) := if_pos here
      rw [List.map_cons, History.run, List.foldlM_cons, first]
      exact read

section Consequences

variable {log : List (Act σ τ)} {talk next : Talk}

def MessageType.ofChannels : MessageType → Bool
  | .channelOpenConfirmation | .channelOpenFailure | .channelWindowAdjust | .channelData
  | .channelEof | .channelClose | .channelRequest | .channelSuccess | .channelFailure => true
  | _ => false

theorem Event.payload_ofChannels {event : Event τ} {payload : Bytes}
    (shown : event.payload = some payload) :
    ∃ type, payloadType payload = some type ∧ MessageType.ofChannels type = true := by
  cases event with
  | sent localId message =>
      cases shown
      cases message <;> exact ⟨_, rfl, rfl⟩
  | refused failure =>
      cases shown
      exact ⟨_, rfl, rfl⟩
  | _ => cases shown

def Act.replies (act : Act σ τ) : Bool :=
  match act.type with
  | some .userAuthFailure | some .userAuthPkOk | some .userAuthSuccess => true
  | _ => false

theorem Act.replies_channel (event : Event τ) : (Act.channel event : Act σ τ).replies = false := by
  have type : (Act.channel event : Act σ τ).type = event.payload.bind payloadType := rfl
  unfold Act.replies
  rw [type]
  cases shown : event.payload with
  | none => rfl
  | some payload =>
      obtain ⟨messageType, is, ofChannels⟩ := Event.payload_ofChannels shown
      rw [Option.bind_some, is]
      cases messageType <;> first | rfl | cases ofChannels

theorem countP_replies_snoc (act : Act σ τ) {value : Bool} (is : act.replies = value) :
    (log ++ [act]).countP Act.replies = log.countP Act.replies + value.toNat := by
  rw [List.countP_append, List.countP_singleton, is]
  cases value <;> rfl

/-- What the place of the conversation says about everything that was said before. -/
def Talk.Recalls (log : List (Act σ τ)) : Talk → Prop
  | .exchanging | .keyed | .informed | .ready => log.countP Act.replies = 0
  | .serving replies => log.countP Act.replies = replies ∧ replies ≤ 5
  | .welcomed | .opened _ => log.countP Act.replies ≤ 5 ∧
    ∃ act ∈ log, act.type = some .userAuthSuccess
  | .closed => log.countP Act.replies ≤ 5

theorem Talk.Recalls.le (recalls : talk.Recalls log) : log.countP Act.replies ≤ 5 := by
  cases talk with
  | exchanging | keyed | informed | ready =>
      exact Nat.le_trans (Nat.le_of_eq recalls) (Nat.zero_le 5)
  | serving replies => exact Nat.le_trans (Nat.le_of_eq recalls.1) recalls.2
  | welcomed | opened => exact recalls.1
  | closed => exact recalls

theorem Talk.Recalls.quiet (recalls : talk.Recalls log) {act : Act σ τ}
    (quiet : act.replies = false) : talk.Recalls (log ++ [act]) := by
  have same : (log ++ [act]).countP Act.replies = log.countP Act.replies :=
    countP_replies_snoc act quiet
  unfold Talk.Recalls at recalls ⊢
  rw [same]
  cases talk with
  | welcomed | opened =>
      obtain ⟨few, success, member, is⟩ := recalls
      exact ⟨few, success, List.mem_append_left _ member, is⟩
  | _ => exact recalls

theorem replies_of_type {payload : Bytes} {type : MessageType}
    (is : payloadType payload = some type) :
    (Act.packet payload : Act σ τ).replies =
      (type = .userAuthFailure || type = .userAuthPkOk || type = .userAuthSuccess) := by
  have shown : (Act.packet payload : Act σ τ).type = payloadType payload := rfl
  rw [Act.replies, shown, is]
  cases type <;> rfl

theorem replies_of_exchanges {payload : Bytes}
    (exchanges : Talk.exchanges (payloadType payload) = true) :
    (Act.packet payload : Act σ τ).replies = false := by
  unfold Talk.exchanges at exchanges
  split at exchanges
  · rename_i is
    exact replies_of_type is
  · rename_i is
    exact replies_of_type is
  · rename_i is
    exact replies_of_type is
  · cases exchanges

theorem Talk.Recalls.reply {replies : Nat} (recalls : (Talk.serving replies).Recalls log)
    {payload : Bytes} (answers : (Act.packet payload : Act σ τ).replies = true)
    (left : replies < 5) : (Talk.serving (replies + 1)).Recalls (log ++ [.packet payload]) := by
  refine ⟨?_, left⟩
  rw [countP_replies_snoc _ answers, recalls.1]
  rfl

theorem Talk.Recalls.say (recalls : talk.Recalls log) {payload : Bytes}
    (said : talk.say (payloadType payload) = some next) :
    next.Recalls (log ++ [.packet payload]) := by
  unfold Talk.say at said
  split at said
  · obtain ⟨exchanges, same⟩ := Option.ite_none_right_eq_some.mp said
    cases same
    exact recalls.quiet (replies_of_exchanges exchanges)
  · rename_i is
    cases said
    exact (show Talk.Recalls log .informed from recalls).quiet (replies_of_type is)
  · rename_i is
    cases said
    exact (show Talk.Recalls log .ready from recalls).quiet (replies_of_type is)
  · rename_i is
    cases said
    exact (show Talk.Recalls log .ready from recalls).quiet (replies_of_type is)
  · rename_i is
    cases said
    exact (show Talk.Recalls log (.serving 0) from ⟨recalls, Nat.zero_le 5⟩).quiet
      (replies_of_type is)
  · rename_i is
    obtain ⟨left, same⟩ := Option.ite_none_right_eq_some.mp said
    cases same
    exact recalls.reply (replies_of_type is) left
  · rename_i is
    obtain ⟨left, same⟩ := Option.ite_none_right_eq_some.mp said
    cases same
    exact recalls.reply (replies_of_type is) left
  · rename_i is
    obtain ⟨left, same⟩ := Option.ite_none_right_eq_some.mp said
    cases same
    have more := (recalls.reply (replies_of_type is) left).le
    exact ⟨more, .packet payload, List.mem_append_right _ (.head _), is⟩
  · rename_i is
    cases said
    exact (show Talk.Recalls log .closed from recalls.le).quiet (replies_of_type is)
  · rename_i is
    cases said
    exact (show Talk.Recalls log .closed from recalls.le).quiet (replies_of_type is)
  · rename_i is
    cases said
    exact (show Talk.Recalls log .closed from recalls.le).quiet (replies_of_type is)
  · obtain ⟨exchanges, same⟩ := Option.ite_none_right_eq_some.mp said
    cases same
    exact (show Talk.Recalls log (.opened false) from recalls).quiet (replies_of_exchanges exchanges)
  · obtain ⟨exchanges, same⟩ := Option.ite_none_right_eq_some.mp said
    cases same
    exact recalls.quiet (replies_of_exchanges exchanges)
  · rename_i is
    cases said
    exact (show Talk.Recalls log (.opened false) from recalls).quiet (replies_of_type is)
  · cases said

theorem Talk.Recalls.inSession (recalls : talk.Recalls log) (here : InSession talk) :
    log.countP Act.replies ≤ 5 ∧ ∃ act ∈ log, act.type = some .userAuthSuccess := by
  rcases here.eq with rfl | rfl <;> exact recalls

theorem Talk.Recalls.hear (recalls : talk.Recalls log) {act : Act σ τ}
    (heard : talk.hear act = some next) : next.Recalls (log ++ [act]) := by
  cases act with
  | packet payload => exact recalls.say heard
  | keys sealer =>
      rw [Talk.hear] at heard
      by_cases first : talk = .exchanging
      · rw [if_pos first] at heard
        subst first
        cases heard
        exact (show Talk.Recalls log .keyed from recalls).quiet rfl
      · rw [if_neg first] at heard
        obtain ⟨here, same⟩ := Option.ite_none_right_eq_some.mp heard
        cases same
        exact (show Talk.Recalls log (.opened false) from recalls.inSession here).quiet rfl
  | resumed sealer =>
      obtain ⟨here, same⟩ := Option.ite_none_right_eq_some.mp heard
      cases same
      exact (show Talk.Recalls log (.opened false) from recalls.inSession here).quiet rfl
  | channel event =>
      obtain ⟨here, same⟩ := Option.ite_none_right_eq_some.mp heard
      cases same
      exact (show Talk.Recalls log (.opened false) from recalls.inSession here).quiet
        (Act.replies_channel event)
  | processed packet =>
      obtain ⟨here, same⟩ := Option.ite_none_right_eq_some.mp heard
      cases same
      have known := recalls.inSession here
      refine Talk.Recalls.quiet ?_ rfl
      unfold Talk.process
      split
      · split
        · exact known
        · exact known.1
      · exact known

theorem recalls_run (read : History.run Talk.hear .exchanging log = some talk) :
    talk.Recalls log := by
  refine @History.run_invariant _ _ _ .exchanging (fun log (talk : Talk) => talk.Recalls log)
    ?_ ?_ _ _ read
  · exact List.countP_nil
  · intro _ before act next _ recalls heard
    exact recalls.hear heard

theorem heard_at (read : History.run Talk.hear .exchanging log = some talk)
    {before after : List (Act σ τ)} {act : Act σ τ} (split : log = before ++ act :: after) :
    ∃ here next, History.run Talk.hear .exchanging before = some here ∧ here.hear act = some next ∧
      History.run Talk.hear next after = some talk := by
  rw [split, History.run_append] at read
  obtain ⟨here, first, read⟩ := Option.bind_eq_some_iff.mp read
  rw [History.run, List.foldlM_cons] at read
  obtain ⟨next, heard, read⟩ := Option.bind_eq_some_iff.mp read
  exact ⟨here, next, first, heard, read⟩

theorem Talk.say_disconnect (said : talk.say (some .disconnect) = some next) : next = .closed := by
  cases talk with
  | opened owed => cases owed <;> cases said
  | exchanging | keyed | informed | closed => cases said
  | ready | serving | welcomed =>
      cases said
      rfl

theorem Talk.closed_hear (act : Act σ τ) : Talk.closed.hear act = none := by
  cases act <;> rfl

theorem Talk.say_requestFailure (said : talk.say (some .requestFailure) = some next) :
    talk = .opened true := by
  cases talk with
  | opened owed =>
      cases owed with
      | true => rfl
      | false => cases said
  | _ => cases said

theorem Talk.owed_say {type : Option MessageType} (said : (Talk.opened true).say type = some next) :
    type = some .requestFailure := by
  cases type with
  | none => cases said
  | some type => cases type <;> first | rfl | cases said

theorem Talk.say_unowed {type : Option MessageType} (said : talk.say type = some next) :
    next ≠ .opened true := by
  rintro rfl
  unfold Talk.say at said
  split at said <;> first | cases said | skip
  all_goals
    obtain ⟨_, other⟩ := Option.ite_none_right_eq_some.mp said
    cases other

theorem Talk.hear_owed {act : Act σ τ} (heard : talk.hear act = some (.opened true)) :
    ∃ packet, act = .processed packet ∧ Talk.process packet = .opened true := by
  cases act with
  | packet payload => exact absurd rfl (Talk.say_unowed heard)
  | keys sealer =>
      rw [Talk.hear] at heard
      split at heard
      · cases heard
      · obtain ⟨_, other⟩ := Option.ite_none_right_eq_some.mp heard
        cases other
  | resumed | channel =>
      obtain ⟨_, other⟩ := Option.ite_none_right_eq_some.mp heard
      cases other
  | processed packet =>
      obtain ⟨_, same⟩ := Option.ite_none_right_eq_some.mp heard
      exact ⟨packet, rfl, Option.some.inj same⟩

theorem owed_of_run (read : History.run Talk.hear .exchanging log = some (.opened true)) :
    ∃ earlier packet, log = earlier ++ [.processed packet] ∧
      Talk.process packet = .opened true := by
  rcases List.eq_nil_or_concat log with rfl | ⟨earlier, act, rfl⟩
  · cases read
  · rw [List.concat_eq_append] at read ⊢
    obtain ⟨here, _, heard⟩ := History.run_snoc_some read
    obtain ⟨packet, rfl, owed⟩ := Talk.hear_owed heard
    exact ⟨earlier, packet, rfl, owed⟩

theorem process_owed {packet : IncomingPacket} :
    Talk.process packet = .opened true ↔ packet.messageType = .globalRequest ∧
      ∃ request, GlobalRequest.tryFrom packet = .ok request ∧ request.wantReply = true := by
  unfold Talk.process
  by_cases global : packet.messageType = .globalRequest
  · rw [if_pos global]
    cases parsed : GlobalRequest.tryFrom packet with
    | error error => simp
    | ok request => simp [global]
  · rw [if_neg global]
    simp [global]

theorem packet_of_type {act : Act σ τ} {type : MessageType} (is : act.type = some type)
    (other : MessageType.ofChannels type = false) :
    ∃ payload, act = .packet payload ∧ payloadType payload = some type := by
  cases act with
  | packet payload => exact ⟨payload, rfl, is⟩
  | channel event =>
      obtain ⟨payload, shown, same⟩ := Option.bind_eq_some_iff.mp is
      obtain ⟨known, typed, ofChannels⟩ := Event.payload_ofChannels shown
      cases typed.symm.trans same
      rw [other] at ofChannels
      cases ofChannels
  | _ => cases is

end Consequences

end Oxish
