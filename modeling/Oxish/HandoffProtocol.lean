import Oxish.HandoffProcessCore
import Oxish.HandoffReassembly
import Oxish.Lib.Progress
import Oxish.SessionStart

/-!
What holds between the two processes of a handoff in every order of their steps. The socket holds
a segment of one fixed message: what was sent and not yet taken. The session process has taken a
beginning of the message, and nothing in it changes once it has all of it.
-/

namespace Oxish

variable {α σ ρ τ : Type}

section Segments

theorem map_byte_cells (rights : List (List Stream)) (bytes : Bytes) :
    (cells rights bytes).map Cell.byte = bytes := by
  cases bytes with
  | nil => rfl
  | cons byte bytes => simp [cells, Function.comp_def]

theorem length_cells (rights : List (List Stream)) (bytes : Bytes) :
    (cells rights bytes).length = bytes.length := by
  rw [← List.length_map Cell.byte, map_byte_cells]

theorem cells_nil (bytes : Bytes) : cells [] bytes = bytes.map fun byte => { byte } := by
  cases bytes with
  | nil => rfl
  | cons byte bytes => rfl

theorem take_cells (rights : List (List Stream)) (bytes : Bytes) (count : Nat) :
    (cells rights bytes).take count = cells rights (bytes.take count) := by
  cases bytes with
  | nil => simp [cells]
  | cons byte bytes =>
      cases count with
      | zero => rfl
      | succ count => simp [cells]

theorem drop_cells (rights : List (List Stream)) (bytes : Bytes) (count : Nat) :
    (cells rights bytes).drop count =
      cells (if count = 0 then rights else []) (bytes.drop count) := by
  cases count with
  | zero => rfl
  | succ count =>
      cases bytes with
      | nil => rfl
      | cons byte bytes =>
          rw [if_neg (Nat.succ_ne_zero count), cells_nil]
          simp [cells]

theorem flatMap_rights_cells (rights : List (List Stream)) {bytes : Bytes} (some : bytes ≠ []) :
    (cells rights bytes).flatMap Cell.rights = rights := by
  cases bytes with
  | nil => exact absurd rfl some
  | cons byte bytes =>
      have plain : (bytes.map fun byte => ({ byte } : Cell)).flatMap Cell.rights = [] := by
        simp
      rw [cells, List.flatMap_cons, plain, List.append_nil]

def segment (stream : Stream) (payload : Bytes) (start stop : Nat) : List Cell :=
  ((cells [[stream]] (handoffMessage payload)).take stop).drop start

variable (stream : Stream) (payload : Bytes)

theorem segment_eq (start stop : Nat) :
    segment stream payload start stop =
      cells (if start = 0 then [[stream]] else [])
        (((handoffMessage payload).take stop).drop start) := by
  rw [segment, take_cells, drop_cells]

theorem length_segment {start stop : Nat} (within : stop ≤ (handoffMessage payload).length) :
    (segment stream payload start stop).length = stop - start := by
  rw [segment, List.length_drop, List.length_take, length_cells, Nat.min_eq_left within]

theorem take_segment (start stop count : Nat) (within : start + count ≤ stop) :
    (segment stream payload start stop).take count =
      segment stream payload start (start + count) := by
  rw [segment, segment, List.take_drop, List.take_take, Nat.min_eq_left within]

theorem drop_segment (start stop count : Nat) :
    (segment stream payload start stop).drop count =
      segment stream payload (start + count) stop := by
  rw [segment, segment, List.drop_drop]

theorem segment_append {start stop : Nat} (order : start ≤ stop)
    (within : stop ≤ (handoffMessage payload).length) (count : Nat) :
    segment stream payload start stop ++
        cells (if stop = 0 then [[stream]] else [])
          (((handoffMessage payload).drop stop).take count) =
      segment stream payload start (stop + count) := by
  have size : start ≤ ((cells [[stream]] (handoffMessage payload)).take stop).length := by
    rw [List.length_take, length_cells, Nat.min_eq_left within]
    exact order
  rw [← take_cells, ← drop_cells, segment, segment, List.take_add,
    List.drop_append_of_le_length size]

end Segments

variable [SocketAddr α] {provider : CryptoProvider σ ρ} {stream : Stream} {payload : Bytes}

namespace Handover

def HandoverEvent.rough : HandoverEvent → Bool
  | .sent _ | .delivered _ _ | .acknowledged (.ok ()) _ | .ackDelivered => false
  | _ => true

/-- Everything that an event can do. `spawn` never sees the end of the socket: as long as it waits
for the acknowledgement it holds that end itself. -/
inductive Moves (provider : CryptoProvider σ ρ) (stream : Stream) (payload : Bytes)
    (handover : Handover α σ ρ τ) : HandoverEvent → Handover α σ ρ τ → Prop
  | sent {count : Nat} (sending : handover.parent = .sending) (progress : 1 ≤ count)
      (within : handover.sent + count ≤ (handoffMessage payload).length) :
      Moves provider stream payload handover (.sent count) (handover.send stream payload count)
  | delivered {count : Nat} {closeOnExec : Except IoError Unit} {state : Receiving}
      (receiving : handover.child = .receiving state) (progress : 1 ≤ count)
      (available : count ≤ handover.toChild.length) (small : count ≤ Delivery.chunkLen) :
      Moves provider stream payload handover (.delivered count closeOnExec)
        (handover.take provider closeOnExec state count)
  | acknowledged {adopted : Except IoError Unit} {held : Stream}
      {state : SessionState α SessionHostKey} (decoded : handover.child = .decoded held state)
      (waited : handover.parent.inSpawn = true) :
      Moves provider stream payload handover (.acknowledged (.ok ()) adopted) { handover with
        child := .adopt provider adopted held state
        toParent := handover.toParent ++ [1] }
  | exited {event : HandoverEvent} (stop : Option (Stop Error))
      (rough : HandoverEvent.rough event = true) :
      Moves provider stream payload handover event { handover with child := .exited stop }
  | returned {byte : UInt8} {rest : Bytes} (awaiting : handover.parent = .awaiting)
      (arrived : handover.toParent = byte :: rest) :
      Moves provider stream payload handover .ackDelivered
        { handover with parent := .returned (.ok ()), toParent := rest }
  | failed {event : HandoverEvent} (error : IoError) (waited : handover.parent.inSpawn = true)
      (rough : HandoverEvent.rough event = true) :
      Moves provider stream payload handover event
        { handover with parent := .returned (.error (.io error)) }

theorem take_nothing (handover : Handover α σ ρ τ) (state : Receiving) :
    handover.take provider (.ok ()) state 0 = { handover with child := .exited (some (.error
      (.io { kind := .unexpectedEof, message := "EOF while receiving handoff message" }))) } := rfl

theorem step_moves {handover next : Handover α σ ρ τ} {event : HandoverEvent}
    (stepped : handover.step provider stream payload event = some next) :
    handover.Moves provider stream payload event next := by
  cases event with
  | sent count =>
      rw [step] at stepped
      split at stepped
      · rename_i sending
        obtain ⟨range, same⟩ := Option.ite_none_right_eq_some.mp stepped
        cases same
        exact .sent sending range.1 range.2
      · cases stepped
  | sendFailed error =>
      rw [step] at stepped
      split at stepped
      · rename_i sending
        cases stepped
        exact .failed error (by rw [sending]; rfl) rfl
      · cases stepped
  | delivered count closeOnExec =>
      rw [step] at stepped
      split at stepped
      · rename_i state receiving
        obtain ⟨range, same⟩ := Option.ite_none_right_eq_some.mp stepped
        cases same
        exact .delivered receiving range.1 range.2.1 range.2.2
      · cases stepped
  | deliveryFailed error =>
      rw [step] at stepped
      split at stepped
      · cases stepped
        exact .exited _ rfl
      · cases stepped
  | deliveryEnded =>
      rw [step] at stepped
      split at stepped
      · rename_i state receiving
        obtain ⟨_, same⟩ := Option.ite_none_right_eq_some.mp stepped
        rw [take_nothing] at same
        cases same
        exact .exited _ rfl
      · cases stepped
  | acknowledged sent adopted =>
      rw [step] at stepped
      split at stepped
      · rename_i held state decoded
        split at stepped
        · cases stepped
          exact .exited _ rfl
        · obtain ⟨waited, same⟩ := Option.ite_none_right_eq_some.mp stepped
          cases same
          exact .acknowledged decoded waited
      · cases stepped
  | killed =>
      rw [step] at stepped
      obtain ⟨_, same⟩ := Option.ite_none_right_eq_some.mp stepped
      cases same
      exact .exited none rfl
  | ackDelivered =>
      rw [step] at stepped
      split at stepped
      · rename_i awaiting arrived
        cases stepped
        exact .returned awaiting arrived
      · cases stepped
  | ackFailed error =>
      rw [step] at stepped
      split at stepped
      · rename_i awaiting
        cases stepped
        exact .failed error (by rw [awaiting]; rfl) rfl
      · cases stepped
  | ackEnded =>
      rw [step] at stepped
      split at stepped
      · rename_i awaiting _
        have held : handover.childEndOpen = true := by
          rw [childEndOpen, awaiting]
          exact Bool.or_true _
        rw [if_pos held] at stepped
        cases stepped
      · cases stepped

section Receiving

def arriving (stream : Stream) (payload : Bytes) (taken count : Nat) : Delivery where
  data := ((handoffMessage payload).take (taken + count)).drop taken
  rights := if taken = 0 then [[stream]] else []

theorem announced_take (bound : payload.length < 2 ^ 32) {count : Nat} (headed : 4 ≤ count)
    (within : count ≤ (handoffMessage payload).length) :
    Receiving.announced ((handoffMessage payload).take count) = payload.length := by
  have long : 4 ≤ ((handoffMessage payload).take count).length := by
    rw [List.length_take, Nat.min_eq_left within]
    exact headed
  rw [← Receiving.announced_append long ((handoffMessage payload).drop count),
    List.take_append_drop, ← List.append_nil (handoffMessage payload)]
  exact Receiving.announced_handoffMessage bound []

variable {taken count : Nat} {state : Receiving}

theorem taken_append_arriving :
    (handoffMessage payload).take taken ++ (arriving stream payload taken count).data =
      (handoffMessage payload).take (taken + count) := by
  have before : (handoffMessage payload).take taken =
      ((handoffMessage payload).take (taken + count)).take taken := by
    rw [List.take_take, Nat.min_eq_left (Nat.le_add_right taken count)]
  rw [before]
  exact List.take_append_drop taken _

theorem descriptor_arriving (kept : state.tcp = if taken = 0 then none else some stream) :
    state.descriptor (arriving stream payload taken count) = some stream := by
  by_cases first : taken = 0
  · rw [if_pos first] at kept
    rw [Receiving.descriptor, arriving, kept, if_pos first]
    rfl
  · rw [if_neg first] at kept
    exact Receiving.descriptor_of_some kept _

theorem accept_arriving (bound : payload.length < 2 ^ 32)
    (holds : Receiving.Holds ((handoffMessage payload).take taken) state)
    (kept : state.tcp = if taken = 0 then none else some stream)
    (fits : Receiving.Fits ((handoffMessage payload).take taken)
      (arriving stream payload taken count))
    (within : taken + count ≤ (handoffMessage payload).length) :
    (∃ next, state.accept (arriving stream payload taken count) = .ok (.more next) ∧
      taken + count < (handoffMessage payload).length ∧
      Receiving.Holds ((handoffMessage payload).take (taken + count)) next ∧
      next.tcp = some stream) ∨
    ∃ last, state.accept (arriving stream payload taken count) = .ok (.whole last) ∧
      taken + count = (handoffMessage payload).length ∧ last.received = payload ∧
      last.tcp = some stream := by
  have answered := holds.accept fits
  have headed := fits.headed
  rw [taken_append_arriving, descriptor_arriving kept] at answered
  rw [taken_append_arriving, List.length_take, Nat.min_eq_left within] at headed
  have size : ((handoffMessage payload).take (taken + count)).length = taken + count := by
    rw [List.length_take, Nat.min_eq_left within]
  have total := Receiving.length_handoffMessage payload
  have known := announced_take bound headed within
  by_cases whole : taken + count = (handoffMessage payload).length
  · right
    obtain ⟨last, verdict, received⟩ := Receiving.verdict_whole (some stream)
      (show ((handoffMessage payload).take (taken + count)).length = 4 + Receiving.announced _ by
        rw [size, known, whole, total])
    have accepted := answered.trans verdict
    obtain ⟨next, same, more | ended⟩ := Receiving.accept_tcp accepted
    · cases more
    · cases ended
      refine ⟨last, accepted, whole, ?_, same.trans (descriptor_arriving kept)⟩
      rw [received, whole, List.take_length, Receiving.handoffMessage_eq]
      exact List.drop_left' (length_encodeU32 _)
  · left
    obtain ⟨next, verdict, held⟩ := Receiving.verdict_more (some stream)
      (show 4 ≤ ((handoffMessage payload).take (taken + count)).length by rw [size]; exact headed)
      (show ((handoffMessage payload).take (taken + count)).length < 4 + Receiving.announced _ by
        rw [size, known]
        omega)
    have accepted := answered.trans verdict
    obtain ⟨other, same, more | ended⟩ := Receiving.accept_tcp accepted
    · cases more
      exact ⟨next, accepted, by omega, held, same.trans (descriptor_arriving kept)⟩
    · cases ended

end Receiving

section Invariant

def Unacknowledged (handover : Handover α σ ρ τ) : Prop :=
  handover.toParent = [] ∧ handover.parent ≠ .returned (.ok ())

structure Acknowledged (provider : CryptoProvider σ ρ) (payload : Bytes)
    (handover : Handover α σ ρ τ) : Prop where
  decoded : ∃ state : SessionState α SessionHostKey,
    SessionState.decode provider payload = .ok ⟨state, []⟩
  told : handover.toParent = [1] ∧ handover.parent ≠ .returned (.ok ()) ∨
    handover.toParent = [] ∧ handover.parent = .returned (.ok ())

inductive ChildAt (provider : CryptoProvider σ ρ) (stream : Stream) (payload : Bytes) (taken : Nat)
    (handover : Handover α σ ρ τ) : Prop
  | receiving {state : Receiving} (is : handover.child = .receiving state)
      (holds : Receiving.Holds ((handoffMessage payload).take taken) state)
      (kept : state.tcp = if taken = 0 then none else some stream)
      (quiet : handover.Unacknowledged)
  | decoded {state : SessionState α SessionHostKey} (is : handover.child = .decoded stream state)
      (whole : taken = (handoffMessage payload).length)
      (accepted : SessionState.decode provider payload = .ok ⟨state, []⟩)
      (quiet : handover.Unacknowledged)
  | running {session : Session α σ ρ τ} (is : handover.child = .running session)
      (whole : taken = (handoffMessage payload).length)
      (resumed : resume provider stream payload = .ok session)
      (told : handover.Acknowledged provider payload)
  | exited {stop : Option (Stop Error)} (is : handover.child = .exited stop)
      (either : handover.Unacknowledged ∨ handover.Acknowledged provider payload)

/-- The socket holds what was sent and not taken, and each process is where that leaves it. -/
structure Consistent (provider : CryptoProvider σ ρ) (stream : Stream) (payload : Bytes)
    (taken : Nat) (handover : Handover α σ ρ τ) : Prop where
  order : taken ≤ handover.sent
  within : handover.sent ≤ (handoffMessage payload).length
  queued : handover.toChild = segment stream payload taken handover.sent
  unsent : handover.parent = .sending → handover.sent < (handoffMessage payload).length
  allSent : handover.parent = .awaiting ∨ handover.parent = .returned (.ok ()) →
    handover.sent = (handoffMessage payload).length
  child : handover.ChildAt provider stream payload taken

theorem consistent_start :
    Consistent provider stream payload 0 ({} : Handover α σ ρ τ) where
  order := Nat.le_refl 0
  within := Nat.zero_le _
  queued := rfl
  unsent _ := by
    rw [Receiving.length_handoffMessage]
    exact Nat.lt_of_lt_of_le (show 0 < 4 by decide) (Nat.le_add_right 4 _)
  allSent ended := by rcases ended with other | other <;> cases other
  child := .receiving rfl (.nothing none) rfl ⟨rfl, SpawnStage.noConfusion⟩

variable {handover : Handover α σ ρ τ} {taken : Nat}

omit [SocketAddr α] in
theorem Unacknowledged.of_same {other : Handover α σ ρ τ} (quiet : handover.Unacknowledged)
    (acks : other.toParent = handover.toParent)
    (parent : other.parent = .returned (.ok ()) → handover.parent = .returned (.ok ())) :
    other.Unacknowledged :=
  ⟨acks.trans quiet.1, fun returned => quiet.2 (parent returned)⟩

theorem ChildAt.of_parent {other : Handover α σ ρ τ}
    (stands : handover.ChildAt provider stream payload taken)
    (child : other.child = handover.child) (acks : other.toParent = handover.toParent)
    (waited : handover.parent ≠ .returned (.ok ())) (unreturned : other.parent ≠ .returned (.ok ())) :
    other.ChildAt provider stream payload taken := by
  have quietly (quiet : handover.Unacknowledged) : other.Unacknowledged :=
    quiet.of_same acks fun returned => absurd returned unreturned
  have aloud (told : handover.Acknowledged provider payload) :
      other.Acknowledged provider payload := by
    refine ⟨told.decoded, .inl ⟨?_, unreturned⟩⟩
    rcases told.told with ⟨waiting, _⟩ | ⟨_, returned⟩
    · exact acks.trans waiting
    · exact absurd returned waited
  cases stands with
  | receiving is holds kept quiet => exact .receiving (child.trans is) holds kept (quietly quiet)
  | decoded is whole accepted quiet =>
      exact .decoded (child.trans is) whole accepted (quietly quiet)
  | running is whole resumed told => exact .running (child.trans is) whole resumed (aloud told)
  | exited is either => exact .exited (child.trans is) (either.imp quietly aloud)

theorem Consistent.send (consistent : handover.Consistent provider stream payload taken)
    {count : Nat} (sending : handover.parent = .sending)
    (within : handover.sent + count ≤ (handoffMessage payload).length) :
    (handover.send stream payload count).Consistent provider stream payload taken := by
  have order := consistent.order
  have stage : (handover.send stream payload count).parent = .sending ∧
        handover.sent + count < (handoffMessage payload).length ∨
      (handover.send stream payload count).parent = .awaiting ∧
        handover.sent + count = (handoffMessage payload).length := by
    by_cases short : handover.sent + count < (handoffMessage payload).length
    · exact .inl ⟨if_pos short, short⟩
    · exact .inr ⟨if_neg short, by omega⟩
  refine ⟨by simp only [Handover.send]; omega, within, ?_, ?_, ?_, ?_⟩
  · simp only [Handover.send, consistent.queued]
    exact segment_append stream payload order consistent.within count
  · intro still
    rcases stage with ⟨_, short⟩ | ⟨awaiting, _⟩
    · exact short
    · cases awaiting.symm.trans still
  · intro ended
    rcases stage with ⟨sending, _⟩ | ⟨_, all⟩
    · rcases ended with other | other <;> cases sending.symm.trans other
    · exact all
  · refine consistent.child.of_parent rfl rfl ?_ ?_
    · rw [sending]
      exact SpawnStage.noConfusion
    · rcases stage with ⟨is, _⟩ | ⟨is, _⟩ <;> rw [is] <;> exact SpawnStage.noConfusion

theorem Consistent.arrives (consistent : handover.Consistent provider stream payload taken)
    {count : Nat} (progress : 1 ≤ count) (available : count ≤ handover.toChild.length) :
    taken + count ≤ handover.sent ∧
      ({ data := (handover.toChild.take count).map Cell.byte
         rights := (handover.toChild.take count).flatMap Cell.rights } : Delivery) =
        arriving stream payload taken count := by
  have within := consistent.within
  rw [consistent.queued, length_segment stream payload within] at available
  have upTo : taken + count ≤ handover.sent := by omega
  have some : ((handoffMessage payload).take (taken + count)).drop taken ≠ [] := by
    apply List.ne_nil_of_length_pos
    rw [List.length_drop, List.length_take, Nat.min_eq_left (by omega)]
    omega
  refine ⟨upTo, ?_⟩
  rw [consistent.queued, take_segment stream payload _ _ _ upTo, segment_eq, map_byte_cells,
    flatMap_rights_cells _ some]
  rfl

theorem ResumeStage.checked_decoded {last : Receiving} {closeOnExec : Except IoError Unit}
    (kept : last.tcp = some stream) :
    (∃ stop, (ResumeStage.checked provider closeOnExec last : ResumeStage α σ ρ τ) =
      .exited stop) ∨
    ∃ state, (ResumeStage.checked provider closeOnExec last : ResumeStage α σ ρ τ) =
        .decoded stream state ∧
      SessionState.decode provider last.received = .ok ⟨state, []⟩ := by
  rw [ResumeStage.checked, kept]
  dsimp only
  split
  · exact .inl ⟨_, rfl⟩
  · split
    · exact .inl ⟨_, rfl⟩
    · rename_i value next accepted
      split
      · rename_i empty
        rw [List.isEmpty_iff.mp empty] at accepted
        exact .inr ⟨value, rfl, accepted⟩
      · exact .inl ⟨_, rfl⟩

theorem Consistent.quiet (consistent : handover.Consistent provider stream payload taken)
    {state : Receiving} (receiving : handover.child = .receiving state) :
    Receiving.Holds ((handoffMessage payload).take taken) state ∧
      (state.tcp = if taken = 0 then none else some stream) ∧ handover.Unacknowledged := by
  cases consistent.child with
  | receiving is holds kept quiet =>
      cases receiving.symm.trans is
      exact ⟨holds, kept, quiet⟩
  | decoded is _ _ _ => cases receiving.symm.trans is
  | running is _ _ _ => cases receiving.symm.trans is
  | exited is _ => cases receiving.symm.trans is

theorem Consistent.of_child (consistent : handover.Consistent provider stream payload taken)
    {later : Nat} {child : ResumeStage α σ ρ τ} (upTo : later ≤ handover.sent)
    (stands : { handover with
        toChild := segment stream payload later handover.sent, child
      : Handover α σ ρ τ }.ChildAt provider stream payload later) :
    { handover with
        toChild := segment stream payload later handover.sent, child
      : Handover α σ ρ τ }.Consistent provider stream payload later :=
  ⟨upTo, consistent.within, rfl, consistent.unsent, consistent.allSent, stands⟩

theorem Consistent.deliver (bound : payload.length < 2 ^ 32)
    (consistent : handover.Consistent provider stream payload taken) {count : Nat}
    {state : Receiving} (receiving : handover.child = .receiving state) (progress : 1 ≤ count)
    (available : count ≤ handover.toChild.length) (closeOnExec : Except IoError Unit) :
    (handover.take provider closeOnExec state count).Consistent provider stream payload
      (taken + count) := by
  obtain ⟨upTo, arrived⟩ := consistent.arrives progress available
  obtain ⟨holds, kept, quiet⟩ := consistent.quiet receiving
  have left : handover.toChild.drop count =
      segment stream payload (taken + count) handover.sent := by
    rw [consistent.queued, drop_segment]
  have later : taken + count ≠ 0 := by omega
  simp only [Handover.take, arrived, left]
  by_cases fits : Receiving.Fits ((handoffMessage payload).take taken)
      (arriving stream payload taken count)
  · obtain ⟨next, accepted, _, held, descriptor⟩ | ⟨last, accepted, whole, received, descriptor⟩ :=
      accept_arriving bound holds kept fits (Nat.le_trans upTo consistent.within)
    · rw [accepted]
      exact consistent.of_child upTo
        (.receiving rfl held (descriptor.trans (if_neg later).symm) quiet)
    · rw [accepted]
      refine consistent.of_child upTo ?_
      obtain ⟨stop, exits⟩ | ⟨decoded, is, decodes⟩ :=
        @ResumeStage.checked_decoded α σ ρ τ _ provider stream last closeOnExec descriptor
      · exact .exited exits (.inl quiet)
      · rw [received] at decodes
        exact .decoded is whole decodes quiet
  · obtain ⟨error, refused⟩ := holds.accept_unfit fits
    rw [refused]
    exact consistent.of_child upTo (.exited rfl (.inl quiet))

theorem ResumeStage.adopt_running {state : SessionState α SessionHostKey}
    {adopted : Except IoError Unit}
    (accepted : SessionState.decode provider payload = .ok ⟨state, []⟩) :
    (∃ stop, (ResumeStage.adopt provider adopted stream state : ResumeStage α σ ρ τ) =
      .exited stop) ∨
    ∃ session, (ResumeStage.adopt provider adopted stream state : ResumeStage α σ ρ τ) =
        .running session ∧
      resume provider stream payload = .ok session := by
  unfold ResumeStage.adopt
  split
  · exact .inl ⟨_, rfl⟩
  · rename_i session rebuilt
    split
    · exact .inl ⟨_, rfl⟩
    · exact .inr ⟨session, rfl, resume_rebuilt accepted rebuilt⟩

theorem Consistent.acknowledge (consistent : handover.Consistent provider stream payload taken)
    {held : Stream} {state : SessionState α SessionHostKey}
    (decoded : handover.child = .decoded held state) (adopted : Except IoError Unit) :
    { handover with
        child := .adopt provider adopted held state
        toParent := handover.toParent ++ [1]
      : Handover α σ ρ τ }.Consistent provider stream payload taken := by
  refine ⟨consistent.order, consistent.within, consistent.queued, consistent.unsent,
    consistent.allSent, ?_⟩
  cases consistent.child with
  | receiving is _ _ _ => cases decoded.symm.trans is
  | running is _ _ _ => cases decoded.symm.trans is
  | exited is _ => cases decoded.symm.trans is
  | decoded is whole accepted quiet =>
      cases decoded.symm.trans is
      have told : Acknowledged provider payload { handover with
          child := .adopt provider adopted stream state
          toParent := handover.toParent ++ [1] : Handover α σ ρ τ } := by
        refine ⟨⟨state, accepted⟩, .inl ⟨?_, quiet.2⟩⟩
        change handover.toParent ++ [1] = [1]
        rw [quiet.1, List.nil_append]
      obtain ⟨stop, exits⟩ | ⟨session, is, resumed⟩ :=
        @ResumeStage.adopt_running α σ ρ τ _ provider stream payload state adopted accepted
      · exact .exited exits (.inr told)
      · exact .running is whole resumed told

theorem Consistent.exit (consistent : handover.Consistent provider stream payload taken)
    (stop : Option (Stop Error)) :
    { handover with child := .exited stop : Handover α σ ρ τ }.Consistent provider stream payload
      taken := by
  refine ⟨consistent.order, consistent.within, consistent.queued, consistent.unsent,
    consistent.allSent, .exited rfl ?_⟩
  cases consistent.child with
  | receiving _ _ _ quiet => exact .inl quiet
  | decoded _ _ _ quiet => exact .inl quiet
  | running _ _ _ told => exact .inr ⟨told.decoded, told.told⟩
  | exited _ either => exact either.imp id fun told => ⟨told.decoded, told.told⟩

theorem Consistent.return (consistent : handover.Consistent provider stream payload taken)
    (awaiting : handover.parent = .awaiting) {byte : UInt8} {rest : Bytes}
    (arrived : handover.toParent = byte :: rest) :
    { handover with parent := .returned (.ok ()), toParent := rest
      : Handover α σ ρ τ }.Consistent provider stream payload taken := by
  have whole := consistent.allSent (.inl awaiting)
  have told : handover.Acknowledged provider payload →
      Acknowledged provider payload { handover with
        parent := .returned (.ok ()), toParent := rest : Handover α σ ρ τ } := by
    intro told
    refine ⟨told.decoded, .inr ⟨?_, rfl⟩⟩
    rcases told.told with ⟨one, _⟩ | ⟨none, _⟩
    · exact (List.cons.inj (arrived.symm.trans one)).2
    · cases arrived.symm.trans none
  have loud (quiet : handover.Unacknowledged) : False := by
    cases arrived.symm.trans quiet.1
  refine ⟨consistent.order, consistent.within, consistent.queued, SpawnStage.noConfusion,
    fun _ => whole, ?_⟩
  cases consistent.child with
  | receiving _ _ _ quiet => exact (loud quiet).elim
  | decoded _ _ _ quiet => exact (loud quiet).elim
  | running is all resumed known => exact .running is all resumed (told known)
  | exited is either => exact .exited is (.inr (told (either.resolve_left loud)))

theorem Consistent.fail (consistent : handover.Consistent provider stream payload taken)
    (waited : handover.parent.inSpawn = true) (error : IoError) :
    { handover with parent := .returned (.error (.io error))
      : Handover α σ ρ τ }.Consistent provider stream payload taken := by
  refine ⟨consistent.order, consistent.within, consistent.queued, SpawnStage.noConfusion, ?_, ?_⟩
  · intro ended
    rcases ended with other | other <;> cases other
  · refine consistent.child.of_parent rfl rfl ?_ ?_
    · intro returned
      rw [returned] at waited
      cases waited
    · intro returned
      cases returned

theorem Consistent.move (bound : payload.length < 2 ^ 32)
    (consistent : handover.Consistent provider stream payload taken) {event : HandoverEvent}
    {next : Handover α σ ρ τ} (moves : handover.Moves provider stream payload event next) :
    ∃ later, next.Consistent provider stream payload later := by
  cases moves with
  | sent sending _ within => exact ⟨taken, consistent.send sending within⟩
  | @delivered count closeOnExec state receiving progress available _ =>
      exact ⟨taken + count, consistent.deliver bound receiving progress available closeOnExec⟩
  | @acknowledged adopted held state decoded _ =>
      exact ⟨taken, consistent.acknowledge decoded adopted⟩
  | exited stop _ => exact ⟨taken, consistent.exit stop⟩
  | returned awaiting arrived => exact ⟨taken, consistent.return awaiting arrived⟩
  | failed error waited _ => exact ⟨taken, consistent.fail waited error⟩

end Invariant

section Agreement

def FailsWithIo (handover : Handover α σ ρ τ) : Prop :=
  ∀ error, handover.parent = .returned (.error error) → ∃ cause, error = .io cause

theorem FailsWithIo.move {handover next : Handover α σ ρ τ} {event : HandoverEvent}
    (before : handover.FailsWithIo) (moves : handover.Moves provider stream payload event next) :
    next.FailsWithIo := by
  intro error returned
  cases moves with
  | sent _ _ _ =>
      simp only [Handover.send] at returned
      split at returned <;> cases returned
  | delivered _ _ _ _ =>
      refine before error ?_
      rw [← returned]
      unfold Handover.take
      dsimp only
      split <;> rfl
  | acknowledged _ _ => exact before error returned
  | exited _ _ => exact before error returned
  | returned _ _ => cases returned
  | failed cause _ _ =>
      cases returned
      exact ⟨cause, rfl⟩

/-- In every order of events: a session that runs is the one `resume` makes of the payload and the
descriptor; `spawn` reports success only when the session process has decoded the payload, and
then the process runs the session or has ended since; what the session process has read, what is
in the socket and what is not yet sent are the message; and `spawn` never finds out that the
session process has exited. -/
theorem handoff_agreed (bound : payload.length < 2 ^ 32) (events : List HandoverEvent)
    {handover : Handover α σ ρ τ}
    (ran : History.run (Handover.step provider stream payload) {} events = some handover) :
    (∀ session, handover.child = .running session →
      resume provider stream payload = .ok session) ∧
    (handover.parent = .returned (.ok ()) →
      (∃ state : SessionState α SessionHostKey,
        SessionState.decode provider payload = .ok ⟨state, []⟩) ∧
      ((∃ session, handover.child = .running session) ∨ ∃ stop, handover.child = .exited stop)) ∧
    (∀ state, handover.child = .receiving state → ∃ taken, Receiving.Holds taken state ∧
      taken ++ handover.toChild.map Cell.byte ++ (handoffMessage payload).drop handover.sent =
        handoffMessage payload) ∧
    ∀ error, handover.parent = .returned (.error error) → ∃ cause, error = .io cause := by
  have kept : (∃ taken, handover.Consistent provider stream payload taken) ∧
      handover.FailsWithIo := by
    refine @History.run_invariant _ _ _ {} (fun _ (handover : Handover α σ ρ τ) =>
      (∃ taken, handover.Consistent provider stream payload taken) ∧ handover.FailsWithIo)
      ⟨⟨0, consistent_start⟩, fun error returned => by cases returned⟩ ?_ _ _ ran
    rintro _ before event next _ ⟨⟨taken, consistent⟩, fails⟩ stepped
    have moves := step_moves stepped
    exact ⟨consistent.move bound moves, fails.move moves⟩
  obtain ⟨⟨taken, consistent⟩, fails⟩ := kept
  refine ⟨?_, ?_, ?_, fails⟩
  · intro session runs
    cases consistent.child with
    | receiving is _ _ _ => cases runs.symm.trans is
    | decoded is _ _ _ => cases runs.symm.trans is
    | exited is _ => cases runs.symm.trans is
    | running is _ resumed _ =>
        cases runs.symm.trans is
        exact resumed
  · intro returned
    cases consistent.child with
    | receiving _ _ _ quiet => exact absurd returned quiet.2
    | decoded _ _ _ quiet => exact absurd returned quiet.2
    | running is _ _ told => exact ⟨told.decoded, .inl ⟨_, is⟩⟩
    | exited is either =>
        have told := either.resolve_left fun quiet => quiet.2 returned
        exact ⟨told.decoded, .inr ⟨_, is⟩⟩
  · intro state receiving
    obtain ⟨holds, _, _⟩ := consistent.quiet receiving
    refine ⟨_, holds, ?_⟩
    have before : (handoffMessage payload).take taken =
        ((handoffMessage payload).take handover.sent).take taken := by
      rw [List.take_take, Nat.min_eq_left consistent.order]
    rw [consistent.queued, segment_eq, map_byte_cells, before, List.take_append_drop,
      List.take_append_drop]

end Agreement

section Completion

/-- The kernel serves both processes: no call fails, nobody is killed, and the bytes of the length
are not torn apart. -/
def Smooth (handover : Handover α σ ρ τ) : HandoverEvent → Prop
  | .sent count => handover.sent = 0 → 4 ≤ count
  | .delivered count closeOnExec =>
    closeOnExec = .ok () ∧ (handover.child = .receiving {} → 4 ≤ count)
  | .acknowledged sent adopted => sent = .ok () ∧ adopted = .ok ()
  | .ackDelivered => True
  | _ => False

def Done (handover : Handover α σ ρ τ) (session : Session α σ ρ τ) : Prop :=
  handover.parent = .returned (.ok ()) ∧ handover.child = .running session

def ResumeStage.pending : ResumeStage α σ ρ τ → Nat
  | .receiving _ | .decoded _ _ => 1
  | _ => 0

def remaining (payload : Bytes) (handover : Handover α σ ρ τ) : Nat :=
  2 * ((handoffMessage payload).length - handover.sent) + handover.toChild.length +
    ResumeStage.pending handover.child + handover.parent.inSpawn.toNat

variable {handover next : Handover α σ ρ τ} {taken : Nat} {event : HandoverEvent}

omit [SocketAddr α] in
theorem Smooth.not_rough (smooth : handover.Smooth event) : HandoverEvent.rough event = false := by
  cases event with
  | sent count => rfl
  | delivered count closeOnExec => rfl
  | acknowledged sent adopted =>
      rw [smooth.1]
      rfl
  | ackDelivered => rfl
  | _ => exact smooth.elim

structure Healthy (handover : Handover α σ ρ τ) : Prop where
  parent : ∀ error, handover.parent ≠ .returned (.error error)
  child : ∀ stop, handover.child ≠ .exited stop
  started : handover.sent = 0 ∨ 4 ≤ handover.sent

theorem ResumeStage.checked_smooth {last : Receiving} {state : SessionState α SessionHostKey}
    (kept : last.tcp = some stream) (received : last.received = payload)
    (accepted : SessionState.decode provider payload = .ok ⟨state, []⟩) :
    (ResumeStage.checked provider (.ok ()) last : ResumeStage α σ ρ τ) =
      .decoded stream state := by
  rw [ResumeStage.checked, kept]
  dsimp only
  rw [received, accepted]
  rfl

theorem Consistent.fits (consistent : handover.Consistent provider stream payload taken)
    {count : Nat} {state : Receiving} (receiving : handover.child = .receiving state)
    (progress : 1 ≤ count) (small : count ≤ Delivery.chunkLen)
    (within : taken + count ≤ (handoffMessage payload).length)
    (headed : handover.child = .receiving {} → 4 ≤ count) :
    Receiving.Fits ((handoffMessage payload).take taken) (arriving stream payload taken count) := by
  have size : (arriving stream payload taken count).data.length = count := by
    rw [arriving, List.length_drop, List.length_take, Nat.min_eq_left within]
    omega
  obtain ⟨holds, kept, _⟩ := consistent.quiet receiving
  refine ⟨by rw [size]; exact small, List.ne_nil_of_length_pos (by rw [size]; exact progress), ?_⟩
  rw [List.length_append, size]
  generalize begun : (handoffMessage payload).take taken = bytes at holds ⊢
  cases holds with
  | nothing tcp =>
      have first : taken = 0 := by
        have length := congrArg List.length begun
        rw [List.length_take, Nat.min_eq_left (by omega)] at length
        exact length
      rw [if_pos first] at kept
      dsimp only at kept
      rw [kept] at receiving
      have enough := headed receiving
      omega
  | part tcp long short => omega

theorem Consistent.deliver_smooth (bound : payload.length < 2 ^ 32)
    (consistent : handover.Consistent provider stream payload taken) {count : Nat}
    {state : Receiving} {decoded : SessionState α SessionHostKey}
    (accepted : SessionState.decode provider payload = .ok ⟨decoded, []⟩)
    (receiving : handover.child = .receiving state) (progress : 1 ≤ count)
    (available : count ≤ handover.toChild.length) (small : count ≤ Delivery.chunkLen)
    (headed : handover.child = .receiving {} → 4 ≤ count) :
    ∃ child, handover.take provider (.ok ()) state count =
        { handover with toChild := handover.toChild.drop count, child } ∧
      ResumeStage.pending child = 1 ∧ ∀ stop, child ≠ .exited stop := by
  obtain ⟨upTo, arrived⟩ := consistent.arrives progress available
  obtain ⟨holds, kept, _⟩ := consistent.quiet receiving
  have within := Nat.le_trans upTo consistent.within
  have fits := consistent.fits receiving progress small within headed
  simp only [Handover.take, arrived]
  obtain ⟨next, answered, _, _, _⟩ | ⟨last, answered, _, received, descriptor⟩ :=
    accept_arriving bound holds kept fits within
  · rw [answered]
    exact ⟨.receiving next, rfl, rfl, fun stop is => by cases is⟩
  · rw [answered]
    refine ⟨.decoded stream decoded, ?_, rfl, fun stop is => by cases is⟩
    dsimp only
    rw [ResumeStage.checked_smooth descriptor received accepted]

theorem Healthy.move (bound : payload.length < 2 ^ 32) {session : Session α σ ρ τ}
    {decoded : SessionState α SessionHostKey}
    (accepted : SessionState.decode provider payload = .ok ⟨decoded, []⟩)
    (rebuilt : rebuild provider stream decoded = .ok session)
    (consistent : handover.Consistent provider stream payload taken) (healthy : handover.Healthy)
    (smooth : handover.Smooth event) (moves : handover.Moves provider stream payload event next) :
    next.Healthy ∧ next.remaining payload < handover.remaining payload := by
  cases moves with
  | @sent count sending progress within =>
      have parent : (handover.send stream payload count).parent = .sending ∨
          (handover.send stream payload count).parent = .awaiting := by
        simp only [Handover.send]
        split
        · exact .inl rfl
        · exact .inr rfl
      have inSpawn : (handover.send stream payload count).parent.inSpawn = true := by
        rcases parent with is | is <;> rw [is] <;> rfl
      have before : handover.parent.inSpawn = true := by
        rw [sending]
        rfl
      have queued : (handover.send stream payload count).toChild.length =
          handover.toChild.length + count := by
        simp only [Handover.send, List.length_append, length_cells, List.length_take,
          List.length_drop]
        omega
      refine ⟨⟨?_, healthy.child, ?_⟩, ?_⟩
      · intro error returned
        rcases parent with is | is <;> cases is.symm.trans returned
      · have started := healthy.started
        have first : handover.sent = 0 → 4 ≤ count := smooth
        simp only [Handover.send]
        omega
      · rw [remaining, remaining, queued, inSpawn, before]
        simp only [Handover.send]
        omega
  | @delivered count closeOnExec state receiving progress available small =>
      obtain ⟨rfl, headed⟩ := smooth
      obtain ⟨child, taken, pending, alive⟩ := consistent.deliver_smooth bound accepted receiving
        progress available small headed
      rw [taken]
      refine ⟨⟨healthy.parent, alive, healthy.started⟩, ?_⟩
      rw [remaining, remaining, pending, receiving, List.length_drop]
      simp only [ResumeStage.pending]
      omega
  | @acknowledged adopted held state holds waited =>
      obtain ⟨_, rfl⟩ := smooth
      cases consistent.child with
      | receiving is _ _ _ => cases holds.symm.trans is
      | running is _ _ _ => cases holds.symm.trans is
      | exited is _ => cases holds.symm.trans is
      | decoded is _ same _ =>
          cases holds.symm.trans is
          cases accepted.symm.trans same
          have runs : (ResumeStage.adopt provider (.ok ()) stream decoded : ResumeStage α σ ρ τ) =
              .running session := by
            rw [ResumeStage.adopt, rebuilt]
          refine ⟨⟨healthy.parent, ?_, healthy.started⟩, ?_⟩
          · intro stop exits
            cases runs.symm.trans exits
          · rw [remaining, remaining, runs, is]
            simp only [ResumeStage.pending]
            omega
  | exited stop rough => cases rough.symm.trans smooth.not_rough
  | returned awaiting arrived =>
      refine ⟨⟨?_, healthy.child, healthy.started⟩, ?_⟩
      · intro error is
        cases is
      rw [remaining, remaining, awaiting]
      simp [SpawnStage.inSpawn]
  | failed error waited rough => cases rough.symm.trans smooth.not_rough

theorem Consistent.short (bound : payload.length < 2 ^ 32)
    (consistent : handover.Consistent provider stream payload taken) {state : Receiving}
    (receiving : handover.child = .receiving state) :
    taken < (handoffMessage payload).length := by
  have upTo := Nat.le_trans consistent.order consistent.within
  have total := Receiving.length_handoffMessage payload
  obtain ⟨holds, _, _⟩ := consistent.quiet receiving
  have size : ((handoffMessage payload).take taken).length = taken := by
    rw [List.length_take, Nat.min_eq_left upTo]
  by_cases headed : 4 ≤ taken
  · have known := announced_take bound headed upTo
    generalize (handoffMessage payload).take taken = bytes at holds size known
    cases holds with
    | nothing tcp =>
        rw [List.length_nil] at size
        omega
    | part tcp _ short => omega
  · omega

theorem Healthy.onward (bound : payload.length < 2 ^ 32) {session : Session α σ ρ τ}
    (resumes : resume provider stream payload = .ok session)
    (consistent : handover.Consistent provider stream payload taken) (healthy : handover.Healthy)
    (unfinished : ¬ handover.Done session) :
    ∃ event next, handover.Smooth event ∧
      handover.step provider stream payload event = some next := by
  have total := Receiving.length_handoffMessage payload
  have order := consistent.order
  have within := consistent.within
  -- A parent that has not returned is one of two; the socket says which of them.
  have waiting (unreturned : handover.parent ≠ .returned (.ok ())) :
      handover.parent = .sending ∨
        handover.parent = .awaiting ∧ handover.sent = (handoffMessage payload).length := by
    cases stage : handover.parent with
    | sending => exact .inl rfl
    | awaiting => exact .inr ⟨rfl, consistent.allSent (.inl stage)⟩
    | returned outcome =>
        cases outcome with
        | ok value => exact absurd stage unreturned
        | error error => exact absurd stage (healthy.parent error)
  cases consistent.child with
  | @receiving state is holds kept quiet =>
      have missing := consistent.short bound is
      have queued := congrArg List.length consistent.queued
      rw [length_segment stream payload within] at queued
      by_cases empty : handover.toChild.length = 0
      · have sending : handover.parent = .sending := by
          rcases waiting quiet.2 with sending | ⟨_, all⟩
          · exact sending
          · omega
        have left := consistent.unsent sending
        obtain ⟨count, rest⟩ : ∃ count, handover.sent + count = (handoffMessage payload).length :=
          ⟨_, Nat.add_sub_cancel' within⟩
        refine ⟨.sent count, handover.send stream payload count, ?_, ?_⟩
        · intro none
          omega
        · rw [step, sending]
          exact if_pos ⟨by omega, by omega⟩
      · have room : 4 ≤ Delivery.chunkLen := by decide
        obtain ⟨count, most⟩ : ∃ count, count = min handover.toChild.length Delivery.chunkLen :=
          ⟨_, rfl⟩
        refine ⟨.delivered count (.ok ()), handover.take provider (.ok ()) state count,
          ⟨rfl, ?_⟩, ?_⟩
        · intro fresh
          have first : taken = 0 := by
            cases is.symm.trans fresh
            by_contra later
            rw [if_neg later] at kept
            cases kept
          have started := healthy.started
          omega
        · rw [step, is]
          exact if_pos ⟨by omega, by omega, by omega⟩
  | @decoded state is whole accepted quiet =>
      have inSpawn : handover.parent.inSpawn = true := by
        rcases waiting quiet.2 with stage | ⟨stage, _⟩ <;> rw [stage] <;> rfl
      refine ⟨.acknowledged (.ok ()) (.ok ()), { handover with
          child := .adopt provider (.ok ()) stream state
          toParent := handover.toParent ++ [1] }, ⟨rfl, rfl⟩, ?_⟩
      rw [step, is]
      exact if_pos inSpawn
  | @running other is whole resumed told =>
      cases resumed.symm.trans resumes
      rcases told.told with ⟨acked, unreturned⟩ | ⟨_, returned⟩
      · rcases waiting unreturned with sending | ⟨awaiting, _⟩
        · have left := consistent.unsent sending
          omega
        · refine ⟨.ackDelivered, { handover with parent := .returned (.ok ()), toParent := [] },
            trivial, ?_⟩
          rw [step, awaiting, acked]
      · exact absurd ⟨returned, is⟩ unfinished
  | exited is either => exact absurd is (healthy.child _)

structure Underway (provider : CryptoProvider σ ρ) (stream : Stream) (payload : Bytes)
    (handover : Handover α σ ρ τ) : Prop where
  consistent : ∃ taken, handover.Consistent provider stream payload taken
  healthy : handover.Healthy

theorem underway_start : Underway provider stream payload ({} : Handover α σ ρ τ) := by
  refine ⟨⟨0, consistent_start⟩, ?_, ?_, .inl rfl⟩
  · intro error is
    cases is
  · intro stop is
    cases is

section Served

variable {session : Session α σ ρ τ} (bound : payload.length < 2 ^ 32)
  (resumes : resume provider stream payload = .ok session)
include bound resumes

theorem underway_decreases :
    History.Decreases (Handover.step (α := α) (τ := τ) provider stream payload)
      (Underway provider stream payload) Smooth (remaining payload) := by
  obtain ⟨decoded, accepted, rebuilt⟩ := resume_decoded resumes
  rintro before event next ⟨⟨taken, consistent⟩, healthy⟩ good stepped
  have moves := step_moves stepped
  obtain ⟨well, less⟩ := healthy.move bound accepted rebuilt consistent good moves
  exact ⟨⟨consistent.move bound moves, well⟩, less⟩

theorem Underway.onward (underway : handover.Underway provider stream payload)
    (unfinished : ¬ handover.Done session) :
    ∃ event next, handover.Smooth event ∧
      handover.step provider stream payload event = some next := by
  obtain ⟨taken, consistent⟩ := underway.consistent
  exact underway.healthy.onward bound resumes consistent unfinished

theorem Underway.exists_done (underway : handover.Underway provider stream payload) :
    ∃ events last,
      History.run (Handover.step provider stream payload) handover events = some last ∧
      History.Throughout (Handover.step provider stream payload) handover events Smooth ∧
      last.Done session :=
  History.exists_run_final (underway_decreases bound resumes)
    (fun underway unfinished => underway.onward bound resumes unfinished) underway

/-- The two processes go on as long as the kernel serves them, and no longer than the message
lasts: wherever they stand, they can be brought to where `spawn` has returned and the session
process runs what `resume` makes of the payload. -/
theorem handoff_completes (events : List HandoverEvent)
    (ran : History.run (Handover.step provider stream payload) {} events = some handover)
    (smooth : History.Throughout (Handover.step provider stream payload) ({} : Handover α σ ρ τ)
      events Smooth) :
    events.length ≤ 2 * (handoffMessage payload).length + 2 ∧
    (handover.Done session ∨ ∃ event next, handover.Smooth event ∧
      handover.step provider stream payload event = some next) ∧
    ∃ more last, History.run (Handover.step provider stream payload) handover more = some last ∧
      last.Done session := by
  obtain ⟨underway, count⟩ := History.length_add_measure_le (underway_decreases bound resumes)
    underway_start smooth ran
  refine ⟨?_, ?_, ?_⟩
  · have start : remaining payload ({} : Handover α σ ρ τ) =
        2 * (handoffMessage payload).length + 2 := rfl
    omega
  · by_cases done : handover.Done session
    · exact .inl done
    · exact .inr (underway.onward bound resumes done)
  · obtain ⟨more, last, went, _, done⟩ := underway.exists_done bound resumes
    exact ⟨more, last, went, done⟩

end Served

end Completion

section Plain

def plainStream : Stream := { reads := [], writes := [], flushes := [] }

theorem plainState_resumes : ∃ session : Session String PlainSealer PlainOpener Unit,
    resume plainProvider plainStream plainState.encode = .ok session := by
  have accepted := @SessionState.decode_encode _ _ _ _ plainState plainProvider _
    plainState_encodable rfl rfl []
  rw [List.append_nil] at accepted
  exact ⟨_, resume_rebuilt accepted rfl⟩

set_option maxRecDepth 4000 in
theorem plainState_bound : plainState.encode.length < 2 ^ 32 := by decide

theorem handoff_agreed_plain :
    ∃ (events : List HandoverEvent) (handover : Handover String PlainSealer PlainOpener Unit)
      (session : Session String PlainSealer PlainOpener Unit),
      History.run (Handover.step plainProvider plainStream plainState.encode) {} events =
        some handover ∧
      handover.Done session ∧ resume plainProvider plainStream plainState.encode = .ok session := by
  obtain ⟨session, resumes⟩ := plainState_resumes
  obtain ⟨events, handover, ran, _, done⟩ :=
    underway_start.exists_done plainState_bound resumes
  exact ⟨events, handover, session, ran, done,
    (handoff_agreed plainState_bound events ran).1 session done.2⟩

theorem handoff_completes_plain :
    ∃ (events : List HandoverEvent) (handover : Handover String PlainSealer PlainOpener Unit)
      (session : Session String PlainSealer PlainOpener Unit),
      History.run (Handover.step plainProvider plainStream plainState.encode) {} events =
        some handover ∧
      handover.Done session ∧
        events.length ≤ 2 * (handoffMessage plainState.encode).length + 2 := by
  obtain ⟨session, resumes⟩ := plainState_resumes
  obtain ⟨events, handover, ran, smooth, done⟩ :=
    underway_start.exists_done plainState_bound resumes
  exact ⟨events, handover, session, ran, done,
    (handoff_completes plainState_bound resumes events ran smooth).1⟩

end Plain

end Handover

end Oxish
