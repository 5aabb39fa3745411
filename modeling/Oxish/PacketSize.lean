import Oxish.ChannelActs
import Oxish.SendWindow

/-!
The maximum packet size a client gives when it opens a channel. Terminal output keeps to it by the
limit of the read. The banner is held against the send window only, so it keeps to the packet size
exactly as long as no request shows a banner that fits the window and not the packet.
-/

namespace Oxish

open Stateful

variable {σ τ : Type}

namespace Event

def packetSize? : Event τ → Option UInt32
  | .opened _ open_ => some open_.maximumPacketSize
  | _ => none

def bannerLen : Event τ → Nat
  | .sent _ (.banner data) => data.data.length
  | _ => 0

def outputLen : Event τ → Nat
  | .sent _ (.data data) => data.data.length
  | _ => 0

theorem spend_le_iff (event : Event τ) (size : Nat) :
    event.spend ≤ size ↔ event.bannerLen ≤ size ∧ event.outputLen ≤ size := by
  unfold spend bannerLen outputLen
  split <;> simp_all

theorem packetSize?_of_opens {event : Event τ} (unopened : event.opens = false) :
    event.packetSize? = none := by
  cases event with
  | opened => cases unopened
  | _ => rfl

end Event

section Lengths

def sizes (past : List (Event τ)) : List UInt32 := past.filterMap Event.packetSize?

def Fits (len : Event τ → Nat) (past : List (Event τ)) : Prop :=
  ∀ size ∈ sizes past, ∀ event ∈ past, len event ≤ size.toNat

structure Sized (len : Event τ → Nat) (entry : Option (Channel τ)) (past : List (Event τ)) :
    Prop where
  known : ∀ channel, entry = some channel → sizes past = [channel.maximumPacketSize]
  fits : Fits len past

variable {len : Event τ → Nat} {localId : UInt32} {channel : Channel τ}
  {entry : Option (Channel τ)} {past events : List (Event τ)}

theorem fits_spend_iff (past : List (Event τ)) :
    Fits Event.spend past ↔ Fits Event.bannerLen past ∧ Fits Event.outputLen past := by
  constructor
  · intro fits
    refine ⟨fun size given event member => ?_, fun size given event member => ?_⟩
    · exact ((event.spend_le_iff size.toNat).mp (fits size given event member)).1
    · exact ((event.spend_le_iff size.toNat).mp (fits size given event member)).2
  · rintro ⟨banners, outputs⟩ size given event member
    rw [event.spend_le_iff]
    exact ⟨banners size given event member, outputs size given event member⟩

theorem sizes_append_own (own : Own localId events) (past : List (Event τ)) :
    sizes (past ++ events) = sizes past := by
  have unopened : sizes events = [] := by
    rw [sizes, List.filterMap_eq_nil_iff]
    intro event member
    exact Event.packetSize?_of_opens (own event member).2
  rw [sizes, List.filterMap_append]
  change sizes past ++ sizes events = _
  rw [unopened, List.append_nil]

theorem Sized.append_iff (sized : Sized len (some channel) past) (own : Own localId events) :
    Fits len (past ++ events) ↔
      ∀ event ∈ events, len event ≤ channel.maximumPacketSize.toNat := by
  have given := sized.known channel rfl
  unfold Fits
  rw [sizes_append_own own, given]
  constructor
  · intro fits event member
    exact fits _ List.mem_cons_self event (List.mem_append_right past member)
  · intro small size given event member
    rw [List.mem_singleton.mp given]
    rcases List.mem_append.mp member with before | added
    · refine sized.fits _ ?_ event before
      rw [sized.known channel rfl]
      exact List.mem_cons_self
    · exact small event added

theorem Sized.append (sized : Sized len (some channel) past) (own : Own localId events)
    (same : ∀ next, entry = some next → next.maximumPacketSize = channel.maximumPacketSize)
    (small : ∀ event ∈ events, len event ≤ channel.maximumPacketSize.toNat) :
    Sized len entry (past ++ events) := by
  refine ⟨?_, (sized.append_iff own).mpr small⟩
  intro next entered
  rw [sizes_append_own own, sized.known channel rfl, same next entered]

theorem sized_begins (len : Event τ → Nat) (opening : ∀ localId open_, len (.opened localId open_) = 0)
    (confirming : ∀ localId confirmation, len (.sent localId (.openConfirmation confirmation)) = 0) :
    Begins fun _ entry past => Sized len entry past where
  vacant localId := ⟨nofun, nofun⟩
  opened localId open_ := by
    refine ⟨?_, ?_⟩
    · rintro channel ⟨⟩
      rfl
    · intro size given event member
      rcases List.mem_pair.mp member with rfl | rfl
      · rw [opening]
        omega
      · rw [confirming]
        omega

end Lengths

section Output

variable {host : TerminalHost τ} {shell : Channel τ → Prop} {localId : UInt32}
  {channel next : Channel τ} {past events : List (Event τ)}

theorem ChannelMove.maximumPacketSize
    (moved : ChannelMove host shell localId channel events next) :
    next.maximumPacketSize = channel.maximumPacketSize := by
  cases moved <;> rfl

theorem ChannelMove.output_le (bounded : host.Bounded)
    (moved : ChannelMove host shell localId channel events next) :
    ∀ event ∈ events, event.outputLen ≤ channel.maximumPacketSize.toNat := by
  cases moved with
  | outputSent running limited polled inside =>
    subst limited
    rename_i terminal outcome
    have count := (bounded.count_le polled).1
    intro event member
    rcases List.mem_pair.mp member with rfl | rfl
    · exact Nat.zero_le _
    · simp only [Event.outputLen, List.length_take]
      omega
  | _ => simp [Event.outputLen]

theorem Begins.moves {Inv : UInt32 → Option (Channel τ) → List (Event τ) → Prop}
    {view last : View τ} (begins : Begins Inv)
    (changed : ∀ {localId channel events next past},
      ChannelMove host shell localId channel events next → Inv localId (some channel) past →
        Inv localId (some next) (past ++ events))
    (removed : ∀ {localId channel past}, Inv localId (some channel) past →
      Inv localId none (past ++ [.removed localId]))
    (moves : Moves host shell view last) (holds : view.Every Inv) : last.Every Inv := by
  induction moves with
  | refl => exact holds
  | tail _ moved ih =>
    cases moved with
    | refused failure =>
      intro localId
      rw [eventsOf_other (by simp [Event.localId])]
      exact ih localId
    | opened open_ vacant =>
      refine ih.change (by simp [Event.localId]) ?_
      rw [eventsOf_opened]
      exact begins.opened _ _
    | changed live moved => exact ih.act live moved.own (changed moved)
    | removed live removable =>
      exact ih.act live (by simp [Own, Event.localId, Event.opens]) removed

variable [SealingKey σ] {mux stepped : Mux σ τ} {step : SessionStep σ τ}

def Mux.Sized (len : Event τ → Nat) (mux : Mux σ τ) : Prop :=
  mux.view.Every fun _ entry past => Oxish.Sized len entry past

theorem outputs_sized_step (bounded : step.host.Bounded)
    (sized : mux.Sized Event.outputLen) (done : mux.step step = some stepped) :
    stepped.Sized Event.outputLen := by
  have begins := sized_begins (Event.outputLen : Event τ → Nat) (fun _ _ => rfl) fun _ _ => rfl
  refine begins.moves ?_ ?_ (step_moves (fun _ _ _ _ => trivial) done) sized
  · intro localId channel events next past moved held
    refine held.append moved.own ?_ (moved.output_le bounded)
    rintro _ ⟨⟩
    exact moved.maximumPacketSize
  · intro localId channel past held
    have own : Own localId [(.removed localId : Event τ)] := by
      simp [Own, Event.localId, Event.opens]
    refine held.append own ?_ (by simp [Event.outputLen])
    intro next entered
    cases entered

end Output

section Banner

variable {host : TerminalHost τ} {session : SessionView} {localId : UInt32}
  {channel next : Channel τ} {past events : List (Event τ)} {entry : Option (Channel τ)}

theorem Channel.dueBanner_some {text : Bytes} (short : text.length < 2 ^ 32) :
    channel.dueBanner (some text) =
      if text.length ≤ channel.sendWindow.toNat then
        some (text, channel.sendWindow - lenAsU32 text)
      else none := by
  have length := toNat_lenAsU32 short
  simp only [Channel.dueBanner, Option.bind_some, checkedSub, UInt32.le_iff_toNat_le, length]
  by_cases room : text.length ≤ channel.sendWindow.toNat
  · rw [if_pos room, if_pos room, Option.map_some]
  · rw [if_neg room, if_neg room, Option.map_none]

theorem Channel.finishEvents_le_iff (channel : Channel τ) (localId : UInt32) (wantReply : Bool)
    (banner : Option Bytes) (short : ∀ text, banner = some text → text.length < 2 ^ 32)
    (size : Nat) :
    (∀ event ∈ channel.finishEvents localId wantReply banner, event.bannerLen ≤ size) ↔
      ∀ text, banner = some text → text.length ≤ channel.sendWindow.toNat →
        text.length ≤ size := by
  have replies : ∀ event ∈ (if wantReply then
      [(.sent localId (.success channel.success) : Event τ)] else []), event.bannerLen ≤ size := by
    split <;> simp [Event.bannerLen]
  unfold Channel.finishEvents
  rw [List.forall_mem_append]
  constructor
  · rintro ⟨_, shown⟩ text rfl room
    rw [Channel.dueBanner_some (short text rfl), if_pos room] at shown
    exact shown _ (List.mem_singleton_self _)
  · intro bound
    refine ⟨replies, ?_⟩
    cases banner with
    | none => simp [Channel.dueBanner]
    | some text =>
      rw [Channel.dueBanner_some (short text rfl)]
      by_cases room : text.length ≤ channel.sendWindow.toNat
      · rw [if_pos room]
        intro event member
        rw [List.mem_singleton.mp member]
        exact bound text rfl room
      · rw [if_neg room]
        simp

theorem Carried.kept {options : KeyOptions} {type : ChannelRequestType}
    (done : Carried host options localId channel type events next) :
    next.sendWindow = channel.sendWindow ∧ next.maximumPacketSize = channel.maximumPacketSize ∧
      ∀ event ∈ events, event.bannerLen = 0 := by
  cases done <;> simp [Event.bannerLen]

theorem banner_eq_none {request : ChannelRequest} {clientIdentity : Bytes} {postQuantumKx : Bool}
    (noPty : ∀ ptyReq, request.type ≠ .ptyReq ptyReq) :
    banner request clientIdentity postQuantumKx = none := by
  unfold banner
  split
  · rfl
  · split
    · rename_i ptyReq isPty
      exact absurd isPty (noPty ptyReq)
    · rfl

theorem RequestAct.banner_le_iff {request : ChannelRequest}
    (act : RequestAct host session request channel events next) (size : Nat) :
    (∀ event ∈ events, event.bannerLen ≤ size) ↔
      ∀ text, banner request session.clientIdentity session.postQuantumKx = some text →
        text.length ≤ channel.sendWindow.toNat → text.length ≤ size := by
  cases act with
  | @carried events next done =>
    obtain ⟨window, _, silent⟩ := done.kept
    have early : ∀ event ∈ events, event.bannerLen ≤ size := by
      intro event member
      rw [silent event member]
      exact Nat.zero_le size
    have later := next.finishEvents_le_iff request.recipientChannel request.wantReply
      (banner request session.clientIdentity session.postQuantumKx) (fun _ => banner_short) size
    rw [window] at later
    rw [List.forall_mem_append, later]
    exact and_iff_right early
  | refused noPty noShell =>
    rw [banner_eq_none noPty]
    split <;> simp [Event.bannerLen]

theorem RequestAct.maximumPacketSize {request : ChannelRequest}
    (act : RequestAct host session request channel events next) :
    next.maximumPacketSize = channel.maximumPacketSize := by
  cases act with
  | carried done =>
    unfold Channel.finished
    split <;> exact done.kept.2.1
  | refused => rfl

theorem MessageAct.silent {message : IncomingChannelMessage}
    (act : MessageAct host session localId channel message events entry)
    (other : ∀ request, message ≠ .request request) :
    ∀ event ∈ events, event.bannerLen = 0 := by
  intro event member
  cases act with
  | request same act => exact absurd rfl (other _)
  | data same fits =>
    rcases List.mem_cons.mp member with rfl | added
    · rfl
    · obtain ⟨adjust, rfl⟩ := Channel.mem_topUpEvents added
      rfl
  | adjusted =>
    rw [List.mem_singleton.mp member]
    rfl
  | eof => cases member
  | killed =>
    rcases List.mem_append.mp member with closed | killed
    · rw [Channel.mem_closeEvents closed]
      rfl
    · rw [List.mem_singleton.mp killed]
      rfl
  | awaited =>
    rw [Channel.mem_closeEvents member]
    rfl
  | removed =>
    rcases List.mem_append.mp member with closed | removed
    · rw [Channel.mem_closeEvents closed]
      rfl
    · rw [List.mem_singleton.mp removed]
      rfl

theorem MessageAct.banner_le {message : IncomingChannelMessage}
    (act : MessageAct host session localId channel message events entry) {size : Nat}
    (fits : ∀ request text, message = .request request →
      banner request session.clientIdentity session.postQuantumKx = some text →
      text.length ≤ channel.sendWindow.toNat → text.length ≤ size) :
    ∀ event ∈ events, event.bannerLen ≤ size := by
  by_cases asked : ∃ request, message = .request request
  · obtain ⟨request, rfl⟩ := asked
    cases act with
    | request same act => exact (act.banner_le_iff size).mpr fun text => fits request text rfl
  · intro event member
    rw [act.silent (fun request isRequest => asked ⟨request, isRequest⟩) event member]
    exact Nat.zero_le size

theorem MessageAct.maximumPacketSize {message : IncomingChannelMessage}
    (act : MessageAct host session localId channel message events entry) :
    ∀ next, entry = some next → next.maximumPacketSize = channel.maximumPacketSize := by
  rintro next entered
  cases act with
  | request same act =>
    cases entered
    exact act.maximumPacketSize
  | data same fits =>
    cases entered
    unfold Channel.toppedUp
    split <;> rfl
  | adjusted | eof | killed | awaited =>
    cases entered
    rfl
  | removed => cases entered

theorem PollAct.maximumPacketSize (act : PollAct host localId channel events entry) :
    ∀ next, entry = some next → next.maximumPacketSize = channel.maximumPacketSize := by
  rintro next entered
  obtain ⟨_, visit⟩ := act
  cases visit <;> cases entered <;> rfl

theorem PollAct.silent (act : PollAct host localId channel events entry) :
    ∀ event ∈ events, event.bannerLen = 0 := by
  obtain ⟨_, visit⟩ := act
  cases visit <;> simp [Event.bannerLen]

end Banner

section Runs

variable [SealingKey σ] {mux next : Mux σ τ} {step : SessionStep σ τ}

/-- A banner that fits the window of its channel fits the packet size as well. -/
def Mux.BannerFits (mux : Mux σ τ) (step : SessionStep σ τ) : Prop :=
  ∀ session request channel text, step.Delivers session (.request request) →
    mux.view.get request.recipientChannel = some channel →
    banner request session.clientIdentity session.postQuantumKx = some text →
    text.length ≤ channel.sendWindow.toNat → text.length ≤ channel.maximumPacketSize.toNat

theorem bannerFits_of_sized (sized : mux.Sized Event.bannerLen) (stepped : mux.step step = some next)
    (later : next.Sized Event.bannerLen) : mux.BannerFits step := by
  intro session request channel text delivers live shown room
  have acted := step_delivers stepped delivers
  generalize viewed : next.view = after at acted
  cases acted with
  | @acted _ localId _ other events entry found act =>
    cases act with
    | @request _ events entered same act =>
      subst same
      cases live.symm.trans found
      have fits := (later request.recipientChannel).fits
      rw [viewed] at fits
      change Fits _ (eventsOf _ (mux.view.log ++ events)) at fits
      rw [eventsOf_own act.own] at fits
      have here := sized request.recipientChannel
      rw [live] at here
      have small := (here.append_iff act.own).mp fits
      exact (act.banner_le_iff _).mp small text shown room

theorem sized_of_bannerFits (sized : mux.Sized Event.bannerLen) (stepped : mux.step step = some next)
    (fits : mux.BannerFits step) : next.Sized Event.bannerLen := by
  have begins := sized_begins (Event.bannerLen : Event τ → Nat) (fun _ _ => rfl) fun _ _ => rfl
  rcases step_acts stepped with ⟨session, message, delivers, acted⟩ | ⟨_, polled⟩
  · refine begins.message ?_ acted sized
    intro localId channel events entry live act held
    refine held.append act.own act.maximumPacketSize (act.banner_le ?_)
    rintro request text rfl shown room
    cases act.addressed
    exact fits session request channel text delivers live shown room
  · refine View.Every.polls ?_ polled sized
    intro localId channel past events entry act held
    refine held.append act.own act.maximumPacketSize ?_
    intro event member
    rw [act.silent event member]
    exact Nat.zero_le _

/-- No message with channel data, the banner included, is longer than the packet size that the
client gave for its channel. -/
def Mux.PacketsFit (mux : Mux σ τ) : Prop :=
  ∀ localId, Fits Event.spend (eventsOf localId mux.log)

omit [SealingKey σ] in
theorem sized_start (len : Event τ → Nat) (write : WriteState σ) :
    (Mux.start write : Mux σ τ).Sized len := by
  intro localId
  rw [Mux.start_vacant]
  exact ⟨nofun, nofun⟩

omit [SealingKey σ] in
theorem packetsFit_iff (outputs : mux.Sized Event.outputLen) :
    mux.PacketsFit ↔ mux.Sized Event.bannerLen := by
  constructor
  · intro fits localId
    exact ⟨(outputs localId).known, ((fits_spend_iff _).mp (fits localId)).1⟩
  · intro banners localId
    exact (fits_spend_iff _).mpr ⟨(banners localId).fits, (outputs localId).fits⟩

theorem outputs_sized_always (write : WriteState σ) {steps : List (SessionStep σ τ)}
    (bounded : ∀ step ∈ steps, step.host.Bounded) :
    History.Always Mux.step (Mux.start write) steps (Mux.Sized Event.outputLen) := by
  have good : History.Throughout Mux.step (Mux.start write) steps
      fun _ step => step.host.Bounded := by
    intro before step after mux split _
    refine bounded step ?_
    rw [split]
    exact List.mem_append_right before List.mem_cons_self
  exact History.always_of_throughout (sized_start _ write) outputs_sized_step good

/-- In every state of a run all channel data keeps to the packet size of its channel, exactly when
no step of the run answers a request with a banner that fits the window and not the packet. -/
theorem packet_size_respected_iff (write : WriteState σ) (steps : List (SessionStep σ τ))
    (bounded : ∀ step ∈ steps, step.host.Bounded) :
    History.Always Mux.step (Mux.start write) steps Mux.PacketsFit ↔
      History.EveryStep Mux.step (Mux.start write) steps
        fun mux step _ => mux.BannerFits step := by
  have outputs := outputs_sized_always write bounded
  have banners : History.Always Mux.step (Mux.start write) steps (Mux.Sized Event.bannerLen) ↔
      History.EveryStep Mux.step (Mux.start write) steps fun mux step _ => mux.BannerFits step :=
    History.always_iff_everyStep_good (sized_start Event.bannerLen write) fun sized stepped =>
      ⟨bannerFits_of_sized sized stepped, sized_of_bannerFits sized stepped⟩
  rw [← banners]
  constructor
  · intro always before after mux split ran
    exact (packetsFit_iff (outputs before after mux split ran)).mp (always before after mux split ran)
  · intro always before after mux split ran
    exact (packetsFit_iff (outputs before after mux split ran)).mpr (always before after mux split ran)

end Runs

section Client

def bannerStep (step : SessionStep PlainSealer Unit) : SessionStep PlainSealer Unit :=
  { step with
    input := match step.input with
      | .received packet session => .received packet { session with postQuantumKx := false }
      | .terminals => .terminals }

def smallPacketStep : SessionStep PlainSealer Unit :=
  receivedStep .channelOpen
    (encodeBytes (strBytes "session") ++ encodeU32 0 ++ encodeU32 1024 ++ encodeU32 16)

theorem smallPacket_bounded :
    ∀ step ∈ [smallPacketStep, bannerStep ptyStep], step.host.Bounded := by
  simp only [List.forall_mem_cons, List.not_mem_nil, false_implies, implies_true, and_true]
  exact ⟨plainHost_bounded, plainHost_bounded⟩

theorem smallPacket_run :
    ∃ last, History.run Mux.step (Mux.start plainWriter) [smallPacketStep, bannerStep ptyStep] =
        some last ∧
      sizes (eventsOf 0 last.log) = [16] ∧ (eventsOf 0 last.log).map Event.spend = [0, 0, 206] := by
  have shown : (History.run Mux.step (Mux.start plainWriter)
      [smallPacketStep, bannerStep ptyStep]).map (fun last =>
        (sizes (eventsOf 0 last.log), (eventsOf 0 last.log).map Event.spend)) =
      some ([16], [0, 0, 206]) := by
    decide +kernel
  obtain ⟨last, ran, seen⟩ := Option.map_eq_some_iff.mp shown
  obtain ⟨given, lengths⟩ := Prod.mk.inj seen
  exact ⟨last, ran, given, lengths⟩

theorem not_packetsFit {mux : Mux PlainSealer Unit} (given : sizes (eventsOf 0 mux.log) = [16])
    (lengths : (eventsOf 0 mux.log).map Event.spend = [0, 0, 206]) : ¬ mux.PacketsFit := by
  intro fits
  have sent : 206 ∈ (eventsOf 0 mux.log).map Event.spend := by
    rw [lengths]
    simp
  obtain ⟨event, member, length⟩ := List.mem_map.mp sent
  have bound : event.spend ≤ (16 : UInt32).toNat := by
    refine fits 0 16 ?_ event member
    rw [given]
    exact List.mem_cons_self
  rw [length] at bound
  exact absurd bound (by decide)

/-- The 206 bytes of the banner go out in one message to a client that takes 16. -/
theorem banner_exceeds_packet :
    ∃ last, History.run Mux.step (Mux.start plainWriter) [smallPacketStep, bannerStep ptyStep] =
        some last ∧
      sizes (eventsOf 0 last.log) = [16] ∧
      (eventsOf 0 last.log).map Event.spend = [0, 0, 206] ∧ ¬ last.PacketsFit := by
  obtain ⟨last, ran, given, lengths⟩ := smallPacket_run
  exact ⟨last, ran, given, lengths, not_packetsFit given lengths⟩

theorem packet_size_respected_iff_small :
    (∀ step ∈ [smallPacketStep, bannerStep ptyStep], step.host.Bounded) ∧
      ¬ History.EveryStep Mux.step (Mux.start plainWriter) [smallPacketStep, bannerStep ptyStep]
        fun mux step _ => mux.BannerFits step := by
  refine ⟨smallPacket_bounded, ?_⟩
  intro good
  have always := (packet_size_respected_iff plainWriter _ smallPacket_bounded).mpr good
  obtain ⟨last, ran, given, lengths⟩ := smallPacket_run
  have fits := always _ [] last (List.append_nil _).symm ran
  exact not_packetsFit given lengths fits

end Client

end Oxish
