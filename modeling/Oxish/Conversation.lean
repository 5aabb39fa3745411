import Oxish.Admission
import Oxish.AuthenticationBudget
import Oxish.Talk

/-!
No connection says anything that is out of place, in whatever order the connections of the server
take their turns and wherever they are cut off.
-/

namespace Oxish

open Stateful

variable {α σ ρ τ β : Type}

/-- The log was read to its end, and it has led to one of these places. -/
def Heard (places : Talk → Prop) (link : Link α σ ρ τ) : Prop :=
  ∃ talk, places talk ∧ History.run Talk.hear .exchanging link.log = some talk

abbrev Overheard (link : Link α σ ρ τ) : Prop := Heard (fun _ => True) link

section Pieces

variable {before after middle : Talk → Prop}

theorem Heard.mono {link : Link α σ ρ τ} (heard : Heard before link)
    (weaker : ∀ talk, before talk → after talk) : Heard after link := by
  obtain ⟨talk, here, read⟩ := heard
  exact ⟨talk, weaker talk here, read⟩

theorem Heard.supply {link : Link α σ ρ τ} (heard : Heard before link) (turn : Turn τ) :
    Heard before (link.supply turn) := heard

theorem heard_unlogged {link : Link α σ ρ τ} (unlogged : link.log = []) :
    Heard (· = .exchanging) link := by
  refine ⟨.exchanging, rfl, ?_⟩
  rw [unlogged]
  rfl

theorem Heard.overheard {link : Link α σ ρ τ} (heard : Heard before link) : Overheard link :=
  heard.mono fun _ _ => trivial

theorem Heard.more {link : Link α σ ρ τ} (heard : Heard before link) {acts : List (Act σ τ)}
    (read : ∀ talk, before talk → ∃ next, History.run Talk.hear talk acts = some next ∧ after next)
    (conn : Connection α σ ρ) : Heard after { conn, log := link.log ++ acts } := by
  obtain ⟨talk, here, led⟩ := heard
  obtain ⟨next, onward, there⟩ := read talk here
  refine ⟨next, there, ?_⟩
  rw [History.run_append, led]
  exact onward

theorem Heard.one {link : Link α σ ρ τ} (heard : Heard before link) (act : Act σ τ)
    (read : ∀ talk, before talk → ∃ next, talk.hear act = some next ∧ after next)
    (conn : Connection α σ ρ) : Heard after { conn, log := link.log ++ [act] } := by
  refine heard.more (fun talk here => ?_) conn
  obtain ⟨next, onward, there⟩ := read talk here
  refine ⟨next, ?_, there⟩
  rw [History.run, List.foldlM_cons, onward]
  rfl

abbrev Says (before : Talk → Prop) (program : Trace α σ ρ τ β) (after : Talk → Prop) : Prop :=
  Ensures (Heard before) program (fun _ => Heard after) Overheard

theorem drive_heard (program : Drive α σ ρ β) :
    Keeps (Heard before) (Trace.drive program : Trace α σ ρ τ β) :=
  Trace.drive_ensures fun _ => ensures_of_cases (fun heard _ => heard) fun heard _ => heard

theorem drive_speaks (program : Drive α σ ρ β) :
    Says before (Trace.drive program : Trace α σ ρ τ β) before :=
  (drive_heard program).mono (fun _ heard => heard) (fun _ _ heard => heard) fun _ heard =>
    heard.overheard

theorem record_speaks {act : Act σ τ}
    (read : ∀ talk, before talk → ∃ next, talk.hear act = some next ∧ after next) :
    Says before (Trace.record [act] : Trace α σ ρ τ Unit) after :=
  Trace.record_ensures fun _ heard => heard.one act read _

section Sending

variable [SealingKey σ]

theorem encode_speaks {payload : Bytes}
    (said : ∀ talk, before talk →
      ∃ next, talk.say (payloadType payload) = some next ∧ after next) :
    Says before (Trace.encode payload : Trace α σ ρ τ Unit) after := by
  intro link heard
  rw [Trace.exec_encode]
  generalize link.conn.write.encode payload = encoded
  obtain ⟨write, outcome⟩ := encoded
  cases outcome with
  | ok value => exact heard.one (.packet payload) said _
  | error stop => exact heard.overheard

theorem installKeys_speaks (update : KeyUpdate σ ρ)
    (announced : ∀ talk, before talk → ∃ next, talk.say (some .newKeys) = some next ∧ middle next)
    (installed : ∀ talk, middle talk →
      ∃ next, talk.hear (.keys update.sealer : Act σ τ) = some next ∧ after next) :
    Says before (Trace.installKeys update : Trace α σ ρ τ Unit) after := by
  intro link heard
  rw [Trace.exec_installKeys]
  generalize update.apply link.conn.write link.conn.read = applied
  obtain ⟨write, read, outcome⟩ := applied
  cases outcome with
  | error stop => exact heard.overheard
  | ok value =>
      have changing : Heard middle
          { conn := link.conn, log := link.log ++ [.packet NewKeys.encode] : Link α σ ρ τ } :=
        heard.one (.packet NewKeys.encode) announced _
      have changed := changing.one (.keys update.sealer) installed { link.conn with write, read }
      rw [List.append_assoc] at changed
      exact changed

end Sending

theorem handleKx_speaks {S : Type} {stage : S → Option Nat} {last : Option Nat} {number : Nat}
    {handle : WriteState σ → Handled σ S (Option β)}
    (steps : ∀ write, ExchangeStep stage last number (handle write))
    (said : ∀ talk, before talk → ∀ type, Talk.exchanges type = true →
      ∃ next, talk.say type = some next ∧ before next) :
    Ensures (Heard before) (Trace.handleKx handle)
      (fun outcome link => (outcome.2 = none ∧ (∃ waiting, stage outcome.1 = some waiting) ∨
        (∃ output, outcome.2 = some output) ∧ stage outcome.1 = last) ∧ Heard before link)
      (Overheard : Link α σ ρ τ → Prop) := by
  intro link heard
  rw [Trace.exec_handleKx]
  have one {payload : Bytes} (sent : (handle link.conn.write).outbox.sent = [payload])
      (type : Talk.exchanges (payloadType payload) = true) : Heard before {
        conn := { link.conn with write := (handle link.conn.write).outbox.write }
        log := link.log ++ (handle link.conn.write).outbox.sent.map .packet : Link α σ ρ τ } := by
    rw [sent]
    exact heard.one (.packet payload) (fun talk here => said talk here _ type) _
  have none (sent : (handle link.conn.write).outbox.sent = []) : Heard before {
        conn := { link.conn with write := (handle link.conn.write).outbox.write }
        log := link.log ++ (handle link.conn.write).outbox.sent.map .packet : Link α σ ρ τ } := by
    rw [sent, List.map_nil, List.append_nil]
    exact heard
  cases steps link.conn.write with
  | offered first sent type next result =>
      rw [result]
      exact ⟨.inl ⟨rfl, 1, next⟩, one sent (by rw [type]; rfl)⟩
  | replied second sent type next result =>
      rw [result]
      exact ⟨.inl ⟨rfl, 2, next⟩, one sent (by rw [type]; rfl)⟩
  | changed third sent next result =>
      rw [result]
      exact ⟨.inr ⟨⟨_, rfl⟩, next⟩, none sent⟩
  | failed sent result =>
      rw [result]
      exact (none sent).overheard

end Pieces

section Authentication

open AuthenticationState

inductive Answered : AuthenticationState → List AuthReply → AuthenticationState → Prop
  | nothing (state : AuthenticationState) : Answered state [] state
  | service (accept : ServiceAccept) :
      Answered .awaitServiceRequest [.serviceAccept accept] (.awaitAuthRequest none 6)
  | refused {cached kept : Option CachedUser} {attempts : UInt8} {message : AuthReply}
      (counted : attempts - 1 ≠ 0)
      (type : payloadType (Encode.encode message) = some .userAuthFailure ∨
        payloadType (Encode.encode message) = some .userAuthPkOk) :
      Answered (.awaitAuthRequest cached attempts) [message] (.awaitAuthRequest kept (attempts - 1))
  | accepted {cached : Option CachedUser} {attempts : UInt8} (authenticated : Authenticated)
      (counted : attempts - 1 ≠ 0) :
      Answered (.awaitAuthRequest cached attempts) [.success] (.complete authenticated)

variable [SealingKey σ]

abbrev Replies (state : AuthenticationState) (program : Emit σ AuthReply Error AuthenticationState) :
    Prop :=
  Ensures (fun outbox => outbox.sent = []) program
    (fun next outbox => Answered state outbox.sent next) (fun outbox => outbox.sent = [])

theorem reply_replies {state next : AuthenticationState} {message : AuthReply}
    (answered : Answered state [message] next) :
    Replies state (do reply message; pure next : Emit σ AuthReply Error _) := by
  intro outbox start
  rcases reply_cases message next outbox with ⟨last, ran, sent, _⟩ | ⟨stop, last, ran, sent, _⟩
  · rw [ran]
    change Answered state last.sent next
    rw [sent, start]
    exact answered
  · rw [ran]
    exact sent.trans start

theorem sendAuthFailed_replies {cached : Option CachedUser} (kept : Option CachedUser)
    {attempts : UInt8} (counted : attempts - 1 ≠ 0) :
    Replies (.awaitAuthRequest cached attempts)
      (sendAuthFailed kept (attempts - 1) : Emit σ AuthReply Error _) :=
  reply_replies (.refused counted (.inl rfl))

theorem verified_replies (context : Context σ ρ) (request : UserAuthRequest)
    (publicKey : PublicKey) (user : CachedUser) {cached : Option CachedUser} {attempts : UInt8}
    (counted : attempts - 1 ≠ 0) (sig : Signature) (key : AuthorizedKey) :
    Replies (.awaitAuthRequest cached attempts)
      (verified context request publicKey user (attempts - 1) sig key) := by
  unfold verified
  split
  · exact sendAuthFailed_replies _ counted
  · dsimp only
    split
    · exact reply_replies (.accepted _ counted)
    · exact sendAuthFailed_replies _ counted

theorem selected_replies (context : Context σ ρ) (request : UserAuthRequest)
    (publicKey : PublicKey) (user : CachedUser) {cached : Option CachedUser} {attempts : UInt8}
    (counted : attempts - 1 ≠ 0) :
    Replies (.awaitAuthRequest cached attempts)
      (selected context request publicKey user (attempts - 1)) := by
  unfold selected
  split
  · split
    · exact verified_replies context request publicKey user counted _ _
    · exact sendAuthFailed_replies _ counted
  · split
    · exact verified_replies context request publicKey user counted _ _
    · exact sendAuthFailed_replies _ counted
  · exact reply_replies (.refused counted (.inr rfl))
  · exact sendAuthFailed_replies _ counted

theorem handle_replies (context : Context σ ρ) (state : AuthenticationState)
    (packet : IncomingPacket) : Replies state (handle context state packet) := by
  have nothing : Replies state (pure state : Emit σ AuthReply Error _) := by
    refine ensures_pure fun outbox start => ?_
    rw [start]
    exact .nothing state
  unfold handle
  split
  · exact nothing
  · exact nothing
  · exact ensures_throw _ fun _ start => start
  · refine (attempt_unsent [] _).bind fun request => ?_
    split
    · exact reply_replies (.service _)
    · exact ensures_throw _ fun _ start => start
  · unfold handleAuthRequest
    dsimp only
    split
    · exact ensures_throw _ fun _ start => start
    · rename_i counted
      refine (attempt_unsent [] _).bind fun request => ?_
      split
      · exact ensures_throw _ fun _ start => start
      · split
        · exact sendAuthFailed_replies _ counted
        · split
          · exact sendAuthFailed_replies _ counted
          · exact selected_replies context request _ _ counted
  · exact ensures_throw _ fun _ start => start

def AuthenticationState.talk : AuthenticationState → Talk → Prop
  | .awaitServiceRequest, talk => talk = .ready
  | .awaitAuthRequest _ attempts, talk =>
    1 ≤ attempts.toNat ∧ attempts.toNat ≤ 6 ∧ talk = .serving (6 - attempts.toNat)
  | .complete _, talk => talk = .welcomed

theorem toNat_counted {attempts : UInt8} (some : 1 ≤ attempts.toNat) (counted : attempts - 1 ≠ 0) :
    (attempts - 1).toNat = attempts.toNat - 1 ∧ 2 ≤ attempts.toNat := by
  have less : (attempts - 1).toNat = attempts.toNat - 1 :=
    UInt8.toNat_sub_of_le _ _ (UInt8.le_iff_toNat_le.mpr some)
  have left : (attempts - 1).toNat ≠ 0 := fun zero => counted (UInt8.toNat_inj.mp zero)
  exact ⟨less, by omega⟩

omit [SealingKey σ] in
theorem Answered.talks {state next : AuthenticationState} {replies : List AuthReply}
    (answered : Answered state replies next) {talk : Talk} (here : AuthenticationState.talk state talk) :
    ∃ later, History.run Talk.hear talk (sentActs replies : List (Act σ τ)) = some later ∧
      AuthenticationState.talk next later := by
  cases answered with
  | nothing => exact ⟨talk, rfl, here⟩
  | service accept =>
      cases here
      exact ⟨.serving 0, rfl, by decide, by decide, rfl⟩
  | @refused cached kept attempts message counted type =>
      obtain ⟨some, most, rfl⟩ := here
      obtain ⟨less, left⟩ := toNat_counted some counted
      have said : Talk.say (.serving (6 - attempts.toNat)) (payloadType (Encode.encode message)) =
          Option.some (.serving (6 - attempts.toNat + 1)) := by
        rcases type with type | type <;> rw [type] <;> exact if_pos (by omega)
      refine ⟨.serving (6 - attempts.toNat + 1), ?_, by omega, by omega, ?_⟩
      · change Talk.say _ _ >>= _ = _
        rw [said]
        rfl
      · rw [less]
        congr 1
        omega
  | @accepted cached attempts authenticated counted =>
      obtain ⟨some, most, rfl⟩ := here
      obtain ⟨_, left⟩ := toNat_counted some counted
      refine ⟨.welcomed, ?_, rfl⟩
      change (if 6 - attempts.toNat < 5 then _ else _) >>= _ = _
      rw [if_pos (by omega)]
      rfl

def Refusable (talk : Talk) : Prop := talk.say (some .disconnect) = some .closed

theorem refusable_of_talk {state : AuthenticationState} {talk : Talk}
    (here : AuthenticationState.talk state talk) : Refusable talk := by
  cases state with
  | awaitServiceRequest =>
      cases here
      rfl
  | awaitAuthRequest cached attempts =>
      obtain ⟨_, _, rfl⟩ := here
      rfl
  | complete authenticated =>
      cases here
      rfl

theorem handleAuth_speaks (context : Context σ ρ) (state : AuthenticationState)
    (packet : IncomingPacket) :
    Ensures (Heard (AuthenticationState.talk state)) (Trace.handleAuth context state packet)
      (fun handled link => (∀ next, handled = .ok next → Heard (AuthenticationState.talk next) link) ∧
        Heard Refusable link)
      (Heard Refusable : Link α σ ρ τ → Prop) := by
  intro link heard
  have ended := @handle_replies _ _ _ context state packet { write := link.conn.write } rfl
  rw [Trace.exec_handleAuth]
  generalize exec (AuthenticationState.handle context state packet) { write := link.conn.write } =
    ran at ended
  obtain ⟨outcome, outbox⟩ := ran
  have unsaid (sent : outbox.sent = []) : Heard Refusable {
      conn := { link.conn with write := outbox.write }
      log := link.log ++ sentActs outbox.sent : Link α σ ρ τ } := by
    rw [sent, sentActs, List.map_nil, List.append_nil]
    exact heard.mono fun _ => refusable_of_talk
  cases outcome with
  | ok next =>
      have said : Heard (AuthenticationState.talk next) {
          conn := { link.conn with write := outbox.write }
          log := link.log ++ sentActs outbox.sent : Link α σ ρ τ } :=
        heard.more (fun talk here => Answered.talks ended here) _
      refine ⟨?_, said.mono fun _ => refusable_of_talk⟩
      intro other same
      cases same
      exact said
  | error stop =>
      cases stop with
      | error error =>
          refine ⟨?_, unsaid ended⟩
          intro other same
          cases same
      | panic site => exact unsaid ended

variable [OpeningKey ρ]

theorem authenticateReply_speaks (server : Server σ ρ) (kx : KeyExchangeOutput)
    (state : AuthenticationState) :
    Ensures (Heard (AuthenticationState.talk state)) (Task.authenticateReply server kx state)
      (fun reply link => (∀ next, reply = .ok next → Heard (AuthenticationState.talk next) link) ∧
        Heard Refusable link)
      (Heard Refusable : Link α σ ρ τ → Prop) := by
  have waiting : ∀ link : Link α σ ρ τ, Heard (AuthenticationState.talk state) link →
      Heard Refusable link := fun _ heard => heard.mono fun _ => refusable_of_talk
  have received : Ensures (Heard (AuthenticationState.talk state))
      (Trace.drive (Drive.catching Connection.receive) : Trace α σ ρ τ _)
      (fun _ => Heard (AuthenticationState.talk state)) (Heard Refusable) :=
    (drive_heard _).mono (fun _ heard => heard) (fun _ _ heard => heard) waiting
  refine received.bind fun packet => ?_
  cases packet with
  | error error =>
      refine ensures_pure fun link heard => ⟨?_, waiting link heard⟩
      intro next other
      cases other
  | ok packet =>
      refine (handleAuth_speaks _ state packet).bind fun handled => ?_
      have flushed : Keeps (fun link : Link α σ ρ τ =>
          (∀ next, handled = .ok next → Heard (AuthenticationState.talk next) link) ∧
            Heard Refusable link) (Trace.drive (Drive.catching Connection.flush)) :=
        Trace.drive_ensures fun _ => ensures_of_cases (fun heard _ => heard) fun heard _ => heard
      refine (flushed.mono (fun _ heard => heard) (fun _ _ heard => heard)
        fun _ heard => heard.2).bind fun flushed => ?_
      split
      · refine ensures_pure fun link heard => ⟨?_, heard.2⟩
        intro next same
        cases same
        exact heard.1 _ rfl
      · refine ensures_pure fun link heard => ⟨?_, heard.2⟩
        intro next same
        cases same
      · refine ensures_pure fun link heard => ⟨?_, heard.2⟩
        intro next same
        cases same

end Authentication

section Phases

def Phase.Talks (phase : Phase τ) (link : Link α σ ρ τ) : Prop :=
  match phase with
  | .exchanging state => (∃ number, state.stage = some number) ∧ Heard (· = .exchanging) link
  | .authenticating _ state => Heard (AuthenticationState.talk state) link
  | .authenticated _ _ => Heard (· = .welcomed) link
  | .running current => (∃ number, current.kx.stage = some number) ∧ Heard InSession link

theorem Phase.Talks.supply {phase : Phase τ} {link : Link α σ ρ τ} (talks : phase.Talks link)
    (turn : Turn τ) : phase.Talks (link.supply turn) := by
  cases phase <;> exact talks

theorem operate_speaks (channels : Channels τ) (operation : Operation σ τ β) :
    Says InSession (Trace.operate channels operation : Trace α σ ρ τ _) InSession := by
  intro link heard
  rw [Trace.exec_operate]
  generalize exec operation { channels, write := link.conn.write } = ran
  obtain ⟨outcome, mux⟩ := ran
  have more : Heard InSession {
      conn := { link.conn with write := mux.write }
      log := link.log ++ mux.log.map .channel : Link α σ ρ τ } :=
    heard.more (fun _ here => here.hear_channels mux.log) _
  cases outcome with
  | ok value => exact more
  | error stop => exact more.overheard

variable [SealingKey σ] {running : Running τ} {number : Nat}

theorem rekey_speaks (live : running.kx.stage = some number) (provider : CryptoProvider σ ρ)
    (packet : IncomingPacket) :
    Ensures (Heard InSession) (running.rekey provider packet)
      (fun next link => Phase.Talks (.running next) link) (Overheard : Link α σ ρ τ → Prop) := by
  have steps (write : WriteState σ) := RekeyState.handle_exchanges live packet write provider
  refine (handleKx_speaks steps fun talk here type => here.say).bind fun outcome => ?_
  obtain ⟨kx, output⟩ := outcome
  refine ensures_and fun stage => ?_
  have waiting : ∃ number, kx.stage = some number := by
    rcases stage with ⟨_, waiting⟩ | ⟨_, done⟩
    · exact waiting
    · exact ⟨0, done⟩
  cases output with
  | none =>
      exact (drive_speaks Connection.flush).bind fun _ => ensures_pure fun link heard =>
        ⟨waiting, heard⟩
  | some rekeyed =>
      refine (installKeys_speaks rekeyed.update (fun _ here => here.say rfl) fun _ here =>
        here.hear (fun _ other => by cases other) fun _ other => by cases other).bind fun _ => ?_
      exact (drive_speaks Connection.flush).bind fun _ => ensures_pure fun link heard =>
        ⟨waiting, heard⟩

theorem refuseGlobal_speaks {packet : IncomingPacket}
    (global : packet.messageType = .globalRequest) :
    Says InSession (Running.refuseGlobal packet : Trace α σ ρ τ Unit) InSession := by
  have noted : Says InSession (Trace.record [.processed packet] : Trace α σ ρ τ Unit)
      (· = Talk.process packet) :=
    record_speaks fun talk here => ⟨_, if_pos here, rfl⟩
  refine noted.bind fun _ => ?_
  unfold Talk.process
  rw [if_pos global]
  cases GlobalRequest.tryFrom packet with
  | error error =>
      intro link heard
      exact heard.overheard
  | ok request =>
      dsimp only
      cases request.wantReply with
      | false =>
          refine ensures_pure fun link heard => heard.mono ?_
          rintro _ rfl
          rfl
      | true =>
          have said : Says (· = .opened true)
              (Trace.encode MessageType.requestFailure.encode : Trace α σ ρ τ Unit) InSession := by
            refine encode_speaks ?_
            rintro _ rfl
            exact ⟨.opened false, rfl, rfl⟩
          exact said.bind fun _ => drive_speaks Connection.flush

theorem channelMessage_speaks (host : TerminalHost τ) (live : running.kx.stage = some number)
    {packet : IncomingPacket} (ordinary : packet.messageType ≠ .globalRequest) :
    Ensures (Heard InSession) (running.channelMessage host packet)
      (fun next link => Phase.Talks (.running next) link) (Overheard : Link α σ ρ τ → Prop) := by
  have noted : Says InSession (Trace.record [.processed packet] : Trace α σ ρ τ Unit) InSession := by
    refine record_speaks fun talk here => ⟨.opened false, ?_, rfl⟩
    have plain : Talk.process packet = .opened false := if_neg ordinary
    rw [← plain]
    exact if_pos here
  refine noted.bind fun _ => ?_
  refine (operate_speaks running.channels _).bind fun _ => ?_
  exact (drive_speaks Connection.flush).bind fun _ => ensures_pure fun link heard =>
    ⟨⟨number, live⟩, heard⟩

def Talks (next : Option (Phase τ)) (link : Link α σ ρ τ) : Prop :=
  match next with
  | some phase => phase.Talks link
  | none => Overheard link

theorem dispatch_speaks (live : running.kx.stage = some number) (provider : CryptoProvider σ ρ)
    (host : TerminalHost τ) (packet : IncomingPacket) :
    Ensures (Heard InSession) (running.dispatch provider host packet)
      (fun next => Talks (next.map .running)) (Overheard : Link α σ ρ τ → Prop) := by
  have stays : Ensures (Heard InSession)
      (pure (some running) : Trace α σ ρ τ (Option (Running τ)))
      (fun next => Talks (next.map .running)) Overheard :=
    ensures_pure fun link heard => ⟨⟨number, live⟩, heard⟩
  unfold Running.dispatch
  split
  · exact stays
  · exact stays
  · exact ensures_pure fun link heard => heard.overheard
  · split
    · exact (rekey_speaks live provider packet).bind fun next => ensures_pure fun _ talks => talks
    · split
      · rename_i global
        exact (refuseGlobal_speaks global).bind fun _ => stays
      · exact stays
      · exact stays
      · rename_i ordinary _ _
        exact (channelMessage_speaks host live ordinary).bind fun next => ensures_pure fun _ talks => talks

theorem pollTerminals_speaks (live : running.kx.stage = some number) (host : TerminalHost τ) :
    Ensures (Heard InSession) (running.pollTerminals host)
      (fun next link => Phase.Talks (.running next) link) (Overheard : Link α σ ρ τ → Prop) := by
  unfold Running.pollTerminals
  split
  · exact ensures_pure fun link heard => ⟨⟨number, live⟩, heard⟩
  · refine (operate_speaks running.channels _).bind fun outcome => ?_
    obtain ⟨channels, polled⟩ := outcome
    cases polled with
    | ready value =>
        exact (drive_speaks Connection.flush).bind fun _ => ensures_pure fun link heard =>
          ⟨⟨number, live⟩, heard⟩
    | pending => exact ensures_pure fun link heard => ⟨⟨number, live⟩, heard⟩

variable [OpeningKey ρ]

omit [SealingKey σ] in
theorem receive_speaks :
    Says InSession (Running.receive : Trace α σ ρ τ _) InSession := by
  intro link heard
  rw [Running.receive, exec_mk]
  generalize exec Connection.receive link.conn = ran
  obtain ⟨outcome, conn⟩ := ran
  cases outcome with
  | ok packet => exact heard
  | error halt =>
      cases halt with
      | pending => exact heard
      | stopped stop => exact heard.overheard

theorem turn_speaks (live : running.kx.stage = some number) (provider : CryptoProvider σ ρ)
    (turn : Turn τ) :
    Ensures (Heard InSession) (running.turn provider turn)
      (fun next => Talks (next.map .running)) (Overheard : Link α σ ρ τ → Prop) := by
  unfold Running.turn
  split
  · refine receive_speaks.bind fun received => ?_
    cases received with
    | some packet => exact dispatch_speaks live provider turn.host packet
    | none => exact ensures_pure fun link heard => ⟨⟨number, live⟩, heard⟩
  · exact (pollTerminals_speaks live turn.host).bind fun next => ensures_pure fun _ talks => talks

theorem exchangeTurn_speaks {state : InitialKeyExchangeState} (live : state.stage = some number)
    (provider : CryptoProvider σ ρ) :
    Ensures (Heard (· = .exchanging)) (Server.exchangeTurn provider state)
      (fun next => next.Talks) (Overheard : Link α σ ρ τ → Prop) := by
  refine (drive_speaks Connection.receive).bind fun packet => ?_
  have steps (write : WriteState σ) :=
    InitialKeyExchangeState.handle_exchanges live packet write provider
  have said (talk : Talk) (here : talk = .exchanging) (type : Option MessageType)
      (exchanged : Talk.exchanges type = true) :
      ∃ next, talk.say type = some next ∧ next = .exchanging := by
    subst here
    exact ⟨_, if_pos exchanged, rfl⟩
  refine (handleKx_speaks steps said).bind fun outcome => ?_
  obtain ⟨next, output⟩ := outcome
  refine ensures_and fun stage => ?_
  cases output with
  | none =>
      have waiting : ∃ number, next.stage = some number := by
        rcases stage with ⟨_, waiting⟩ | ⟨⟨_, other⟩, _⟩
        · exact waiting
        · cases other
      exact (drive_speaks Connection.flush).bind fun _ => ensures_pure fun link heard =>
        ⟨waiting, heard⟩
  | some established =>
      have keyed : Says (· = .exchanging)
          (Trace.installKeys established.update : Trace α σ ρ τ Unit) (· = .keyed) := by
        refine installKeys_speaks established.update (fun talk here => said talk here _ rfl) ?_
        rintro _ rfl
        exact ⟨.keyed, rfl, rfl⟩
      have informed : Says (· = .keyed)
          (Server.sendExtInfo established.extInfo : Trace α σ ρ τ Unit)
          (fun talk => talk = .keyed ∨ talk = .informed) := by
        cases established.extInfo with
        | none => exact ensures_pure fun _ heard => heard.mono fun _ here => .inl here
        | some extInfo =>
            refine encode_speaks ?_
            rintro _ rfl
            exact ⟨.informed, rfl, .inr rfl⟩
      have ignored : Says (fun talk => talk = .keyed ∨ talk = .informed)
          (Trace.encode (Ignore.encode {}) : Trace α σ ρ τ Unit) (· = .ready) := by
        refine encode_speaks ?_
        rintro _ (rfl | rfl) <;> exact ⟨.ready, rfl, rfl⟩
      refine keyed.bind fun _ => informed.bind fun _ => ignored.bind fun _ => ?_
      exact (drive_speaks Connection.flush).bind fun _ => ensures_pure fun link heard => heard

omit [SealingKey σ] [OpeningKey ρ] in
theorem startHere_speaks (provider : CryptoProvider σ ρ) (kx : KeyExchangeOutput)
    (options : KeyOptions) :
    Ensures (Heard (· = .welcomed)) (Server.startHere provider kx options)
      (fun next => next.Talks) (Overheard : Link α σ ρ τ → Prop) := by
  intro link heard
  rw [Server.startHere, exec_mk]
  cases started : (Session.new kx link.conn provider options :
    Except ProtoError (Session α σ ρ τ)) with
  | error error => exact heard.overheard
  | ok session =>
      obtain ⟨key, _, fresh⟩ := (Session.new_ok started).1.kx
      refine ⟨⟨0, ?_⟩, heard.mono ?_⟩
      · change session.kx.stage = some 0
        rw [fresh]
        rfl
      · rintro _ rfl
        rfl

theorem startElsewhere_speaks [SocketAddr α] (provider : CryptoProvider σ ρ)
    (kx : KeyExchangeOutput) (options : KeyOptions) :
    Ensures (Heard (· = .welcomed)) (Server.startElsewhere provider kx options)
      (fun next => next.Talks) (Overheard : Link α σ ρ τ → Prop) := by
  intro link heard
  rw [Server.startElsewhere, exec_mk]
  cases moved : (Server.transfer provider kx options link.conn :
    Except (Stop Error) (Session α σ ρ τ)) with
  | error stop => exact heard.overheard
  | ok session =>
      obtain ⟨state, _, resumed⟩ := Outcome.bind_eq_ok.mp moved
      obtain ⟨decoded, _, rebuilt⟩ := resume_decoded resumed
      obtain ⟨_, fresh, _, _, _⟩ := rebuild_ok rebuilt
      refine ⟨⟨0, ?_⟩, heard.one _ ?_ _⟩
      · change session.kx.stage = some 0
        rw [fresh]
        rfl
      · rintro _ rfl
        exact ⟨.opened false, rfl, rfl⟩

theorem phaseTurn_speaks [SocketAddr α] (server : Server σ ρ) (spawn : Bool) (turn : Turn τ)
    {phase : Phase τ} (inSession : Task.inSession phase) :
    Ensures phase.Talks (server.phaseTurn spawn turn phase) (fun next => Talks next)
      (Overheard : Link α σ ρ τ → Prop) := by
  cases phase with
  | exchanging state => exact inSession.elim
  | authenticating kx state => exact inSession.elim
  | authenticated kx authenticated =>
      unfold Server.phaseTurn
      dsimp only
      split
      · exact (startElsewhere_speaks _ kx authenticated.options).bind fun next =>
          ensures_pure fun _ talks => talks
      · exact (startHere_speaks _ kx authenticated.options).bind fun next =>
          ensures_pure fun _ talks => talks
  | running current =>
      refine ensures_and fun live => ?_
      obtain ⟨number, live⟩ := live
      exact (turn_speaks live _ turn).bind fun next => ensures_pure fun _ talks => talks

end Phases

section Tasks

variable [SealingKey σ] [OpeningKey ρ] [SocketAddr α]

def Task.Talks (task : Task α σ ρ τ) : Prop :=
  match task.stage with
  | .accepted | .identifying => task.link.log = []
  | .connected phase => phase.Talks task.link
  | .refusing _ => Heard (· = .closed) task.link
  | .returned _ => Overheard task.link

variable {server : Server σ ρ} {spawn available : Bool} {now : Nat} {task next : Task α σ ρ τ}
  {own : TaskEvent τ}

omit [OpeningKey ρ] [SocketAddr α] in
theorem talks_refuse {link : Link α σ ρ τ} (heard : Heard Refusable link) (error : Error)
    {disconnect : Disconnect} : (Task.refuse now error disconnect link).Talks := by
  unfold Task.refuse
  dsimp only
  split
  · refine heard.one (.packet disconnect.encode) ?_ _
    intro talk here
    exact ⟨.closed, here, rfl⟩
  · exact heard.overheard

omit [SealingKey σ] [OpeningKey ρ] [SocketAddr α] in
theorem Talks.overheard {phase : Option (Phase τ)} {link : Link α σ ρ τ} (talks : Talks phase link) :
    Overheard link := by
  cases phase with
  | none => exact talks
  | some phase =>
      cases phase with
      | exchanging state => exact talks.2.overheard
      | authenticating kx state => exact Heard.overheard talks
      | authenticated kx authenticated => exact Heard.overheard talks
      | running current => exact talks.2.overheard

theorem refusable_of_ends {kx : KeyExchangeOutput} {state : AuthenticationState} {turn : Turn τ}
    {link last : Link α σ ρ τ} (heard : Heard (AuthenticationState.talk state) link)
    (ends : Task.Ends server spawn turn link (.connected (.authenticating kx state)) last) :
    Heard Refusable last := by
  cases ends with
  | authenticating ran =>
      exact (authenticateReply_speaks server kx state).error (heard.supply turn) ran
  | verifying ran =>
      exact ((drive_speaks _).ok (heard.supply turn) ran).mono fun _ => refusable_of_talk
  | session inSession ran => exact inSession.elim

theorem Task.Talks.ends (talks : task.Talks) {turn : Turn τ} {link : Link α σ ρ τ}
    (ends : Task.Ends server spawn turn task.link task.stage link) : Overheard link := by
  unfold Task.Talks at talks
  generalize task.stage = stage at talks ends
  have kept := ends
  cases ends with
  | identifying ran =>
      exact ((drive_heard _).error ((heard_unlogged talks).supply turn) ran).overheard
  | exchanging ran =>
      obtain ⟨⟨number, live⟩, heard⟩ := talks
      exact (exchangeTurn_speaks live _).error (heard.supply turn) ran
  | authenticating | verifying => exact (refusable_of_ends talks kept).overheard
  | @session phase outcome _ inSession ran =>
      have supplied := Phase.Talks.supply talks turn
      cases outcome with
      | ok next => exact ((phaseTurn_speaks server spawn turn inSession).ok supplied ran).overheard
      | error halt => exact (phaseTurn_speaks server spawn turn inSession).error supplied ran
  | @refusing error outcome _ ran =>
      cases outcome with
      | ok value => exact ((drive_heard _).ok (Heard.supply talks turn) ran).overheard
      | error halt => exact ((drive_heard _).error (Heard.supply talks turn) ran).overheard

theorem Task.Talks.move (talks : task.Talks)
    (moves : Task.Moves server spawn now available task own next) : next.Talks := by
  have before := talks
  unfold Task.Talks at before
  cases moves with
  | acquired fresh =>
      rw [fresh] at before
      unfold Task.acquire
      split
      · exact before
      · exact (heard_unlogged before).overheard
  | @identified turn exchange identities link stage ran =>
      rw [stage] at before
      exact ⟨⟨0, rfl⟩, (drive_speaks _).ok ((heard_unlogged before).supply turn) ran⟩
  | @exchanged turn _ _ _ stage ran | @established turn _ _ _ stage ran =>
      rw [stage] at before
      obtain ⟨⟨number, live⟩, heard⟩ := before
      exact (exchangeTurn_speaks live _).ok (heard.supply turn) ran
  | @replied turn kx state _ _ stage _ ran | @welcomed turn kx state _ _ stage ran =>
      rw [stage] at before
      exact ((authenticateReply_speaks server kx state).ok (Heard.supply before turn) ran).1 _ rfl
  | @continued turn phase running link stage inSession ran =>
      rw [stage] at before
      exact (phaseTurn_speaks server spawn turn inSession).ok (before.supply turn) ran
  | @refused turn kx state error link stage ran =>
      rw [stage] at before
      have replied := (authenticateReply_speaks server kx state).ok (Heard.supply before turn) ran
      exact talks_refuse replied.2 error
  | @expired turn cut kx state link stage ends =>
      rw [stage] at before ends
      exact talks_refuse (refusable_of_ends before ends) _
  | finished outcome later ends => exact talks.ends ends

end Tasks

section Result

variable [SealingKey σ] [OpeningKey ρ] [SocketAddr α]

omit [SealingKey σ] [OpeningKey ρ] [SocketAddr α] in
theorem talks_fresh (stream : Stream) (addr : α) (secureRandom : SecureRandom) :
    (Hub.freshTask stream addr secureRandom : Task α σ ρ τ).Talks := rfl

omit [SealingKey σ] [OpeningKey ρ] [SocketAddr α] in
theorem Task.Talks.overheard {task : Task α σ ρ τ} (talks : task.Talks) : Overheard task.link := by
  unfold Task.Talks at talks
  split at talks
  · exact (heard_unlogged talks).overheard
  · exact (heard_unlogged talks).overheard
  · rename_i phase _
    exact Oxish.Talks.overheard (show Oxish.Talks (some phase) task.link from talks)
  · exact Heard.overheard talks
  · exact talks

/-- In every order of events, what a server says on a connection follows the protocol: the key
exchange, the authentication with at most five replies, and a session only after the client was
told of its success. Nothing is said after a disconnect. A global request that wants a reply gets a
refusal as the next thing that is said, and nothing else is refused so. -/
theorem conversation_in_order (server : Server σ ρ) (spawn : Bool) (events : List (HubEvent α τ))
    {hub : Hub α σ ρ τ} (ran : History.run (Hub.step server spawn) {} events = some hub)
    {task : Task α σ ρ τ} (member : task ∈ hub.tasks) :
    (∃ talk, History.run Talk.hear .exchanging task.link.log = some talk) ∧
    task.link.log.countP Act.replies ≤ 5 ∧
    ∀ before act after, task.link.log = before ++ act :: after →
      (act.type = some .disconnect → after = []) ∧
      (∀ event, act = .channel event →
        ∃ welcome ∈ before, welcome.type = some .userAuthSuccess) ∧
      (act.type = some .requestFailure → ∃ earlier packet request,
        before = earlier ++ [.processed packet] ∧ packet.messageType = .globalRequest ∧
          GlobalRequest.tryFrom packet = .ok request ∧ request.wantReply = true) ∧
      ∀ packet request reply later, act = .processed packet → after = reply :: later →
        packet.messageType = .globalRequest → GlobalRequest.tryFrom packet = .ok request →
        request.wantReply = true → reply.type = some .requestFailure := by
  obtain ⟨talk, _, read⟩ :=
    (Hub.tasks_invariant talks_fresh Task.Talks.move ran task member).overheard
  refine ⟨⟨talk, read⟩, (recalls_run read).le, ?_⟩
  intro before act after split
  obtain ⟨here, next, earlier, heard, rest⟩ := heard_at read split
  refine ⟨?_, ?_, ?_, ?_⟩
  · intro disconnect
    obtain ⟨payload, rfl, type⟩ := packet_of_type disconnect rfl
    change here.say (payloadType payload) = some next at heard
    rw [type] at heard
    rw [Talk.say_disconnect heard] at rest
    cases after with
    | nil => rfl
    | cons more after =>
        rw [History.run, List.foldlM_cons, Talk.closed_hear] at rest
        cases rest
  · rintro event rfl
    obtain ⟨inSession, _⟩ := Option.ite_none_right_eq_some.mp heard
    exact ((recalls_run earlier).inSession inSession).2
  · intro refusal
    obtain ⟨payload, rfl, type⟩ := packet_of_type refusal rfl
    change here.say (payloadType payload) = some next at heard
    rw [type] at heard
    rw [Talk.say_requestFailure heard] at earlier
    obtain ⟨past, packet, same, owed⟩ := owed_of_run earlier
    obtain ⟨global, request, parsed, wanted⟩ := process_owed.mp owed
    exact ⟨past, packet, request, same, global, parsed, wanted⟩
  · rintro packet request reply later rfl rfl global parsed wanted
    obtain ⟨_, same⟩ := Option.ite_none_right_eq_some.mp heard
    rw [process_owed.mpr ⟨global, request, parsed, wanted⟩] at same
    cases same
    rw [History.run, List.foldlM_cons] at rest
    obtain ⟨last, answered, _⟩ := Option.bind_eq_some_iff.mp rest
    cases reply with
    | packet payload => exact Talk.owed_say answered
    | _ => cases answered

def exchange : List (HubEvent String Unit) :=
  [.arrived plainStream "192.0.2.1:22" plainProvider.secureRandom, .task 0 .acquire,
    .task 0 (.turn { host := plainHost, draws := plainDraws })] ++
    plainTurns.map fun turn => .task 0 (.turn turn)

theorem conversation_in_order_exchange :
    ∃ (hub : Hub String PlainSealer PlainOpener Unit)
      (task : Task String PlainSealer PlainOpener Unit) (talk : Talk),
      History.run (Hub.step plainServer false) {} exchange = some hub ∧ task ∈ hub.tasks ∧
      task.link.log.map Act.type = [some .keyExchangeInit, some .keyExchangeEcdhReply,
        some .newKeys, none, some .ignore] ∧
      History.run Talk.hear .exchanging task.link.log = some talk := by
  have shown : (History.run (Hub.step plainServer false) {} exchange).bind (fun hub =>
      hub.tasks[0]?.map fun task => task.link.log.map Act.type) =
      some [some .keyExchangeInit, some .keyExchangeEcdhReply, some .newKeys, none,
        some .ignore] := by
    decide +kernel
  obtain ⟨hub, ran, found⟩ := Option.bind_eq_some_iff.mp shown
  obtain ⟨task, stood, types⟩ := Option.map_eq_some_iff.mp found
  have member := List.mem_of_getElem? stood
  obtain ⟨talk, read⟩ := (conversation_in_order plainServer false exchange ran member).1
  exact ⟨hub, task, talk, ran, member, types, read⟩

end Result

end Oxish
