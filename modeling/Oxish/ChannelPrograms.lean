import Oxish.SessionCore

/-!
The operations of the channels are programs over a few primitives: a change of the table, an
event, a message, an answer of the operating system. What holds of every primitive holds of every
operation, whether it succeeds or stops half way.
-/

namespace Oxish

open Stateful

variable {σ τ β : Type}

def Event.payload : Event τ → Option Bytes
  | .sent _ message => some message.encode
  | .refused failure => some failure.encode
  | _ => none

def Event.Within (Spawns : Option String → List (String × String) → Prop) : Event τ → Prop
  | .spawned _ command env _ => Spawns command env
  | _ => True

theorem Event.within_of_payload {Spawns : Option String → List (String × String) → Prop}
    {event : Event τ} {payload : Bytes} (shown : event.payload = some payload) :
    event.Within Spawns := by
  cases event with
  | spawned localId command env terminal => cases shown
  | _ => trivial

variable [SealingKey σ] {Spawns : Option String → List (String × String) → Prop}

def tabled (change : Channels τ → β × Channels τ) : Operation σ τ β :=
  ExceptT.mk fun mux => (.ok (change mux.channels).1, { mux with channels := (change mux.channels).2 })

def decided (outcome : Except (Stop Error) β) : Operation σ τ β :=
  ExceptT.mk fun mux => (outcome, mux)

inductive MuxPrimitive (Spawns : Option String → List (String × String) → Prop) :
    ∀ β : Type, Operation σ τ β → Prop
  | tabled {β : Type} (change : Channels τ → β × Channels τ) :
      MuxPrimitive Spawns β (tabled change)
  | noted (event : Event τ) (silent : event.payload = none) (within : event.Within Spawns) :
      MuxPrimitive Spawns Unit (note event)
  | transmitted (event : Event τ) (payload : Bytes) (shown : event.payload = some payload) :
      MuxPrimitive Spawns Unit (transmitAs event payload)
  | decided {β : Type} (outcome : Except (Stop Error) β) : MuxPrimitive Spawns β (decided outcome)

abbrev MuxBuilt (Spawns : Option String → List (String × String) → Prop)
    (operation : Operation σ τ β) : Prop :=
  Built (MuxPrimitive Spawns) operation

theorem lookupChannel_built (localId : UInt32) :
    MuxBuilt Spawns (lookupChannel localId : Operation σ τ _) :=
  .primitive (.tabled fun channels => (channels.channels[localId]?, channels))

theorem putChannel_built (localId : UInt32) (channel : Channel τ) :
    MuxBuilt Spawns (putChannel localId channel : Operation σ τ Unit) :=
  .primitive (.tabled fun channels => ((), channels.put localId channel))

theorem removeChannel_built (localId : UInt32) :
    MuxBuilt Spawns (removeChannel localId : Operation σ τ Unit) := by
  have parts : MuxBuilt Spawns (do
      tabled fun channels => ((), channels.remove localId)
      note (.removed localId) : Operation σ τ Unit) :=
    .bind (.primitive (.tabled _)) fun _ => .primitive (.noted _ rfl trivial)
  exact parts

theorem note_built {event : Event τ} (silent : event.payload = none)
    (within : event.Within Spawns) : MuxBuilt Spawns (note event : Operation σ τ Unit) :=
  .primitive (.noted event silent within)

theorem transmit_built (localId : UInt32) (message : ServerMessage) :
    MuxBuilt Spawns (transmit localId message : Operation σ τ Unit) :=
  .primitive (.transmitted _ _ rfl)

theorem refuse_built (failure : ChannelOpenFailure) :
    MuxBuilt Spawns (refuse failure : Operation σ τ Unit) :=
  .primitive (.transmitted _ _ rfl)

theorem attemptIo_built (outcome : Except IoError β) :
    MuxBuilt Spawns (attemptIo outcome : Operation σ τ β) :=
  .primitive (.decided _)

theorem parseMessage_built (packet : IncomingPacket) :
    MuxBuilt Spawns (parseMessage packet : Operation σ τ _) :=
  .primitive (.decided _)

namespace Channels

theorem open_built (open_ : ChannelOpen) : MuxBuilt Spawns (Channels.open open_ : Operation σ τ Unit) := by
  unfold Channels.open
  split
  · exact refuse_built _
  · refine .bind (.primitive (.tabled fun channels =>
      (channels.nextId, { channels with nextId := channels.nextId + 1 }))) fun localId => ?_
    refine (lookupChannel_built localId).bind fun entry => ?_
    cases entry with
    | some other => exact refuse_built _
    | none =>
        refine (putChannel_built _ _).bind fun _ => ?_
        refine .bind (note_built rfl trivial) fun _ => ?_
        exact transmit_built _ _

theorem replyFailure_built (localId : UInt32) (channel : Channel τ) (wantReply : Bool) :
    MuxBuilt Spawns (replyFailure localId channel wantReply : Operation σ τ Unit) := by
  unfold replyFailure
  split
  · exact transmit_built _ _
  · exact .pure _

theorem finishRequest_built (localId : UInt32) (channel : Channel τ) (wantReply : Bool)
    (banner : Option Bytes) :
    MuxBuilt Spawns (finishRequest localId channel wantReply banner : Operation σ τ Unit) := by
  refine .bind ?_ fun _ => ?_
  · unfold replySuccess
    split
    · exact transmit_built _ _
    · exact .pure _
  · unfold sendBanner
    split
    · exact .pure _
    · split
      · exact .pure _
      · exact (putChannel_built _ _).bind fun _ => transmit_built _ _

theorem resizeTerminal_built (host : TerminalHost τ) (channel : Channel τ)
    (windowChange : WindowChange) :
    MuxBuilt Spawns (resizeTerminal host channel windowChange : Operation σ τ Unit) := by
  unfold resizeTerminal
  split
  · exact attemptIo_built _
  · exact .pure _

theorem requestShell_built (host : TerminalHost τ) (localId : UInt32) {channel : Channel τ}
    {options : KeyOptions} (allowed : Spawns options.command channel.env) :
    MuxBuilt Spawns (requestShell host localId channel options : Operation σ τ (Channel τ)) := by
  unfold requestShell
  split
  · refine (putChannel_built _ _).bind fun _ => ?_
    refine (attemptIo_built _).bind fun terminal => ?_
    refine (putChannel_built _ _).bind fun _ => ?_
    refine .bind (note_built rfl allowed) fun _ => ?_
    exact (transmit_built _ _).bind fun _ => .pure _
  · exact (putChannel_built _ _).bind fun _ => .throw _

def answer (host : TerminalHost τ) (request : ChannelRequest) (banner : Option Bytes)
    (options : KeyOptions) (channel : Channel τ) : Operation σ τ Unit :=
  match request.type with
  | .ptyReq ptyReq => do
    putChannel request.recipientChannel { channel with terminal := some (.requested ptyReq) }
    finishRequest request.recipientChannel { channel with terminal := some (.requested ptyReq) }
      request.wantReply banner
  | .env env =>
    if envAllowed env.name && channel.env.length < 32 then do
      putChannel request.recipientChannel
        { channel with env := channel.env ++ [(env.name, env.value)] }
      finishRequest request.recipientChannel
        { channel with env := channel.env ++ [(env.name, env.value)] } request.wantReply banner
    else replyFailure request.recipientChannel channel request.wantReply
  | .shell => do
    let channel ← requestShell host request.recipientChannel channel options
    finishRequest request.recipientChannel channel request.wantReply banner
  | .windowChange windowChange => do
    resizeTerminal host channel windowChange
    finishRequest request.recipientChannel channel request.wantReply banner
  | .exitStatus _ | .authAgentReq | .unknown _ | .exec _ =>
    replyFailure request.recipientChannel channel request.wantReply

theorem request_eq (host : TerminalHost τ) (request : ChannelRequest) (banner : Option Bytes)
    (options : KeyOptions) :
    (Channels.request host request banner options : Operation σ τ Unit) = (do
      match ← lookupChannel request.recipientChannel with
      | none => invalidPacket "channel request for unknown channel ID"
      | some channel => answer host request banner options channel) := rfl

theorem answer_built (host : TerminalHost τ) (request : ChannelRequest) (banner : Option Bytes)
    {options : KeyOptions} {channel : Channel τ} (allowed : Spawns options.command channel.env) :
    MuxBuilt Spawns (answer host request banner options channel : Operation σ τ Unit) := by
  unfold answer
  split
  · exact (putChannel_built _ _).bind fun _ => finishRequest_built _ _ _ _
  · split
    · exact (putChannel_built _ _).bind fun _ => finishRequest_built _ _ _ _
    · exact replyFailure_built _ _ _
  · exact (requestShell_built _ _ allowed).bind fun _ => finishRequest_built _ _ _ _
  · exact (resizeTerminal_built _ _ _).bind fun _ => finishRequest_built _ _ _ _
  · exact replyFailure_built _ _ _
  · exact replyFailure_built _ _ _
  · exact replyFailure_built _ _ _
  · exact replyFailure_built _ _ _

theorem request_built (host : TerminalHost τ) (request : ChannelRequest) (banner : Option Bytes)
    {options : KeyOptions} (allowed : ∀ env, Spawns options.command env) :
    MuxBuilt Spawns (Channels.request host request banner options : Operation σ τ Unit) := by
  rw [request_eq]
  refine (lookupChannel_built _).bind fun entry => ?_
  cases entry with
  | none => exact .throw _
  | some channel => exact answer_built host request banner (allowed channel.env)

theorem adjustWindow_built (adjust : ChannelWindowAdjust) :
    MuxBuilt Spawns (adjustWindow adjust : Operation σ τ Unit) := by
  refine (lookupChannel_built _).bind fun entry => ?_
  cases entry with
  | none => exact .throw _
  | some channel => exact (putChannel_built _ _).bind fun _ => note_built rfl trivial

theorem topUp_built (localId : UInt32) (channel : Channel τ) :
    MuxBuilt Spawns (topUp localId channel : Operation σ τ Unit) := by
  unfold topUp
  split
  · exact (putChannel_built _ _).bind fun _ => transmit_built _ _
  · exact .pure _

theorem data_built (data : ChannelData) : MuxBuilt Spawns (Channels.data data : Operation σ τ _) := by
  refine (lookupChannel_built _).bind fun entry => ?_
  cases entry with
  | none => exact .throw _
  | some channel =>
      dsimp only
      split
      · exact .throw _
      · refine (putChannel_built _ _).bind fun _ => ?_
        refine .bind (note_built rfl trivial) fun _ => ?_
        refine (topUp_built _ _).bind fun _ => ?_
        split
        · exact .pure _
        · exact .pure _

theorem eof_built (eof : ChannelEof) : MuxBuilt Spawns (Channels.eof eof : Operation σ τ Unit) := by
  refine (lookupChannel_built _).bind fun entry => ?_
  cases entry with
  | none => exact .throw _
  | some channel => exact .pure _

theorem close_built (host : TerminalHost τ) (close : ChannelClose) :
    MuxBuilt Spawns (Channels.close host close : Operation σ τ Unit) := by
  refine (lookupChannel_built _).bind fun entry => ?_
  cases entry with
  | none => exact .pure _
  | some channel =>
      have replied : MuxBuilt Spawns (replyClose close.recipientChannel channel : Operation σ τ _) := by
        unfold replyClose
        split
        · exact .pure _
        · refine (putChannel_built _ _).bind fun _ => ?_
          exact (transmit_built _ _).bind fun _ => .pure _
      refine replied.bind fun channel => ?_
      have reaping (terminal : τ) : MuxBuilt Spawns (do
          note (.killed close.recipientChannel terminal)
          putChannel close.recipientChannel { channel with
            terminal := some (.reaping terminal
              (host.now close.recipientChannel + exitGracePeriod)) } : Operation σ τ Unit) :=
        .bind (note_built rfl trivial) fun _ => putChannel_built _ _
      split
      · exact reaping _
      · exact reaping _
      · exact .pure _
      · exact removeChannel_built _
      · exact removeChannel_built _
      · exact removeChannel_built _
      · exact removeChannel_built _

theorem handle_built (host : TerminalHost τ) (session : SessionView)
    (message : IncomingChannelMessage)
    (allowed : ∀ request, message = .request request → ∀ env, Spawns session.options.command env) :
    MuxBuilt Spawns (Channels.handle host session message : Operation σ τ Unit) := by
  cases message with
  | «open» message => exact open_built message
  | request message => exact request_built host message _ (allowed message rfl)
  | data message =>
      refine (data_built message).bind fun delivered => ?_
      cases delivered with
      | some found => exact attemptIo_built _
      | none => exact .pure _
  | windowAdjust message => exact adjustWindow_built message
  | eof message => exact eof_built message
  | close message => exact close_built host message

end Channels

namespace TerminalsFuture

theorem pollClosing_built (localId : UInt32) (channel : Channel τ) :
    MuxBuilt Spawns (pollClosing localId channel : Operation σ τ Polled) := by
  unfold pollClosing
  split
  · exact .pure _
  · refine (putChannel_built _ _).bind fun _ => ?_
    exact (transmit_built _ _).bind fun _ => .pure _

theorem pollExited_built (localId : UInt32) (channel : Channel τ) (status : UInt32) :
    MuxBuilt Spawns (pollExited localId channel status : Operation σ τ Polled) := by
  refine (putChannel_built _ _).bind fun _ => ?_
  dsimp only
  split
  · exact pollClosing_built _ _
  · exact (transmit_built _ _).bind fun _ => .pure _

theorem pollExiting_built (host : TerminalHost τ) (localId : UInt32) (channel : Channel τ)
    (terminal : τ) (deadline : Instant) :
    MuxBuilt Spawns (pollExiting host localId channel terminal deadline : Operation σ τ Polled) := by
  have ended : MuxBuilt Spawns (do
      note (.waited localId terminal)
      putChannel localId { channel with terminal := some .closing }
      pollClosing localId { channel with terminal := some .closing } : Operation σ τ Polled) :=
    .bind (note_built rfl trivial) fun _ => (putChannel_built _ _).bind fun _ => pollClosing_built _ _
  unfold pollExiting
  split
  · refine .bind (note_built rfl trivial) fun _ => ?_
    exact (putChannel_built _ _).bind fun _ => pollExited_built _ _ _
  · exact ended
  · exact ended
  · split
    · exact .pure _
    · exact .bind (note_built rfl trivial) fun _ => .pure _

theorem pollReaping_built (host : TerminalHost τ) (localId : UInt32) (terminal : τ)
    (deadline : Instant) :
    MuxBuilt Spawns (pollReaping host localId terminal deadline : Operation σ τ Polled) := by
  unfold pollReaping
  split
  · exact .bind (note_built rfl trivial) fun _ => .pure _
  · split
    · exact .pure _
    · exact .pure _

theorem pollRunning_built (host : TerminalHost τ) (localId : UInt32) (channel : Channel τ)
    (terminal : τ) : MuxBuilt Spawns (pollRunning host localId channel terminal : Operation σ τ Polled) := by
  unfold pollRunning
  dsimp only
  split
  · exact .pure _
  · split
    · exact .pure _
    · exact .bind (note_built rfl trivial) fun _ => .throw _
    · split
      · refine (putChannel_built _ _).bind fun _ => ?_
        exact (transmit_built _ _).bind fun _ => .pure _
      · refine (putChannel_built _ _).bind fun _ => ?_
        split
        · refine .bind (note_built rfl trivial) fun _ => ?_
          exact (transmit_built _ _).bind fun _ => .pure _
        · exact .throw _

theorem pollChannel_built (host : TerminalHost τ) (localId : UInt32) (channel : Channel τ) :
    MuxBuilt Spawns (pollChannel host localId channel : Operation σ τ Polled) := by
  unfold pollChannel
  split
  · exact .pure _
  · exact .pure _
  · exact pollRunning_built _ _ _ _
  · exact pollExiting_built _ _ _ _ _
  · exact pollExited_built _ _ _
  · exact pollReaping_built _ _ _ _
  · exact pollClosing_built _ _

theorem pollEach_built (host : TerminalHost τ) (localIds : List UInt32) :
    MuxBuilt Spawns (pollEach host localIds : Operation σ τ (Poll Unit)) := by
  induction localIds with
  | nil => exact .pure _
  | cons localId localIds ih =>
      refine (lookupChannel_built _).bind fun entry => ?_
      cases entry with
      | none => exact ih
      | some channel =>
          refine (pollChannel_built _ _ _).bind fun polled => ?_
          cases polled with
          | next => exact ih
          | ready => exact .pure _
          | remove => exact (removeChannel_built _).bind fun _ => .pure _

theorem poll_built (host : TerminalHost τ) : MuxBuilt Spawns (poll host : Operation σ τ (Poll Unit)) :=
  .bind (.primitive (.tabled fun channels => (channels.channels.keys, channels)))
    fun localIds => pollEach_built host localIds

end TerminalsFuture

theorem SessionInput.operation_built (host : TerminalHost τ) (input : SessionInput) :
    MuxBuilt (fun _ _ => True) (input.operation host : Operation σ τ Unit) := by
  cases input with
  | received packet session =>
      refine (parseMessage_built packet).bind fun message => ?_
      exact Channels.handle_built host session message fun _ _ _ => trivial
  | terminals => exact (TerminalsFuture.poll_built host).bind fun _ => .pure _

end Oxish
