import Oxish.AuthenticationCore
import Oxish.ChannelsCore
import Mathlib.Data.List.Induction

/-!
The channels of a session: the operations a client message triggers, and one poll of the
terminals. `TerminalHost` is what the operating system answers during one step, so that it can
answer differently in every step. The log is bookkeeping for statements about a run: what was
sent for a channel, what was taken from the client, and what was done to a terminal.
-/

namespace Oxish

open Std (TreeMap)

inductive Poll (α : Type) where
  | ready (value : α)
  | pending

abbrev Instant := Nat

-- `count` is what `poll_read` returns and `buffer` what the whole buffer holds afterwards.
structure ReadOutcome where
  count : Nat
  buffer : FixedBytes 4096

structure TerminalHost (τ : Type) where
  spawn : Option String → PtyReq → List (String × String) → Except IoError τ
  resize : τ → WindowChange → Except IoError Unit
  write : τ → Bytes → Except IoError Unit
  pollRead : τ → Nat → Poll (Except IoError ReadOutcome)
  pollWait : τ → Poll (Except IoError (Option Int32))
  now : UInt32 → Instant

inductive TerminalState (τ : Type) where
  | requested (ptyReq : PtyReq)
  | running (terminal : τ)
  | exiting (terminal : τ) (deadline : Instant)
  | exited (status : UInt32)
  | reaping (terminal : τ) (deadline : Instant)
  | closing

structure Channel (τ : Type) where
  remoteId : UInt32
  sendWindow : UInt32
  receiveWindow : UInt32
  maximumPacketSize : UInt32
  env : List (String × String)
  terminal : Option (TerminalState τ)
  closeSent : Bool

structure Channels (τ : Type) where
  nextId : UInt32 := 0
  channels : TreeMap UInt32 (Channel τ) := ∅

-- Two messages carry channel data; they are encoded alike.
inductive ServerMessage where
  | openConfirmation (confirmation : ChannelOpenConfirmation)
  | openFailure (failure : ChannelOpenFailure)
  | windowAdjust (adjust : ChannelWindowAdjust)
  | success (success : ChannelRequestSuccess)
  | failure (failure : ChannelRequestFailure)
  | banner (data : ChannelData)
  | data (data : ChannelData)
  | exitStatus (request : ChannelRequest)
  | eof (eof : ChannelEof)
  | close (close : ChannelClose)

def ServerMessage.encode : ServerMessage → Bytes
  | .openConfirmation message => message.encode
  | .openFailure message => message.encode
  | .windowAdjust message => message.encode
  | .success message => message.encode
  | .failure message => message.encode
  | .banner message | .data message => message.encode
  | .exitStatus message => message.encode
  | .eof message => message.encode
  | .close message => message.encode

inductive Event (τ : Type) where
  | opened (localId : UInt32) (open_ : ChannelOpen)
  | removed (localId : UInt32)
  | refused (failure : ChannelOpenFailure)
  | sent (localId : UInt32) (message : ServerMessage)
  | accepted (localId : UInt32) (data : Bytes)
  | granted (localId : UInt32) (bytesToAdd : UInt32)
  | spawned (localId : UInt32) (command : Option String) (env : List (String × String))
      (terminal : τ)
  | read (localId : UInt32) (terminal : τ) (data : Bytes)
  | waited (localId : UInt32) (terminal : τ)
  | killed (localId : UInt32) (terminal : τ)

structure Mux (σ τ : Type) where
  channels : Channels τ
  write : WriteState σ
  log : List (Event τ) := []

abbrev Operation (σ τ α : Type) := Stateful.Run (Stop Error) (Mux σ τ) α

variable {σ τ : Type}

def lookupChannel (localId : UInt32) : Operation σ τ (Option (Channel τ)) :=
  ExceptT.mk fun mux => (.ok mux.channels.channels[localId]?, mux)

def Channels.put (channels : Channels τ) (localId : UInt32) (channel : Channel τ) : Channels τ :=
  { channels with channels := channels.channels.insert localId channel }

def Channels.remove (channels : Channels τ) (localId : UInt32) : Channels τ :=
  { channels with channels := channels.channels.erase localId }

def putChannel (localId : UInt32) (channel : Channel τ) : Operation σ τ Unit :=
  ExceptT.mk fun mux => (.ok (), { mux with channels := mux.channels.put localId channel })

def removeChannel (localId : UInt32) : Operation σ τ Unit :=
  ExceptT.mk fun mux =>
    (.ok (), { mux with
      channels := mux.channels.remove localId
      log := mux.log ++ [.removed localId] })

def note (event : Event τ) : Operation σ τ Unit :=
  ExceptT.mk fun mux => (.ok (), { mux with log := mux.log ++ [event] })

def attemptIo {α : Type} (outcome : Except IoError α) : Operation σ τ α :=
  ExceptT.mk fun mux => (raise (outcome.mapError Error.io), mux)

def invalidPacket {α : Type} (message : String) : Operation σ τ α :=
  throw (.error (.proto (.invalidPacket message)))

variable [SealingKey σ]

def Mux.encode (mux : Mux σ τ) (event : Event τ) (payload : Bytes) :
    Except (Stop Error) Unit × Mux σ τ :=
  match mux.write.encode payload with
  | (write, .ok ()) => (.ok (), { mux with write, log := mux.log ++ [event] })
  | (write, .error stop) => (.error (stopInto .proto stop), { mux with write })

def transmitAs (event : Event τ) (payload : Bytes) : Operation σ τ Unit :=
  ExceptT.mk fun mux => mux.encode event payload

def transmit (localId : UInt32) (message : ServerMessage) : Operation σ τ Unit :=
  transmitAs (.sent localId message) message.encode

def refuse (failure : ChannelOpenFailure) : Operation σ τ Unit :=
  transmitAs (.refused failure) failure.encode

def initialWindowSize : UInt32 := 16 * UInt32.ofNat maxPacketLen

def exitGracePeriod : Instant := 5

def checkedSub (window : UInt32) (count : UInt32) : Option UInt32 :=
  if count ≤ window then some (window - count) else none

def saturatingSub (window : UInt32) (count : UInt32) : UInt32 := (checkedSub window count).getD 0

def saturatingAdd (window : UInt32) (count : UInt32) : UInt32 :=
  if window.toNat + count.toNat < 2 ^ 32 then window + count else UInt32.ofNat (2 ^ 32 - 1)

def lenAsU32 (bytes : Bytes) : UInt32 := UInt32.ofNat bytes.length

namespace Channel

def confirmation (channel : Channel τ) (localId : UInt32) : ChannelOpenConfirmation where
  recipientChannel := channel.remoteId
  senderChannel := localId
  initialWindowSize := 0
  maximumPacketSize := UInt32.ofNat maxPacketLen - 64

def success (channel : Channel τ) : ChannelRequestSuccess := { recipientChannel := channel.remoteId }

def failure (channel : Channel τ) : ChannelRequestFailure := { recipientChannel := channel.remoteId }

end Channel

def allowEnv : List String := ["TZ", "LANG"]

def envAllowed (name : String) : Bool :=
  allowEnv.contains name || (strBytes "LC_").isPrefixOf (strBytes name)

def openedChannel (open_ : ChannelOpen) : Channel τ where
  remoteId := open_.senderChannel
  sendWindow := open_.initialWindowSize
  receiveWindow := 0
  maximumPacketSize := open_.maximumPacketSize
  env := []
  terminal := none
  closeSent := false

namespace Channels

def «open» (open_ : ChannelOpen) : Operation σ τ Unit :=
  if open_.type ≠ .session then refuse (.unknownType open_.senderChannel)
  else do
    let localId ← ExceptT.mk fun mux =>
      (.ok mux.channels.nextId,
        { mux with channels := { mux.channels with nextId := mux.channels.nextId + 1 } })
    match ← lookupChannel localId with
    | some _ => refuse (.duplicateId open_.senderChannel)
    | none =>
      putChannel localId (openedChannel open_)
      note (.opened localId open_)
      transmit localId
        (.openConfirmation ((openedChannel open_ : Channel τ).confirmation localId))

def replyFailure (localId : UInt32) (channel : Channel τ) (wantReply : Bool) :
    Operation σ τ Unit :=
  if wantReply then transmit localId (.failure channel.failure) else pure ()

def replySuccess (localId : UInt32) (channel : Channel τ) (wantReply : Bool) :
    Operation σ τ Unit :=
  if wantReply then transmit localId (.success channel.success) else pure ()

def sendBanner (localId : UInt32) (channel : Channel τ) : Option Bytes → Operation σ τ Unit
  | none => pure ()
  | some banner =>
    match checkedSub channel.sendWindow (lenAsU32 banner) with
    | none => pure ()
    | some window => do
      putChannel localId { channel with sendWindow := window }
      transmit localId (.banner { recipientChannel := channel.remoteId, data := banner })

-- What follows a request that was carried out: the reply, and the banner if it fits.
def finishRequest (localId : UInt32) (channel : Channel τ) (wantReply : Bool)
    (banner : Option Bytes) : Operation σ τ Unit := do
  replySuccess localId channel wantReply
  sendBanner localId channel banner

def resizeTerminal (host : TerminalHost τ) (channel : Channel τ) (windowChange : WindowChange) :
    Operation σ τ Unit :=
  match channel.terminal with
  | some (.running terminal) => attemptIo (host.resize terminal windowChange)
  | _ => pure ()

def requestShell (host : TerminalHost τ) (localId : UInt32) (channel : Channel τ)
    (options : KeyOptions) : Operation σ τ (Channel τ) :=
  match channel.terminal with
  | some (.requested ptyReq) => do
    putChannel localId { channel with terminal := none }
    let terminal ← attemptIo (host.spawn options.command ptyReq channel.env)
    let channel := {
      channel with terminal := some (.running terminal), receiveWindow := initialWindowSize }
    putChannel localId channel
    note (.spawned localId options.command channel.env terminal)
    transmit localId (.windowAdjust {
      recipientChannel := channel.remoteId, bytesToAdd := initialWindowSize })
    pure channel
  | _ => do
    putChannel localId { channel with terminal := none }
    invalidPacket "shell request without prior pty-req"

def request (host : TerminalHost τ) (request : ChannelRequest) (banner : Option Bytes)
    (options : KeyOptions) : Operation σ τ Unit := do
  let localId := request.recipientChannel
  match ← lookupChannel localId with
  | none => invalidPacket "channel request for unknown channel ID"
  | some channel =>
    match request.type with
    | .ptyReq ptyReq => do
      let channel := { channel with terminal := some (.requested ptyReq) }
      putChannel localId channel
      finishRequest localId channel request.wantReply banner
    | .env env =>
      if envAllowed env.name && channel.env.length < 32 then do
        let channel := { channel with env := channel.env ++ [(env.name, env.value)] }
        putChannel localId channel
        finishRequest localId channel request.wantReply banner
      else replyFailure localId channel request.wantReply
    | .shell => do
      let channel ← requestShell host localId channel options
      finishRequest localId channel request.wantReply banner
    | .windowChange windowChange => do
      resizeTerminal host channel windowChange
      finishRequest localId channel request.wantReply banner
    | .exitStatus _ | .authAgentReq | .unknown _ | .exec _ =>
      replyFailure localId channel request.wantReply

def adjustWindow (adjust : ChannelWindowAdjust) : Operation σ τ Unit := do
  match ← lookupChannel adjust.recipientChannel with
  | none => invalidPacket "channel window adjust for unknown channel ID"
  | some channel => do
    putChannel adjust.recipientChannel
      { channel with sendWindow := saturatingAdd channel.sendWindow adjust.bytesToAdd }
    note (.granted adjust.recipientChannel adjust.bytesToAdd)

def topUp (localId : UInt32) (channel : Channel τ) : Operation σ τ Unit :=
  if channel.receiveWindow < initialWindowSize / 2 then do
    let bytesToAdd := initialWindowSize - channel.receiveWindow
    putChannel localId { channel with receiveWindow := initialWindowSize }
    transmit localId (.windowAdjust { recipientChannel := channel.remoteId, bytesToAdd })
  else pure ()

def data (data : ChannelData) : Operation σ τ (Option (τ × Bytes)) := do
  let localId := data.recipientChannel
  match ← lookupChannel localId with
  | none => invalidPacket "channel data for unknown channel ID"
  | some channel =>
    match checkedSub channel.receiveWindow (lenAsU32 data.data) with
    | none => invalidPacket "channel data exceeds receive window"
    | some window => do
      let channel := { channel with receiveWindow := window }
      putChannel localId channel
      note (.accepted localId data.data)
      topUp localId channel
      match channel.terminal with
      | some (.running terminal) => pure (some (terminal, data.data))
      | _ => pure none

def eof (eof : ChannelEof) : Operation σ τ Unit := do
  match ← lookupChannel eof.recipientChannel with
  | none => invalidPacket "channel eof for unknown channel ID"
  | some _ => pure ()

def replyClose (localId : UInt32) (channel : Channel τ) : Operation σ τ (Channel τ) :=
  if channel.closeSent then pure channel
  else do
    let channel := { channel with closeSent := true }
    putChannel localId channel
    transmit localId (.close { recipientChannel := channel.remoteId })
    pure channel

def close (host : TerminalHost τ) (close : ChannelClose) : Operation σ τ Unit := do
  let localId := close.recipientChannel
  match ← lookupChannel localId with
  | none => pure ()
  | some channel => do
    let channel ← replyClose localId channel
    match channel.terminal with
    | some (.running terminal) | some (.exiting terminal _) => do
      note (.killed localId terminal)
      let deadline := host.now localId + exitGracePeriod
      putChannel localId { channel with terminal := some (.reaping terminal deadline) }
    | some (.reaping _ _) => pure ()
    | some (.requested _) | some (.exited _) | some .closing | none => removeChannel localId

end Channels

namespace TerminalsFuture

inductive Polled where
  | next
  | ready
  | remove

def pollClosing (localId : UInt32) (channel : Channel τ) : Operation σ τ Polled :=
  if channel.closeSent then pure .next
  else do
    putChannel localId { channel with closeSent := true }
    transmit localId (.close { recipientChannel := channel.remoteId })
    pure .ready

def pollExited (localId : UInt32) (channel : Channel τ) (status : UInt32) :
    Operation σ τ Polled := do
  let request := {
    recipientChannel := channel.remoteId
    type := .exitStatus status
    wantReply := false }
  let channel := { channel with terminal := some .closing }
  putChannel localId channel
  if channel.closeSent then pollClosing localId channel
  else do
    transmit localId (.exitStatus request)
    pure .ready

def pollExiting (host : TerminalHost τ) (localId : UInt32) (channel : Channel τ) (terminal : τ)
    (deadline : Instant) : Operation σ τ Polled :=
  match host.pollWait terminal with
  | .ready (.ok (some code)) => do
    note (.waited localId terminal)
    let channel := { channel with terminal := some (.exited code.toUInt32) }
    putChannel localId channel
    pollExited localId channel code.toUInt32
  | .ready (.ok none) | .ready (.error _) => do
    note (.waited localId terminal)
    let channel := { channel with terminal := some .closing }
    putChannel localId channel
    pollClosing localId channel
  | .pending =>
    if host.now localId < deadline then pure .next
    else do
      note (.killed localId terminal)
      pure .next

def pollReaping (host : TerminalHost τ) (localId : UInt32) (terminal : τ) (deadline : Instant) :
    Operation σ τ Polled :=
  match host.pollWait terminal with
  | .ready _ => do
    note (.waited localId terminal)
    pure .remove
  | .pending => if host.now localId < deadline then pure .next else pure .remove

def bufLen : Nat := 4096

def pollRunning (host : TerminalHost τ) (localId : UInt32) (channel : Channel τ) (terminal : τ) :
    Operation σ τ Polled :=
  let limit := (min channel.maximumPacketSize channel.sendWindow).toNat
  if limit = 0 then pure .next
  else
    match host.pollRead terminal (min limit bufLen) with
    | .pending => pure .next
    | .ready (.error error) => do
      note (.killed localId terminal)
      throw (.error (.io error))
    | .ready (.ok outcome) =>
      if outcome.count = 0 then do
        let deadline := host.now localId + exitGracePeriod
        putChannel localId { channel with terminal := some (.exiting terminal deadline) }
        transmit localId (.eof { recipientChannel := channel.remoteId })
        pure .ready
      else do
        putChannel localId { channel with
          sendWindow := saturatingSub channel.sendWindow (UInt32.ofNat outcome.count) }
        if outcome.count ≤ bufLen then do
          let data := outcome.buffer.val.take outcome.count
          note (.read localId terminal data)
          transmit localId (.data { recipientChannel := channel.remoteId, data })
          pure .ready
        else throw (.panic "range end index out of range for slice")

def pollChannel (host : TerminalHost τ) (localId : UInt32) (channel : Channel τ) :
    Operation σ τ Polled :=
  match channel.terminal with
  | none | some (.requested _) => pure .next
  | some (.running terminal) => pollRunning host localId channel terminal
  | some (.exiting terminal deadline) => pollExiting host localId channel terminal deadline
  | some (.exited status) => pollExited localId channel status
  | some (.reaping terminal deadline) => pollReaping host localId terminal deadline
  | some .closing => pollClosing localId channel

-- The channels are visited in the order of their ids. No entry comes or goes on the way.
def pollEach (host : TerminalHost τ) : List UInt32 → Operation σ τ (Poll Unit)
  | [] => pure .pending
  | localId :: localIds => do
    match ← lookupChannel localId with
    | none => pollEach host localIds
    | some channel =>
      match ← pollChannel host localId channel with
      | .next => pollEach host localIds
      | .ready => pure (.ready ())
      | .remove => do
        removeChannel localId
        pure (.ready ())

def poll (host : TerminalHost τ) : Operation σ τ (Poll Unit) := do
  let localIds ← ExceptT.mk fun mux => (.ok mux.channels.channels.keys, mux)
  pollEach host localIds

end TerminalsFuture

inductive IncomingChannelMessage where
  | open (message : ChannelOpen)
  | request (message : ChannelRequest)
  | data (message : ChannelData)
  | windowAdjust (message : ChannelWindowAdjust)
  | eof (message : ChannelEof)
  | close (message : ChannelClose)

def IncomingChannelMessage.tryFrom (packet : IncomingPacket) :
    Except ProtoError IncomingChannelMessage :=
  match packet.messageType with
  | .channelOpen => (ChannelOpen.tryFrom packet).map .open
  | .channelRequest => (ChannelRequest.tryFrom packet).map .request
  | .channelData => (ChannelData.tryFrom packet).map .data
  | .channelWindowAdjust => (ChannelWindowAdjust.tryFrom packet).map .windowAdjust
  | .channelEof => (ChannelEof.tryFrom packet).map .eof
  | .channelClose => (ChannelClose.tryFrom packet).map .close
  | messageType => .error (.unexpectedMessage messageType
      [.channelOpen, .channelRequest, .channelData, .channelWindowAdjust, .channelEof,
        .channelClose])

end Oxish
