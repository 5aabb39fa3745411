import Oxish.NamedCore

/-!
The messages of the connection layer: opening and closing channels, channel requests with their
type-specific data, channel data and window adjustments.
-/

namespace Oxish

def whenEmpty {α : Type} (next : Bytes) (message : String) (value : α) : Except ProtoError α :=
  if next.isEmpty then .ok value else .error (.invalidPacket message)

structure ChannelOpen where
  type : ChannelType
  senderChannel : UInt32
  initialWindowSize : UInt32
  maximumPacketSize : UInt32
  deriving DecidableEq, Repr

-- Only a session has no data of its own after the common fields.
def ChannelOpen.tryFrom (packet : IncomingPacket) : Except ProtoError ChannelOpen := do
  packet.expect [.channelOpen]
  let ⟨type, next⟩ ← (decodeNamed packet.payload : Except ProtoError (Decoded ChannelType))
  let ⟨senderChannel, next⟩ ← decodeU32 next
  let ⟨initialWindowSize, next⟩ ← decodeU32 next
  let ⟨maximumPacketSize, next⟩ ← decodeU32 next
  let value := { type, senderChannel, initialWindowSize, maximumPacketSize }
  match type with
  | .session => whenEmpty next "extra data in channel open packet" value
  | .unknown _ => .ok value

structure ChannelOpenConfirmation where
  recipientChannel : UInt32
  senderChannel : UInt32
  initialWindowSize : UInt32
  maximumPacketSize : UInt32
  deriving DecidableEq, Repr

def ChannelOpenConfirmation.encode (confirmation : ChannelOpenConfirmation) : Bytes :=
  MessageType.channelOpenConfirmation.encode ++ encodeU32 confirmation.recipientChannel ++
    encodeU32 confirmation.senderChannel ++ encodeU32 confirmation.initialWindowSize ++
    encodeU32 confirmation.maximumPacketSize

inductive ChannelOpenFailureReason
  | administrativelyProhibited
  | connectFailed
  | unknownChannelType
  | resourceShortage
  deriving DecidableEq, Repr

def ChannelOpenFailureReason.code : ChannelOpenFailureReason → UInt32
  | .administrativelyProhibited => 1
  | .connectFailed => 2
  | .unknownChannelType => 3
  | .resourceShortage => 4

structure ChannelOpenFailure where
  recipientChannel : UInt32
  reasonCode : ChannelOpenFailureReason
  description : String
  deriving DecidableEq, Repr

def ChannelOpenFailure.duplicateId (recipientChannel : UInt32) : ChannelOpenFailure where
  recipientChannel := recipientChannel
  reasonCode := .administrativelyProhibited
  description := "channel ID already in use"

def ChannelOpenFailure.unknownType (recipientChannel : UInt32) : ChannelOpenFailure where
  recipientChannel := recipientChannel
  reasonCode := .unknownChannelType
  description := "only 'session' channel type is supported"

def ChannelOpenFailure.encode (failure : ChannelOpenFailure) : Bytes :=
  MessageType.channelOpenFailure.encode ++ encodeU32 failure.recipientChannel ++
    encodeU32 failure.reasonCode.code ++ encodeBytes (strBytes failure.description) ++
    encodeBytes (strBytes "en-US")

inductive Mode
  | vIntr
  | vQuit
  | vErase
  | vKill
  | vEof
  | vEol
  | vEol2
  | vStart
  | vStop
  | vSusp
  | vDSusp
  | vReprint
  | vWErase
  | vLNext
  | vFlush
  | vSwtch
  | vStatus
  | vDiscard
  | ignPar
  | parMrk
  | iNPck
  | iStrip
  | iNlCr
  | ignCr
  | iCrNl
  | iUcLc
  | ixOn
  | ixAny
  | ixOff
  | iMaxBel
  | iUtf8
  | iSig
  | iCanon
  | xCase
  | echo
  | echoE
  | echoK
  | echoNl
  | noFlsh
  | tOStop
  | iExten
  | echoCtl
  | echoKe
  | pendin
  | oPost
  | oLcUc
  | oNlCr
  | oCrNl
  | oNoCr
  | oNlRet
  | cs7
  | cs8
  | parenB
  | parOdd
  | ttyOpISpeed
  | ttyOpOSpeed
  deriving DecidableEq, Repr

def Mode.decode (bytes : Bytes) : Except ProtoError (Decoded (Option Mode)) := do
  let ⟨value, next⟩ ← decodeU8 bytes
  match value with
  | 0 => .ok ⟨none, next⟩
  | 1 => .ok ⟨some .vIntr, next⟩
  | 2 => .ok ⟨some .vQuit, next⟩
  | 3 => .ok ⟨some .vErase, next⟩
  | 4 => .ok ⟨some .vKill, next⟩
  | 5 => .ok ⟨some .vEof, next⟩
  | 6 => .ok ⟨some .vEol, next⟩
  | 7 => .ok ⟨some .vEol2, next⟩
  | 8 => .ok ⟨some .vStart, next⟩
  | 9 => .ok ⟨some .vStop, next⟩
  | 10 => .ok ⟨some .vSusp, next⟩
  | 11 => .ok ⟨some .vDSusp, next⟩
  | 12 => .ok ⟨some .vReprint, next⟩
  | 13 => .ok ⟨some .vWErase, next⟩
  | 14 => .ok ⟨some .vLNext, next⟩
  | 15 => .ok ⟨some .vFlush, next⟩
  | 16 => .ok ⟨some .vSwtch, next⟩
  | 17 => .ok ⟨some .vStatus, next⟩
  | 18 => .ok ⟨some .vDiscard, next⟩
  | 30 => .ok ⟨some .ignPar, next⟩
  | 31 => .ok ⟨some .parMrk, next⟩
  | 32 => .ok ⟨some .iNPck, next⟩
  | 33 => .ok ⟨some .iStrip, next⟩
  | 34 => .ok ⟨some .iNlCr, next⟩
  | 35 => .ok ⟨some .ignCr, next⟩
  | 36 => .ok ⟨some .iCrNl, next⟩
  | 37 => .ok ⟨some .iUcLc, next⟩
  | 38 => .ok ⟨some .ixOn, next⟩
  | 39 => .ok ⟨some .ixAny, next⟩
  | 40 => .ok ⟨some .ixOff, next⟩
  | 41 => .ok ⟨some .iMaxBel, next⟩
  | 42 => .ok ⟨some .iUtf8, next⟩
  | 50 => .ok ⟨some .iSig, next⟩
  | 51 => .ok ⟨some .iCanon, next⟩
  | 52 => .ok ⟨some .xCase, next⟩
  | 53 => .ok ⟨some .echo, next⟩
  | 54 => .ok ⟨some .echoE, next⟩
  | 55 => .ok ⟨some .echoK, next⟩
  | 56 => .ok ⟨some .echoNl, next⟩
  | 57 => .ok ⟨some .noFlsh, next⟩
  | 58 => .ok ⟨some .tOStop, next⟩
  | 59 => .ok ⟨some .iExten, next⟩
  | 60 => .ok ⟨some .echoCtl, next⟩
  | 61 => .ok ⟨some .echoKe, next⟩
  | 62 => .ok ⟨some .pendin, next⟩
  | 70 => .ok ⟨some .oPost, next⟩
  | 71 => .ok ⟨some .oLcUc, next⟩
  | 72 => .ok ⟨some .oNlCr, next⟩
  | 73 => .ok ⟨some .oCrNl, next⟩
  | 74 => .ok ⟨some .oNoCr, next⟩
  | 75 => .ok ⟨some .oNlRet, next⟩
  | 90 => .ok ⟨some .cs7, next⟩
  | 91 => .ok ⟨some .cs8, next⟩
  | 92 => .ok ⟨some .parenB, next⟩
  | 93 => .ok ⟨some .parOdd, next⟩
  | 128 => .ok ⟨some .ttyOpISpeed, next⟩
  | 129 => .ok ⟨some .ttyOpOSpeed, next⟩
  | _ => .error (.invalidPacket "unknown terminal mode code")

-- Each round takes a byte at least, so the length of the input bounds the rounds.
def decodeModes : Nat → List (Mode × UInt32) → Bytes → Except ProtoError (List (Mode × UInt32))
  | 0, _, _ => .error (.incomplete (some 1))
  | rounds + 1, modes, input => do
    let ⟨mode, next⟩ ← Mode.decode input
    match mode with
    | none => .ok modes
    | some mode =>
      let ⟨value, next⟩ ← decodeU32 next
      decodeModes rounds ((mode, value) :: modes.filter (·.1 ≠ mode)) next

structure PtyReq where
  term : String
  cols : UInt32
  rows : UInt32
  widthPx : UInt32
  heightPx : UInt32
  terminalModes : List (Mode × UInt32)
  deriving DecidableEq, Repr

def PtyReq.decode (input : Bytes) : Except ProtoError (Decoded PtyReq) := do
  let ⟨term, next⟩ ← decodeBytes input
  match fromUtf8 term with
  | none => .error (.invalidPacket "invalid UTF-8 in pty-req data")
  | some term =>
    let ⟨cols, next⟩ ← decodeU32 next
    let ⟨rows, next⟩ ← decodeU32 next
    let ⟨widthPx, next⟩ ← decodeU32 next
    let ⟨heightPx, next⟩ ← decodeU32 next
    let ⟨encodedModes, next⟩ ← decodeBytes next
    let terminalModes ← decodeModes (encodedModes.length + 1) [] encodedModes
    .ok ⟨{ term, cols, rows, widthPx, heightPx, terminalModes }, next⟩

structure WindowChange where
  cols : UInt32
  rows : UInt32
  widthPx : UInt32
  heightPx : UInt32
  deriving DecidableEq, Repr

def WindowChange.decode (input : Bytes) : Except ProtoError (Decoded WindowChange) := do
  let ⟨cols, next⟩ ← decodeU32 input
  let ⟨rows, next⟩ ← decodeU32 next
  let ⟨widthPx, next⟩ ← decodeU32 next
  let ⟨heightPx, next⟩ ← decodeU32 next
  .ok ⟨{ cols, rows, widthPx, heightPx }, next⟩

structure Env where
  name : String
  value : String
  deriving DecidableEq, Repr

def Env.decode (input : Bytes) : Except ProtoError (Decoded Env) := do
  let ⟨name, next⟩ ← decodeBytes input
  match fromUtf8 name with
  | none => .error (.invalidPacket "invalid UTF-8 in env name")
  | some name =>
    let ⟨value, next⟩ ← decodeBytes next
    match fromUtf8 value with
    | none => .error (.invalidPacket "invalid UTF-8 in env value")
    | some value => .ok ⟨{ name, value }, next⟩

structure Exec where
  command : Bytes
  deriving DecidableEq, Repr

def Exec.decode (input : Bytes) : Except ProtoError (Decoded Exec) := do
  let ⟨command, next⟩ ← decodeBytes input
  .ok ⟨{ command }, next⟩

inductive ChannelRequestType
  | authAgentReq
  | exitStatus (status : UInt32)
  | ptyReq (ptyReq : PtyReq)
  | env (env : Env)
  | shell
  | exec (exec : Exec)
  | windowChange (windowChange : WindowChange)
  | unknown (name : String)
  deriving DecidableEq, Repr

def ChannelRequestType.name : ChannelRequestType → String
  | .authAgentReq => "auth-agent-req@openssh.com"
  | .exitStatus _ => "exit-status"
  | .ptyReq _ => "pty-req"
  | .env _ => "env"
  | .exec _ => "exec"
  | .shell => "shell"
  | .windowChange _ => "window-change"
  | .unknown name => name

structure ChannelRequest where
  recipientChannel : UInt32
  type : ChannelRequestType
  wantReply : Bool
  deriving DecidableEq, Repr

-- The known names are ASCII, so comparing the decoded text compares the bytes.
def ChannelRequestType.decode (type next : Bytes) : Except ProtoError ChannelRequestType :=
  match fromUtf8 type with
  | none => .error (.invalidPacket "unknown channel request type (invalid UTF-8)")
  | some "pty-req" => do
    let ⟨value, next⟩ ← PtyReq.decode next
    whenEmpty next "extra data in pty-req channel request" (.ptyReq value)
  | some "env" => do
    let ⟨value, next⟩ ← Env.decode next
    whenEmpty next "extra data in env channel request" (.env value)
  | some "shell" => whenEmpty next "extra data in shell channel request" .shell
  | some "exec" => do
    let ⟨value, next⟩ ← Exec.decode next
    whenEmpty next "extra data in exec channel request" (.exec value)
  | some "window-change" => do
    let ⟨value, next⟩ ← WindowChange.decode next
    whenEmpty next "extra data in window-change channel request" (.windowChange value)
  | some "exit-status" => do
    let ⟨value, next⟩ ← decodeU32 next
    whenEmpty next "extra data in exit-status channel request" (.exitStatus value)
  | some "auth-agent-req@openssh.com" => .ok .authAgentReq
  | some name => .ok (.unknown name)

def ChannelRequest.tryFrom (packet : IncomingPacket) : Except ProtoError ChannelRequest := do
  packet.expect [.channelRequest]
  let ⟨recipientChannel, next⟩ ← decodeU32 packet.payload
  let ⟨type, next⟩ ← decodeBytes next
  let ⟨wantReply, next⟩ ← decodeBool next
  let type ← ChannelRequestType.decode type next
  .ok { recipientChannel, type, wantReply }

def ChannelRequest.encode (request : ChannelRequest) : Bytes :=
  MessageType.channelRequest.encode ++ encodeU32 request.recipientChannel ++
    encodeBytes (strBytes request.type.name) ++ encodeBool request.wantReply ++
    match request.type with
    | .exitStatus status => encodeU32 status
    | _ => []

structure ChannelRequestSuccess where
  recipientChannel : UInt32
  deriving DecidableEq, Repr

def ChannelRequestSuccess.encode (success : ChannelRequestSuccess) : Bytes :=
  MessageType.channelSuccess.encode ++ encodeU32 success.recipientChannel

structure ChannelRequestFailure where
  recipientChannel : UInt32
  deriving DecidableEq, Repr

def ChannelRequestFailure.encode (failure : ChannelRequestFailure) : Bytes :=
  MessageType.channelFailure.encode ++ encodeU32 failure.recipientChannel

structure ChannelData where
  recipientChannel : UInt32
  data : Bytes
  deriving DecidableEq, Repr

def ChannelData.tryFrom (packet : IncomingPacket) : Except ProtoError ChannelData := do
  packet.expect [.channelData]
  let ⟨recipientChannel, next⟩ ← decodeU32 packet.payload
  let ⟨data, next⟩ ← decodeBytes next
  whenEmpty next "extra data in channel data packet" { recipientChannel, data }

def ChannelData.encode (data : ChannelData) : Bytes :=
  MessageType.channelData.encode ++ encodeU32 data.recipientChannel ++ encodeBytes data.data

structure ChannelWindowAdjust where
  recipientChannel : UInt32
  bytesToAdd : UInt32
  deriving DecidableEq, Repr

def ChannelWindowAdjust.encode (adjust : ChannelWindowAdjust) : Bytes :=
  MessageType.channelWindowAdjust.encode ++ encodeU32 adjust.recipientChannel ++
    encodeU32 adjust.bytesToAdd

def ChannelWindowAdjust.tryFrom (packet : IncomingPacket) :
    Except ProtoError ChannelWindowAdjust := do
  packet.expect [.channelWindowAdjust]
  let ⟨recipientChannel, next⟩ ← decodeU32 packet.payload
  let ⟨bytesToAdd, next⟩ ← decodeU32 next
  whenEmpty next "extra data in channel window adjust packet" { recipientChannel, bytesToAdd }

structure ChannelEof where
  recipientChannel : UInt32
  deriving DecidableEq, Repr

def ChannelEof.tryFrom (packet : IncomingPacket) : Except ProtoError ChannelEof := do
  packet.expect [.channelEof]
  let ⟨recipientChannel, next⟩ ← decodeU32 packet.payload
  whenEmpty next "extra data in channel eof packet" { recipientChannel }

def ChannelEof.encode (eof : ChannelEof) : Bytes :=
  MessageType.channelEof.encode ++ encodeU32 eof.recipientChannel

structure ChannelClose where
  recipientChannel : UInt32
  deriving DecidableEq, Repr

def ChannelClose.tryFrom (packet : IncomingPacket) : Except ProtoError ChannelClose := do
  packet.expect [.channelClose]
  let ⟨recipientChannel, next⟩ ← decodeU32 packet.payload
  whenEmpty next "extra data in channel close packet" { recipientChannel }

def ChannelClose.encode (close : ChannelClose) : Bytes :=
  MessageType.channelClose.encode ++ encodeU32 close.recipientChannel

end Oxish
