import Oxish.Lib.BigEndian

/-!
Wire primitives of the protocol crate: errors, message numbers, incoming packets,
and the `Encode`/`Decode` implementations of integers, booleans and byte strings.

An encoder returns the bytes it appends. A decoder returns the value together with
the remaining input. `upTo?` and `from?` are `get(..count)` and `get(start..)` on a
slice, so that the branches the source marks as unreachable stay visible. `Stop`
separates a returned error from a panic; `raise` is `?` in a function that may panic.
-/

namespace Oxish

abbrev Bytes := List UInt8

abbrev FixedBytes (length : Nat) := { bytes : Bytes // bytes.length = length }

def FixedBytes.replicate (length : Nat) (byte : UInt8) : FixedBytes length :=
  ⟨List.replicate length byte, List.length_replicate⟩

def strBytes (text : String) : Bytes := text.toUTF8.data.toList

def fromUtf8 (bytes : Bytes) : Option String := String.fromUTF8? ⟨bytes.toArray⟩

inductive CryptoError
  | decryptionFailed
  | encryptionFailed
  | invalidLength
  | keyAgreementFailed
  | keyGenerationFailed
  | keyRejected
  | nonceOverflow
  | noRandomness
  | unknownAlgorithm
  | unspecified
  | verificationFailed
  deriving DecidableEq, Repr

inductive IdentificationError
  | invalidUtf8
  | noSsh
  | noVersion
  | tooLong
  | unsupportedVersion (protocol : Bytes)
  deriving DecidableEq, Repr

inductive IoErrorKind
  | unexpectedEof
  | writeZero
  | timedOut
  | other (code : Nat)
  deriving DecidableEq, Repr

structure IoError where
  kind : IoErrorKind
  message : String
  deriving DecidableEq, Repr

inductive MessageType
  | disconnect
  | ignore
  | unimplemented
  | debug
  | serviceRequest
  | serviceAccept
  | extInfo
  | keyExchangeInit
  | newKeys
  | keyExchangeEcdhInit
  | keyExchangeEcdhReply
  | userAuthRequest
  | userAuthFailure
  | userAuthSuccess
  | userAuthBanner
  | userAuthPkOk
  | globalRequest
  | requestSuccess
  | requestFailure
  | channelOpen
  | channelOpenConfirmation
  | channelOpenFailure
  | channelWindowAdjust
  | channelData
  | channelExtendedData
  | channelEof
  | channelClose
  | channelRequest
  | channelSuccess
  | channelFailure
  | unknown (value : UInt8)
  deriving DecidableEq, Repr

def MessageType.ofByte (value : UInt8) : MessageType :=
  match value with
  | 1 => .disconnect
  | 2 => .ignore
  | 3 => .unimplemented
  | 4 => .debug
  | 5 => .serviceRequest
  | 6 => .serviceAccept
  | 7 => .extInfo
  | 20 => .keyExchangeInit
  | 21 => .newKeys
  | 30 => .keyExchangeEcdhInit
  | 31 => .keyExchangeEcdhReply
  | 50 => .userAuthRequest
  | 51 => .userAuthFailure
  | 52 => .userAuthSuccess
  | 53 => .userAuthBanner
  | 60 => .userAuthPkOk
  | 80 => .globalRequest
  | 81 => .requestSuccess
  | 82 => .requestFailure
  | 90 => .channelOpen
  | 91 => .channelOpenConfirmation
  | 92 => .channelOpenFailure
  | 93 => .channelWindowAdjust
  | 94 => .channelData
  | 95 => .channelExtendedData
  | 96 => .channelEof
  | 97 => .channelClose
  | 98 => .channelRequest
  | 99 => .channelSuccess
  | 100 => .channelFailure
  | value => .unknown value

def MessageType.toByte : MessageType → UInt8
  | .disconnect => 1
  | .ignore => 2
  | .unimplemented => 3
  | .debug => 4
  | .serviceRequest => 5
  | .serviceAccept => 6
  | .extInfo => 7
  | .keyExchangeInit => 20
  | .newKeys => 21
  | .keyExchangeEcdhInit => 30
  | .keyExchangeEcdhReply => 31
  | .userAuthRequest => 50
  | .userAuthFailure => 51
  | .userAuthSuccess => 52
  | .userAuthBanner => 53
  | .userAuthPkOk => 60
  | .globalRequest => 80
  | .requestSuccess => 81
  | .requestFailure => 82
  | .channelOpen => 90
  | .channelOpenConfirmation => 91
  | .channelOpenFailure => 92
  | .channelWindowAdjust => 93
  | .channelData => 94
  | .channelExtendedData => 95
  | .channelEof => 96
  | .channelClose => 97
  | .channelRequest => 98
  | .channelSuccess => 99
  | .channelFailure => 100
  | .unknown value => value

def MessageType.encode (messageType : MessageType) : Bytes := [messageType.toByte]

inductive ProtoError
  | crypto (error : CryptoError)
  | identification (error : IdentificationError)
  | io (error : IoError)
  | incomplete (needed : Option Nat)
  | invalidChannelType (name : String)
  | invalidHostKey (reason : String)
  | invalidPacket (reason : String)
  | noHostKeys
  | noCommonAlgorithm (category : String)
  | tooManyHostKeys
  | unexpectedMessage (received : MessageType) (expected : List MessageType)
  | unreachable (reason : String)
  | serviceNotAvailable (reason : String)
  deriving DecidableEq, Repr

/-- How a call ends without a value: the error it returns, or the panic it runs into. -/
inductive Stop (ε : Type) where
  | error (cause : ε)
  | panic (site : String)
  deriving DecidableEq, Repr

def raise {ε α : Type} : Except ε α → Except (Stop ε) α
  | .ok value => .ok value
  | .error cause => .error (.error cause)

inductive Completion (α : Type) where
  | complete (value : α)
  | incomplete (needed : Option Nat)
  deriving DecidableEq, Repr

structure Decoded (α : Type) where
  value : α
  next : Bytes
  deriving DecidableEq, Repr

def upTo? (bytes : Bytes) (count : Nat) : Option Bytes :=
  if count ≤ bytes.length then some (bytes.take count) else none

def from? (bytes : Bytes) (start : Nat) : Option Bytes :=
  if start ≤ bytes.length then some (bytes.drop start) else none

def splitOnce (pattern : Bytes) : Bytes → Option (Bytes × Bytes)
  | [] => if pattern = [] then some ([], []) else none
  | byte :: rest =>
      if pattern.isPrefixOf (byte :: rest) then
        some ([], (byte :: rest).drop pattern.length)
      else
        (splitOnce pattern rest).map fun (before, after) => (byte :: before, after)

def decodeArray (count : Nat) (bytes : Bytes) : Except ProtoError (Decoded (FixedBytes count)) :=
  if enough : count ≤ bytes.length then
    .ok ⟨⟨bytes.take count, by simp [enough]⟩, bytes.drop count⟩
  else .error (.incomplete (some (count - bytes.length)))

def decodeU8 : Bytes → Except ProtoError (Decoded UInt8)
  | value :: next => .ok ⟨value, next⟩
  | [] => .error (.incomplete (some 1))

def decodeBool (bytes : Bytes) : Except ProtoError (Decoded Bool) :=
  (decodeArray 1 bytes).map fun decoded => ⟨decoded.value.val != [0], decoded.next⟩

def encodeBool (value : Bool) : Bytes := [if value then 1 else 0]

def decodeU32 (bytes : Bytes) : Except ProtoError (Decoded UInt32) :=
  (decodeArray 4 bytes).map fun decoded =>
    ⟨UInt32.ofNat (BigEndian.decode decoded.value.val), decoded.next⟩

def encodeU32 (value : UInt32) : Bytes := BigEndian.encode 4 value.toNat

def decodeU64 (bytes : Bytes) : Except ProtoError (Decoded UInt64) :=
  (decodeArray 8 bytes).map fun decoded =>
    ⟨UInt64.ofNat (BigEndian.decode decoded.value.val), decoded.next⟩

def encodeU64 (value : UInt64) : Bytes := BigEndian.encode 8 value.toNat

def decodeBytes (bytes : Bytes) : Except ProtoError (Decoded Bytes) := do
  let len ← decodeU32 bytes
  match upTo? len.next len.value.toNat with
  | none => .error (.incomplete (some (len.value.toNat - len.next.length)))
  | some value =>
    match from? len.next len.value.toNat with
    | none => .error (.unreachable "unable to extract rest after slice")
    | some next => .ok ⟨value, next⟩

def encodeBytes (bytes : Bytes) : Bytes := encodeU32 (UInt32.ofNat bytes.length) ++ bytes

structure IncomingPacket where
  sequenceNumber : UInt32
  messageType : MessageType
  payload : Bytes
  deriving DecidableEq, Repr

def IncomingPacket.expect (packet : IncomingPacket) (expected : List MessageType) :
    Except ProtoError Unit :=
  if expected.contains packet.messageType then .ok ()
  else .error (.unexpectedMessage packet.messageType expected)

def maxPacketLen : Nat := 64 * 1024

structure PacketLength where
  value : UInt32
  bounded : value.toNat ≤ maxPacketLen
  deriving DecidableEq, Repr

def PacketLength.toNat (length : PacketLength) : Nat := length.value.toNat

def PacketLength.decode (bytes : Bytes) : Except ProtoError (Decoded PacketLength) := do
  let ⟨value, next⟩ ← decodeU32 bytes
  if bounded : value.toNat ≤ maxPacketLen then .ok ⟨⟨value, bounded⟩, next⟩
  else .error (.invalidPacket "packet too large")

structure PaddingLength where
  value : UInt8
  bounded : 4 ≤ value.toNat
  deriving DecidableEq, Repr

def PaddingLength.decode (bytes : Bytes) : Except ProtoError (Decoded PaddingLength) := do
  let ⟨value, next⟩ ← decodeU8 bytes
  if bounded : 4 ≤ value.toNat then .ok ⟨⟨value, bounded⟩, next⟩
  else .error (.invalidPacket "padding too short")

structure Identification where
  protocol : Bytes
  software : Bytes
  comments : Bytes
  deriving DecidableEq, Repr

def crlf : Bytes := [13, 10]

def Identification.decode (bytes : Bytes) :
    Except ProtoError (Completion (Decoded Identification)) :=
  if (fromUtf8 bytes).isNone then .error (.identification .invalidUtf8)
  else
    match splitOnce crlf bytes with
    | none =>
      if bytes.length > 255 - 2 then .error (.identification .tooLong)
      else .ok (.incomplete none)
    | some (message, next) =>
      match message.dropPrefix? (strBytes "SSH-") with
      | none => .error (.identification .noSsh)
      | some rest =>
        match splitOnce (strBytes "-") rest with
        | none => .error (.identification .noVersion)
        | some (protocol, rest) =>
          let (software, comments) := (splitOnce (strBytes " ") rest).getD (rest, [])
          .ok (.complete ⟨⟨protocol, software, comments⟩, next⟩)

def Identification.encode (identification : Identification) : Bytes :=
  strBytes "SSH-" ++ identification.protocol ++ strBytes "-" ++ identification.software ++
    (if identification.comments.isEmpty then [] else strBytes " " ++ identification.comments) ++
    crlf

def protocolVersion : Bytes := strBytes "2.0"

inductive DisconnectReason
  | hostNotAllowedToConnect
  | protocolError
  | keyExchangeFailed
  | reserved
  | macError
  | compressionError
  | serviceNotAvailable
  | protocolVersionNotSupported
  | hostKeyNotVerifiable
  | connectionLost
  | byApplication
  | tooManyConnections
  | authCancelledByUser
  | noMoreAuthMethodsAvailable
  | illegalUserName
  deriving DecidableEq, Repr

def DisconnectReason.code : DisconnectReason → UInt32
  | .hostNotAllowedToConnect => 1
  | .protocolError => 2
  | .keyExchangeFailed => 3
  | .reserved => 4
  | .macError => 5
  | .compressionError => 6
  | .serviceNotAvailable => 7
  | .protocolVersionNotSupported => 8
  | .hostKeyNotVerifiable => 9
  | .connectionLost => 10
  | .byApplication => 11
  | .tooManyConnections => 12
  | .authCancelledByUser => 13
  | .noMoreAuthMethodsAvailable => 14
  | .illegalUserName => 15

def DisconnectReason.tryFrom (value : UInt32) : Except ProtoError DisconnectReason :=
  match value with
  | 1 => .ok .hostNotAllowedToConnect
  | 2 => .ok .protocolError
  | 3 => .ok .keyExchangeFailed
  | 4 => .ok .reserved
  | 5 => .ok .macError
  | 6 => .ok .compressionError
  | 7 => .ok .serviceNotAvailable
  | 8 => .ok .protocolVersionNotSupported
  | 9 => .ok .hostKeyNotVerifiable
  | 10 => .ok .connectionLost
  | 11 => .ok .byApplication
  | 12 => .ok .tooManyConnections
  | 13 => .ok .authCancelledByUser
  | 14 => .ok .noMoreAuthMethodsAvailable
  | 15 => .ok .illegalUserName
  | _ => .error (.invalidPacket "unknown disconnect reason code")

structure Disconnect where
  reasonCode : DisconnectReason
  description : String
  deriving DecidableEq, Repr

def Disconnect.encode (disconnect : Disconnect) : Bytes :=
  MessageType.disconnect.encode ++ encodeU32 disconnect.reasonCode.code ++
    encodeBytes (strBytes disconnect.description) ++ encodeBytes (strBytes "en-US")

def Disconnect.tryFrom (packet : IncomingPacket) : Except ProtoError Disconnect := do
  packet.expect [.disconnect]
  let ⟨reasonCode, next⟩ ← decodeU32 packet.payload
  let ⟨description, next⟩ ← decodeBytes next
  match fromUtf8 description with
  | none => .error (.invalidPacket "invalid UTF-8 in disconnect description")
  | some description =>
    let ⟨_, next⟩ ← decodeBytes next
    if next.isEmpty then
      let reasonCode ← DisconnectReason.tryFrom reasonCode
      .ok { reasonCode, description }
    else .error (.invalidPacket "extra data in disconnect packet")

structure Ignore where
  payload : Bytes := []
  deriving DecidableEq, Repr

def Ignore.encode (ignore : Ignore) : Bytes :=
  MessageType.ignore.encode ++ encodeBytes ignore.payload

structure GlobalRequest where
  name : Bytes
  wantReply : Bool
  deriving DecidableEq, Repr

-- What follows the flag depends on the request and is not read.
def GlobalRequest.tryFrom (packet : IncomingPacket) : Except ProtoError GlobalRequest := do
  packet.expect [.globalRequest]
  let ⟨name, next⟩ ← decodeBytes packet.payload
  let ⟨wantReply, _⟩ ← decodeBool next
  .ok { name, wantReply }

end Oxish
