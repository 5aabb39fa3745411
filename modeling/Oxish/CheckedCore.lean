import Oxish.AuthCore
import Oxish.ChannelsCore
import Oxish.IoCore
import Oxish.KeyExchangeCore
import Oxish.Lib.Faults

/-!
The decoders once more, with every operation of the source that can panic: a subtraction of
lengths, a slice or a copy with its range, an assertion, and a loop that does not come to its end.
Decoders that have no such operation of their own call those that have.
-/

namespace Oxish.Checked

variable {ρ : Type}

abbrev Outcome (α : Type) := Except (Stop ProtoError) α

def overflow : Stop ProtoError := .panic "attempt to subtract with overflow"

def outOfRange : Stop ProtoError := .panic "range index out of range for slice"

def lengthMismatch : Stop ProtoError := .panic "source slice length does not match destination"

def endless : Stop ProtoError := .panic "the loop has not come to its end"

/-- `Incomplete(Some(required - available))`. -/
def incomplete {α : Type} (required available : Nat) : Outcome α := do
  let needed ← Faults.sub overflow required available
  .error (.error (.incomplete (some needed)))

def decodeArray (count : Nat) (bytes : Bytes) : Outcome (Decoded (FixedBytes count)) :=
  match splitFirstChunk count bytes with
  | some (value, next) => .ok ⟨value, next⟩
  | none => incomplete count bytes.length

def decodeU8 (bytes : Bytes) : Outcome (Decoded UInt8) := raise (Oxish.decodeU8 bytes)

def decodeBool (bytes : Bytes) : Outcome (Decoded Bool) :=
  (decodeArray 1 bytes).map fun decoded => ⟨decoded.value.val != [0], decoded.next⟩

def decodeU32 (bytes : Bytes) : Outcome (Decoded UInt32) :=
  (decodeArray 4 bytes).map fun decoded =>
    ⟨UInt32.ofNat (BigEndian.decode decoded.value.val), decoded.next⟩

def decodeBytes (bytes : Bytes) : Outcome (Decoded Bytes) := do
  let len ← decodeU32 bytes
  match upTo? len.next len.value.toNat with
  | none => incomplete len.value.toNat len.next.length
  | some value =>
    match from? len.next len.value.toNat with
    | none => .error (.error (.unreachable "unable to extract rest after slice"))
    | some next => .ok ⟨value, next⟩

def decodeNamed {α : Type} [Named α] (bytes : Bytes) : Outcome (Decoded α) := do
  let ⟨value, next⟩ ← decodeBytes bytes
  match fromUtf8 value with
  | none => .error (.error (.invalidPacket "invalid UTF-8 in named value"))
  | some name => .ok ⟨Named.typed name, next⟩

def IncomingNameList.decode {α : Type} [Named α] (bytes : Bytes) : Outcome (Decoded (List α)) := do
  let ⟨len, next⟩ ← decodeU32 bytes
  match upTo? next len.toNat with
  | none => incomplete len.toNat next.length
  | some list =>
    match from? next len.toNat with
    | none => .error (.error (.unreachable "unable to extract rest after name list"))
    | some next =>
      if list.isEmpty then .ok ⟨[], next⟩
      else do
        let value ← raise (typedNames (list.splitOn comma))
        .ok ⟨value, next⟩

def PacketLength.decode (bytes : Bytes) : Outcome (Decoded PacketLength) := do
  let ⟨value, next⟩ ← decodeU32 bytes
  if bounded : value.toNat ≤ maxPacketLen then .ok ⟨⟨value, bounded⟩, next⟩
  else .error (.error (.invalidPacket "packet too large"))

section Reading

abbrev Polled (ρ : Type) := ReadState ρ × Outcome (Completion (UInt32 × PacketLength))

/-- `Ok(Completion::Incomplete(Some(required - available)))`. -/
def awaiting (state : ReadState ρ) (required available : Nat) : Polled ρ :=
  (state, (Faults.sub overflow required available).map fun needed => .incomplete (some needed))

def pollSealed [OpeningKey ρ] (state : ReadState ρ) (opener : ρ) : Polled ρ :=
  match splitFirstChunk 4 state.buf with
  | none => awaiting state 4 state.buf.length
  | some (length, _) =>
    let (opener, lengthBytes) :=
      OpeningKey.decryptPacketLength opener state.sequenceNumber length
    let state := { state with opener := some opener }
    match PacketLength.decode lengthBytes.val with
    | .error stop => (state, .error stop)
    | .ok ⟨packetLength, next⟩ =>
      if next.isEmpty = false then (state, .error (.panic "assertion failed: next.is_empty()"))
      else
        let tagLen := OpeningKey.tagLen opener
        let stop := 4 + packetLength.toNat
        match splitAtChecked state.buf stop with
        | none => awaiting state (stop + tagLen) state.buf.length
        | some (lengthData, rest) =>
          match upTo? rest tagLen with
          | none => awaiting state tagLen rest.length
          | some tag =>
            let opened := OpeningKey.openInPlace opener state.sequenceNumber lengthData tag
            let state := { state with opener := some opened.key, buf := opened.data.val ++ rest }
            match opened.result with
            | .error error => (state, .error (.error (.crypto error)))
            | .ok () => state.complete packetLength tagLen

def pollPlain (state : ReadState ρ) : Polled ρ :=
  match PacketLength.decode state.buf with
  | .error stop => (state, .error stop)
  | .ok ⟨packetLength, next⟩ =>
    if next.length < packetLength.toNat then awaiting state packetLength.toNat next.length
    else state.complete packetLength 0

/-- `buf.copy_within(last_length.., 0)` and `buf.truncate(buf.len() - last_length)`. -/
def compact (buf : Bytes) (lastLength : Nat) : Outcome Bytes := do
  let moved ← Faults.expect outOfRange (from? buf lastLength)
  let kept ← Faults.sub overflow buf.length lastLength
  .ok ((moved ++ buf.drop moved.length).take kept)

def pollPacket [OpeningKey ρ] (state : ReadState ρ) : Polled ρ :=
  match compact state.buf state.lastLength with
  | .error stop => (state, .error stop)
  | .ok buf =>
    let state := { state with buf, lastLength := 0 }
    match state.opener with
    | some opener => pollSealed state opener
    | none => pollPlain state

def decodePacket (state : ReadState ρ) (sequenceNumber : UInt32) (packetLength : PacketLength) :
    Outcome IncomingPacket :=
  match splitFirstChunk 4 state.buf with
  | none => incomplete 4 state.buf.length
  | some (_, next) => do
    let ⟨paddingLength, next⟩ ← raise (PaddingLength.decode next)
    let padding := paddingLength.value.toNat
    if packetLength.toNat < 1 + padding then
      .error (.error (.invalidPacket "padding length exceeds packet length"))
    else
      let payloadLen := packetLength.toNat - 1 - padding
      match upTo? next payloadLen with
      | none => incomplete payloadLen next.length
      | some [] => .error (.error (.invalidPacket "packet without message type"))
      | some (messageType :: payload) =>
        match from? next payloadLen with
        | none =>
          .error (.error (.unreachable "unable to extract rest after fixed-length slice"))
        | some next =>
          match upTo? next padding with
          | none => incomplete padding next.length
          | some _ =>
            .ok { sequenceNumber, messageType := MessageType.ofByte messageType, payload }

end Reading

def Disconnect.tryFrom (packet : IncomingPacket) : Outcome Disconnect := do
  raise (packet.expect [.disconnect])
  let ⟨reasonCode, next⟩ ← decodeU32 packet.payload
  let ⟨description, next⟩ ← decodeBytes next
  match fromUtf8 description with
  | none => .error (.error (.invalidPacket "invalid UTF-8 in disconnect description"))
  | some description =>
    let ⟨_, next⟩ ← decodeBytes next
    if next.isEmpty then
      let reasonCode ← raise (DisconnectReason.tryFrom reasonCode)
      .ok { reasonCode, description }
    else .error (.error (.invalidPacket "extra data in disconnect packet"))

def GlobalRequest.tryFrom (packet : IncomingPacket) : Outcome GlobalRequest := do
  raise (packet.expect [.globalRequest])
  let ⟨name, next⟩ ← decodeBytes packet.payload
  let ⟨wantReply, _⟩ ← decodeBool next
  .ok { name, wantReply }

section KeyExchanging

def KeyExchangeInit.tryFrom (packet : IncomingPacket) : Outcome KeyExchangeInit := do
  raise (packet.expect [.keyExchangeInit])
  let ⟨cookie, next⟩ ← decodeArray 16 packet.payload
  let ⟨keyExchangeAlgorithms, next⟩ ← IncomingNameList.decode next
  let ⟨serverHostKeyAlgorithms, next⟩ ← IncomingNameList.decode next
  let ⟨encryptionAlgorithmsClientToServer, next⟩ ← IncomingNameList.decode next
  let ⟨encryptionAlgorithmsServerToClient, next⟩ ← IncomingNameList.decode next
  let ⟨macAlgorithmsClientToServer, next⟩ ← IncomingNameList.decode next
  let ⟨macAlgorithmsServerToClient, next⟩ ← IncomingNameList.decode next
  let ⟨compressionAlgorithmsClientToServer, next⟩ ← IncomingNameList.decode next
  let ⟨compressionAlgorithmsServerToClient, next⟩ ← IncomingNameList.decode next
  let ⟨languagesClientToServer, next⟩ ← IncomingNameList.decode next
  let ⟨languagesServerToClient, next⟩ ← IncomingNameList.decode next
  let ⟨firstKexPacketFollows, next⟩ ← decodeU8 next
  let ⟨extended, next⟩ ← decodeU32 next
  if next.isEmpty then
    .ok {
      cookie
      keyExchangeAlgorithms
      serverHostKeyAlgorithms
      encryptionAlgorithmsClientToServer
      encryptionAlgorithmsServerToClient
      macAlgorithmsClientToServer
      macAlgorithmsServerToClient
      compressionAlgorithmsClientToServer
      compressionAlgorithmsServerToClient
      languagesClientToServer
      languagesServerToClient
      firstKexPacketFollows := firstKexPacketFollows != 0
      extended }
  else .error (.error (.invalidPacket "unexpected trailing bytes"))

def EcdhKeyExchangeInit.tryFrom (packet : IncomingPacket) : Outcome EcdhKeyExchangeInit := do
  raise (packet.expect [.keyExchangeEcdhInit])
  let ⟨clientEphemeralPublicKey, next⟩ ← decodeBytes packet.payload
  if next.isEmpty then .ok { clientEphemeralPublicKey }
  else .error (.error (.invalidPacket "unexpected trailing bytes"))

def NewKeys.tryFrom (packet : IncomingPacket) : Outcome Unit := do
  raise (packet.expect [.newKeys])
  if packet.payload.isEmpty then .ok ()
  else .error (.error (.invalidPacket "unexpected trailing bytes"))

end KeyExchanging

section Authenticating

/-- The number without the zero in front that keeps it positive. -/
def unsigned (mpint : Bytes) : Bytes :=
  match mpint with
  | 0 :: byte :: rest => byte :: rest
  | _ => mpint

/-- `out[out.len() - data.len()..].copy_from_slice(data)`, when the data fits. -/
def mpintToFixed (mpint out : Bytes) : Outcome (Option Bytes) :=
  let data := unsigned mpint
  if out.length < data.length then .ok none
  else do
    let offset ← Faults.sub overflow out.length data.length
    let target ← Faults.expect outOfRange (from? out offset)
    if target.length = data.length then .ok (some (out.take offset ++ data))
    else .error lengthMismatch

def Signature.encode (signature : Signature) : Outcome Bytes :=
  match signature.algorithm with
  | .ecdsaSha2Nistp256 => do
    let ⟨r, rest⟩ ← decodeBytes signature.signatureBlob
    let ⟨s, next⟩ ← decodeBytes rest
    if next.isEmpty then
      let fixed := List.replicate 64 0
      let first ← Faults.expect outOfRange (upTo? fixed (64 / 2))
      match ← mpintToFixed r first with
      | none => .error (.error (.invalidPacket "failure to decode r in ECDSA signature"))
      | some r =>
        let fixed := r ++ fixed.drop r.length
        let second ← Faults.expect outOfRange (from? fixed (64 / 2))
        match ← mpintToFixed s second with
        | none => .error (.error (.invalidPacket "failure to decode s in ECDSA signature"))
        | some s => .ok (fixed.take (64 / 2) ++ s)
    else .error (.error (.invalidPacket "extra data after ECDSA signature components"))
  | .ed25519 => .ok signature.signatureBlob
  | .unknown _ =>
    .error (.error (.invalidPacket "unsupported public key algorithm for verification"))

def Signature.decode (input : Bytes) : Outcome (Decoded Signature) := do
  let ⟨input, next⟩ ← decodeBytes input
  if next.isEmpty then
    let ⟨algorithm, next⟩ ← decodeNamed input
    let ⟨signatureBlob, next⟩ ← decodeBytes next
    if next.isEmpty then .ok ⟨{ algorithm, signatureBlob }, next⟩
    else .error (.error (.invalidPacket "extra data in signature blob"))
  else .error (.error (.invalidPacket "extra data in signature data"))

def PublicKey.decode (input : Bytes) : Outcome (Decoded PublicKey) := do
  let ⟨hasSignature, next⟩ ← decodeBool input
  let ⟨algorithm, next⟩ ← decodeNamed next
  let ⟨keyBlob, next⟩ ← decodeBytes next
  match hasSignature, next.isEmpty with
  | false, true => .ok ⟨{ algorithm, keyBlob, signature := none }, next⟩
  | false, false =>
    .error (.error (.invalidPacket "trailing bytes in public key auth without signature"))
  | true, _ =>
    let ⟨signature, next⟩ ← Signature.decode next
    if next.isEmpty then .ok ⟨{ algorithm, keyBlob, signature := some signature }, next⟩
    else .error (.error (.invalidPacket "trailing bytes in public key auth with signature"))

def UserAuthRequest.tryFrom (packet : IncomingPacket) : Outcome UserAuthRequest := do
  raise (packet.expect [.userAuthRequest])
  let ⟨userName, next⟩ ← decodeBytes packet.payload
  match fromUtf8 userName with
  | none => .error (.error (.invalidPacket "invalid UTF-8 in user name"))
  | some userName =>
    let ⟨serviceName, next⟩ ← decodeNamed next
    let ⟨methodName, next⟩ ← (decodeNamed next : Outcome (Decoded MethodName))
    let method ← match methodName with
      | .publicKey => do
        let ⟨publicKey, next⟩ ← PublicKey.decode next
        if next.isEmpty then .ok (Method.publicKey publicKey)
        else .error (.error (.invalidPacket "trailing bytes in public key auth request"))
      | .none =>
        if next.isEmpty then .ok Method.none
        else .error (.error (.invalidPacket "unexpected data after none auth method"))
      | _ => .error (.error (.invalidPacket "unsupported authentication method"))
    .ok { userName, serviceName, method }

def ServiceRequest.tryFrom (packet : IncomingPacket) : Outcome ServiceRequest := do
  raise (packet.expect [.serviceRequest])
  let ⟨serviceName, next⟩ ← decodeNamed packet.payload
  if next.isEmpty then .ok { serviceName }
  else .error (.error (.invalidPacket "extra data in service request"))

end Authenticating

section Channels

def whenEmpty {α : Type} (next : Bytes) (message : String) (value : α) : Outcome α :=
  raise (Oxish.whenEmpty next message value)

def ChannelOpen.tryFrom (packet : IncomingPacket) : Outcome ChannelOpen := do
  raise (packet.expect [.channelOpen])
  let ⟨type, next⟩ ← (decodeNamed packet.payload : Outcome (Decoded ChannelType))
  let ⟨senderChannel, next⟩ ← decodeU32 next
  let ⟨initialWindowSize, next⟩ ← decodeU32 next
  let ⟨maximumPacketSize, next⟩ ← decodeU32 next
  let value := { type, senderChannel, initialWindowSize, maximumPacketSize }
  match type with
  | .session => whenEmpty next "extra data in channel open packet" value
  | .unknown _ => .ok value

def Mode.decode (bytes : Bytes) : Outcome (Decoded (Option Mode)) := raise (Oxish.Mode.decode bytes)

/-- The loop over the terminal modes, for so many rounds. -/
def decodeModes : Nat → List (Mode × UInt32) → Bytes → Outcome (List (Mode × UInt32))
  | 0, _, _ => .error endless
  | rounds + 1, modes, input => do
    let ⟨mode, next⟩ ← Mode.decode input
    match mode with
    | none => .ok modes
    | some mode =>
      let ⟨value, next⟩ ← decodeU32 next
      decodeModes rounds ((mode, value) :: modes.filter (·.1 ≠ mode)) next

def PtyReq.decode (input : Bytes) : Outcome (Decoded PtyReq) := do
  let ⟨term, next⟩ ← decodeBytes input
  match fromUtf8 term with
  | none => .error (.error (.invalidPacket "invalid UTF-8 in pty-req data"))
  | some term =>
    let ⟨cols, next⟩ ← decodeU32 next
    let ⟨rows, next⟩ ← decodeU32 next
    let ⟨widthPx, next⟩ ← decodeU32 next
    let ⟨heightPx, next⟩ ← decodeU32 next
    let ⟨encodedModes, next⟩ ← decodeBytes next
    let terminalModes ← decodeModes (encodedModes.length + 1) [] encodedModes
    .ok ⟨{ term, cols, rows, widthPx, heightPx, terminalModes }, next⟩

def WindowChange.decode (input : Bytes) : Outcome (Decoded WindowChange) := do
  let ⟨cols, next⟩ ← decodeU32 input
  let ⟨rows, next⟩ ← decodeU32 next
  let ⟨widthPx, next⟩ ← decodeU32 next
  let ⟨heightPx, next⟩ ← decodeU32 next
  .ok ⟨{ cols, rows, widthPx, heightPx }, next⟩

def Env.decode (input : Bytes) : Outcome (Decoded Env) := do
  let ⟨name, next⟩ ← decodeBytes input
  match fromUtf8 name with
  | none => .error (.error (.invalidPacket "invalid UTF-8 in env name"))
  | some name =>
    let ⟨value, next⟩ ← decodeBytes next
    match fromUtf8 value with
    | none => .error (.error (.invalidPacket "invalid UTF-8 in env value"))
    | some value => .ok ⟨{ name, value }, next⟩

def Exec.decode (input : Bytes) : Outcome (Decoded Exec) := do
  let ⟨command, next⟩ ← decodeBytes input
  .ok ⟨{ command }, next⟩

def ChannelRequestType.decode (type next : Bytes) : Outcome ChannelRequestType :=
  match fromUtf8 type with
  | none => .error (.error (.invalidPacket "unknown channel request type (invalid UTF-8)"))
  | some "pty-req" => do
    let ⟨value, next⟩ ← PtyReq.decode next
    whenEmpty next "extra data in pty-req channel request" (.ptyReq value)
  | some "env" => do
    let ⟨value, next⟩ ← Env.decode next
    whenEmpty next "extra data in env channel request" (.env value)
  | some "shell" => whenEmpty next "extra data in shell channel request" .shell
  | some "exec" => do
    let ⟨value, next⟩ ← Exec.decode next
    whenEmpty next "extra data in exec channel request" (.exec value)
  | some "window-change" => do
    let ⟨value, next⟩ ← WindowChange.decode next
    whenEmpty next "extra data in window-change channel request" (.windowChange value)
  | some "exit-status" => do
    let ⟨value, next⟩ ← decodeU32 next
    whenEmpty next "extra data in exit-status channel request" (.exitStatus value)
  | some "auth-agent-req@openssh.com" => .ok .authAgentReq
  | some name => .ok (.unknown name)

def ChannelRequest.tryFrom (packet : IncomingPacket) : Outcome ChannelRequest := do
  raise (packet.expect [.channelRequest])
  let ⟨recipientChannel, next⟩ ← decodeU32 packet.payload
  let ⟨type, next⟩ ← decodeBytes next
  let ⟨wantReply, next⟩ ← decodeBool next
  let type ← ChannelRequestType.decode type next
  .ok { recipientChannel, type, wantReply }

def ChannelData.tryFrom (packet : IncomingPacket) : Outcome ChannelData := do
  raise (packet.expect [.channelData])
  let ⟨recipientChannel, next⟩ ← decodeU32 packet.payload
  let ⟨data, next⟩ ← decodeBytes next
  whenEmpty next "extra data in channel data packet" { recipientChannel, data }

def ChannelWindowAdjust.tryFrom (packet : IncomingPacket) : Outcome ChannelWindowAdjust := do
  raise (packet.expect [.channelWindowAdjust])
  let ⟨recipientChannel, next⟩ ← decodeU32 packet.payload
  let ⟨bytesToAdd, next⟩ ← decodeU32 next
  whenEmpty next "extra data in channel window adjust packet" { recipientChannel, bytesToAdd }

def ChannelEof.tryFrom (packet : IncomingPacket) : Outcome ChannelEof := do
  raise (packet.expect [.channelEof])
  let ⟨recipientChannel, next⟩ ← decodeU32 packet.payload
  whenEmpty next "extra data in channel eof packet" { recipientChannel }

def ChannelClose.tryFrom (packet : IncomingPacket) : Outcome ChannelClose := do
  raise (packet.expect [.channelClose])
  let ⟨recipientChannel, next⟩ ← decodeU32 packet.payload
  whenEmpty next "extra data in channel close packet" { recipientChannel }

end Channels

/-- A packet goes to the decoder of its message type, and a signature is converted to be verified. -/
def decodeMessage (packet : IncomingPacket) : Outcome Unit :=
  match packet.messageType with
  | .disconnect => (Disconnect.tryFrom packet).map fun _ => ()
  | .serviceRequest => (ServiceRequest.tryFrom packet).map fun _ => ()
  | .keyExchangeInit => (KeyExchangeInit.tryFrom packet).map fun _ => ()
  | .newKeys => NewKeys.tryFrom packet
  | .keyExchangeEcdhInit => (EcdhKeyExchangeInit.tryFrom packet).map fun _ => ()
  | .userAuthRequest => do
    let request ← UserAuthRequest.tryFrom packet
    match request.method with
    | .publicKey { signature := some signature, .. } => (Signature.encode signature).map fun _ => ()
    | _ => .ok ()
  | .globalRequest => (GlobalRequest.tryFrom packet).map fun _ => ()
  | .channelOpen => (ChannelOpen.tryFrom packet).map fun _ => ()
  | .channelRequest => (ChannelRequest.tryFrom packet).map fun _ => ()
  | .channelData => (ChannelData.tryFrom packet).map fun _ => ()
  | .channelWindowAdjust => (ChannelWindowAdjust.tryFrom packet).map fun _ => ()
  | .channelEof => (ChannelEof.tryFrom packet).map fun _ => ()
  | .channelClose => (ChannelClose.tryFrom packet).map fun _ => ()
  | _ => .ok ()

end Oxish.Checked
