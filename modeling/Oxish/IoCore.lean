import Oxish.CryptoCore

/-!
Packet framing: the reader that finds, decrypts and decodes packets in its buffer, and
the writer that pads and seals payloads at the end of its buffer.

A payload is given to the writer in its encoded form. Slices of a buffer that are changed
in place are put back where they came from, also when the operation on them fails.
-/

namespace Oxish

def splitAtChecked (bytes : Bytes) (count : Nat) : Option (Bytes × Bytes) :=
  if count ≤ bytes.length then some (bytes.take count, bytes.drop count) else none

def splitFirstChunk (count : Nat) (bytes : Bytes) : Option (FixedBytes count × Bytes) :=
  if enough : count ≤ bytes.length then
    some (⟨bytes.take count, List.length_take_of_le enough⟩, bytes.drop count)
  else none

structure StrictKeyExchange where
  deriving DecidableEq, Repr

structure ReadState (ρ : Type) where
  buf : Bytes := []
  lastLength : Nat := 0
  sequenceNumber : UInt32 := 0
  opener : Option ρ := none

variable {σ ρ : Type}

namespace ReadState

def complete (state : ReadState ρ) (packetLength : PacketLength) (tagLen : Nat) :
    ReadState ρ × Except (Stop ProtoError) (Completion (UInt32 × PacketLength)) :=
  ({ state with
      sequenceNumber := state.sequenceNumber + 1
      lastLength := 4 + packetLength.toNat + tagLen },
    .ok (.complete (state.sequenceNumber, packetLength)))

def pollSealed [OpeningKey ρ] (state : ReadState ρ) (opener : ρ) :
    ReadState ρ × Except (Stop ProtoError) (Completion (UInt32 × PacketLength)) :=
  match splitFirstChunk 4 state.buf with
  | none => (state, .ok (.incomplete (some (4 - state.buf.length))))
  | some (length, _) =>
    let (opener, lengthBytes) :=
      OpeningKey.decryptPacketLength opener state.sequenceNumber length
    let state := { state with opener := some opener }
    match PacketLength.decode lengthBytes.val with
    | .error error => (state, .error (.error error))
    | .ok ⟨packetLength, next⟩ =>
      if next.isEmpty = false then (state, .error (.panic "assertion failed: next.is_empty()"))
      else
        let tagLen := OpeningKey.tagLen opener
        let stop := 4 + packetLength.toNat
        match splitAtChecked state.buf stop with
        | none => (state, .ok (.incomplete (some (stop + tagLen - state.buf.length))))
        | some (lengthData, rest) =>
          match upTo? rest tagLen with
          | none => (state, .ok (.incomplete (some (tagLen - rest.length))))
          | some tag =>
            let opened := OpeningKey.openInPlace opener state.sequenceNumber lengthData tag
            let state := { state with opener := some opened.key, buf := opened.data.val ++ rest }
            match opened.result with
            | .error error => (state, .error (.error (.crypto error)))
            | .ok () => state.complete packetLength tagLen

def pollPlain (state : ReadState ρ) :
    ReadState ρ × Except (Stop ProtoError) (Completion (UInt32 × PacketLength)) :=
  match PacketLength.decode state.buf with
  | .error error => (state, .error (.error error))
  | .ok ⟨packetLength, next⟩ =>
    if next.length < packetLength.toNat then
      (state, .ok (.incomplete (some (packetLength.toNat - next.length))))
    else state.complete packetLength 0

def pollPacket [OpeningKey ρ] (state : ReadState ρ) :
    ReadState ρ × Except (Stop ProtoError) (Completion (UInt32 × PacketLength)) :=
  -- `copy_within` panics when the packet to drop reaches past the end of the buffer.
  if state.buf.length < state.lastLength then
    (state, .error (.panic "range start index out of range"))
  else
    let state := { state with buf := state.buf.drop state.lastLength, lastLength := 0 }
    match state.opener with
    | some opener => state.pollSealed opener
    | none => state.pollPlain

def decodePacket (state : ReadState ρ) (sequenceNumber : UInt32) (packetLength : PacketLength) :
    Except ProtoError IncomingPacket :=
  match splitFirstChunk 4 state.buf with
  | none => .error (.incomplete (some (4 - state.buf.length)))
  | some (_, next) => do
    let ⟨paddingLength, next⟩ ← PaddingLength.decode next
    let padding := paddingLength.value.toNat
    if packetLength.toNat < 1 + padding then
      .error (.invalidPacket "padding length exceeds packet length")
    else
      let payloadLen := packetLength.toNat - 1 - padding
      match upTo? next payloadLen with
      | none => .error (.incomplete (some (payloadLen - next.length)))
      | some [] => .error (.invalidPacket "packet without message type")
      | some (messageType :: payload) =>
        match from? next payloadLen with
        | none => .error (.unreachable "unable to extract rest after fixed-length slice")
        | some next =>
          match upTo? next padding with
          | none => .error (.incomplete (some (padding - next.length)))
          | some _ =>
            .ok { sequenceNumber, messageType := MessageType.ofByte messageType, payload }

def setLastLength (state : ReadState ρ) (length : Nat) : ReadState ρ :=
  { state with lastLength := length }

def resetSequenceNumber (state : ReadState ρ) (strictKx : Option StrictKeyExchange) : ReadState ρ :=
  if strictKx.isSome then { state with sequenceNumber := 0 } else state

end ReadState

structure WriteState (σ : Type) where
  buf : Bytes := []
  written : Nat := 0
  sequenceNumber : UInt32 := 0
  sealer : Option σ := none
  secureRandom : SecureRandom

namespace WriteState

def new (secureRandom : SecureRandom) : WriteState σ := { secureRandom }

def nextMultipleOf (value factor : Nat) : Nat :=
  if value % factor = 0 then value else value + (factor - value % factor)

def blockSize [SealingKey σ] (sealer : Option σ) : Nat :=
  max (match sealer with
    | some sealer => SealingKey.blockLen sealer
    | none => 0) 8

def unencryptedLen (sealer : Option σ) : Nat :=
  match sealer with
  | some _ => 4
  | none => 0

def paddingLen (blockSize region : Nat) : Nat :=
  let minPadding := max (nextMultipleOf region blockSize) 16 - region
  if minPadding < 4 then minPadding + blockSize else minPadding

def emptyTag [SealingKey σ] (sealer : Option σ) : Bytes :=
  match sealer with
  | some sealer => List.replicate (SealingKey.tagLen sealer) 0
  | none => []

structure Encoding (σ : Type) where
  state : WriteState σ
  exchangeHash : Option HandshakeHash
  result : Except (Stop ProtoError) Unit

def sealPacket [SealingKey σ] (state : WriteState σ) (start bodyLen : Nat) (packet : Bytes)
    (exchangeHash : Option HandshakeHash) : Encoding σ :=
  match state.sealer with
  | none =>
    ⟨{ state with sequenceNumber := state.sequenceNumber + 1 }, exchangeHash, .ok ()⟩
  | some sealer =>
    match splitAtChecked packet bodyLen with
    | none => ⟨state, exchangeHash, .error (.error (.unreachable "unable to split tag from packet"))⟩
    | some (body, tag) =>
      let sealed := SealingKey.sealInPlace sealer state.sequenceNumber body tag
      let state := { state with
        buf := state.buf.take start ++ sealed.data.val ++ sealed.tag.val
        sealer := some sealed.key }
      match sealed.result with
      | .error (.error error) => ⟨state, exchangeHash, .error (.error (.crypto error))⟩
      | .error (.panic site) => ⟨state, exchangeHash, .error (.panic site)⟩
      | .ok () => ⟨{ state with sequenceNumber := state.sequenceNumber + 1 }, exchangeHash, .ok ()⟩

def framePacket [SealingKey σ] (state : WriteState σ) (start payloadLen paddingLen : Nat)
    (exchangeHash : Option HandshakeHash) : Encoding σ :=
  match from? state.buf start with
  | none => ⟨state, exchangeHash, .error (.error (.unreachable "unable to reslice packet"))⟩
  | some packet =>
    match splitFirstChunk 4 packet with
    | none =>
      ⟨state, exchangeHash, .error (.error (.unreachable "unable to split packet length"))⟩
    | some (_, rest) =>
      let packetLength := encodeU32 (UInt32.ofNat (1 + payloadLen + paddingLen))
      match splitFirstChunk 1 rest with
      | none =>
        ⟨{ state with buf := state.buf.take start ++ packetLength ++ rest }, exchangeHash,
          .error (.error (.unreachable "unable to split padding length"))⟩
      | some (_, paddedPayload) =>
        let packet := packetLength ++ [UInt8.ofNat paddingLen] ++ paddedPayload
        let state := { state with buf := state.buf.take start ++ packet }
        let exchangeHash := match upTo? paddedPayload payloadLen with
          | some payload => exchangeHash.map fun exchangeHash => exchangeHash.prefixed payload
          | none => exchangeHash
        state.sealPacket start (5 + payloadLen + paddingLen) packet exchangeHash

def encodeKx [SealingKey σ] (state : WriteState σ) (payload : Bytes)
    (exchangeHash : Option HandshakeHash) : Encoding σ :=
  let start := state.buf.length
  let buf := state.buf ++ [0, 0, 0, 0] ++ [0]
  let payloadStart := buf.length
  let buf := buf ++ payload
  let payloadLen := buf.length - payloadStart
  let region := buf.length - start - unencryptedLen state.sealer
  let paddingLen := paddingLen (blockSize state.sealer) region
  let padding := state.secureRandom.fill paddingLen
  let state := { state with buf := buf ++ padding.bytes.val, secureRandom := padding.random }
  match padding.result with
  | .error _ =>
    ⟨state, exchangeHash, .error (.error (.unreachable "failed to get random padding"))⟩
  | .ok () =>
    { state with buf := state.buf ++ emptyTag state.sealer }.framePacket start payloadLen paddingLen
      exchangeHash

def encode [SealingKey σ] (state : WriteState σ) (payload : Bytes) :
    WriteState σ × Except (Stop ProtoError) Unit :=
  let encoding := state.encodeKx payload none
  (encoding.state, encoding.result)

def encoded (state : WriteState σ) (payload : Bytes) : WriteState σ × Bytes :=
  ({ state with buf := state.buf ++ payload }, state.buf ++ payload)

def recordWritten (state : WriteState σ) (result : Except IoError Nat) :
    WriteState σ × Except IoError Unit :=
  match result with
  | .error error => (state, .error error)
  | .ok written =>
    if written = 0 then (state, .error ⟨.writeZero, "failed to write buffered data"⟩)
    else
      let state := { state with written := state.written + written }
      if state.written = state.buf.length then ({ state with buf := [], written := 0 }, .ok ())
      else (state, .ok ())

def clear (state : WriteState σ) : WriteState σ := { state with buf := [] }

def resetSequenceNumber (state : WriteState σ) (strictKx : Option StrictKeyExchange) :
    WriteState σ :=
  if strictKx.isSome then { state with sequenceNumber := 0 } else state

def buffered (state : WriteState σ) : Option Bytes := from? state.buf state.written

end WriteState

end Oxish
