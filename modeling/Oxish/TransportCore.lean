import Oxish.PacketEncoding
import Oxish.PacketReading

/-!
Two ends of a connection. The writer encodes a script of payloads and key switches; the
reader gets the resulting bytes in chunks, polls after every chunk until no further packet is
complete, and mirrors a key switch once it has decoded its `NEWKEYS`.
-/

namespace Oxish

/-- A relation between sealers and openers that share a key and a nonce sequence: what one
seals the other opens, and both move on together. Block sizes that would push the padding past
its one-byte length field are excluded. -/
structure Pairing (σ ρ : Type) [SealingKey σ] [OpeningKey ρ] where
  Matching : σ → ρ → Prop
  lengthPure : ∀ (opener : ρ) (number : UInt32) (field : FixedBytes 4),
    (OpeningKey.decryptPacketLength opener number field).1 = opener
  blockLen : ∀ {sealer opener}, Matching sealer opener → SealingKey.blockLen sealer ≤ 252
  tagLen : ∀ {sealer opener}, Matching sealer opener →
    OpeningKey.tagLen opener = SealingKey.tagLen sealer
  lengthField : ∀ {sealer opener}, Matching sealer opener → ∀ number data tag,
    tag.length = SealingKey.tagLen sealer →
    (SealingKey.sealInPlace sealer number data tag).result = .ok () →
    ∀ field : FixedBytes 4,
      field.val = (SealingKey.sealInPlace sealer number data tag).data.val.take 4 →
      (OpeningKey.decryptPacketLength opener number field).2.val = data.take 4
  opens : ∀ {sealer opener}, Matching sealer opener → ∀ number data tag,
    tag.length = SealingKey.tagLen sealer →
    (SealingKey.sealInPlace sealer number data tag).result = .ok () →
    let sealed := SealingKey.sealInPlace sealer number data tag
    let opened := OpeningKey.openInPlace opener number sealed.data.val sealed.tag.val
    opened.result = .ok () ∧ opened.data.val = data ∧ Matching sealed.key opened.key

variable {σ ρ : Type} [SealingKey σ] [OpeningKey ρ]

def Pairing.Keys (pairing : Pairing σ ρ) : Option σ → Option ρ → Prop
  | none, none => True
  | some sealer, some opener => pairing.Matching sealer opener
  | _, _ => False

structure KeySwitch (pairing : Pairing σ ρ) where
  strictKx : Option StrictKeyExchange
  sealer : σ
  opener : ρ
  matching : pairing.Matching sealer opener

structure Payload where
  messageByte : UInt8
  body : Bytes

inductive Entry (pairing : Pairing σ ρ) where
  | payload (payload : Payload)
  | keySwitch (switch : KeySwitch pairing)

variable {pairing : Pairing σ ρ}

def Entry.payloadOf : Entry pairing → Payload
  | .payload plain => plain
  | .keySwitch _ => { messageByte := MessageType.newKeys.toByte, body := [] }

def Payload.bytes (payload : Payload) : Bytes := payload.messageByte :: payload.body

def Payload.packet (payload : Payload) (number : UInt32) : IncomingPacket where
  sequenceNumber := number
  messageType := MessageType.ofByte payload.messageByte
  payload := payload.body

def Entry.applyWriter : Entry pairing → WriteState σ → WriteState σ
  | .payload _, state => state
  | .keySwitch switch, state =>
    { state.resetSequenceNumber switch.strictKx with sealer := some switch.sealer }

structure Frame where
  sequenceNumber : UInt32
  payload : Payload
  packetLength : Nat

def WriteState.writeAll : WriteState σ → List (Entry pairing) →
    Except (Stop ProtoError) (WriteState σ × List Frame)
  | state, [] => .ok (state, [])
  | state, entry :: script =>
    let payload := entry.payloadOf
    let encoding := state.encodeKx payload.bytes none
    match encoding.result with
    | .error stop => .error stop
    | .ok () => do
      let (last, frames) ← (entry.applyWriter encoding.state).writeAll script
      let packetLength := 1 + payload.bytes.length + (state.drawPadding payload.bytes).bytes.val.length
      .ok (last, { sequenceNumber := state.sequenceNumber, payload, packetLength } :: frames)

namespace ReadState

def mirror (state : ReadState ρ) (packet : IncomingPacket) :
    List (Entry pairing) → ReadState ρ × List (Entry pairing)
  | [] => (state, [])
  | .payload _ :: script => (state, script)
  | .keySwitch switch :: script =>
    if packet.messageType = .newKeys then
      ({ state.resetSequenceNumber switch.strictKx with opener := some switch.opener }, script)
    else (state, script)

inductive Received (pairing : Pairing σ ρ) where
  | waiting (state : ReadState ρ)
  | stopped (state : ReadState ρ) (stop : Stop ProtoError)
  | packet (packet : IncomingPacket) (state : ReadState ρ) (script : List (Entry pairing))

def receiveStep (state : ReadState ρ) (script : List (Entry pairing)) : Received pairing :=
  match state.pollPacket with
  | (state, .ok (.complete (number, length))) =>
    match state.decodePacket number length with
    | .error error => .stopped state (.error error)
    | .ok packet =>
      let (state, script) := state.mirror packet script
      .packet packet state script
  | (state, .ok (.incomplete _)) => .waiting state
  | (state, .error (.error (.incomplete _))) => .waiting state
  | (state, .error stop) => .stopped state stop

structure Reading (pairing : Pairing σ ρ) where
  packets : List IncomingPacket
  state : ReadState ρ
  script : List (Entry pairing)
  stopped : Option (Stop ProtoError)

def Reading.after (packets : List IncomingPacket) (reading : Reading pairing) : Reading pairing :=
  { reading with packets := packets ++ reading.packets }

def receiveAll : Nat → ReadState ρ → List (Entry pairing) → Reading pairing
  | 0, state, script => ⟨[], state, script, none⟩
  | fuel + 1, state, script =>
    match state.receiveStep script with
    | .waiting state => ⟨[], state, script, none⟩
    | .stopped state stop => ⟨[], state, script, some stop⟩
    | .packet packet state script => (receiveAll fuel state script).after [packet]

def receiveChunks : ReadState ρ → List (Entry pairing) → List Bytes → Reading pairing
  | state, script, [] => ⟨[], state, script, none⟩
  | state, script, chunk :: chunks =>
    let state := state.extend chunk
    let first := receiveAll (state.buf.length + 1) state script
    if first.stopped.isSome then first
    else (receiveChunks first.state first.script chunks).after first.packets

end ReadState

end Oxish
