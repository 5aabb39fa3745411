import Oxish.Wire

/-!
What the reader accepts. A complete poll is decided by the bytes of one frame, so neither its
result nor the bytes left behind the frame change when more input is appended; the packet
decoder then accepts exactly the frames with a well-formed padding.
-/

namespace Oxish

variable {ρ : Type}

theorem upTo_extend {bytes head : Bytes} {count : Nat} (found : upTo? bytes count = some head)
    (later : Bytes) : upTo? (bytes ++ later) count = some head := by
  simp only [upTo?] at found ⊢
  split at found
  · rename_i bound
    cases found
    rw [if_pos (by rw [List.length_append]; omega), List.take_append_of_le_length bound]
  · cases found

theorem splitAtChecked_eq_some {bytes head rest : Bytes} {count : Nat} :
    splitAtChecked bytes count = some (head, rest) ↔ bytes = head ++ rest ∧ head.length = count := by
  constructor
  · intro found
    simp only [splitAtChecked] at found
    split at found
    · rename_i bound
      cases found
      exact ⟨(List.take_append_drop count bytes).symm, by simp [bound]⟩
    · cases found
  · rintro ⟨rfl, length⟩
    exact splitAtChecked_append length

theorem splitFirstChunk_eq_some {bytes rest : Bytes} {count : Nat} {head : FixedBytes count} :
    splitFirstChunk count bytes = some (head, rest) ↔ bytes = head.val ++ rest := by
  constructor
  · intro found
    simp only [splitFirstChunk] at found
    split at found
    · cases found
      exact (List.take_append_drop count bytes).symm
    · cases found
  · rintro rfl
    exact splitFirstChunk_append head.property

theorem splitFirstChunk_eq_none {bytes : Bytes} {count : Nat} :
    splitFirstChunk count bytes = none ↔ bytes.length < count := by
  simp only [splitFirstChunk]
  split
  · simp only [reduceCtorEq, false_iff]
    omega
  · simp only [true_iff]
    omega

theorem splitAtChecked_eq_none {bytes : Bytes} {count : Nat} :
    splitAtChecked bytes count = none ↔ bytes.length < count := by
  simp only [splitAtChecked]
  split
  · simp only [reduceCtorEq, false_iff]
    omega
  · simp only [true_iff]
    omega

theorem upTo_eq_none {bytes : Bytes} {count : Nat} :
    upTo? bytes count = none ↔ bytes.length < count := by
  simp only [upTo?]
  split
  · simp only [reduceCtorEq, false_iff]
    omega
  · simp only [true_iff]
    omega

theorem decodeU32_error {bytes : Bytes} {error : ProtoError}
    (refused : decodeU32 bytes = .error error) :
    bytes.length < 4 ∧ error = .incomplete (some (4 - bytes.length)) := by
  simp only [decodeU32, decodeArray] at refused
  split at refused
  · cases refused
  · rename_i short
    rw [Outcome.map_error] at refused
    cases refused
    exact ⟨by omega, rfl⟩

theorem PacketLength.decode_ok {bytes : Bytes} {decoded : Decoded PacketLength}
    (accepted : PacketLength.decode bytes = .ok decoded) :
    bytes = encodeU32 decoded.value.value ++ decoded.next := by
  simp only [PacketLength.decode, Outcome.bind_eq_ok] at accepted
  obtain ⟨raw, read, checked⟩ := accepted
  split at checked
  · cases checked
    exact decodeU32_ok read
  · cases checked

theorem PacketLength.length_of_decode {bytes : Bytes} {decoded : Decoded PacketLength}
    (accepted : PacketLength.decode bytes = .ok decoded) :
    bytes.length = 4 + decoded.next.length := by
  have shape := congrArg List.length (PacketLength.decode_ok accepted)
  rwa [List.length_append, length_encodeU32] at shape

theorem PacketLength.decode_error {bytes : Bytes} {error : ProtoError}
    (refused : PacketLength.decode bytes = .error error) :
    (bytes.length < 4 ∧ error = .incomplete (some (4 - bytes.length))) ∨
      (4 ≤ bytes.length ∧ error = .invalidPacket "packet too large" ∧
        ∀ later, PacketLength.decode (bytes ++ later) = .error error) := by
  cases read : decodeU32 bytes with
  | error cause =>
      simp only [PacketLength.decode, read, Outcome.error_bind, Except.error.injEq] at refused
      subst refused
      exact .inl (decodeU32_error read)
  | ok raw =>
      have shape := decodeU32_ok read
      simp only [PacketLength.decode, read, Outcome.ok_bind] at refused
      split at refused
      · cases refused
      · rename_i large
        cases refused
        refine .inr ⟨?_, rfl, fun later => ?_⟩
        · rw [shape, List.length_append, length_encodeU32]
          omega
        · rw [shape, List.append_assoc]
          simp only [PacketLength.decode, decodeU32_encodeU32, Outcome.ok_bind, dif_neg large]

theorem PacketLength.decode_extend {bytes : Bytes} {decoded : Decoded PacketLength}
    (accepted : PacketLength.decode bytes = .ok decoded) (later : Bytes) :
    PacketLength.decode (bytes ++ later) = .ok ⟨decoded.value, decoded.next ++ later⟩ := by
  rw [PacketLength.decode_ok accepted, List.append_assoc]
  exact PacketLength.decode_encode decoded.value _

theorem PaddingLength.decode_ok {bytes : Bytes} {decoded : Decoded PaddingLength}
    (accepted : PaddingLength.decode bytes = .ok decoded) :
    ∃ byte, bytes = byte :: decoded.next ∧ 4 ≤ byte.toNat ∧ decoded.value.value = byte := by
  cases bytes with
  | nil => simp [PaddingLength.decode, decodeU8] at accepted
  | cons byte rest =>
      simp only [PaddingLength.decode, decodeU8, Outcome.ok_bind] at accepted
      split at accepted
      · rename_i enough
        cases accepted
        exact ⟨byte, rfl, enough, rfl⟩
      · cases accepted

namespace ReadState

def needsMore : Except (Stop ProtoError) (Completion (UInt32 × PacketLength)) → Bool
  | .ok (.incomplete _) => true
  | .error (.error (.incomplete _)) => true
  | _ => false

def extend (state : ReadState ρ) (later : Bytes) : ReadState ρ :=
  { state with buf := state.buf ++ later }

theorem pollPlain_extend (state : ReadState ρ) (later : Bytes)
    (decided : needsMore state.pollPlain.2 = false) :
    (state.extend later).pollPlain = (state.pollPlain.1.extend later, state.pollPlain.2) := by
  cases read : PacketLength.decode state.buf with
  | error error =>
      rcases PacketLength.decode_error read with ⟨_, rfl⟩ | ⟨_, rfl, stable⟩
      · simp [pollPlain, read, needsMore] at decided
      · simp only [pollPlain, extend, stable later, read]
  | ok decoded =>
      have wider := PacketLength.decode_extend read later
      simp only [pollPlain, read] at decided ⊢
      simp only [extend, wider]
      split at decided
      · simp [needsMore] at decided
      · rename_i enough
        rw [if_neg enough, if_neg (by rw [List.length_append]; omega)]
        rfl

theorem pollSealed_extend [OpeningKey ρ] (state : ReadState ρ) (opener : ρ) (later : Bytes)
    (decided : needsMore (state.pollSealed opener).2 = false) :
    (state.extend later).pollSealed opener =
      ((state.pollSealed opener).1.extend later, (state.pollSealed opener).2) := by
  cases chunk : splitFirstChunk 4 state.buf with
  | none => simp [pollSealed, chunk, needsMore] at decided
  | some found =>
      obtain ⟨field, rest⟩ := found
      have wideChunk : splitFirstChunk 4 (state.buf ++ later) = some (field, rest ++ later) := by
        rw [splitFirstChunk_eq_some] at chunk ⊢
        rw [chunk, List.append_assoc]
      simp only [pollSealed, extend, chunk, wideChunk] at decided ⊢
      generalize OpeningKey.decryptPacketLength opener state.sequenceNumber field = recovered
        at decided ⊢
      obtain ⟨opener, lengthBytes⟩ := recovered
      cases read : PacketLength.decode lengthBytes.val with
      | error error => simp only
      | ok decoded =>
          obtain ⟨packetLength, next⟩ := decoded
          simp only [read] at decided ⊢
          by_cases trailing : next.isEmpty = false
          · simp only [if_pos trailing]
          · simp only [if_neg trailing] at decided ⊢
            cases parts : splitAtChecked state.buf (4 + packetLength.toNat) with
            | none => simp [parts, needsMore] at decided
            | some found =>
                obtain ⟨lengthData, rest⟩ := found
                have wideParts : splitAtChecked (state.buf ++ later) (4 + packetLength.toNat) =
                    some (lengthData, rest ++ later) := by
                  rw [splitAtChecked_eq_some] at parts ⊢
                  rw [parts.1, List.append_assoc]
                  exact ⟨rfl, parts.2⟩
                simp only [parts, wideParts] at decided ⊢
                cases tagged : upTo? rest (OpeningKey.tagLen opener) with
                | none => simp [tagged, needsMore] at decided
                | some tag =>
                    simp only [upTo_extend tagged later, ← List.append_assoc]
                    split
                    · rfl
                    · rfl

def compacted (state : ReadState ρ) : ReadState ρ :=
  { state with buf := state.buf.drop state.lastLength, lastLength := 0 }

theorem compacted_compacted (state : ReadState ρ) : state.compacted.compacted = state.compacted := by
  simp [compacted]

theorem compacted_extend (state : ReadState ρ) (later : Bytes)
    (consumed : state.lastLength ≤ state.buf.length) :
    (state.extend later).compacted = state.compacted.extend later := by
  simp only [compacted, extend, List.drop_append_of_le_length consumed]

theorem pollPacket_plain [OpeningKey ρ] {state : ReadState ρ}
    (consumed : state.lastLength ≤ state.buf.length) (unsealed : state.opener = none) :
    state.pollPacket = state.compacted.pollPlain := by
  have within : ¬ state.buf.length < state.lastLength := by omega
  simp only [pollPacket, if_neg within, unsealed, compacted]

theorem pollPacket_sealed [OpeningKey ρ] {state : ReadState ρ} {opener : ρ}
    (consumed : state.lastLength ≤ state.buf.length) (installed : state.opener = some opener) :
    state.pollPacket = state.compacted.pollSealed opener := by
  have within : ¬ state.buf.length < state.lastLength := by omega
  simp only [pollPacket, if_neg within, installed, compacted]

theorem pollPacket_extend [OpeningKey ρ] (state : ReadState ρ) (later : Bytes)
    (consumed : state.lastLength ≤ state.buf.length)
    (decided : needsMore state.pollPacket.2 = false) :
    (state.extend later).pollPacket = (state.pollPacket.1.extend later, state.pollPacket.2) := by
  have stillConsumed : (state.extend later).lastLength ≤ (state.extend later).buf.length := by
    simp only [extend, List.length_append]
    omega
  rcases Option.eq_none_or_eq_some state.opener with unsealed | ⟨opener, installed⟩
  · have stillUnsealed : (state.extend later).opener = none := unsealed
    rw [pollPacket_plain consumed unsealed] at decided ⊢
    rw [pollPacket_plain stillConsumed stillUnsealed, compacted_extend state later consumed]
    exact pollPlain_extend state.compacted later decided
  · have stillInstalled : (state.extend later).opener = some opener := installed
    rw [pollPacket_sealed consumed installed] at decided ⊢
    rw [pollPacket_sealed stillConsumed stillInstalled, compacted_extend state later consumed]
    exact pollSealed_extend state.compacted opener later decided

structure Completed (before after : ReadState ρ) (number : UInt32) (length : PacketLength) :
    Prop where
  number : number = before.sequenceNumber
  advanced : after.sequenceNumber = before.sequenceNumber + 1
  framed : 4 + length.toNat ≤ after.lastLength
  inBuffer : after.lastLength ≤ after.buf.length
  sameLength : after.buf.length = before.buf.length

theorem pollPlain_complete {state next : ReadState ρ} {number : UInt32} {length : PacketLength}
    (polled : state.pollPlain = (next, .ok (.complete (number, length)))) :
    Completed state next number length := by
  cases read : PacketLength.decode state.buf with
  | error error => simp [pollPlain, read] at polled
  | ok decoded =>
      have shape := PacketLength.length_of_decode read
      simp only [pollPlain, read] at polled
      split at polled
      · simp at polled
      · simp only [complete, Prod.mk.injEq, Except.ok.injEq, Completion.complete.injEq] at polled
        obtain ⟨rfl, rfl, rfl⟩ := polled
        exact ⟨rfl, rfl, by simp, by simp only; omega, rfl⟩

theorem pollSealed_complete [OpeningKey ρ] {state next : ReadState ρ} {opener : ρ}
    {number : UInt32} {length : PacketLength}
    (polled : state.pollSealed opener = (next, .ok (.complete (number, length)))) :
    Completed state next number length := by
  cases chunk : splitFirstChunk 4 state.buf with
  | none => simp [pollSealed, chunk] at polled
  | some found =>
      simp only [pollSealed, chunk] at polled
      generalize OpeningKey.decryptPacketLength opener state.sequenceNumber found.1 = recovered
        at polled
      obtain ⟨opener, lengthBytes⟩ := recovered
      cases read : PacketLength.decode lengthBytes.val with
      | error error => simp [read] at polled
      | ok decoded =>
          obtain ⟨packetLength, trailing⟩ := decoded
          simp only [read] at polled
          split at polled
          · simp at polled
          · split at polled
            · simp at polled
            · rename_i lengthData rest parts
              split at polled
              · simp at polled
              · rename_i tag tagged
                obtain ⟨behind, rfl, tagLength⟩ := upTo_eq_some.mp tagged
                obtain ⟨shape, dataLength⟩ := splitAtChecked_eq_some.mp parts
                split at polled
                · simp at polled
                · simp only [complete, Prod.mk.injEq, Except.ok.injEq,
                    Completion.complete.injEq] at polled
                  obtain ⟨rfl, rfl, rfl⟩ := polled
                  have opened := (OpeningKey.openInPlace opener state.sequenceNumber lengthData
                    tag).data.property
                  refine ⟨rfl, rfl, by simp, ?_, ?_⟩
                  · simp only [List.length_append]
                    omega
                  · rw [shape]
                    simp only [List.length_append]
                    omega

theorem pollPacket_complete [OpeningKey ρ] {state : ReadState ρ} {number : UInt32}
    {length : PacketLength} (consumed : state.lastLength ≤ state.buf.length)
    (polled : state.pollPacket.2 = .ok (.complete (number, length))) :
    Completed state.compacted state.pollPacket.1 number length := by
  rcases Option.eq_none_or_eq_some state.opener with unsealed | ⟨opener, installed⟩
  · rw [pollPacket_plain consumed unsealed] at polled ⊢
    exact pollPlain_complete (Prod.ext rfl polled)
  · rw [pollPacket_sealed consumed installed] at polled ⊢
    exact pollSealed_complete (Prod.ext rfl polled)

def unread (state : ReadState ρ) : Bytes := state.buf.drop state.lastLength

theorem unread_extend {state : ReadState ρ} (consumed : state.lastLength ≤ state.buf.length)
    (later : Bytes) : (state.extend later).unread = state.unread ++ later :=
  List.drop_append_of_le_length consumed

/-- The packet decoder accepts exactly the frames whose padding is at least four bytes long and
leaves room for a message number. -/
theorem decodePacket_ok_iff {state : ReadState ρ} {number : UInt32} {length : PacketLength}
    {packet : IncomingPacket} :
    state.decodePacket number length = .ok packet ↔
      ∃ (header : FixedBytes 4) (paddingByte messageByte : UInt8) (payload padding rest : Bytes),
        state.buf = header.val ++ (paddingByte :: (messageByte :: payload ++ (padding ++ rest))) ∧
        4 ≤ paddingByte.toNat ∧ padding.length = paddingByte.toNat ∧
        length.toNat = 2 + payload.length + padding.length ∧
        packet = {
          sequenceNumber := number
          messageType := MessageType.ofByte messageByte
          payload } := by
  constructor
  · intro accepted
    cases chunk : splitFirstChunk 4 state.buf with
    | none => simp [decodePacket, chunk] at accepted
    | some found =>
        obtain ⟨header, body⟩ := found
        simp only [decodePacket, chunk, Outcome.bind_eq_ok] at accepted
        obtain ⟨⟨paddingLength, next⟩, read, checked⟩ := accepted
        obtain ⟨_, rfl, enough, rfl⟩ := PaddingLength.decode_ok read
        split at checked
        · cases checked
        · rename_i room
          split at checked
          · cases checked
          · cases checked
          · rename_i messageByte payload taken
            obtain ⟨behind, rfl, payloadLength⟩ := upTo_eq_some.mp taken
            rw [from_append payloadLength] at checked
            simp only at checked
            split at checked
            · cases checked
            · rename_i padding padded
              obtain ⟨rest, rfl, paddingBytes⟩ := upTo_eq_some.mp padded
              simp only [Except.ok.injEq] at checked
              simp only [List.length_cons] at payloadLength
              refine ⟨header, paddingLength.value, messageByte, payload, padding, rest, ?_, enough,
                paddingBytes, by omega, checked.symm⟩
              exact splitFirstChunk_eq_some.mp chunk
  · rintro ⟨header, paddingByte, messageByte, payload, padding, rest, shape, enough,
      paddingBytes, lengths, rfl⟩
    have room : ¬ length.toNat < 1 + paddingByte.toNat := by omega
    have payloadLength : (messageByte :: payload).length =
        length.toNat - 1 - paddingByte.toNat := by
      rw [List.length_cons]
      omega
    simp only [decodePacket, shape, splitFirstChunk_append header.property, PaddingLength.decode,
      decodeU8, Outcome.ok_bind, dif_pos enough, if_neg room, upTo_append payloadLength,
      from_append payloadLength, upTo_append paddingBytes]

theorem decodePacket_extend {state : ReadState ρ} {number : UInt32} {length : PacketLength}
    (inBuffer : 4 + length.toNat ≤ state.buf.length) (later : Bytes) (packet : IncomingPacket) :
    (state.extend later).decodePacket number length = .ok packet ↔
      state.decodePacket number length = .ok packet := by
  rw [decodePacket_ok_iff, decodePacket_ok_iff]
  constructor
  · rintro ⟨header, paddingByte, messageByte, payload, padding, rest, shape, enough,
      paddingBytes, lengths, same⟩
    have headerLength := header.property
    have regrouped : state.buf ++ later =
        (header.val ++ (paddingByte :: (messageByte :: payload ++ padding))) ++ rest := by
      rw [show state.buf ++ later = (state.extend later).buf from rfl, shape]
      simp
    have frameLength :
        (header.val ++ (paddingByte :: (messageByte :: payload ++ padding))).length =
          4 + length.toNat := by
      simp only [List.length_append, List.length_cons]
      omega
    have frame := congrArg (List.take (4 + length.toNat)) regrouped
    rw [List.take_append_of_le_length inBuffer, List.take_left' frameLength] at frame
    refine ⟨header, paddingByte, messageByte, payload, padding,
      state.buf.drop (4 + length.toNat), ?_, enough, paddingBytes, lengths, same⟩
    have whole := List.take_append_drop (4 + length.toNat) state.buf
    rw [frame] at whole
    simpa using whole.symm
  · rintro ⟨header, paddingByte, messageByte, payload, padding, rest, shape, enough,
      paddingBytes, lengths, same⟩
    refine ⟨header, paddingByte, messageByte, payload, padding, rest ++ later, ?_, enough,
      paddingBytes, lengths, same⟩
    simp [extend, shape]

end ReadState

end Oxish
