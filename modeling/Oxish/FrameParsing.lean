import Oxish.GcmCore
import Oxish.PacketReading

/-!
One frame in the buffer. The packet decoder looks at the bytes of the frame only, and accepts it
exactly when its padding is well formed; and a poll that asks for more input says how much, for as
long as the frame is not there.
-/

namespace Oxish.ReadState

variable {ρ : Type}

section Frame

def followedBy (state : ReadState ρ) (length : PacketLength) (rest : Bytes) : ReadState ρ :=
  { state with buf := state.buf.take (4 + length.toNat) ++ rest }

theorem exists_parts {frame : Bytes} {length : Nat} (sized : frame.length = 4 + length)
    (nonempty : 1 ≤ length) :
    ∃ (header : FixedBytes 4) (padding : UInt8) (body : Bytes),
      frame = header.val ++ padding :: body ∧ length = 1 + body.length := by
  have headerLength : (frame.take 4).length = 4 := by
    rw [List.length_take]
    omega
  have whole := List.take_append_drop 4 frame
  cases tail : frame.drop 4 with
  | nil =>
      have counted := congrArg List.length tail
      rw [List.length_drop, List.length_nil] at counted
      omega
  | cons padding body =>
      rw [tail] at whole
      have counted := congrArg List.length tail
      rw [List.length_drop, List.length_cons] at counted
      exact ⟨⟨frame.take 4, headerLength⟩, padding, body, whole.symm, by omega⟩

theorem decodePacket_parts {state : ReadState ρ} {length : PacketLength} {header : FixedBytes 4}
    {padding : UInt8} {body rest : Bytes} (number : UInt32)
    (shape : state.buf = header.val ++ padding :: (body ++ rest))
    (sized : length.toNat = 1 + body.length) :
    state.decodePacket number length =
      if padding.toNat < 4 then .error (.invalidPacket "padding too short")
      else if body.length < padding.toNat then
        .error (.invalidPacket "padding length exceeds packet length")
      else
        match body.take (body.length - padding.toNat) with
        | [] => .error (.invalidPacket "packet without message type")
        | messageByte :: payload =>
          .ok { sequenceNumber := number, messageType := MessageType.ofByte messageByte, payload } := by
  unfold decodePacket
  rw [shape, splitFirstChunk_append header.property]
  simp only [PaddingLength.decode, decodeU8, Outcome.ok_bind]
  by_cases enough : 4 ≤ padding.toNat
  · rw [dif_pos enough, if_neg (by omega : ¬padding.toNat < 4)]
    simp only [Outcome.ok_bind]
    by_cases room : body.length < padding.toNat
    · rw [if_pos room, if_pos (by omega)]
    · rw [if_neg room, if_neg (by omega)]
      -- the payload and the padding are the two parts of the body
      have split := List.take_append_drop (body.length - padding.toNat) body
      have payloadLength : (body.take (body.length - padding.toNat)).length =
          length.toNat - 1 - padding.toNat := by
        rw [List.length_take]
        omega
      have paddingLength : (body.drop (body.length - padding.toNat)).length = padding.toNat := by
        rw [List.length_drop]
        omega
      generalize body.take (body.length - padding.toNat) = payload at *
      generalize body.drop (body.length - padding.toNat) = filler at *
      subst split
      rw [List.append_assoc, upTo_append payloadLength, from_append payloadLength]
      cases payload with
      | nil => rfl
      | cons messageByte payload =>
          simp only [upTo_append paddingLength]
  · rw [dif_neg enough, if_pos (by omega)]
    rfl

/-- The result of decoding is decided by the frame: which frames are accepted, what an accepted
packet consists of, and that a frame that is there is not called incomplete. -/
structure Parsed (frame : Bytes) (number : UInt32) (length : Nat)
    (result : Except ProtoError IncomingPacket) : Prop where
  accepted : (∃ packet, result = .ok packet) ↔
    1 ≤ length ∧ ∃ padding, frame[4]? = some padding ∧ 4 ≤ padding.toNat ∧
      padding.toNat + 2 ≤ length
  contents : ∀ packet padding, result = .ok packet → frame[4]? = some padding →
    packet.sequenceNumber = number ∧
    (∃ messageByte, frame[5]? = some messageByte ∧
      packet.messageType = MessageType.ofByte messageByte) ∧
    packet.payload = (frame.take (4 + length - padding.toNat)).drop 6
  refused : 1 ≤ length → ∀ error, result = .error error →
    (∀ needed, error ≠ .incomplete needed) ∧ ∀ message, error ≠ .unreachable message

theorem parsed_empty {state : ReadState ρ} {length : PacketLength} (empty : length.toNat = 0)
    (frame : Bytes) (number : UInt32) :
    Parsed frame number length.toNat (state.decodePacket number length) := by
  have never (packet : IncomingPacket) : state.decodePacket number length ≠ .ok packet := by
    intro accepted
    obtain ⟨_, _, _, _, _, _, _, _, _, lengths, _⟩ := decodePacket_ok_iff.mp accepted
    omega
  refine ⟨⟨?_, ?_⟩, ?_, by omega⟩
  · rintro ⟨packet, accepted⟩
    exact absurd accepted (never packet)
  · rintro ⟨nonempty, _⟩
    omega
  · intro packet padding accepted
    exact absurd accepted (never packet)

theorem parsed_refused {frame : Bytes} {length : Nat} {padding : UInt8} (number : UInt32)
    (message : String) (fifth : frame[4]? = some padding)
    (outside : padding.toNat < 4 ∨ length < padding.toNat + 2) :
    Parsed frame number length (.error (.invalidPacket message)) := by
  refine ⟨⟨nofun, ?_⟩, nofun, ?_⟩
  · rintro ⟨_, other, same, enough, room⟩
    cases fifth.symm.trans same
    omega
  · rintro _ error ⟨⟩
    exact ⟨nofun, nofun⟩

theorem parsed_parts {state : ReadState ρ} {length : PacketLength} {header : FixedBytes 4}
    {padding : UInt8} {body rest : Bytes} (number : UInt32)
    (shape : state.buf = header.val ++ padding :: (body ++ rest))
    (sized : length.toNat = 1 + body.length) :
    Parsed (header.val ++ padding :: body) number length.toNat
      (state.decodePacket number length) := by
  have headerLength := header.property
  have fifth : (header.val ++ padding :: body)[4]? = some padding := by
    rw [List.getElem?_append_right (by omega), headerLength]
    rfl
  have sixth : (header.val ++ padding :: body)[5]? = body[0]? := by
    rw [List.getElem?_append_right (by omega), headerLength]
    rfl
  rw [decodePacket_parts number shape sized]
  by_cases short : padding.toNat < 4
  · rw [if_pos short]
    exact parsed_refused number _ fifth (.inl short)
  rw [if_neg short]
  by_cases long : body.length < padding.toNat
  · rw [if_pos long]
    exact parsed_refused number _ fifth (.inr (by omega))
  rw [if_neg long]
  cases taken : body.take (body.length - padding.toNat) with
  | nil =>
      have counted := congrArg List.length taken
      rw [List.length_take, List.length_nil] at counted
      exact parsed_refused number _ fifth (.inr (by omega))
  | cons messageByte payload =>
      have counted := congrArg List.length taken
      rw [List.length_take, List.length_cons] at counted
      have first : body[0]? = some messageByte := by
        have nonempty : 0 < body.length - padding.toNat := by omega
        rw [← List.getElem?_take_of_lt nonempty, taken]
        rfl
      have payloadBytes : ((header.val ++ padding :: body).take
          (4 + length.toNat - padding.toNat)).drop 6 = payload := by
        have room : 4 + length.toNat - padding.toNat =
            header.val.length + (body.length - padding.toNat + 1) := by omega
        rw [room, List.take_length_add_append, List.take_succ_cons, taken, List.drop_append,
          headerLength]
        simp [headerLength]
      refine ⟨⟨fun _ => ⟨by omega, padding, fifth, by omega, by omega⟩, fun _ => ⟨_, rfl⟩⟩, ?_,
        nofun⟩
      rintro packet other ⟨⟩ same
      cases fifth.symm.trans same
      exact ⟨rfl, ⟨messageByte, sixth.trans first, rfl⟩, payloadBytes.symm⟩

/-- When a poll has found a packet, decoding it succeeds exactly if the frame is not empty, its
padding has at least four bytes and leaves room for a message number; the packet then consists of
the bytes in front of the padding, and no byte behind the frame matters. -/
theorem frame_parsing_exact [OpeningKey ρ] {state after : ReadState ρ} {number : UInt32}
    {length : PacketLength}
    (polled : state.pollPacket = (after, .ok (.complete (number, length)))) :
    after.followedBy length (after.buf.drop (4 + length.toNat)) = after ∧
    ∀ rest, Parsed (after.buf.take (4 + length.toNat)) number length.toNat
      ((after.followedBy length rest).decodePacket number length) := by
  constructor
  · simp only [followedBy, List.take_append_drop]
  · intro rest
    have consumed : state.lastLength ≤ state.buf.length := by
      by_contra past
      have panics : state.pollPacket.2 = .error (.panic "range start index out of range") := by
        unfold pollPacket
        rw [if_pos (by omega)]
      rw [polled] at panics
      cases panics
    have completed := pollPacket_complete consumed (congrArg Prod.snd polled)
    rw [polled] at completed
    have inside : 4 + length.toNat ≤ after.buf.length :=
      Nat.le_trans completed.framed completed.inBuffer
    have sized : (after.buf.take (4 + length.toNat)).length = 4 + length.toNat := by
      rw [List.length_take]
      omega
    by_cases empty : length.toNat = 0
    · exact parsed_empty empty _ number
    · obtain ⟨header, padding, body, shape, bodyLength⟩ := exists_parts sized (by omega)
      have buffer : (after.followedBy length rest).buf =
          header.val ++ padding :: (body ++ rest) := by
        simp only [followedBy, shape, List.append_assoc, List.cons_append]
      rw [shape]
      exact parsed_parts number buffer bodyLength

def pipelined : ReadState (Aes128GcmOpener .awsLc identityCipher) where
  buf := encodeU32 12 ++ [10, 21] ++ List.replicate 10 0 ++ [0, 0]

theorem frame_parsing_exact_pipelined :
    ∃ after length, pipelined.pollPacket = (after, .ok (.complete (0, length))) ∧
      after.followedBy length (after.buf.drop (4 + length.toNat)) = after ∧
      ∀ rest, Parsed (after.buf.take (4 + length.toNat)) 0 length.toNat
        ((after.followedBy length rest).decodePacket 0 length) := by
  have polled : pipelined.pollPacket =
      ({ pipelined with lastLength := 16, sequenceNumber := 1 },
        .ok (.complete (0, ⟨12, by decide⟩))) := by rfl
  exact ⟨_, _, polled, frame_parsing_exact polled⟩

end Frame

section Waiting

variable {backend : Backend} {cipher : AesGcm}

/-- How many bytes are missing until a length field, or the frame that it announces with a tag
behind it, is in the buffer. -/
def missing (tag : Nat) (buf : Bytes) : Option Nat :=
  match PacketLength.decode buf with
  | .error _ => if buf.length < 4 then some (4 - buf.length) else none
  | .ok ⟨length, _⟩ =>
    if buf.length < 4 + length.toNat + tag then some (4 + length.toNat + tag - buf.length) else none

def Wants (count : Nat) (result : Except (Stop ProtoError) (Completion (UInt32 × PacketLength))) :
    Prop :=
  result = .ok (.incomplete (some count)) ∨ result = .error (.error (.incomplete (some count)))

def Decided (result : Except (Stop ProtoError) (Completion (UInt32 × PacketLength))) : Prop :=
  (∃ packet, result = .ok (.complete packet)) ∨ ∃ error, result = .error (.error (.crypto error))

theorem missing_pos {tag count : Nat} {buf : Bytes} (short : missing tag buf = some count) :
    1 ≤ count := by
  unfold missing at short
  split at short
  · split at short
    · cases short
      omega
    · cases short
  · split at short
    · cases short
      omega
    · cases short

theorem missing_append {tag count : Nat} {buf later : Bytes} (short : missing tag buf = some count)
    (fewer : later.length < count) : missing tag (buf ++ later) = some (count - later.length) := by
  cases read : PacketLength.decode buf with
  | ok decoded =>
      have wider := PacketLength.decode_extend read later
      simp only [missing, read] at short
      simp only [missing, wider, List.length_append]
      split at short
      · cases short
        rw [if_pos (by omega)]
        congr 1
        omega
      · cases short
  | error error =>
      simp only [missing, read] at short
      split at short
      · cases short
        -- the length field itself is not complete
        have still : (buf ++ later).length < 4 := by
          rw [List.length_append]
          omega
        cases again : PacketLength.decode (buf ++ later) with
        | ok decoded =>
            have enough := PacketLength.length_of_decode again
            omega
        | error cause =>
            simp only [missing, again, if_pos still]
            congr 1
            rw [List.length_append]
            omega
      · cases short

theorem missing_done {tag count : Nat} {buf later : Bytes} (short : missing tag buf = some count)
    (announced : 4 ≤ buf.length) (enough : later.length = count) :
    ∃ decoded, PacketLength.decode (buf ++ later) = .ok decoded ∧
      (buf ++ later).length = 4 + decoded.value.toNat + tag := by
  cases read : PacketLength.decode buf with
  | ok decoded =>
      refine ⟨_, PacketLength.decode_extend read later, ?_⟩
      simp only [missing, read] at short
      split at short
      · cases short
        rw [List.length_append]
        dsimp only
        omega
      · cases short
  | error error =>
      simp only [missing, read] at short
      split at short
      · omega
      · cases short

theorem pollPlain_wants {state : ReadState ρ} {count : Nat} :
    Wants count state.pollPlain.2 ↔ missing 0 state.buf = some count := by
  cases read : PacketLength.decode state.buf with
  | error error =>
      simp only [pollPlain, missing, read]
      rcases PacketLength.decode_error read with ⟨short, rfl⟩ | ⟨long, rfl, _⟩
      · rw [if_pos short]
        simp [Wants]
      · rw [if_neg (by omega)]
        simp [Wants]
  | ok decoded =>
      have length := PacketLength.length_of_decode read
      simp only [pollPlain, missing, read]
      by_cases short : decoded.next.length < decoded.value.toNat
      · rw [if_pos short, if_pos (by omega),
          show 4 + decoded.value.toNat + 0 - state.buf.length =
            decoded.value.toNat - decoded.next.length by omega]
        simp [Wants]
      · rw [if_neg short, if_neg (by omega)]
        simp [Wants, complete]

theorem pollPlain_waiting {state : ReadState ρ} {count : Nat}
    (short : missing 0 state.buf = some count) : state.pollPlain.1 = state := by
  rw [← pollPlain_wants] at short
  unfold pollPlain at short ⊢
  split
  · rfl
  · split
    · rfl
    · simp_all [Wants, complete]

theorem pollPlain_whole {state : ReadState ρ} {decoded : Decoded PacketLength}
    (read : PacketLength.decode state.buf = .ok decoded)
    (whole : state.buf.length = 4 + decoded.value.toNat + 0) : Decided state.pollPlain.2 := by
  have length := PacketLength.length_of_decode read
  simp only [pollPlain, read]
  rw [if_neg (by omega)]
  exact .inl ⟨_, rfl⟩

theorem pollSealed_eq {state : ReadState (Aes128GcmOpener backend cipher)}
    {opener : Aes128GcmOpener backend cipher} (installed : state.opener = some opener) :
    state.pollSealed opener =
      match PacketLength.decode state.buf with
      | .error error =>
        if state.buf.length < 4 then
          (state, .ok (.incomplete (some (4 - state.buf.length))))
        else (state, .error (.error error))
      | .ok ⟨length, _⟩ =>
        if state.buf.length < 4 + length.toNat + tagLen then
          (state, .ok (.incomplete (some (4 + length.toNat + tagLen - state.buf.length))))
        else
          let opened := opener.openInPlace state.sequenceNumber
            (state.buf.take (4 + length.toNat)) ((state.buf.drop (4 + length.toNat)).take tagLen)
          let state := { state with
            opener := some opened.key
            buf := opened.data.val ++ state.buf.drop (4 + length.toNat) }
          match opened.result with
          | .error error => (state, .error (.error (.crypto error)))
          | .ok () => state.complete length tagLen := by
  have same : { state with opener := some opener } = state := by
    rw [← installed]
  cases chunk : splitFirstChunk 4 state.buf with
  | none =>
      have short := splitFirstChunk_eq_none.mp chunk
      cases read : PacketLength.decode state.buf with
      | ok decoded =>
          have length := PacketLength.length_of_decode read
          omega
      | error error => simp only [pollSealed, chunk, if_pos short]
  | some found =>
      obtain ⟨field, rest⟩ := found
      have shape := splitFirstChunk_eq_some.mp chunk
      have fieldLength := field.property
      have enough : ¬state.buf.length < 4 := by
        rw [shape, List.length_append]
        omega
      unfold pollSealed
      simp only [chunk, OpeningKey.decryptPacketLength, same]
      cases read : PacketLength.decode field.val with
      | error error =>
          rcases PacketLength.decode_error read with ⟨short, _⟩ | ⟨_, _, stable⟩
          · omega
          · rw [shape, stable rest, ← shape]
            simp only [if_neg enough]
      | ok decoded =>
          have wider := PacketLength.decode_extend read rest
          have length := PacketLength.length_of_decode read
          have nothing : decoded.next = [] := List.length_eq_zero_iff.mp (by omega)
          rw [← shape] at wider
          simp only [wider, nothing, List.isEmpty_nil, Bool.true_eq_false, ↓reduceIte]
          have rests := List.length_drop (i := 4 + decoded.value.toNat) (l := state.buf)
          by_cases announced : 4 + decoded.value.toNat ≤ state.buf.length
          · simp only [splitAtChecked, if_pos announced]
            by_cases tagged : tagLen ≤ (state.buf.drop (4 + decoded.value.toNat)).length
            · rw [if_neg (by omega)]
              simp only [upTo?, OpeningKey.tagLen, if_pos tagged]
              rfl
            · rw [if_pos (by omega)]
              simp only [upTo?, OpeningKey.tagLen, if_neg tagged]
              rw [rests, show tagLen - (state.buf.length - (4 + decoded.value.toNat)) =
                4 + decoded.value.toNat + tagLen - state.buf.length by omega]
          · rw [if_pos (by omega)]
            simp only [splitAtChecked, if_neg announced]
            rfl

theorem pollSealed_wants {state : ReadState (Aes128GcmOpener backend cipher)}
    {opener : Aes128GcmOpener backend cipher} (installed : state.opener = some opener)
    {count : Nat} :
    Wants count (state.pollSealed opener).2 ↔ missing tagLen state.buf = some count := by
  rw [pollSealed_eq installed]
  unfold missing
  cases read : PacketLength.decode state.buf with
  | error error =>
      rcases PacketLength.decode_error read with ⟨short, rfl⟩ | ⟨long, rfl, _⟩
      · simp [Wants, short]
      · have enough : ¬state.buf.length < 4 := by omega
        simp [Wants, enough]
  | ok decoded =>
      by_cases short : state.buf.length < 4 + decoded.value.toNat + tagLen
      · simp [Wants, short]
      · simp only [if_neg short, reduceCtorEq, iff_false]
        split
        · rintro (⟨⟨⟩⟩ | ⟨⟨⟩⟩)
        · rintro (⟨⟨⟩⟩ | ⟨⟨⟩⟩)

theorem pollSealed_waiting {state : ReadState (Aes128GcmOpener backend cipher)}
    {opener : Aes128GcmOpener backend cipher} (installed : state.opener = some opener)
    {count : Nat} (short : missing tagLen state.buf = some count) :
    (state.pollSealed opener).1 = state := by
  rw [pollSealed_eq installed]
  unfold missing at short
  cases read : PacketLength.decode state.buf with
  | error error =>
      dsimp only
      split
      · rfl
      · rfl
  | ok decoded =>
      simp only [read] at short
      split at short
      · rename_i announced
        simp only [if_pos announced]
      · cases short

theorem pollSealed_whole {state : ReadState (Aes128GcmOpener backend cipher)}
    {opener : Aes128GcmOpener backend cipher} (installed : state.opener = some opener)
    {decoded : Decoded PacketLength} (read : PacketLength.decode state.buf = .ok decoded)
    (whole : state.buf.length = 4 + decoded.value.toNat + tagLen) :
    Decided (state.pollSealed opener).2 := by
  have enough : ¬state.buf.length < 4 + decoded.value.toNat + tagLen := by omega
  rw [pollSealed_eq installed]
  simp only [read, if_neg enough]
  split
  · exact .inr ⟨_, rfl⟩
  · exact .inl ⟨_, rfl⟩

variable {state : ReadState (Aes128GcmOpener backend cipher)}

def tagBytes (state : ReadState (Aes128GcmOpener backend cipher)) : Nat :=
  match state.opener with
  | some _ => tagLen
  | none => 0

theorem pollPacket_wants (consumed : state.lastLength ≤ state.buf.length) {count : Nat} :
    Wants count state.pollPacket.2 ↔ missing state.tagBytes state.compacted.buf = some count := by
  rcases Option.eq_none_or_eq_some state.opener with unsealed | ⟨opener, installed⟩
  · rw [pollPacket_plain consumed unsealed, pollPlain_wants]
    simp only [tagBytes, unsealed]
  · have same : state.compacted.opener = some opener := installed
    rw [pollPacket_sealed consumed installed, pollSealed_wants same]
    simp only [tagBytes, installed]

theorem pollPacket_missing (consumed : state.lastLength ≤ state.buf.length) {count : Nat}
    (short : missing state.tagBytes state.compacted.buf = some count) :
    state.pollPacket.1 = state.compacted := by
  rcases Option.eq_none_or_eq_some state.opener with unsealed | ⟨opener, installed⟩
  · simp only [tagBytes, unsealed] at short
    rw [pollPacket_plain consumed unsealed]
    exact pollPlain_waiting short
  · have same : state.compacted.opener = some opener := installed
    simp only [tagBytes, installed] at short
    rw [pollPacket_sealed consumed installed]
    exact pollSealed_waiting same short

theorem pollPacket_whole (consumed : state.lastLength ≤ state.buf.length)
    {decoded : Decoded PacketLength} (read : PacketLength.decode state.compacted.buf = .ok decoded)
    (whole : state.compacted.buf.length = 4 + decoded.value.toNat + state.tagBytes) :
    Decided state.pollPacket.2 := by
  rcases Option.eq_none_or_eq_some state.opener with unsealed | ⟨opener, installed⟩
  · simp only [tagBytes, unsealed] at whole
    rw [pollPacket_plain consumed unsealed]
    exact pollPlain_whole read whole
  · have same : state.compacted.opener = some opener := installed
    simp only [tagBytes, installed] at whole
    rw [pollPacket_sealed consumed installed]
    exact pollSealed_whole same read whole

/-- A poll that asks for more input takes away the previous packet and nothing else. It asks for
the rest while a part of the input arrives; and if it asked for the rest of a frame whose length it
knew, that many bytes give a packet or an error of the cipher. -/
theorem incomplete_accurate (consumed : state.lastLength ≤ state.buf.length) {count : Nat}
    (wants : Wants count state.pollPacket.2) :
    1 ≤ count ∧
    state.pollPacket.1.sequenceNumber = state.sequenceNumber ∧
    state.pollPacket.1.opener = state.opener ∧
    state.pollPacket.1.buf = state.buf.drop state.lastLength ∧
    state.pollPacket.1.lastLength = 0 ∧
    (∀ later, later.length < count →
      Wants (count - later.length) (state.pollPacket.1.extend later).pollPacket.2) ∧
    (4 ≤ state.pollPacket.1.buf.length → ∀ later, later.length = count →
      Decided (state.pollPacket.1.extend later).pollPacket.2) := by
  have short := (pollPacket_wants consumed).mp wants
  rw [pollPacket_missing consumed short]
  refine ⟨missing_pos short, rfl, rfl, rfl, rfl, ?_, ?_⟩
  · intro later fewer
    exact (pollPacket_wants (Nat.zero_le _)).mpr (missing_append short fewer)
  · intro announced later enough
    obtain ⟨decoded, read, whole⟩ := missing_done short announced enough
    exact pollPacket_whole (Nat.zero_le _) read whole

def interrupted : ReadState (Aes128GcmOpener .awsLc identityCipher) where
  buf := List.replicate 16 0 ++ encodeU32 12 ++ [10, 21, 0, 0]
  lastLength := 16
  sequenceNumber := 1

def interruptedSealed : ReadState (Aes128GcmOpener .awsLc identityCipher) :=
  { interrupted with
    opener := some ⟨{ key := .replicate 16 0, nonce := .replicate 12 0, counter := 1 }⟩ }

theorem incomplete_accurate_interrupted :
    (Wants 8 interrupted.pollPacket.2 ∧
      (∀ later, later.length < 8 →
        Wants (8 - later.length) (interrupted.pollPacket.1.extend later).pollPacket.2) ∧
      (4 ≤ interrupted.pollPacket.1.buf.length → ∀ later, later.length = 8 →
        Decided (interrupted.pollPacket.1.extend later).pollPacket.2)) ∧
    Wants 24 interruptedSealed.pollPacket.2 ∧
      (∀ later, later.length < 24 →
        Wants (24 - later.length) (interruptedSealed.pollPacket.1.extend later).pollPacket.2) ∧
      (4 ≤ interruptedSealed.pollPacket.1.buf.length → ∀ later, later.length = 24 →
        Decided (interruptedSealed.pollPacket.1.extend later).pollPacket.2) := by
  have wants : Wants 8 interrupted.pollPacket.2 := .inl rfl
  have sealed : Wants 24 interruptedSealed.pollPacket.2 := .inl rfl
  obtain ⟨_, _, _, _, _, again, done⟩ := incomplete_accurate (by decide) wants
  obtain ⟨_, _, _, _, _, againSealed, doneSealed⟩ := incomplete_accurate (by decide) sealed
  exact ⟨⟨wants, again, done⟩, sealed, againSealed, doneSealed⟩

end Waiting

end Oxish.ReadState
