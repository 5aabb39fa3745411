import Oxish.Lib.Chunked
import Oxish.GcmPairing
import Oxish.PaddingRules

/-!
The transport round trip. The reader loop is an incremental decoder over the unread part of
its buffer, so how the stream is cut into chunks does not matter; and one frame of the writer
is one item of that decoder, for as long as the keys of the two ends match.
-/

namespace Oxish

open Chunked

variable {σ ρ : Type} [SealingKey σ] [OpeningKey ρ] {pairing : Pairing σ ρ}

namespace ReadState

structure Position (pairing : Pairing σ ρ) where
  sequenceNumber : UInt32
  opener : Option ρ
  script : List (Entry pairing)

def position (state : ReadState ρ) (script : List (Entry pairing)) : Position pairing :=
  ⟨state.sequenceNumber, state.opener, script⟩

def Position.load (position : Position pairing) (buffer : Bytes) : ReadState ρ where
  buf := buffer
  sequenceNumber := position.sequenceNumber
  opener := position.opener

theorem load_unread (state : ReadState ρ) (script : List (Entry pairing)) :
    (state.position script).load state.unread = state.compacted := rfl

theorem pollPacket_compacted {state : ReadState ρ}
    (consumed : state.lastLength ≤ state.buf.length) :
    state.compacted.pollPacket = state.pollPacket := by
  have fresh : state.compacted.lastLength ≤ state.compacted.buf.length := Nat.zero_le _
  rcases Option.eq_none_or_eq_some state.opener with unsealed | ⟨opener, installed⟩
  · have same : state.compacted.opener = none := unsealed
    rw [pollPacket_plain consumed unsealed, pollPacket_plain fresh same, compacted_compacted]
  · have same : state.compacted.opener = some opener := installed
    rw [pollPacket_sealed consumed installed, pollPacket_sealed fresh same, compacted_compacted]

theorem receiveStep_compacted {state : ReadState ρ} (script : List (Entry pairing))
    (consumed : state.lastLength ≤ state.buf.length) :
    state.compacted.receiveStep script = state.receiveStep script := by
  simp only [receiveStep, pollPacket_compacted consumed]

theorem mirror_buf (state : ReadState ρ) (packet : IncomingPacket)
    (script : List (Entry pairing)) :
    (state.mirror packet script).1.buf = state.buf ∧
      (state.mirror packet script).1.lastLength = state.lastLength := by
  cases script with
  | nil => exact ⟨rfl, rfl⟩
  | cons entry script =>
      cases entry with
      | payload plain => exact ⟨rfl, rfl⟩
      | keySwitch switch =>
          simp only [mirror, resetSequenceNumber]
          split
          · split
            · exact ⟨rfl, rfl⟩
            · exact ⟨rfl, rfl⟩
          · exact ⟨rfl, rfl⟩

theorem mirror_extend (state : ReadState ρ) (packet : IncomingPacket) (later : Bytes)
    (script : List (Entry pairing)) :
    (state.extend later).mirror packet script =
      ((state.mirror packet script).1.extend later, (state.mirror packet script).2) := by
  cases script with
  | nil => rfl
  | cons entry script =>
      cases entry with
      | payload plain => rfl
      | keySwitch switch =>
          simp only [mirror, resetSequenceNumber]
          split
          · split
            · rfl
            · rfl
          · rfl

theorem receiveStep_cases (state : ReadState ρ) (script : List (Entry pairing)) :
    (needsMore state.pollPacket.2 = true ∧
      state.receiveStep script = .waiting state.pollPacket.1) ∨
    (∃ number length packet, state.pollPacket.2 = .ok (.complete (number, length)) ∧
      state.pollPacket.1.decodePacket number length = .ok packet ∧
      state.receiveStep script = .packet packet (state.pollPacket.1.mirror packet script).1
        (state.pollPacket.1.mirror packet script).2) ∨
    (∃ number length error, state.pollPacket.2 = .ok (.complete (number, length)) ∧
      state.pollPacket.1.decodePacket number length = .error error ∧
      state.receiveStep script = .stopped state.pollPacket.1 (.error error)) ∨
    (∃ stop, needsMore state.pollPacket.2 = false ∧ state.pollPacket.2 = .error stop ∧
      state.receiveStep script = .stopped state.pollPacket.1 stop) := by
  unfold receiveStep
  generalize state.pollPacket = polled
  obtain ⟨next, result⟩ := polled
  cases result with
  | ok completion =>
      cases completion with
      | incomplete needed => exact .inl ⟨rfl, rfl⟩
      | complete found =>
          obtain ⟨number, length⟩ := found
          cases decoded : next.decodePacket number length with
          | ok packet =>
              refine .inr (.inl ⟨number, length, packet, rfl, decoded, ?_⟩)
              simp only [decoded]
          | error error =>
              refine .inr (.inr (.inl ⟨number, length, error, rfl, decoded, ?_⟩))
              simp only [decoded]
  | error stop =>
      by_cases more : needsMore (.error stop) = true
      · refine .inl ⟨more, ?_⟩
        unfold needsMore at more
        split at more
        · rename_i impossible
          cases impossible
        · rename_i same
          cases same
          rfl
        · cases more
      · refine .inr (.inr (.inr ⟨stop, by simpa using more, rfl, ?_⟩))
        split
        · rename_i impossible
          cases impossible
        · rename_i impossible
          cases impossible
        · rename_i same
          cases same
          exact absurd rfl more
        · rename_i same
          cases same
          rfl

theorem receiveStep_packet {state next : ReadState ρ} {script rest : List (Entry pairing)}
    {packet : IncomingPacket} (consumed : state.lastLength ≤ state.buf.length)
    (stepped : state.receiveStep script = .packet packet next rest) :
    next.lastLength ≤ next.buf.length ∧ next.unread.length < state.unread.length := by
  rcases receiveStep_cases state script with ⟨_, step⟩ | ⟨number, length, found, polled, _, step⟩ |
    ⟨number, length, error, _, _, step⟩ | ⟨stop, _, _, step⟩
  · rw [step] at stepped
    cases stepped
  · rw [step] at stepped
    simp only [Received.packet.injEq] at stepped
    obtain ⟨rfl, rfl, rfl⟩ := stepped
    have completed := pollPacket_complete consumed polled
    have framed := completed.framed
    have inBuffer := completed.inBuffer
    have sameLength := completed.sameLength
    simp only [compacted, List.length_drop] at sameLength
    obtain ⟨sameBuf, sameLast⟩ := mirror_buf state.pollPacket.1 found script
    simp only [unread, sameBuf, sameLast, List.length_drop]
    omega
  · rw [step] at stepped
    cases stepped
  · rw [step] at stepped
    cases stepped

theorem receiveStep_packet_extend {state next : ReadState ρ} {script rest : List (Entry pairing)}
    {packet : IncomingPacket} (consumed : state.lastLength ≤ state.buf.length)
    (stepped : state.receiveStep script = .packet packet next rest) (later : Bytes) :
    (state.extend later).receiveStep script = .packet packet (next.extend later) rest := by
  rcases receiveStep_cases state script with ⟨_, step⟩ |
    ⟨number, length, found, polled, decoded, step⟩ | ⟨number, length, error, _, _, step⟩ |
    ⟨stop, _, _, step⟩
  · rw [step] at stepped
    cases stepped
  · rw [step] at stepped
    simp only [Received.packet.injEq] at stepped
    obtain ⟨rfl, rfl, rfl⟩ := stepped
    have completed := pollPacket_complete consumed polled
    have inBuffer := Nat.le_trans completed.framed completed.inBuffer
    have decided : needsMore state.pollPacket.2 = false := by rw [polled]; rfl
    have wider := pollPacket_extend state later consumed decided
    have wideDecoded := (decodePacket_extend inBuffer later found).mpr decoded
    simp only [receiveStep, wider, polled, wideDecoded, mirror_extend]
  · rw [step] at stepped
    cases stepped
  · rw [step] at stepped
    cases stepped

theorem receiveStep_stopped_extend {state next : ReadState ρ} {script : List (Entry pairing)}
    {stop : Stop ProtoError} (consumed : state.lastLength ≤ state.buf.length)
    (stepped : state.receiveStep script = .stopped next stop) (later : Bytes) :
    ∃ next stop, (state.extend later).receiveStep script = .stopped next stop := by
  rcases receiveStep_cases state script with ⟨_, step⟩ | ⟨number, length, found, _, _, step⟩ |
    ⟨number, length, error, polled, decoded, step⟩ | ⟨cause, decided, polled, step⟩
  · rw [step] at stepped
    cases stepped
  · rw [step] at stepped
    cases stepped
  · have completed := pollPacket_complete consumed polled
    have inBuffer := Nat.le_trans completed.framed completed.inBuffer
    have decided : needsMore state.pollPacket.2 = false := by rw [polled]; rfl
    have wider := pollPacket_extend state later consumed decided
    cases wideDecoded : (state.pollPacket.1.extend later).decodePacket number length with
    | ok packet =>
        rw [decodePacket_extend inBuffer later packet, decoded] at wideDecoded
        cases wideDecoded
    | error wideError =>
        simp only [receiveStep, wider, polled, wideDecoded]
        exact ⟨_, _, rfl⟩
  · have wider := pollPacket_extend state later consumed decided
    rcases receiveStep_cases (state.extend later) script with ⟨more, _⟩ |
      ⟨_, _, _, widePolled, _, _⟩ | ⟨_, _, _, _, _, wideStep⟩ | ⟨_, _, _, wideStep⟩
    · rw [wider, decided] at more
      cases more
    · rw [wider, polled] at widePolled
      cases widePolled
    · exact ⟨_, _, wideStep⟩
    · exact ⟨_, _, wideStep⟩

def scan (position : Position pairing) (buffer : Bytes) :
    Scan (Position pairing) IncomingPacket UInt8 :=
  match (position.load buffer).receiveStep position.script with
  | .waiting _ => .more
  | .stopped _ _ => .fail
  | .packet packet next script => .item packet (next.position script) next.unread

theorem load_consumed (position : Position pairing) (buffer : Bytes) :
    (position.load buffer).lastLength ≤ (position.load buffer).buf.length := Nat.zero_le _

theorem scan_item {position next : Position pairing} {buffer rest : Bytes} {packet : IncomingPacket}
    (scanned : scan position buffer = .item packet next rest) :
    ∃ state script, (position.load buffer).receiveStep position.script =
      .packet packet state script ∧ next = state.position script ∧ rest = state.unread := by
  unfold scan at scanned
  split at scanned
  · cases scanned
  · cases scanned
  · rename_i found state script stepped
    simp only [Scan.item.injEq] at scanned
    obtain ⟨rfl, rfl, rfl⟩ := scanned
    exact ⟨state, script, stepped, rfl, rfl⟩

def decoder (pairing : Pairing σ ρ) : Decoder (Position pairing) IncomingPacket UInt8 where
  scan := scan
  consumes {position buffer packet next rest} scanned := by
    obtain ⟨state, script, stepped, rfl, rfl⟩ := scan_item scanned
    exact (receiveStep_packet (load_consumed position buffer) stepped).2
  item_append {position buffer packet next rest} scanned later := by
    obtain ⟨state, script, stepped, rfl, rfl⟩ := scan_item scanned
    have consumed := load_consumed position buffer
    have wider := receiveStep_packet_extend consumed stepped later
    have inBuffer := (receiveStep_packet consumed stepped).1
    change (position.load (buffer ++ later)).receiveStep position.script = _ at wider
    simp only [scan, wider, unread_extend inBuffer]
    rfl
  fail_append {position buffer} scanned later := by
    unfold scan at scanned
    split at scanned
    · cases scanned
    · rename_i next stop stepped
      obtain ⟨wideNext, wideStop, wider⟩ :=
        receiveStep_stopped_extend (load_consumed position buffer) stepped later
      change (position.load (buffer ++ later)).receiveStep position.script = _ at wider
      simp only [scan, wider]
    · cases scanned

theorem pollPacket_waiting (pairing : Pairing σ ρ) {state : ReadState ρ}
    (consumed : state.lastLength ≤ state.buf.length)
    (more : needsMore state.pollPacket.2 = true) : state.pollPacket.1 = state.compacted := by
  rcases Option.eq_none_or_eq_some state.opener with unsealed | ⟨opener, installed⟩
  · rw [pollPacket_plain consumed unsealed] at more ⊢
    unfold pollPlain at more ⊢
    split
    · rfl
    · rename_i read
      simp only [read] at more
      split
      · rfl
      · rename_i enough
        simp only [if_neg enough] at more
        cases more
  · rw [pollPacket_sealed consumed installed] at more ⊢
    have sameOpener : { state.compacted with opener := some opener } = state.compacted := by
      simp only [compacted, installed]
    unfold pollSealed at more ⊢
    split
    · rfl
    · rename_i field rest chunk
      simp only [chunk, pairing.lengthPure] at more ⊢
      rw [sameOpener] at more ⊢
      split
      · rfl
      · rename_i read
        simp only [read] at more
        split
        · rfl
        · rename_i whole
          simp only [if_neg whole] at more
          split
          · rfl
          · rename_i parts
            simp only [parts] at more
            split
            · rfl
            · rename_i tagged
              simp only [tagged] at more
              split at more
              · cases more
              · cases more

structure Tracks (reading : Reading pairing)
    (drained : Drained (Position pairing) IncomingPacket UInt8) : Prop where
  packets : reading.packets = drained.items
  stopped : reading.stopped.isSome = drained.failed
  consumed : drained.failed = false → reading.state.lastLength ≤ reading.state.buf.length
  position : drained.failed = false → reading.state.position reading.script = drained.state
  unread : drained.failed = false → reading.state.unread = drained.rest

theorem Tracks.of_failed {reading : Reading pairing}
    {drained : Drained (Position pairing) IncomingPacket UInt8}
    (packets : reading.packets = drained.items) (stopped : reading.stopped.isSome = true)
    (failed : drained.failed = true) : Tracks reading drained := by
  have never : drained.failed ≠ false := by
    rw [failed]
    exact Bool.false_ne_true.symm
  exact ⟨packets, stopped.trans failed.symm, (absurd · never), (absurd · never), (absurd · never)⟩

theorem Tracks.after {reading : Reading pairing}
    {drained : Drained (Position pairing) IncomingPacket UInt8} (tracked : Tracks reading drained)
    (packets : List IncomingPacket) : Tracks (reading.after packets) (drained.after packets) := by
  refine ⟨?_, tracked.stopped, tracked.consumed, tracked.position, tracked.unread⟩
  simp only [Reading.after, Drained.after, tracked.packets]

theorem scan_unread {state : ReadState ρ} (script : List (Entry pairing))
    (consumed : state.lastLength ≤ state.buf.length) :
    (decoder pairing).scan (state.position script) state.unread =
      match state.receiveStep script with
      | .waiting _ => .more
      | .stopped _ _ => .fail
      | .packet packet next script => .item packet (next.position script) next.unread := by
  change scan (state.position script) state.unread = _
  unfold scan
  rw [load_unread, show (state.position script).script = script from rfl,
    receiveStep_compacted script consumed]

/-- The reader loop over its buffer with lazy compaction is the decoder's drain loop over the
unread bytes. -/
theorem receiveAll_tracks (fuel : Nat) (state : ReadState ρ) (script : List (Entry pairing))
    (consumed : state.lastLength ≤ state.buf.length) :
    Tracks (receiveAll fuel state script)
      ((decoder pairing).drainFor fuel (state.position script) state.unread) := by
  induction fuel generalizing state script with
  | zero => exact ⟨rfl, rfl, fun _ => consumed, fun _ => rfl, fun _ => rfl⟩
  | succ fuel ih =>
      have scanned := scan_unread script consumed
      rcases receiveStep_cases state script with ⟨more, step⟩ | ⟨_, _, found, _, _, step⟩ |
        ⟨_, _, _, _, _, step⟩ | ⟨_, _, _, step⟩
      · have kept := pollPacket_waiting pairing consumed more
        simp only [receiveAll, Decoder.drainFor, scanned, step, kept]
        exact ⟨rfl, rfl, fun _ => Nat.zero_le _, fun _ => rfl, fun _ => by simp [unread, compacted]⟩
      · simp only [receiveAll, Decoder.drainFor, scanned, step]
        exact (ih _ _ (receiveStep_packet consumed step).1).after [found]
      · simp only [receiveAll, Decoder.drainFor, scanned, step]
        exact .of_failed rfl rfl rfl
      · simp only [receiveAll, Decoder.drainFor, scanned, step]
        exact .of_failed rfl rfl rfl

theorem receiveChunks_tracks (state : ReadState ρ) (script : List (Entry pairing))
    (chunks : List Bytes) (consumed : state.lastLength ≤ state.buf.length) :
    Tracks (receiveChunks state script chunks)
      ((decoder pairing).feed (state.position script) state.unread chunks) := by
  induction chunks generalizing state script with
  | nil => exact ⟨rfl, rfl, fun _ => consumed, fun _ => rfl, fun _ => rfl⟩
  | cons chunk chunks ih =>
      have grown : (state.extend chunk).lastLength ≤ (state.extend chunk).buf.length := by
        simp only [extend, List.length_append]
        omega
      have first := receiveAll_tracks ((state.extend chunk).buf.length + 1) (state.extend chunk)
        script grown
      have enough : (state.extend chunk).unread.length < (state.extend chunk).buf.length + 1 := by
        simp only [unread, List.length_drop]
        omega
      rw [(decoder pairing).drainFor_enough enough, unread_extend consumed] at first
      simp only [receiveChunks, Decoder.feed]
      change Tracks _ ((decoder pairing).drain (state.position script) _) at first
      generalize receiveAll ((state.extend chunk).buf.length + 1) (state.extend chunk) script =
        reading at first ⊢
      generalize (decoder pairing).drain (state.position script) (state.unread ++ chunk) =
        drained at first ⊢
      rw [first.stopped]
      by_cases failing : drained.failed = true
      · rw [if_pos failing, if_pos failing]
        exact first
      · have passed : drained.failed = false := by simpa using failing
        rw [if_neg failing, if_neg failing, ← first.position passed, ← first.unread passed,
          ← first.packets]
        exact (ih reading.state reading.script (first.consumed passed)).after reading.packets

end ReadState

namespace ReadState

omit [OpeningKey ρ] in
theorem decodePacket_packet {state : ReadState ρ} {payload : Payload} {padding rest : Bytes}
    {length : PacketLength} (number : UInt32)
    (shape : state.buf = WriteState.packet payload.bytes padding ++ rest)
    (enough : 4 ≤ padding.length) (small : padding.length ≤ 255)
    (lengths : length.toNat = 1 + payload.bytes.length + padding.length) :
    state.decodePacket number length = .ok (payload.packet number) := by
  have byte : (UInt8.ofNat padding.length).toNat = padding.length := by
    rw [UInt8.toNat_ofNat', Nat.mod_eq_of_lt (by omega)]
  simp only [Payload.bytes, List.length_cons] at lengths
  rw [decodePacket_ok_iff]
  refine ⟨⟨encodeU32 (UInt32.ofNat (1 + payload.bytes.length + padding.length)),
    length_encodeU32 _⟩, UInt8.ofNat padding.length, payload.messageByte, payload.body, padding,
    rest, ?_, by omega, byte.symm, by omega, rfl⟩
  rw [shape]
  simp [WriteState.packet, Payload.bytes]

end ReadState

def frameLength (payload padding : Bytes)
    (fits : 1 + payload.length + padding.length ≤ maxPacketLen) : PacketLength where
  value := UInt32.ofNat (1 + payload.length + padding.length)
  bounded := by
    unfold maxPacketLen at *
    rw [toNat_ofNat_of_lt (by omega)]
    exact fits

theorem frameLength_toNat {payload padding : Bytes}
    (fits : 1 + payload.length + padding.length ≤ maxPacketLen) :
    (frameLength payload padding fits).toNat = 1 + payload.length + padding.length := by
  unfold maxPacketLen at fits
  exact toNat_ofNat_of_lt (by omega)

namespace ReadState

omit [OpeningKey ρ] in
theorem pollPlain_packet {state : ReadState ρ} {payload padding rest : Bytes}
    (fits : 1 + payload.length + padding.length ≤ maxPacketLen)
    (shape : state.buf = WriteState.packet payload padding ++ rest) :
    state.pollPlain = state.complete (frameLength payload padding fits) 0 := by
  have read : PacketLength.decode state.buf = .ok ⟨frameLength payload padding fits,
      [UInt8.ofNat padding.length] ++ (payload ++ padding) ++ rest⟩ := by
    rw [shape, WriteState.packet, List.append_assoc]
    exact PacketLength.decode_encode (frameLength payload padding fits) _
  have whole : ¬ ([UInt8.ofNat padding.length] ++ (payload ++ padding) ++ rest).length <
      (frameLength payload padding fits).toNat := by
    rw [frameLength_toNat]
    simp only [List.length_append, List.length_singleton]
    omega
  simp only [pollPlain, read, if_neg whole]

theorem pollSealed_packet (pairing : Pairing σ ρ) (state : ReadState ρ) (rest : Bytes)
    {sealer : σ} {opener : ρ} {payload padding tag : Bytes} (matching : pairing.Matching sealer opener)
    (fits : 1 + payload.length + padding.length ≤ maxPacketLen)
    (tagLength : tag.length = SealingKey.tagLen sealer)
    (accepted : (SealingKey.sealInPlace sealer state.sequenceNumber
      (WriteState.packet payload padding) tag).result = .ok ())
    (shape : state.buf = (SealingKey.sealInPlace sealer state.sequenceNumber
        (WriteState.packet payload padding) tag).data.val ++
      ((SealingKey.sealInPlace sealer state.sequenceNumber
        (WriteState.packet payload padding) tag).tag.val ++ rest)) :
    ∃ nextOpener, pairing.Matching (SealingKey.sealInPlace sealer state.sequenceNumber
        (WriteState.packet payload padding) tag).key nextOpener ∧
      state.pollSealed opener = ({ state with
        opener := some nextOpener
        buf := WriteState.packet payload padding ++ ((SealingKey.sealInPlace sealer
          state.sequenceNumber (WriteState.packet payload padding) tag).tag.val ++ rest)
        }.complete (frameLength payload padding fits) (SealingKey.tagLen sealer)) := by
  have field := pairing.lengthField matching _ _ _ tagLength accepted
  obtain ⟨opened, restored, moved⟩ := pairing.opens matching _ _ _ tagLength accepted
  generalize SealingKey.sealInPlace sealer state.sequenceNumber
    (WriteState.packet payload padding) tag = sealed at *
  have dataLength : sealed.data.val.length = 4 + (frameLength payload padding fits).toNat := by
    rw [sealed.data.property, WriteState.length_packet, frameLength_toNat]
    omega
  have first : (sealed.data.val.take 4).length = 4 := by
    rw [List.length_take]
    omega
  have chunk : splitFirstChunk 4 state.buf =
      some (⟨sealed.data.val.take 4, first⟩, sealed.data.val.drop 4 ++ (sealed.tag.val ++ rest)) := by
    rw [splitFirstChunk_eq_some, shape]
    simp only [← List.append_assoc, List.take_append_drop]
  have plainField : (WriteState.packet payload padding).take 4 =
      encodeU32 (frameLength payload padding fits).value :=
    List.take_left' (length_encodeU32 _)
  have recovered := field ⟨sealed.data.val.take 4, first⟩ rfl
  rw [plainField] at recovered
  have read : PacketLength.decode (encodeU32 (frameLength payload padding fits).value) =
      .ok ⟨frameLength payload padding fits, []⟩ := by
    have decoded := PacketLength.decode_encode (frameLength payload padding fits) []
    rwa [List.append_nil] at decoded
  have tagBytes : sealed.tag.val.length = SealingKey.tagLen sealer := by
    rw [sealed.tag.property, tagLength]
  refine ⟨_, moved, ?_⟩
  rw [shape] at chunk
  simp only [pollSealed, chunk, pairing.lengthPure, recovered, read, List.isEmpty_nil,
    Bool.true_eq_false, if_false, shape, splitAtChecked_append dataLength, upTo_append tagBytes,
    opened, restored, pairing.tagLen matching]

theorem scan_empty (position : Position pairing) : (decoder pairing).scan position [] = .more := by
  change scan position [] = .more
  have consumed : (position.load []).lastLength ≤ (position.load []).buf.length := Nat.zero_le _
  have more : needsMore (position.load []).pollPacket.2 = true := by
    rcases Option.eq_none_or_eq_some position.opener with unsealed | ⟨opener, installed⟩
    · have same : (position.load []).opener = none := unsealed
      rw [pollPacket_plain consumed same]
      rfl
    · have same : (position.load []).opener = some opener := installed
      rw [pollPacket_sealed consumed same]
      rfl
  rcases receiveStep_cases (position.load []) position.script with ⟨_, step⟩ |
    ⟨_, _, _, polled, _⟩ | ⟨_, _, _, polled, _⟩ | ⟨_, decided, _⟩
  · simp only [scan, step]
  · rw [polled] at more
    cases more
  · rw [polled] at more
    cases more
  · rw [decided] at more
    cases more

omit [OpeningKey ρ] in
theorem unread_complete {state : ReadState ρ} {head rest : Bytes} {length : PacketLength}
    {tagLen : Nat} (shape : state.buf = head ++ rest)
    (size : head.length = 4 + length.toNat + tagLen) :
    (state.complete length tagLen).1.unread = rest := by
  simp only [complete, unread, shape, List.drop_left' size]

/-- What a reader at `position` makes of the bytes the writer appends for one payload. -/
def ReadsFrame (writer : WriteState σ) (position : Position pairing) (payload : Payload)
    (appended rest : Bytes) : Prop :=
  ∃ (next : ReadState ρ) (length : PacketLength),
    (position.load (appended ++ rest)).pollPacket =
      (next, .ok (.complete (writer.sequenceNumber, length))) ∧
    next.decodePacket writer.sequenceNumber length = .ok (payload.packet writer.sequenceNumber) ∧
    pairing.Keys (writer.encodeKx payload.bytes none).state.sealer next.opener ∧
    next.sequenceNumber = (writer.encodeKx payload.bytes none).state.sequenceNumber ∧
    next.unread = rest

theorem readsFrame_plain {writer : WriteState σ} {position : Position pairing} {payload : Payload}
    (unsealed : writer.sealer = none) (unopened : position.opener = none)
    (numbers : position.sequenceNumber = writer.sequenceNumber)
    (drawn : (writer.drawPadding payload.bytes).result = .ok ())
    (fits : 1 + payload.bytes.length + (writer.drawPadding payload.bytes).bytes.val.length ≤
      maxPacketLen) (rest : Bytes) :
    ReadsFrame writer position payload
      (WriteState.packet payload.bytes (writer.drawPadding payload.bytes).bytes.val) rest := by
  have noSealer (sealer : σ) (installed : writer.sealer = some sealer) :
      SealingKey.blockLen sealer ≤ 252 := by
    rw [unsealed] at installed
    cases installed
  obtain ⟨enough, small⟩ := WriteState.drawPadding_bounds payload.bytes noSealer
  generalize padded : (writer.drawPadding payload.bytes).bytes.val = padding at fits enough small ⊢
  have visible := frameLength_toNat fits
  have consumed := load_consumed position (WriteState.packet payload.bytes padding ++ rest)
  refine ⟨((position.load (WriteState.packet payload.bytes padding ++ rest)).complete
    (frameLength payload.bytes padding fits) 0).1, frameLength payload.bytes padding fits,
    ?_, ?_, ?_, ?_, ?_⟩
  · rw [pollPacket_plain consumed unopened]
    change (position.load _).pollPlain = _
    rw [pollPlain_packet fits rfl, ← numbers]
    rfl
  · exact decodePacket_packet writer.sequenceNumber rfl enough small visible
  · rw [writer.encodeKx_plain payload.bytes none drawn unsealed]
    change pairing.Keys writer.sealer position.opener
    rw [unsealed, unopened]
    trivial
  · rw [writer.encodeKx_plain payload.bytes none drawn unsealed, ← numbers]
    rfl
  · apply unread_complete rfl
    rw [WriteState.length_packet, visible]
    omega

theorem readsFrame_sealed {writer : WriteState σ} {position : Position pairing} {payload : Payload}
    {sealer : σ} {opener : ρ} (installed : writer.sealer = some sealer)
    (opened : position.opener = some opener) (matching : pairing.Matching sealer opener)
    (numbers : position.sequenceNumber = writer.sequenceNumber)
    (drawn : (writer.drawPadding payload.bytes).result = .ok ())
    (accepted : (writer.sealDrawn payload.bytes sealer).result = .ok ())
    (fits : 1 + payload.bytes.length + (writer.drawPadding payload.bytes).bytes.val.length ≤
      maxPacketLen) (rest : Bytes) :
    ReadsFrame writer position payload ((writer.sealDrawn payload.bytes sealer).data.val ++
      (writer.sealDrawn payload.bytes sealer).tag.val) rest := by
  have onlySealer (other : σ) (same : writer.sealer = some other) :
      SealingKey.blockLen other ≤ 252 := by
    rw [installed, Option.some.injEq] at same
    exact same ▸ pairing.blockLen matching
  obtain ⟨enough, small⟩ := WriteState.drawPadding_bounds payload.bytes onlySealer
  have visible := frameLength_toNat fits
  obtain ⟨number, positionOpener, script⟩ := position
  subst numbers opened
  let current : Position pairing := ⟨writer.sequenceNumber, some opener, script⟩
  let stream := (writer.sealDrawn payload.bytes sealer).data.val ++
    (writer.sealDrawn payload.bytes sealer).tag.val ++ rest
  have consumed := load_consumed current stream
  obtain ⟨nextOpener, moved, polled⟩ := pollSealed_packet pairing (current.load stream) rest
    matching fits List.length_replicate accepted (List.append_assoc _ _ _)
  have tagLength : (writer.sealDrawn payload.bytes sealer).tag.val.length =
      SealingKey.tagLen sealer :=
    (writer.sealDrawn payload.bytes sealer).tag.property.trans List.length_replicate
  let plain : ReadState ρ := { current.load stream with
    opener := some nextOpener
    buf := WriteState.packet payload.bytes (writer.drawPadding payload.bytes).bytes.val ++
      ((writer.sealDrawn payload.bytes sealer).tag.val ++ rest) }
  refine ⟨(plain.complete (frameLength payload.bytes _ fits) (SealingKey.tagLen sealer)).1,
    frameLength payload.bytes _ fits, ?_, ?_, ?_, ?_, ?_⟩
  · rw [pollPacket_sealed consumed rfl]
    exact polled
  · exact decodePacket_packet writer.sequenceNumber rfl enough small visible
  · rw [writer.encodeKx_sealed payload.bytes none drawn installed, accepted]
    exact moved
  · rw [writer.encodeKx_sealed payload.bytes none drawn installed, accepted]
    rfl
  · apply unread_complete (List.append_assoc _ _ _).symm
    have size := WriteState.length_packet payload.bytes
      (writer.drawPadding payload.bytes).bytes.val
    rw [List.length_append]
    omega

theorem readsFrame (writer : WriteState σ) (position : Position pairing) (payload : Payload)
    (keys : pairing.Keys writer.sealer position.opener)
    (numbers : position.sequenceNumber = writer.sequenceNumber)
    (accepted : (writer.encodeKx payload.bytes none).result = .ok ())
    (fits : 1 + payload.bytes.length + (writer.drawPadding payload.bytes).bytes.val.length ≤
      maxPacketLen) :
    ∃ appended, (writer.encodeKx payload.bytes none).state.buf = writer.buf ++ appended ∧
      ∀ rest, ReadsFrame writer position payload appended rest := by
  obtain ⟨drawn, sealable⟩ := writer.encodeKx_ok payload.bytes none accepted
  rcases Option.eq_none_or_eq_some writer.sealer with unsealed | ⟨sealer, installed⟩
  · rcases Option.eq_none_or_eq_some position.opener with unopened | ⟨opener, opened⟩
    · refine ⟨_, ?_, readsFrame_plain unsealed unopened numbers drawn fits⟩
      rw [writer.encodeKx_plain payload.bytes none drawn unsealed]
    · rw [unsealed, opened] at keys
      exact keys.elim
  · rcases Option.eq_none_or_eq_some position.opener with unopened | ⟨opener, opened⟩
    · rw [installed, unopened] at keys
      exact keys.elim
    · rw [installed, opened] at keys
      have sealed := sealable sealer installed
      refine ⟨_, ?_, readsFrame_sealed installed opened keys numbers drawn sealed fits⟩
      rw [writer.encodeKx_sealed payload.bytes none drawn installed, sealed]
      rfl

theorem mirror_matches (entry : Entry pairing) (script : List (Entry pairing))
    (writer : WriteState σ) (state : ReadState ρ) (number : UInt32)
    (keys : pairing.Keys writer.sealer state.opener)
    (numbers : state.sequenceNumber = writer.sequenceNumber) :
    (state.mirror (entry.payloadOf.packet number) (entry :: script)).2 = script ∧
      pairing.Keys (entry.applyWriter writer).sealer
        (state.mirror (entry.payloadOf.packet number) (entry :: script)).1.opener ∧
      (state.mirror (entry.payloadOf.packet number) (entry :: script)).1.sequenceNumber =
        (entry.applyWriter writer).sequenceNumber := by
  cases entry with
  | payload plain => exact ⟨rfl, keys, numbers⟩
  | keySwitch switch =>
      have decoded : (Entry.keySwitch switch).payloadOf.packet number =
          { sequenceNumber := number, messageType := .newKeys, payload := [] } := rfl
      simp only [mirror, decoded, if_true, Entry.applyWriter, resetSequenceNumber,
        WriteState.resetSequenceNumber]
      refine ⟨trivial, switch.matching, ?_⟩
      split
      · rfl
      · exact numbers

theorem mirror_unread (state : ReadState ρ) (packet : IncomingPacket)
    (script : List (Entry pairing)) :
    (state.mirror packet script).1.unread = state.unread := by
  obtain ⟨sameBuf, sameLast⟩ := mirror_buf state packet script
  rw [unread, sameBuf, sameLast, unread]

end ReadState

theorem Entry.applyWriter_buf (entry : Entry pairing) (writer : WriteState σ) :
    (entry.applyWriter writer).buf = writer.buf := by
  cases entry with
  | payload plain => rfl
  | keySwitch switch =>
      simp only [applyWriter, WriteState.resetSequenceNumber]
      split
      · rfl
      · rfl

def Frame.packet (frame : Frame) : IncomingPacket := frame.payload.packet frame.sequenceNumber

theorem WriteState.writeAll_cons {entry : Entry pairing} {script : List (Entry pairing)}
    {writer written : WriteState σ} {frames : List Frame}
    (encoded : writer.writeAll (entry :: script) = .ok (written, frames)) :
    (writer.encodeKx entry.payloadOf.bytes none).result = .ok () ∧ ∃ others,
      (entry.applyWriter (writer.encodeKx entry.payloadOf.bytes none).state).writeAll script =
        .ok (written, others) ∧
      frames = {
        sequenceNumber := writer.sequenceNumber
        payload := entry.payloadOf
        packetLength := 1 + entry.payloadOf.bytes.length +
          (writer.drawPadding entry.payloadOf.bytes).bytes.val.length } :: others := by
  simp only [writeAll] at encoded
  split at encoded
  · cases encoded
  · rename_i accepted
    simp only [Outcome.bind_eq_ok, Except.ok.injEq, Prod.mk.injEq] at encoded
    obtain ⟨⟨last, others⟩, rest, rfl, rfl⟩ := encoded
    exact ⟨accepted, others, rest, rfl⟩

theorem WriteState.writeAll_grows (script : List (Entry pairing)) (writer written : WriteState σ)
    (frames : List Frame) (encoded : writer.writeAll script = .ok (written, frames)) :
    ∃ stream, written.buf = writer.buf ++ stream := by
  induction script generalizing writer frames with
  | nil =>
      simp only [writeAll, Except.ok.injEq, Prod.mk.injEq] at encoded
      exact ⟨[], by rw [encoded.1, List.append_nil]⟩
  | cons entry script ih =>
      obtain ⟨_, others, rest, _⟩ := writeAll_cons encoded
      obtain ⟨stream, grown⟩ := ih _ others rest
      obtain ⟨appended, first⟩ := writer.encodeKx_grows entry.payloadOf.bytes none
      rw [entry.applyWriter_buf, first, List.append_assoc] at grown
      exact ⟨appended ++ stream, grown⟩

theorem ReadState.receiveChunks_drained {reader : ReadState ρ} {script : List (Entry pairing)}
    {chunks : List Bytes} {packets : List IncomingPacket} {final : ReadState.Position pairing}
    (consumed : reader.lastLength = reader.buf.length)
    (drained : (ReadState.decoder pairing).drain (reader.position script) chunks.flatten =
      ⟨packets, final, [], false⟩) :
    (reader.receiveChunks script chunks).stopped = none ∧
      (reader.receiveChunks script chunks).packets = packets ∧
      (reader.receiveChunks script chunks).state.unread = [] := by
  have nothing : reader.unread = [] := by
    rw [ReadState.unread, consumed, List.drop_length]
  have waiting := ReadState.scan_empty (reader.position script)
  obtain ⟨_, sameFailure, same⟩ :=
    (ReadState.decoder pairing).feed_eq_drain (reader.position script) [] chunks waiting
  rw [List.nil_append, drained] at sameFailure same
  have tracked := ReadState.receiveChunks_tracks reader script chunks (Nat.le_of_eq consumed)
  rw [nothing, same sameFailure] at tracked
  refine ⟨?_, tracked.packets, tracked.unread rfl⟩
  simpa using tracked.stopped

theorem drain_script (script : List (Entry pairing)) (writer written : WriteState σ)
    (position : ReadState.Position pairing) (frames : List Frame) (stream : Bytes)
    (keys : pairing.Keys writer.sealer position.opener)
    (numbers : position.sequenceNumber = writer.sequenceNumber)
    (planned : position.script = script)
    (encoded : writer.writeAll script = .ok (written, frames))
    (bounded : ∀ frame ∈ frames, frame.packetLength ≤ maxPacketLen)
    (grown : written.buf = writer.buf ++ stream) :
    frames.map Frame.payload = script.map Entry.payloadOf ∧
      ∃ final, (ReadState.decoder pairing).drain position stream =
        ⟨frames.map Frame.packet, final, [], false⟩ := by
  induction script generalizing writer position frames stream with
  | nil =>
      simp only [WriteState.writeAll, Except.ok.injEq, Prod.mk.injEq] at encoded
      obtain ⟨rfl, rfl⟩ := encoded
      rw [List.self_eq_append_right] at grown
      subst grown
      exact ⟨rfl, position,
        (ReadState.decoder pairing).drain_more (ReadState.scan_empty position)⟩
  | cons entry script ih =>
      obtain ⟨accepted, others, rest, rfl⟩ := WriteState.writeAll_cons encoded
      obtain ⟨later, laterGrown⟩ := WriteState.writeAll_grows script _ written others rest
      have fits := bounded _ List.mem_cons_self
      obtain ⟨appended, first, reads⟩ :=
        ReadState.readsFrame writer position entry.payloadOf keys numbers accepted fits
      have split : stream = appended ++ later := by
        rw [grown, entry.applyWriter_buf, first, List.append_assoc] at laterGrown
        exact List.append_cancel_left laterGrown
      subst split
      obtain ⟨next, length, polled, decoded, nextKeys, nextNumbers, left⟩ := reads later
      obtain ⟨sameScript, mirroredKeys, mirroredNumbers⟩ := ReadState.mirror_matches entry script
        (writer.encodeKx entry.payloadOf.bytes none).state next writer.sequenceNumber nextKeys
        nextNumbers
      have scanned : (ReadState.decoder pairing).scan position (appended ++ later) =
          .item (entry.payloadOf.packet writer.sequenceNumber)
            ((next.mirror (entry.payloadOf.packet writer.sequenceNumber)
              (entry :: script)).1.position script) later := by
        change ReadState.scan position (appended ++ later) = _
        simp only [ReadState.scan, ReadState.receiveStep, polled, decoded, planned, sameScript,
          ReadState.mirror_unread, left]
      obtain ⟨samePayloads, final, drained⟩ := ih _
        ((next.mirror (entry.payloadOf.packet writer.sequenceNumber)
          (entry :: script)).1.position script) others later mirroredKeys mirroredNumbers rfl
        rest (fun frame member => bounded frame (List.mem_cons_of_mem _ member)) laterGrown
      refine ⟨by rw [List.map_cons, List.map_cons, samePayloads], final, ?_⟩
      rw [(ReadState.decoder pairing).drain_item scanned, drained]
      rfl

/-- Whatever the writer encodes, with key switches in between, the reader gets back: the same
payloads in the same order under the same sequence numbers, however the stream is cut. -/
theorem transport_round_trip (pairing : Pairing σ ρ) (writer written : WriteState σ)
    (reader : ReadState ρ) (script : List (Entry pairing)) (frames : List Frame)
    (chunks : List Bytes) (keys : pairing.Keys writer.sealer reader.opener)
    (numbers : reader.sequenceNumber = writer.sequenceNumber)
    (consumed : reader.lastLength = reader.buf.length)
    (encoded : writer.writeAll script = .ok (written, frames))
    (bounded : ∀ frame ∈ frames, frame.packetLength ≤ maxPacketLen)
    (delivered : written.buf = writer.buf ++ chunks.flatten) :
    (reader.receiveChunks script chunks).stopped = none ∧
      (reader.receiveChunks script chunks).packets.map (fun packet =>
          (packet.sequenceNumber, packet.messageType.toByte :: packet.payload)) =
        frames.map (fun frame => (frame.sequenceNumber, frame.payload.bytes)) ∧
      frames.map Frame.payload = script.map Entry.payloadOf ∧
      (reader.receiveChunks script chunks).state.unread = [] := by
  obtain ⟨samePayloads, final, drained⟩ := drain_script script writer written
    (reader.position script) frames chunks.flatten keys numbers rfl encoded bounded delivered
  obtain ⟨stopped, packets, unread⟩ := ReadState.receiveChunks_drained consumed drained
  refine ⟨stopped, ?_, samePayloads, unread⟩
  rw [packets]
  simp [Frame.packet, Payload.packet, Payload.bytes, MessageType.toByte_ofByte]

def firstKeys : GcmState where
  key := ⟨List.replicate 16 1, rfl⟩
  nonce := ⟨List.replicate 12 2, rfl⟩
  counter := 0

def rekeyedScript : List (Entry (gcmPairing .graviola identityCipher identityCipher_lawful)) :=
  [.payload ⟨2, [5]⟩, .keySwitch ⟨some ⟨⟩, ⟨firstKeys⟩, ⟨firstKeys⟩, rfl⟩, .payload ⟨94, [7]⟩]

def freshWriter : WriteState (Aes128GcmSealer .graviola identityCipher) :=
  WriteState.new (constantRandom 0)

theorem transport_round_trip_rekeyed :
    ∃ written frames, freshWriter.writeAll rekeyedScript = .ok (written, frames) ∧
      (ReadState.receiveChunks {} rekeyedScript
          [written.buf.take 3, written.buf.drop 3]).packets.map (fun packet =>
        (packet.sequenceNumber, packet.messageType.toByte :: packet.payload)) =
      [(0, [2, 5]), (1, [21]), (0, [94, 7])] := by
  refine ⟨_, [⟨0, ⟨2, [5]⟩, 12⟩, ⟨1, ⟨21, []⟩, 12⟩, ⟨0, ⟨94, [7]⟩, 16⟩], rfl, ?_⟩
  exact (transport_round_trip _ freshWriter _ {} rekeyedScript _ _ trivial rfl rfl rfl
    (by decide) (by simp [freshWriter, WriteState.new])).2.1

end Oxish
