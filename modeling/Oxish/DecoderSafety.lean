import Oxish.CheckedCore
import Oxish.PacketReading
import Oxish.ProviderCore

/-!
No decoder panics, whatever bytes it is given. Each decoder with its checks agrees with the one
without them, and none of its errors is one that the source marks as unreachable.
-/

namespace Oxish

open Faults

variable {ρ : Type}

def ProtoError.FromWire : ProtoError → Prop
  | .incomplete _ | .invalidPacket _ | .unexpectedMessage _ _ => True
  | _ => False

/-- A decoder with its checks has the outcome of the one without them, and the error is about the
bytes. -/
abbrev Sound {α : Type} (checked : Checked.Outcome α) (plain : Except ProtoError α) : Prop :=
  Agrees ProtoError.FromWire Stop.error checked plain

section Primitives

theorem raise_sound {α : Type} {plain : Except ProtoError α}
    (wire : ∀ cause, plain = .error cause → cause.FromWire) : Sound (raise plain) plain := by
  cases plain with
  | ok value => exact .ok value
  | error cause => exact .error (wire cause rfl)

theorem invalid_sound {α : Type} (reason : String) :
    Sound (.error (.error (.invalidPacket reason)) : Checked.Outcome α)
      (.error (.invalidPacket reason)) := .error trivial

theorem incomplete_sound {α : Type} {required available : Nat} (short : available ≤ required) :
    Sound (Checked.incomplete required available : Checked.Outcome α)
      (.error (.incomplete (some (required - available)))) := by
  rw [Checked.incomplete, sub_ok short]
  exact .error trivial

theorem decodeArray_sound (count : Nat) (bytes : Bytes) :
    Sound (Checked.decodeArray count bytes) (decodeArray count bytes) := by
  by_cases enough : count ≤ bytes.length
  · simp only [Checked.decodeArray, decodeArray, splitFirstChunk, enough, dite_true]
    exact .ok _
  · simp only [Checked.decodeArray, decodeArray, splitFirstChunk, enough, dite_false]
    exact incomplete_sound (by omega)

theorem decodeU8_sound (bytes : Bytes) : Sound (Checked.decodeU8 bytes) (decodeU8 bytes) := by
  cases bytes with
  | nil => exact .error trivial
  | cons byte rest => exact .ok _

theorem decodeBool_sound (bytes : Bytes) : Sound (Checked.decodeBool bytes) (decodeBool bytes) :=
  (decodeArray_sound 1 bytes).map _

theorem decodeU32_sound (bytes : Bytes) : Sound (Checked.decodeU32 bytes) (decodeU32 bytes) :=
  (decodeArray_sound 4 bytes).map _

theorem decodeBytes_sound (bytes : Bytes) : Sound (Checked.decodeBytes bytes) (decodeBytes bytes) := by
  refine (decodeU32_sound bytes).bind fun len _ => ?_
  by_cases enough : len.value.toNat ≤ len.next.length
  · simp only [upTo?, from?, if_pos enough]
    exact .ok _
  · simp only [upTo?, if_neg enough]
    exact incomplete_sound (by omega)

theorem text_sound {α : Type} {checked : String → Checked.Outcome α}
    {plain : String → Except ProtoError α} (bytes : Bytes) (reason : String)
    (known : ∀ text, Sound (checked text) (plain text)) :
    Sound
      (match fromUtf8 bytes with
        | none => .error (.error (.invalidPacket reason))
        | some text => checked text)
      (match fromUtf8 bytes with
        | none => .error (.invalidPacket reason)
        | some text => plain text) := by
  cases fromUtf8 bytes with
  | none => exact invalid_sound reason
  | some text => exact known text

theorem decodeNamed_sound {α : Type} [Named α] (bytes : Bytes) :
    Sound (Checked.decodeNamed bytes : Checked.Outcome (Decoded α)) (decodeNamed bytes) := by
  refine (decodeBytes_sound bytes).bind fun decoded _ => ?_
  exact text_sound _ _ fun name => .ok _

theorem typedNames_wire {α : Type} [Named α] (names : List Bytes) :
    ∀ cause, (typedNames names : Except ProtoError (List α)) = .error cause → cause.FromWire := by
  induction names with
  | nil =>
      intro cause failed
      cases failed
  | cons name names ih =>
      intro cause failed
      unfold typedNames at failed
      split at failed
      · cases failed
        trivial
      · cases rest : (typedNames names : Except ProtoError (List α)) with
        | ok values =>
            rw [rest] at failed
            cases failed
        | error inner =>
            rw [rest] at failed
            cases failed
            exact ih _ rest

theorem nameList_sound {α : Type} [Named α] (bytes : Bytes) :
    Sound (Checked.IncomingNameList.decode bytes : Checked.Outcome (Decoded (List α)))
      (IncomingNameList.decode bytes) := by
  refine (decodeU32_sound bytes).bind fun decoded _ => ?_
  obtain ⟨len, next⟩ := decoded
  by_cases enough : len.toNat ≤ next.length
  · simp only [upTo?, from?, if_pos enough]
    split
    · exact .ok _
    · exact (raise_sound (typedNames_wire _)).bind fun value _ => .ok _
  · simp only [upTo?, if_neg enough]
    exact incomplete_sound (by omega)

theorem expect_sound (packet : IncomingPacket) (expected : List MessageType) :
    Sound (raise (packet.expect expected)) (packet.expect expected) := by
  unfold IncomingPacket.expect
  split
  · exact .ok ()
  · exact .error trivial

theorem whenEmpty_sound {α : Type} (next : Bytes) (message : String) (value : α) :
    Sound (Checked.whenEmpty next message value) (whenEmpty next message value) := by
  unfold Checked.whenEmpty whenEmpty
  split
  · exact .ok value
  · exact invalid_sound message

end Primitives

section Messages

theorem DisconnectReason.tryFrom_sound (value : UInt32) :
    Sound (raise (DisconnectReason.tryFrom value)) (DisconnectReason.tryFrom value) := by
  unfold DisconnectReason.tryFrom
  split
  all_goals first | exact .ok _ | exact invalid_sound _

theorem Disconnect.tryFrom_sound (packet : IncomingPacket) :
    Sound (Checked.Disconnect.tryFrom packet) (Disconnect.tryFrom packet) := by
  refine (expect_sound packet _).bind fun _ _ => ?_
  refine (decodeU32_sound _).bind fun reason _ => ?_
  refine (decodeBytes_sound _).bind fun _ _ => ?_
  refine text_sound _ _ fun description => ?_
  refine (decodeBytes_sound _).bind fun language _ => ?_
  refine .ite ?_ (invalid_sound _)
  exact (DisconnectReason.tryFrom_sound _).bind fun _ _ => .ok _

theorem GlobalRequest.tryFrom_sound (packet : IncomingPacket) :
    Sound (Checked.GlobalRequest.tryFrom packet) (GlobalRequest.tryFrom packet) := by
  refine (expect_sound packet _).bind fun _ _ => ?_
  refine (decodeBytes_sound _).bind fun name _ => ?_
  exact (decodeBool_sound _).bind fun _ _ => .ok _

theorem KeyExchangeInit.tryFrom_sound (packet : IncomingPacket) :
    Sound (Checked.KeyExchangeInit.tryFrom packet) (KeyExchangeInit.tryFrom packet) := by
  refine (expect_sound packet _).bind fun _ _ => ?_
  refine (decodeArray_sound 16 _).bind fun _ _ => ?_
  refine (nameList_sound _).bind fun _ _ => ?_
  refine (nameList_sound _).bind fun _ _ => ?_
  refine (nameList_sound _).bind fun _ _ => ?_
  refine (nameList_sound _).bind fun _ _ => ?_
  refine (nameList_sound _).bind fun _ _ => ?_
  refine (nameList_sound _).bind fun _ _ => ?_
  refine (nameList_sound _).bind fun _ _ => ?_
  refine (nameList_sound _).bind fun _ _ => ?_
  refine (nameList_sound _).bind fun _ _ => ?_
  refine (nameList_sound _).bind fun _ _ => ?_
  refine (decodeU8_sound _).bind fun _ _ => ?_
  refine (decodeU32_sound _).bind fun _ _ => ?_
  exact .ite (.ok _) (invalid_sound _)

theorem EcdhKeyExchangeInit.tryFrom_sound (packet : IncomingPacket) :
    Sound (Checked.EcdhKeyExchangeInit.tryFrom packet) (EcdhKeyExchangeInit.tryFrom packet) := by
  refine (expect_sound packet _).bind fun _ _ => ?_
  refine (decodeBytes_sound _).bind fun _ _ => ?_
  exact .ite (.ok _) (invalid_sound _)

theorem NewKeys.tryFrom_sound (packet : IncomingPacket) :
    Sound (Checked.NewKeys.tryFrom packet) (NewKeys.tryFrom packet) := by
  refine (expect_sound packet _).bind fun _ _ => ?_
  exact .ite (.ok _) (invalid_sound _)

theorem ServiceRequest.tryFrom_sound (packet : IncomingPacket) :
    Sound (Checked.ServiceRequest.tryFrom packet) (ServiceRequest.tryFrom packet) := by
  refine (expect_sound packet _).bind fun _ _ => ?_
  refine (decodeNamed_sound _).bind fun _ _ => ?_
  exact .ite (.ok _) (invalid_sound _)

theorem Signature.decode_sound (input : Bytes) :
    Sound (Checked.Signature.decode input) (Signature.decode input) := by
  refine (decodeBytes_sound _).bind fun _ _ => ?_
  refine .ite ?_ (invalid_sound _)
  refine (decodeNamed_sound _).bind fun _ _ => ?_
  refine (decodeBytes_sound _).bind fun _ _ => ?_
  exact .ite (.ok _) (invalid_sound _)

theorem PublicKey.decode_sound (input : Bytes) :
    Sound (Checked.PublicKey.decode input) (PublicKey.decode input) := by
  refine (decodeBool_sound _).bind fun decoded _ => ?_
  refine (decodeNamed_sound _).bind fun _ _ => ?_
  refine (decodeBytes_sound _).bind fun blob _ => ?_
  obtain ⟨hasSignature, _⟩ := decoded
  obtain ⟨keyBlob, next⟩ := blob
  cases hasSignature with
  | true =>
      refine (Signature.decode_sound _).bind fun _ _ => ?_
      exact .ite (.ok _) (invalid_sound _)
  | false =>
      cases next with
      | nil => exact .ok _
      | cons byte rest => exact invalid_sound _

theorem UserAuthRequest.tryFrom_sound (packet : IncomingPacket) :
    Sound (Checked.UserAuthRequest.tryFrom packet) (UserAuthRequest.tryFrom packet) := by
  refine (expect_sound packet _).bind fun _ _ => ?_
  refine (decodeBytes_sound _).bind fun _ _ => ?_
  refine text_sound _ _ fun userName => ?_
  refine (decodeNamed_sound _).bind fun _ _ => ?_
  refine (decodeNamed_sound _).bind fun decoded _ => ?_
  obtain ⟨methodName, next⟩ := decoded
  cases methodName with
  | publicKey =>
      refine (PublicKey.decode_sound _).bind fun _ _ => ?_
      exact .ite (.ok _) (invalid_sound _)
  | none => exact .ite (.ok _) (invalid_sound _)
  | password => exact invalid_sound _
  | hostBased => exact invalid_sound _
  | unknown name => exact invalid_sound _

theorem mpintToFixed_eq (mpint : Bytes) (width : Nat) :
    mpintToFixed mpint width =
      if (Checked.unsigned mpint).length ≤ width then
        some (List.replicate (width - (Checked.unsigned mpint).length) 0 ++ Checked.unsigned mpint)
      else none := rfl

theorem mpintToFixed_length {mpint fixed : Bytes} {width : Nat}
    (converted : mpintToFixed mpint width = some fixed) : fixed.length = width := by
  rw [mpintToFixed_eq] at converted
  split at converted
  · rename_i fits
    cases converted
    rw [List.length_append, List.length_replicate]
    omega
  · cases converted

theorem mpintToFixed_checked (mpint : Bytes) (width : Nat) :
    Checked.mpintToFixed mpint (List.replicate width 0) = .ok (mpintToFixed mpint width) := by
  rw [mpintToFixed_eq, Checked.mpintToFixed]
  generalize Checked.unsigned mpint = data
  by_cases fits : data.length ≤ width
  · have short : ¬(List.replicate width (0 : UInt8)).length < data.length := by
      rw [List.length_replicate]
      omega
    have target : width - (width - data.length) = data.length := by omega
    rw [if_pos fits, if_neg short, sub_ok (by omega)]
    simp [from?, expect, target]
  · have long : (List.replicate width (0 : UInt8)).length < data.length := by
      rw [List.length_replicate]
      omega
    rw [if_neg fits, if_pos long]

theorem Signature.encode_sound (signature : Signature) :
    Sound (Checked.Signature.encode signature) (Signature.encode signature) := by
  unfold Checked.Signature.encode Signature.encode
  cases signature.algorithm with
  | ed25519 => exact .ok _
  | unknown name => exact invalid_sound _
  | ecdsaSha2Nistp256 =>
      refine (decodeBytes_sound _).bind fun r _ => ?_
      refine (decodeBytes_sound _).bind fun s _ => ?_
      refine .ite ?_ (invalid_sound _)
      have first : upTo? (List.replicate 64 (0 : UInt8)) (64 / 2) = some (List.replicate 32 0) := rfl
      simp only [first, expect, Outcome.ok_bind, mpintToFixed_checked]
      cases high : mpintToFixed r.value 32 with
      | none => exact invalid_sound _
      | some fixed =>
          have length := mpintToFixed_length high
          have second : from? (fixed ++ (List.replicate 64 0).drop fixed.length) (64 / 2) =
              some (List.replicate 32 0) := by
            rw [length]
            exact from_append length
          have front : (fixed ++ (List.replicate 64 0).drop fixed.length).take (64 / 2) = fixed :=
            List.take_left' length
          simp only [second, front, Outcome.ok_bind, mpintToFixed_checked]
          cases low : mpintToFixed s.value 32 with
          | none => exact invalid_sound _
          | some rest => exact .ok _

theorem ChannelOpen.tryFrom_sound (packet : IncomingPacket) :
    Sound (Checked.ChannelOpen.tryFrom packet) (ChannelOpen.tryFrom packet) := by
  refine (expect_sound packet _).bind fun _ _ => ?_
  refine (decodeNamed_sound _).bind fun decoded _ => ?_
  refine (decodeU32_sound _).bind fun _ _ => ?_
  refine (decodeU32_sound _).bind fun _ _ => ?_
  refine (decodeU32_sound _).bind fun _ _ => ?_
  obtain ⟨type, next⟩ := decoded
  cases type with
  | session => exact whenEmpty_sound _ _ _
  | unknown name => exact .ok _

theorem Mode.decode_cases (bytes : Bytes) :
    (∃ mode byte rest, bytes = byte :: rest ∧ Mode.decode bytes = .ok ⟨mode, rest⟩) ∨
      ∃ cause, Mode.decode bytes = .error cause ∧ cause.FromWire := by
  cases bytes with
  | nil => exact Or.inr ⟨_, rfl, trivial⟩
  | cons byte rest =>
      rw [Mode.decode, decodeU8, Outcome.ok_bind]
      dsimp only
      split
      all_goals first
        | exact Or.inl ⟨_, _, _, rfl, rfl⟩
        | exact Or.inr ⟨_, rfl, trivial⟩

theorem Mode.decode_sound (bytes : Bytes) :
    Sound (Checked.Mode.decode bytes) (Mode.decode bytes) := by
  apply raise_sound
  intro cause failed
  rcases Mode.decode_cases bytes with ⟨_, _, _, _, done⟩ | ⟨other, failing, wire⟩
  · rw [done] at failed
    cases failed
  · rw [failing] at failed
    cases failed
    exact wire

/-- Every round of the loop takes a byte, so it ends before the rounds do. -/
theorem decodeModes_sound (rounds : Nat) (modes : List (Mode × UInt32)) (input : Bytes)
    (enough : input.length < rounds) :
    Sound (Checked.decodeModes rounds modes input) (decodeModes rounds modes input) := by
  induction rounds generalizing modes input with
  | zero => omega
  | succ rounds ih =>
      refine (Mode.decode_sound input).bind fun decoded read => ?_
      obtain ⟨mode, next⟩ := decoded
      cases mode with
      | none => exact .ok _
      | some mode =>
          refine (decodeU32_sound next).bind fun value taken => ?_
          apply ih
          have left : next.length < input.length := by
            rcases Mode.decode_cases input with ⟨_, byte, rest, split, done⟩ | ⟨_, failing, _⟩
            · rw [done] at read
              cases read
              simp [split]
            · rw [failing] at read
              cases read
          have after := congrArg List.length (decodeU32_ok taken)
          rw [List.length_append, length_encodeU32] at after
          omega

theorem PtyReq.decode_sound (input : Bytes) :
    Sound (Checked.PtyReq.decode input) (PtyReq.decode input) := by
  refine (decodeBytes_sound _).bind fun _ _ => ?_
  refine text_sound _ _ fun term => ?_
  refine (decodeU32_sound _).bind fun _ _ => ?_
  refine (decodeU32_sound _).bind fun _ _ => ?_
  refine (decodeU32_sound _).bind fun _ _ => ?_
  refine (decodeU32_sound _).bind fun _ _ => ?_
  refine (decodeBytes_sound _).bind fun encoded _ => ?_
  exact (decodeModes_sound _ _ _ (Nat.lt_succ_self _)).bind fun _ _ => .ok _

theorem WindowChange.decode_sound (input : Bytes) :
    Sound (Checked.WindowChange.decode input) (WindowChange.decode input) := by
  refine (decodeU32_sound _).bind fun _ _ => ?_
  refine (decodeU32_sound _).bind fun _ _ => ?_
  refine (decodeU32_sound _).bind fun _ _ => ?_
  exact (decodeU32_sound _).bind fun _ _ => .ok _

theorem Env.decode_sound (input : Bytes) : Sound (Checked.Env.decode input) (Env.decode input) := by
  refine (decodeBytes_sound _).bind fun _ _ => ?_
  refine text_sound _ _ fun name => ?_
  refine (decodeBytes_sound _).bind fun _ _ => ?_
  exact text_sound _ _ fun value => .ok _

theorem Exec.decode_sound (input : Bytes) : Sound (Checked.Exec.decode input) (Exec.decode input) :=
  (decodeBytes_sound _).bind fun _ _ => .ok _

theorem ChannelRequestType.decode_sound (type next : Bytes) :
    Sound (Checked.ChannelRequestType.decode type next) (ChannelRequestType.decode type next) := by
  unfold Checked.ChannelRequestType.decode ChannelRequestType.decode
  generalize fromUtf8 type = text
  split
  · exact invalid_sound _
  · exact (PtyReq.decode_sound _).bind fun _ _ => whenEmpty_sound _ _ _
  · exact (Env.decode_sound _).bind fun _ _ => whenEmpty_sound _ _ _
  · exact whenEmpty_sound _ _ _
  · exact (Exec.decode_sound _).bind fun _ _ => whenEmpty_sound _ _ _
  · exact (WindowChange.decode_sound _).bind fun _ _ => whenEmpty_sound _ _ _
  · exact (decodeU32_sound _).bind fun _ _ => whenEmpty_sound _ _ _
  · exact .ok _
  · -- A name that none of the known ones is equal to.
    simp only [Sound, Agrees]

theorem ChannelRequest.tryFrom_sound (packet : IncomingPacket) :
    Sound (Checked.ChannelRequest.tryFrom packet) (ChannelRequest.tryFrom packet) := by
  refine (expect_sound packet _).bind fun _ _ => ?_
  refine (decodeU32_sound _).bind fun _ _ => ?_
  refine (decodeBytes_sound _).bind fun _ _ => ?_
  refine (decodeBool_sound _).bind fun _ _ => ?_
  exact (ChannelRequestType.decode_sound _ _).bind fun _ _ => .ok _

theorem ChannelData.tryFrom_sound (packet : IncomingPacket) :
    Sound (Checked.ChannelData.tryFrom packet) (ChannelData.tryFrom packet) := by
  refine (expect_sound packet _).bind fun _ _ => ?_
  refine (decodeU32_sound _).bind fun _ _ => ?_
  exact (decodeBytes_sound _).bind fun _ _ => whenEmpty_sound _ _ _

theorem ChannelWindowAdjust.tryFrom_sound (packet : IncomingPacket) :
    Sound (Checked.ChannelWindowAdjust.tryFrom packet) (ChannelWindowAdjust.tryFrom packet) := by
  refine (expect_sound packet _).bind fun _ _ => ?_
  refine (decodeU32_sound _).bind fun _ _ => ?_
  exact (decodeU32_sound _).bind fun _ _ => whenEmpty_sound _ _ _

theorem ChannelEof.tryFrom_sound (packet : IncomingPacket) :
    Sound (Checked.ChannelEof.tryFrom packet) (ChannelEof.tryFrom packet) := by
  refine (expect_sound packet _).bind fun _ _ => ?_
  exact (decodeU32_sound _).bind fun _ _ => whenEmpty_sound _ _ _

theorem ChannelClose.tryFrom_sound (packet : IncomingPacket) :
    Sound (Checked.ChannelClose.tryFrom packet) (ChannelClose.tryFrom packet) := by
  refine (expect_sound packet _).bind fun _ _ => ?_
  exact (decodeU32_sound _).bind fun _ _ => whenEmpty_sound _ _ _

end Messages

section Outcomes

/-- Neither a panic nor an error that is marked as unreachable. -/
def Stop.Harmless : Stop ProtoError → Prop
  | .panic _ | .error (.unreachable _) => False
  | .error _ => True

def Returns {α : Type} (outcome : Checked.Outcome α) : Prop :=
  ∀ stop, outcome = .error stop → stop.Harmless

theorem ProtoError.FromWire.harmless {cause : ProtoError} (wire : cause.FromWire) :
    (Stop.error cause).Harmless := by
  cases cause with
  | incomplete needed => trivial
  | invalidPacket reason => trivial
  | unexpectedMessage received expected => trivial
  | _ => cases wire

theorem returns_of_sound {α : Type} {checked : Checked.Outcome α}
    {plain : Except ProtoError α} (sound : Sound checked plain) : Returns checked := by
  intro stop ended
  obtain ⟨cause, rfl, _, wire⟩ := sound.stopped ended
  exact wire.harmless

theorem Returns.map {α β : Type} {outcome : Checked.Outcome α} (returns : Returns outcome)
    (transform : α → β) : Returns (outcome.map transform) := by
  intro stop ended
  cases outcome with
  | ok value => cases ended
  | error cause =>
      cases ended
      exact returns _ rfl

theorem Returns.bind {α β : Type} {outcome : Checked.Outcome α} {next : α → Checked.Outcome β}
    (first : Returns outcome) (second : ∀ value, Returns (next value)) :
    Returns (outcome >>= next) := by
  intro stop ended
  cases outcome with
  | ok value => exact second value stop ended
  | error cause =>
      cases ended
      exact first _ rfl

theorem returns_ok {α : Type} (value : α) : Returns (.ok value) := by
  intro stop ended
  cases ended

end Outcomes

theorem decodeMessage_returns (packet : IncomingPacket) : Returns (Checked.decodeMessage packet) := by
  unfold Checked.decodeMessage
  split
  · exact (returns_of_sound (Disconnect.tryFrom_sound packet)).map _
  · exact (returns_of_sound (ServiceRequest.tryFrom_sound packet)).map _
  · exact (returns_of_sound (KeyExchangeInit.tryFrom_sound packet)).map _
  · exact returns_of_sound (NewKeys.tryFrom_sound packet)
  · exact (returns_of_sound (EcdhKeyExchangeInit.tryFrom_sound packet)).map _
  · refine (returns_of_sound (UserAuthRequest.tryFrom_sound packet)).bind fun request => ?_
    split
    · exact (returns_of_sound (Signature.encode_sound _)).map _
    · exact returns_ok ()
  · exact (returns_of_sound (GlobalRequest.tryFrom_sound packet)).map _
  · exact (returns_of_sound (ChannelOpen.tryFrom_sound packet)).map _
  · exact (returns_of_sound (ChannelRequest.tryFrom_sound packet)).map _
  · exact (returns_of_sound (ChannelData.tryFrom_sound packet)).map _
  · exact (returns_of_sound (ChannelWindowAdjust.tryFrom_sound packet)).map _
  · exact (returns_of_sound (ChannelEof.tryFrom_sound packet)).map _
  · exact (returns_of_sound (ChannelClose.tryFrom_sound packet)).map _
  · exact returns_ok ()

section Reading

theorem PacketLength.decode_sound (bytes : Bytes) :
    Sound (Checked.PacketLength.decode bytes) (PacketLength.decode bytes) := by
  refine (decodeU32_sound bytes).bind fun decoded _ => ?_
  obtain ⟨value, next⟩ := decoded
  dsimp only
  by_cases bounded : value.toNat ≤ maxPacketLen
  · rw [dif_pos bounded, dif_pos bounded]
    exact .ok _
  · rw [dif_neg bounded, dif_neg bounded]
    exact invalid_sound _

theorem PaddingLength.decode_sound (bytes : Bytes) :
    Sound (raise (PaddingLength.decode bytes)) (PaddingLength.decode bytes) := by
  cases bytes with
  | nil => exact .error trivial
  | cons value next =>
      unfold PaddingLength.decode decodeU8
      simp only [Outcome.ok_bind]
      split
      · exact .ok _
      · exact invalid_sound _

theorem decodePacket_sound (state : ReadState ρ) (number : UInt32) (length : PacketLength) :
    Sound (Checked.decodePacket state number length) (state.decodePacket number length) := by
  unfold Checked.decodePacket ReadState.decodePacket
  by_cases framed : 4 ≤ state.buf.length
  · simp only [splitFirstChunk, framed, dite_true]
    refine (PaddingLength.decode_sound _).bind fun decoded _ => ?_
    obtain ⟨padding, next⟩ := decoded
    refine .ite (invalid_sound _) ?_
    by_cases enough : length.toNat - 1 - padding.value.toNat ≤ next.length
    · simp only [upTo?, from?, if_pos enough]
      cases next.take (length.toNat - 1 - padding.value.toNat) with
      | nil => exact invalid_sound _
      | cons messageType payload =>
          by_cases padded : padding.value.toNat ≤
              (next.drop (length.toNat - 1 - padding.value.toNat)).length
          · simp only [if_pos padded]
            exact .ok _
          · simp only [if_neg padded]
            exact incomplete_sound (by omega)
    · simp only [upTo?, if_neg enough]
      exact incomplete_sound (by omega)
  · simp only [splitFirstChunk, framed, dite_false]
    exact incomplete_sound (by omega)

def ReadState.Tidy (state : ReadState ρ) : Prop := state.lastLength ≤ state.buf.length

structure Polls (checked plain : Checked.Polled ρ) : Prop where
  same : checked = plain
  returns : Returns plain.2
  tidy : plain.1.Tidy

theorem awaiting_polls {state : ReadState ρ} (tidy : state.Tidy) {required available : Nat}
    (short : available ≤ required) :
    Polls (Checked.awaiting state required available)
      (state, .ok (.incomplete (some (required - available)))) where
  same := by rw [Checked.awaiting, sub_ok short]; rfl
  returns := returns_ok _
  tidy := tidy

theorem stopped_polls {state : ReadState ρ} (tidy : state.Tidy) {stop : Stop ProtoError}
    (harmless : stop.Harmless) : Polls (state, .error stop) (state, .error stop) where
  same := rfl
  returns := by
    intro other ended
    cases ended
    exact harmless
  tidy := tidy

theorem complete_polls {state : ReadState ρ} {length : PacketLength} {tagLen : Nat}
    (enough : 4 + length.toNat + tagLen ≤ state.buf.length) :
    Polls (state.complete length tagLen) (state.complete length tagLen) where
  same := rfl
  returns := returns_ok _
  tidy := enough

theorem pollPlain_polls {state : ReadState ρ} (tidy : state.Tidy) :
    Polls (Checked.pollPlain state) state.pollPlain := by
  have sound := PacketLength.decode_sound state.buf
  unfold Checked.pollPlain ReadState.pollPlain
  cases plain : PacketLength.decode state.buf with
  | error cause =>
      rw [plain] at sound
      obtain ⟨same, wire⟩ := sound
      rw [same]
      exact stopped_polls tidy wire.harmless
  | ok decoded =>
      rw [plain] at sound
      have same : Checked.PacketLength.decode state.buf = .ok decoded := sound
      rw [same]
      obtain ⟨length, next⟩ := decoded
      dsimp only
      split
      · exact awaiting_polls tidy (by omega)
      · rename_i enough
        have split : state.buf.length = 4 + next.length := by
          rw [PacketLength.decode_ok plain, List.length_append, length_encodeU32]
        exact complete_polls (by omega)

theorem pollSealed_polls [OpeningKey ρ] {state : ReadState ρ} (fresh : state.lastLength = 0)
    (opener : ρ) : Polls (Checked.pollSealed state opener) (state.pollSealed opener) := by
  have tidy : ∀ opener buf, ({ state with opener, buf } : ReadState ρ).Tidy := by
    intro opener buf
    change state.lastLength ≤ _
    omega
  unfold Checked.pollSealed ReadState.pollSealed
  by_cases framed : 4 ≤ state.buf.length
  · simp only [splitFirstChunk, framed, dite_true]
    generalize OpeningKey.decryptPacketLength opener state.sequenceNumber _ = decrypted
    obtain ⟨opener, lengthBytes⟩ := decrypted
    dsimp only
    have sound := PacketLength.decode_sound lengthBytes.val
    cases plain : PacketLength.decode lengthBytes.val with
    | error cause =>
        rw [plain] at sound
        obtain ⟨same, wire⟩ := sound
        rw [same]
        exact stopped_polls (tidy _ _) wire.harmless
    | ok decoded =>
        rw [plain] at sound
        have same : Checked.PacketLength.decode lengthBytes.val = .ok decoded := sound
        rw [same]
        obtain ⟨length, next⟩ := decoded
        -- Four bytes are decrypted, and the length takes all of them.
        have whole : next = [] := by
          have split : lengthBytes.val.length = 4 + next.length := by
            rw [PacketLength.decode_ok plain, List.length_append, length_encodeU32]
          rw [lengthBytes.property] at split
          exact List.length_eq_zero_iff.mp (by omega)
        subst whole
        simp only [List.isEmpty_nil, Bool.true_eq_false, if_false]
        by_cases body : 4 + length.toNat ≤ state.buf.length
        · simp only [splitAtChecked, if_pos body]
          by_cases tagged : OpeningKey.tagLen opener ≤ (state.buf.drop (4 + length.toNat)).length
          · simp only [upTo?, if_pos tagged]
            generalize OpeningKey.openInPlace opener state.sequenceNumber _ _ = opened
            cases opened.result with
            | error cause => exact stopped_polls (tidy _ _) trivial
            | ok _ =>
                apply complete_polls
                have kept : opened.data.val.length = 4 + length.toNat :=
                  opened.data.property.trans (List.length_take_of_le body)
                change _ ≤ (opened.data.val ++ state.buf.drop (4 + length.toNat)).length
                rw [List.length_append, kept]
                omega
          · simp only [upTo?, if_neg tagged]
            exact awaiting_polls (tidy _ _) (by omega)
        · simp only [splitAtChecked, if_neg body]
          exact awaiting_polls (tidy _ _) (by omega)
  · simp only [splitFirstChunk, framed, dite_false]
    exact awaiting_polls (tidy _ _) (by omega)

theorem compact_tidy {state : ReadState ρ} (tidy : state.Tidy) :
    Checked.compact state.buf state.lastLength = .ok (state.buf.drop state.lastLength) := by
  have inRange : from? state.buf state.lastLength = some (state.buf.drop state.lastLength) :=
    if_pos tidy
  rw [Checked.compact, inRange, sub_ok tidy]
  exact congrArg Except.ok (List.take_left' (List.length_drop ..))

theorem pollPacket_polls [OpeningKey ρ] {state : ReadState ρ} (tidy : state.Tidy) :
    Polls (Checked.pollPacket state) state.pollPacket := by
  unfold Checked.pollPacket ReadState.pollPacket
  rw [compact_tidy tidy, if_neg (Nat.not_lt.mpr tidy)]
  dsimp only
  cases state.opener with
  | none => exact pollPlain_polls (Nat.zero_le _)
  | some opener => exact pollSealed_polls rfl opener

end Reading

section Runs

/-- The calls on a reader: bytes that arrive, a poll, and the decoding of a packet of some length
that an earlier poll has returned. -/
inductive ReadCall where
  | append (chunk : Bytes)
  | poll
  | decode (number : UInt32) (length : PacketLength)

variable [OpeningKey ρ]

namespace Checked

def call (state : ReadState ρ) : ReadCall → ReadState ρ × Outcome Unit
  | .append chunk => (state.extend chunk, .ok ())
  | .poll =>
    let (next, polled) := pollPacket state
    (next, polled.map fun _ => ())
  | .decode number length => (state, do
      let packet ← decodePacket state number length
      decodeMessage packet)

def calls : ReadState ρ → List ReadCall → List (ReadState ρ × Outcome Unit)
  | _, [] => []
  | state, first :: rest =>
    let (next, outcome) := call state first
    (next, outcome) :: calls next rest

end Checked

theorem call_returns {state : ReadState ρ} (tidy : state.Tidy) (call : ReadCall) :
    (Checked.call state call).1.Tidy ∧ Returns (Checked.call state call).2 := by
  cases call with
  | append chunk =>
      refine ⟨?_, returns_ok ()⟩
      change state.lastLength ≤ (state.buf ++ chunk).length
      rw [List.length_append]
      exact Nat.le_add_right_of_le tidy
  | poll =>
      have polls := pollPacket_polls tidy
      unfold Checked.call
      rw [polls.same]
      exact ⟨polls.tidy, polls.returns.map _⟩
  | decode number length =>
      refine ⟨tidy, ?_⟩
      exact (returns_of_sound (decodePacket_sound state number length)).bind decodeMessage_returns

/-- In whatever chunks the bytes arrive and whenever the reader is polled and packets are decoded,
every call returns, and the reader never has more to drop than there is in its buffer. -/
theorem decoders_return (opener : Option ρ) (calls : List ReadCall) :
    ∀ state outcome, (state, outcome) ∈ Checked.calls ({ opener } : ReadState ρ) calls →
      state.lastLength ≤ state.buf.length ∧ Returns outcome := by
  suffices general : ∀ start : ReadState ρ, start.Tidy → ∀ state outcome,
      (state, outcome) ∈ Checked.calls start calls → state.Tidy ∧ Returns outcome from
    general _ (Nat.le_refl 0)
  induction calls with
  | nil =>
      intro start _ state outcome member
      cases member
  | cons call calls ih =>
      intro start tidy state outcome member
      obtain ⟨kept, returns⟩ := call_returns tidy call
      rcases List.mem_cons.mp member with same | later
      · cases same
        exact ⟨kept, returns⟩
      · exact ih _ kept state outcome later

def splitRequest : List ReadCall :=
  [.append [0, 0, 0, 6, 4], .poll, .append [5, 0, 0, 0, 0], .poll, .decode 0 ⟨6, by decide⟩]

def splitRequestRead : ReadState PlainOpener where
  buf := [0, 0, 0, 6, 4, 5, 0, 0, 0, 0]
  lastLength := 10
  sequenceNumber := 1

theorem decoders_return_split :
    (splitRequestRead, .error (.error (.incomplete (some 4)))) ∈ Checked.calls {} splitRequest ∧
      splitRequestRead.lastLength ≤ splitRequestRead.buf.length ∧
      Returns (.error (.error (.incomplete (some 4))) : Checked.Outcome Unit) := by
  have reached : (splitRequestRead, .error (.error (.incomplete (some 4)))) ∈
      Checked.calls {} splitRequest := by
    have last : (Checked.calls {} splitRequest)[4]? =
        some (splitRequestRead, .error (.error (.incomplete (some 4)))) := rfl
    exact List.mem_of_getElem? last
  exact ⟨reached, decoders_return none splitRequest _ _ reached⟩

end Runs

end Oxish
