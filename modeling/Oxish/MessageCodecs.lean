import Oxish.ChannelsCore
import Oxish.HandoffState
import Oxish.Lib.Delimited

/-!
Messages on the wire. The decoder of a message gives back what was encoded, and refuses the
payload when it is cut short or when anything is appended to it.
-/

namespace Oxish

open Delimited

variable {α β : Type}

section Primitives

def Decoded.cursor (α : Type) : Cursor UInt8 (Decoded α) where
  rest := Decoded.next
  put decoded next := ⟨decoded.value, next⟩
  rest_put _ _ := rfl
  put_rest _ := rfl
  put_put _ _ _ := rfl

theorem exact_bind {first : Bytes → Except ProtoError (Decoded α)}
    {next : Decoded α → Except ProtoError β} {payload rest : Bytes} {field : α} {value : β}
    (stable : Stable (Decoded.cursor α) first) (read : first payload = .ok ⟨field, rest⟩)
    (behind : Exact (fun input => next ⟨field, input⟩) rest value) :
    Exact (fun input => first input >>= next) payload value :=
  Exact.bind stable read behind

theorem exact_whenEmpty (message : String) (value : α) :
    Exact (fun input => whenEmpty input message value) [] value := by
  refine Exact.done rfl ?_
  intro extra nonempty
  refine ⟨.invalidPacket message, ?_⟩
  rw [whenEmpty, if_neg (by simpa using nonempty)]

theorem decodeArray_stable (count : Nat) :
    Stable (Decoded.cursor (FixedBytes count)) (decodeArray count) := by
  intro input result later done
  unfold decodeArray at done
  split at done
  · rename_i enough
    cases done
    have length : (input.take count).length = count := by simp [enough]
    have parts : decodeArray count (input.take count ++ (input.drop count ++ later)) = _ :=
      decodeArray_append length
    rwa [← List.append_assoc, List.take_append_drop] at parts
  · cases done

theorem decodeU8_stable : Stable (Decoded.cursor UInt8) decodeU8 := by
  intro input result later done
  cases input with
  | nil => cases done
  | cons value next =>
      cases done
      rfl

theorem decodeBool_stable : Stable (Decoded.cursor Bool) decodeBool := by
  intro input result later done
  obtain ⟨bytes, read, rfl⟩ := Outcome.map_eq_ok.mp done
  rw [decodeBool, decodeArray_stable 1 input bytes later read]
  rfl

theorem decodeU32_stable : Stable (Decoded.cursor UInt32) decodeU32 := by
  intro input result later done
  rw [decodeU32_ok done, List.append_assoc]
  exact decodeU32_encodeU32 result.value _

theorem decodeBytes_stable : Stable (Decoded.cursor Bytes) decodeBytes := by
  intro input result later done
  obtain ⟨shape, bound⟩ := decodeBytes_ok done
  rw [shape, List.append_assoc]
  exact decodeBytes_encodeBytes bound _

end Primitives

theorem IncomingPacket.expect_same (number : UInt32) (type : MessageType) (payload : Bytes) :
    IncomingPacket.expect ⟨number, type, payload⟩ [type] = .ok () := by
  simp [IncomingPacket.expect]

/-- The packet that an encoding becomes is decoded to this value, and refused when its payload is
cut short or extended. -/
def CodedExactly (tryFrom : IncomingPacket → Except ProtoError α) (encoded : Bytes) (value : α) :
    Prop :=
  ∃ messageByte payload, encoded = messageByte :: payload ∧ ∀ number,
    Exact (fun payload => tryFrom ⟨number, MessageType.ofByte messageByte, payload⟩) payload value

theorem codedExactly_of_exact {tryFrom : IncomingPacket → Except ProtoError α} {type : MessageType}
    {payload : Bytes} {value : α} (known : MessageType.ofByte type.toByte = type)
    (exact : ∀ number, Exact (fun input => tryFrom ⟨number, type, input⟩) payload value) :
    CodedExactly tryFrom (type.encode ++ payload) value := by
  refine ⟨type.toByte, payload, rfl, fun number => ?_⟩
  rw [known]
  exact exact number

theorem exact_expect {number : UInt32} {type : MessageType}
    {fields : Bytes → Unit → Except ProtoError α} {payload : Bytes} {value : α}
    (exact : Exact (fun input => fields input ()) payload value) :
    Exact (fun input => IncomingPacket.expect ⟨number, type, input⟩ [type] >>= fields input)
      payload value :=
  exact.congr fun input =>
    Outcome.bind_of_ok (IncomingPacket.expect_same number type input) (fields input)

theorem DisconnectReason.tryFrom_code (reason : DisconnectReason) :
    DisconnectReason.tryFrom reason.code = .ok reason := by
  cases reason
  all_goals rfl

theorem Disconnect.coded {disconnect : Disconnect}
    (short : (strBytes disconnect.description).length < 2 ^ 32) :
    CodedExactly Disconnect.tryFrom disconnect.encode disconnect := by
  have language : (strBytes "en-US").length < 2 ^ 32 := by decide
  simp only [Disconnect.encode, List.append_assoc]
  refine codedExactly_of_exact rfl fun number => ?_
  unfold Disconnect.tryFrom
  refine exact_expect ?_
  refine exact_bind decodeU32_stable (decodeU32_encodeU32 _ _) ?_
  refine exact_bind decodeBytes_stable (decodeBytes_encodeBytes short _) ?_
  simp only [fromUtf8_strBytes]
  refine exact_bind decodeBytes_stable (decodeBytes_encodeBytes_nil language) ?_
  simp only [DisconnectReason.tryFrom_code]
  exact exact_whenEmpty _ _

theorem ChannelData.coded {data : ChannelData} (short : data.data.length < 2 ^ 32) :
    CodedExactly ChannelData.tryFrom data.encode data := by
  simp only [ChannelData.encode, List.append_assoc]
  refine codedExactly_of_exact rfl fun number => ?_
  unfold ChannelData.tryFrom
  refine exact_expect ?_
  refine exact_bind decodeU32_stable (decodeU32_encodeU32 _ _) ?_
  refine exact_bind decodeBytes_stable (decodeBytes_encodeBytes_nil short) ?_
  exact exact_whenEmpty _ _

theorem ChannelWindowAdjust.coded (adjust : ChannelWindowAdjust) :
    CodedExactly ChannelWindowAdjust.tryFrom adjust.encode adjust := by
  simp only [ChannelWindowAdjust.encode, List.append_assoc]
  refine codedExactly_of_exact rfl fun number => ?_
  unfold ChannelWindowAdjust.tryFrom
  refine exact_expect ?_
  refine exact_bind decodeU32_stable (decodeU32_encodeU32 _ _) ?_
  refine exact_bind decodeU32_stable (decodeU32_encodeU32_nil _) ?_
  exact exact_whenEmpty _ _

theorem ChannelEof.coded (eof : ChannelEof) :
    CodedExactly ChannelEof.tryFrom eof.encode eof := by
  refine codedExactly_of_exact rfl fun number => ?_
  unfold ChannelEof.tryFrom
  refine exact_expect ?_
  refine exact_bind decodeU32_stable (decodeU32_encodeU32_nil _) ?_
  exact exact_whenEmpty _ _

theorem ChannelClose.coded (close : ChannelClose) :
    CodedExactly ChannelClose.tryFrom close.encode close := by
  refine codedExactly_of_exact rfl fun number => ?_
  unfold ChannelClose.tryFrom
  refine exact_expect ?_
  refine exact_bind decodeU32_stable (decodeU32_encodeU32_nil _) ?_
  exact exact_whenEmpty _ _

theorem ChannelRequestType.exact_exitStatus (status : UInt32) :
    Exact (ChannelRequestType.decode (strBytes "exit-status")) (encodeU32 status)
      (.exitStatus status) := by
  have known (input : Bytes) : ChannelRequestType.decode (strBytes "exit-status") input =
      (decodeU32 input >>= fun status =>
        whenEmpty status.next "extra data in exit-status channel request"
          (.exitStatus status.value)) := by
    rw [ChannelRequestType.decode, fromUtf8_strBytes]
    rfl
  refine Exact.congr known ?_
  refine exact_bind decodeU32_stable (decodeU32_encodeU32_nil status) ?_
  exact exact_whenEmpty _ (ChannelRequestType.exitStatus status)

theorem ChannelRequest.coded_exitStatus (recipientChannel status : UInt32) (wantReply : Bool) :
    CodedExactly ChannelRequest.tryFrom
      (ChannelRequest.encode ⟨recipientChannel, .exitStatus status, wantReply⟩)
      ⟨recipientChannel, .exitStatus status, wantReply⟩ := by
  have name : (strBytes "exit-status").length < 2 ^ 32 := by decide
  simp only [ChannelRequest.encode, ChannelRequestType.name, List.append_assoc]
  refine codedExactly_of_exact rfl fun number => ?_
  unfold ChannelRequest.tryFrom
  refine exact_expect ?_
  refine exact_bind decodeU32_stable (decodeU32_encodeU32 _ _) ?_
  refine exact_bind decodeBytes_stable (decodeBytes_encodeBytes name _) ?_
  refine exact_bind decodeBool_stable (decodeBool_encodeBool _ _) ?_
  exact (ChannelRequestType.exact_exitStatus status).andThen rfl

/-- Each of these messages is read back as it was written, and from no other length of input. -/
theorem message_codecs_exact :
    (∀ disconnect : Disconnect, (strBytes disconnect.description).length < 2 ^ 32 →
      CodedExactly Disconnect.tryFrom disconnect.encode disconnect) ∧
    (∀ data : ChannelData, data.data.length < 2 ^ 32 →
      CodedExactly ChannelData.tryFrom data.encode data) ∧
    (∀ adjust : ChannelWindowAdjust,
      CodedExactly ChannelWindowAdjust.tryFrom adjust.encode adjust) ∧
    (∀ eof : ChannelEof, CodedExactly ChannelEof.tryFrom eof.encode eof) ∧
    (∀ close : ChannelClose, CodedExactly ChannelClose.tryFrom close.encode close) ∧
    ∀ (recipientChannel status : UInt32) (wantReply : Bool),
      CodedExactly ChannelRequest.tryFrom
        (ChannelRequest.encode ⟨recipientChannel, .exitStatus status, wantReply⟩)
        ⟨recipientChannel, .exitStatus status, wantReply⟩ := by
  refine ⟨?_, ?_, ChannelWindowAdjust.coded, ChannelEof.coded, ChannelClose.coded,
    ChannelRequest.coded_exitStatus⟩
  · intro disconnect short
    exact Disconnect.coded short
  · intro data short
    exact ChannelData.coded short

theorem message_codecs_exact_bye :
    CodedExactly Disconnect.tryFrom (Disconnect.encode ⟨.byApplication, "bye"⟩)
      ⟨.byApplication, "bye"⟩ ∧
    CodedExactly ChannelData.tryFrom (ChannelData.encode ⟨7, [1, 2, 3]⟩) ⟨7, [1, 2, 3]⟩ := by
  obtain ⟨disconnects, data, _⟩ := message_codecs_exact
  exact ⟨disconnects ⟨.byApplication, "bye"⟩ (by decide), data ⟨7, [1, 2, 3]⟩ (by decide)⟩

end Oxish
