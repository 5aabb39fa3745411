import Oxish.IoCore
import Oxish.Lib.Outcome

/-!
Round trips of the wire primitives: a decoder applied to an encoding followed by more input
returns the encoded value and leaves that input.
-/

namespace Oxish

theorem raise_eq_ok {ε α : Type} {outcome : Except ε α} {value : α} :
    raise outcome = .ok value ↔ outcome = .ok value := by
  cases outcome with
  | ok other => simp [raise]
  | error cause => simp [raise]

theorem upTo_append {head rest : Bytes} {count : Nat} (length : head.length = count) :
    upTo? (head ++ rest) count = some head := by
  subst length
  simp [upTo?]

theorem from_append {head rest : Bytes} {count : Nat} (length : head.length = count) :
    from? (head ++ rest) count = some rest := by
  subst length
  simp [from?]

theorem splitAtChecked_append {head rest : Bytes} {count : Nat} (length : head.length = count) :
    splitAtChecked (head ++ rest) count = some (head, rest) := by
  subst length
  simp [splitAtChecked]

theorem splitFirstChunk_append {head rest : Bytes} {count : Nat} (length : head.length = count) :
    splitFirstChunk count (head ++ rest) = some (⟨head, length⟩, rest) := by
  subst length
  simp [splitFirstChunk]

theorem decodeArray_append {head rest : Bytes} {count : Nat} (length : head.length = count) :
    decodeArray count (head ++ rest) = .ok ⟨⟨head, length⟩, rest⟩ := by
  subst length
  simp [decodeArray]

theorem MessageType.toByte_ofByte (value : UInt8) : (MessageType.ofByte value).toByte = value := by
  unfold MessageType.ofByte
  split
  all_goals rfl

@[simp] theorem length_encodeU32 (value : UInt32) : (encodeU32 value).length = 4 := by
  simp [encodeU32]

@[simp] theorem length_encodeU64 (value : UInt64) : (encodeU64 value).length = 8 := by
  simp [encodeU64]

@[simp] theorem length_encodeBytes (bytes : Bytes) :
    (encodeBytes bytes).length = 4 + bytes.length := by
  simp [encodeBytes]

theorem decodeU32_encodeU32 (value : UInt32) (rest : Bytes) :
    decodeU32 (encodeU32 value ++ rest) = .ok ⟨value, rest⟩ := by
  have bound : value.toNat < 256 ^ 4 := value.toNat_lt
  rw [decodeU32, decodeArray_append (length_encodeU32 value), Outcome.map_ok]
  simp only [encodeU32, BigEndian.decode_encode_of_lt bound, UInt32.ofNat_toNat]

theorem decodeU64_encodeU64 (value : UInt64) (rest : Bytes) :
    decodeU64 (encodeU64 value ++ rest) = .ok ⟨value, rest⟩ := by
  have bound : value.toNat < 256 ^ 8 := value.toNat_lt
  rw [decodeU64, decodeArray_append (length_encodeU64 value), Outcome.map_ok]
  simp only [encodeU64, BigEndian.decode_encode_of_lt bound, UInt64.ofNat_toNat]

theorem decodeBool_encodeBool (value : Bool) (rest : Bytes) :
    decodeBool (encodeBool value ++ rest) = .ok ⟨value, rest⟩ := by
  have length : (encodeBool value).length = 1 := rfl
  rw [decodeBool, decodeArray_append length, Outcome.map_ok]
  cases value with
  | false => rfl
  | true => rfl

theorem toNat_ofNat_of_lt {count : Nat} (bound : count < 2 ^ 32) :
    (UInt32.ofNat count).toNat = count := by
  rw [UInt32.toNat_ofNat', Nat.mod_eq_of_lt bound]

theorem decodeBytes_encodeBytes {bytes : Bytes} (bound : bytes.length < 2 ^ 32) (rest : Bytes) :
    decodeBytes (encodeBytes bytes ++ rest) = .ok ⟨bytes, rest⟩ := by
  simp only [decodeBytes, encodeBytes, List.append_assoc, decodeU32_encodeU32, Outcome.ok_bind,
    toNat_ofNat_of_lt bound]
  rw [upTo_append rfl, from_append rfl]

theorem decodeU32_encodeU32_nil (value : UInt32) :
    decodeU32 (encodeU32 value) = .ok ⟨value, []⟩ := by
  simpa using decodeU32_encodeU32 value []

theorem decodeBytes_encodeBytes_nil {bytes : Bytes} (bound : bytes.length < 2 ^ 32) :
    decodeBytes (encodeBytes bytes) = .ok ⟨bytes, []⟩ := by
  simpa using decodeBytes_encodeBytes bound []

theorem upTo_eq_some {bytes head : Bytes} {count : Nat} :
    upTo? bytes count = some head ↔ ∃ rest, bytes = head ++ rest ∧ head.length = count := by
  constructor
  · intro found
    simp only [upTo?] at found
    split at found
    · rename_i bound
      cases found
      exact ⟨bytes.drop count, (List.take_append_drop count bytes).symm, by simp [bound]⟩
    · cases found
  · rintro ⟨rest, rfl, length⟩
    exact upTo_append length

theorem decodeU32_ok {bytes : Bytes} {decoded : Decoded UInt32}
    (accepted : decodeU32 bytes = .ok decoded) :
    bytes = encodeU32 decoded.value ++ decoded.next := by
  simp only [decodeU32, decodeArray] at accepted
  split at accepted
  · rename_i bound
    rw [Outcome.map_ok] at accepted
    cases accepted
    have width : (bytes.take 4).length = 4 := by simp [bound]
    have small := BigEndian.decode_lt (bytes.take 4)
    rw [width] at small
    rw [encodeU32, toNat_ofNat_of_lt small, BigEndian.encode_decode width, List.take_append_drop]
  · cases accepted

theorem decodeBytes_ok {bytes : Bytes} {decoded : Decoded Bytes}
    (accepted : decodeBytes bytes = .ok decoded) :
    bytes = encodeBytes decoded.value ++ decoded.next ∧ decoded.value.length < 2 ^ 32 := by
  unfold decodeBytes at accepted
  obtain ⟨len, counted, accepted⟩ := Outcome.bind_eq_ok.mp accepted
  split at accepted
  · cases accepted
  · rename_i value taken
    obtain ⟨rest, split, length⟩ := upTo_eq_some.mp taken
    rw [split, from_append length] at accepted
    cases accepted
    refine ⟨?_, length ▸ len.value.toNat_lt⟩
    rw [encodeBytes, length, UInt32.ofNat_toNat, List.append_assoc, ← split]
    exact decodeU32_ok counted

theorem decodeBytes_whole {bytes value : Bytes}
    (done : decodeBytes (encodeBytes bytes) = .ok ⟨value, []⟩) :
    bytes = value ∧ bytes.length < 2 ^ 32 := by
  obtain ⟨split, short⟩ := decodeBytes_ok done
  simp only [List.append_nil] at split short
  have same : bytes = value := by
    have tails := congrArg (List.drop 4) split
    simpa only [encodeBytes, List.drop_left' (length_encodeU32 _)] using tails
  exact ⟨same, same ▸ short⟩

/-- What stands behind a byte string with a length field cannot be taken for a part of it. -/
theorem encodeBytes_append_inj {left right leftRest rightRest : Bytes}
    (leftFits : left.length < 2 ^ 32) (rightFits : right.length < 2 ^ 32) :
    encodeBytes left ++ leftRest = encodeBytes right ++ rightRest ↔
      left = right ∧ leftRest = rightRest := by
  constructor
  · intro same
    have read := decodeBytes_encodeBytes leftFits leftRest
    rw [same, decodeBytes_encodeBytes rightFits] at read
    cases read
    exact ⟨rfl, rfl⟩
  · rintro ⟨rfl, rfl⟩
    rfl

theorem encodeBytes_inj {left right : Bytes} (leftFits : left.length < 2 ^ 32)
    (rightFits : right.length < 2 ^ 32) : encodeBytes left = encodeBytes right ↔ left = right := by
  have both : encodeBytes left ++ [] = encodeBytes right ++ [] ↔ left = right ∧ [] = [] :=
    encodeBytes_append_inj leftFits rightFits
  simpa using both

section Text

theorem fromUtf8_strBytes (text : String) : fromUtf8 (strBytes text) = some text := by
  have same : (⟨(strBytes text).toArray⟩ : ByteArray) = text.toUTF8 := by simp [strBytes]
  have valid : text.toUTF8.IsValidUTF8 := text.isValidUTF8
  rw [fromUtf8, same, String.fromUTF8?, dif_pos valid]
  rfl

theorem strBytes_of_fromUtf8 {bytes : Bytes} {text : String} (valid : fromUtf8 bytes = some text) :
    strBytes text = bytes := by
  unfold fromUtf8 String.fromUTF8? at valid
  split at valid
  · cases valid
    rfl
  · cases valid

def asciiText (bytes : Bytes) : String := String.ofList (bytes.map fun byte => Char.ofNat byte.toNat)

theorem utf8EncodeChar_ascii {code : Nat} (ascii : code < 128) :
    String.utf8EncodeChar (Char.ofNat code) = [UInt8.ofNat code] := by
  revert code
  decide

theorem strBytes_asciiText {bytes : Bytes} (ascii : ∀ byte ∈ bytes, byte.toNat < 128) :
    strBytes (asciiText bytes) = bytes := by
  have encoded : strBytes (asciiText bytes) =
      (bytes.map fun byte => Char.ofNat byte.toNat).flatMap String.utf8EncodeChar := by
    simp [strBytes, asciiText, List.utf8Encode]
  rw [encoded]
  clear encoded
  induction bytes with
  | nil => rfl
  | cons byte bytes ih =>
      rw [List.map_cons, List.flatMap_cons, utf8EncodeChar_ascii (ascii byte List.mem_cons_self),
        ih fun other member => ascii other (List.mem_cons_of_mem _ member), UInt8.ofNat_toNat]
      rfl

theorem fromUtf8_ascii {bytes : Bytes} (ascii : ∀ byte ∈ bytes, byte.toNat < 128) :
    fromUtf8 bytes = some (asciiText bytes) := by
  have back := fromUtf8_strBytes (asciiText bytes)
  rwa [strBytes_asciiText ascii] at back

end Text

theorem PacketLength.decode_encode (length : PacketLength) (rest : Bytes) :
    PacketLength.decode (encodeU32 length.value ++ rest) = .ok ⟨length, rest⟩ := by
  simp only [PacketLength.decode, decodeU32_encodeU32, Outcome.ok_bind, dif_pos length.bounded]

theorem IncomingPacket.expect_wrong {packet : IncomingPacket} {expected : MessageType}
    (wrong : packet.messageType ≠ expected) :
    packet.expect [expected] = .error (.unexpectedMessage packet.messageType [expected]) := by
  simp only [IncomingPacket.expect, List.contains_cons, List.contains_nil, Bool.or_false,
    beq_iff_eq, wrong, ↓reduceIte]

end Oxish
