import Oxish.KeyExchangeInitCodec
import Oxish.Lib.Separated

/-!
Name lists as they come in. The decoder cuts the bytes at the commas and checks each piece on its
own; since a comma is never a part of another character, this accepts the lists whose bytes are
UTF-8 as a whole. Every name keeps its text, so an accepted list is encoded as it was read.
-/

namespace Oxish

inductive NamedType
  | methodName
  | serviceName
  | extensionName
  | channelType
  | keyExchangeAlgorithmOrExtensionId
  | keyExchangeAlgorithm
  | extensionId
  | publicKeyAlgorithm
  | encryptionAlgorithm
  | macAlgorithm
  | compressionAlgorithm
  | language
  deriving DecidableEq, Repr

namespace NamedType

def Value : NamedType → Type
  | methodName => MethodName
  | serviceName => ServiceName
  | extensionName => ExtensionName
  | channelType => ChannelType
  | keyExchangeAlgorithmOrExtensionId => KeyExchangeAlgorithmOrExtensionId
  | keyExchangeAlgorithm => KeyExchangeAlgorithm
  | extensionId => ExtensionId
  | publicKeyAlgorithm => PublicKeyAlgorithm
  | encryptionAlgorithm => EncryptionAlgorithm
  | macAlgorithm => MacAlgorithm
  | compressionAlgorithm => CompressionAlgorithm
  | language => Language

instance named : (kind : NamedType) → Named kind.Value
  | methodName => inferInstanceAs (Named MethodName)
  | serviceName => inferInstanceAs (Named ServiceName)
  | extensionName => inferInstanceAs (Named ExtensionName)
  | channelType => inferInstanceAs (Named ChannelType)
  | keyExchangeAlgorithmOrExtensionId => inferInstanceAs (Named KeyExchangeAlgorithmOrExtensionId)
  | keyExchangeAlgorithm => inferInstanceAs (Named KeyExchangeAlgorithm)
  | extensionId => inferInstanceAs (Named ExtensionId)
  | publicKeyAlgorithm => inferInstanceAs (Named PublicKeyAlgorithm)
  | encryptionAlgorithm => inferInstanceAs (Named EncryptionAlgorithm)
  | macAlgorithm => inferInstanceAs (Named MacAlgorithm)
  | compressionAlgorithm => inferInstanceAs (Named CompressionAlgorithm)
  | language => inferInstanceAs (Named Language)

instance lawful : (kind : NamedType) → LawfulNamed kind.Value
  | methodName => inferInstanceAs (LawfulNamed MethodName)
  | serviceName => inferInstanceAs (LawfulNamed ServiceName)
  | extensionName => inferInstanceAs (LawfulNamed ExtensionName)
  | channelType => inferInstanceAs (LawfulNamed ChannelType)
  | keyExchangeAlgorithmOrExtensionId =>
    inferInstanceAs (LawfulNamed KeyExchangeAlgorithmOrExtensionId)
  | keyExchangeAlgorithm => inferInstanceAs (LawfulNamed KeyExchangeAlgorithm)
  | extensionId => inferInstanceAs (LawfulNamed ExtensionId)
  | publicKeyAlgorithm => inferInstanceAs (LawfulNamed PublicKeyAlgorithm)
  | encryptionAlgorithm => inferInstanceAs (LawfulNamed EncryptionAlgorithm)
  | macAlgorithm => inferInstanceAs (LawfulNamed MacAlgorithm)
  | compressionAlgorithm => inferInstanceAs (LawfulNamed CompressionAlgorithm)
  | language => inferInstanceAs (LawfulNamed Language)

end NamedType

def Utf8 (bytes : Bytes) : Prop := (fromUtf8 bytes).isSome

theorem utf8_iff_chars {bytes : Bytes} :
    Utf8 bytes ↔ ∃ chars : List Char, chars.flatMap String.utf8EncodeChar = bytes := by
  constructor
  · intro valid
    obtain ⟨text, read⟩ := Option.isSome_iff_exists.mp valid
    refine ⟨text.toList, ?_⟩
    rw [← strBytes_eq_flatMap, strBytes_of_fromUtf8 read]
  · rintro ⟨chars, rfl⟩
    have read := fromUtf8_strBytes (String.ofList chars)
    rw [strBytes_eq_flatMap, String.toList_ofList] at read
    rw [Utf8, read]
    rfl

theorem comma_marks : Separated.Marks String.utf8EncodeChar ',' comma where
  written := by decide
  free := by
    intro char other member
    have same := toNat_of_mem_utf8EncodeChar (by decide) member
    exact other (Char.ext (UInt32.toNat_inj.mp same))

/-- Cutting at commas neither breaks a character nor hides a byte that belongs to none. -/
theorem utf8_splitOn_comma (content : Bytes) :
    Utf8 content ↔ ∀ piece ∈ content.splitOn comma, Utf8 piece := by
  simp only [utf8_iff_chars]
  exact Separated.exists_flatMap_iff comma_marks content

section Names

variable {α : Type} [Named α]

theorem typedNames_accepts {pieces : List Bytes} :
    (∃ names : List α, typedNames pieces = .ok names) ↔ ∀ piece ∈ pieces, Utf8 piece := by
  induction pieces with
  | nil => simp [typedNames]
  | cons piece pieces ih =>
      rw [List.forall_mem_cons, ← ih]
      cases read : fromUtf8 piece with
      | none => simp [typedNames, read, Utf8]
      | some text =>
          constructor
          · rintro ⟨names, typed⟩
            rw [typedNames, read] at typed
            obtain ⟨rest, others, _⟩ := Outcome.bind_eq_ok.mp typed
            exact ⟨by rw [Utf8, read]; rfl, rest, others⟩
          · rintro ⟨_, rest, others⟩
            refine ⟨Named.typed text :: rest, ?_⟩
            rw [typedNames, read]
            exact Outcome.bind_ok others rfl

theorem typedNames_texts [LawfulNamed α] {pieces : List Bytes} {names : List α}
    (typed : typedNames pieces = .ok names) :
    names.map (fun name => strBytes (Named.name name)) = pieces := by
  induction pieces generalizing names with
  | nil =>
      cases typed
      rfl
  | cons piece pieces ih =>
      cases read : fromUtf8 piece with
      | none =>
          rw [typedNames, read] at typed
          cases typed
      | some text =>
          rw [typedNames, read] at typed
          obtain ⟨rest, others, typed⟩ := Outcome.bind_eq_ok.mp typed
          cases typed
          rw [List.map_cons, ih others, LawfulNamed.name_typed, strBytes_of_fromUtf8 read]

theorem listedNames_accepts (list : Bytes) :
    (∃ names : List α, listedNames list = .ok names) ↔ Utf8 list := by
  unfold listedNames
  by_cases empty : list.isEmpty = true
  · cases List.isEmpty_iff.mp empty
    exact iff_of_true ⟨[], rfl⟩ (utf8_iff_chars.mpr ⟨[], rfl⟩)
  · rw [if_neg empty, typedNames_accepts, utf8_splitOn_comma]

theorem joined_listedNames [LawfulNamed α] {list : Bytes} {names : List α}
    (listed : listedNames list = .ok names) : joined names = list := by
  unfold listedNames at listed
  by_cases empty : list.isEmpty = true
  · cases List.isEmpty_iff.mp empty
    cases listed
    rfl
  · rw [if_neg empty] at listed
    rw [joined, typedNames_texts listed, List.intercalate_splitOn]

theorem IncomingNameList.encode_decode [LawfulNamed α] {bytes next : Bytes} {names : List α}
    (done : IncomingNameList.decode bytes = .ok ⟨names, next⟩) :
    bytes = OutgoingNameList.encode names ++ next := by
  obtain ⟨list, read, listed⟩ := IncomingNameList.decode_eq_ok.mp done
  change bytes = encodeBytes (joined names) ++ next
  rw [joined_listedNames listed]
  exact (decodeBytes_ok read).1

theorem IncomingNameList.decode_accepts {content : Bytes} (short : content.length < 2 ^ 32)
    (rest : Bytes) :
    (∃ decoded : Decoded (List α),
      IncomingNameList.decode (encodeBytes content ++ rest) = .ok decoded) ↔ Utf8 content := by
  have read := decodeBytes_encodeBytes short rest
  rw [← listedNames_accepts (α := α)]
  constructor
  · rintro ⟨⟨names, next⟩, done⟩
    obtain ⟨list, again, listed⟩ := IncomingNameList.decode_eq_ok.mp done
    rw [read] at again
    cases again
    exact ⟨names, listed⟩
  · rintro ⟨names, listed⟩
    exact ⟨⟨names, rest⟩, IncomingNameList.decode_eq_ok.mpr ⟨content, read, listed⟩⟩

end Names

/-- At every type of names: an accepted list is encoded as the bytes it was read from, and a
complete list is accepted when its bytes are UTF-8, whole or piece by piece. -/
theorem nameLists_exact (kind : NamedType) :
    (∀ (bytes next : Bytes) (names : List kind.Value),
      IncomingNameList.decode bytes = .ok ⟨names, next⟩ →
      bytes = OutgoingNameList.encode names ++ next) ∧
    (∀ content rest : Bytes, content.length < 2 ^ 32 →
      ((∃ decoded : Decoded (List kind.Value),
        IncomingNameList.decode (encodeBytes content ++ rest) = .ok decoded) ↔ Utf8 content)) ∧
    ∀ content : Bytes, Utf8 content ↔ ∀ piece ∈ content.splitOn comma, Utf8 piece := by
  refine ⟨?_, ?_, utf8_splitOn_comma⟩
  · intro bytes next names done
    exact IncomingNameList.encode_decode done
  · intro content rest short
    exact IncomingNameList.decode_accepts short rest

def commaNames : List KeyExchangeAlgorithmOrExtensionId :=
  [.keyExchange (.unknown ""), .keyExchange .curve25519Sha256, .keyExchange (.unknown ""),
    .extension .extInfoC, .keyExchange (.unknown "")]

theorem nameLists_exact_commas :
    encodeBytes (strBytes ",curve25519-sha256,,ext-info-c,") ++ [9] =
      OutgoingNameList.encode commaNames ++ [9] ∧
    ((∃ decoded : Decoded (List Language),
      IncomingNameList.decode (encodeBytes [44, 0xC3] ++ []) = .ok decoded) ↔ Utf8 [44, 0xC3]) := by
  have read : IncomingNameList.decode
      (encodeBytes (strBytes ",curve25519-sha256,,ext-info-c,") ++ [9]) = .ok ⟨commaNames, [9]⟩ := by
    decide
  exact ⟨(nameLists_exact .keyExchangeAlgorithmOrExtensionId).1 _ _ _ read,
    (nameLists_exact .language).2.1 _ _ (by decide)⟩

end Oxish
