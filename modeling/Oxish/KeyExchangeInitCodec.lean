import Oxish.MessageCodecs
import Oxish.Negotiation

/-!
Name lists and the message that is made of them. Names are joined by commas without any escaping,
so a list is read back when none of its names is empty or holds a comma and every typed name is
the one its text stands for.
-/

namespace Oxish

open Delimited

theorem toNat_of_mem_utf8EncodeChar {char : Char} {byte : UInt8} (ascii : byte.toNat < 128)
    (member : byte ∈ String.utf8EncodeChar char) : char.toNat = byte.toNat := by
  have high {value : Nat} (above : 128 ≤ value) (below : value < 256) :
      byte ≠ UInt8.ofNat value := by
    rintro rfl
    rw [UInt8.toNat_ofNat', Nat.mod_eq_of_lt below] at ascii
    omega
  unfold String.utf8EncodeChar at member
  dsimp only at member
  split at member
  · rename_i single
    have same := List.mem_singleton.mp member
    rw [same, UInt8.toNat_ofNat', Nat.mod_eq_of_lt (by omega)]
    rfl
  · -- every byte of a longer encoding has its first bit set
    exfalso
    split at member
    · simp only [List.mem_cons, List.not_mem_nil, or_false] at member
      rcases member with same | same
      · exact high (by omega) (by omega) same
      · exact high (by omega) (by omega) same
    · split at member
      · simp only [List.mem_cons, List.not_mem_nil, or_false] at member
        rcases member with same | same | same
        · exact high (by omega) (by omega) same
        · exact high (by omega) (by omega) same
        · exact high (by omega) (by omega) same
      · simp only [List.mem_cons, List.not_mem_nil, or_false] at member
        rcases member with same | same | same | same
        · exact high (by omega) (by omega) same
        · exact high (by omega) (by omega) same
        · exact high (by omega) (by omega) same
        · exact high (by omega) (by omega) same

theorem strBytes_eq_flatMap (text : String) :
    strBytes text = text.toList.flatMap String.utf8EncodeChar := by
  obtain ⟨chars, rfl⟩ : ∃ chars, text = String.ofList chars := ⟨text.toList, by simp⟩
  simp [strBytes, List.utf8Encode]

theorem comma_notMem_strBytes {text : String} (free : ',' ∉ text.toList) :
    comma ∉ strBytes text := by
  intro member
  rw [strBytes_eq_flatMap, List.mem_flatMap] at member
  obtain ⟨char, written, encoded⟩ := member
  have same := toNat_of_mem_utf8EncodeChar (by decide) encoded
  have char_eq : char = ',' := Char.ext (UInt32.toNat_inj.mp same)
  exact free (char_eq ▸ written)

section Names

variable {α : Type} [Named α]

def listedNames (list : Bytes) : Except ProtoError (List α) :=
  if list.isEmpty then .ok [] else typedNames (list.splitOn comma)

theorem IncomingNameList.decode_eq_ok {bytes next : Bytes} {names : List α} :
    IncomingNameList.decode bytes = .ok ⟨names, next⟩ ↔
      ∃ list, decodeBytes bytes = .ok ⟨list, next⟩ ∧ listedNames list = .ok names := by
  constructor
  · intro done
    obtain ⟨⟨len, input⟩, counted, done⟩ := Outcome.bind_eq_ok.mp done
    dsimp only at done
    split at done
    · cases done
    · rename_i list taken
      split at done
      · cases done
      · rename_i rest left
        have read : decodeBytes bytes = .ok ⟨list, rest⟩ := by
          refine Outcome.bind_ok counted ?_
          simp only [taken, left]
        split at done
        · rename_i empty
          cases done
          exact ⟨list, read, by rw [listedNames, if_pos empty]⟩
        · rename_i nonempty
          obtain ⟨values, typed, done⟩ := Outcome.bind_eq_ok.mp done
          cases done
          exact ⟨list, read, by rw [listedNames, if_neg nonempty, typed]⟩
  · rintro ⟨list, read, typed⟩
    obtain ⟨⟨len, input⟩, counted, read⟩ := Outcome.bind_eq_ok.mp read
    refine Outcome.bind_ok counted ?_
    dsimp only at read ⊢
    cases taken : upTo? input len.toNat with
    | none =>
      rw [taken] at read
      cases read
    | some value =>
      rw [taken] at read
      cases left : from? input len.toNat with
      | none =>
        dsimp only at read
        rw [left] at read
        cases read
      | some rest =>
        dsimp only at read ⊢
        rw [left] at read
        cases read
        unfold listedNames at typed
        split at typed
        · rename_i empty
          cases typed
          rw [if_pos empty]
        · rename_i nonempty
          rw [if_neg nonempty, typed, Outcome.ok_bind]

theorem IncomingNameList.decode_stable :
    Stable (Decoded.cursor (List α))
      (IncomingNameList.decode : Bytes → Except ProtoError (Decoded (List α))) := by
  rintro input ⟨names, next⟩ later done
  obtain ⟨list, read, typed⟩ := IncomingNameList.decode_eq_ok.mp done
  exact IncomingNameList.decode_eq_ok.mpr ⟨list, decodeBytes_stable _ _ later read, typed⟩

def joined (names : List α) : Bytes :=
  [comma].intercalate (names.map fun name => strBytes (Named.name name))

/-- A list that can be read back: its names stand for themselves, none is empty or holds a comma,
and together they fit the length field. -/
structure Separable (names : List α) : Prop where
  canonical : AllCanonical names
  nonempty : ∀ name ∈ names, Named.name name ≠ ""
  commaFree : ∀ name ∈ names, ',' ∉ (Named.name name).toList
  fits : (joined names).length < 2 ^ 32

instance [DecidableEq α] (names : List α) : Decidable (Separable names) :=
  decidable_of_iff ((∀ name ∈ names, Named.typed (Named.name name) = name) ∧
      (∀ name ∈ names, Named.name name ≠ "") ∧ (∀ name ∈ names, ',' ∉ (Named.name name).toList) ∧
      (joined names).length < 2 ^ 32)
    ⟨fun ⟨canonical, nonempty, commaFree, fits⟩ => ⟨canonical, nonempty, commaFree, fits⟩,
      fun separable => ⟨separable.canonical, separable.nonempty, separable.commaFree, separable.fits⟩⟩

theorem typedNames_strBytes {names : List α} (canonical : AllCanonical names) :
    typedNames (names.map fun name => strBytes (Named.name name)) = .ok names := by
  induction names with
  | nil => rfl
  | cons name names ih =>
      have first : Named.typed (Named.name name) = name := canonical name List.mem_cons_self
      have others := ih fun other member => canonical other (List.mem_cons_of_mem _ member)
      rw [List.map_cons, typedNames, fromUtf8_strBytes]
      simp only [others, Outcome.ok_bind, first]

theorem joined_ne_nil {names : List α} (some : names ≠ [])
    (nonempty : ∀ name ∈ names, Named.name name ≠ "") : joined names ≠ [] := by
  cases names with
  | nil => exact absurd rfl some
  | cons name names =>
      intro empty
      have parts : strBytes (Named.name name) = [] := by
        cases names with
        | nil => simpa [joined] using empty
        | cons other names => simp [joined] at empty
      have text := fromUtf8_strBytes (Named.name name)
      rw [parts] at text
      apply nonempty name List.mem_cons_self
      exact (Option.some.inj text).symm

theorem listedNames_joined {names : List α} (separable : Separable names) :
    listedNames (joined names) = .ok names := by
  by_cases empty : names = []
  · subst empty
    rfl
  · have some := joined_ne_nil empty separable.nonempty
    have separate : (joined names).splitOn comma =
        names.map fun name => strBytes (Named.name name) := by
      apply List.splitOn_intercalate
      · intro part member
        obtain ⟨name, written, rfl⟩ := List.mem_map.mp member
        exact comma_notMem_strBytes (separable.commaFree name written)
      · simpa using empty
    rw [listedNames, if_neg (by simpa using some), separate, typedNames_strBytes separable.canonical]

theorem IncomingNameList.decode_encode {names : List α} (separable : Separable names) (rest : Bytes) :
    IncomingNameList.decode (OutgoingNameList.encode names ++ rest) = .ok ⟨names, rest⟩ :=
  IncomingNameList.decode_eq_ok.mpr
    ⟨joined names, decodeBytes_encodeBytes separable.fits rest, listedNames_joined separable⟩

end Names

structure KeyExchangeInit.Separable (init : KeyExchangeInit) : Prop where
  keyExchangeAlgorithms : Oxish.Separable init.keyExchangeAlgorithms
  serverHostKeyAlgorithms : Oxish.Separable init.serverHostKeyAlgorithms
  encryptionAlgorithmsClientToServer : Oxish.Separable init.encryptionAlgorithmsClientToServer
  encryptionAlgorithmsServerToClient : Oxish.Separable init.encryptionAlgorithmsServerToClient
  macAlgorithmsClientToServer : Oxish.Separable init.macAlgorithmsClientToServer
  macAlgorithmsServerToClient : Oxish.Separable init.macAlgorithmsServerToClient
  compressionAlgorithmsClientToServer : Oxish.Separable init.compressionAlgorithmsClientToServer
  compressionAlgorithmsServerToClient : Oxish.Separable init.compressionAlgorithmsServerToClient
  languagesClientToServer : Oxish.Separable init.languagesClientToServer
  languagesServerToClient : Oxish.Separable init.languagesServerToClient

theorem decodeU8_cons (byte : UInt8) (rest : Bytes) :
    decodeU8 (byte :: rest) = .ok ⟨byte, rest⟩ := rfl

/-- The opening message of a key exchange is read back as it was written, list by list, and from
no other length of input. -/
theorem keyExchangeInit_codec_exact {init : KeyExchangeInit} (separable : init.Separable) :
    CodedExactly KeyExchangeInit.tryFrom init.encode init := by
  have flag : ((if init.firstKexPacketFollows then 1 else 0 : UInt8) != 0) =
      init.firstKexPacketFollows := by
    cases init.firstKexPacketFollows with
    | false => rfl
    | true => rfl
  simp only [KeyExchangeInit.encode, List.append_assoc]
  refine codedExactly_of_exact rfl fun number => ?_
  unfold KeyExchangeInit.tryFrom
  refine exact_expect ?_
  refine exact_bind (decodeArray_stable 16) (decodeArray_append init.cookie.property) ?_
  refine exact_bind IncomingNameList.decode_stable
    (IncomingNameList.decode_encode separable.keyExchangeAlgorithms _) ?_
  refine exact_bind IncomingNameList.decode_stable
    (IncomingNameList.decode_encode separable.serverHostKeyAlgorithms _) ?_
  refine exact_bind IncomingNameList.decode_stable
    (IncomingNameList.decode_encode separable.encryptionAlgorithmsClientToServer _) ?_
  refine exact_bind IncomingNameList.decode_stable
    (IncomingNameList.decode_encode separable.encryptionAlgorithmsServerToClient _) ?_
  refine exact_bind IncomingNameList.decode_stable
    (IncomingNameList.decode_encode separable.macAlgorithmsClientToServer _) ?_
  refine exact_bind IncomingNameList.decode_stable
    (IncomingNameList.decode_encode separable.macAlgorithmsServerToClient _) ?_
  refine exact_bind IncomingNameList.decode_stable
    (IncomingNameList.decode_encode separable.compressionAlgorithmsClientToServer _) ?_
  refine exact_bind IncomingNameList.decode_stable
    (IncomingNameList.decode_encode separable.compressionAlgorithmsServerToClient _) ?_
  refine exact_bind IncomingNameList.decode_stable
    (IncomingNameList.decode_encode separable.languagesClientToServer _) ?_
  refine exact_bind IncomingNameList.decode_stable
    (IncomingNameList.decode_encode separable.languagesServerToClient _) ?_
  refine exact_bind decodeU8_stable (decodeU8_cons _ _) ?_
  refine exact_bind decodeU32_stable (decodeU32_encodeU32_nil _) ?_
  simp only [flag]
  exact exact_whenEmpty _ init

theorem keyExchangeInit_codec_exact_client :
    CodedExactly KeyExchangeInit.tryFrom clientKexInit.encode clientKexInit :=
  keyExchangeInit_codec_exact
    ⟨by decide, by decide, by decide, by decide, by decide,
      by decide, by decide, by decide, by decide, by decide⟩

end Oxish
