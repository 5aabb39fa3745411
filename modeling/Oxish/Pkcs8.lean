import Oxish.Negotiation
import Oxish.OpenSshKey
import Oxish.Pkcs8Core

/-!
The bridge between key entries and PKCS#8 documents. Reading a document gives the parts that
writing puts around the template, without a slice that is out of range; and an entry whose scalar
was written in its shortest form is the same after a key has crossed the bridge.
-/

namespace Oxish

open Checked (Outcome)

section Slices

theorem slice_ok {bytes : Bytes} {start stop : Nat} (ordered : start ≤ stop)
    (within : stop ≤ bytes.length) : slice bytes start stop = .ok ((bytes.take stop).drop start) :=
  if_pos ⟨ordered, within⟩

theorem copyFromSlice_ok {count : Nat} {bytes : Bytes} (same : bytes.length = count) :
    copyFromSlice count bytes = .ok ⟨bytes, same⟩ := dif_pos same

theorem writeTail_zeros {bytes : Bytes} {count : Nat} (fits : bytes.length ≤ count) :
    writeTail (⟨List.replicate count 0, List.length_replicate⟩ : FixedBytes count)
        (count - bytes.length) bytes =
      .ok ⟨List.replicate (count - bytes.length) 0 ++ bytes, length_leftPadded fits⟩ := by
  have within : count - bytes.length ≤ count := by omega
  have room : bytes.length = count - (count - bytes.length) := by omega
  simp only [writeTail, dif_pos within, dif_pos room, List.take_replicate, Nat.min_eq_left within]

theorem length_slice {bytes : Bytes} {start stop : Nat} (within : stop ≤ bytes.length) :
    ((bytes.take stop).drop start).length = stop - start := by
  rw [List.length_drop, List.length_take]
  omega

theorem take_append_slice (bytes : Bytes) {start stop : Nat} (ordered : start ≤ stop) :
    bytes.take start ++ (bytes.take stop).drop start = bytes.take stop := by
  have front : (bytes.take stop).take start = bytes.take start := by
    rw [List.take_take, Nat.min_eq_left ordered]
  rw [← front, List.take_append_drop]

theorem isPrefixOf_iff_take {template bytes : Bytes} :
    template.isPrefixOf bytes = true ↔ bytes.take template.length = template := by
  rw [List.isPrefixOf_iff_prefix]
  constructor
  · rintro ⟨rest, rfl⟩
    exact List.take_left
  · intro same
    have whole := List.take_append_drop template.length bytes
    rw [same] at whole
    exact ⟨_, whole⟩

end Slices

namespace SshEcdsaKey

/-- A document that has the length and the template of a key of this kind. -/
def Pkcs8 (pkcs8 : Bytes) : Prop :=
  pkcs8.length = 138 ∧ pkcs8.take 36 = pkcs8Prefix ∧ (pkcs8.take 73).drop 68 = pkcs8Middle

theorem fromPkcs8_ok {pkcs8 : Bytes} (layout : Pkcs8 pkcs8) :
    ∃ key, fromPkcs8 pkcs8 = .ok key ∧ key.scalar.val = (pkcs8.take 68).drop 36 ∧
      key.publicKey.val = pkcs8.drop 73 := by
  obtain ⟨length, front, middle⟩ := layout
  have starts : pkcs8Prefix.isPrefixOf pkcs8 = true := isPrefixOf_iff_take.mpr front
  have scalarLength : ((pkcs8.take 68).drop 36).length = 32 := length_slice (by omega)
  have publicLength : ((pkcs8.take pkcs8.length).drop 73).length = 65 := by
    rw [length_slice (Nat.le_refl _)]
    omega
  refine ⟨⟨⟨_, scalarLength⟩, ⟨_, publicLength⟩⟩, ?_, rfl, by simp⟩
  unfold fromPkcs8
  rw [if_neg (by omega), if_neg (by simp [starts])]
  refine Outcome.bind_ok (slice_ok (by decide) (by omega)) ?_
  rw [if_neg (by simp [middle])]
  refine Outcome.bind_ok (slice_ok (by decide) (by omega)) ?_
  refine Outcome.bind_ok (copyFromSlice_ok scalarLength) ?_
  refine Outcome.bind_ok (slice_ok (by omega) (Nat.le_refl _)) ?_
  exact Outcome.bind_ok (copyFromSlice_ok publicLength) rfl

theorem fromPkcs8_bad {pkcs8 : Bytes} (other : ¬ Pkcs8 pkcs8) :
    fromPkcs8 pkcs8 = badLayout := by
  unfold fromPkcs8
  by_cases length : pkcs8.length = 138
  · rw [if_neg (by omega)]
    by_cases starts : pkcs8Prefix.isPrefixOf pkcs8 = true
    · rw [if_neg (by simp [starts])]
      have different : (pkcs8.take 73).drop 68 ≠ pkcs8Middle := by
        intro middle
        exact other ⟨length, isPrefixOf_iff_take.mp starts, middle⟩
      refine (Outcome.bind_of_ok (slice_ok (by decide) (by omega)) _).trans ?_
      rw [if_pos different]
    · rw [if_pos (Bool.eq_false_iff.mpr starts)]
  · rw [if_pos length]

theorem toPkcs8_layout (key : SshEcdsaKey) :
    Pkcs8 key.toPkcs8 ∧ (key.toPkcs8.take 68).drop 36 = key.scalar.val ∧
      key.toPkcs8.drop 73 = key.publicKey.val := by
  have template : pkcs8Prefix.length = 36 := by decide
  have middle : pkcs8Middle.length = 5 := by decide
  have scalar := key.scalar.property
  have publicKey := key.publicKey.property
  have early : (pkcs8Prefix ++ key.scalar.val).length = 68 := by
    rw [List.length_append]
    omega
  have late : (pkcs8Prefix ++ key.scalar.val ++ pkcs8Middle).length = 73 := by
    rw [List.length_append]
    omega
  refine ⟨⟨?_, ?_, ?_⟩, ?_, ?_⟩
  · rw [toPkcs8, List.length_append]
    omega
  · rw [toPkcs8, List.append_assoc, List.append_assoc, List.take_left' template]
  · rw [toPkcs8, List.take_left' late, List.drop_left' early]
  · rw [toPkcs8, List.append_assoc, List.take_left' early, List.drop_left' template]
  · rw [toPkcs8, List.drop_left' late]

theorem fromPkcs8_toPkcs8 (key : SshEcdsaKey) : fromPkcs8 key.toPkcs8 = .ok key := by
  obtain ⟨layout, scalar, publicKey⟩ := key.toPkcs8_layout
  obtain ⟨other, read, sameScalar, samePublic⟩ := fromPkcs8_ok layout
  rw [read]
  congr 1
  rw [scalar] at sameScalar
  rw [publicKey] at samePublic
  cases other
  cases key
  simp only [mk.injEq]
  exact ⟨Subtype.ext sameScalar, Subtype.ext samePublic⟩

theorem toPkcs8_of_fromPkcs8 {pkcs8 : Bytes} {key : SshEcdsaKey}
    (accepted : fromPkcs8 pkcs8 = .ok key) : key.toPkcs8 = pkcs8 := by
  by_cases layout : Pkcs8 pkcs8
  · obtain ⟨other, read, scalar, publicKey⟩ := fromPkcs8_ok layout
    cases accepted.symm.trans read
    obtain ⟨length, front, middle⟩ := layout
    rw [toPkcs8, scalar, publicKey, ← front, ← middle, take_append_slice _ (by decide),
      take_append_slice _ (by decide), List.take_append_drop]
  · rw [fromPkcs8_bad layout] at accepted
    cases accepted

theorem fromPkcs8_no_panic (pkcs8 : Bytes) (site : String) :
    fromPkcs8 pkcs8 ≠ .error (.panic site) := by
  by_cases layout : Pkcs8 pkcs8
  · obtain ⟨key, read, _⟩ := fromPkcs8_ok layout
    rw [read]
    nofun
  · rw [fromPkcs8_bad layout]
    nofun

theorem decode_ok {input next : Bytes} {key : SshEcdsaKey}
    (accepted : decode input = .ok ⟨key, next⟩) :
    ∃ curve publicKey scalar numbered rest, decodeBytes input = .ok ⟨curve, numbered⟩ ∧
      decodeBytes numbered = .ok ⟨publicKey, rest⟩ ∧ decodeBytes rest = .ok ⟨scalar, next⟩ ∧
      curve = strBytes "nistp256" ∧ key.publicKey.val = publicKey ∧
      Mpint.trim key.scalar.val = Mpint.trim scalar := by
  obtain ⟨⟨curve, numbered⟩, first, accepted⟩ := Outcome.bind_eq_ok.mp accepted
  dsimp only at accepted
  split at accepted
  · cases accepted
  · rename_i known
    obtain ⟨⟨publicKey, rest⟩, second, accepted⟩ := Outcome.bind_eq_ok.mp accepted
    obtain ⟨⟨scalar, behind⟩, third, accepted⟩ := Outcome.bind_eq_ok.mp accepted
    dsimp only at accepted second third
    split at accepted
    · cases accepted
      refine ⟨curve, publicKey, scalar, numbered, rest, first, second, third, not_not.mp known, rfl,
        ?_⟩
      exact (Mpint.trim_padded _ _).trans (Mpint.trim_trim scalar)
    · cases accepted

end SshEcdsaKey

namespace SshEd25519Key

/-- A document of the first version: the template and the seed. -/
def Pkcs8V1 (pkcs8 : Bytes) : Prop := pkcs8.length = 48 ∧ pkcs8.take 16 = pkcs8Prefix

/-- A document of the second version: another length and version in front, and the public key at
the end. -/
def Pkcs8V2 (pkcs8 publicKey : Bytes) : Prop :=
  pkcs8.length = 83 ∧ pkcs8.take 16 = [0x30, 0x51, 0x02, 0x01, 0x01] ++ pkcs8Prefix.drop 5 ∧
    (pkcs8.take 51).drop 48 = [0x81, 0x21, 0x00] ∧ pkcs8.drop 51 = publicKey

theorem pkcs8Header_v1 {pkcs8 : Bytes} (length : pkcs8.length = 48) (publicKey : Bytes) :
    pkcs8Header pkcs8 publicKey = .ok (pkcs8Prefix.take 5) := by
  rw [pkcs8Header, if_pos length]
  exact slice_ok (by decide) (by decide)

theorem pkcs8Header_v2 {pkcs8 : Bytes} (length : pkcs8.length = 83) (publicKey : Bytes) :
    pkcs8Header pkcs8 publicKey =
      if (pkcs8.take 51).drop 48 = [0x81, 0x21, 0x00] ∧ pkcs8.drop 51 = publicKey then
        .ok [0x30, 0x51, 0x02, 0x01, 0x01]
      else badLayout := by
  rw [pkcs8Header, if_neg (by omega), if_pos length]
  refine (Outcome.bind_of_ok (slice_ok (by decide) (by omega)) _).trans ?_
  by_cases tagged : (pkcs8.take 51).drop 48 = [0x81, 0x21, 0x00]
  · rw [if_neg (not_not.mpr tagged)]
    refine (Outcome.bind_of_ok (slice_ok (by omega) (Nat.le_refl _)) _).trans ?_
    rw [List.take_length]
    by_cases embedded : pkcs8.drop 51 = publicKey
    · rw [if_neg (not_not.mpr embedded), if_pos ⟨tagged, embedded⟩]
    · rw [if_pos embedded, if_neg (by simp [embedded])]
  · rw [if_pos tagged, if_neg (by simp [tagged])]

theorem take_sixteen_iff {pkcs8 header : Bytes} (long : 48 ≤ pkcs8.length)
    (five : header.length = 5) :
    pkcs8.take 16 = header ++ pkcs8Prefix.drop 5 ↔
      pkcs8.take 5 = header ∧ (pkcs8.take 16).drop 5 = pkcs8Prefix.drop 5 := by
  have front : (pkcs8.take 5).length = header.length := by
    rw [List.length_take]
    omega
  rw [← take_append_slice pkcs8 (show 5 ≤ 16 by decide)]
  constructor
  · intro same
    obtain ⟨first, second⟩ := List.append_inj same front
    rw [take_append_slice pkcs8 (by decide)]
    exact ⟨first, second⟩
  · rintro ⟨first, second⟩
    rw [take_append_slice pkcs8 (by decide)] at second
    rw [first, second]

theorem fromPkcs8_header {pkcs8 publicKey header : Bytes} (long : 48 ≤ pkcs8.length)
    (five : header.length = 5) (known : pkcs8Header pkcs8 publicKey = .ok header) :
    fromPkcs8 pkcs8 publicKey =
      if sized : publicKey.length = 32 ∧ pkcs8.take 16 = header ++ pkcs8Prefix.drop 5 then
        .ok ⟨⟨publicKey, sized.1⟩, ⟨(pkcs8.take 48).drop 16, length_slice long⟩⟩
      else badLayout := by
  have parts := take_sixteen_iff long five
  refine (Outcome.bind_of_ok known _).trans ?_
  by_cases size : publicKey.length = 32
  · rw [if_neg (not_not.mpr size)]
    refine (Outcome.bind_of_ok (slice_ok (by decide) (by omega)) _).trans ?_
    rw [List.drop_zero]
    by_cases front : pkcs8.take 5 = header
    · rw [if_neg (not_not.mpr front)]
      refine (Outcome.bind_of_ok (slice_ok (by decide) (by omega)) _).trans ?_
      refine (Outcome.bind_of_ok (slice_ok (by decide) (Nat.le_refl _)) _).trans ?_
      rw [List.take_length]
      by_cases template : (pkcs8.take 16).drop 5 = pkcs8Prefix.drop 5
      · rw [if_neg (not_not.mpr template), dif_pos ⟨size, parts.mpr ⟨front, template⟩⟩]
        refine (Outcome.bind_of_ok (copyFromSlice_ok size) _).trans ?_
        refine (Outcome.bind_of_ok (slice_ok (by decide) long) _).trans ?_
        exact Outcome.bind_of_ok (copyFromSlice_ok (length_slice long)) _
      · rw [if_pos template, dif_neg fun both => template (parts.mp both.2).2]
    · rw [if_pos front, dif_neg fun both => front (parts.mp both.2).1]
  · rw [if_pos size, dif_neg fun both => size both.1]

def Pkcs8 (pkcs8 publicKey : Bytes) : Prop :=
  publicKey.length = 32 ∧ (Pkcs8V1 pkcs8 ∨ Pkcs8V2 pkcs8 publicKey)

theorem fromPkcs8_ok {pkcs8 publicKey : Bytes} (layout : Pkcs8 pkcs8 publicKey) :
    ∃ key, fromPkcs8 pkcs8 publicKey = .ok key ∧ key.publicKey.val = publicKey ∧
      key.seed.val = (pkcs8.take 48).drop 16 := by
  obtain ⟨size, ⟨length, template⟩ | ⟨length, template, embedded⟩⟩ := layout
  · have read := fromPkcs8_header (by omega) (by decide) (pkcs8Header_v1 length publicKey)
    rw [List.take_append_drop, dif_pos ⟨size, template⟩] at read
    exact ⟨_, read, rfl, rfl⟩
  · have header := pkcs8Header_v2 length publicKey
    rw [if_pos embedded] at header
    have read := fromPkcs8_header (by omega) (by decide) header
    rw [dif_pos ⟨size, template⟩] at read
    exact ⟨_, read, rfl, rfl⟩

theorem fromPkcs8_bad {pkcs8 publicKey : Bytes} (other : ¬ Pkcs8 pkcs8 publicKey) :
    fromPkcs8 pkcs8 publicKey = badLayout := by
  by_cases first : pkcs8.length = 48
  · have read := fromPkcs8_header (by omega) (by decide) (pkcs8Header_v1 first publicKey)
    rw [List.take_append_drop] at read
    rw [read, dif_neg]
    rintro ⟨size, template⟩
    exact other ⟨size, .inl ⟨first, template⟩⟩
  · by_cases second : pkcs8.length = 83
    · have header := pkcs8Header_v2 second publicKey
      by_cases embedded : (pkcs8.take 51).drop 48 = [0x81, 0x21, 0x00] ∧ pkcs8.drop 51 = publicKey
      · rw [if_pos embedded] at header
        rw [fromPkcs8_header (by omega) (by decide) header, dif_neg]
        rintro ⟨size, template⟩
        exact other ⟨size, .inr ⟨second, template, embedded⟩⟩
      · rw [if_neg embedded] at header
        rw [fromPkcs8, header]
        rfl
    · have header : pkcs8Header pkcs8 publicKey = badLayout := by
        rw [pkcs8Header, if_neg first, if_neg second]
      rw [fromPkcs8, header]
      rfl

theorem fromPkcs8_toPkcs8 (key : SshEd25519Key) :
    fromPkcs8 key.toPkcs8 key.publicKey.val = .ok key := by
  have template : pkcs8Prefix.length = 16 := by decide
  have seed := key.seed.property
  have length : key.toPkcs8.length = 48 := by
    rw [toPkcs8, List.length_append]
    omega
  have front : key.toPkcs8.take 16 = pkcs8Prefix := List.take_left' template
  have back : key.toPkcs8.drop 16 = key.seed.val := List.drop_left' template
  have layout : Pkcs8 key.toPkcs8 key.publicKey.val :=
    ⟨key.publicKey.property, .inl ⟨length, front⟩⟩
  obtain ⟨other, read, samePublic, sameSeed⟩ := fromPkcs8_ok layout
  rw [← length, List.take_length, back] at sameSeed
  rw [read]
  congr 1
  cases other
  cases key
  simp only [mk.injEq]
  exact ⟨Subtype.ext samePublic, Subtype.ext sameSeed⟩

theorem toPkcs8_of_fromPkcs8 {pkcs8 publicKey : Bytes} {key : SshEd25519Key}
    (accepted : fromPkcs8 pkcs8 publicKey = .ok key) :
    (Pkcs8V1 pkcs8 ∧ key.toPkcs8 = pkcs8) ∨
      (Pkcs8V2 pkcs8 publicKey ∧ Pkcs8V1 key.toPkcs8 ∧
        key.toPkcs8.drop 16 = (pkcs8.take 48).drop 16) := by
  by_cases layout : Pkcs8 pkcs8 publicKey
  · obtain ⟨other, read, _, seed⟩ := fromPkcs8_ok layout
    cases accepted.symm.trans read
    obtain ⟨_, ⟨length, template⟩ | second⟩ := layout
    · refine .inl ⟨⟨length, template⟩, ?_⟩
      rw [toPkcs8, seed, ← template, take_append_slice _ (by decide), ← length, List.take_length]
    · have front : pkcs8Prefix.length = 16 := by decide
      have bytes := key.seed.property
      refine .inr ⟨second, ⟨?_, List.take_left' front⟩, ?_⟩
      · rw [toPkcs8, List.length_append]
        omega
      · rw [toPkcs8, List.drop_left' front, seed]
  · rw [fromPkcs8_bad layout] at accepted
    cases accepted

theorem fromPkcs8_no_panic (pkcs8 publicKey : Bytes) (site : String) :
    fromPkcs8 pkcs8 publicKey ≠ .error (.panic site) := by
  by_cases layout : Pkcs8 pkcs8 publicKey
  · obtain ⟨key, read, _⟩ := fromPkcs8_ok layout
    rw [read]
    nofun
  · rw [fromPkcs8_bad layout]
    nofun

theorem decode_ok {input next : Bytes} {key : SshEd25519Key}
    (accepted : decode input = .ok ⟨key, next⟩) : input = key.encode ++ next := by
  obtain ⟨⟨publicKey, middle⟩, first, accepted⟩ := Outcome.bind_eq_ok.mp accepted
  obtain ⟨⟨privateKey, rest⟩, second, accepted⟩ := Outcome.bind_eq_ok.mp accepted
  dsimp only at accepted second
  split at accepted
  · rename_i sized
    cases accepted
    have whole := List.take_append_drop 32 privateKey
    rw [sized.2.2] at whole
    have entry : encodeBytes privateKey = encodeU32 64 ++ (privateKey.take 32 ++ publicKey) := by
      rw [encodeBytes, sized.2.1, whole]
      rfl
    rw [(decodeBytes_ok first).1, (decodeBytes_ok second).1, entry]
    simp only [encode, List.append_assoc]
  · cases accepted

end SshEd25519Key

namespace SshPrivateKey

theorem throughPkcs8_eq (key : SshPrivateKey) : key.throughPkcs8 = .ok key := by
  cases key with
  | ed25519 inner =>
      change (SshEd25519Key.fromPkcs8 inner.toPkcs8 inner.publicKey.val).map _ = _
      rw [inner.fromPkcs8_toPkcs8, Outcome.map_ok]
  | ecdsaSha2Nistp256 inner =>
      change (SshEcdsaKey.fromPkcs8 inner.toPkcs8).map _ = _
      rw [inner.fromPkcs8_toPkcs8, Outcome.map_ok]

def entryScalar (input : Bytes) : Except ProtoError (Option Bytes) := do
  let ⟨keyType, next⟩ ← decodeBytes input
  if keyType = strBytes "ecdsa-sha2-nistp256" then
    let ⟨_, next⟩ ← decodeBytes next
    let ⟨_, next⟩ ← decodeBytes next
    let ⟨scalar, _⟩ ← decodeBytes next
    .ok (some scalar)
  else .ok none

theorem decode_ok {input next : Bytes} {key : SshPrivateKey}
    (accepted : decode input = .ok ⟨key, next⟩)
    (canonical : ∀ scalar, entryScalar input = .ok (some scalar) → Mpint.Canonical scalar) :
    input = key.encode ++ next := by
  obtain ⟨⟨keyType, entry⟩, typed, accepted⟩ := Outcome.bind_eq_ok.mp accepted
  obtain ⟨shape, _⟩ := decodeBytes_ok typed
  dsimp only at accepted shape
  split at accepted
  · cases accepted
  · rename_i text valid
    have bytes := strBytes_of_fromUtf8 valid
    have name : Named.name (Named.typed text : PublicKeyAlgorithm) = text :=
      LawfulNamed.name_typed text
    split at accepted
    · rename_i algorithm
      rw [algorithm] at name
      obtain ⟨⟨inner, rest⟩, read, accepted⟩ := Outcome.bind_eq_ok.mp accepted
      cases accepted
      have inside := SshEd25519Key.decode_ok read
      rw [shape, inside, encode, List.append_assoc, ← bytes, ← name]
      rfl
    · rename_i algorithm
      rw [algorithm] at name
      obtain ⟨⟨inner, rest⟩, read, accepted⟩ := Outcome.bind_eq_ok.mp accepted
      cases accepted
      obtain ⟨curve, publicKey, scalar, numbered, behind, first, second, third, rfl, rfl, same⟩ :=
        SshEcdsaKey.decode_ok read
      have scalars : entryScalar input = .ok (some scalar) := by
        refine Outcome.bind_ok typed ?_
        dsimp only
        rw [if_pos (by rw [← bytes, ← name]; rfl)]
        refine Outcome.bind_ok first ?_
        refine Outcome.bind_ok second ?_
        exact Outcome.bind_ok third rfl
      have shortest := Mpint.minimal_of_canonical (canonical scalar scalars) same.symm
      rw [shape, (decodeBytes_ok first).1, (decodeBytes_ok second).1, (decodeBytes_ok third).1,
        encode, ← bytes, ← name]
      simp only [SshEcdsaKey.encode, encodeMpint_eq, shortest, List.append_assoc]
      rfl
    · cases accepted

end SshPrivateKey

section Entries

open Faults

def ProtoError.FromFile (cause : ProtoError) : Prop :=
  cause.FromWire ∨ ∃ message, cause = .invalidHostKey message

abbrev SoundEntry {α : Type} (checked : Outcome α) (plain : Except ProtoError α) : Prop :=
  Agrees ProtoError.FromFile Stop.error checked plain

theorem decodeBytes_soundEntry (bytes : Bytes) :
    SoundEntry (Checked.decodeBytes bytes) (decodeBytes bytes) :=
  (decodeBytes_sound bytes).mono fun _ => .inl

theorem invalidHostKey_soundEntry {α : Type} (message : String) :
    SoundEntry (.error (.error (.invalidHostKey message)) : Outcome α)
      (.error (.invalidHostKey message)) := .error (.inr ⟨message, rfl⟩)

theorem SshEcdsaKey.decode_sound (input : Bytes) :
    SoundEntry (Checked.SshEcdsaKey.decode input) (SshEcdsaKey.decode input) := by
  refine (decodeBytes_soundEntry input).bind fun curve _ => ?_
  refine .ite (invalidHostKey_soundEntry _) ?_
  refine (decodeBytes_soundEntry _).bind fun publicKey _ => ?_
  refine (decodeBytes_soundEntry _).bind fun scalar _ => ?_
  dsimp only
  by_cases sized : publicKey.value.length = 65 ∧ scalar.value.dropWhile (· == 0) ≠ [] ∧
      (scalar.value.dropWhile (· == 0)).length ≤ 32
  · rw [if_pos sized, dif_pos sized, sub_ok sized.2.2]
    simp only [Outcome.ok_bind, writeTail_zeros sized.2.2, copyFromSlice_ok sized.1]
    exact .ok _
  · rw [if_neg sized, dif_neg sized]
    exact invalidHostKey_soundEntry _

theorem SshEd25519Key.decode_sound (input : Bytes) :
    SoundEntry (Checked.SshEd25519Key.decode input) (SshEd25519Key.decode input) := by
  refine (decodeBytes_soundEntry input).bind fun publicKey _ => ?_
  refine (decodeBytes_soundEntry _).bind fun privateKey _ => ?_
  dsimp only
  by_cases sized : publicKey.value.length = 32 ∧ privateKey.value.length = 64
  · have seed : ((privateKey.value.take 32).drop 0).length = 32 := length_slice (by omega)
    rw [if_pos sized, slice_ok (by omega) (Nat.le_refl _), List.take_length]
    simp only [Outcome.ok_bind]
    by_cases embedded : privateKey.value.drop 32 = publicKey.value
    · rw [if_pos embedded, dif_pos ⟨sized.1, sized.2, embedded⟩, copyFromSlice_ok sized.1]
      simp only [Outcome.ok_bind]
      rw [slice_ok (by decide) (by omega)]
      simp only [Outcome.ok_bind]
      rw [copyFromSlice_ok seed]
      exact .ok _
    · rw [if_neg embedded, dif_neg fun all => embedded all.2.2]
      exact invalidHostKey_soundEntry _
  · rw [if_neg sized, dif_neg fun all => sized ⟨all.1, all.2.1⟩]
    exact invalidHostKey_soundEntry _

theorem SshPrivateKey.decode_sound (input : Bytes) :
    SoundEntry (Checked.SshPrivateKey.decode input) (SshPrivateKey.decode input) := by
  refine (decodeBytes_soundEntry input).bind fun keyType _ => ?_
  dsimp only
  cases fromUtf8 keyType.value with
  | none => exact invalidHostKey_soundEntry _
  | some text =>
      dsimp only
      cases (Named.typed text : PublicKeyAlgorithm) with
      | ed25519 => exact (SshEd25519Key.decode_sound _).bind fun _ _ => .ok _
      | ecdsaSha2Nistp256 => exact (SshEcdsaKey.decode_sound _).bind fun _ _ => .ok _
      | unknown name => exact invalidHostKey_soundEntry _

theorem SshPrivateKey.decode_no_panic (input : Bytes) (site : String) :
    Checked.SshPrivateKey.decode input ≠ .error (.panic site) := by
  intro panicked
  obtain ⟨_, fault, _⟩ := (SshPrivateKey.decode_sound input).stopped panicked
  cases fault

end Entries

/-- An entry whose number is canonical is encoded again to the same bytes after its key has been
written to a document and read from it; an accepted document is written again as it was, in the
first version; and no slice of a document is out of range. -/
theorem pkcs8_bridge :
    (∀ (input next : Bytes) (key : SshPrivateKey),
      Checked.SshPrivateKey.decode input = .ok ⟨key, next⟩ →
      (∀ scalar, SshPrivateKey.entryScalar input = .ok (some scalar) → Mpint.Canonical scalar) →
      ∃ entry rebuilt, input = entry ++ next ∧ key.throughPkcs8 = .ok rebuilt ∧
        rebuilt.encode = entry) ∧
    (∀ (pkcs8 : Bytes) (key : SshEcdsaKey),
      SshEcdsaKey.fromPkcs8 pkcs8 = .ok key → key.toPkcs8 = pkcs8) ∧
    (∀ (pkcs8 publicKey : Bytes) (key : SshEd25519Key),
      SshEd25519Key.fromPkcs8 pkcs8 publicKey = .ok key →
      (SshEd25519Key.Pkcs8V1 pkcs8 ∧ key.toPkcs8 = pkcs8) ∨
        (SshEd25519Key.Pkcs8V2 pkcs8 publicKey ∧ SshEd25519Key.Pkcs8V1 key.toPkcs8 ∧
          key.toPkcs8.drop 16 = (pkcs8.take 48).drop 16)) ∧
    (∀ (input : Bytes) (site : String),
      Checked.SshPrivateKey.decode input ≠ .error (.panic site)) ∧
    (∀ (pkcs8 : Bytes) (site : String), SshEcdsaKey.fromPkcs8 pkcs8 ≠ .error (.panic site)) ∧
    ∀ (pkcs8 publicKey : Bytes) (site : String),
      SshEd25519Key.fromPkcs8 pkcs8 publicKey ≠ .error (.panic site) := by
  refine ⟨?_, ?_, ?_, SshPrivateKey.decode_no_panic, SshEcdsaKey.fromPkcs8_no_panic,
    SshEd25519Key.fromPkcs8_no_panic⟩
  · intro input next key accepted canonical
    have plain := (SshPrivateKey.decode_sound input).accepted accepted
    exact ⟨key.encode, key, SshPrivateKey.decode_ok plain canonical, key.throughPkcs8_eq, rfl⟩
  · intro pkcs8 key accepted
    exact SshEcdsaKey.toPkcs8_of_fromPkcs8 accepted
  · intro pkcs8 publicKey key accepted
    exact SshEd25519Key.toPkcs8_of_fromPkcs8 accepted

def highScalarKey : SshPrivateKey :=
  .ecdsaSha2Nistp256 {
    scalar := ⟨200 :: List.replicate 31 1, by decide⟩
    publicKey := ⟨4 :: List.replicate 64 9, by decide⟩ }

theorem pkcs8_bridge_high :
    (∃ entry rebuilt, highScalarKey.encode ++ [1] = entry ++ [1] ∧
      highScalarKey.throughPkcs8 = .ok rebuilt ∧ rebuilt.encode = entry) ∧
    SshEcdsaKey.toPkcs8 ⟨⟨200 :: List.replicate 31 1, by decide⟩,
        ⟨4 :: List.replicate 64 9, by decide⟩⟩ = highScalarKey.toPkcs8 := by
  have accepted : Checked.SshPrivateKey.decode (highScalarKey.encode ++ [1]) =
      .ok ⟨highScalarKey, [1]⟩ := by decide +kernel
  have scalars : SshPrivateKey.entryScalar (highScalarKey.encode ++ [1]) =
      .ok (some (0 :: 200 :: List.replicate 31 1)) := by decide +kernel
  obtain ⟨entries, documents, _⟩ := pkcs8_bridge
  refine ⟨entries _ _ _ accepted fun scalar found => ?_, documents _ _ (by decide +kernel)⟩
  cases scalars.symm.trans found
  exact ⟨rfl, rfl⟩

end Oxish
