import Oxish.AuthCore
import Oxish.Wire

/-!
Reading a line of `authorized_keys`. A line carries a blob; the reader takes the key bytes out of
it, has the provider build a key from them and keeps the blob for the comparison with what a
client offers.
-/

namespace Oxish

namespace AuthorizedKey

variable {σ ρ : Type}

def keyBytes (algorithm : PublicKeyAlgorithm) (data : Bytes) : Option Bytes :=
  match algorithm with
  | .ecdsaSha2Nistp256 => do
    let ⟨_, next⟩ ← okThen (decodeBytes data)
    let ⟨value, next⟩ ← okThen (decodeBytes next)
    if next.isEmpty then some value else none
  | .ed25519 => do
    let ⟨value, next⟩ ← okThen (decodeBytes data)
    if next.isEmpty then some value else none
  | .unknown _ => none

def handedBytes (algorithm : PublicKeyAlgorithm) (blob : Bytes) : Option Bytes := do
  let ⟨_, next⟩ ← okThen (decodeBytes blob)
  keyBytes algorithm next

def Known (algorithm : PublicKeyAlgorithm) : Prop :=
  algorithm = .ecdsaSha2Nistp256 ∨ algorithm = .ed25519

theorem okThen_eq_some {ε α : Type} {outcome : Except ε α} {value : α} :
    okThen outcome = some value ↔ outcome = .ok value := by
  cases outcome with
  | ok other => simp [okThen]
  | error cause => simp [okThen]

theorem verifyingKey_eq (algorithm : PublicKeyAlgorithm) (data : Bytes)
    (provider : CryptoProvider σ ρ) :
    verifyingKey algorithm data provider =
      (keyBytes algorithm data).bind fun value => okThen (provider.verifyingKey value algorithm) := by
  cases algorithm with
  | unknown name => rfl
  | ed25519 =>
      unfold verifyingKey keyBytes
      cases okThen (decodeBytes data) with
      | none => rfl
      | some first =>
          obtain ⟨value, next⟩ := first
          cases next with
          | nil => rfl
          | cons byte next => rfl
  | ecdsaSha2Nistp256 =>
      unfold verifyingKey keyBytes
      cases okThen (decodeBytes data) with
      | none => rfl
      | some first =>
          obtain ⟨curve, next⟩ := first
          dsimp only [Option.bind_eq_bind, Option.bind_some]
          cases okThen (decodeBytes next) with
          | none => rfl
          | some second =>
              obtain ⟨value, next⟩ := second
              cases next with
              | nil => rfl
              | cons byte next => rfl

theorem lastString_eq_some {data value : Bytes} :
    ((okThen (decodeBytes data)).bind fun decoded =>
      if decoded.next.isEmpty then some decoded.value else none) = some value ↔
      data = encodeBytes value ∧ value.length < 2 ^ 32 := by
  constructor
  · intro found
    obtain ⟨⟨read, next⟩, first, found⟩ := Option.bind_eq_some_iff.mp found
    dsimp only at found
    split at found
    · rename_i empty
      cases found
      cases List.isEmpty_iff.mp empty
      obtain ⟨whole, short⟩ := decodeBytes_ok (okThen_eq_some.mp first)
      rw [List.append_nil] at whole
      exact ⟨whole, short⟩
    · cases found
  · rintro ⟨rfl, short⟩
    rw [decodeBytes_encodeBytes_nil short]
    rfl

theorem keyBytes_ed25519 {data value : Bytes} :
    keyBytes .ed25519 data = some value ↔ data = encodeBytes value ∧ value.length < 2 ^ 32 :=
  lastString_eq_some

theorem keyBytes_ecdsa {data value : Bytes} :
    keyBytes .ecdsaSha2Nistp256 data = some value ↔
      ∃ curve next, decodeBytes data = .ok ⟨curve, next⟩ ∧ next = encodeBytes value ∧
        value.length < 2 ^ 32 := by
  constructor
  · intro found
    obtain ⟨⟨curve, next⟩, first, found⟩ := Option.bind_eq_some_iff.mp found
    exact ⟨curve, next, okThen_eq_some.mp first, lastString_eq_some.mp found⟩
  · rintro ⟨curve, next, first, last⟩
    exact Option.bind_eq_some_iff.mpr
      ⟨⟨curve, next⟩, okThen_eq_some.mpr first, lastString_eq_some.mpr last⟩

section Blobs

def ofBlob (options : KeyOptions) (algorithm : PublicKeyAlgorithm) (blob : Bytes)
    (provider : CryptoProvider σ ρ) : Option AuthorizedKey := do
  let ⟨keyType, next⟩ ← okThen (decodeBytes blob)
  if keyType ≠ strBytes (Named.name algorithm) then none
  else
    let key ← verifyingKey algorithm next provider
    some { algorithm, blob, key, options }

/-- The blob names its algorithm, and the provider builds the key from the bytes behind it. -/
structure Built (provider : CryptoProvider σ ρ) (key : AuthorizedKey) (next value : Bytes) :
    Prop where
  named : decodeBytes key.blob = .ok ⟨strBytes (Named.name key.algorithm), next⟩
  bytes : keyBytes key.algorithm next = some value
  verifies : provider.verifyingKey value key.algorithm = .ok key.key

theorem ofBlob_eq_some {options : KeyOptions} {algorithm : PublicKeyAlgorithm} {blob : Bytes}
    {provider : CryptoProvider σ ρ} {key : AuthorizedKey} :
    ofBlob options algorithm blob provider = some key ↔
      (key.options = options ∧ key.algorithm = algorithm ∧ key.blob = blob) ∧
        ∃ next value, Built provider key next value := by
  constructor
  · intro built
    obtain ⟨⟨keyType, next⟩, first, built⟩ := Option.bind_eq_some_iff.mp built
    dsimp only at built
    split at built
    · cases built
    · rename_i named
      obtain ⟨verifying, found, built⟩ := Option.bind_eq_some_iff.mp built
      cases built
      rw [verifyingKey_eq] at found
      obtain ⟨value, bytes, found⟩ := Option.bind_eq_some_iff.mp found
      have same : keyType = strBytes (Named.name algorithm) := not_not.mp named
      subst same
      exact ⟨⟨rfl, rfl, rfl⟩, next, value, okThen_eq_some.mp first, bytes, okThen_eq_some.mp found⟩
  · rintro ⟨⟨rfl, rfl, rfl⟩, next, value, built⟩
    refine Option.bind_eq_some_iff.mpr ⟨_, okThen_eq_some.mpr built.named, ?_⟩
    dsimp only
    rw [if_neg (not_not.mpr rfl)]
    refine Option.bind_eq_some_iff.mpr ⟨key.key, ?_, rfl⟩
    rw [verifyingKey_eq, built.bytes]
    exact okThen_eq_some.mpr built.verifies

variable {provider : CryptoProvider σ ρ} {key : AuthorizedKey} {next value : Bytes}

theorem Built.handed (built : Built provider key next value) :
    handedBytes key.algorithm key.blob = some value :=
  Option.bind_eq_some_iff.mpr ⟨_, okThen_eq_some.mpr built.named, built.bytes⟩

theorem Built.known (built : Built provider key next value) : Known key.algorithm := by
  have bytes := built.bytes
  unfold Known
  cases algorithm : key.algorithm with
  | ecdsaSha2Nistp256 => exact .inl rfl
  | ed25519 => exact .inr rfl
  | unknown name =>
      rw [algorithm] at bytes
      cases bytes

end Blobs

section Lines

def keyText (line : String) : List Char :=
  (trimStart (KeyOptions.parse (trim line.toList)).rest).takeWhile fun char => !whiteSpace char

/-- The line is no comment and has these options, this key type and a text for this blob. -/
structure Carries (base64 : Bytes → Option Bytes) (line : String) (options : KeyOptions)
    (algorithm : PublicKeyAlgorithm) (blob : Bytes) : Prop where
  entry : trim line.toList ≠ [] ∧ (trim line.toList).head? ≠ some '#'
  options : (KeyOptions.parse (trim line.toList)).options = options
  keyType : (KeyOptions.parse (trim line.toList)).algorithm = some algorithm
  text : keyText line ≠ []
  decoded : base64 (strBytes (String.ofList (keyText line))) = some blob

theorem fromStr_of_entry {base64 : Bytes → Option Bytes} {line : String}
    (provider : CryptoProvider σ ρ)
    (entry : trim line.toList ≠ [] ∧ (trim line.toList).head? ≠ some '#') :
    fromStr base64 line provider =
      (KeyOptions.parse (trim line.toList)).algorithm.bind fun algorithm =>
        if (keyText line).isEmpty then none
        else (base64 (strBytes (String.ofList (keyText line)))).bind fun blob =>
          ofBlob (KeyOptions.parse (trim line.toList)).options algorithm blob provider := by
  unfold fromStr
  dsimp only
  split
  · rename_i empty
    exact absurd empty entry.1
  · rename_i rest comment
    rw [comment] at entry
    exact absurd rfl entry.2
  · rfl

theorem fromStr_entry {base64 : Bytes → Option Bytes} {line : String}
    {provider : CryptoProvider σ ρ} {key : AuthorizedKey}
    (accepted : fromStr base64 line provider = some key) :
    trim line.toList ≠ [] ∧ (trim line.toList).head? ≠ some '#' := by
  unfold fromStr at accepted
  dsimp only at accepted
  split at accepted
  · cases accepted
  · cases accepted
  · rename_i nonempty uncommented
    refine ⟨nonempty, ?_⟩
    intro comment
    obtain ⟨rest, same⟩ := List.head?_eq_some_iff.mp comment
    exact uncommented rest same

theorem fromStr_of_carries {base64 : Bytes → Option Bytes} {line : String} {options : KeyOptions}
    {algorithm : PublicKeyAlgorithm} {blob : Bytes}
    (carries : Carries base64 line options algorithm blob) (provider : CryptoProvider σ ρ) :
    fromStr base64 line provider = ofBlob options algorithm blob provider := by
  rw [fromStr_of_entry provider carries.entry, carries.keyType, carries.options, carries.decoded]
  simp only [Option.bind_some]
  rw [if_neg (by simpa using carries.text)]

theorem fromStr_carries {base64 : Bytes → Option Bytes} {line : String}
    {provider : CryptoProvider σ ρ} {key : AuthorizedKey}
    (accepted : fromStr base64 line provider = some key) :
    Carries base64 line key.options key.algorithm key.blob ∧
      ∃ next value, Built provider key next value := by
  have entry := fromStr_entry accepted
  rw [fromStr_of_entry provider entry] at accepted
  obtain ⟨algorithm, keyType, accepted⟩ := Option.bind_eq_some_iff.mp accepted
  split at accepted
  · cases accepted
  · rename_i text
    obtain ⟨blob, decoded, accepted⟩ := Option.bind_eq_some_iff.mp accepted
    obtain ⟨⟨options, rfl, rfl⟩, built⟩ := ofBlob_eq_some.mp accepted
    exact ⟨⟨entry, options.symm, keyType, by simpa using text, decoded⟩, built⟩

end Lines

end AuthorizedKey

end Oxish
