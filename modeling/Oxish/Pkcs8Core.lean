import Oxish.CheckedCore
import Oxish.OpenSshKeyCore

/-!
Private keys as PKCS#8 documents. A document is a fixed template around the secret; it is written
by appending the parts and read by comparing slices, each of which panics when it is out of range.
-/

namespace Oxish

open Checked (Outcome outOfRange lengthMismatch)

/-- `bytes[start..stop]`. -/
def slice (bytes : Bytes) (start stop : Nat) : Outcome Bytes :=
  if start ≤ stop ∧ stop ≤ bytes.length then .ok ((bytes.take stop).drop start)
  else .error outOfRange

/-- `copy_from_slice` into an array. -/
def copyFromSlice (count : Nat) (bytes : Bytes) : Outcome (FixedBytes count) :=
  if same : bytes.length = count then .ok ⟨bytes, same⟩ else .error lengthMismatch

/-- `array[offset..].copy_from_slice(bytes)`. -/
def writeTail {count : Nat} (array : FixedBytes count) (offset : Nat) (bytes : Bytes) :
    Outcome (FixedBytes count) :=
  if within : offset ≤ count then
    if same : bytes.length = count - offset then
      .ok ⟨array.val.take offset ++ bytes, by
        rw [List.length_append, List.length_take, array.property]
        omega⟩
    else .error lengthMismatch
  else .error outOfRange

namespace SshEcdsaKey

def pkcs8Prefix : Bytes := [
  0x30, 0x81, 0x87, 0x02, 0x01, 0x00, 0x30, 0x13, 0x06, 0x07, 0x2a, 0x86, 0x48, 0xce, 0x3d,
  0x02, 0x01, 0x06, 0x08, 0x2a, 0x86, 0x48, 0xce, 0x3d, 0x03, 0x01, 0x07, 0x04, 0x6d, 0x30,
  0x6b, 0x02, 0x01, 0x01, 0x04, 0x20]

def pkcs8Middle : Bytes := [0xa1, 0x44, 0x03, 0x42, 0x00]

def badLayout {α : Type} : Outcome α :=
  .error (.error (.invalidHostKey "unexpected p256 pkcs8 layout"))

def fromPkcs8 (pkcs8 : Bytes) : Outcome SshEcdsaKey :=
  if pkcs8.length ≠ 138 then badLayout
  else if pkcs8Prefix.isPrefixOf pkcs8 = false then badLayout
  else do
    let middle ← slice pkcs8 68 73
    if middle ≠ pkcs8Middle then badLayout
    else
      let scalar ← slice pkcs8 36 68
      let scalar ← copyFromSlice 32 scalar
      let publicKey ← slice pkcs8 73 pkcs8.length
      let publicKey ← copyFromSlice 65 publicKey
      .ok { scalar, publicKey }

def toPkcs8 (key : SshEcdsaKey) : Bytes :=
  pkcs8Prefix ++ key.scalar.val ++ pkcs8Middle ++ key.publicKey.val

end SshEcdsaKey

namespace SshEd25519Key

def pkcs8Prefix : Bytes := [
  0x30, 0x2e, 0x02, 0x01, 0x00, 0x30, 0x05, 0x06, 0x03, 0x2b, 0x65, 0x70, 0x04, 0x22, 0x04,
  0x20]

def badLayout {α : Type} : Outcome α :=
  .error (.error (.invalidHostKey "unexpected ed25519 pkcs8 layout"))

/-- The first bytes that a document of this length must have. The longer layout ends with the
public key. -/
def pkcs8Header (pkcs8 publicKey : Bytes) : Outcome Bytes :=
  if pkcs8.length = 48 then slice pkcs8Prefix 0 5
  else if pkcs8.length = 83 then do
    let tag ← slice pkcs8 48 51
    if tag ≠ [0x81, 0x21, 0x00] then badLayout
    else
      let embedded ← slice pkcs8 51 pkcs8.length
      if embedded ≠ publicKey then badLayout else .ok [0x30, 0x51, 0x02, 0x01, 0x01]
  else badLayout

def fromPkcs8 (pkcs8 publicKey : Bytes) : Outcome SshEd25519Key := do
  let header ← pkcs8Header pkcs8 publicKey
  if publicKey.length ≠ 32 then badLayout
  else
    let front ← slice pkcs8 0 5
    if front ≠ header then badLayout
    else
      let template ← slice pkcs8 5 16
      let expected ← slice pkcs8Prefix 5 pkcs8Prefix.length
      if template ≠ expected then badLayout
      else
        let publicKey ← copyFromSlice 32 publicKey
        let seed ← slice pkcs8 16 48
        let seed ← copyFromSlice 32 seed
        .ok { publicKey, seed }

def toPkcs8 (key : SshEd25519Key) : Bytes := pkcs8Prefix ++ key.seed.val

end SshEd25519Key

/-! The decoders of an entry once more, with the slices they take. -/

def Checked.SshEcdsaKey.decode (input : Bytes) : Outcome (Decoded SshEcdsaKey) := do
  let ⟨curve, next⟩ ← Checked.decodeBytes input
  if curve ≠ strBytes "nistp256" then
    .error (.error (.invalidHostKey "unexpected curve for ecdsa-sha2-nistp256"))
  else
    let ⟨publicKey, next⟩ ← Checked.decodeBytes next
    let ⟨scalar, next⟩ ← Checked.decodeBytes next
    let scalar := scalar.dropWhile (· == 0)
    if publicKey.length = 65 ∧ scalar ≠ [] ∧ scalar.length ≤ 32 then
      let offset ← Faults.sub Checked.overflow 32 scalar.length
      let scalar ← writeTail ⟨List.replicate 32 0, rfl⟩ offset scalar
      let publicKey ← copyFromSlice 65 publicKey
      .ok ⟨{ scalar, publicKey }, next⟩
    else .error (.error (.invalidHostKey "invalid ecdsa key data"))

def Checked.SshEd25519Key.decode (bytes : Bytes) : Outcome (Decoded SshEd25519Key) := do
  let ⟨publicKey, next⟩ ← Checked.decodeBytes bytes
  let ⟨privateKey, next⟩ ← Checked.decodeBytes next
  if publicKey.length = 32 ∧ privateKey.length = 64 then
    let embedded ← slice privateKey 32 privateKey.length
    if embedded = publicKey then
      let publicKey ← copyFromSlice 32 publicKey
      let seed ← slice privateKey 0 32
      let seed ← copyFromSlice 32 seed
      .ok ⟨{ publicKey, seed }, next⟩
    else .error (.error (.invalidHostKey "invalid ed25519 key data"))
  else .error (.error (.invalidHostKey "invalid ed25519 key data"))

def Checked.SshPrivateKey.decode (input : Bytes) : Outcome (Decoded SshPrivateKey) := do
  let ⟨keyType, next⟩ ← Checked.decodeBytes input
  match fromUtf8 keyType with
  | none => .error (.error (.invalidHostKey "invalid key type"))
  | some keyType =>
    match (Named.typed keyType : PublicKeyAlgorithm) with
    | .ed25519 => do
      let ⟨value, next⟩ ← Checked.SshEd25519Key.decode next
      .ok ⟨.ed25519 value, next⟩
    | .ecdsaSha2Nistp256 => do
      let ⟨value, next⟩ ← Checked.SshEcdsaKey.decode next
      .ok ⟨.ecdsaSha2Nistp256 value, next⟩
    | .unknown _ => .error (.error (.invalidHostKey "unsupported key type"))

namespace SshPrivateKey

def toPkcs8 : SshPrivateKey → Bytes
  | .ed25519 key => key.toPkcs8
  | .ecdsaSha2Nistp256 key => key.toPkcs8

/-- Reading a key back from the document it is written to. -/
def throughPkcs8 (key : SshPrivateKey) : Outcome SshPrivateKey :=
  match key with
  | .ed25519 inner =>
    (SshEd25519Key.fromPkcs8 key.toPkcs8 inner.publicKey.val).map .ed25519
  | .ecdsaSha2Nistp256 _ => (SshEcdsaKey.fromPkcs8 key.toPkcs8).map .ecdsaSha2Nistp256

end SshPrivateKey

end Oxish
