import Oxish.CryptoCore
import Oxish.Lib.Expansion

/-!
Key derivation of RFC 4253, section 7.2. The source fills a buffer in place and hashes what it has
filled so far; here the buffer is followed with every slice of it that is checked, and the outcome
is compared with the blocks of the standard.
-/

namespace Oxish

open Expansion

/-- `target[start..start + take].copy_from_slice(&block[..take])`. -/
def copyInto (target : Bytes) (start take : Nat) (block : Bytes) : Except String Bytes :=
  if target.length < start + take then .error "range end index out of range for slice"
  else
    match upTo? block take with
    | none => .error "range end index out of range for slice"
    | some bytes => .ok (target.take start ++ bytes ++ target.drop (start + take))

namespace KeySource

-- The loop of `derive` on its buffer. It has not come to its end when there is no outcome.
def fillFor (source : KeySource) (len : Nat) : Nat → Bytes → Nat → Option (Except String Bytes)
  | 0, _, _ => none
  | rounds + 1, key, filled =>
    if filled < len then
      match upTo? key filled with
      | none => some (.error "range end index out of range for slice")
      | some hashed =>
        let block := (source.base.fork.update hashed).finish
        let take := min source.blockLen (len - filled)
        match copyInto key filled take block.bytes with
        | .error site => some (.error site)
        | .ok key => source.fillFor len rounds key (filled + take)
    else some (.ok key)

def deriveFor (source : KeySource) (rounds len : Nat) : Option (Except String Bytes) :=
  let key := List.replicate len 0
  let block := ((source.base.fork.update [source.input.toByte]).update source.sessionId.bytes).finish
  let filled := min block.bytes.length len
  match copyInto key 0 filled block.bytes with
  | .error site => some (.error site)
  | .ok key => source.fillFor len rounds key filled

def firstBlock (source : KeySource) : Bytes :=
  ((source.base.fork.update [source.input.toByte]).update source.sessionId.bytes).finish.bytes

def nextBlock (source : KeySource) (earlier : Bytes) : Bytes :=
  (source.base.fork.update earlier).finish.bytes

end KeySource

/-- The blocks of the standard: `K1 = HASH(K || H || X || session_id)` and
`K(i+1) = HASH(K || H || K1 || ... || Ki)`. -/
def KeyDerivation.blocks (derivation : KeyDerivation) (input : KeyInput) (count : Nat) : List Bytes :=
  let hash := fun bytes => (derivation.hash.digest bytes).bytes
  let agreed := derivation.sharedSecret ++ derivation.exchangeHash.bytes
  Expansion.blocks (hash (agreed ++ [input.toByte] ++ derivation.sessionId.bytes))
    (fun earlier => hash (agreed ++ earlier)) count

theorem copyInto_filled {part block : Bytes} {len take : Nat} (fits : part.length + take ≤ len)
    (long : take ≤ block.length) :
    copyInto (part ++ List.replicate (len - part.length) 0) part.length take block =
      .ok (part ++ block.take take ++
        List.replicate (len - (part ++ block.take take).length) 0) := by
  have length : (part ++ List.replicate (len - part.length) (0 : UInt8)).length = len := by
    simp only [List.length_append, List.length_replicate]
    omega
  have taken : (block.take take).length = take := List.length_take_of_le long
  rw [copyInto, if_neg (by omega), upTo?, if_pos long]
  have behind : (part ++ List.replicate (len - part.length) (0 : UInt8)).drop (part.length + take) =
      List.replicate (len - (part.length + take)) 0 := by
    rw [List.drop_append, List.drop_eq_nil_of_le (by omega), List.drop_replicate]
    rw [List.nil_append, Nat.add_sub_cancel_left, Nat.sub_sub]
  simp only [List.take_left, behind, List.length_append, taken]

section Loops

variable {source : KeySource} {len : Nat}
  (uniform : Uniform source.firstBlock source.nextBlock source.blockLen) (positive : 0 < source.blockLen)

include uniform positive

theorem KeySource.fillFor_filled {part : Bytes} {rounds : Nat}
    (filled : FilledBy source.firstBlock source.nextBlock source.blockLen len part)
    (enough : len - part.length < rounds) :
    ∃ key, FilledBy source.firstBlock source.nextBlock source.blockLen len key ∧ key.length = len ∧
      source.fillFor len rounds (part ++ List.replicate (len - part.length) 0) part.length =
        some (.ok key) := by
  induction rounds generalizing part with
  | zero => omega
  | succ rounds ih =>
      unfold KeySource.fillFor
      by_cases short : part.length < len
      · have hashed : upTo? (part ++ List.replicate (len - part.length) 0) part.length =
            some part := by
          rw [upTo?, if_pos (by simp), List.take_left]
        have grown := uniform.filled_next filled short
        have blockLength := uniform.next part
        have taken : ((source.nextBlock part).take (min source.blockLen (len - part.length))).length =
            min source.blockLen (len - part.length) := by
          rw [List.length_take]
          omega
        obtain ⟨key, all, length, ran⟩ := ih grown (by rw [List.length_append, taken]; omega)
        refine ⟨key, all, length, ?_⟩
        rw [if_pos short, hashed]
        dsimp only
        change (match copyInto _ part.length (min source.blockLen (len - part.length))
            (source.nextBlock part) with
          | .error site => _
          | .ok key => _) = _
        rw [copyInto_filled (by omega) (by omega)]
        rw [List.length_append, taken] at ran
        rw [List.length_append, taken]
        exact ran
      · refine ⟨part, filled, by have := filled.within; omega, ?_⟩
        have full : len - part.length = 0 := by omega
        rw [if_neg short, full, List.replicate_zero, List.append_nil]

theorem KeySource.deriveFor_filled {rounds : Nat} (enough : len < rounds) :
    ∃ key, FilledBy source.firstBlock source.nextBlock source.blockLen len key ∧ key.length = len ∧
      source.deriveFor rounds len = some (.ok key) := by
  have first := @Uniform.filled_first _ _ _ _ len uniform
  have blockLength := uniform.first
  have taken : (source.firstBlock.take (min source.blockLen len)).length =
      min source.blockLen len := by
    rw [List.length_take]
    omega
  have left : len - (source.firstBlock.take (min source.blockLen len)).length < rounds := by
    rw [taken]
    omega
  obtain ⟨key, all, length, ran⟩ := KeySource.fillFor_filled uniform positive first left
  refine ⟨key, all, length, ?_⟩
  have copied : copyInto (List.replicate len 0) 0 (min source.firstBlock.length len)
      source.firstBlock = .ok (source.firstBlock.take (min source.blockLen len) ++
        List.replicate (len - (source.firstBlock.take (min source.blockLen len)).length) 0) := by
    have empty := @copyInto_filled [] source.firstBlock len (min source.blockLen len)
      (by simp only [List.length_nil]; omega) (by omega)
    rw [blockLength]
    exact empty
  unfold KeySource.deriveFor
  change (match copyInto (List.replicate len 0) 0 (min source.firstBlock.length len)
      source.firstBlock with
    | .error site => _
    | .ok key => source.fillFor len rounds key (min source.firstBlock.length len)) = _
  rw [copied, blockLength]
  rw [taken] at ran ⊢
  exact ran

theorem KeySource.extend_filled {part : Bytes} {rounds : Nat}
    (filled : FilledBy source.firstBlock source.nextBlock source.blockLen len part)
    (enough : len - part.length ≤ rounds) :
    FilledBy source.firstBlock source.nextBlock source.blockLen len (source.extend len rounds part) ∧
      (source.extend len rounds part).length = len := by
  have within := filled.within
  induction rounds generalizing part with
  | zero => exact ⟨filled, by rw [KeySource.extend]; omega⟩
  | succ rounds ih =>
      unfold KeySource.extend
      by_cases short : part.length < len
      · have grown := uniform.filled_next filled short
        have blockLength := uniform.next part
        have left : len - (part ++ (source.nextBlock part).take
            (min source.blockLen (len - part.length))).length ≤ rounds := by
          rw [List.length_append, List.length_take]
          omega
        rw [if_pos short]
        exact ih grown left grown.within
      · rw [if_neg short]
        exact ⟨filled, by omega⟩

theorem KeySource.derive_filled :
    FilledBy source.firstBlock source.nextBlock source.blockLen len (source.derive len) ∧
      (source.derive len).length = len := by
  have first := @Uniform.filled_first _ _ _ _ len uniform
  have blockLength := uniform.first
  rw [← blockLength] at first
  exact KeySource.extend_filled uniform positive (by rw [← blockLength]; exact first) (by omega)

end Loops

theorem KeyDerivation.key_uniform (derivation : KeyDerivation) (input : KeyInput) :
    Uniform (derivation.key input).firstBlock (derivation.key input).nextBlock
      (derivation.key input).blockLen where
  first := derivation.hash.digestLength _
  next _ := derivation.hash.digestLength _

theorem KeyDerivation.output_key (derivation : KeyDerivation) (input : KeyInput) (count : Nat) :
    output (derivation.key input).firstBlock (derivation.key input).nextBlock count =
      (derivation.blocks input count).flatten := rfl

/-- The derived bytes are the first bytes of the blocks of the standard, of however many blocks
there are at least `len` bytes; the loop ends, and no slice of the buffer is out of range. -/
theorem derive_rfc4253 (derivation : KeyDerivation) (input : KeyInput) (len count rounds : Nat)
    (blocks : len ≤ count * derivation.hash.outputLen) (enough : len < rounds) :
    (derivation.key input).deriveFor rounds len =
        some (.ok ((derivation.blocks input count).flatten.take len)) ∧
      (derivation.key input).derive len = (derivation.blocks input count).flatten.take len := by
  have uniform := derivation.key_uniform input
  have positive : 0 < (derivation.key input).blockLen := derivation.hash.outputLenPositive
  constructor
  · obtain ⟨key, filled, full, ran⟩ := KeySource.deriveFor_filled uniform positive enough
    rw [ran, filled.eq_take full blocks, derivation.output_key]
  · obtain ⟨filled, full⟩ := @KeySource.derive_filled _ len uniform positive
    rw [filled.eq_take full blocks, derivation.output_key]

def lengthHash : Hash where
  digest input := ⟨[UInt8.ofNat input.length, 7], by simp⟩
  outputLen := 2
  digestLength _ := rfl
  outputLenPositive := by decide

theorem derive_rfc4253_blocks :
    let derivation : KeyDerivation := {
      hash := lengthHash
      sharedSecret := [1, 2]
      exchangeHash := ⟨[3], by decide⟩
      sessionId := ⟨[4, 5, 6], by decide⟩ }
    derivation.blocks .initialIvClientToServer 3 = [[7, 7], [5, 7], [7, 7]] ∧
      (derivation.key .initialIvClientToServer).derive 5 = [7, 7, 5, 7, 7] := by
  intro derivation
  refine ⟨by decide, ?_⟩
  rw [(derive_rfc4253 derivation .initialIvClientToServer 5 3 6 (by decide) (by decide)).2]
  decide

end Oxish
