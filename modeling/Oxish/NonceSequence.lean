import Oxish.GcmCore

/-!
The nonces a GCM state hands out. A state is determined by its key source and its position,
the number of packets since the initial IV: `At` relates the two, and every operation on the
state is a move between positions. Runs of calls and handoffs are then statements about
positions.
-/

namespace Oxish

def baseCounter (source : KeySourceSide) : Nat := BigEndian.decode (source.initialIv.drop 4)

def nonceAt (source : KeySourceSide) (position : Nat) : Bytes :=
  source.initialIv.take 4 ++ BigEndian.encode 8 (baseCounter source + position)

theorem baseCounter_lt (source : KeySourceSide) (ivLength : source.initialIv.length = 12) :
    baseCounter source < 2 ^ 64 := by
  have bound := BigEndian.decode_lt (source.initialIv.drop 4)
  rw [List.length_drop, ivLength] at bound
  exact bound

theorem nonceAt_counter (source : KeySourceSide) (position : Nat)
    (ivLength : source.initialIv.length = 12) (bounded : baseCounter source + position < 2 ^ 64) :
    BigEndian.decode ((nonceAt source position).drop 4) = baseCounter source + position := by
  have taken : (source.initialIv.take 4).length = 4 := by simp [ivLength]
  rw [nonceAt, List.drop_left' taken]
  exact BigEndian.decode_encode_of_lt bounded

theorem nonceAt_injective (source : KeySourceSide) (left right : Nat)
    (ivLength : source.initialIv.length = 12)
    (leftBound : baseCounter source + left < 2 ^ 64)
    (rightBound : baseCounter source + right < 2 ^ 64)
    (same : nonceAt source left = nonceAt source right) : left = right := by
  have counters := nonceAt_counter source left ivLength leftBound
  rw [same, nonceAt_counter source right ivLength rightBound] at counters
  omega

namespace GcmState

structure At (source : KeySourceSide) (position : Nat) (state : GcmState) : Prop where
  ivLength : source.initialIv.length = 12
  key : state.key.val = source.encryptionKey
  nonce : state.nonce.val = nonceAt source position
  counter : state.counter.toNat = position
  bounded : baseCounter source + position < 2 ^ 64

theorem At.counterPart_eq {source : KeySourceSide} {position : Nat} {state : GcmState}
    (current : At source position state) : state.counterPart = baseCounter source + position := by
  rw [counterPart, current.nonce]
  exact nonceAt_counter source position current.ivLength current.bounded

theorem At.unique {source : KeySourceSide} {position : Nat} {left right : GcmState}
    (atLeft : At source position left) (atRight : At source position right) : left = right := by
  obtain ⟨leftKey, leftNonce, leftCounter⟩ := left
  obtain ⟨rightKey, rightNonce, rightCounter⟩ := right
  have keys : leftKey = rightKey := Subtype.ext (atLeft.key.trans atRight.key.symm)
  have nonces : leftNonce = rightNonce := Subtype.ext (atLeft.nonce.trans atRight.nonce.symm)
  have counters : leftCounter = rightCounter :=
    UInt64.toNat_inj.mp (atLeft.counter.trans atRight.counter.symm)
  subst keys nonces counters
  rfl

theorem increment_at {source : KeySourceSide} {position : Nat} {state : GcmState}
    (current : At source position state) (delta : UInt64)
    (room : baseCounter source + position + delta.toNat < 2 ^ 64) :
    (state.increment delta).2 = .ok () ∧
      At source (position + delta.toNat) (state.increment delta).1 := by
  have part := current.counterPart_eq
  have taken : (source.initialIv.take 4).length = 4 := by simp [current.ivLength]
  have leading : state.nonce.val.take 4 = source.initialIv.take 4 := by
    rw [current.nonce, nonceAt, List.take_left' taken]
  have sum : (state.counter + delta).toNat = position + delta.toNat := by
    rw [UInt64.toNat_add, current.counter, Nat.mod_eq_of_lt (by omega)]
  simp only [increment, part, if_pos room, true_and]
  refine ⟨current.ivLength, current.key, ?_, sum, by omega⟩
  change state.nonce.val.take 4 ++
    BigEndian.encode 8 (baseCounter source + position + delta.toNat) = _
  rw [leading, nonceAt, Nat.add_assoc]

theorem increment_full {source : KeySourceSide} {position : Nat} {state : GcmState}
    (current : At source position state) (delta : UInt64)
    (full : ¬ baseCounter source + position + delta.toNat < 2 ^ 64) :
    state.increment delta = (state, .error .nonceOverflow) := by
  simp only [increment, current.counterPart_eq, if_neg full]

theorem nextNonce_at {source : KeySourceSide} {position : Nat} {state : GcmState}
    (current : At source position state) (room : baseCounter source + position + 1 < 2 ^ 64) :
    state.nextNonce.2 = .ok state.nonce ∧ At source (position + 1) state.nextNonce.1 := by
  obtain ⟨accepted, next⟩ := increment_at current 1 room
  unfold nextNonce
  generalize state.increment 1 = outcome at accepted next
  obtain ⟨following, result⟩ := outcome
  subst accepted
  exact ⟨rfl, next⟩

theorem nextNonce_full {source : KeySourceSide} {position : Nat} {state : GcmState}
    (current : At source position state)
    (full : ¬ baseCounter source + position + 1 < 2 ^ 64) :
    state.nextNonce = (state, .error .nonceOverflow) := by
  unfold nextNonce
  rw [increment_full current 1 full]

theorem initial_at {source : KeySourceSide} {nonce : FixedBytes 12} {key : FixedBytes 16}
    (iv : source.initialIv = nonce.val) (keyBytes : source.encryptionKey = key.val) :
    At source 0 { key, nonce, counter := 0 } := by
  have ivLength : source.initialIv.length = 12 := by rw [iv, nonce.property]
  refine ⟨ivLength, keyBytes.symm, ?_, rfl, baseCounter_lt source ivLength⟩
  have width : (source.initialIv.drop 4).length = 8 := by simp [ivLength]
  rw [nonceAt, Nat.add_zero, baseCounter, BigEndian.encode_decode width, List.take_append_drop, iv]

theorem fixed_eq_some {length : Nat} {bytes : Bytes} {value : FixedBytes length} :
    fixed? length bytes = some value ↔ bytes = value.val := by
  unfold fixed?
  split
  · rename_i same
    simp only [Option.some.injEq]
    exact ⟨fun equal => by rw [← equal], fun equal => Subtype.ext equal⟩
  · rename_i different
    simp only [reduceCtorEq, false_iff]
    intro equal
    exact different (by rw [equal, value.property])

theorem advanced_at {source : KeySourceSide} {state advanced : GcmState} {counter : UInt64}
    (current : At source 0 state) :
    state.advanced counter = .ok advanced ↔ At source counter.toNat advanced := by
  by_cases room : baseCounter source + 0 + counter.toNat < 2 ^ 64
  · obtain ⟨accepted, next⟩ := increment_at current counter room
    rw [Nat.zero_add] at next
    have reached : state.advanced counter = .ok (state.increment counter).1 := by
      unfold GcmState.advanced
      generalize state.increment counter = outcome at accepted
      obtain ⟨following, result⟩ := outcome
      subst accepted
      rfl
    rw [reached, Except.ok.injEq]
    exact ⟨fun equal => equal ▸ next, fun other => next.unique other⟩
  · have refused : state.advanced counter = .error .nonceOverflow := by
      unfold GcmState.advanced
      rw [increment_full current counter room]
    rw [refused]
    simp only [reduceCtorEq, false_iff]
    intro other
    exact room (by simpa using other.bounded)

theorem new_ok_iff {backend : Backend} {source : KeySourceSide} {counter : UInt64}
    {state : GcmState} :
    GcmState.new backend counter source = .ok state ↔ At source counter.toNat state := by
  constructor
  · intro accepted
    cases backend with
    | awsLc =>
        simp only [GcmState.new, AwsLc.gcmState] at accepted
        split at accepted
        · cases accepted
        · rename_i nonce iv
          split at accepted
          · cases accepted
          · rename_i key keyBytes
            exact (advanced_at (initial_at (fixed_eq_some.mp iv)
              (fixed_eq_some.mp keyBytes))).mp accepted
    | graviola =>
        simp only [GcmState.new, Graviola.gcmState] at accepted
        split at accepted
        · cases accepted
        · rename_i key keyBytes
          split at accepted
          · cases accepted
          · rename_i nonce iv
            exact (advanced_at (initial_at (fixed_eq_some.mp iv)
              (fixed_eq_some.mp keyBytes))).mp accepted
  · intro reached
    have iv : fixed? 12 source.initialIv = some ⟨source.initialIv, reached.ivLength⟩ :=
      fixed_eq_some.mpr rfl
    have keyBytes : fixed? 16 source.encryptionKey = some state.key :=
      fixed_eq_some.mpr reached.key.symm
    have opened := (advanced_at (initial_at (fixed_eq_some.mp iv)
      (fixed_eq_some.mp keyBytes))).mpr reached
    cases backend with
    | awsLc => simp only [GcmState.new, AwsLc.gcmState, iv, keyBytes, opened]
    | graviola => simp only [GcmState.new, Graviola.gcmState, iv, keyBytes, opened]

def nonces : Nat → GcmState → List (Except CryptoError (FixedBytes 12)) × GcmState
  | 0, state => ([], state)
  | calls + 1, state =>
    let (next, output) := state.nextNonce
    let (outputs, last) := next.nonces calls
    (output :: outputs, last)

def outputs (state : GcmState) (calls : Nat) : List (Except CryptoError (FixedBytes 12)) :=
  (state.nonces calls).1

def after (state : GcmState) (calls : Nat) : GcmState := (state.nonces calls).2

theorem outputs_succ (state : GcmState) (calls : Nat) :
    state.outputs (calls + 1) = state.nextNonce.2 :: state.nextNonce.1.outputs calls := rfl

theorem after_succ (state : GcmState) (calls : Nat) :
    state.after (calls + 1) = state.nextNonce.1.after calls := rfl

theorem outputs_add (state : GcmState) (calls more : Nat) :
    state.outputs (calls + more) = state.outputs calls ++ (state.after calls).outputs more ∧
      state.after (calls + more) = (state.after calls).after more := by
  induction calls generalizing state with
  | zero =>
      rw [Nat.zero_add]
      exact ⟨rfl, rfl⟩
  | succ calls ih =>
      obtain ⟨sameOutputs, sameState⟩ := ih state.nextNonce.1
      rw [Nat.succ_add, outputs_succ, outputs_succ, after_succ, after_succ, sameOutputs]
      exact ⟨rfl, sameState⟩

theorem after_at {source : KeySourceSide} {position : Nat} {state : GcmState}
    (current : At source position state) (calls : Nat) :
    ∃ reached, At source reached (state.after calls) ∧ reached ≤ position + calls ∧
      (reached = position + calls ∨ baseCounter source + reached + 1 = 2 ^ 64) := by
  induction calls generalizing position state with
  | zero => exact ⟨position, current, Nat.le_refl _, .inl rfl⟩
  | succ calls ih =>
      rw [after_succ]
      by_cases room : baseCounter source + position + 1 < 2 ^ 64
      · obtain ⟨reached, atReached, upper, exactly⟩ := ih (nextNonce_at current room).2
        refine ⟨reached, atReached, by omega, ?_⟩
        rcases exactly with exactly | exactly
        · exact .inl (by omega)
        · exact .inr exactly
      · rw [nextNonce_full current room]
        have bounded := current.bounded
        obtain ⟨reached, atReached, upper, exactly⟩ := ih current
        have reachedBound := atReached.bounded
        exact ⟨reached, atReached, by omega, by omega⟩

theorem output_at {source : KeySourceSide} {position : Nat} {state : GcmState}
    (current : At source position state) {calls index : Nat} (inRun : index < calls) :
    (baseCounter source + position + index + 1 < 2 ^ 64 →
      ∃ nonce : FixedBytes 12, (state.outputs calls)[index]? = some (.ok nonce) ∧
        nonce.val = nonceAt source (position + index)) ∧
    (¬ baseCounter source + position + index + 1 < 2 ^ 64 →
      (state.outputs calls)[index]? = some (.error .nonceOverflow)) := by
  induction calls generalizing position state index with
  | zero => omega
  | succ calls ih =>
      rw [outputs_succ]
      by_cases room : baseCounter source + position + 1 < 2 ^ 64
      · obtain ⟨output, next⟩ := nextNonce_at current room
        cases index with
        | zero =>
            refine ⟨fun _ => ⟨state.nonce, by simp [output], by simpa using current.nonce⟩, ?_⟩
            intro full
            exact absurd room (by simpa using full)
        | succ index =>
            have inRest : index < calls := by omega
            obtain ⟨inside, outside⟩ := ih next inRest
            refine ⟨fun bound => ?_, fun bound => ?_⟩
            · obtain ⟨nonce, found, value⟩ := inside (by omega)
              refine ⟨nonce, by simpa using found, ?_⟩
              rw [value, Nat.add_assoc, Nat.add_comm 1]
            · simpa using outside (by omega)
      · rw [nextNonce_full current room]
        refine ⟨fun bound => by omega, fun _ => ?_⟩
        cases index with
        | zero => rfl
        | succ index =>
            have inRest : index < calls := by omega
            obtain ⟨_, outside⟩ := ih current inRest
            simpa using outside (by omega)

theorem length_outputs (state : GcmState) (calls : Nat) : (state.outputs calls).length = calls := by
  induction calls generalizing state with
  | zero => rfl
  | succ calls ih => rw [outputs_succ, List.length_cons, ih]

theorem output_in_run {state : GcmState} {calls index : Nat}
    {output : Except CryptoError (FixedBytes 12)}
    (found : (state.outputs calls)[index]? = some output) : index < calls := by
  have bound := (List.getElem?_eq_some_iff.mp found).1
  rwa [length_outputs] at bound

theorem output_ok {source : KeySourceSide} {position : Nat} {state : GcmState}
    (current : At source position state) {calls index : Nat} {nonce : FixedBytes 12}
    (found : (state.outputs calls)[index]? = some (.ok nonce)) :
    baseCounter source + position + index + 1 < 2 ^ 64 ∧
      nonce.val = nonceAt source (position + index) := by
  obtain ⟨inside, outside⟩ := output_at current (output_in_run found)
  by_cases room : baseCounter source + position + index + 1 < 2 ^ 64
  · obtain ⟨expected, foundExpected, value⟩ := inside room
    rw [found] at foundExpected
    cases foundExpected
    exact ⟨room, value⟩
  · rw [outside room] at found
    cases found

theorem output_error {source : KeySourceSide} {position : Nat} {state : GcmState}
    (current : At source position state) {calls index : Nat} {error : CryptoError}
    (found : (state.outputs calls)[index]? = some (.error error)) :
    error = .nonceOverflow ∧ ¬ baseCounter source + position + index + 1 < 2 ^ 64 := by
  obtain ⟨inside, outside⟩ := output_at current (output_in_run found)
  by_cases room : baseCounter source + position + index + 1 < 2 ^ 64
  · obtain ⟨expected, foundExpected, _⟩ := inside room
    rw [found] at foundExpected
    cases foundExpected
  · rw [outside room] at found
    cases found
    exact ⟨rfl, room⟩

theorem after_full {source : KeySourceSide} {position : Nat} {state : GcmState}
    (current : At source position state) {calls more : Nat}
    (full : ¬ baseCounter source + position + calls + 1 < 2 ^ 64) (later : calls ≤ more) :
    state.after more = state.after calls := by
  obtain ⟨early, atEarly, _, earlyExact⟩ := after_at current calls
  obtain ⟨late, atLate, _, lateExact⟩ := after_at current more
  have earlyBound := atEarly.bounded
  have lateBound := atLate.bounded
  have same : late = early := by omega
  subst same
  exact atLate.unique atEarly

/-- Under one key source no nonce is handed out twice, in any run of calls and across
any handoff that rebuilds the state from its counter. -/
theorem nonces_never_repeat (backend : Backend) (source : KeySourceSide) (start : UInt64)
    (first : GcmState) (accepted : GcmState.new backend start source = .ok first) (calls : Nat) :
    (∀ index, index < calls →
      if baseCounter source + start.toNat + index + 1 < 2 ^ 64 then
        ∃ nonce : FixedBytes 12, (first.outputs calls)[index]? = some (.ok nonce) ∧
          nonce.val = source.initialIv.take 4 ++
            BigEndian.encode 8 (baseCounter source + start.toNat + index)
      else (first.outputs calls)[index]? = some (.error .nonceOverflow)) ∧
    (∀ (left right : Nat) (nonce : FixedBytes 12), (first.outputs calls)[left]? = some (.ok nonce) →
      (first.outputs calls)[right]? = some (.ok nonce) → left = right) ∧
    (∀ (index : Nat) (error : CryptoError), (first.outputs calls)[index]? = some (.error error) →
      error = .nonceOverflow ∧ ∀ later, index ≤ later →
        first.after later = first.after index ∧
        (later < calls → (first.outputs calls)[later]? = some (.error .nonceOverflow))) ∧
    (∀ delta : UInt64, (first.after calls).counterPart + delta.toNat < 2 ^ 64 →
      (first.after calls).counter.toNat + delta.toNat < 2 ^ 64) ∧
    GcmState.new backend (first.after calls).counter source = .ok (first.after calls) ∧
    (∀ resumed, GcmState.new backend (first.after calls).counter source = .ok resumed →
      ∀ more, first.outputs (calls + more) = first.outputs calls ++ resumed.outputs more ∧
        first.after (calls + more) = resumed.after more) := by
  have current := new_ok_iff.mp accepted
  obtain ⟨reached, atReached, _, _⟩ := after_at current calls
  have restored : GcmState.new backend (first.after calls).counter source =
      .ok (first.after calls) := by
    rw [new_ok_iff, atReached.counter]
    exact atReached
  refine ⟨?_, ?_, ?_, ?_, restored, ?_⟩
  · intro index inRun
    obtain ⟨inside, outside⟩ := output_at current inRun
    split
    · rename_i room
      obtain ⟨nonce, found, value⟩ := inside room
      exact ⟨nonce, found, by rw [value, nonceAt, Nat.add_assoc]⟩
    · rename_i full
      exact outside full
  · intro left right nonce foundLeft foundRight
    obtain ⟨leftBound, leftValue⟩ := output_ok current foundLeft
    obtain ⟨rightBound, rightValue⟩ := output_ok current foundRight
    have positions := nonceAt_injective source _ _ current.ivLength (by omega) (by omega)
      (leftValue.symm.trans rightValue)
    omega
  · intro index error found
    obtain ⟨reason, full⟩ := output_error current found
    refine ⟨reason, fun later order => ⟨after_full current full order, fun inRun => ?_⟩⟩
    exact (output_at current inRun).2 (by omega)
  · intro delta room
    rw [atReached.counterPart_eq] at room
    rw [atReached.counter]
    omega
  · intro resumed rebuilt more
    rw [restored, Except.ok.injEq] at rebuilt
    subst rebuilt
    exact outputs_add first calls more

def nearlyExhausted : KeySourceSide where
  algorithm := .aes128Gcm
  initialIv := [1, 2, 3, 4] ++ List.replicate 7 255 ++ [253]
  encryptionKey := List.replicate 16 0

def lastButOne : GcmState where
  key := .replicate 16 0
  nonce := ⟨[1, 2, 3, 4] ++ List.replicate 7 255 ++ [254], rfl⟩
  counter := 1

theorem nonces_never_repeat_nearlyExhausted :
    GcmState.new .awsLc 1 nearlyExhausted = .ok lastButOne ∧
      (lastButOne.outputs 3)[1]? = some (.error .nonceOverflow) ∧
      (lastButOne.outputs 3)[2]? = some (.error .nonceOverflow) ∧
      lastButOne.after 2 = lastButOne.after 1 := by
  have accepted : GcmState.new .awsLc 1 nearlyExhausted = .ok lastButOne := rfl
  obtain ⟨sequence, _, absorbing, _⟩ :=
    nonces_never_repeat .awsLc nearlyExhausted 1 lastButOne accepted 3
  have failed := sequence 1 (by decide)
  rw [if_neg (by decide)] at failed
  obtain ⟨unchanged, later⟩ := (absorbing 1 _ failed).2 2 (by decide)
  exact ⟨accepted, failed, later (by decide), unchanged⟩

end GcmState

end Oxish
