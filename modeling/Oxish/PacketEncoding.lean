import Oxish.GcmCore
import Oxish.Wire

/-!
What `encodeKx` does to the writer, in one equation, and what a failed call leaves behind.
The packet is built at the end of the outgoing buffer before its padding is drawn and before
it is sealed, and no error path takes it out again.
-/

namespace Oxish

variable {σ : Type}

namespace WriteState

def packet (payload padding : Bytes) : Bytes :=
  encodeU32 (UInt32.ofNat (1 + payload.length + padding.length)) ++
    ([UInt8.ofNat padding.length] ++ (payload ++ padding))

def regionLen (sealer : Option σ) (payload : Bytes) : Nat :=
  5 + payload.length - unencryptedLen sealer

section

variable [SealingKey σ]

def drawPadding (state : WriteState σ) (payload : Bytes) :
    Filled (paddingLen (blockSize state.sealer) (regionLen state.sealer payload)) :=
  state.secureRandom.fill (paddingLen (blockSize state.sealer) (regionLen state.sealer payload))

def sealDrawn (state : WriteState σ) (payload : Bytes) (sealer : σ) :
    SealOutcome σ (packet payload (state.drawPadding payload).bytes.val).length
      (List.replicate (SealingKey.tagLen sealer) (0 : UInt8)).length :=
  SealingKey.sealInPlace sealer state.sequenceNumber
    (packet payload (state.drawPadding payload).bytes.val)
    (List.replicate (SealingKey.tagLen sealer) 0)

end

def cryptoStop : Stop CryptoError → Stop ProtoError
  | .error error => .error (.crypto error)
  | .panic site => .panic site

@[simp] theorem length_packet (payload padding : Bytes) :
    (packet payload padding).length = 5 + payload.length + padding.length := by
  simp only [packet, List.length_append, length_encodeU32, List.length_singleton]
  omega

theorem encodeKx_region (state : WriteState σ) (payload : Bytes) :
    (state.buf ++ [0, 0, 0, 0] ++ [0] ++ payload).length - state.buf.length -
      unencryptedLen state.sealer = regionLen state.sealer payload := by
  simp only [regionLen, List.length_append, List.length_cons, List.length_nil]
  omega

theorem encodeKx_payloadLen (state : WriteState σ) (payload : Bytes) :
    (state.buf ++ [0, 0, 0, 0] ++ [0] ++ payload).length -
      (state.buf ++ [0, 0, 0, 0] ++ [0]).length = payload.length := by
  rw [List.length_append, Nat.add_sub_cancel_left]

variable [SealingKey σ]

theorem framePacket_eq (state : WriteState σ) (before payload padding tag : Bytes)
    (exchangeHash : Option HandshakeHash)
    (assembled : state.buf = before ++ ([0, 0, 0, 0] ++ ([0] ++ (payload ++ (padding ++ tag))))) :
    state.framePacket before.length payload.length padding.length exchangeHash =
      { state with buf := before ++ (packet payload padding ++ tag) }.sealPacket before.length
        (packet payload padding).length (packet payload padding ++ tag)
        (exchangeHash.map (HandshakeHash.prefixed · payload)) := by
  have framed : encodeU32 (UInt32.ofNat (1 + payload.length + padding.length)) ++
      [UInt8.ofNat padding.length] ++ (payload ++ (padding ++ tag)) =
        packet payload padding ++ tag := by
    simp [packet]
  have four : List.length [(0 : UInt8), 0, 0, 0] = 4 := rfl
  have one : List.length [(0 : UInt8)] = 1 := rfl
  simp only [framePacket, assembled, from_append rfl, splitFirstChunk_append four,
    splitFirstChunk_append one, upTo_append rfl, List.take_left, framed, length_packet]

theorem encodeKx_padding_failed (state : WriteState σ) (payload : Bytes)
    (exchangeHash : Option HandshakeHash) {error : CryptoError}
    (failed : (state.drawPadding payload).result = .error error) :
    state.encodeKx payload exchangeHash = {
      state := { state with
        buf := state.buf ++ ([0, 0, 0, 0, 0] ++ (payload ++ (state.drawPadding payload).bytes.val))
        secureRandom := (state.drawPadding payload).random }
      exchangeHash
      result := .error (.error (.unreachable "failed to get random padding")) } := by
  simp only [encodeKx]
  rw [encodeKx_region, ← drawPadding, failed]
  simp [drawPadding]

theorem encodeKx_padded (state : WriteState σ) (payload : Bytes)
    (exchangeHash : Option HandshakeHash) (drawn : (state.drawPadding payload).result = .ok ()) :
    state.encodeKx payload exchangeHash =
      { state with
          buf := state.buf ++ (packet payload (state.drawPadding payload).bytes.val ++
            emptyTag state.sealer)
          secureRandom := (state.drawPadding payload).random }.sealPacket state.buf.length
        (packet payload (state.drawPadding payload).bytes.val).length
        (packet payload (state.drawPadding payload).bytes.val ++ emptyTag state.sealer)
        (exchangeHash.map (HandshakeHash.prefixed · payload)) := by
  simp only [encodeKx]
  rw [encodeKx_region, encodeKx_payloadLen, ← drawPadding, drawn]
  have framed := framePacket_eq { state with
      buf := state.buf ++ [0, 0, 0, 0] ++ [0] ++ payload ++
        (state.drawPadding payload).bytes.val ++ emptyTag state.sealer
      secureRandom := (state.drawPadding payload).random }
    state.buf payload (state.drawPadding payload).bytes.val (emptyTag state.sealer) exchangeHash
    (by simp)
  rw [(state.drawPadding payload).bytes.property] at framed
  exact framed

theorem encodeKx_plain (state : WriteState σ) (payload : Bytes)
    (exchangeHash : Option HandshakeHash) (drawn : (state.drawPadding payload).result = .ok ())
    (unsealed : state.sealer = none) :
    state.encodeKx payload exchangeHash = {
      state := { state with
        buf := state.buf ++ packet payload (state.drawPadding payload).bytes.val
        secureRandom := (state.drawPadding payload).random
        sequenceNumber := state.sequenceNumber + 1 }
      exchangeHash := exchangeHash.map (HandshakeHash.prefixed · payload)
      result := .ok () } := by
  rw [encodeKx_padded state payload exchangeHash drawn]
  simp only [sealPacket, unsealed, emptyTag, List.append_nil]

def sealedState (state : WriteState σ) (payload : Bytes) (sealer : σ) : WriteState σ :=
  { state with
    buf := state.buf ++ ((state.sealDrawn payload sealer).data.val ++
      (state.sealDrawn payload sealer).tag.val)
    secureRandom := (state.drawPadding payload).random
    sealer := some (state.sealDrawn payload sealer).key }

theorem encodeKx_sealed (state : WriteState σ) (payload : Bytes)
    (exchangeHash : Option HandshakeHash) (drawn : (state.drawPadding payload).result = .ok ())
    {sealer : σ} (installed : state.sealer = some sealer) :
    state.encodeKx payload exchangeHash =
      match (state.sealDrawn payload sealer).result with
      | .ok () => {
          state := { state.sealedState payload sealer with
            sequenceNumber := state.sequenceNumber + 1 }
          exchangeHash := exchangeHash.map (HandshakeHash.prefixed · payload)
          result := .ok () }
      | .error stop => {
          state := state.sealedState payload sealer
          exchangeHash := exchangeHash.map (HandshakeHash.prefixed · payload)
          result := .error (cryptoStop stop) } := by
  rw [encodeKx_padded state payload exchangeHash drawn]
  simp only [sealPacket, installed, emptyTag, splitAtChecked_append rfl, List.take_left,
    List.append_assoc]
  rw [← sealDrawn]
  cases (state.sealDrawn payload sealer).result with
  | ok value => rfl
  | error stop =>
      cases stop with
      | error cause => rfl
      | panic site => rfl

/-- The courses a call can take: the padding fails, the packet goes out clear, or the installed
sealer seals or refuses it. -/
inductive Course (state : WriteState σ) (payload : Bytes) (exchangeHash : Option HandshakeHash) :
    Encoding σ → Prop
  | unpadded {error} (failed : (state.drawPadding payload).result = .error error) :
      Course state payload exchangeHash {
        state := { state with
          buf := state.buf ++
            ([0, 0, 0, 0, 0] ++ (payload ++ (state.drawPadding payload).bytes.val))
          secureRandom := (state.drawPadding payload).random }
        exchangeHash
        result := .error (.error (.unreachable "failed to get random padding")) }
  | plain (drawn : (state.drawPadding payload).result = .ok ()) (unsealed : state.sealer = none) :
      Course state payload exchangeHash {
        state := { state with
          buf := state.buf ++ packet payload (state.drawPadding payload).bytes.val
          secureRandom := (state.drawPadding payload).random
          sequenceNumber := state.sequenceNumber + 1 }
        exchangeHash := exchangeHash.map (HandshakeHash.prefixed · payload)
        result := .ok () }
  | sealed {sealer} (drawn : (state.drawPadding payload).result = .ok ())
      (installed : state.sealer = some sealer)
      (accepted : (state.sealDrawn payload sealer).result = .ok ()) :
      Course state payload exchangeHash {
        state := { state.sealedState payload sealer with
          sequenceNumber := state.sequenceNumber + 1 }
        exchangeHash := exchangeHash.map (HandshakeHash.prefixed · payload)
        result := .ok () }
  | refused {sealer stop} (drawn : (state.drawPadding payload).result = .ok ())
      (installed : state.sealer = some sealer)
      (stopped : (state.sealDrawn payload sealer).result = .error stop) :
      Course state payload exchangeHash {
        state := state.sealedState payload sealer
        exchangeHash := exchangeHash.map (HandshakeHash.prefixed · payload)
        result := .error (cryptoStop stop) }

theorem encodeKx_course (state : WriteState σ) (payload : Bytes)
    (exchangeHash : Option HandshakeHash) :
    Course state payload exchangeHash (state.encodeKx payload exchangeHash) := by
  cases drawn : (state.drawPadding payload).result with
  | error cause =>
      rw [encodeKx_padding_failed state payload exchangeHash drawn]
      exact .unpadded drawn
  | ok value =>
      rcases Option.eq_none_or_eq_some state.sealer with unsealed | ⟨sealer, installed⟩
      · rw [encodeKx_plain state payload exchangeHash drawn unsealed]
        exact .plain drawn unsealed
      · rw [encodeKx_sealed state payload exchangeHash drawn installed]
        cases outcome : (state.sealDrawn payload sealer).result with
        | ok value => exact .sealed drawn installed outcome
        | error stop => exact .refused drawn installed outcome

theorem encodeKx_ok (state : WriteState σ) (payload : Bytes)
    (exchangeHash : Option HandshakeHash)
    (accepted : (state.encodeKx payload exchangeHash).result = .ok ()) :
    (state.drawPadding payload).result = .ok () ∧
      (∀ sealer, state.sealer = some sealer → (state.sealDrawn payload sealer).result = .ok ()) := by
  have course := encodeKx_course state payload exchangeHash
  generalize state.encodeKx payload exchangeHash = encoding at course accepted
  cases course with
  | unpadded => cases accepted
  | plain drawn unsealed =>
      refine ⟨drawn, fun sealer installed => ?_⟩
      cases unsealed.symm.trans installed
  | sealed drawn installed sealed =>
      refine ⟨drawn, fun sealer found => ?_⟩
      cases installed.symm.trans found
      exact sealed
  | refused => cases accepted

theorem encodeKx_aside (state : WriteState σ) (payload : Bytes)
    (exchangeHash : Option HandshakeHash) :
    state.encode payload = ((state.encodeKx payload exchangeHash).state,
      (state.encodeKx payload exchangeHash).result) := by
  unfold encode
  cases filled : (state.drawPadding payload).result with
  | error cause =>
      rw [encodeKx_padding_failed state payload none filled,
        encodeKx_padding_failed state payload exchangeHash filled]
  | ok value =>
      rcases Option.eq_none_or_eq_some state.sealer with unsealed | ⟨sealer, installed⟩
      · rw [encodeKx_plain state payload none filled unsealed,
          encodeKx_plain state payload exchangeHash filled unsealed]
      · rw [encodeKx_sealed state payload none filled installed,
          encodeKx_sealed state payload exchangeHash filled installed]
        cases (state.sealDrawn payload sealer).result with
        | ok value => rfl
        | error stop => rfl

theorem encodeKx_prefixed {state : WriteState σ} {payload : Bytes}
    {exchangeHash : Option HandshakeHash}
    (accepted : (state.encodeKx payload exchangeHash).result = .ok ()) :
    (state.encodeKx payload exchangeHash).exchangeHash =
      exchangeHash.map (HandshakeHash.prefixed · payload) := by
  have course := encodeKx_course state payload exchangeHash
  generalize state.encodeKx payload exchangeHash = encoding at course accepted ⊢
  cases course with
  | unpadded => cases accepted
  | plain | sealed | refused => rfl

structure Accepts (state : WriteState σ) (payload : Bytes) (next : WriteState σ) : Prop where
  counted : next.sequenceNumber = state.sequenceNumber + 1
  written : next.written = state.written
  clear : state.sealer = none → next.sealer = none
  sealed : ∀ sealer, state.sealer = some sealer →
    (state.sealDrawn payload sealer).result = .ok () ∧
      next.sealer = some (state.sealDrawn payload sealer).key

theorem encode_accepts {state next : WriteState σ} {payload : Bytes}
    (done : state.encode payload = (next, .ok ())) : state.Accepts payload next := by
  obtain ⟨same, accepted⟩ := Prod.mk.inj done
  subst same
  have course := encodeKx_course state payload none
  generalize state.encodeKx payload none = encoding at course accepted ⊢
  cases course with
  | unpadded => cases accepted
  | plain drawn unsealed =>
      refine ⟨rfl, rfl, id, fun sealer installed => ?_⟩
      cases unsealed.symm.trans installed
  | sealed drawn installed sealed =>
      refine ⟨rfl, rfl, fun unsealed => ?_, fun other found => ?_⟩
      · cases unsealed.symm.trans installed
      · cases installed.symm.trans found
        exact ⟨sealed, rfl⟩
  | refused => cases accepted

theorem encodeKx_not_invalidPacket (state : WriteState σ) (payload : Bytes)
    (exchangeHash : Option HandshakeHash) (message : String) :
    (state.encodeKx payload exchangeHash).result ≠ .error (.error (.invalidPacket message)) := by
  intro failed
  have course := encodeKx_course state payload exchangeHash
  generalize state.encodeKx payload exchangeHash = encoding at course failed
  cases course with
  | unpadded => cases failed
  | plain => cases failed
  | sealed => cases failed
  | @refused sealer stop =>
      cases stop with
      | error cause => cases failed
      | panic site => cases failed

theorem encodeKx_grows (state : WriteState σ) (payload : Bytes)
    (exchangeHash : Option HandshakeHash) :
    ∃ appended, (state.encodeKx payload exchangeHash).state.buf = state.buf ++ appended := by
  have course := encodeKx_course state payload exchangeHash
  generalize state.encodeKx payload exchangeHash = encoding at course ⊢
  cases course with
  | unpadded | plain | sealed | refused => exact ⟨_, rfl⟩

omit [SealingKey σ] in
theorem buffered_append {state extended : WriteState σ} {pending added : Bytes}
    (before : state.buffered = some pending) (sameWritten : extended.written = state.written)
    (grown : extended.buf = state.buf ++ added) : extended.buffered = some (pending ++ added) := by
  simp only [buffered, from?] at before ⊢
  split at before
  · rename_i bound
    cases before
    rw [sameWritten, grown, if_pos (by rw [List.length_append]; omega),
      List.drop_append_of_le_length bound]
  · cases before

/-- On every error path the unfinished packet, at least its five header bytes, stays in the
outgoing buffer; only the sequence number is left alone. -/
theorem encodeKx_error_leaves (state : WriteState σ) (payload : Bytes)
    (exchangeHash : Option HandshakeHash) {pending : Bytes} {error : ProtoError}
    (before : state.buffered = some pending)
    (failed : (state.encodeKx payload exchangeHash).result = .error (.error error)) :
    (state.encodeKx payload exchangeHash).state.sequenceNumber = state.sequenceNumber ∧
      ∃ leaked : Bytes, 5 ≤ leaked.length ∧
        (state.encodeKx payload exchangeHash).state.buffered = some (pending ++ leaked) := by
  have course := encodeKx_course state payload exchangeHash
  generalize state.encodeKx payload exchangeHash = encoding at course failed ⊢
  cases course with
  | unpadded =>
      refine ⟨rfl, [0, 0, 0, 0, 0] ++ (payload ++ (state.drawPadding payload).bytes.val), ?_, ?_⟩
      · rw [List.length_append]
        exact Nat.le_add_right 5 _
      · exact buffered_append before rfl rfl
  | plain => cases failed
  | sealed => cases failed
  | @refused sealer =>
      refine ⟨rfl, (state.sealDrawn payload sealer).data.val ++
        (state.sealDrawn payload sealer).tag.val, ?_, ?_⟩
      · have body := (state.sealDrawn payload sealer).data.property
        have size := length_packet payload (state.drawPadding payload).bytes.val
        rw [List.length_append]
        omega
      · exact buffered_append before rfl rfl

theorem encodeKx_error_iff (state : WriteState σ) (payload : Bytes)
    (exchangeHash : Option HandshakeHash) :
    (∃ error, (state.encodeKx payload exchangeHash).result = .error (.error error)) ↔
      ¬ ((state.drawPadding payload).result = .ok () ∧ ∀ sealer, state.sealer = some sealer →
        ∀ error, (state.sealDrawn payload sealer).result ≠ .error (.error error)) := by
  have course := encodeKx_course state payload exchangeHash
  generalize state.encodeKx payload exchangeHash = encoding at course ⊢
  cases course with
  | unpadded failed => simp [failed]
  | plain drawn unsealed => simp [drawn, unsealed]
  | sealed drawn installed accepted => simp [drawn, installed, accepted]
  | @refused sealer stop drawn installed stopped =>
      cases stop with
      | error cause => simp [drawn, installed, stopped, cryptoStop]
      | panic site => simp [drawn, installed, stopped, cryptoStop]

/-- A call that can fail does not keep the outgoing buffer: the buffer and the sequence number
survive every error exactly when no error occurs, that is when the padding is drawn and an
installed sealer accepts the packet. -/
theorem encodeKx_error_unchanged_iff (state : WriteState σ) (payload : Bytes)
    (exchangeHash : Option HandshakeHash) (pending : Bytes)
    (before : state.buffered = some pending) :
    ((∃ error, (state.encodeKx payload exchangeHash).result = .error (.error error)) →
      (state.encodeKx payload exchangeHash).state.buffered = some pending ∧
        (state.encodeKx payload exchangeHash).state.sequenceNumber = state.sequenceNumber) ↔
      (state.drawPadding payload).result = .ok () ∧ ∀ sealer, state.sealer = some sealer →
        ∀ error, (state.sealDrawn payload sealer).result ≠ .error (.error error) := by
  have erring := encodeKx_error_iff state payload exchangeHash
  constructor
  · intro unchanged
    by_contra condition
    obtain ⟨error, failed⟩ := erring.mpr condition
    obtain ⟨_, leaked, size, after⟩ :=
      encodeKx_error_leaves state payload exchangeHash before failed
    have same := (unchanged ⟨error, failed⟩).1
    rw [after, Option.some.injEq] at same
    have lengths := congrArg List.length same
    rw [List.length_append] at lengths
    omega
  · intro condition failed
    exact absurd condition (erring.mp failed)

end WriteState

def exhaustedWriter : WriteState (Aes128GcmSealer .awsLc identityCipher) where
  sealer := some ⟨{
    key := .replicate 16 0
    nonce := ⟨[1, 2, 3, 4] ++ List.replicate 8 255, rfl⟩
    counter := 9 }⟩
  secureRandom := constantRandom 7

namespace WriteState

theorem encodeKx_error_unchanged_iff_exhausted :
    exhaustedWriter.buffered = some [] ∧
      ¬ ((∃ error, (exhaustedWriter.encodeKx [94, 1, 2, 3] none).result =
          .error (.error error)) →
        (exhaustedWriter.encodeKx [94, 1, 2, 3] none).state.buffered = some [] ∧
          (exhaustedWriter.encodeKx [94, 1, 2, 3] none).state.sequenceNumber =
            exhaustedWriter.sequenceNumber) := by
  have before : exhaustedWriter.buffered = some [] := rfl
  refine ⟨before, fun unchanged => ?_⟩
  obtain ⟨_, sealable⟩ :=
    (encodeKx_error_unchanged_iff exhaustedWriter [94, 1, 2, 3] none [] before).mp unchanged
  exact sealable _ rfl .nonceOverflow rfl

/-- With the nonce space used up, the failed packet stays in the buffer as plaintext. -/
theorem encodeKx_leaks_plaintext :
    exhaustedWriter.buffered = some [] ∧
      (exhaustedWriter.encodeKx [94, 1, 2, 3] none).result =
        .error (.error (.crypto .nonceOverflow)) ∧
      (exhaustedWriter.encodeKx [94, 1, 2, 3] none).state.buffered =
        some ([0, 0, 0, 16, 11] ++ [94, 1, 2, 3] ++ List.replicate 11 7 ++
          List.replicate 16 0) := by
  refine ⟨rfl, rfl, ?_⟩
  decide

end WriteState

end Oxish
