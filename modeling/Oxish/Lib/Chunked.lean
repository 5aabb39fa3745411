import Mathlib.Data.List.Basic

/-!
Incremental decoding of a stream that arrives in chunks. A decoder looks at the buffered
input and either asks for more, takes one item off the front, or fails. If items and failures
do not change when more input is appended, then what a reader collects from a chunked stream
depends on the stream only, not on where it was cut.
-/

namespace Chunked

inductive Scan (S I α : Type) where
  | more
  | item (value : I) (state : S) (rest : List α)
  | fail

structure Decoder (S I α : Type) where
  scan : S → List α → Scan S I α
  consumes : ∀ {state buffer value next rest},
    scan state buffer = .item value next rest → rest.length < buffer.length
  item_append : ∀ {state buffer value next rest}, scan state buffer = .item value next rest →
    ∀ later, scan state (buffer ++ later) = .item value next (rest ++ later)
  fail_append : ∀ {state buffer}, scan state buffer = .fail →
    ∀ later, scan state (buffer ++ later) = .fail

structure Drained (S I α : Type) where
  items : List I
  state : S
  rest : List α
  failed : Bool

variable {S I α : Type}

def Drained.after (items : List I) (later : Drained S I α) : Drained S I α :=
  { later with items := items ++ later.items }

namespace Decoder

variable (decoder : Decoder S I α)

def drainFor : Nat → S → List α → Drained S I α
  | 0, state, buffer => ⟨[], state, buffer, false⟩
  | fuel + 1, state, buffer =>
    match decoder.scan state buffer with
    | .more => ⟨[], state, buffer, false⟩
    | .fail => ⟨[], state, buffer, true⟩
    | .item value next rest => (drainFor fuel next rest).after [value]

def drain (state : S) (buffer : List α) : Drained S I α :=
  decoder.drainFor (buffer.length + 1) state buffer

def feed : S → List α → List (List α) → Drained S I α
  | state, rest, [] => ⟨[], state, rest, false⟩
  | state, rest, chunk :: chunks =>
    let first := decoder.drain state (rest ++ chunk)
    if first.failed then first else (feed first.state first.rest chunks).after first.items

theorem drainFor_enough {fuel : Nat} {state : S} {buffer : List α} (enough : buffer.length < fuel) :
    decoder.drainFor fuel state buffer = decoder.drain state buffer := by
  suffices same : ∀ left right state buffer, buffer.length < left → buffer.length < right →
      decoder.drainFor left state buffer = decoder.drainFor right state buffer from
    same _ _ _ _ enough (Nat.lt_succ_self _)
  intro left
  induction left with
  | zero => intro right state buffer leftBound; omega
  | succ left ih =>
      intro right state buffer leftBound rightBound
      cases right with
      | zero => omega
      | succ right =>
          simp only [drainFor]
          cases scanned : decoder.scan state buffer with
          | more => rfl
          | fail => rfl
          | item value next rest =>
              have shorter := decoder.consumes scanned
              simp only [ih right next rest (by omega) (by omega)]

theorem drain_more {state : S} {buffer : List α} (scanned : decoder.scan state buffer = .more) :
    decoder.drain state buffer = ⟨[], state, buffer, false⟩ := by
  simp only [drain, drainFor, scanned]

theorem drain_fail {state : S} {buffer : List α} (scanned : decoder.scan state buffer = .fail) :
    decoder.drain state buffer = ⟨[], state, buffer, true⟩ := by
  simp only [drain, drainFor, scanned]

theorem drain_item {state next : S} {buffer rest : List α} {value : I}
    (scanned : decoder.scan state buffer = .item value next rest) :
    decoder.drain state buffer = (decoder.drain next rest).after [value] := by
  have shorter := decoder.consumes scanned
  simp only [drain, drainFor, scanned]
  rw [decoder.drainFor_enough shorter]
  rfl

theorem drain_append (state : S) (buffer later : List α) :
    decoder.drain state (buffer ++ later) =
      if (decoder.drain state buffer).failed then
        { decoder.drain state buffer with rest := (decoder.drain state buffer).rest ++ later }
      else
        (decoder.drain (decoder.drain state buffer).state
          ((decoder.drain state buffer).rest ++ later)).after (decoder.drain state buffer).items := by
  induction size : buffer.length using Nat.strongRecOn generalizing state buffer with
  | ind size ih =>
      cases scanned : decoder.scan state buffer with
      | more =>
          rw [decoder.drain_more scanned]
          rfl
      | fail =>
          rw [decoder.drain_fail scanned, decoder.drain_fail (decoder.fail_append scanned later)]
          rfl
      | item value next rest =>
          have shorter := decoder.consumes scanned
          rw [decoder.drain_item scanned, decoder.drain_item (decoder.item_append scanned later),
            ih rest.length (by omega) next rest rfl]
          by_cases failing : (decoder.drain next rest).failed = true
          · simp [Drained.after, failing]
          · simp [Drained.after, failing]

theorem drain_waits (state : S) (buffer : List α)
    (passed : (decoder.drain state buffer).failed = false) :
    decoder.scan (decoder.drain state buffer).state (decoder.drain state buffer).rest = .more := by
  induction size : buffer.length using Nat.strongRecOn generalizing state buffer with
  | ind size ih =>
      cases scanned : decoder.scan state buffer with
      | more =>
          rw [decoder.drain_more scanned]
          exact scanned
      | fail =>
          rw [decoder.drain_fail scanned] at passed
          cases passed
      | item value next rest =>
          have shorter := decoder.consumes scanned
          rw [decoder.drain_item scanned] at passed ⊢
          exact ih rest.length (by omega) next rest passed rfl

/-- The items collected from a chunked stream, and whether the reader fails, are those of the
stream read at once; without a failure so are the final state and the unread input. -/
theorem feed_eq_drain (state : S) (rest : List α) (chunks : List (List α))
    (waiting : decoder.scan state rest = .more) :
    (decoder.feed state rest chunks).items =
        (decoder.drain state (rest ++ chunks.flatten)).items ∧
      (decoder.feed state rest chunks).failed =
        (decoder.drain state (rest ++ chunks.flatten)).failed ∧
      ((decoder.feed state rest chunks).failed = false →
        decoder.feed state rest chunks = decoder.drain state (rest ++ chunks.flatten)) := by
  induction chunks generalizing state rest with
  | nil =>
      rw [List.flatten_nil, List.append_nil, decoder.drain_more waiting]
      exact ⟨rfl, rfl, fun _ => rfl⟩
  | cons chunk chunks ih =>
      rw [List.flatten_cons, ← List.append_assoc, decoder.drain_append state (rest ++ chunk)]
      simp only [feed]
      by_cases failing : (decoder.drain state (rest ++ chunk)).failed = true
      · rw [if_pos failing, if_pos failing]
        refine ⟨rfl, rfl, fun passed => ?_⟩
        rw [failing] at passed
        cases passed
      · rw [if_neg failing, if_neg failing]
        have paused := decoder.drain_waits state (rest ++ chunk) (by simpa using failing)
        obtain ⟨sameItems, sameFailure, same⟩ := ih _ _ paused
        refine ⟨?_, sameFailure, fun passed => ?_⟩
        · simp only [Drained.after, sameItems]
        · rw [same passed]

end Decoder

end Chunked
