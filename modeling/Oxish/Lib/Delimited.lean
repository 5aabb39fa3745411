import Mathlib.Data.List.Basic
import Oxish.Lib.Outcome

/-! Decoders that know where their input ends. A stable decoder gives the same value when more
input stands behind it and leaves that input unread; a chain of stable decoders that insists on
reading everything accepts one payload and neither a shorter nor a longer form of it. -/

namespace Delimited

variable {β γ δ ε : Type}

structure Cursor (β δ : Type) where
  rest : δ → List β
  put : δ → List β → δ
  rest_put : ∀ result input, rest (put result input) = input
  put_rest : ∀ result, put result (rest result) = result
  put_put : ∀ result input other, put (put result input) other = put result other

def Stable (cursor : Cursor β δ) (parse : List β → Except ε δ) : Prop :=
  ∀ input result later, parse input = .ok result →
    parse (input ++ later) = .ok (cursor.put result (cursor.rest result ++ later))

/-- The decoder accepts this payload with this value, and refuses what is cut off or appended. -/
structure Exact (finish : List β → Except ε γ) (payload : List β) (value : γ) : Prop where
  accepted : finish payload = .ok value
  shorter : ∀ count, count < payload.length → ∃ error, finish (payload.take count) = .error error
  longer : ∀ extra, extra ≠ [] → ∃ error, finish (payload ++ extra) = .error error

variable {cursor : Cursor β δ}

theorem Stable.take {parse : List β → Except ε δ} (stable : Stable cursor parse) {input : List β}
    {whole early : δ} {count : Nat} (read : parse input = .ok whole)
    (cut : parse (input.take count) = .ok early) (within : count < input.length) :
    ∃ fewer, fewer < (cursor.rest whole).length ∧
      early = cursor.put whole ((cursor.rest whole).take fewer) := by
  have extended := stable _ _ (input.drop count) cut
  rw [List.take_append_drop, read] at extended
  cases extended
  refine ⟨(cursor.rest early).length, ?_, ?_⟩
  · rw [cursor.rest_put, List.length_append, List.length_drop]
    omega
  · rw [cursor.rest_put, List.take_left, cursor.put_put, cursor.put_rest]

theorem Exact.bind {first : List β → Except ε δ} {next : δ → Except ε γ} {payload : List β}
    {result : δ} {value : γ} (stable : Stable cursor first) (read : first payload = .ok result)
    (behind : Exact (fun input => next (cursor.put result input)) (cursor.rest result) value) :
    Exact (fun input => first input >>= next) payload value := by
  constructor
  · refine Outcome.bind_ok read ?_
    have accepted := behind.accepted
    rwa [cursor.put_rest] at accepted
  · intro count within
    cases cut : first (payload.take count) with
    | error cause => exact ⟨cause, rfl⟩
    | ok early =>
        obtain ⟨fewer, bound, rfl⟩ := stable.take read cut within
        exact behind.shorter fewer bound
  · intro extra nonempty
    obtain ⟨cause, refused⟩ := behind.longer extra nonempty
    refine ⟨cause, ?_⟩
    rw [stable _ _ extra read]
    exact refused

theorem Exact.done {finish : List β → Except ε γ} {value : γ} (accepted : finish [] = .ok value)
    (refused : ∀ extra, extra ≠ [] → ∃ error, finish extra = .error error) :
    Exact finish [] value :=
  ⟨accepted, fun _ within => absurd within (Nat.not_lt_zero _), refused⟩

theorem Exact.andThen {finish : List β → Except ε γ} {next : γ → Except ε δ} {payload : List β}
    {value : γ} {result : δ} (known : Exact finish payload value)
    (passes : next value = .ok result) :
    Exact (fun input => finish input >>= next) payload result := by
  refine ⟨Outcome.bind_ok known.accepted passes, ?_, ?_⟩
  · intro count within
    obtain ⟨cause, refused⟩ := known.shorter count within
    exact ⟨cause, by rw [refused, Outcome.error_bind]⟩
  · intro extra nonempty
    obtain ⟨cause, refused⟩ := known.longer extra nonempty
    exact ⟨cause, by rw [refused, Outcome.error_bind]⟩

theorem Exact.congr {finish other : List β → Except ε γ} {payload : List β} {value : γ}
    (same : ∀ input, finish input = other input) (known : Exact other payload value) :
    Exact finish payload value := by
  have functions : finish = other := funext same
  rw [functions]
  exact known

end Delimited
