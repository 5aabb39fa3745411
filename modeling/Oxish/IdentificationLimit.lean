import Oxish.Identification

/-!
The limit of 255 bytes on an identification line. The decoder looks at the length only while it
has no line end, and then at the whole buffer. So a line that arrives with its end may be as long
as it likes, and the line of exactly 255 bytes is refused once all but its last byte is there.
-/

namespace Oxish

section Splitting

theorem splitOnce_before {pattern bytes before after : Bytes} (visible : pattern ≠ [])
    (found : splitOnce pattern bytes = some (before, after)) : splitOnce pattern before = none := by
  cases earlier : splitOnce pattern before with
  | none => rfl
  | some parts =>
      obtain ⟨front, back⟩ := parts
      have whole := splitOnce_extend earlier (pattern ++ after)
      rw [← List.append_assoc, ← splitOnce_some found, found, Option.some.injEq,
        Prod.mk.injEq] at whole
      have lengths := congrArg List.length (splitOnce_some earlier)
      have some := List.length_pos_iff.mpr visible
      rw [← whole.1, List.length_append, List.length_append] at lengths
      omega

theorem splitOnce_single_before {byte : UInt8} {bytes before after : Bytes}
    (found : splitOnce [byte] bytes = some (before, after)) : byte ∉ before := by
  intro member
  obtain ⟨front, back, rfl, absent⟩ := List.eq_append_cons_of_mem member
  have clear := splitOnce_before (by simp) found
  rw [splitOnce_single absent] at clear
  cases clear

theorem splitOnce_single_absent {byte : UInt8} {bytes : Bytes}
    (none : splitOnce [byte] bytes = none) : byte ∉ bytes := by
  intro member
  obtain ⟨front, back, rfl, absent⟩ := List.eq_append_cons_of_mem member
  rw [splitOnce_single absent] at none
  cases none

end Splitting

namespace Identification

theorem decode_spells {bytes : Bytes} {decoded : Decoded Identification}
    (accepted : Identification.decode bytes = .ok (.complete decoded)) :
    ∃ line, decoded.value.Spells line ∧ bytes = line ++ crlf ++ decoded.next ∧
      (fromUtf8 bytes).isSome := by
  have dash : strBytes "-" = [45] := by decide
  have blank : strBytes " " = [32] := by decide
  unfold Identification.decode at accepted
  split at accepted
  · cases accepted
  · rename_i text
    split at accepted
    · split at accepted <;> cases accepted
    · rename_i line next found
      split at accepted
      · cases accepted
      · rename_i rest stripped
        split at accepted
        · cases accepted
        · rename_i protocol behind dashed
          obtain ⟨start, whole, same⟩ := List.dropPrefix?_eq_some_iff.mp stripped
          rw [dash] at dashed
          rw [blank] at accepted
          have parts : line = strBytes "SSH-" ++ (protocol ++ 45 :: behind) := by
            rw [whole, eq_of_beq same, splitOnce_some dashed, List.append_assoc]
            rfl
          refine ⟨line, ?_, ?_, ?_⟩
          · cases blanked : splitOnce [32] behind with
            | none =>
                rw [blanked] at accepted
                cases accepted
                constructor
                · exact ⟨[], by rw [parts, List.append_nil], .inl ⟨rfl, rfl⟩⟩
                · exact splitOnce_single_before dashed
                · exact splitOnce_single_absent blanked
                · exact splitOnce_before (by decide) found
            | some words =>
                obtain ⟨software, comments⟩ := words
                rw [blanked] at accepted
                cases accepted
                constructor
                · refine ⟨32 :: comments, ?_, .inr rfl⟩
                  rw [parts, splitOnce_some blanked, List.append_assoc]
                  rfl
                · exact splitOnce_single_before dashed
                · exact splitOnce_single_before blanked
                · exact splitOnce_before (by decide) found
          · cases accepted
            exact splitOnce_some found
          · exact Option.isSome_iff_ne_none.mpr fun binary =>
              text (Option.isNone_iff_eq_none.mpr binary)

/-- At this buffer the limit is exact: a line that is accepted has at most 255 bytes with its end,
and a buffer that such a line begins with, without being complete, asks for more. -/
structure LimitExact (bytes : Bytes) : Prop where
  accepted : ∀ decoded, Identification.decode bytes = .ok (.complete decoded) →
    bytes.length - decoded.next.length ≤ 255
  waits : ∀ (identification : Identification) (line missing : Bytes), identification.Spells line →
    (line ++ crlf).length ≤ 255 → bytes ++ missing = line ++ crlf → missing ≠ [] →
    (fromUtf8 bytes).isSome → Identification.decode bytes = .ok (.incomplete none)

theorem decode_full {line bytes missing : Bytes} (limit : (line ++ crlf).length ≤ 255)
    (split : bytes ++ missing = line ++ crlf) (proper : missing ≠ []) (full : 253 < bytes.length) :
    bytes = line ++ [13] ∧ line.length = 253 := by
  have some := List.length_pos_iff.mpr proper
  have lengths := congrArg List.length split
  simp only [List.length_append, crlf, List.length_cons, List.length_nil] at lengths limit
  have front : line ++ [13] ++ [10] = bytes ++ missing := by simp [split, crlf]
  have same := (List.append_inj front (by
    simp only [List.length_append, List.length_cons, List.length_nil]
    omega)).1
  exact ⟨same.symm, by omega⟩

end Identification

/-- The limit is exact at every buffer, except where a longer line has arrived with its end, or
a line of 253 bytes with the first half of its end. -/
theorem identification_limit_exact_iff (bytes : Bytes) :
    Identification.LimitExact bytes ↔
      (∀ (identification : Identification) (line next : Bytes), identification.Spells line →
        bytes = line ++ crlf ++ next → (fromUtf8 bytes).isSome → (line ++ crlf).length ≤ 255) ∧
      (∀ (identification : Identification) (line : Bytes), identification.Spells line →
        line.length = 253 → (fromUtf8 bytes).isSome → bytes ≠ line ++ [13]) := by
  constructor
  · intro exact
    constructor
    · intro identification line next spells is text
      have done := Identification.decode_line spells (is ▸ text)
      have bound := exact.accepted ⟨identification, next⟩ (is ▸ done)
      have lengths := congrArg List.length is
      rw [List.length_append] at lengths
      dsimp only at bound
      omega
    · intro identification line spells long text is
      have split : bytes ++ [10] = line ++ crlf ++ [] := by simp [is, crlf]
      have lengths : bytes.length = 254 := by simp [is, long]
      have waiting := exact.waits identification line [10] spells (by simp [crlf, long])
        (by simpa using split) (by simp) text
      have ended := Identification.decode_partial spells.unbroken split (by omega) text
      rw [if_neg (by omega)] at ended
      cases waiting.symm.trans ended
  · rintro ⟨short, notFull⟩
    constructor
    · intro decoded accepted
      obtain ⟨line, spells, is, text⟩ := Identification.decode_spells accepted
      have bound := short _ line decoded.next spells is text
      have lengths := congrArg List.length is
      rw [List.length_append] at lengths
      omega
    · intro identification line missing spells limit split proper text
      have some := List.length_pos_iff.mpr proper
      have lengths := congrArg List.length split
      simp only [List.length_append, crlf, List.length_cons, List.length_nil] at lengths
      have ended := Identification.decode_partial spells.unbroken
        (split.trans (List.append_nil _).symm) (by omega) text
      rw [ended, if_pos]
      by_contra full
      obtain ⟨is, long⟩ := Identification.decode_full limit split proper (by omega)
      exact notFull identification line spells long text is

section Lines

def longIdentification (count : Nat) : Identification where
  protocol := strBytes "2.0"
  software := List.replicate count 97
  comments := []

def longLine (count : Nat) : Bytes := strBytes "SSH-2.0-" ++ List.replicate count 97

theorem length_longLine (count : Nat) : (longLine count).length = 8 + count := by
  have head : (strBytes "SSH-2.0-").length = 8 := by decide
  rw [longLine, List.length_append, head, List.length_replicate]

theorem longLine_ascii (count : Nat) : ∀ byte ∈ longLine count, byte.toNat < 128 := by
  have head : ∀ byte ∈ strBytes "SSH-2.0-", byte.toNat < 128 := by decide +kernel
  refine List.forall_mem_append.mpr ⟨head, ?_⟩
  intro byte member
  rw [List.eq_of_mem_replicate member]
  decide

theorem longLine_spelled (count : Nat) : (longIdentification count).Spells (longLine count) where
  parts := by
    have head : strBytes "SSH-2.0-" = strBytes "SSH-" ++ (strBytes "2.0" ++ [45]) := by
      decide
    refine ⟨[], ?_, .inl ⟨rfl, rfl⟩⟩
    rw [longLine, head]
    simp [longIdentification]
  protocol := by
    have two : 45 ∉ strBytes "2.0" := by decide
    exact two
  software := by simp [longIdentification]
  unbroken := by
    have head : 13 ∉ strBytes "SSH-2.0-" := by decide
    cases found : splitOnce crlf (longLine count) with
    | none => rfl
    | some parts =>
        have member : 13 ∈ longLine count := by
          rw [splitOnce_some found]
          simp [crlf]
        simp [longLine, head] at member

/-- A line of 256 bytes is accepted, and one of 255 bytes is refused when its last byte is late. -/
theorem identification_limit_missed :
    (longLine 246 ++ crlf).length = 256 ∧
      Identification.decode (longLine 246 ++ crlf) = .ok (.complete ⟨longIdentification 246, []⟩) ∧
      (longIdentification 245).Spells (longLine 245) ∧ (longLine 245 ++ crlf).length = 255 ∧
      (longLine 245 ++ [13]) ++ [10] = longLine 245 ++ crlf ∧
      (fromUtf8 (longLine 245 ++ [13])).isSome = true ∧
      Identification.decode (longLine 245 ++ [13]) = .error (.identification .tooLong) := by
  have spelled := longLine_spelled 245
  have text (count : Nat) {tail : Bytes} (ascii : ∀ byte ∈ tail, byte.toNat < 128) :
      (fromUtf8 (longLine count ++ tail)).isSome = true := by
    rw [fromUtf8_ascii (List.forall_mem_append.mpr ⟨longLine_ascii count, ascii⟩)]
    rfl
  have whole : (fromUtf8 (longLine 246 ++ crlf ++ [])).isSome = true := by
    rw [List.append_nil]
    exact text 246 (by simp [crlf])
  have accepted := Identification.decode_line (longLine_spelled 246) whole
  rw [List.append_nil] at accepted
  have late : (fromUtf8 (longLine 245 ++ [13])).isSome = true := text 245 (by simp)
  have split : longLine 245 ++ [13] ++ [10] = longLine 245 ++ crlf := by
    rw [List.append_assoc]
    rfl
  have refused := Identification.decode_partial spelled.unbroken
    (split.trans (List.append_nil _).symm) (by simp) late
  have long : ¬ (longLine 245 ++ [13]).length ≤ 253 := by
    rw [List.length_append, length_longLine]
    decide
  rw [if_neg long] at refused
  refine ⟨?_, accepted, spelled, ?_, split, late, refused⟩
  · rw [List.length_append, length_longLine]
    rfl
  · rw [List.length_append, length_longLine]
    rfl

end Lines

end Oxish
