import Oxish.Connection
import Oxish.ProviderCore

/-!
How the identification line of a client is found in what has arrived. The decoder looks at the
whole buffer after every read, so the outcome depends on where the reads end: on a character
cut in two, on a line that is almost too long, and on the bytes that came along behind it.
-/

namespace Oxish

open Stateful

section Splitting

theorem splitOnce_some {pattern bytes before after : Bytes}
    (found : splitOnce pattern bytes = some (before, after)) :
    bytes = before ++ pattern ++ after := by
  induction bytes generalizing before with
  | nil =>
      simp only [splitOnce] at found
      split at found
      · rename_i empty
        cases found
        rw [empty]
        rfl
      · cases found
  | cons byte rest ih =>
      simp only [splitOnce] at found
      split at found
      · rename_i here
        cases found
        obtain ⟨tail, same⟩ := List.isPrefixOf_iff_prefix.mp here
        rw [← same, List.drop_left, List.nil_append]
      · obtain ⟨⟨front, back⟩, deeper, same⟩ := Option.map_eq_some_iff.mp found
        cases same
        rw [ih deeper]
        rfl

theorem splitOnce_extend {pattern bytes before after : Bytes}
    (found : splitOnce pattern bytes = some (before, after)) (later : Bytes) :
    splitOnce pattern (bytes ++ later) = some (before, after ++ later) := by
  induction bytes generalizing before with
  | nil =>
      simp only [splitOnce] at found
      split at found
      · rename_i empty
        cases found
        subst empty
        cases later with
        | nil => rfl
        | cons byte rest => simp [splitOnce]
      · cases found
  | cons byte rest ih =>
      simp only [splitOnce] at found
      rw [List.cons_append]
      split at found
      · rename_i here
        cases found
        have prefixed := List.isPrefixOf_iff_prefix.mp here
        have still : pattern.isPrefixOf (byte :: (rest ++ later)) = true :=
          List.isPrefixOf_iff_prefix.mpr (prefixed.trans (List.prefix_append (byte :: rest) later))
        simp only [splitOnce, still, ↓reduceIte]
        rw [← List.cons_append, List.drop_append_of_le_length prefixed.length_le]
      · rename_i absent
        obtain ⟨⟨front, back⟩, deeper, same⟩ := Option.map_eq_some_iff.mp found
        cases same
        -- The pattern fits into the rest, so more input does not make it appear earlier.
        have room := congrArg List.length (splitOnce_some deeper)
        simp only [List.length_append] at room
        have still : ¬ pattern.isPrefixOf (byte :: (rest ++ later)) = true := by
          intro here
          apply absent
          refine List.isPrefixOf_iff_prefix.mpr (List.prefix_of_prefix_length_le
            (List.isPrefixOf_iff_prefix.mp here) (List.prefix_append (byte :: rest) later) ?_)
          rw [List.length_cons]
          omega
        simp only [splitOnce, still, Bool.false_eq_true, ↓reduceIte, ih deeper, Option.map_some]

theorem splitOnce_single {byte : UInt8} {before : Bytes} (absent : byte ∉ before) (after : Bytes) :
    splitOnce [byte] (before ++ byte :: after) = some (before, after) := by
  induction before with
  | nil => simp [splitOnce]
  | cons first rest ih =>
      rw [List.mem_cons, not_or] at absent
      obtain ⟨different, later⟩ := absent
      have elsewhere : ¬ ([byte].isPrefixOf (first :: (rest ++ byte :: after))) = true := by
        simp [different]
      rw [List.cons_append, splitOnce, if_neg elsewhere, ih later, Option.map_some]

theorem splitOnce_single_none {byte : UInt8} {bytes : Bytes} (absent : byte ∉ bytes) :
    splitOnce [byte] bytes = none := by
  induction bytes with
  | nil => simp [splitOnce]
  | cons first rest ih =>
      rw [List.mem_cons, not_or] at absent
      obtain ⟨different, later⟩ := absent
      have elsewhere : ¬ ([byte].isPrefixOf (first :: rest)) = true := by simp [different]
      rw [splitOnce, if_neg elsewhere, ih later, Option.map_none]

theorem splitOnce_line {line : Bytes} (unbroken : splitOnce crlf line = none) (after : Bytes) :
    splitOnce crlf (line ++ crlf ++ after) = some (line, after) := by
  induction line with
  | nil => simp [splitOnce, crlf]
  | cons byte rest ih =>
      simp only [splitOnce] at unbroken
      split at unbroken
      · cases unbroken
      · rename_i absent
        rw [Option.map_eq_none_iff] at unbroken
        -- The first byte of the line end may follow a line that ends in the same byte.
        have still : ¬ crlf.isPrefixOf (byte :: (rest ++ crlf ++ after)) = true := by
          intro here
          apply absent
          cases rest with
          | nil => simp [crlf] at here
          | cons next more => simpa [crlf] using here
        rw [List.cons_append, List.cons_append, splitOnce, if_neg still, ih unbroken,
          Option.map_some]

theorem splitOnce_partial {line arrived missing after : Bytes}
    (unbroken : splitOnce crlf line = none) (split : arrived ++ missing = line ++ crlf ++ after)
    (early : arrived.length < line.length + 2) : splitOnce crlf arrived = none := by
  cases found : splitOnce crlf arrived with
  | none => rfl
  | some parts =>
      obtain ⟨before, behind⟩ := parts
      have whole := splitOnce_extend found missing
      rw [split, splitOnce_line unbroken, Option.some.injEq, Prod.mk.injEq] at whole
      have lengths := congrArg List.length (splitOnce_some found)
      simp only [List.length_append, ← whole.1, crlf, List.length_cons, List.length_nil] at lengths
      omega

end Splitting

namespace Identification

/-- `SSH-protocol-software`, with comments behind a blank if there are any. -/
structure Spells (identification : Identification) (line : Bytes) : Prop where
  parts : ∃ tail, line = strBytes "SSH-" ++ (identification.protocol ++ 45 ::
      (identification.software ++ tail)) ∧
    ((tail = [] ∧ identification.comments = []) ∨ tail = 32 :: identification.comments)
  protocol : 45 ∉ identification.protocol
  software : 32 ∉ identification.software
  unbroken : splitOnce crlf line = none

theorem decode_line {identification : Identification} {line : Bytes}
    (spells : identification.Spells line) {next : Bytes}
    (text : (fromUtf8 (line ++ crlf ++ next)).isSome) :
    Identification.decode (line ++ crlf ++ next) = .ok (.complete ⟨identification, next⟩) := by
  obtain ⟨⟨tail, rfl, tailShape⟩, protocolShape, softwareShape, unbroken⟩ := spells
  have isText : ¬ (fromUtf8 ((strBytes "SSH-" ++ (identification.protocol ++ 45 ::
      (identification.software ++ tail))) ++ crlf ++ next)).isNone = true := by
    rw [Option.isNone_iff_eq_none]
    exact Option.isSome_iff_ne_none.mp text
  have dash : strBytes "-" = [45] := by decide
  have blank : strBytes " " = [32] := by decide
  have software : (splitOnce [32] (identification.software ++ tail)).getD
      (identification.software ++ tail, []) = (identification.software, identification.comments) := by
    rcases tailShape with ⟨rfl, none⟩ | rfl
    · rw [List.append_nil, splitOnce_single_none softwareShape, none]
      rfl
    · rw [splitOnce_single softwareShape]
      rfl
  have dropped (rest : Bytes) :
      List.dropPrefix? (strBytes "SSH-" ++ rest) (strBytes "SSH-") = some rest :=
    List.dropPrefix?_eq_some_iff.mpr ⟨strBytes "SSH-", rfl, beq_self_eq_true _⟩
  rw [Identification.decode, if_neg isText, splitOnce_line unbroken]
  simp only [dropped, dash, splitOnce_single protocolShape, blank, software]

theorem decode_partial {line arrived missing after : Bytes}
    (unbroken : splitOnce crlf line = none) (split : arrived ++ missing = line ++ crlf ++ after)
    (early : arrived.length < line.length + 2) (text : (fromUtf8 arrived).isSome) :
    Identification.decode arrived =
      if arrived.length ≤ 253 then .ok (.incomplete none) else .error (.identification .tooLong) := by
  have isText : ¬ (fromUtf8 arrived).isNone = true := by
    rw [Option.isNone_iff_eq_none]
    exact Option.isSome_iff_ne_none.mp text
  rw [Identification.decode, if_neg isText, splitOnce_partial unbroken split early]
  by_cases fits : arrived.length ≤ 253
  · have room : ¬ arrived.length > 255 - 2 := by omega
    simp only [if_pos fits, if_neg room]
  · have full : arrived.length > 255 - 2 := by omega
    simp only [if_neg fits, if_pos full]

theorem decode_binary {bytes : Bytes} (binary : ¬ (fromUtf8 bytes).isSome = true) :
    Identification.decode bytes = .error (.identification .invalidUtf8) := by
  have isNone : (fromUtf8 bytes).isNone = true := by simpa using binary
  rw [Identification.decode, if_pos isNone]

theorem decode_complete {bytes : Bytes} {decoded : Decoded Identification}
    (accepted : Identification.decode bytes = .ok (.complete decoded)) :
    ∃ line, splitOnce crlf bytes = some (line, decoded.next) := by
  unfold Identification.decode at accepted
  split at accepted
  · cases accepted
  · split at accepted
    · split at accepted <;> cases accepted
    · rename_i line next found
      split at accepted
      · cases accepted
      · split at accepted
        · cases accepted
        · cases accepted
          exact ⟨line, found⟩

theorem decode_incomplete {bytes : Bytes} {amount : Option Nat}
    (waiting : Identification.decode bytes = .ok (.incomplete amount)) : bytes.length ≤ 253 := by
  unfold Identification.decode at waiting
  split at waiting
  · cases waiting
  · split at waiting
    · split at waiting
      · cases waiting
      · omega
    · split at waiting
      · cases waiting
      · split at waiting
        · cases waiting
        · cases waiting

end Identification

variable {α σ ρ : Type}

/-- The reads up to the one that completes the line: after each of them the buffer is text, and
before the last it holds at most 253 bytes. -/
def Readable (line : Bytes) : Bytes → List Bytes → Prop
  | _, [] => True
  | arrived, chunk :: chunks =>
    (fromUtf8 (arrived ++ chunk)).isSome ∧
      (line.length + 2 ≤ (arrived ++ chunk).length ∨
        (arrived ++ chunk).length ≤ 253 ∧ Readable line (arrived ++ chunk) chunks)

namespace Connection

def afterRead (conn : Connection α σ ρ) (bytes : Bytes) (reads : List (Except IoError Bytes)) :
    Connection α σ ρ :=
  { conn with stream := { conn.stream with reads }, read := conn.read.extend bytes }

theorem exec_buffer {conn : Connection α σ ρ} {bytes : Bytes} {reads : List (Except IoError Bytes)}
    (arrived : conn.stream.reads = .ok bytes :: reads) (nonempty : bytes ≠ []) :
    exec buffer conn = (.ok (), conn.afterRead bytes reads) := by
  rw [buffer, exec_mk, arrived]
  cases bytes with
  | nil => exact absurd rfl nonempty
  | cons byte rest => rfl

theorem exec_identifyFor {conn : Connection α σ ρ} {bytes : Bytes}
    {reads : List (Except IoError Bytes)} (arrived : conn.stream.reads = .ok bytes :: reads)
    (nonempty : bytes ≠ []) (rounds : Nat) :
    exec (identifyFor (rounds + 1)) conn =
      match Identification.decode (conn.read.buf ++ bytes) with
      | .ok (.complete decoded) =>
        (.ok (conn.read.buf ++ bytes, decoded), conn.afterRead bytes reads)
      | .ok (.incomplete _) => exec (identifyFor rounds) (conn.afterRead bytes reads)
      | .error error =>
        (.error (.stopped (.error (.proto error))), conn.afterRead bytes reads) := by
  rw [identifyFor, exec_bind, exec_buffer arrived nonempty]
  change exec (match Identification.decode (conn.read.buf ++ bytes) with
    | .ok (.complete decoded) => _
    | .ok (.incomplete _) => _
    | .error error => _) (conn.afterRead bytes reads) = _
  split
  · rfl
  · rfl
  · rfl

/-- The loop finds what the line spells after the reads `taken`, the client is identified by the
line without its end, and what stays unread is what has arrived behind the line. -/
def AcceptsLine (conn : Connection α σ ρ) (rounds : Nat) (chunks : List Bytes)
    (later : List (Except IoError Bytes)) (identification : Identification) (line : Bytes) : Prop :=
  ∃ taken left next found last,
    chunks = taken ++ left ∧ conn.read.buf ++ taken.flatten = line ++ crlf ++ next ∧
    exec (identifyFor rounds) conn =
      (.ok (line ++ crlf ++ next, ⟨identification, next⟩), found) ∧
    exec (takeIdentification (line ++ crlf ++ next) next.length) found =
      (.ok (({} : HandshakeBuffer).prefixed line, line), last) ∧
    last.read.unread = next ∧ last.stream.reads = left.map .ok ++ later

theorem takeIdentification_line (conn : Connection α σ ρ) (line next : Bytes) :
    exec (takeIdentification (line ++ crlf ++ next) next.length) conn =
      (.ok (({} : HandshakeBuffer).prefixed line, line),
        { conn with read := conn.read.setLastLength (line.length + 2) }) := by
  have lengths : (line ++ crlf ++ next).length = line.length + 2 + next.length := by
    simp only [List.length_append, crlf, List.length_cons, List.length_nil]
  have whole : (line ++ crlf ++ next).length - next.length = line.length + 2 := by omega
  have inner : (line ++ crlf ++ next).length - next.length - 2 = line.length := by omega
  have cut : upTo? (line ++ crlf ++ next) line.length = some line := by
    rw [List.append_assoc]
    exact upTo_append rfl
  change (Except.ok (recordLine {} (line ++ crlf ++ next)
    ((line ++ crlf ++ next).length - next.length - 2)), _) = _
  rw [inner, recordLine, cut, whole]

theorem AcceptsLine.of_complete {conn : Connection α σ ρ} {rounds : Nat} {chunk next : Bytes}
    {chunks : List Bytes} {later : List (Except IoError Bytes)} {identification : Identification}
    {line : Bytes} (arrived : conn.read.buf ++ chunk = line ++ crlf ++ next)
    (done : exec (identifyFor rounds) conn = (.ok (line ++ crlf ++ next, ⟨identification, next⟩),
      conn.afterRead chunk (chunks.map .ok ++ later))) :
    conn.AcceptsLine rounds (chunk :: chunks) later identification line := by
  refine ⟨[chunk], chunks, next, _, _, rfl, ?_, done, takeIdentification_line _ line next, ?_, rfl⟩
  · simpa using arrived
  · have dropped : (conn.read.buf ++ chunk).drop (line.length + 2) = next := by
      rw [arrived]
      exact List.drop_left' (by simp [crlf])
    exact dropped

theorem acceptsLine_wait {conn : Connection α σ ρ} {rounds : Nat} {chunk : Bytes}
    {chunks : List Bytes} {later : List (Except IoError Bytes)} {identification : Identification}
    {line : Bytes} (early : conn.read.buf.length < line.length + 2)
    (waits : exec (identifyFor (rounds + 1)) conn =
      exec (identifyFor rounds) (conn.afterRead chunk (chunks.map .ok ++ later))) :
    conn.AcceptsLine (rounds + 1) (chunk :: chunks) later identification line ↔
      (conn.afterRead chunk (chunks.map .ok ++ later)).AcceptsLine rounds chunks later
        identification line := by
  constructor
  · rintro ⟨taken, left, next, found, last, order, arrived, done, cut, kept, reads⟩
    cases taken with
    | nil =>
        have lengths := congrArg List.length arrived
        simp only [List.flatten_nil, List.append_nil, List.length_append, crlf, List.length_cons,
          List.length_nil] at lengths
        omega
    | cons first taken =>
        rw [List.cons_append, List.cons.injEq] at order
        obtain ⟨rfl, rfl⟩ := order
        rw [List.flatten_cons, ← List.append_assoc] at arrived
        rw [waits] at done
        exact ⟨taken, left, next, found, last, rfl, arrived, done, cut, kept, reads⟩
  · rintro ⟨taken, left, next, found, last, rfl, arrived, done, cut, kept, reads⟩
    rw [← waits] at done
    refine ⟨chunk :: taken, left, next, found, last, rfl, ?_, done, cut, kept, reads⟩
    rw [List.flatten_cons, ← List.append_assoc]
    exact arrived

theorem not_acceptsLine {conn last : Connection α σ ρ} {rounds : Nat} {chunks : List Bytes}
    {later : List (Except IoError Bytes)} {identification : Identification} {line : Bytes}
    {halt : Halt} (stopped : exec (identifyFor rounds) conn = (.error halt, last)) :
    ¬ conn.AcceptsLine rounds chunks later identification line := by
  rintro ⟨taken, left, next, found, final, _, _, done, _⟩
  rw [stopped] at done
  cases done

theorem acceptsLine_iff {conn : Connection α σ ρ} {identification : Identification}
    {line rest : Bytes} {chunks : List Bytes} {later : List (Except IoError Bytes)} {rounds : Nat}
    (spells : identification.Spells line) (nonempty : ∀ chunk ∈ chunks, chunk ≠ [])
    (split : conn.read.buf ++ chunks.flatten = line ++ crlf ++ rest)
    (early : conn.read.buf.length < line.length + 2)
    (reads : conn.stream.reads = chunks.map .ok ++ later) (enough : chunks.length ≤ rounds) :
    conn.AcceptsLine rounds chunks later identification line ↔
      Readable line conn.read.buf chunks := by
  induction chunks generalizing conn rounds with
  | nil =>
      have lengths := congrArg List.length split
      simp only [List.flatten_nil, List.append_nil, List.length_append, crlf, List.length_cons,
        List.length_nil] at lengths
      omega
  | cons chunk chunks ih =>
      obtain ⟨here, others⟩ := List.forall_mem_cons.mp nonempty
      rw [List.length_cons] at enough
      obtain ⟨rounds, rfl⟩ : ∃ fewer, rounds = fewer + 1 := ⟨rounds - 1, by omega⟩
      have round := exec_identifyFor reads here rounds
      rw [List.flatten_cons, ← List.append_assoc] at split
      rw [Readable]
      by_cases text : (fromUtf8 (conn.read.buf ++ chunk)).isSome = true
      · by_cases complete : line.length + 2 ≤ (conn.read.buf ++ chunk).length
        · -- The line is there: what follows it in the buffer stays.
          have lengths : (line ++ crlf).length = line.length + 2 := by simp [crlf]
          obtain ⟨next, arrived⟩ : line ++ crlf <+: conn.read.buf ++ chunk :=
            List.prefix_of_prefix_length_le (split ▸ List.prefix_append (line ++ crlf) rest)
              (List.prefix_append _ chunks.flatten) (by omega)
          rw [← arrived] at round text
          rw [Identification.decode_line spells text] at round
          have accepts := AcceptsLine.of_complete arrived.symm round
          simp only [accepts, arrived ▸ text, complete, true_or, and_self]
        · have unfinished : (conn.read.buf ++ chunk).length < line.length + 2 := by omega
          rw [Identification.decode_partial spells.unbroken split unfinished text] at round
          by_cases fits : (conn.read.buf ++ chunk).length ≤ 253
          · rw [if_pos fits] at round
            rw [acceptsLine_wait early round,
              ih others split unfinished rfl (by omega)]
            simp only [text, complete, fits, false_or, true_and]
            rfl
          · rw [if_neg fits] at round
            simp only [not_acceptsLine round, complete, fits, false_and, or_self, and_false]
      · rw [Identification.decode_binary text] at round
        simp only [not_acceptsLine round, text, Bool.false_eq_true, false_and]

end Connection

/-- However the stream of a client is cut into reads, the loop accepts the line at its front
exactly when it stays readable up to the read that completes it. -/
theorem identification_accepted_iff (stream : Stream) (addr : α) (secureRandom : SecureRandom)
    {identification : Identification} {line rest : Bytes} {chunks : List Bytes}
    {later : List (Except IoError Bytes)} (spells : identification.Spells line)
    (nonempty : ∀ chunk ∈ chunks, chunk ≠ []) (split : chunks.flatten = line ++ crlf ++ rest)
    (reads : stream.reads = chunks.map .ok ++ later) :
    (Connection.new stream addr secureRandom : Connection α σ ρ).AcceptsLine
        (stream.reads.length + 1) chunks later identification line ↔
      Readable line [] chunks := by
  have enough : chunks.length ≤ stream.reads.length + 1 := by
    rw [reads, List.length_append, List.length_map]
    omega
  have early : ([] : Bytes).length < line.length + 2 := by
    rw [List.length_nil]
    omega
  exact Connection.acceptsLine_iff spells nonempty split early reads enough

section Clients

def plainIdentification : Identification where
  protocol := strBytes "2.0"
  software := strBytes "client"
  comments := []

def plainLine : Bytes := strBytes "SSH-2.0-client"

theorem plainLine_spelled : plainIdentification.Spells plainLine where
  parts := ⟨[], by decide, Or.inl ⟨rfl, rfl⟩⟩
  protocol := by decide
  software := by decide
  unbroken := by decide

def clientConnection (chunks : List Bytes) : Connection Unit PlainSealer PlainOpener :=
  .new { reads := chunks.map .ok, writes := [], flushes := [] } () plainProvider.secureRandom

/-- A byte of a binary packet behind the line, in the same read, makes the line invalid text. -/
theorem identification_refuses_pipelined :
    plainIdentification.Spells plainLine ∧ plainLine.length + 2 ≤ 255 ∧
      (fromUtf8 (plainLine ++ crlf)).isSome = true ∧
      (exec (Connection.identifyFor 2) (clientConnection [plainLine ++ crlf ++ [255]])).1 =
        .error (.stopped (.error (.proto (.identification .invalidUtf8)))) ∧
      ¬ (clientConnection [plainLine ++ crlf ++ [255]]).AcceptsLine 2
        [plainLine ++ crlf ++ [255]] [] plainIdentification plainLine := by
  have binary : ¬ (fromUtf8 (plainLine ++ crlf ++ [255])).isSome = true := by decide
  have arrived : (clientConnection [plainLine ++ crlf ++ [255]]).stream.reads =
      .ok (plainLine ++ crlf ++ [255]) :: [] := rfl
  have refused : Identification.decode ((clientConnection [plainLine ++ crlf ++ [255]]).read.buf ++
      (plainLine ++ crlf ++ [255])) = .error (.identification .invalidUtf8) :=
    Identification.decode_binary binary
  have stopped := Connection.exec_identifyFor arrived (by decide) 1
  rw [refused] at stopped
  exact ⟨plainLine_spelled, by decide, by decide, congrArg Prod.fst stopped,
    Connection.not_acceptsLine stopped⟩

theorem identification_accepted_iff_pipelined :
    (clientConnection [plainLine ++ crlf, [255]]).AcceptsLine 3 [plainLine ++ crlf, [255]] []
      plainIdentification plainLine := by
  have readable : Readable plainLine [] [plainLine ++ crlf, [255]] :=
    ⟨by decide, Or.inl (by decide)⟩
  have split : [plainLine ++ crlf, [255]].flatten = plainLine ++ crlf ++ [255] := rfl
  exact (identification_accepted_iff _ () plainProvider.secureRandom plainLine_spelled (by decide)
    split rfl).mpr readable

end Clients

end Oxish
