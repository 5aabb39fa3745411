import Oxish.HandoffReceiveCore
import Oxish.PacketReading

/-!
The message of a handoff is put together again. The receiving loop is described by the bytes it has
taken so far: they say what it holds, what it answers to the next delivery, and that a payload it
ends with is the one that was framed, whatever the deliveries were.
-/

namespace Oxish.Receiving

section Framing

theorem handoffMessage_eq (payload : Bytes) :
    handoffMessage payload = encodeU32 (UInt32.ofNat payload.length) ++ payload := by
  simp [handoffMessage]

theorem length_handoffMessage (payload : Bytes) :
    (handoffMessage payload).length = 4 + payload.length := by
  rw [handoffMessage_eq, List.length_append, length_encodeU32]

def announced (bytes : Bytes) : Nat := BigEndian.decode (bytes.take 4)

theorem announced_append {bytes : Bytes} (headed : 4 ≤ bytes.length) (rest : Bytes) :
    announced (bytes ++ rest) = announced bytes := by
  rw [announced, announced, List.take_append_of_le_length headed]

theorem announced_lt (bytes : Bytes) : announced bytes < 2 ^ 32 := by
  have bound := BigEndian.decode_lt (bytes.take 4)
  have width : (bytes.take 4).length ≤ 4 := List.length_take_le ..
  calc announced bytes < 256 ^ (bytes.take 4).length := bound
    _ ≤ 256 ^ 4 := Nat.pow_le_pow_right (by omega) width
    _ = 2 ^ 32 := rfl

theorem announced_handoffMessage {payload : Bytes} (bound : payload.length < 2 ^ 32)
    (rest : Bytes) : announced (handoffMessage payload ++ rest) = payload.length := by
  have fits : payload.length < 256 ^ 4 := by omega
  have value : (UInt32.ofNat payload.length).toNat = payload.length := by
    rw [UInt32.toNat_ofNat']
    omega
  rw [handoffMessage_eq, List.append_assoc, announced, List.take_left' (length_encodeU32 _),
    encodeU32, value, BigEndian.decode_encode_of_lt fits]

theorem eq_handoffMessage {bytes : Bytes} (whole : bytes.length = 4 + announced bytes) :
    bytes = handoffMessage (bytes.drop 4) := by
  have bound := announced_lt bytes
  have headed : (bytes.take 4).length = 4 := by
    rw [List.length_take]
    omega
  have value : (UInt32.ofNat (bytes.drop 4).length).toNat = announced bytes := by
    rw [UInt32.toNat_ofNat', List.length_drop]
    omega
  have header : encodeU32 (UInt32.ofNat (bytes.drop 4).length) = bytes.take 4 := by
    rw [encodeU32, value, announced]
    exact BigEndian.encode_decode headed
  rw [handoffMessage_eq, header, List.take_append_drop]

end Framing

section Step

inductive Holds : Bytes → Receiving → Prop
  | nothing (tcp : Option Stream) : Holds [] { tcp }
  | part {taken : Bytes} (tcp : Option Stream) (headed : 4 ≤ taken.length)
    (short : taken.length < 4 + announced taken) :
    Holds taken { length := some (announced taken), received := taken.drop 4, tcp }

theorem Holds.not_exceeded {taken : Bytes} {state : Receiving} (holds : Holds taken state) :
    ¬ 4 + announced taken < taken.length := by
  cases holds with
  | nothing tcp => simp
  | part tcp headed short => omega

/-- What is said about all the bytes so far, the latest delivery included. -/
def verdict (tcp : Option Stream) (bytes : Bytes) : Except Error Accepted :=
  let state := { length := some (announced bytes), received := bytes.drop 4, tcp }
  match compare bytes.length (4 + announced bytes) with
  | .gt => .error (.invalidState "received more bytes than expected")
  | .eq => .ok (.whole state)
  | .lt => .ok (.more state)

theorem verdict_more (tcp : Option Stream) {bytes : Bytes} (headed : 4 ≤ bytes.length)
    (short : bytes.length < 4 + announced bytes) :
    ∃ next, verdict tcp bytes = .ok (.more next) ∧ Holds bytes next := by
  refine ⟨_, ?_, .part tcp headed short⟩
  simp only [verdict, Nat.compare_eq_lt.mpr short]

theorem verdict_whole (tcp : Option Stream) {bytes : Bytes}
    (whole : bytes.length = 4 + announced bytes) :
    ∃ last, verdict tcp bytes = .ok (.whole last) ∧ last.received = bytes.drop 4 := by
  refine ⟨{ length := some (announced bytes), received := bytes.drop 4, tcp }, ?_, rfl⟩
  simp only [verdict, Nat.compare_eq_eq.mpr whole]

theorem verdict_exceeded (tcp : Option Stream) {bytes : Bytes}
    (long : 4 + announced bytes < bytes.length) :
    verdict tcp bytes = .error (.invalidState "received more bytes than expected") := by
  simp only [verdict, Nat.compare_eq_gt.mpr long]

structure Fits (taken : Bytes) (delivery : Delivery) : Prop where
  small : delivery.data.length ≤ Delivery.chunkLen
  nonempty : delivery.data ≠ []
  headed : 4 ≤ (taken ++ delivery.data).length

theorem Holds.accept {taken : Bytes} {state : Receiving} (holds : Holds taken state)
    {delivery : Delivery} (fits : Fits taken delivery) :
    state.accept delivery = verdict (state.descriptor delivery) (taken ++ delivery.data) := by
  have small : ¬ Delivery.chunkLen < delivery.data.length := Nat.not_lt.mpr fits.small
  have nonempty : delivery.data.isEmpty = false := by simp [fits.nonempty]
  have headed := fits.headed
  rw [Receiving.accept]
  simp only [small, nonempty, Bool.false_eq_true, ↓reduceIte]
  cases holds with
  | nothing tcp =>
    rw [List.nil_append] at headed ⊢
    have split : splitFirstChunk 4 delivery.data =
        some (⟨delivery.data.take 4, by simp [headed]⟩, delivery.data.drop 4) :=
      dif_pos headed
    have same : compare (delivery.data.drop 4).length (announced delivery.data) =
        compare delivery.data.length (4 + announced delivery.data) := by
      rw [List.length_drop]
      grind [Nat.compare_eq_ite_lt]
    simp only [split, List.nil_append, verdict]
    rw [← same]
    rfl
  | @part taken tcp started short =>
    have same : (taken.drop 4).length + delivery.data.length + 4 =
        (taken ++ delivery.data).length := by
      rw [List.length_drop, List.length_append]
      omega
    have tail : (taken ++ delivery.data).drop 4 = taken.drop 4 ++ delivery.data :=
      List.drop_append_of_le_length started
    have compared : compare ((taken.drop 4).length + delivery.data.length) (announced taken) =
        compare (taken ++ delivery.data).length (4 + announced taken) := by
      rw [← same]
      grind [Nat.compare_eq_ite_lt]
    -- Once it is known how the lengths compare, both sides are the same answer.
    cases order : compare (taken ++ delivery.data).length (4 + announced taken) with
    | lt => simp only [verdict, announced_append started, tail, compared, order]
    | eq => simp only [verdict, announced_append started, tail, compared, order]
    | gt => simp only [verdict, announced_append started, compared, order]

theorem Holds.accept_unfit {taken : Bytes} {state : Receiving} (holds : Holds taken state)
    {delivery : Delivery} (unfit : ¬ Fits taken delivery) :
    ∃ error, state.accept delivery = .error error := by
  rw [Receiving.accept]
  by_cases small : Delivery.chunkLen < delivery.data.length
  · exact ⟨_, if_pos small⟩
  rw [if_neg small]
  by_cases empty : delivery.data = []
  · exact ⟨_, if_pos (by simp [empty])⟩
  rw [if_neg (by simp [empty])]
  have unheaded : (taken ++ delivery.data).length < 4 := by
    by_contra headed
    exact unfit ⟨by omega, empty, by omega⟩
  cases holds with
  | nothing tcp =>
    have short : splitFirstChunk 4 delivery.data = none := splitFirstChunk_eq_none.mpr unheaded
    simp only [short]
    exact ⟨_, rfl⟩
  | part tcp started short =>
    rw [List.length_append] at unheaded
    omega

end Step

section Run

def bytesOf (deliveries : List Delivery) : Bytes := deliveries.flatMap Delivery.data

@[simp] theorem bytesOf_nil : bytesOf [] = [] := rfl

@[simp] theorem bytesOf_cons (delivery : Delivery) (deliveries : List Delivery) :
    bytesOf (delivery :: deliveries) = delivery.data ++ bytesOf deliveries := List.flatMap_cons

@[simp] theorem bytesOf_append (first second : List Delivery) :
    bytesOf (first ++ second) = bytesOf first ++ bytesOf second := List.flatMap_append

theorem run_append {state next : Receiving} {script : List (Except IoError Delivery)}
    (waits : state.run script = .ok (.waiting next)) (later : List (Except IoError Delivery)) :
    state.run (script ++ later) = next.run later := by
  induction script generalizing state with
  | nil =>
    cases waits
    rfl
  | cons outcome script ih =>
    cases outcome with
    | error error => cases waits
    | ok delivery =>
      rw [List.cons_append]
      simp only [run] at waits ⊢
      cases accepted : state.accept delivery with
      | error error =>
        rw [accepted] at waits
        cases waits
      | ok answer =>
        rw [accepted] at waits
        cases answer with
        | more following => exact ih waits
        | whole last => cases waits

theorem Holds.run_waiting {taken : Bytes} {state : Receiving} (holds : Holds taken state)
    {deliveries : List Delivery}
    (sized : ∀ delivery ∈ deliveries, delivery.data ≠ [] ∧
      delivery.data.length ≤ Delivery.chunkLen)
    (headed : ∀ first ∈ deliveries.head?, 4 ≤ (taken ++ first.data).length)
    (short : (taken ++ bytesOf deliveries).length < 4 + announced (taken ++ bytesOf deliveries)) :
    ∃ next, state.run (deliveries.map .ok) = .ok (.waiting next) ∧
      Holds (taken ++ bytesOf deliveries) next := by
  induction deliveries generalizing taken state with
  | nil =>
    refine ⟨state, rfl, ?_⟩
    rw [bytesOf_nil, List.append_nil]
    exact holds
  | cons delivery deliveries ih =>
    obtain ⟨nonempty, small⟩ := sized delivery List.mem_cons_self
    have started : 4 ≤ (taken ++ delivery.data).length := headed delivery rfl
    rw [bytesOf_cons, ← List.append_assoc] at short ⊢
    have same := announced_append started (bytesOf deliveries)
    have shorter : (taken ++ delivery.data).length < 4 + announced (taken ++ delivery.data) := by
      rw [same, List.length_append] at short
      omega
    obtain ⟨next, verdict, held⟩ :=
      verdict_more (state.descriptor delivery) started shorter
    have accepted : state.accept delivery = .ok (.more next) :=
      (holds.accept ⟨small, nonempty, started⟩).trans verdict
    have onward : ∀ first ∈ deliveries.head?, 4 ≤ (taken ++ delivery.data ++ first.data).length := by
      intro first _
      rw [List.length_append]
      omega
    obtain ⟨last, ran, rest⟩ :=
      ih held (fun other mem => sized other (List.mem_cons_of_mem _ mem)) onward short
    refine ⟨last, ?_, rest⟩
    simp only [List.map_cons, run, accepted]
    exact ran

inductive Stands (taken : Bytes) (script : List (Except IoError Delivery)) :
    Except Error Reception → Prop
  | failed (error : Error) : Stands taken script (.error error)
  | waiting (used : List Delivery) {next : Receiving} (all : script = used.map .ok)
    (holds : Holds (taken ++ bytesOf used) next) : Stands taken script (.ok (.waiting next))
  | ended (used : List Delivery) {last : Receiving} {later : List (Except IoError Delivery)}
    (split : script = used.map .ok ++ later) (bound : last.received.length < 2 ^ 32)
    (framed : taken ++ bytesOf used = handoffMessage last.received) :
    Stands taken script (.ok (.ended last later))

theorem Stands.cons {taken : Bytes} {delivery : Delivery}
    {script : List (Except IoError Delivery)} {result : Except Error Reception}
    (stands : Stands (taken ++ delivery.data) script result) :
    Stands taken (.ok delivery :: script) result := by
  cases stands with
  | failed error => exact .failed error
  | waiting used all holds =>
    refine .waiting (delivery :: used) (by rw [all, List.map_cons]) ?_
    rw [bytesOf_cons, ← List.append_assoc]
    exact holds
  | ended used split bound framed =>
    refine .ended (delivery :: used) (by rw [split, List.map_cons, List.cons_append]) bound ?_
    rw [bytesOf_cons, ← List.append_assoc]
    exact framed

theorem stands_whole {taken : Bytes} {delivery : Delivery} {last : Receiving}
    (whole : (taken ++ delivery.data).length = 4 + announced (taken ++ delivery.data))
    (received : last.received = (taken ++ delivery.data).drop 4)
    (script : List (Except IoError Delivery)) :
    Stands taken (.ok delivery :: script) (.ok (.ended last script)) := by
  have bound := announced_lt (taken ++ delivery.data)
  refine .ended [delivery] rfl ?_ ?_
  · rw [received, List.length_drop]
    omega
  · rw [bytesOf_cons, bytesOf_nil, List.append_nil, received]
    exact eq_handoffMessage whole

theorem Holds.run {taken : Bytes} {state : Receiving} (holds : Holds taken state)
    (script : List (Except IoError Delivery)) : Stands taken script (state.run script) := by
  induction script generalizing taken state with
  | nil =>
    refine .waiting [] rfl ?_
    rw [bytesOf_nil, List.append_nil]
    exact holds
  | cons outcome script ih =>
    cases outcome with
    | error error => exact .failed (.io error)
    | ok delivery =>
      rw [Receiving.run]
      by_cases fits : Fits taken delivery
      · rw [holds.accept fits]
        rcases Nat.lt_trichotomy (taken ++ delivery.data).length
          (4 + announced (taken ++ delivery.data)) with short | whole | long
        · obtain ⟨next, more, held⟩ :=
            verdict_more (state.descriptor delivery) fits.headed short
          rw [more]
          exact (ih held).cons
        · obtain ⟨last, ended, received⟩ :=
            verdict_whole (state.descriptor delivery) whole
          rw [ended]
          exact stands_whole whole received script
        · rw [verdict_exceeded _ long]
          exact .failed _
      · obtain ⟨error, refused⟩ := holds.accept_unfit fits
        rw [refused]
        exact .failed error

theorem run_framed {script later : List (Except IoError Delivery)} {last : Receiving}
    (ran : run {} script = .ok (.ended last later)) :
    ∃ used : List Delivery, script = used.map .ok ++ later ∧
      bytesOf used = handoffMessage last.received ∧ last.received.length < 2 ^ 32 := by
  have stands := (Holds.nothing none).run script
  rw [ran] at stands
  cases stands with
  | ended used split bound framed =>
    rw [List.nil_append] at framed
    exact ⟨used, split, framed, bound⟩

end Run

section Reassembly

/-- A message in the pieces it is delivered in. -/
structure SplitInto (message : Bytes) (deliveries : List Delivery) : Prop where
  joined : bytesOf deliveries = message
  sized : ∀ delivery ∈ deliveries, delivery.data ≠ [] ∧
    delivery.data.length ≤ Delivery.chunkLen
  headed : ∀ first ∈ deliveries.head?, 4 ≤ first.data.length

variable {payload : Bytes} {deliveries : List Delivery}

theorem bytesOf_take (deliveries : List Delivery) (count : Nat) :
    bytesOf (deliveries.take count) ++ bytesOf (deliveries.drop count) = bytesOf deliveries := by
  rw [← bytesOf_append, List.take_append_drop]

theorem SplitInto.missing {message : Bytes} (split : SplitInto message deliveries) {count : Nat}
    (before : count < deliveries.length) : 0 < (bytesOf (deliveries.drop count)).length := by
  have nonempty := (split.sized deliveries[count] (List.getElem_mem before)).1
  rw [List.drop_eq_getElem_cons before, bytesOf_cons, List.length_append]
  have some := List.length_pos_iff.mpr nonempty
  omega

theorem SplitInto.run_take (split : SplitInto (handoffMessage payload) deliveries)
    (bound : payload.length < 2 ^ 32) {count : Nat} (before : count < deliveries.length) :
    ∃ next, Receiving.run {} ((deliveries.take count).map .ok) = .ok (.waiting next) ∧
      Holds (bytesOf (deliveries.take count)) next := by
  have parts := bytesOf_take deliveries count
  have missing := split.missing before
  have sized : ∀ delivery ∈ deliveries.take count, delivery.data ≠ [] ∧
      delivery.data.length ≤ Delivery.chunkLen :=
    fun delivery mem => split.sized delivery (List.mem_of_mem_take mem)
  cases count with
  | zero => exact ⟨{}, rfl, .nothing none⟩
  | succ count =>
    cases deliveries with
    | nil => simp at before
    | cons delivery deliveries =>
      have started : 4 ≤ delivery.data.length := split.headed delivery rfl
      have headed : 4 ≤ (bytesOf ((delivery :: deliveries).take (count + 1))).length := by
        rw [List.take_succ_cons, bytesOf_cons, List.length_append]
        omega
      have total : (bytesOf ((delivery :: deliveries).take (count + 1))).length +
          (bytesOf ((delivery :: deliveries).drop (count + 1))).length = 4 + payload.length := by
        rw [← List.length_append, parts, split.joined, length_handoffMessage]
      have value : announced (bytesOf ((delivery :: deliveries).take (count + 1))) =
          payload.length := by
        rw [← announced_append headed, parts, split.joined,
          ← List.append_nil (handoffMessage payload), announced_handoffMessage bound]
      refine (Holds.nothing none).run_waiting sized ?_ ?_
      · intro first isFirst
        cases isFirst
        exact started
      · rw [List.nil_append, value]
        omega

theorem SplitInto.run_all (split : SplitInto (handoffMessage payload) deliveries)
    (bound : payload.length < 2 ^ 32) (later : List (Except IoError Delivery)) :
    ∃ last, Receiving.run {} (deliveries.map .ok ++ later) = .ok (.ended last later) ∧
      last.received = payload := by
  have joined := split.joined
  have nonempty : deliveries ≠ [] := by
    rintro rfl
    have length : 0 = (handoffMessage payload).length := congrArg List.length joined
    rw [length_handoffMessage] at length
    omega
  obtain ⟨front, final, rfl⟩ := List.eq_nil_or_concat deliveries |>.resolve_left nonempty
  rw [List.concat_eq_append] at split joined ⊢
  have before : front.length < (front ++ [final]).length := by simp
  obtain ⟨next, waits, holds⟩ := split.run_take bound before
  rw [List.take_left] at waits holds
  obtain ⟨filled, small⟩ := split.sized final (by simp)
  have message : bytesOf front ++ final.data = handoffMessage payload := by
    rw [← joined, bytesOf_append, bytesOf_cons, bytesOf_nil, List.append_nil]
  have value := announced_handoffMessage bound []
  rw [List.append_nil] at value
  have fits : Fits (bytesOf front) final := by
    refine ⟨small, filled, ?_⟩
    rw [message, length_handoffMessage]
    omega
  have whole : (bytesOf front ++ final.data).length =
      4 + announced (bytesOf front ++ final.data) := by
    rw [message, length_handoffMessage, value]
  obtain ⟨last, ended, received⟩ := verdict_whole (next.descriptor final) whole
  have accepted : next.accept final = .ok (.whole last) := (holds.accept fits).trans ended
  refine ⟨last, ?_, ?_⟩
  · rw [List.map_append, List.append_assoc, run_append waits]
    simp only [List.map_cons, List.map_nil, List.cons_append, List.nil_append, run, accepted]
  · rw [received, message, handoffMessage_eq, List.drop_left' (length_encodeU32 _)]

theorem run_exceeded {used : List Delivery} {state : Receiving}
    (waits : Receiving.run {} (used.map .ok) = .ok (.waiting state))
    (bound : payload.length < 2 ^ 32) {final : Delivery}
    (small : final.data.length ≤ Delivery.chunkLen) {extra : Bytes} (excess : extra ≠ [])
    (message : bytesOf used ++ final.data = handoffMessage payload ++ extra)
    (later : List (Except IoError Delivery)) :
    Receiving.run {} (used.map .ok ++ .ok final :: later) =
      .error (.invalidState "received more bytes than expected") := by
  have stands := (Holds.nothing none).run (used.map .ok)
  rw [waits] at stands
  cases stands with
  | waiting others all holds =>
    have same : used = others := List.map_injective_iff.mpr (fun _ _ => Except.ok.inj) all
    subst same
    rw [List.nil_append] at holds
    have value : announced (bytesOf used ++ final.data) = payload.length := by
      rw [message, announced_handoffMessage bound]
    have length : (bytesOf used ++ final.data).length = 4 + payload.length + extra.length := by
      rw [message, List.length_append, length_handoffMessage]
    have surplus := List.length_pos_iff.mpr excess
    have long : 4 + announced (bytesOf used ++ final.data) <
        (bytesOf used ++ final.data).length := by
      omega
    -- An empty delivery would leave the loop with more than it can hold.
    have filled : final.data ≠ [] := by
      intro empty
      rw [empty, List.append_nil] at value length
      exact holds.not_exceeded (by omega)
    have fits : Fits (bytesOf used) final := ⟨small, filled, by omega⟩
    have refused := (holds.accept fits).trans (verdict_exceeded (state.descriptor final) long)
    rw [run_append waits]
    simp only [run, refused]

theorem run_ended_early {script : List (Except IoError Delivery)} {state : Receiving}
    (waits : Receiving.run {} script = .ok (.waiting state)) {final : Delivery}
    (empty : final.data = []) (later : List (Except IoError Delivery)) :
    Receiving.run {} (script ++ .ok final :: later) =
      .error (.io { kind := .unexpectedEof, message := "EOF while receiving handoff message" }) := by
  have refused : state.accept final =
      .error (.io { kind := .unexpectedEof, message := "EOF while receiving handoff message" }) := by
    rw [accept]
    simp [empty]
  rw [run_append waits]
  simp only [run, refused]

/--
A payload below the bound, in any pieces: the loop waits for the last piece and then has the
payload; it fails on a piece that brings too much and at the end of the stream; and whatever is
delivered, a payload it ends with is the one whose message it has taken.
-/
theorem handoff_reassembled {payload : Bytes} (bound : payload.length < 2 ^ 32)
    {deliveries : List Delivery} (split : SplitInto (handoffMessage payload) deliveries) :
    (∀ count < deliveries.length, ∃ state,
      run {} ((deliveries.take count).map .ok) = .ok (.waiting state)) ∧
    (∀ later, ∃ last, run {} (deliveries.map .ok ++ later) = .ok (.ended last later) ∧
      last.received = payload) ∧
    (∀ (used : List Delivery) (state : Receiving) (final : Delivery) (extra : Bytes)
      (later : List (Except IoError Delivery)),
      run {} (used.map .ok) = .ok (.waiting state) →
      final.data.length ≤ Delivery.chunkLen → extra ≠ [] →
      bytesOf used ++ final.data = handoffMessage payload ++ extra →
      run {} (used.map .ok ++ .ok final :: later) =
        .error (.invalidState "received more bytes than expected")) ∧
    (∀ (script : List (Except IoError Delivery)) (state : Receiving) (final : Delivery)
      (later : List (Except IoError Delivery)),
      run {} script = .ok (.waiting state) → final.data = [] →
      run {} (script ++ .ok final :: later) =
        .error (.io { kind := .unexpectedEof
                      message := "EOF while receiving handoff message" })) ∧
    ∀ (script later : List (Except IoError Delivery)) (last : Receiving),
      run {} script = .ok (.ended last later) →
      ∃ used : List Delivery, script = used.map .ok ++ later ∧
        bytesOf used = handoffMessage last.received ∧ last.received.length < 2 ^ 32 := by
  refine ⟨?_, split.run_all bound, ?_, ?_, fun _ _ _ => run_framed⟩
  · intro count before
    obtain ⟨state, waits, _⟩ := split.run_take bound before
    exact ⟨state, waits⟩
  · intro used state final extra later waits small excess message
    exact run_exceeded waits bound small excess message later
  · intro script state final later waits empty
    exact run_ended_early waits empty later

theorem handoff_reassembled_halves :
    ([7, 8, 9] : Bytes).length < 2 ^ 32 ∧
    SplitInto (handoffMessage [7, 8, 9]) [⟨[0, 0, 0, 3, 7], []⟩, ⟨[8, 9], []⟩] ∧
    ∀ later, ∃ last,
      run {} (.ok ⟨[0, 0, 0, 3, 7], []⟩ :: .ok ⟨[8, 9], []⟩ :: later) = .ok (.ended last later) ∧
      last.received = [7, 8, 9] := by
  have bound : ([7, 8, 9] : Bytes).length < 2 ^ 32 := by decide
  have split : SplitInto (handoffMessage [7, 8, 9]) [⟨[0, 0, 0, 3, 7], []⟩, ⟨[8, 9], []⟩] := by
    refine ⟨rfl, ?_, ?_⟩
    · intro delivery mem
      rcases List.mem_pair.mp mem with rfl | rfl <;> exact ⟨by decide, by decide⟩
    · rintro first ⟨⟩
      decide
  exact ⟨bound, split, (handoff_reassembled bound split).2.1⟩

end Reassembly

section Resume

variable {α σ ρ τ : Type} [SocketAddr α] {provider : CryptoProvider σ ρ}
  {closeOnExec : Except IoError Unit}

theorem resumeFrom_some {script : List (Except IoError Delivery)} {session : Session α σ ρ τ}
    (resumed : resumeFrom provider script closeOnExec = .ok (some session)) :
    ∃ (used : List Delivery) (later : List (Except IoError Delivery)) (payload : Bytes)
      (stream : Stream), script = used.map .ok ++ later ∧ bytesOf used = handoffMessage payload ∧
        resume provider stream payload = .ok session := by
  rw [resumeFrom] at resumed
  cases ran : Receiving.run {} script with
  | error error =>
    rw [ran] at resumed
    cases resumed
  | ok reception =>
    rw [ran] at resumed
    cases reception with
    | waiting state => cases resumed
    | ended last later =>
      obtain ⟨used, split, framed, _⟩ := run_framed ran
      dsimp only at resumed
      cases described : last.tcp with
      | none =>
        rw [described] at resumed
        cases resumed
      | some stream =>
        rw [described] at resumed
        cases closeOnExec with
        | error error => cases resumed
        | ok done =>
          refine ⟨used, later, last.received, stream, split, framed, ?_⟩
          dsimp only at resumed
          cases rebuilt : (resume provider stream last.received :
            Except (Stop Error) (Session α σ ρ τ)) with
          | error stop =>
            rw [rebuilt] at resumed
            cases resumed
          | ok other =>
            rw [rebuilt] at resumed
            cases resumed
            rfl

theorem descriptor_of_some {state : Receiving} {stream : Stream} (kept : state.tcp = some stream)
    (delivery : Delivery) : state.descriptor delivery = some stream := by
  rw [descriptor, kept]
  induction delivery.rights with
  | nil => rfl
  | cons fds rights ih => exact ih

theorem accept_tcp {state : Receiving} {delivery : Delivery} {answer : Accepted}
    (accepted : state.accept delivery = .ok answer) :
    ∃ next : Receiving, next.tcp = state.descriptor delivery ∧
      (answer = .more next ∨ answer = .whole next) := by
  unfold accept at accepted
  dsimp only at accepted
  split at accepted
  · cases accepted
  split at accepted
  · cases accepted
  split at accepted
  · split at accepted
    · cases accepted
    · cases accepted
      exact ⟨_, rfl, .inr rfl⟩
    · cases accepted
      exact ⟨_, rfl, .inl rfl⟩
  · split at accepted
    · split at accepted
      · cases accepted
      · cases accepted
        exact ⟨_, rfl, .inr rfl⟩
      · cases accepted
        exact ⟨_, rfl, .inl rfl⟩
    · cases accepted

theorem run_tcp {state last : Receiving} {stream : Stream}
    {script later : List (Except IoError Delivery)}
    (kept : ∀ delivery, script.head? = some (.ok delivery) →
      state.descriptor delivery = some stream)
    (ran : state.run script = .ok (.ended last later)) : last.tcp = some stream := by
  induction script generalizing state with
  | nil => cases ran
  | cons outcome script ih =>
    cases outcome with
    | error error => cases ran
    | ok delivery =>
      have described := kept delivery rfl
      rw [run] at ran
      cases accepted : state.accept delivery with
      | error error =>
        rw [accepted] at ran
        cases ran
      | ok answer =>
        rw [accepted] at ran
        obtain ⟨next, same, rfl | rfl⟩ := accept_tcp accepted
        · exact ih (fun following _ => descriptor_of_some (same.trans described) following) ran
        · cases ran
          exact same.trans described

theorem resumeFrom_delivered {payload : Bytes} (bound : payload.length < 2 ^ 32)
    {stream : Stream} {first : Delivery} {deliveries : List Delivery}
    (split : SplitInto (handoffMessage payload) (first :: deliveries))
    (carried : first.rights = [[stream]]) (later : List (Except IoError Delivery)) :
    (resumeFrom provider ((first :: deliveries).map .ok ++ later) (.ok ()) :
      Except (Stop Error) (Option (Session α σ ρ τ))) =
      (resume provider stream payload).map some := by
  obtain ⟨last, ran, received⟩ := split.run_all bound later
  have described : ({} : Receiving).descriptor first = some stream := by
    rw [descriptor, carried]
    rfl
  have kept : last.tcp = some stream := by
    refine run_tcp ?_ ran
    rintro delivery ⟨⟩
    exact described
  rw [resumeFrom, ran]
  dsimp only
  rw [kept, received]

end Resume
end Oxish.Receiving
