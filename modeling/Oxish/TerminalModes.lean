import Oxish.ChannelsCore
import Oxish.Lib.Association
import Oxish.Wire

/-!
Terminal modes of a `pty-req`. A length field stands in front of pairs of an opcode and a value,
which end with the opcode zero; what comes behind that is not looked at. The loop reads from the
counted bytes only, so what follows them is left as it is.
-/

namespace Oxish

def Mode.opcode : Mode → UInt8
  | .vIntr => 1
  | .vQuit => 2
  | .vErase => 3
  | .vKill => 4
  | .vEof => 5
  | .vEol => 6
  | .vEol2 => 7
  | .vStart => 8
  | .vStop => 9
  | .vSusp => 10
  | .vDSusp => 11
  | .vReprint => 12
  | .vWErase => 13
  | .vLNext => 14
  | .vFlush => 15
  | .vSwtch => 16
  | .vStatus => 17
  | .vDiscard => 18
  | .ignPar => 30
  | .parMrk => 31
  | .iNPck => 32
  | .iStrip => 33
  | .iNlCr => 34
  | .ignCr => 35
  | .iCrNl => 36
  | .iUcLc => 37
  | .ixOn => 38
  | .ixAny => 39
  | .ixOff => 40
  | .iMaxBel => 41
  | .iUtf8 => 42
  | .iSig => 50
  | .iCanon => 51
  | .xCase => 52
  | .echo => 53
  | .echoE => 54
  | .echoK => 55
  | .echoNl => 56
  | .noFlsh => 57
  | .tOStop => 58
  | .iExten => 59
  | .echoCtl => 60
  | .echoKe => 61
  | .pendin => 62
  | .oPost => 70
  | .oLcUc => 71
  | .oNlCr => 72
  | .oCrNl => 73
  | .oNoCr => 74
  | .oNlRet => 75
  | .cs7 => 90
  | .cs8 => 91
  | .parenB => 92
  | .parOdd => 93
  | .ttyOpISpeed => 128
  | .ttyOpOSpeed => 129

theorem Mode.opcode_ne_zero (mode : Mode) : mode.opcode ≠ 0 := by
  cases mode
  all_goals decide

theorem Mode.decode_opcode (mode : Mode) (rest : Bytes) :
    Mode.decode (mode.opcode :: rest) = .ok ⟨some mode, rest⟩ := by
  cases mode
  all_goals rfl

theorem Mode.opcode_injective : Function.Injective Mode.opcode := by
  intro left right same
  have read := Mode.decode_opcode left []
  rw [same, Mode.decode_opcode] at read
  cases read
  rfl

theorem Mode.decode_zero (rest : Bytes) : Mode.decode (0 :: rest) = .ok ⟨none, rest⟩ := rfl

theorem Mode.decode_ok {bytes : Bytes} {decoded : Decoded (Option Mode)}
    (read : Mode.decode bytes = .ok decoded) :
    bytes = (decoded.value.elim 0 Mode.opcode) :: decoded.next := by
  cases bytes with
  | nil => cases read
  | cons value next =>
      obtain ⟨⟨byte, rest⟩, first, read⟩ := Outcome.bind_eq_ok.mp read
      cases first
      dsimp only at read
      split at read
      all_goals cases read
      all_goals rfl

section Loop

def codedModes (pairs : List (Mode × UInt32)) : Bytes :=
  pairs.flatMap fun pair => pair.1.opcode :: encodeU32 pair.2

theorem codedModes_cons (mode : Mode) (value : UInt32) (pairs : List (Mode × UInt32)) :
    codedModes ((mode, value) :: pairs) = mode.opcode :: (encodeU32 value ++ codedModes pairs) := rfl

theorem length_le_codedModes (pairs : List (Mode × UInt32)) :
    pairs.length ≤ (codedModes pairs).length := by
  induction pairs with
  | nil => exact Nat.zero_le _
  | cons pair pairs ih =>
      obtain ⟨mode, value⟩ := pair
      simp only [codedModes_cons, List.length_cons, List.length_append, length_encodeU32]
      omega

theorem decodeModes_coded {pairs : List (Mode × UInt32)} {rounds : Nat}
    (enough : pairs.length < rounds) (modes : List (Mode × UInt32)) (further : Bytes) :
    decodeModes rounds modes (codedModes pairs ++ 0 :: further) =
      .ok (Association.collect modes pairs) := by
  induction pairs generalizing rounds modes with
  | nil =>
      obtain ⟨rounds, rfl⟩ := Nat.exists_eq_succ_of_ne_zero (Nat.ne_of_gt enough)
      exact Outcome.bind_ok (Mode.decode_zero further) rfl
  | cons pair pairs ih =>
      obtain ⟨mode, value⟩ := pair
      obtain ⟨rounds, rfl⟩ := Nat.exists_eq_succ_of_ne_zero (Nat.ne_of_gt (Nat.zero_lt_of_lt enough))
      rw [codedModes_cons, List.cons_append, List.append_assoc]
      refine Outcome.bind_ok (Mode.decode_opcode mode _) ?_
      refine Outcome.bind_ok (decodeU32_encodeU32 value _) ?_
      exact ih (Nat.lt_of_succ_lt_succ enough) _

theorem decodeModes_ok {rounds : Nat} {modes result : List (Mode × UInt32)} {content : Bytes}
    (done : decodeModes rounds modes content = .ok result) :
    ∃ pairs further, content = codedModes pairs ++ 0 :: further := by
  induction rounds generalizing modes content with
  | zero => cases done
  | succ rounds ih =>
      obtain ⟨⟨mode, next⟩, first, done⟩ := Outcome.bind_eq_ok.mp done
      have head := Mode.decode_ok first
      cases mode with
      | none => exact ⟨[], next, head⟩
      | some mode =>
          obtain ⟨⟨value, later⟩, second, done⟩ := Outcome.bind_eq_ok.mp done
          obtain ⟨pairs, further, rest⟩ := ih done
          refine ⟨(mode, value) :: pairs, further, ?_⟩
          dsimp only at head second rest
          rw [head, decodeU32_ok second, rest, codedModes_cons, List.cons_append, List.append_assoc]
          rfl

/-- The loop of the source, which has no bound; `none` when the fuel is used up. -/
def modesLoop : Nat → List (Mode × UInt32) → Bytes →
    Option (Except ProtoError (List (Mode × UInt32)))
  | 0, _, _ => none
  | fuel + 1, modes, input =>
    match Mode.decode input with
    | .error cause => some (.error cause)
    | .ok ⟨none, _⟩ => some (.ok modes)
    | .ok ⟨some mode, next⟩ =>
      match decodeU32 next with
      | .error cause => some (.error cause)
      | .ok ⟨value, next⟩ => modesLoop fuel (Association.insert modes (mode, value)) next

/-- Every round takes bytes off the input, so the loop ends, and how many rounds it may take does
not matter beyond that. -/
theorem modesLoop_eq {fuel rounds : Nat} {input : Bytes} (enough : input.length < fuel)
    (many : input.length < rounds) (modes : List (Mode × UInt32)) :
    modesLoop fuel modes input = some (decodeModes rounds modes input) := by
  induction fuel generalizing rounds modes input with
  | zero => cases enough
  | succ fuel ih =>
      obtain ⟨rounds, rfl⟩ := Nat.exists_eq_succ_of_ne_zero (Nat.ne_of_gt (Nat.zero_lt_of_lt many))
      rw [modesLoop, decodeModes]
      cases first : Mode.decode input with
      | error cause => rfl
      | ok decoded =>
          obtain ⟨mode, next⟩ := decoded
          have head := congrArg List.length (Mode.decode_ok first)
          cases mode with
          | none => rfl
          | some mode =>
              rw [Outcome.ok_bind]
              dsimp only
              cases second : decodeU32 next with
              | error cause => rfl
              | ok decoded =>
                  obtain ⟨value, later⟩ := decoded
                  have tail := congrArg List.length (decodeU32_ok second)
                  simp only [List.length_cons, List.length_append, length_encodeU32] at head tail
                  rw [Outcome.ok_bind]
                  exact ih (by omega) (by omega) _

end Loop

/-- `BTreeMap<Mode, u32>::decode`. -/
def decodeModeMap (input : Bytes) : Except ProtoError (Decoded (List (Mode × UInt32))) := do
  let ⟨content, rest⟩ ← decodeBytes input
  let modes ← decodeModes (content.length + 1) [] content
  .ok ⟨modes, rest⟩

def modeMapLoop (fuel : Nat) (input : Bytes) :
    Option (Except ProtoError (Decoded (List (Mode × UInt32)))) :=
  match decodeBytes input with
  | .error cause => some (.error cause)
  | .ok ⟨content, rest⟩ =>
    (modesLoop fuel [] content).map fun outcome => outcome.map fun modes => ⟨modes, rest⟩

theorem modeMapLoop_eq {fuel : Nat} {input : Bytes} (enough : input.length < fuel) :
    modeMapLoop fuel input = some (decodeModeMap input) := by
  unfold modeMapLoop decodeModeMap
  cases read : decodeBytes input with
  | error cause => rfl
  | ok decoded =>
      obtain ⟨content, rest⟩ := decoded
      have whole := congrArg List.length (decodeBytes_ok read).1
      simp only [List.length_append, length_encodeBytes] at whole
      dsimp only
      rw [modesLoop_eq (by omega) (Nat.lt_succ_self content.length), Outcome.ok_bind]
      cases decodeModes (content.length + 1) [] content with
      | error cause => rfl
      | ok modes => rfl

theorem decodeModeMap_behind {content : Bytes} (short : content.length < 2 ^ 32) (rest : Bytes) :
    decodeModeMap (encodeBytes content ++ rest) =
      (decodeModes (content.length + 1) [] content).map fun modes => ⟨modes, rest⟩ := by
  rw [decodeModeMap, decodeBytes_encodeBytes short, Outcome.ok_bind]
  dsimp only
  cases decodeModes (content.length + 1) [] content with
  | error cause => rfl
  | ok modes => rfl

theorem decodeModeMap_coded {pairs : List (Mode × UInt32)} {further : Bytes}
    (short : (codedModes pairs ++ 0 :: further).length < 2 ^ 32) (rest : Bytes) :
    decodeModeMap (encodeBytes (codedModes pairs ++ 0 :: further) ++ rest) =
      .ok ⟨Association.collect [] pairs, rest⟩ := by
  have fewer := length_le_codedModes pairs
  rw [decodeModeMap_behind short, decodeModes_coded, Outcome.map_ok]
  simp only [List.length_append, List.length_cons]
  omega

theorem decodeModeMap_ok {input : Bytes} {decoded : Decoded (List (Mode × UInt32))}
    (done : decodeModeMap input = .ok decoded) :
    ∃ pairs further, (codedModes pairs ++ 0 :: further).length < 2 ^ 32 ∧
      input = encodeBytes (codedModes pairs ++ 0 :: further) ++ decoded.next := by
  obtain ⟨⟨content, rest⟩, read, done⟩ := Outcome.bind_eq_ok.mp done
  obtain ⟨modes, listed, done⟩ := Outcome.bind_eq_ok.mp done
  cases done
  obtain ⟨whole, short⟩ := decodeBytes_ok read
  obtain ⟨pairs, further, same⟩ := decodeModes_ok listed
  dsimp only at whole short same ⊢
  subst same
  exact ⟨pairs, further, short, whole⟩

structure PtyHeader where
  term : Bytes
  cols : UInt32
  rows : UInt32
  widthPx : UInt32
  heightPx : UInt32
  short : term.length < 2 ^ 32

def PtyHeader.encode (header : PtyHeader) : Bytes :=
  encodeBytes header.term ++ encodeU32 header.cols ++ encodeU32 header.rows ++
    encodeU32 header.widthPx ++ encodeU32 header.heightPx

def PtyHeader.finish (header : PtyHeader) (modes : Except ProtoError (List (Mode × UInt32))) :
    Except ProtoError PtyReq :=
  match fromUtf8 header.term with
  | none => .error (.invalidPacket "invalid UTF-8 in pty-req data")
  | some term => modes.map fun terminalModes =>
    { term, cols := header.cols, rows := header.rows, widthPx := header.widthPx,
      heightPx := header.heightPx, terminalModes }

theorem PtyReq.decode_modes (header : PtyHeader) {content : Bytes}
    (short : content.length < 2 ^ 32) (rest : Bytes) :
    PtyReq.decode (header.encode ++ (encodeBytes content ++ rest)) =
      (header.finish (decodeModes (content.length + 1) [] content)).map fun ptyReq =>
        ⟨ptyReq, rest⟩ := by
  simp only [PtyHeader.encode, List.append_assoc]
  refine (Outcome.bind_of_ok (decodeBytes_encodeBytes header.short _) _).trans ?_
  unfold PtyHeader.finish
  dsimp only
  cases fromUtf8 header.term with
  | none => rfl
  | some term =>
      refine (Outcome.bind_of_ok (decodeU32_encodeU32 header.cols _) _).trans ?_
      refine (Outcome.bind_of_ok (decodeU32_encodeU32 header.rows _) _).trans ?_
      refine (Outcome.bind_of_ok (decodeU32_encodeU32 header.widthPx _) _).trans ?_
      refine (Outcome.bind_of_ok (decodeU32_encodeU32 header.heightPx _) _).trans ?_
      refine (Outcome.bind_of_ok (decodeBytes_encodeBytes short _) _).trans ?_
      dsimp only
      cases decodeModes (content.length + 1) [] content with
      | error cause => rfl
      | ok modes => rfl

/-- The modes of a terminal are read exactly: the loop ends, it accepts pairs of opcodes and
values up to the first opcode zero, it keeps the last value of each mode, and it leaves what
stands behind the counted bytes. -/
theorem terminal_modes_exact :
    (Function.Injective Mode.opcode ∧ ∀ mode : Mode, mode.opcode ≠ 0) ∧
    (∀ input fuel, input.length < fuel → modeMapLoop fuel input = some (decodeModeMap input)) ∧
    (∀ input, (∃ decoded, decodeModeMap input = .ok decoded) ↔
      ∃ pairs further rest, (codedModes pairs ++ 0 :: further).length < 2 ^ 32 ∧
        input = encodeBytes (codedModes pairs ++ 0 :: further) ++ rest) ∧
    (∀ pairs further rest, (codedModes pairs ++ 0 :: further).length < 2 ^ 32 →
      ∃ modes, Association.Latest pairs modes ∧
        decodeModeMap (encodeBytes (codedModes pairs ++ 0 :: further) ++ rest) =
          .ok ⟨modes, rest⟩) ∧
    ∀ content : Bytes, content.length < 2 ^ 32 →
      (∃ outcome : Except ProtoError (List (Mode × UInt32)), ∀ rest,
        decodeModeMap (encodeBytes content ++ rest) = outcome.map fun modes => ⟨modes, rest⟩) ∧
      ∀ header : PtyHeader, ∃ outcome : Except ProtoError PtyReq, ∀ rest,
        PtyReq.decode (header.encode ++ (encodeBytes content ++ rest)) =
          outcome.map fun ptyReq => ⟨ptyReq, rest⟩ := by
  refine ⟨⟨Mode.opcode_injective, Mode.opcode_ne_zero⟩, ?_, ?_, ?_, ?_⟩
  · intro input fuel enough
    exact modeMapLoop_eq enough
  · intro input
    constructor
    · rintro ⟨decoded, done⟩
      obtain ⟨pairs, further, short, whole⟩ := decodeModeMap_ok done
      exact ⟨pairs, further, decoded.next, short, whole⟩
    · rintro ⟨pairs, further, rest, short, rfl⟩
      exact ⟨_, decodeModeMap_coded short rest⟩
  · intro pairs further rest short
    exact ⟨_, Association.latest_collect pairs, decodeModeMap_coded short rest⟩
  · intro content short
    exact ⟨⟨_, decodeModeMap_behind short⟩, fun header => ⟨_, PtyReq.decode_modes header short⟩⟩

theorem terminal_modes_exact_repeated :
    modeMapLoop 3 [0, 0] = some (decodeModeMap [0, 0]) ∧
    (∃ modes, Association.Latest [(Mode.echo, 0), (Mode.echo, 1)] modes ∧
      decodeModeMap (encodeBytes (codedModes [(Mode.echo, 0), (Mode.echo, 1)] ++ [0, 7]) ++ [9]) =
        .ok ⟨modes, [9]⟩) ∧
    ∃ outcome : Except ProtoError (List (Mode × UInt32)), ∀ rest,
      decodeModeMap (encodeBytes [200, 1] ++ rest) = outcome.map fun modes => ⟨modes, rest⟩ :=
  ⟨terminal_modes_exact.2.1 _ _ (by decide),
    terminal_modes_exact.2.2.2.1 _ [7] _ (by decide +kernel),
    (terminal_modes_exact.2.2.2.2 _ (by decide)).1⟩

end Oxish
