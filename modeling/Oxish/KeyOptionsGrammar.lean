import Oxish.AuthCore

/-!
The options in front of an authorized key. The parser works on pieces between quotes; the grammar
here reads one character at a time. A line that has a key type is a bare key, or one forced command
and a key: everything else is refused, so that no option is silently dropped.
-/

namespace Oxish

namespace KeyOptions

section Splitting

variable {separator : Char → Bool} {text before after : List Char}

theorem splitOnceAt_eq_none (found : splitOnceAt separator text = none) :
    ∀ char ∈ text, separator char = false := by
  induction text with
  | nil => simp
  | cons char rest ih =>
      simp only [splitOnceAt] at found
      split at found
      · cases found
      · rename_i plain
        rw [Option.map_eq_none_iff] at found
        rw [List.forall_mem_cons]
        exact ⟨Bool.eq_false_iff.mpr plain, ih found⟩

theorem splitOnceAt_eq_some (found : splitOnceAt separator text = some (before, after)) :
    ∃ char, text = before ++ char :: after ∧ separator char = true ∧
      ∀ char ∈ before, separator char = false := by
  induction text generalizing before with
  | nil => cases found
  | cons char rest ih =>
      simp only [splitOnceAt] at found
      split at found
      · rename_i here
        cases found
        exact ⟨char, rfl, here, by simp⟩
      · rename_i plain
        obtain ⟨⟨front, back⟩, deeper, same⟩ := Option.map_eq_some_iff.mp found
        cases same
        obtain ⟨other, rfl, separates, clear⟩ := ih deeper
        refine ⟨other, rfl, separates, ?_⟩
        rw [List.forall_mem_cons]
        exact ⟨Bool.eq_false_iff.mpr plain, clear⟩

end Splitting

section Quoting

/-- A quoted value, character by character, up to the quote that ends it: a quote behind a
backslash is part of the value, and any other backslash is too. -/
def dequote : List Char → Option (List Char × List Char)
  | [] => none
  | '"' :: rest => some ([], rest)
  | '\\' :: '"' :: rest => (dequote rest).map fun (value, after) => ('"' :: value, after)
  | char :: rest => (dequote rest).map fun (value, after) => (char :: value, after)

def startsQuote (text : List Char) : Prop := text.head? = some '"'

theorem dequote_plain {char : Char} {rest : List Char} (noQuote : char ≠ '"')
    (noEscape : char = '\\' → ¬ startsQuote rest) :
    dequote (char :: rest) = (dequote rest).map fun (value, after) => (char :: value, after) := by
  rw [dequote.eq_def]
  split
  · rename_i same
    cases same
  · rename_i same
    exact absurd (List.cons.inj same).1 noQuote
  · rename_i same
    obtain ⟨rfl, rfl⟩ := List.cons.inj same
    exact absurd rfl (noEscape rfl)
  · rename_i same
    obtain ⟨rfl, rfl⟩ := List.cons.inj same
    rfl

theorem not_startsQuote_append {literal tail : List Char} (clear : '"' ∉ literal)
    (plain : ¬ startsQuote tail) : ¬ startsQuote (literal ++ tail) := by
  cases literal with
  | nil => exact plain
  | cons first rest =>
      intro starts
      apply clear
      rw [Option.some.inj starts]
      exact List.mem_cons_self

theorem dequote_escaped {literal : List Char} (clear : '"' ∉ literal) (rest : List Char) :
    dequote (literal ++ '\\' :: '"' :: rest) =
      (dequote rest).map fun (value, after) => (literal ++ '"' :: value, after) := by
  induction literal with
  | nil => rfl
  | cons char others ih =>
      rw [List.mem_cons, not_or] at clear
      have plain : ¬ startsQuote (others ++ '\\' :: '"' :: rest) :=
        not_startsQuote_append clear.2 (by simp [startsQuote])
      rw [List.cons_append, dequote_plain (Ne.symm clear.1) fun _ => plain, ih clear.2,
        Option.map_map]
      rfl

theorem dequote_ended {literal : List Char} (clear : '"' ∉ literal)
    (unescaped : literal.getLast? ≠ some '\\') (rest : List Char) :
    dequote (literal ++ '"' :: rest) = some (literal, rest) := by
  induction literal with
  | nil => rfl
  | cons char others ih =>
      rw [List.mem_cons, not_or] at clear
      cases others with
      | nil =>
          have noEscape : char ≠ '\\' := by simpa using unescaped
          rw [List.singleton_append, dequote_plain (Ne.symm clear.1) fun is => absurd is noEscape]
          rfl
      | cons next more =>
          have plain : ¬ startsQuote (next :: more ++ '"' :: rest) := by
            intro starts
            apply clear.2
            rw [Option.some.inj starts]
            exact List.mem_cons_self
          rw [List.cons_append, dequote_plain (Ne.symm clear.1) fun _ => plain, ih clear.2
            (by simpa using unescaped)]
          rfl

theorem dequote_unterminated {text : List Char} (clear : '"' ∉ text) : dequote text = none := by
  induction text with
  | nil => rfl
  | cons char rest ih =>
      rw [List.mem_cons, not_or] at clear
      have plain : ¬ startsQuote rest := by
        have tail := not_startsQuote_append clear.2 (by simp [startsQuote] : ¬ startsQuote [])
        rwa [List.append_nil] at tail
      rw [dequote_plain (Ne.symm clear.1) fun _ => plain, ih clear.2]
      rfl

theorem quotedValue_eq {rounds : Nat} {text : List Char} (enough : text.length < rounds)
    (value : List Char) :
    (quotedValue rounds value text).toOption =
      (dequote text).map fun (rest, after) => (value ++ rest, after) := by
  induction rounds generalizing text value with
  | zero => omega
  | succ rounds ih =>
      rw [quotedValue]
      cases found : splitOnceAt (· == '"') text with
      | none =>
          have clear : '"' ∉ text := by
            intro member
            simpa using splitOnceAt_eq_none found '"' member
          rw [dequote_unterminated clear]
          rfl
      | some parts =>
          obtain ⟨literal, next⟩ := parts
          obtain ⟨char, rfl, separates, plain⟩ := splitOnceAt_eq_some found
          have clear : '"' ∉ literal := by
            intro member
            simpa using plain '"' member
          obtain rfl : char = '"' := by simpa using separates
          rw [List.length_append, List.length_cons] at enough
          dsimp only
          split
          · rename_i escaped
            -- The last character of the piece is the backslash.
            obtain ⟨front, rfl⟩ := List.getLast?_eq_some_iff.mp escaped
            have front_clear : '"' ∉ front := fun member => clear (List.mem_append_left _ member)
            have shape : front ++ ['\\'] ++ '"' :: next = front ++ '\\' :: '"' :: next := by simp
            rw [List.dropLast_concat, shape, dequote_escaped front_clear, ih (by omega),
              Option.map_map]
            congr 1
            funext ⟨rest, after⟩
            simp
          · rename_i unescaped
            rw [dequote_ended clear (fun last => unescaped last)]
            rfl

end Quoting

section Lines

def token (text : List Char) : List Char × List Char := (splitOnceAt blank text).getD (text, [])

/-- The lines that have a key type, with what is read from them. -/
inductive Reads : List Char → KeyOptions → PublicKeyAlgorithm → List Char → Prop
  | bare {line algorithm} (is : Named.typed (String.ofList (token line).1) = algorithm)
      (known : ∀ name, algorithm ≠ .unknown name) : Reads line {} algorithm (token line).2
  | command {name quoted value separator after}
      (named : String.ofList (name.map Char.toLower) = "command")
      (read : dequote quoted = some (value, separator :: after))
      (separates : blank separator = true) (typed : (token (trimStart after)).1 ≠ []) :
      Reads (name ++ '=' :: '"' :: quoted) { command := some (String.ofList value) }
        (Named.typed (String.ofList (token (trimStart after)).1)) (token (trimStart after)).2

theorem keyType_eq (options : KeyOptions) (text : List Char) :
    parseOptions.keyType options text =
      if (token text).1 = [] then ⟨options, none, (token text).2⟩
      else ⟨options, some (Named.typed (String.ofList (token text).1)), (token text).2⟩ := by
  unfold parseOptions.keyType token
  generalize (splitOnceAt blank text).getD (text, []) = parts
  obtain ⟨word, rest⟩ := parts
  cases word with
  | nil => rfl
  | cons first others => rfl

def endsName (char : Char) : Bool := char == '=' || char == ',' || blank char

def readValue (text : List Char) : Except (List Char) (Option (List Char) × List Char) :=
  match text.dropWhile fun char => !endsName char with
  | '=' :: '"' :: quoted =>
    (quotedValue (quoted.length + 1) [] quoted).map fun (value, next) => (some value, next)
  | '=' :: _ => .error text
  | _ => .ok (none, text.dropWhile fun char => !endsName char)

theorem parseOptions_succ (rounds : Nat) (options : KeyOptions) (text : List Char) :
    parseOptions (rounds + 1) options text =
      match readValue text with
      | .error stopped => ⟨options, none, stopped⟩
      | .ok (value, next) =>
        match String.ofList ((text.takeWhile fun char => !endsName char).map Char.toLower), value,
            options.command with
        | "command", some command, none =>
          match next with
          | ',' :: next =>
            parseOptions rounds { options with command := some (String.ofList command) } next
          | char :: _ =>
            if blank char then
              parseOptions.keyType { options with command := some (String.ofList command) }
                (trimStart next)
            else ⟨{ options with command := some (String.ofList command) }, none, next⟩
          | [] => parseOptions.keyType { options with command := some (String.ofList command) } []
        | _, _, _ => ⟨options, none, text⟩ := rfl

theorem readValue_some {text value next : List Char} :
    readValue text = .ok (some value, next) ↔
      ∃ quoted, (text.dropWhile fun char => !endsName char) = '=' :: '"' :: quoted ∧
        dequote quoted = some (value, next) := by
  unfold readValue
  split
  · rename_i quoted behind
    have read : (quotedValue (quoted.length + 1) [] quoted).toOption = dequote quoted := by
      rw [quotedValue_eq (Nat.lt_succ_self quoted.length)]
      cases dequote quoted <;> rfl
    rw [behind]
    constructor
    · intro valued
      cases outcome : quotedValue (quoted.length + 1) [] quoted with
      | error stopped =>
          rw [outcome] at valued
          cases valued
      | ok found =>
          rw [outcome] at valued read
          cases valued
          exact ⟨quoted, rfl, read.symm⟩
    · rintro ⟨other, same, found⟩
      cases same
      rw [found] at read
      cases outcome : quotedValue (quoted.length + 1) [] quoted with
      | error stopped =>
          rw [outcome] at read
          cases read
      | ok both =>
          rw [outcome] at read
          cases read
          rfl
  · rename_i rest other behind
    constructor
    · intro valued
      cases valued
    · rintro ⟨quoted, same, _⟩
      exact absurd (behind.symm.trans same) (by
        intro both
        exact other _ (List.cons.inj both).2)
  · rename_i other behind
    constructor
    · intro valued
      cases valued
    · rintro ⟨quoted, same, _⟩
      exact absurd same (behind _)

theorem parseOptions_spent {options : KeyOptions} (given : options.command.isSome = true)
    (rounds : Nat) (text : List Char) : (parseOptions rounds options text).algorithm = none := by
  cases rounds with
  | zero => rfl
  | succ rounds =>
      obtain ⟨command, is⟩ := Option.isSome_iff_exists.mp given
      rw [parseOptions_succ, is]
      cases readValue text with
      | error stopped => rfl
      | ok parts =>
          dsimp only
          split
          · contradiction
          · rfl

theorem trimStart_blank {char : Char} (separates : blank char = true) (rest : List Char) :
    trimStart (char :: rest) = trimStart rest := by
  have white : whiteSpace char = true := by
    simp only [blank, Bool.or_eq_true, beq_iff_eq] at separates
    rcases separates with rfl | rfl
    · rfl
    · rfl
  simp [trimStart, white]

theorem endsName_named {name : List Char}
    (named : String.ofList (name.map Char.toLower) = "command") :
    ∀ char ∈ name, (!endsName char) = true := by
  intro char member
  have spelled : char.toLower ∈ "command".toList := by
    rw [← named, String.toList_ofList]
    exact List.mem_map_of_mem member
  rw [Bool.not_eq_true']
  by_contra ends
  simp only [endsName, blank, Bool.not_eq_false, Bool.or_eq_true, beq_iff_eq] at ends
  rcases ends with (rfl | rfl) | rfl | rfl
  · exact absurd spelled (by decide)
  · exact absurd spelled (by decide)
  · exact absurd spelled (by decide)
  · exact absurd spelled (by decide)

theorem parseOptions_reads {rounds : Nat} {line rest : List Char} {options : KeyOptions}
    {algorithm : PublicKeyAlgorithm}
    (parsed : parseOptions (rounds + 1) {} line = ⟨options, some algorithm, rest⟩) :
    Reads line options algorithm rest := by
  rw [parseOptions_succ] at parsed
  cases valued : readValue line with
  | error stopped =>
      rw [valued] at parsed
      cases parsed
  | ok parts =>
      obtain ⟨value, next⟩ := parts
      rw [valued] at parsed
      dsimp only at parsed
      split at parsed
      · rename_i command named _
        obtain ⟨quoted, behind, read⟩ := readValue_some.mp valued
        have whole := @List.takeWhile_append_dropWhile _ (fun char => !endsName char) line
        rw [behind] at whole
        rw [← whole]
        split at parsed
        · rename_i later
          have spent := parseOptions_spent
            (rfl : ({ command := some (String.ofList command) } : KeyOptions).command.isSome = true)
            rounds later
          rw [parsed] at spent
          cases spent
        · rename_i separator after _
          split at parsed
          · rename_i separates
            rw [trimStart_blank separates, keyType_eq] at parsed
            split at parsed
            · cases parsed
            · rename_i typed
              cases parsed
              exact .command named read separates typed
          · cases parsed
        · cases parsed
      · cases parsed

theorem parseOptions_command {rounds : Nat} {name quoted value after : List Char} {separator : Char}
    (named : String.ofList (name.map Char.toLower) = "command")
    (read : dequote quoted = some (value, separator :: after)) (separates : blank separator = true)
    (typed : (token (trimStart after)).1 ≠ []) :
    parseOptions (rounds + 1) {} (name ++ '=' :: '"' :: quoted) =
      ⟨{ command := some (String.ofList value) },
        some (Named.typed (String.ofList (token (trimStart after)).1)),
        (token (trimStart after)).2⟩ := by
  have clear := endsName_named named
  have front : ((name ++ '=' :: '"' :: quoted).takeWhile fun char => !endsName char) = name := by
    rw [List.takeWhile_append_of_pos clear]
    simp [endsName]
  have behind : ((name ++ '=' :: '"' :: quoted).dropWhile fun char => !endsName char) =
      '=' :: '"' :: quoted := by
    rw [List.dropWhile_append_of_pos clear]
    simp [endsName]
  have noComma : separator ≠ ',' := by
    rintro rfl
    cases separates
  rw [parseOptions_succ, readValue_some.mpr ⟨quoted, behind, read⟩, front, named]
  dsimp only
  split
  · rename_i same _
    cases same
    split
    · rename_i same
      exact absurd (List.cons.inj same).1 noComma
    · rename_i same
      obtain ⟨rfl, rfl⟩ := List.cons.inj same
      rw [if_pos separates, trimStart_blank separates, keyType_eq, if_neg typed]
    · rename_i same
      cases same
  · rename_i other
    exact absurd rfl (other value rfl rfl)

theorem typed_unknown {text : List Char} (member : '=' ∈ text) :
    (Named.typed (String.ofList text) : PublicKeyAlgorithm) = .unknown (String.ofList text) := by
  have spelled (name : String) (clear : '=' ∉ name.toList) : String.ofList text ≠ name := by
    rintro rfl
    rw [String.toList_ofList] at clear
    exact clear member
  dsimp only [Named.typed]
  split
  · rename_i same
    exact absurd same (spelled _ (by decide))
  · rename_i same
    exact absurd same (spelled _ (by decide))
  · rfl

theorem token_cons {char : Char} (plain : blank char = false) (rest : List Char) :
    token (char :: rest) = (char :: (token rest).1, (token rest).2) := by
  simp only [token, splitOnceAt, plain, Bool.false_eq_true, ↓reduceIte]
  cases splitOnceAt blank rest <;> rfl

theorem mem_token {char : Char} {before : List Char} (plain : blank char = false)
    (clear : ∀ other ∈ before, blank other = false) (after : List Char) :
    char ∈ (token (before ++ char :: after)).1 := by
  induction before with
  | nil =>
      rw [List.nil_append, token_cons plain]
      exact List.mem_cons_self
  | cons first rest ih =>
      rw [List.forall_mem_cons] at clear
      rw [List.cons_append, token_cons clear.1]
      exact List.mem_cons_of_mem first (ih clear.2)

theorem token_append {before : List Char} (clear : ∀ char ∈ before, blank char = false)
    {separator : Char} (separates : blank separator = true) (after : List Char) :
    token (before ++ separator :: after) = (before, after) := by
  induction before with
  | nil => simp [token, splitOnceAt, separates]
  | cons first rest ih =>
      rw [List.forall_mem_cons] at clear
      rw [List.cons_append, token_cons clear.1, ih clear.2]

theorem parse_eq (text : List Char) :
    parse text =
      match (Named.typed (String.ofList (token text).1) : PublicKeyAlgorithm) with
      | .unknown _ => parseOptions (text.length + 1) {} text
      | algorithm => ⟨{}, some algorithm, (token text).2⟩ := rfl

theorem parse_iff_reads {line rest : List Char} {options : KeyOptions}
    {algorithm : PublicKeyAlgorithm} :
    parse line = ⟨options, some algorithm, rest⟩ ↔ Reads line options algorithm rest := by
  rw [parse_eq]
  constructor
  · intro parsed
    split at parsed
    · exact parseOptions_reads parsed
    · rename_i known
      cases parsed
      exact .bare rfl known
  · intro reads
    cases reads with
    | bare is known =>
        rw [is]
        split
        · rename_i name
          exact absurd rfl (known name)
        · rfl
    | @command name quoted value separator after named read separates typed =>
        have clear : ∀ other ∈ name, blank other = false := by
          intro other member
          have plain := endsName_named named other member
          simp only [endsName, Bool.not_eq_true', Bool.or_eq_false_iff] at plain
          exact plain.2
        rw [typed_unknown (mem_token rfl clear _)]
        exact parseOptions_command named read separates typed

end Lines

section Escaping

def escapeQuotes : List Char → List Char
  | [] => []
  | char :: rest => if char = '"' then '\\' :: '"' :: escapeQuotes rest else char :: escapeQuotes rest

theorem not_startsQuote_escapeQuotes {value : List Char} (some : value ≠ []) (rest : List Char) :
    ¬ startsQuote (escapeQuotes value ++ rest) := by
  cases value with
  | nil => exact absurd rfl some
  | cons first others =>
      by_cases quote : first = '"'
      · simp [escapeQuotes, quote, startsQuote]
      · simp [escapeQuotes, quote, startsQuote]

/-- Reading back what was escaped, unless it ends in a backslash: that one would escape the quote
that is to end the value. -/
theorem dequote_escapeQuotes {value : List Char} (unescaped : value.getLast? ≠ some '\\')
    (rest : List Char) : dequote (escapeQuotes value ++ '"' :: rest) = some (value, rest) := by
  induction value with
  | nil => rfl
  | cons first others ih =>
      have tail : others.getLast? ≠ some '\\' := by
        intro last
        apply unescaped
        rw [List.getLast?_cons, last]
        rfl
      by_cases quote : first = '"'
      · subst quote
        simp only [escapeQuotes, ↓reduceIte, List.cons_append]
        change (dequote (escapeQuotes others ++ '"' :: rest)).map _ = _
        rw [ih tail]
        rfl
      · have noEscape : first = '\\' → ¬ startsQuote (escapeQuotes others ++ '"' :: rest) := by
          rintro rfl
          apply not_startsQuote_escapeQuotes
          rintro rfl
          exact unescaped rfl
        rw [escapeQuotes, if_neg quote, List.cons_append, dequote_plain quote noEscape, ih tail]
        rfl

/-- A line has a key type exactly when it is in the grammar, with what the grammar reads from it;
and a command that is written with its quotes escaped is read back. -/
theorem key_options_grammar :
    (∀ (line rest : List Char) (options : KeyOptions) (algorithm : PublicKeyAlgorithm),
      parse line = ⟨options, some algorithm, rest⟩ ↔ Reads line options algorithm rest) ∧
    ∀ (command : String) (name after : List Char) (separator : Char),
      command.toList.getLast? ≠ some '\\' → String.ofList (name.map Char.toLower) = "command" →
      blank separator = true → (token (trimStart after)).1 ≠ [] →
      parse (name ++ '=' :: '"' :: (escapeQuotes command.toList ++ '"' :: separator :: after)) =
        ⟨{ command := some command },
          some (Named.typed (String.ofList (token (trimStart after)).1)),
          (token (trimStart after)).2⟩ := by
  refine ⟨fun line rest options algorithm => parse_iff_reads, ?_⟩
  intro command name after separator unescaped named separates typed
  have reads := Reads.command named (dequote_escapeQuotes unescaped (separator :: after)) separates
    typed
  rw [String.ofList_toList] at reads
  exact parse_iff_reads.mpr reads

example : (parse "command=\"say \\\"hi\\\"\" ssh-ed25519 AAAA".toList).options =
    { command := some "say \"hi\"" } := by
  decide +kernel

end Escaping

end KeyOptions

end Oxish
