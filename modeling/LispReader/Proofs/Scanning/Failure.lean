import LispReader.Proofs.Scanning.Continuation

/-!
# Where cutting fails

A text cannot be cut into tokens for one of two reasons. A character is refused
by a scanner that took all the characters before it, or the text ends inside a
string. A string is remembered together with the place of its opening quote, so
both errors name a character of the text and the place where it stands. Main
statement: `tokenize_eq_error_iff`.
-/

namespace LispReader

namespace Scanner

theorem readWord_error {current extended : Mode} {position : Position}
    {character : Char} {error : ReadError}
    (rejected : readWord current extended position character = .error error) :
    error = .invalidCharacter character .symbol position := by
  unfold readWord at rejected
  repeat' split at rejected
  all_goals cases rejected
  rfl

theorem readExpression_error {before : Lookback} {position : Position}
    {character : Char} {error : ReadError}
    (rejected : readExpression before position character = .error error) :
    ∃ setting, setting ≠ .string ∧
      error = .invalidCharacter character setting position := by
  unfold readExpression at rejected
  split at rejected
  · cases rejected
    refine ⟨_, ?_, rfl⟩
    split <;> decide
  · repeat' split at rejected
    all_goals cases rejected
    all_goals exact ⟨.expression, by decide, rfl⟩

/-- What a scanner refuses is the character that it is given, where it is given
it. In a string and in a comment it refuses nothing. -/
theorem Mode.read_error {mode : Mode} {position : Position} {character : Char}
    {error : ReadError}
    (rejected : mode.read position character = .error error) :
    ∃ setting, setting ≠ .string ∧
      error = .invalidCharacter character setting position := by
  cases mode with
  | expression before => exact readExpression_error rejected
  | string opening reversed | comment opening reversed =>
      simp only [Mode.read] at rejected
      split at rejected <;> cases rejected
  | keyword opening reversed | symbol opening reversed =>
      exact ⟨.symbol, by decide, readWord_error rejected⟩

theorem refused_of_read {scanner : Scanner} {character : Char}
    {error : ReadError} (rejected : scanner.read character = .error error) :
    scanner.mode.read scanner.position character = .error error := by
  unfold Scanner.read at rejected
  cases outcome : scanner.mode.read scanner.position character with
  | ok step =>
      rw [outcome] at rejected
      cases rejected
  | error refused =>
      rw [outcome] at rejected
      cases rejected
      rfl

theorem read_error {scanner : Scanner} {character : Char} {error : ReadError}
    (rejected : scanner.read character = .error error) :
    ∃ setting, setting ≠ .string ∧
      error = .invalidCharacter character setting scanner.position :=
  Mode.read_error (refused_of_read rejected)

/-- A string is begun by a quote between tokens and goes on with every other
character. -/
theorem Mode.string_of_read {mode : Mode} {position opening : Position}
    {character : Char} {inside : List Char} {completed : List Token}
    (accepted : mode.read position character =
      .ok (.string opening inside, completed)) :
    (∃ sign, mode = .expression sign ∧ character = '"' ∧ opening = position ∧
        inside = []) ∨
      ∃ earlier, mode = .string opening earlier ∧ character ≠ '"' ∧
        inside = character :: earlier := by
  cases Mode.read_eq_ok_iff.mp accepted with
  | @between sign _ _ _ _ begins =>
      cases begins with
      | string => exact .inl ⟨sign, rfl, rfl, rfl, rfl⟩
  | inString noQuote => exact .inr ⟨_, rfl, noQuote, rfl⟩

/-- Whether a scanner that took these characters is between tokens. -/
def BetweenTokens (characters : List Char) : Prop :=
  ∃ reached sign, feed Scanner.read start characters = (reached, none) ∧
    reached.mode = .expression sign

/-- Whether these characters end with a quote between tokens, standing at
`opening`, and with what has been read of a string since, newest character
first. -/
def EndsInString (characters : List Char) (opening : Position)
    (inside : List Char) : Prop :=
  ∃ before, characters = before ++ '"' :: inside.reverse ∧
    BetweenTokens before ∧
    '"' ∉ inside ∧ opening = .following before

theorem endsInString_quote {before : List Char}
    (between : BetweenTokens before) :
    EndsInString (before ++ ['"']) (.following before) [] :=
  ⟨before, rfl, between, List.not_mem_nil, rfl⟩

theorem EndsInString.concat {characters inside : List Char}
    {opening : Position} {character : Char}
    (ends : EndsInString characters opening inside)
    (noQuote : character ≠ '"') :
    EndsInString (characters ++ [character]) opening (character :: inside) := by
  obtain ⟨before, rfl, between, absent, place⟩ := ends
  refine ⟨before, by simp, between, ?_, place⟩
  rw [List.mem_cons, not_or]
  exact ⟨Ne.symm noQuote, absent⟩

/-- A scanner inside a string knows the place of the quote that began it, and
has met no quote since. -/
theorem endsInString_of_feed {characters : List Char} {reached : Scanner}
    (accepted : feed Scanner.read start characters = (reached, none)) :
    ∀ opening inside, reached.mode = .string opening inside →
      EndsInString characters opening inside := by
  refine feed_induction
    (motive := fun earlier scanner => ∀ opening inside, scanner.mode =
        .string opening inside →
      EndsInString earlier opening inside) ?_ ?_ accepted
  · intro opening inside initial
    cases initial
  · intro earlier scanner last next before known taken opening inside inString
    obtain ⟨mode, completed, stepped, rfl⟩ := exists_step_of_read taken
    dsimp only at inString
    subst inString
    rcases Mode.string_of_read stepped with
      ⟨sign, between, rfl, rfl, rfl⟩ | ⟨shorter, inString, noQuote, rfl⟩
    · rw [position_of_feed before, Position.advance_start]
      exact endsInString_quote ⟨scanner, sign, before, between⟩
    · exact (known opening shorter inString).concat noQuote

/-- Why some characters cannot be cut into tokens. -/
inductive Failure (characters : List Char) : ReadError → Prop
  /-- A character is refused by a scanner that took all the characters before
  it. -/
  | refused {before after : List Char} {character : Char} {setting : Setting}
      {reached : Scanner} :
      characters = before ++ character :: after →
      feed Scanner.read start before = (reached, none) →
      reached.read character =
        .error (.invalidCharacter character setting (.following before)) →
      setting ≠ .string →
      Failure characters
        (.invalidCharacter character setting (.following before))
  /-- A string is begun between tokens, and no quote stands behind its opening
  quote. -/
  | unfinished {before inside : List Char} :
      characters = before ++ '"' :: inside →
      BetweenTokens before →
      '"' ∉ inside →
      Failure characters (.invalidCharacter '"' .string (.following before))

theorem failure_of_refused {characters : List Char} {reached : Scanner}
    {error : ReadError}
    (stopped : feed Scanner.read start characters = (reached, some error)) :
    Failure characters error := by
  obtain ⟨before, character, after, split, accepted, rejected⟩ :=
    exists_of_feed_eq_some stopped
  obtain ⟨setting, noString, rfl⟩ := read_error rejected
  have place : reached.position = .following before := by
    rw [position_of_feed accepted, Position.advance_start]
  rw [place] at rejected ⊢
  exact .refused split accepted rejected noString

theorem failure_of_endError? {characters : List Char} {reached : Scanner}
    {error : ReadError}
    (accepted : feed Scanner.read start characters = (reached, none))
    (ended : reached.endError? = some error) : Failure characters error := by
  cases inString : reached.mode with
  | string opening inside =>
      simp only [endError?, inString, Option.some.injEq] at ended
      subst ended
      obtain ⟨before, split, between, absent, rfl⟩ :=
        endsInString_of_feed accepted opening inside inString
      exact .unfinished split between (by simpa using absent)
  | _ => simp [endError?, inString] at ended

/-- The error of characters that cannot be cut into tokens tells why. -/
theorem failure_of_cut {characters : List Char} {error : ReadError}
    (failed : cut .start characters = .error error) :
    Failure characters error := by
  rw [cut_start] at failed
  rcases outcome : feed Scanner.read start characters with
    ⟨reached, _ | refused⟩
  · rw [outcome, conclude] at failed
    cases ended : reached.endError? with
    | none =>
        rw [ended] at failed
        cases failed
    | some unfinished =>
        rw [ended] at failed
        cases failed
        exact failure_of_endError? outcome ended
  · rw [outcome] at failed
    cases failed
    exact failure_of_refused outcome

/-- Behind a quote between tokens a scanner is inside a string for as long as
no quote comes. -/
theorem BetweenTokens.cut_string {before inside : List Char}
    (between : BetweenTokens before) (noQuote : '"' ∉ inside) :
    ∃ (tokens : List Token) (place : Position), ∀ rest,
      cut .start (before ++ '"' :: (inside ++ rest)) =
        prepend tokens ((Mode.string (.following before) inside.reverse).scan
            place rest) := by
  obtain ⟨reached, sign, accepted, mode⟩ := between
  have place : reached.position = .following before := by
    rw [position_of_feed accepted, Position.advance_start]
  have opened : (Mode.expression sign).read (.following before) '"' =
      .ok (.string (.following before) [], []) := by
    cases sign <;> rfl
  refine ⟨reached.tokens,
    ((Position.following before).after '"').advance inside, fun rest => ?_⟩
  rw [cut_append accepted, mode, place, scan_cons_of_ok opened, prepend_nil,
    scan_string noQuote, List.append_nil]

/-- Characters with a reason not to be cut are refused for that reason. -/
theorem Failure.cut {characters : List Char} {error : ReadError}
    (failure : Failure characters error) :
    cut .start characters = .error error := by
  cases failure with
  | refused split accepted rejected _ =>
      rw [split, cut_start, feed_append, accepted]
      dsimp only
      rw [feed_cons_of_error rejected]
      rfl
  | @unfinished before inside split between absent =>
      obtain ⟨tokens, place, cutString⟩ := between.cut_string absent
      rw [split, ← List.append_nil inside, cutString]
      rfl

end Scanner

/-- The text has this error exactly when a character is refused behind
characters that are taken, or a string is begun and not ended. -/
theorem tokenize_eq_error_iff (text : String) (error : ReadError) :
    tokenize text = .error error ↔
      Scanner.Failure (Text.unifyLineEndings text.toList) error := by
  rw [tokenize_eq_cut]
  exact ⟨Scanner.failure_of_cut, Scanner.Failure.cut⟩

end LispReader
