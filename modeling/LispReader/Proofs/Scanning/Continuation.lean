import LispReader.Proofs.Lines
import LispReader.Proofs.Scanning.Token

/-!
# Texts that go on

A scanner does with the front of a text what it does with the front alone. A
character it refuses is refused whatever follows. A line feed ends every
unfinished token except a string, so a text that has been cut into tokens keeps
them when a line feed and more text follow, and the rest is cut as a text of
its own that begins on a later line. Only a sign `#` at the end must not be
followed by a line feed.
-/

namespace LispReader

namespace Scanner

theorem cut_start (characters : List Char) :
    cut .start characters = conclude (feed Scanner.read start characters) := by
  rw [conclude_feed]
  exact (prepend_nil _).symm

theorem cut_append {front : List Char} {reached : Scanner}
    (accepted : feed Scanner.read start front = (reached, none))
    (rest : List Char) :
    cut .start (front ++ rest) =
      prepend reached.tokens (reached.mode.scan reached.position rest) := by
  rw [cut_start, feed_append, accepted]
  exact conclude_feed reached rest

theorem cut_append_of_refused {front : List Char} {reached : Scanner}
    {refused : ReadError}
    (rejected : feed Scanner.read start front = (reached, some refused))
    (rest : List Char) :
    cut .start (front ++ rest) = .error refused := by
  rw [cut_start, feed_append, rejected]
  rfl

/-- An error stays when the text goes on, unless more text can mend it. -/
theorem cut_append_of_error {front : List Char} {error : ReadError}
    (failed : cut .start front = .error error)
    (final : error.isIncomplete = false) (rest : List Char) :
    cut .start (front ++ rest) = .error error := by
  rw [cut_start] at failed
  rcases outcome : feed Scanner.read start front with ⟨reached, _ | refused⟩
  · rw [outcome, conclude] at failed
    cases ending : reached.endError? with
    | none =>
        rw [ending] at failed
        cases failed
    | some unfinished =>
        rw [ending] at failed
        cases failed
        unfold endError? at ending
        split at ending
        · cases ending
          cases final
        · cases ending
  · rw [outcome] at failed
    cases failed
    exact cut_append_of_refused outcome rest

/-- Cutting a text is running a scanner over it, and completing at its end what
is unfinished. -/
theorem exists_feed_of_cut {front : List Char} {tokens : List Token}
    (success : cut .start front = .ok tokens) :
    ∃ reached, feed Scanner.read start front = (reached, none) ∧
      reached.endError? = none ∧
        tokens = reached.tokens ++ reached.mode.unfinished := by
  rw [cut_start] at success
  rcases outcome : feed Scanner.read start front with ⟨reached, _ | refused⟩
  · rw [outcome, conclude] at success
    cases ending : reached.endError? with
    | none =>
        rw [ending] at success
        cases success
        exact ⟨reached, rfl, ending, rfl⟩
    | some unfinished =>
        rw [ending] at success
        cases success
  · rw [outcome] at success
    cases success

theorem exists_step_of_read {scanner next : Scanner} {character : Char}
    (taken : scanner.read character = .ok next) :
    ∃ mode completed,
      scanner.mode.read scanner.position character = .ok (mode, completed) ∧
      next = ⟨mode, scanner.position.after character,
          completed.reverse ++ scanner.reversed⟩ := by
  unfold read at taken
  cases outcome : scanner.mode.read scanner.position character with
  | ok step =>
      rw [outcome] at taken
      cases taken
      exact ⟨_, _, rfl, rfl⟩
  | error refused =>
      rw [outcome] at taken
      cases taken

theorem position_of_feed {characters : List Char} {reached : Scanner}
    (accepted : feed Scanner.read start characters = (reached, none)) :
    reached.position = Position.start.advance characters := by
  refine feed_induction
    (motive := fun earlier scanner => scanner.position =
        Position.start.advance earlier)
    rfl ?_ accepted
  intro earlier scanner last next _ place taken
  rcases exists_step_of_read taken with ⟨mode, completed, -, rfl⟩
  simp [place]

/-- A sign is remembered only right behind its token. -/
theorem Mode.sign_of_read {mode : Mode} {position : Position}
    {character : Char} {before : Lookback} {completed : List Token}
    (accepted : mode.read position character =
      .ok (.expression before, completed))
    (sign : before ≠ .plain) :
    ∃ last, completed = [last] ∧ Lookback.ofKind last.kind = before := by
  cases Mode.read_eq_ok_iff.mp accepted with
  | between _ begins =>
      cases begins with
      | sign _ => exact ⟨_, rfl, rfl⟩
      | closer _ | separator _ => exact absurd rfl sign
  | endsString | endsComment | closesKeyword _ | closesSymbol _ | endsKeyword _
    | endsSymbol _ =>
      exact absurd rfl sign

theorem sign_of_feed {characters : List Char} {reached : Scanner}
    {before : Lookback}
    (accepted : feed Scanner.read start characters = (reached, none))
    (between : reached.mode = .expression before) (sign : before ≠ .plain) :
    ∃ last, reached.tokens.getLast? = some last ∧
      Lookback.ofKind last.kind = before := by
  have remembered : ∀ before, reached.mode = .expression before →
      before ≠ .plain →
      ∃ last, reached.tokens.getLast? = some last ∧
        Lookback.ofKind last.kind = before := by
    refine feed_induction
      (motive := fun _ scanner => ∀ before, scanner.mode = .expression before →
          before ≠ .plain →
        ∃ last, scanner.tokens.getLast? = some last ∧
          Lookback.ofKind last.kind = before)
      ?_ ?_ accepted
    · intro before initial sign
      cases initial
      exact absurd rfl sign
    · intro earlier scanner last next _ _ taken before between sign
      rcases exists_step_of_read taken with ⟨mode, completed, stepped, rfl⟩
      dsimp only at between
      subst between
      rcases Mode.sign_of_read stepped sign with ⟨token, rfl, kind⟩
      exact ⟨token, by simp [tokens], kind⟩
  exact remembered before between sign

/-! ## A line feed at the end -/

theorem Mode.read_newline {mode : Mode}
    (noSign : mode ≠ .expression .dispatch)
    (noString : ∀ opening reversed, mode ≠ .string opening reversed)
    (position : Position) :
    mode.read position '\n' = .ok (.expression .plain, mode.unfinished) := by
  cases mode with
  | expression before =>
      cases before with
      | dispatch => exact absurd rfl noSign
      | plain | metadata => rfl
  | string opening reversed => exact absurd rfl (noString opening reversed)
  | comment | keyword | symbol => rfl

/-- A line feed leaves a scanner inside a string or with nothing before the
next character. -/
theorem Mode.eq_of_read_newline {mode next : Mode} {position : Position}
    {completed : List Token}
    (accepted : mode.read position '\n' = .ok (next, completed)) :
    next = .expression .plain ∨
      ∃ opening reversed, next = .string opening reversed := by
  by_cases noSign : mode = .expression .dispatch
  · subst noSign
    cases accepted
  · by_cases isString : ∃ opening reversed, mode = .string opening reversed
    · rcases isString with ⟨opening, reversed, rfl⟩
      cases accepted
      exact .inr ⟨_, _, rfl⟩
    · have noString : ∀ opening reversed, mode ≠ .string opening reversed :=
        fun opening reversed same => isString ⟨opening, reversed, same⟩
      rw [read_newline noSign noString] at accepted
      cases accepted
      exact .inl rfl

theorem not_string_of_endError? {scanner : Scanner}
    (ended : scanner.endError? = none) (opening : Position)
    (reversed : List Char) : scanner.mode ≠ .string opening reversed := by
  intro inString
  simp [endError?, inString] at ended

/-- Whether a scanner is between tokens behind some characters, with these
tokens completed and no sign before the next character. -/
def Rests (characters : List Char) (tokens : List Token) : Prop :=
  ∃ reached, feed Scanner.read start characters = (reached, none) ∧
    reached.mode = .expression .plain ∧ reached.tokens = tokens

/-- A text with a line feed at its end leaves a scanner at rest, unless its
last token is the sign `#`. That sign lets no line feed follow. -/
theorem rests_concat_newline {front : List Char} {tokens : List Token}
    (success : cut .start front = .ok tokens) :
    Rests (front ++ ['\n']) tokens ∨
      (∃ last, tokens.getLast? = some last ∧ last.kind = .dispatch) ∧
        ∀ rest, ∃ refused,
          cut .start (front ++ '\n' :: rest) = .error refused := by
  rcases exists_feed_of_cut success with ⟨reached, accepted, ended, rfl⟩
  by_cases noSign : reached.mode = .expression .dispatch
  · rcases sign_of_feed accepted noSign (by decide) with ⟨last, isLast, kind⟩
    refine .inr ⟨⟨last, ?_, ?_⟩, fun rest => ?_⟩
    · rw [noSign]
      simpa [Mode.unfinished] using isLast
    · rcases last with ⟨lastKind, text, position⟩
      cases lastKind with
      | dispatch => rfl
      | _ => cases kind
    · have rejected : reached.mode.read reached.position '\n' =
          .error (.invalidCharacter '\n' .expression reached.position) := by
        rw [noSign]
        rfl
      refine ⟨.invalidCharacter '\n' .expression reached.position, ?_⟩
      rw [cut_append accepted, scan_cons_of_error rejected, prepend_error]
  · have stepped :=
      Mode.read_newline noSign (not_string_of_endError? ended) reached.position
    have taken : reached.read '\n' =
        .ok ⟨.expression .plain, reached.position.after '\n',
        reached.mode.unfinished.reverse ++ reached.reversed⟩ := by
      simp only [read, stepped]
    refine .inl ⟨_, feed_append_eq_none_iff.mpr
      ⟨reached, accepted, feed_singleton_eq_none_iff.mpr taken⟩, rfl, ?_⟩
    simp [Scanner.tokens]

/-- Behind a line feed a scanner is in the middle of no word. -/
theorem mode_of_newline {characters : List Char} {reached : Scanner}
    (accepted : feed Scanner.read start characters = (reached, none))
    (ended : characters.getLast? = some '\n') :
    reached.mode = .expression .plain ∨
      ∃ opening reversed, reached.mode = .string opening reversed := by
  rcases List.getLast?_eq_some_iff.mp ended with ⟨earlier, rfl⟩
  rcases feed_append_eq_none_iff.mp accepted with ⟨before, -, taken⟩
  rcases exists_step_of_read (feed_singleton_eq_none_iff.mp taken) with
    ⟨mode, completed, stepped, rfl⟩
  exact Mode.eq_of_read_newline stepped

theorem rests_of_newline {characters : List Char} {tokens : List Token}
    (success : cut .start characters = .ok tokens)
    (ended : characters.getLast? = some '\n') :
    Rests characters tokens := by
  rcases exists_feed_of_cut success with ⟨reached, accepted, complete, rfl⟩
  rcases mode_of_newline accepted ended with
    plain | ⟨opening, reversed, inString⟩
  · exact ⟨reached, accepted, plain, by simp [plain, Mode.unfinished]⟩
  · exact absurd inString (not_string_of_endError? complete opening reversed)

theorem Rests.cut_append {characters : List Char} {tokens : List Token}
    (rests : Rests characters tokens) (rest : List Char) :
    cut .start (characters ++ rest) =
      prepend tokens (cut (Position.start.advance characters) rest) := by
  rcases rests with ⟨reached, accepted, between, rfl⟩
  rw [Scanner.cut_append accepted, between, position_of_feed accepted]
  rfl

end Scanner

open Scanner in
/-- A text keeps its tokens when a line feed and more text follow, unless it
ends with a sign that must not be followed by a line feed. -/
theorem rests_or_dispatch_of_tokenize {front : String} {tokens : List Token}
    (success : tokenize front = .ok tokens) :
    Rests (Text.above front) tokens ∨
      (∃ last, tokens.getLast? = some last ∧ last.kind = .dispatch) ∧
        ∀ rest : String, ∃ refused,
          tokenize (front ++ "\n" ++ rest) = .error refused := by
  rw [tokenize_eq_cut] at success
  rcases Text.unifyLineEndings_concat_newline front.toList with
    separate | ⟨merged, ended⟩
  · rcases rests_concat_newline success with rests | ⟨isDispatch, refuses⟩
    · exact .inl (by rwa [Text.above, separate])
    · refine .inr ⟨isDispatch, fun rest => ?_⟩
      have rejected := refuses (Text.unifyLineEndings rest.toList)
      rw [tokenize_eq_cut, Text.unifyLineEndings_join, Text.above, separate,
        List.append_assoc, List.singleton_append]
      exact rejected
  · have rests := rests_of_newline success ended
    exact .inl (by rwa [Text.above, merged])

theorem rests_of_tokenize {front : String} {tokens : List Token}
    (success : tokenize front = .ok tokens)
    (noDispatch : ∀ last ∈ tokens.getLast?, last.kind ≠ .dispatch) :
    Scanner.Rests (Text.above front) tokens := by
  rcases rests_or_dispatch_of_tokenize success with
    rests | ⟨⟨last, isLast, isDispatch⟩, -⟩
  · exact rests
  · exact absurd isDispatch (noDispatch last isLast)

theorem tokenize_append_newline {front : String} {tokens : List Token}
    (rests : Scanner.Rests (Text.above front) tokens) (rest : String) :
    tokenize (front ++ "\n" ++ rest) =
      Scanner.prepend tokens
        (Scanner.cut (Position.start.advance (Text.above front))
          (Text.unifyLineEndings rest.toList)) := by
  rw [tokenize_eq_cut, Text.unifyLineEndings_join]
  exact rests.cut_append _

/-- An error in a text that no more text can mend is the error of every longer
text. -/
theorem tokenize_append_of_error {front : String} {error : ReadError}
    (failed : tokenize front = .error error)
    (final : error.isIncomplete = false) (later : String) :
    tokenize (front ++ later) = .error error := by
  rw [tokenize_eq_cut] at failed ⊢
  obtain ⟨behind, whole⟩ :=
    Text.unifyLineEndings_front front.toList later.toList
  rw [String.toList_append, ← whole]
  exact Scanner.cut_append_of_error failed final behind

end LispReader
