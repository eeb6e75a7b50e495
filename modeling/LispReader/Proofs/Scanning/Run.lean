import LispReader.Proofs.Position
import LispReader.Token.Scanner

/-!
# Scanning as a function of the rest of the text

A scanner keeps the tokens it has completed. What it will still complete
depends only on its mode, on where it stands and on the characters to come.
`Mode.scan` is that function, and `cut` is its case between tokens, with
nothing before that bears on the next character. A text is tokenized by cutting
all of it.
-/

namespace LispReader

def Lookback.permits : Lookback → Char → Bool
  | .plain, _ => true
  | .dispatch, character => mayFollowDispatch character
  | .metadata, character => character ≠ '^'

namespace Scanner

theorem readExpression_of_permits {before : Lookback} {character : Char}
    (permitted : before.permits character = true) (position : Position) :
    readExpression before position character =
      readExpression .plain position character := by
  cases before with
  | plain => rfl
  | dispatch =>
      have follows : mayFollowDispatch character = true := permitted
      simp [readExpression, follows]
  | metadata =>
      have different : character ≠ '^' := by
        simpa [Lookback.permits] using permitted
      simp [readExpression, different]

theorem readExpression_of_not_permits {before : Lookback} {character : Char}
    (forbidden : before.permits character = false) (position : Position) :
    ∃ refused, readExpression before position character = .error refused := by
  cases before with
  | plain => cases forbidden
  | dispatch =>
      have rejected : mayFollowDispatch character = false := forbidden
      exact ⟨_, if_pos ⟨rfl, rejected⟩⟩
  | metadata =>
      have same : character = '^' := by
        simpa [Lookback.permits] using forbidden
      exact ⟨_, (if_neg (by simp)).trans (if_pos ⟨rfl, same⟩)⟩

/-- Tokens in front of those that are still to come, if these come at all. -/
def prepend (completed : List Token) (result : Except ReadError (List Token)) :
    Except ReadError (List Token) :=
  result.map (completed ++ ·)

@[simp]
theorem prepend_ok (completed later : List Token) :
    prepend completed (.ok later) = .ok (completed ++ later) := rfl

@[simp]
theorem prepend_error (completed : List Token) (error : ReadError) :
    prepend completed (.error error) = .error error := rfl

@[simp]
theorem prepend_nil (result : Except ReadError (List Token)) :
    prepend [] result = result := by
  cases result <;> rfl

@[simp]
theorem prepend_prepend (first second : List Token)
    (result : Except ReadError (List Token)) :
    prepend first (prepend second result) =
      prepend (first ++ second) result := by
  cases result with
  | ok later => simp
  | error error => rfl

theorem prepend_eq_ok {completed tokens : List Token}
    {result : Except ReadError (List Token)}
    (success : prepend completed result = .ok tokens) :
    ∃ later, result = .ok later ∧ tokens = completed ++ later := by
  cases result with
  | ok later => exact ⟨later, rfl, (Except.ok.inj success).symm⟩
  | error error => cases success

/-- The tokens that a scanner in this mode still completes on the rest of a
text. -/
def Mode.scan (mode : Mode) (position : Position) :
    List Char → Except ReadError (List Token)
  | [] =>
      match mode with
      | .string opening _ => .error (.invalidCharacter '"' .string opening)
      | _ => .ok mode.unfinished
  | character :: rest =>
      match mode.read position character with
      | .ok (next, completed) =>
          prepend completed (next.scan (position.after character) rest)
      | .error refused => .error refused

/-- The tokens that are cut from characters that begin at a position. -/
def cut (position : Position) (characters : List Char) :
    Except ReadError (List Token) :=
  Mode.scan (.expression .plain) position characters

theorem scan_cons_of_ok {mode next : Mode} {position : Position}
    {character : Char} {completed : List Token}
    (accepted : mode.read position character = .ok (next, completed))
    (rest : List Char) :
    mode.scan position (character :: rest) =
      prepend completed (next.scan (position.after character) rest) := by
  simp only [Mode.scan, accepted]

theorem scan_cons_of_error {mode : Mode} {position : Position}
    {character : Char} {refused : ReadError}
    (rejected : mode.read position character = .error refused)
    (rest : List Char) :
    mode.scan position (character :: rest) = .error refused := by
  simp only [Mode.scan, rejected]

@[simp]
theorem cut_nil (position : Position) : cut position [] = .ok [] := rfl

theorem cut_cons_of_ok {next : Mode} {position : Position} {character : Char}
    {completed : List Token}
    (accepted : readExpression .plain position character =
      .ok (next, completed))
    (rest : List Char) :
    cut position (character :: rest) =
      prepend completed (next.scan (position.after character) rest) := by
  simp only [cut, Mode.scan, Mode.read, accepted]

theorem cut_cons_of_error {position : Position} {character : Char}
    {refused : ReadError}
    (rejected : readExpression .plain position character = .error refused)
    (rest : List Char) :
    cut position (character :: rest) = .error refused := by
  simp only [cut, Mode.scan, Mode.read, rejected]

theorem scan_expression_of_permits {before : Lookback} {characters : List Char}
    (permitted : ∀ first ∈ characters.head?, before.permits first = true)
    (position : Position) :
    Mode.scan (.expression before) position characters =
      cut position characters := by
  cases characters with
  | nil => rfl
  | cons first rest =>
      have same := readExpression_of_permits (permitted first rfl) position
      simp only [cut, Mode.scan, Mode.read, same]

theorem permits_of_scan_expression {before : Lookback} {position : Position}
    {characters : List Char} {tokens : List Token}
    (success : Mode.scan (.expression before) position characters =
      .ok tokens) :
    ∀ first ∈ characters.head?, before.permits first = true := by
  rintro first isFirst
  obtain ⟨rest, rfl⟩ := List.head?_eq_some_iff.mp isFirst
  cases permitted : before.permits first with
  | true => rfl
  | false =>
      obtain ⟨refused, rejected⟩ :=
        readExpression_of_not_permits permitted position
      simp only [Mode.scan, Mode.read, rejected] at success
      cases success

/-- What comes of a scanner at the end of a text, or at the character it
refused. -/
def conclude : Scanner × Option ReadError → Except ReadError (List Token)
  | (_, some refused) => .error refused
  | (scanner, none) =>
      match scanner.endError? with
      | some unfinished => .error unfinished
      | none => .ok (scanner.tokens ++ scanner.mode.unfinished)

/-- A scanner may be run step by step or over all the rest at once. -/
theorem conclude_feed (scanner : Scanner) (characters : List Char) :
    conclude (feed Scanner.read scanner characters) =
      prepend scanner.tokens
        (scanner.mode.scan scanner.position characters) := by
  induction characters generalizing scanner with
  | nil =>
      obtain ⟨mode, position, reversed⟩ := scanner
      cases mode <;> rfl
  | cons character rest inductionHypothesis =>
      cases outcome : scanner.mode.read scanner.position character with
      | error refused =>
          have rejected : scanner.read character = .error refused := by
            simp only [Scanner.read, outcome]
          rw [feed_cons_of_error rejected, scan_cons_of_error outcome]
          rfl
      | ok step =>
          obtain ⟨next, completed⟩ := step
          have accepted : scanner.read character =
              .ok ⟨next, scanner.position.after character,
                completed.reverse ++ scanner.reversed⟩ := by
            simp only [Scanner.read, outcome]
          rw [feed_cons_of_ok accepted, inductionHypothesis,
            scan_cons_of_ok outcome]
          simp [Scanner.tokens]

end Scanner

theorem tokenize_eq_cut (text : String) :
    tokenize text = Scanner.cut .start (Text.unifyLineEndings text.toList) := by
  have concluded :
      tokenize text =
        Scanner.conclude
          (feed Scanner.read Scanner.start
              (Text.unifyLineEndings text.toList)) := by
    unfold tokenize Scan.ofText Scan.ofChars Scanner.conclude
    rcases feed Scanner.read Scanner.start
      (Text.unifyLineEndings text.toList) with
      ⟨scanner, _ | refused⟩
    · cases ending : scanner.endError? <;> simp [ending]
    · rfl
  rw [concluded, Scanner.conclude_feed]
  exact Scanner.prepend_nil _

end LispReader
