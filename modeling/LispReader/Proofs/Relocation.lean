import LispReader.Proofs.Building.Run
import LispReader.Proofs.Scanning.Run

/-!
# Moving what is read

Positions are carried along and never looked at. A scanner that starts further
down a text cuts the same tokens there, and a builder makes the same trees of
tokens wherever they stand; only the positions in tokens and errors move.
-/

namespace LispReader

def Position.lower (lines : Nat) (position : Position) : Position :=
  ⟨position.line + lines, position.column⟩

theorem Position.lower_after (lines : Nat) (position : Position)
    (character : Char) :
    (position.after character).lower lines =
      (position.lower lines).after character := by
  by_cases lineFeed : character = '\n'
  · simp [after, lower, lineFeed, Nat.add_right_comm]
  · simp [after, lower, lineFeed]

def Token.move (move : Position → Position) (token : Token) : Token :=
  { token with position := move token.position }

def ReadError.move (move : Position → Position) : ReadError → ReadError
  | .invalidCharacter character setting position =>
      .invalidCharacter character setting (move position)
  | .notAnonymousFunction text => .notAnonymousFunction text
  | .unclosed delimiter position => .unclosed delimiter (move position)

namespace Scanner

def Mode.move (move : Position → Position) : Mode → Mode
  | .expression before => .expression before
  | .string opening reversed => .string (move opening) reversed
  | .comment opening reversed => .comment (move opening) reversed
  | .keyword opening reversed => .keyword (move opening) reversed
  | .symbol opening reversed => .symbol (move opening) reversed

def Step.move (move : Position → Position) (step : Step) : Step :=
  (step.map fun (mode, completed) =>
      (mode.move move, completed.map (Token.move move))).mapError
    (ReadError.move move)

variable (move : Position → Position)

@[simp]
theorem Step.move_ok (mode : Mode) (completed : List Token) :
    Step.move move (.ok (mode, completed)) =
      .ok (mode.move move, completed.map (Token.move move)) := rfl

@[simp]
theorem Step.move_error (refused : ReadError) :
    Step.move move (.error refused) = .error (refused.move move) := rfl

@[simp]
theorem Mode.unfinished_move (mode : Mode) :
    (mode.move move).unfinished = mode.unfinished.map (Token.move move) := by
  cases mode <;> rfl

theorem Mode.move_id (mode : Mode) : mode.move id = mode := by
  cases mode <;> rfl

theorem readExpression_move (before : Lookback) (position : Position)
    (character : Char) :
    readExpression before (move position) character =
      Step.move move (readExpression before position character) := by
  unfold readExpression
  rw [apply_ite (Step.move move), apply_ite (Step.move move)]
  cases signKind? character with
  | some kind => rfl
  | none =>
      simp only [apply_ite (Step.move move)]
      rfl

theorem readWord_move (current extended : Mode) (position : Position)
    (character : Char) :
    readWord (current.move move) (extended.move move) (move position)
      character =
      Step.move move (readWord current extended position character) := by
  simp only [readWord, apply_ite (Step.move move), Mode.unfinished_move]
  simp [Mode.move, Token.move, Token.closer, ReadError.move]

/-- A scanner reads alike at any position, but for the positions in what it
makes. -/
theorem Mode.read_move (mode : Mode) (position : Position) (character : Char) :
    (mode.move move).read (move position) character =
      Step.move move (mode.read position character) := by
  cases mode with
  | expression before =>
      exact readExpression_move move before position character
  | string opening reversed | comment opening reversed =>
      simp only [Mode.move, Mode.read, apply_ite (Step.move move)]
      rfl
  | keyword opening reversed =>
      exact readWord_move move (.keyword opening reversed)
        (.keyword opening (character :: reversed)) position character
  | symbol opening reversed =>
      exact readWord_move move (.symbol opening reversed)
        (.symbol opening (character :: reversed)) position character

/-- Tokens and errors with every position in them moved. -/
def relocate (result : Except ReadError (List Token)) :
    Except ReadError (List Token) :=
  (result.map (List.map (Token.move move))).mapError (ReadError.move move)

@[simp]
theorem relocate_ok (tokens : List Token) :
    relocate move (.ok tokens) = .ok (tokens.map (Token.move move)) := rfl

theorem relocate_id (result : Except ReadError (List Token)) :
    relocate id result = result := by
  have unmoved : List.map (Token.move id) = id := List.map_id_fun
  cases result with
  | ok tokens => rw [relocate_ok, unmoved, id]
  | error refused => cases refused <;> rfl

theorem relocate_prepend (completed : List Token)
    (result : Except ReadError (List Token)) :
    relocate move (prepend completed result) =
      prepend (completed.map (Token.move move)) (relocate move result) := by
  cases result with
  | ok later => simp
  | error error => rfl

theorem Mode.scan_nil_move (mode : Mode) (position : Position) :
    (mode.move move).scan (move position) [] =
      relocate move (mode.scan position []) := by
  cases mode <;> rfl

variable {move}

/-- Two scanners cut the same tokens, each moved in its own way, if their modes
and all positions they come to are the same when they are moved so. -/
theorem Mode.scan_alike {left right : Position → Position} {mode other : Mode}
    {position place : Position} (modes : mode.move left = other.move right)
    (places : ∀ front,
      left (position.advance front) = right (place.advance front))
    (characters : List Char) :
    relocate left (mode.scan position characters) =
      relocate right (other.scan place characters) := by
  induction characters generalizing mode other position place with
  | nil =>
      have here : left position = right place := places []
      rw [← mode.scan_nil_move, ← other.scan_nil_move, modes, here]
  | cons character rest inductionHypothesis =>
      have here : left position = right place := places []
      have stepped : Step.move left (mode.read position character) =
          Step.move right (other.read place character) := by
        rw [← Mode.read_move, ← Mode.read_move, modes, here]
      cases outcome : mode.read position character with
      | ok step =>
          cases otherOutcome : other.read place character with
          | ok otherStep =>
              obtain ⟨next, completed⟩ := step
              obtain ⟨otherNext, otherCompleted⟩ := otherStep
              rw [outcome, otherOutcome, Step.move_ok, Step.move_ok,
                Except.ok.injEq, Prod.mk.injEq] at stepped
              obtain ⟨nextAlike, completedAlike⟩ := stepped
              rw [scan_cons_of_ok outcome, scan_cons_of_ok otherOutcome,
                relocate_prepend, relocate_prepend, completedAlike,
                inductionHypothesis nextAlike fun front =>
                  places (character :: front)]
          | error refused =>
              rw [outcome, otherOutcome] at stepped
              cases stepped
      | error refused =>
          cases otherOutcome : other.read place character with
          | ok otherStep =>
              rw [outcome, otherOutcome] at stepped
              cases stepped
          | error otherRefused =>
              rw [outcome, otherOutcome] at stepped
              rw [scan_cons_of_error outcome, scan_cons_of_error otherOutcome]
              exact congrArg Except.error (Except.error.inj stepped)

/-- A scanner that starts at a moved position cuts moved tokens, if the move
agrees with going on from character to character. -/
theorem Mode.scan_move
    (agrees : ∀ position character,
      move (position.after character) = (move position).after character)
    (mode : Mode) (position : Position) (characters : List Char) :
    (mode.move move).scan (move position) characters =
      relocate move (mode.scan position characters) := by
  have places : ∀ front,
      move (position.advance front) = id ((move position).advance front) :=
    fun _ =>
      (List.foldl_hom move fun position character =>
          (agrees position character).symm).symm
  have alike := Mode.scan_alike (mode.move move).move_id.symm places characters
  rw [alike, relocate_id]

theorem cut_lower (lines : Nat) (position : Position) (characters : List Char) :
    cut (position.lower lines) characters =
      relocate (Position.lower lines) (cut position characters) :=
  Mode.scan_move (Position.lower_after lines) (.expression .plain) position
    characters

end Scanner

/-- Every place moved to the beginning of a text, so that tokens differ only in
what they are. -/
def Position.forget (_ : Position) : Position :=
  .start

/-- Whether tokens are the same, one by one, wherever they stand. -/
def SameTokens (left right : List Token) : Prop :=
  left.map (Token.move Position.forget) = right.map (Token.move Position.forget)

theorem SameTokens.map_kind {left right : List Token}
    (same : SameTokens left right) :
    left.map Token.kind = right.map Token.kind := by
  have kinds := congrArg (List.map Token.kind) same
  rwa [List.map_map, List.map_map] at kinds

namespace Scanner

theorem exists_cut_of_cut {position : Position} {characters : List Char}
    {tokens : List Token} (success : cut position characters = .ok tokens)
    (place : Position) :
    ∃ others, cut place characters = .ok others ∧ SameTokens others tokens := by
  have places :
      ∀ front, (place.advance front).forget = (position.advance front).forget :=
    fun _ => rfl
  have anywhere : relocate Position.forget (cut place characters) =
      relocate Position.forget (cut position characters) :=
    Mode.scan_alike rfl places characters
  rw [success] at anywhere
  cases outcome : cut place characters with
  | ok others =>
      rw [outcome] at anywhere
      exact ⟨others, rfl, Except.ok.inj anywhere⟩
  | error refused =>
      rw [outcome] at anywhere
      cases anywhere

end Scanner

/-! ## Moving a builder -/

def Expectation.move (move : Position → Position) : Expectation → Expectation
  | .value before => .value before
  | .name ampersand => .name (move ampersand)

def Frame.move (move : Position → Position) (frame : Frame) : Frame :=
  { frame with position := move frame.position }

namespace Builder

def move (move : Position → Position) (builder : Builder) : Builder :=
  { builder with
    expects := builder.expects.move move
    frames := builder.frames.map (Frame.move move) }

def Action.move (move : Position → Position) : Action → Action
  | .expect expectation => .expect (expectation.move move)
  | .add value => .add value
  | .use placeholder => .use placeholder
  | .enter enclosure position => .enter enclosure (move position)
  | .leave frame => .leave (frame.move move)

variable (move : Position → Position)

theorem valueAction?_move (builder : Builder) (before : Lookback)
    (token : Token) :
    (builder.move move).valueAction? before (token.move move) =
      ((builder.valueAction? before token).map (Action.move move)).mapError
        (ReadError.move move) := by
  rcases token with ⟨kind, text, position⟩
  cases kind with
  | closeDelimiter =>
      simp only [valueAction?, Token.move, closeAction?, Builder.move]
      cases builder.frames <;> rfl
  | symbol =>
      rcases builder with ⟨expects, top, frames, scopes⟩
      simp only [valueAction?, Token.move, symbolAction?, Builder.move]
      cases Word.ofText (text.getD "") with
      | leaf value => rfl
      | argument placeholder => cases scopes <;> rfl
  | keyword | string => cases before <;> rfl
  | _ => rfl

/-- A builder does alike with a token at any position, but for the positions in
what it makes. -/
theorem action?_move (builder : Builder) (token : Token) :
    (builder.move move).action? (token.move move) =
      ((builder.action? token).map (Action.move move)).mapError
        (ReadError.move move) := by
  rcases builder with ⟨expects, top, frames, scopes⟩
  cases expects with
  | value before =>
      exact valueAction?_move move ⟨.value before, top, frames, scopes⟩
        before token
  | name ampersand =>
      rcases token with ⟨kind, text, position⟩
      cases kind with
      | symbol => cases text <;> rfl
      | _ => rfl

@[simp]
theorem move_add (builder : Builder) (value : Node) :
    (builder.move move).add value = (builder.add value).move move := by
  rcases builder with ⟨expects, top, frames, scopes⟩
  cases frames <;> rfl

theorem perform_move (builder : Builder) (action : Action) :
    (builder.move move).perform (action.move move) =
      (builder.perform action).move move := by
  cases action with
  | expect expectation => rfl
  | add value => exact move_add move builder value
  | use placeholder =>
      exact move_add move
        { builder with scopes := note placeholder builder.scopes } _
  | enter enclosure position => rfl
  | leave frame =>
      have popped : (builder.move move).frames.tail =
          builder.frames.tail.map (Frame.move move) :=
        List.map_tail.symm
      simp only [perform, Action.move]
      rw [← move_add, popped]
      rfl

theorem read_move (builder : Builder) (token : Token) :
    (builder.move move).read (token.move move) =
      ((builder.read token).map (Builder.move move)).mapError
        (ReadError.move move) := by
  have called := action?_move move builder token
  cases outcome : builder.action? token with
  | ok action =>
      rw [outcome] at called
      simp only [read, called, outcome]
      exact congrArg Except.ok (perform_move move builder action)
  | error refused =>
      rw [outcome] at called
      simp only [read, called, outcome]
      rfl

theorem finish_move (builder : Builder) :
    (builder.move move).finish =
      builder.finish.mapError (ReadError.move move) := by
  rcases builder with ⟨expects, top, frames, scopes⟩
  cases expects with
  | name ampersand => rfl
  | value before => cases frames <;> rfl

end Builder

/-- The same tokens in other places give the same trees, or the same error in
another place. -/
theorem read_map_move (move : Position → Position) (tokens : List Token) :
    read (tokens.map (Token.move move)) =
      (read tokens).mapError (ReadError.move move) := by
  have moved :=
    Builder.run_of_respects (Builder.read_move move) (Builder.finish_move move)
    (fun _ => rfl) .start tokens
  rw [read_eq_run, read_eq_run]
  exact moved

/-- Wherever tokens stand, they are read as the same trees, or their error is
the same but for its place. -/
theorem SameTokens.read_alike {left right : List Token}
    (same : SameTokens left right) :
    (read left).mapError (ReadError.move Position.forget) =
      (read right).mapError (ReadError.move Position.forget) := by
  rw [← read_map_move, same, read_map_move]

theorem read_of_sameTokens {tokens others : List Token} {nodes : List Node}
    (success : read tokens = .ok nodes) (same : SameTokens others tokens) :
    read others = .ok nodes := by
  have anywhere := same.read_alike
  rw [success] at anywhere
  cases outcome : read others with
  | ok found =>
      rw [outcome] at anywhere
      exact anywhere
  | error refused =>
      rw [outcome] at anywhere
      cases anywhere

end LispReader
