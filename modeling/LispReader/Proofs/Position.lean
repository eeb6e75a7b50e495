import LispReader.Token

/-!
# Positions by counting

Where a character stands depends only on the text before it: its line on the
line feeds there, its column on what follows the last of them.
`Position.following` counts both. A reader that moves its position along with
each character arrives at the same place. No two characters of a text stand in
the same place.
-/

namespace LispReader.Position

/-- The position behind some characters, moved along character by character. -/
def advance (position : Position) (characters : List Char) : Position :=
  characters.foldl after position

@[simp]
theorem advance_nil (position : Position) : position.advance [] = position :=
    rfl

@[simp]
theorem advance_cons (position : Position) (character : Char)
    (rest : List Char) :
    position.advance (character :: rest) =
      (position.after character).advance rest := rfl

@[simp]
theorem advance_append (position : Position) (left right : List Char) :
    position.advance (left ++ right) = (position.advance left).advance right :=
  List.foldl_append

/-- Where a character stands that has the characters `before` in front of it:
one line further than there are line feeds, and one column further than there
are characters behind the last of them. -/
def following (before : List Char) : Position where
  line := before.count '\n' + 1
  column := (before.reverse.takeWhile (· ≠ '\n')).length + 1

theorem following_append_singleton (before : List Char) (character : Char) :
    following (before ++ [character]) = (following before).after character := by
  by_cases lineFeed : character = '\n'
  · subst lineFeed
    simp [following]
  · rw [after_of_ne_newline _ lineFeed]
    simp [following, lineFeed]

/-- Moving along the text and counting in it give the same position. -/
theorem advance_start (before : List Char) :
    start.advance before = following before := by
  suffices reversed : ∀ characters : List Char,
      start.advance characters.reverse = following characters.reverse by
    simpa using reversed before.reverse
  intro characters
  induction characters with
  | nil => rfl
  | cons character rest inductionHypothesis =>
      rw [List.reverse_cons, following_append_singleton, ← inductionHypothesis,
        advance_append]
      rfl

theorem advance_following (before characters : List Char) :
    (following before).advance characters =
      following (before ++ characters) := by
  rw [← advance_start, ← advance_start, advance_append]

/-- A position that moves along some characters gets to a later line, or
further along the line. -/
theorem lt_advance (position : Position) {characters : List Char}
    (nonempty : characters ≠ []) :
    position.line < (position.advance characters).line ∨
      position.line = (position.advance characters).line ∧
        position.column < (position.advance characters).column := by
  induction characters generalizing position with
  | nil => exact absurd rfl nonempty
  | cons character rest inductionHypothesis =>
      have step : position.line < (position.after character).line ∨
          position.line = (position.after character).line ∧
            position.column < (position.after character).column := by
        unfold after
        split
        · exact .inl (Nat.lt_succ_self _)
        · exact .inr ⟨rfl, Nat.lt_succ_self _⟩
      rw [advance_cons]
      by_cases last : rest = []
      · rw [last]
        exact step
      · have later := inductionHypothesis (position.after character) last
        omega

theorem following_append_ne (before : List Char) {later : List Char}
    (nonempty : later ≠ []) :
    following (before ++ later) ≠ following before := by
  intro same
  have later := lt_advance (following before) nonempty
  rw [advance_following, same] at later
  omega

end LispReader.Position

namespace LispReader

/-- Whether this character stands at this line and column of a text. -/
def StandsAt (characters : List Char) (position : Position) (character : Char) :
    Prop :=
  ∃ before after, characters = before ++ character :: after ∧
    position = .following before

/-- No other character stands at the same line and column. -/
theorem StandsAt.iff_eq {characters : List Char} {position : Position}
    {character : Char} (stands : StandsAt characters position character)
    (other : Char) :
    StandsAt characters position other ↔ other = character := by
  constructor
  · obtain ⟨before, after, rfl, rfl⟩ := stands
    rintro ⟨front, back, split, place⟩
    rcases List.append_eq_append_iff.mp split with
      ⟨between, rfl, rest⟩ | ⟨between, rfl, rest⟩
    · cases between with
      | nil => exact (List.cons.inj rest).1.symm
      | cons first others =>
          exact absurd place.symm
            (Position.following_append_ne before (List.cons_ne_nil _ _))
    · cases between with
      | nil => exact (List.cons.inj rest).1
      | cons first others =>
          exact absurd place
            (Position.following_append_ne front (List.cons_ne_nil _ _))
  · rintro rfl
    exact stands

end LispReader
