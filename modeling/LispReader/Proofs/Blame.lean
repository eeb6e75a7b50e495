import LispReader.Proofs.Building.Fault
import LispReader.Proofs.Scanning.Failure
import LispReader.Proofs.Scanning.Layout

/-!
# What an error points at

An error other than that of a placeholder names a character, and the line and
column where it stands in the text with unified line endings. While the text is
cut it is the refused character or the quote of the unfinished string; while
trees are built it is the sign of a token. Main statement: `blames_of_parse`.
-/

namespace LispReader

/-- The character that an error names, and where it says the character
stands. -/
def ReadError.place? : ReadError → Option (Char × Position)
  | .invalidCharacter character _ position => some (character, position)
  | .unclosed delimiter position => some (delimiter, position)
  | .notAnonymousFunction _ => none

/-- What an error that names a character points at in a text. -/
inductive Blames (text : String) : ReadError → Prop
  /-- A character that is refused, or the opening quote of a string that the
  text does not end. -/
  | scanning {error : ReadError} :
      Scanner.Failure (Text.unifyLineEndings text.toList) error →
      Blames text error
  /-- A closing delimiter behind tokens that close everything they open. -/
  | closer {before after : List Token} {shape : Char} {position : Position} :
      tokenize text = .ok (before ++ .closer shape position :: after) →
      Balanced before →
      Blames text (.invalidCharacter shape .expression position)
  /-- An ampersand without a name directly behind it. -/
  | ampersand {before after : List Token} {position : Position} :
      tokenize text = .ok (before ++ ⟨.rest, none, position⟩ :: after) →
      Descent.name? after = none →
      Blames text (.invalidCharacter '&' .expression position)
  /-- An opening delimiter that is not closed, where all that is opened behind
  it is closed. -/
  | unclosed {before after : List Token} {opener : Token} {delimiter : Char} :
      tokenize text = .ok (before ++ opener :: after) →
      opener.kind.opening? = some delimiter →
      Balanced after →
      Blames text (.unclosed delimiter opener.position)

theorem balanced_of_faultlessUpTo {tokens : List Token} {index : Nat}
    (faultless : FaultlessUpTo tokens index)
    (count : closers (tokens.take index) = openers (tokens.take index)) :
    Balanced (tokens.take index) := by
  obtain ⟨builder, accepted⟩ := exists_feed_of_faultlessUpTo faultless
  exact ⟨Builder.staysOpen_of_feed accepted, count.symm⟩

theorem Token.Kind.sign?_of_opening? {kind : Kind} {delimiter : Char}
    (opens : kind.opening? = some delimiter) : kind.sign? = some delimiter := by
  cases kind <;> first | exact opens | cases opens

/-- The error of the first token at fault blames the character with which that
token begins. -/
theorem blames_of_firstFault {text : String} {tokens : List Token}
    {error : ReadError} {character : Char} {position : Position}
    (tokenized : tokenize text = .ok tokens) (first : FirstFault tokens error)
    (place : error.place? = some (character, position)) :
    Blames text error := by
  obtain ⟨index, faultAt, faultless⟩ := first
  obtain ⟨token, -, split, fault⟩ := faultAt.exists_split
  have cut : tokenize text =
      .ok (tokens.take index ++ token :: tokens.drop (index + 1)) := by
    rw [tokenized, ← split]
  obtain ⟨front, source, back, -, spelled, -⟩ := exists_source_of_tokenize cut
  cases fault with
  | ampersand unnamed =>
      obtain ⟨-, noText⟩ := spelled.of_sign rfl
      dsimp only at noText
      subst noText
      exact .ampersand cut unnamed
  | closer balanced =>
      obtain ⟨shape, -, -, isCloser⟩ := spelled.exists_closer rfl
      rw [isCloser] at cut
      cases isCloser
      simpa
        using Blames.closer cut (balanced_of_faultlessUpTo faultless balanced)
  | argument => cases place

theorem blames_of_leftOpen {text : String} {tokens : List Token}
    {error : ReadError} (tokenized : tokenize text = .ok tokens)
    (leftOpen : LeftOpen tokens error) :
    Blames text error := by
  obtain ⟨before, opener, after, delimiter, rfl, opens, balanced, rfl⟩ :=
    leftOpen
  exact .unclosed tokenized opens balanced

theorem Scanner.Failure.standsAt {characters : List Char} {error : ReadError}
    {character : Char} {position : Position}
    (failure : Scanner.Failure characters error)
    (place : error.place? = some (character, position)) :
    StandsAt characters position character := by
  cases failure with
  | refused split _ _ _ =>
      cases place
      exact ⟨_, _, split, rfl⟩
  | unfinished split _ _ =>
      cases place
      exact ⟨_, _, split, rfl⟩

theorem standsAt_of_tokenize {text : String} {before after : List Token}
    {token : Token} {character : Char}
    (tokenized : tokenize text = .ok (before ++ token :: after))
    (only : ∀ source, token.Spelled source → source = [character]) :
    StandsAt (Text.unifyLineEndings text.toList) token.position character := by
  obtain ⟨front, source, back, whole, spelled, place⟩ :=
    exists_source_of_tokenize tokenized
  refine ⟨front, back, ?_, place⟩
  rw [whole, only source spelled, List.append_assoc, List.singleton_append]

theorem Token.eq_of_spelled_closer {shape : Char} {position : Position}
    {source : List Char}
    (spelled : (Token.closer shape position).Spelled source) :
    source = [shape] := by
  obtain ⟨other, -, rfl, same⟩ := spelled.exists_closer rfl
  have texts : String.singleton shape = String.singleton other :=
    Option.some.inj (Token.mk.inj same).2.1
  have characters := congrArg String.toList texts
  rw [String.toList_singleton, String.toList_singleton] at characters
  exact characters.symm

/-- The character that an error names stands where the error says. -/
theorem Blames.standsAt {text : String} {error : ReadError} {character : Char}
    {position : Position} (blames : Blames text error)
    (place : error.place? = some (character, position)) :
    StandsAt (Text.unifyLineEndings text.toList) position character := by
  cases blames with
  | scanning failure => exact failure.standsAt place
  | closer tokenized _ =>
      cases place
      exact standsAt_of_tokenize tokenized fun _ spelled =>
        Token.eq_of_spelled_closer spelled
  | ampersand tokenized _ =>
      cases place
      exact standsAt_of_tokenize tokenized fun _ spelled =>
        (spelled.of_sign rfl).1
  | unclosed tokenized opens _ =>
      cases place
      have sign := Token.Kind.sign?_of_opening? opens
      exact standsAt_of_tokenize tokenized fun _ spelled =>
        (spelled.of_sign sign).1

/-- When a text cannot be read and the error names a character, that character
and no other stands in the place that the error names, and it is the one at
fault. -/
theorem blames_of_parse {text : String} {error : ReadError} {character : Char}
    {position : Position} (failed : parse text = .error error)
    (place : error.place? = some (character, position)) :
    (∀ other, StandsAt (Text.unifyLineEndings text.toList) position other ↔
        other = character) ∧
      Blames text error := by
  have blames : Blames text error := by
    cases tokenized : tokenize text with
    | error refused =>
        rw [parse, tokenized] at failed
        cases failed
        exact .scanning ((tokenize_eq_error_iff _ _).mp tokenized)
    | ok tokens =>
        rw [parse, tokenized] at failed
        rcases error_of_read failed with first | ⟨-, -, leftOpen⟩
        · exact blames_of_firstFault tokenized first place
        · exact blames_of_leftOpen tokenized leftOpen
  exact ⟨(blames.standsAt place).iff_eq, blames⟩

/-- The bracket on the second line is the innermost collection that this text
leaves open. -/
theorem blames_of_parse_bracket :
    (parse "\"\u03bb\"\r\n(\u00e9 [\x7b\x7d a" = .error (.unclosed '[' ⟨2, 4⟩) ∧
      (ReadError.unclosed '[' ⟨2, 4⟩).place? = some ('[', ⟨2, 4⟩)) ∧
    (∀ other,
      StandsAt (Text.unifyLineEndings
          "\"\u03bb\"\r\n(\u00e9 [\x7b\x7d a".toList) ⟨2, 4⟩ other ↔
        other = '[') ∧
      Blames "\"\u03bb\"\r\n(\u00e9 [\x7b\x7d a" (.unclosed '[' ⟨2, 4⟩) := by
  have failed : parse "\"\u03bb\"\r\n(\u00e9 [\x7b\x7d a" =
      .error (.unclosed '[' ⟨2, 4⟩) := rfl
  exact ⟨⟨failed, rfl⟩, blames_of_parse failed rfl⟩

end LispReader
