import LispReader.Proofs.Completion
import LispReader.Proofs.Session.Refusal

/-!
# Errors that stay

An error stays when no continuation changes it. While a text is cut into
tokens, every error stays but that of an unfinished string, and the characters
in front of the refused one can be cut. While trees are built, every error
stays but two: that of an open collection, and that of an ampersand which is
the last token and has no fault before it. Main statement: `errors_stay`.
-/

namespace LispReader

/-- Nothing is refused inside a string, so the characters in front of a refused
one can be cut. -/
theorem Scanner.exists_cut_of_rejected {characters : List Char}
    {reached : Scanner} {character : Char} {refused : ReadError}
    (accepted : feed Scanner.read start characters = (reached, none))
    (rejected : reached.read character = .error refused) :
    ∃ tokens, cut .start characters = .ok tokens := by
  have ended : reached.endError? = none := by
    cases inside : reached.mode with
    | string opening reversed =>
        simp only [Scanner.read, inside, Mode.read] at rejected
        split at rejected
        · rename_i stepped
          split at stepped <;> cases rejected
        · rename_i stepped
          split at stepped <;> cases stepped
    | _ => simp [endError?, inside]
  rw [cut_start, accepted, conclude, ended]
  exact ⟨_, rfl⟩

/-- An error of the scanner other than an open string names the character up to
which the text can be cut. -/
theorem exists_refused_of_tokenize {text : String} {error : ReadError}
    (failed : tokenize text = .error error)
    (noString : ∀ position, error ≠ .invalidCharacter '"' .string position) :
    ∃ before character after setting,
      Text.unifyLineEndings text.toList = before ++ character :: after ∧
        error = .invalidCharacter character setting (.following before) ∧
        ∃ tokens, tokenize (String.ofList before) = .ok tokens := by
  have failure := (tokenize_eq_error_iff text error).mp failed
  cases failure with
  | unfinished => exact absurd rfl (noString _)
  | @refused before after character setting reached split accepted rejected _ =>
      have noReturn : '\r' ∉ before := by
        intro member
        apply Text.return_not_mem_unifyLineEndings text.toList
        rw [split]
        exact List.mem_append_left _ member
      refine ⟨before, character, after, setting, split, rfl, ?_⟩
      rw [tokenize_eq_cut, String.toList_ofList,
        Text.unifyLineEndings_of_not_mem noReturn]
      exact Scanner.exists_cut_of_rejected accepted rejected

/-- An error of the first stage stays exactly when it is not that of an
unfinished string. -/
theorem tokenize_stays_iff {text : String} {error : ReadError}
    (failed : tokenize text = .error error) :
    (∀ later, tokenize (text ++ later) = .error error) ↔
      ∀ position, error ≠ .invalidCharacter '"' .string position := by
  have failure := (tokenize_eq_error_iff text error).mp failed
  cases failure with
  | refused _ _ _ noString =>
      constructor
      · intro _ position same
        cases same
        exact noString rfl
      · intro _ later
        exact tokenize_append_of_error failed
          (by simp [ReadError.isIncomplete, noString]) later
  | unfinished split between noQuote =>
      constructor
      · intro stays
        obtain ⟨tokens, tokenized⟩ :=
          tokenize_append_quote split between noQuote
        rw [stays "\""] at tokenized
        cases tokenized
      · intro noString
        exact absurd rfl (noString _)

/-- The first token at fault is the first one in every longer list too, unless
it is an ampersand that lacks the name which may still come. -/
theorem FirstFault.append {tokens : List Token} {error : ReadError}
    (first : FirstFault tokens error) (named : ¬ EndsWithAmpersand tokens)
    (later : List Token) :
    FirstFault (tokens ++ later) error := by
  obtain ⟨index, fault, faultless⟩ := first
  obtain ⟨token, here, split, -⟩ := fault.exists_split
  have bounded : index < tokens.length := (List.getElem?_eq_some_iff.mp here).1
  -- An ampersand at fault is not the last token, so its successor is the same
  -- in the longer list.
  have inside : token.kind ≠ .rest ∨ index + 1 < tokens.length := by
    by_cases isRest : token.kind = .rest
    · right
      apply Nat.lt_of_not_le
      intro atEnd
      rw [List.drop_eq_nil_iff.mpr atEnd] at split
      have size : (tokens.take index).length = index :=
        List.length_take_of_le (Nat.le_of_lt bounded)
      exact named ⟨tokens.take index, token, split, isRest, by rwa [size]⟩
    · exact .inl isRest
  refine ⟨index, (faultAt_append_iff here inside later error).mpr fault, ?_⟩
  intro earlier less other faultEarlier
  have before : earlier + 1 < tokens.length := by omega
  have there : tokens[earlier]? = some tokens[earlier] :=
    List.getElem?_eq_getElem (by omega)
  apply faultless earlier less other
  exact (faultAt_append_iff there (.inr before) later other).mp faultEarlier

/-- Tokens that leave a collection open can be completed. Any closing delimiter
ends any collection, so it is enough to have as many as are open. -/
theorem exists_read_of_unclosed {tokens : List Token} {delimiter : Char}
    {position : Position}
    (failed : read tokens = .error (.unclosed delimiter position)) :
    ∃ later nodes, read (tokens ++ later) = .ok nodes := by
  obtain ⟨builder, sign, accepted, waits, -⟩ := exists_feed_of_unclosed failed
  let shapes := List.replicate builder.frames.length ')'
  have depth : builder.frames.length = shapes.length :=
    List.length_replicate.symm
  have closes : ∀ shape ∈ shapes, isCloser shape = true := by
    intro shape member
    rw [List.eq_of_mem_replicate member]
    rfl
  obtain ⟨nodes, closed⟩ :=
    Builder.exists_consume_of_closers waits depth closes .start
  unfold Builder.consume at closed
  cases outcome : Scanner.cut .start shapes with
  | error refused =>
      rw [outcome] at closed
      cases closed
  | ok later =>
      rw [outcome] at closed
      exact ⟨later, nodes, (read_append_of_feed accepted later).trans closed⟩

/-- A name behind an ampersand that was the last token mends its error. -/
theorem EndsWithAmpersand.exists_read_ne {tokens : List Token}
    (ends : EndsWithAmpersand tokens) :
    ∃ later, read (tokens ++ later) ≠ read tokens := by
  obtain ⟨builder, ampersand, accepted, waits⟩ := ends.exists_feed
  have unnamed :
      read tokens = .error (.invalidCharacter '&' .expression ampersand) := by
    rw [read_of_feed accepted, Builder.finish, waits]
  have called : builder.action? ⟨.symbol, some "x", .start⟩ =
      .ok (.add (.rest (Name.normalize "x"))) := by
    simp [Builder.action?, waits]
  refine ⟨[⟨.symbol, some "x", .start⟩], ?_⟩
  rw [unnamed, read_append_of_feed accepted, Builder.run_cons_of_ok called,
    Builder.run_nil, Builder.perform, Builder.finish, Builder.expects_add]
  intro same
  dsimp only at same
  split at same <;> cases same

/-- An error of the second stage stays exactly when no collection and no
ampersand at the end is to blame for it. -/
theorem read_stays_iff {tokens : List Token} {error : ReadError}
    (failed : read tokens = .error error) :
    (∀ later, read (tokens ++ later) = .error error) ↔
      (∀ delimiter position, error ≠ .unclosed delimiter position) ∧
        ¬ EndsWithAmpersand tokens := by
  constructor
  · intro stays
    constructor
    · rintro delimiter position rfl
      obtain ⟨later, nodes, success⟩ := exists_read_of_unclosed failed
      rw [stays later] at success
      cases success
    · intro ends
      obtain ⟨later, different⟩ := ends.exists_read_ne
      exact different ((stays later).trans failed.symm)
  · rintro ⟨noCollection, named⟩ later
    rcases error_of_read failed with first | ⟨-, -, leftOpen⟩
    · exact read_of_firstFault (first.append named later)
    · obtain ⟨_, _, _, _, -, -, -, same⟩ := leftOpen
      exact absurd same (noCollection _ _)

/-- An error that is found while a text is cut stays whatever follows, unless a
string is unfinished, and all that stands in front of the refused character can
be cut. An error that is found while trees are built stays whatever tokens
follow, unless a collection is open or the ampersand at the very end is the
first token at fault. -/
theorem errors_stay :
    (∀ text error, tokenize text = .error error →
      ((∀ later, tokenize (text ++ later) = .error error) ↔
        ∀ position, error ≠ .invalidCharacter '"' .string position) ∧
      ((∀ position, error ≠ .invalidCharacter '"' .string position) →
        ∃ before character after setting,
          Text.unifyLineEndings text.toList = before ++ character :: after ∧
            error = .invalidCharacter character setting (.following before) ∧
            ∃ tokens, tokenize (String.ofList before) = .ok tokens)) ∧
    (∀ tokens error, read tokens = .error error →
      ((∀ later, read (tokens ++ later) = .error error) ↔
        (∀ delimiter position, error ≠ .unclosed delimiter position) ∧
          ¬ EndsWithAmpersand tokens)) := by
  constructor
  · intro text error failed
    exact ⟨tokenize_stays_iff failed, exists_refused_of_tokenize failed⟩
  · intro tokens error failed
    exact read_stays_iff failed

/-- The colon behind `#` and the surplus parenthesis stay at fault, the latter
although the last token is an ampersand without its name. -/
theorem errors_stay_of_colon_and_closer :
    (tokenize "\"b\"\r#:" = .error (.invalidCharacter ':' .symbol ⟨2, 2⟩) ∧
      ∀ later, tokenize ("\"b\"\r#:" ++ later) =
        .error (.invalidCharacter ':' .symbol ⟨2, 2⟩)) ∧
    (read [.closer ')' ⟨1, 1⟩, ⟨.rest, none, ⟨1, 2⟩⟩] =
        .error (.invalidCharacter ')' .expression ⟨1, 1⟩) ∧
      ∀ later, read ([.closer ')' ⟨1, 1⟩, ⟨.rest, none, ⟨1, 2⟩⟩] ++ later) =
        .error (.invalidCharacter ')' .expression ⟨1, 1⟩)) := by
  have colon : tokenize "\"b\"\r#:" =
      .error (.invalidCharacter ':' .symbol ⟨2, 2⟩) := rfl
  have closer : read [.closer ')' ⟨1, 1⟩, ⟨.rest, none, ⟨1, 2⟩⟩] =
      .error (.invalidCharacter ')' .expression ⟨1, 1⟩) := rfl
  refine ⟨⟨colon, (errors_stay.1 _ _ colon).1.mpr (by simp)⟩, closer,
    (errors_stay.2 _ _ closer).mpr ⟨by simp, ?_⟩⟩
  rintro ⟨before, ampersand, split, -, faultless⟩
  have size : before.length = 1 := by
    have lengths := congrArg List.length split
    rw [List.length_append] at lengths
    exact (Nat.succ.inj lengths).symm
  have fault : FaultAt [.closer ')' ⟨1, 1⟩, ⟨.rest, none, ⟨1, 2⟩⟩] 0
      (.invalidCharacter ')' .expression ⟨1, 1⟩) := ⟨_, rfl, .closer rfl⟩
  exact faultless 0 (by omega) _ fault

end LispReader
