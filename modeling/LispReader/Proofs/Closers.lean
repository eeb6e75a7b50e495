import LispReader.Proofs.Building.Fault
import LispReader.Proofs.Lines
import LispReader.Proofs.Scanning.Layout

/-!
# Closing delimiters of any shape

A closing delimiter closes the innermost open collection, and which of the
three it is makes no difference: what a collection is was decided where it was
opened. Main statement: `closers_of_parse`.
-/

namespace LispReader

theorem WellLaid.of_following_eq {before other : List Char}
    {pieces : List Piece}
    (same : Position.following before = .following other)
    (laid : WellLaid before pieces) :
    WellLaid other pieces := by
  induction pieces generalizing before other with
  | nil => trivial
  | cons piece rest inductionHypothesis =>
      obtain ⟨place, spelled, isGap, adjacent, restLaid⟩ := laid
      have moved : Position.following (before ++ piece.characters) =
          .following (other ++ piece.characters) := by
        rw [← Position.advance_following, ← Position.advance_following, same]
      exact ⟨place.trans same, spelled, isGap, adjacent,
        inductionHypothesis moved restLaid⟩

/-- A piece may be replaced by one that has the same kind, stands in the same
place and takes up the same room. -/
theorem WellLaid.replace {before : List Char} {front back : List Piece}
    {piece other : Piece} (kind : other.token.kind = piece.token.kind)
    (place : other.token.position = piece.token.position)
    (spelled : other.token.Spelled other.source) (gap : other.gap = piece.gap)
    (room : ∀ position : Position,
      position.advance other.characters = position.advance piece.characters)
    (laid : WellLaid before (front ++ piece :: back)) :
    WellLaid before (front ++ other :: back) := by
  induction front generalizing before with
  | nil =>
      obtain ⟨here, -, isGap, adjacent, restLaid⟩ := laid
      have reached : Position.following (before ++ piece.characters) =
          .following (before ++ other.characters) := by
        rw [← Position.advance_following, ← Position.advance_following, room]
      refine ⟨place.trans here, spelled, ?_, ?_,
        restLaid.of_following_eq reached⟩
      · rw [gap]
        exact isGap
      · rw [kind, gap]
        exact adjacent
  | cons first rest inductionHypothesis =>
      obtain ⟨here, firstSpelled, isGap, adjacent, restLaid⟩ := laid
      refine ⟨here, firstSpelled, isGap, ?_, inductionHypothesis restLaid⟩
      cases rest with
      | nil => simpa [kind] using adjacent
      | cons => exact adjacent

theorem ne_of_isCloser {closer character : Char}
    (closes : isCloser closer = true) (other : isCloser character = false) :
    closer ≠ character := by
  rintro rfl
  rw [closes] at other
  cases other

theorem Position.after_closer {closer : Char}
    (closes : isCloser closer = true) (position : Position) :
    position.after closer = ⟨position.line, position.column + 1⟩ :=
  after_of_ne_newline _ (ne_of_isCloser closes rfl)

def Piece.closer (shape : Char) (position : Position) (gap : List Char) :
    Piece :=
  ⟨.closer shape position, [shape], gap⟩

theorem Piece.eq_closer {piece : Piece}
    (spelled : piece.token.Spelled piece.source)
    (closes : piece.token.kind = .closeDelimiter) :
    ∃ shape, isCloser shape = true ∧
      piece = .closer shape piece.token.position piece.gap := by
  obtain ⟨token, source, gap⟩ := piece
  obtain ⟨shape, isShape, isSource, isToken⟩ := spelled.exists_closer closes
  dsimp only at isSource isToken
  refine ⟨shape, isShape, ?_⟩
  rw [isSource, closer, ← isToken]

/-- Closing delimiters of any shape stand in the same places. -/
theorem WellLaid.replace_closer {before gap : List Char}
    {front back : List Piece} {shape other : Char} {position : Position}
    (isShape : isCloser shape = true) (isOther : isCloser other = true)
    (laid : WellLaid before (front ++ .closer shape position gap :: back)) :
    WellLaid before (front ++ .closer other position gap :: back) := by
  have spelled : (Token.closer other position).Spelled [other] :=
    .closer ((Scanner.isCloser_iff other).mp isOther)
  have room (here : Position) :
      here.advance (Piece.closer other position gap).characters =
        here.advance (Piece.closer shape position gap).characters := by
    simp only [Piece.characters, Piece.closer, List.singleton_append,
      Position.advance_cons, Position.after_closer isShape,
      Position.after_closer isOther]
  exact WellLaid.replace (by rfl) (by rfl) spelled (by rfl) room laid

/-- A text keeps its tokens when another closing delimiter is written in place
of one of them, except for this one. -/
theorem tokenize_replace_closer {text : String} {before after : List Token}
    {closer : Token}
    (tokenized : tokenize text = .ok (before ++ closer :: after))
    (closes : closer.kind = .closeDelimiter) :
    ∃ front shape back,
      Text.unifyLineEndings text.toList = front ++ shape :: back ∧
      closer = .closer shape (.following front) ∧
        ∀ other, isCloser other = true →
          tokenize (String.ofList (front ++ other :: back)) =
            .ok (before ++ .closer other (.following front) :: after) := by
  obtain ⟨⟨leading, pieces⟩, ⟨isGap, laid⟩, same, whole⟩ :=
    exists_layout_of_tokenize tokenized
  obtain ⟨first, later, rfl, isBefore, isLater⟩ :=
    List.map_eq_append_iff.mp same
  obtain ⟨piece, rest, rfl, isPiece, isAfter⟩ := List.map_eq_cons_iff.mp isLater
  subst isPiece
  have place := laid.position_eq
  obtain ⟨shape, isShape, isCloserPiece⟩ :=
    Piece.eq_closer (laid.spelled piece (by simp)) closes
  rw [isCloserPiece] at laid whole
  have characters (written : Char) :
      Layout.characters
          ⟨leading,
              first ++ .closer written piece.token.position piece.gap :: rest⟩ =
        (leading ++ first.flatMap Piece.characters) ++
          written :: (piece.gap ++ rest.flatMap Piece.characters) := by
    simp [Layout.characters, Piece.closer, Piece.characters]
  have absent := Text.return_not_mem_unifyLineEndings text.toList
  rw [← whole, characters] at absent
  refine ⟨_, shape, _, whole.symm.trans (characters shape), ?_, ?_⟩
  · rw [← place, isCloserPiece]
    rfl
  · intro other isOther
    have otherLaid : Layout.WellFormed
        ⟨leading, first ++ .closer other piece.token.position piece.gap ::
            rest⟩ :=
      ⟨isGap, laid.replace_closer isShape isOther⟩
    have notOther : '\r' ≠ other := (ne_of_isCloser isOther rfl).symm
    rw [tokenize_of_layout otherLaid]
    · simp [Layout.tokens, Piece.closer, isBefore, isAfter, place]
    · rw [characters, String.toList_ofList, Text.unifyLineEndings_of_not_mem]
      simp only [List.mem_append, List.mem_cons, not_or] at absent ⊢
      exact ⟨absent.1, notOther, absent.2.2⟩

namespace Builder

theorem action?_of_closer {builder : Builder} {closer other : Token}
    {action : Action} (closes : closer.kind = .closeDelimiter)
    (otherCloses : other.kind = .closeDelimiter)
    (called : builder.action? closer = .ok action) :
    builder.action? other = .ok action := by
  obtain ⟨kind, text, position⟩ := closer
  obtain ⟨otherKind, otherText, otherPosition⟩ := other
  cases closes
  cases otherCloses
  cases action?_eq_ok_iff.mp called with
  | closer waits innermost =>
      exact action?_eq_ok_iff.mpr (.closer waits innermost)

theorem run_replace_closer {builder : Builder} {before after : List Token}
    {closer other : Token} {nodes : List Node}
    (closes : closer.kind = .closeDelimiter)
    (otherCloses : other.kind = .closeDelimiter)
    (success : builder.run (before ++ closer :: after) = .ok nodes) :
    builder.run (before ++ other :: after) = .ok nodes := by
  obtain ⟨reached, accepted, success⟩ := exists_feed_of_run success
  obtain ⟨action, called, success⟩ := exists_action_of_run success
  rw [run_append_of_feed accepted,
    run_cons_of_ok (action?_of_closer closes otherCloses called)]
  exact success

end Builder

/-- Where a closing delimiter is read, a collection is open that it closes. -/
theorem exists_opener_of_read {before after : List Token} {closer : Token}
    {nodes : List Node} (closes : closer.kind = .closeDelimiter)
    (success : read (before ++ closer :: after) = .ok nodes) :
    ∃ left opener inner, before = left ++ opener :: inner ∧
      opener.kind.opening?.isSome = true ∧ Balanced inner := by
  obtain ⟨builder, accepted, success⟩ := exists_feed_of_read success
  have follows := Builder.follows_of_feed accepted
  obtain ⟨action, called, -⟩ := Builder.exists_action_of_run success
  have fits := Builder.fits_of_action? follows.expects called
  obtain ⟨frame, -, isTop⟩ := fits.eq_leave closes
  obtain ⟨left, opener, inner, split, opens, balanced⟩ :=
    (follows.openings _ _).mp (Builder.openings_innermost isTop)
  obtain ⟨sign, -⟩ := Token.opener_of_opening? opens
  exact ⟨left, opener, inner, split, by rw [sign]; rfl, balanced⟩

/-- In a text that can be read, every closing delimiter closes a collection,
the innermost one that is open there. Any of the three closing delimiters may
stand in its place, whatever the shape of the opening delimiter, and the text
reads the same. -/
theorem closers_of_parse {text : String} {tokens before after : List Token}
    {closer : Token} {nodes : List Node} (parsed : parse text = .ok nodes)
    (tokenized : tokenize text = .ok tokens)
    (split : tokens = before ++ closer :: after)
    (closes : closer.kind = .closeDelimiter) :
    (∃ left opener inner, before = left ++ opener :: inner ∧
      opener.kind.opening?.isSome = true ∧ Balanced inner) ∧
    ∃ front shape back,
      Text.unifyLineEndings text.toList = front ++ shape :: back ∧
      closer = .closer shape (.following front) ∧
        ∀ other, isCloser other = true →
          parse (String.ofList (front ++ other :: back)) = .ok nodes := by
  subst split
  have success : read (before ++ closer :: after) = .ok nodes := by
    rwa [parse, tokenized] at parsed
  refine ⟨exists_opener_of_read closes success, ?_⟩
  obtain ⟨front, shape, back, whole, isCloserToken, replaced⟩ :=
    tokenize_replace_closer tokenized closes
  refine ⟨front, shape, back, whole, isCloserToken, fun other isOther => ?_⟩
  rw [read_eq_run] at success
  have otherSuccess := Builder.run_replace_closer closes
    (rfl : (Token.closer other (.following front)).kind =
        .closeDelimiter) success
  rw [parse, replaced other isOther, ← otherSuccess]
  exact read_eq_run _

theorem closers_of_parse_brace :
    parse "([a\x7d b)" =
      .ok [.list [.vector [.identifier "a"], .identifier "b"]] ∧
      (∃ left opener inner,
        [(⟨.openParen, none, ⟨1, 1⟩⟩ : Token), ⟨.openBracket, none, ⟨1, 2⟩⟩,
          ⟨.symbol, some "a", ⟨1, 3⟩⟩] = left ++ opener :: inner ∧
        opener.kind.opening?.isSome = true ∧ Balanced inner) ∧
      ∃ front shape back,
        Text.unifyLineEndings "([a\x7d b)".toList = front ++ shape :: back ∧
          Token.closer '}' ⟨1, 4⟩ = .closer shape (.following front) ∧
            ∀ other, isCloser other = true →
              parse (String.ofList (front ++ other :: back)) =
                .ok [.list [.vector [.identifier "a"], .identifier "b"]] := by
  have parsed : parse "([a\x7d b)" =
      .ok [.list [.vector [.identifier "a"], .identifier "b"]] := rfl
  have tokenized : tokenize "([a\x7d b)" =
      .ok ([⟨.openParen, none, ⟨1, 1⟩⟩, ⟨.openBracket, none, ⟨1, 2⟩⟩,
        ⟨.symbol, some "a", ⟨1, 3⟩⟩] ++ .closer '}' ⟨1, 4⟩ ::
          [⟨.symbol, some "b", ⟨1, 6⟩⟩, .closer ')' ⟨1, 7⟩]) := rfl
  exact ⟨parsed, closers_of_parse parsed tokenized rfl rfl⟩

/-- A bracket closes what a parenthesis opened. -/
theorem parse_of_unlike_delimiters :
    tokenize "(]" = .ok [⟨.openParen, none, ⟨1, 1⟩⟩, .closer ']' ⟨1, 2⟩] ∧
      parse "(]" = .ok [.list []] :=
  ⟨rfl, rfl⟩

end LispReader
