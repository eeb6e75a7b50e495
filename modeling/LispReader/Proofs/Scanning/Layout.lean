import LispReader.Proofs.Scanning.Token

/-!
# Layouts

A text is laid out as tokens with gaps of separators around them. A layout is
well formed when each token is spelled where its position says and the gap
behind it is one that its kind and the kind of the token after it allow. Main
statement: a text has these tokens exactly when it has a well-formed layout of
them.
-/

namespace LispReader

/-- Characters that may stand between tokens: tabs, line feeds, form feeds and
spaces. -/
def IsGap (gap : List Char) : Prop :=
  ∀ character ∈ gap, character ∈ ['\t', '\n', '\x0c', ' ']

theorem isGap_iff (gap : List Char) :
    IsGap gap ↔ ∀ character ∈ gap, isSeparator character = true := by
  simp [IsGap, isSeparator, or_assoc]

theorem IsGap.return_not_mem {gap : List Char} (isGap : IsGap gap) :
    '\r' ∉ gap := by
  intro member
  exact absurd (isGap '\r' member) (by decide)

def Token.Kind.followsDispatch : List Kind :=
  [.metadata, .quote, .deref, .rest, .openParen, .openBrace, .string, .comment]

/-- Whether a token of this kind may have this gap behind it, and behind the
gap a token of the next kind, or nothing more. -/
def Token.Kind.MayPrecede (kind : Kind) (gap : List Char)
    (next? : Option Kind) : Prop :=
  match kind with
  | .comment => gap.head? = some '\n' ∨ gap = [] ∧ next? = none
  | .symbol => gap ≠ [] ∨ next? = some .closeDelimiter ∨ next? = none
  | .keyword => gap ≠ [] ∨ next? = some .closeDelimiter ∨ next? = none
  | .dispatch => gap = [] ∧ ∀ next ∈ next?, next ∈ followsDispatch
  | .metadata => gap ≠ [] ∨ next? ≠ some .metadata
  | _ => True

/-- A token with its spelling and with the gap behind it. -/
structure Piece where
  token : Token
  source : List Char
  gap : List Char

def Piece.characters (piece : Piece) : List Char :=
  piece.source ++ piece.gap

/-- Whether pieces may stand in a text with the characters `before` in front of
them. -/
def WellLaid (before : List Char) : List Piece → Prop
  | [] => True
  | piece :: rest =>
      piece.token.position = .following before ∧
        piece.token.Spelled piece.source ∧
        IsGap piece.gap ∧
        piece.token.kind.MayPrecede piece.gap (rest.head?.map (·.token.kind)) ∧
        WellLaid (before ++ piece.characters) rest

/-- A text taken apart: the gap it begins with, and its pieces. -/
structure Layout where
  leading : List Char
  pieces : List Piece

namespace Layout

def characters (layout : Layout) : List Char :=
  layout.leading ++ layout.pieces.flatMap Piece.characters

def tokens (layout : Layout) : List Token :=
  layout.pieces.map Piece.token

/-- Whether gaps are gaps and each piece may stand where it does. -/
def WellFormed (layout : Layout) : Prop :=
  IsGap layout.leading ∧ WellLaid layout.leading layout.pieces

end Layout

/-- What the first character of a token tells about its kind. -/
theorem Token.Spelled.exists_first {token : Token} {source : List Char}
    (spelled : token.Spelled source) :
    ∃ first rest, source = first :: rest ∧ isSeparator first = false ∧
      (isCloser first = true ↔ token.kind = .closeDelimiter) ∧
      (mayFollowDispatch first = true ↔
          token.kind ∈ Token.Kind.followsDispatch) ∧
      (first = '^' ↔ token.kind = .metadata) := by
  cases spelled with
  | @sign kind character position sign =>
      refine ⟨character, [], rfl, ?_⟩
      dsimp only
      cases kind <;> cases sign <;> decide
  | @closer character position closes =>
      refine ⟨character, [], rfl, ?_⟩
      dsimp only
      simp only [List.mem_cons, List.not_mem_nil, or_false] at closes
      rcases closes with rfl | rfl | rfl <;> decide
  | string _ =>
      refine ⟨_, _, rfl, ?_⟩
      dsimp only
      decide
  | comment _ =>
      refine ⟨_, _, rfl, ?_⟩
      dsimp only
      decide
  | keyword _ =>
      refine ⟨_, _, rfl, ?_⟩
      dsimp only
      decide
  | @symbol text position first within isFirst notSign =>
      obtain ⟨rest, split⟩ := List.head?_eq_some_iff.mp isFirst
      have inSymbol := within first (split ▸ List.mem_cons_self)
      have absent := Scanner.not_mem_delimiters_of_isSymbolCharacter inSymbol
      have noSeparator := Scanner.isSeparator_of_isSymbolCharacter inSymbol
      have noCloser := Scanner.isCloser_of_isSymbolCharacter inSymbol
      simp only [delimiters, List.mem_cons, List.not_mem_nil, or_false,
        not_or] at absent notSign
      refine ⟨first, rest, split, noSeparator, ?_⟩
      simp [noCloser, mayFollowDispatch, Token.Kind.followsDispatch, absent,
        notSign]

theorem Token.Kind.mayPrecede_gap_iff (kind : Kind) {first : Char}
    {rest : List Char} (separates : isSeparator first = true)
    (next? : Option Kind) :
    kind.MayPrecede (first :: rest) next? ↔ kind.allows first = true := by
  have refused : mayFollowDispatch first = false := by
    simp only [isSeparator, Bool.or_eq_true, decide_eq_true_eq] at separates
    rcases separates with ((rfl | rfl) | rfl) | rfl <;> rfl
  have different : first ≠ '^' := by
    rintro rfl
    cases separates
  cases kind <;>
    simp [MayPrecede, allows, Lookback.ofKind, Lookback.permits, separates,
      refused, different]

theorem Token.Kind.mayPrecede_token_iff (kind : Kind) {token : Token}
    {first : Char} {rest : List Char}
    (spelled : token.Spelled (first :: rest)) :
    kind.MayPrecede [] (some token.kind) ↔ kind.allows first = true := by
  obtain ⟨_, _, split, noSeparator, closes, follows, sign⟩ :=
    spelled.exists_first
  cases split
  have inLine : first ≠ '\n' := by
    rintro rfl
    cases noSeparator
  cases kind <;>
    simp [MayPrecede, allows, Lookback.ofKind, Lookback.permits, noSeparator,
      inLine, closes, follows, sign]

/-- The rule for gaps and kinds is the rule for the character behind the
token. -/
theorem Token.Kind.mayPrecede_iff_endsBefore (kind : Kind) {gap : List Char}
    (isGap : IsGap gap) {before : List Char} {pieces : List Piece}
    (laid : WellLaid before pieces) :
    kind.MayPrecede gap (pieces.head?.map (·.token.kind)) ↔
      kind.endsBefore (gap ++ pieces.flatMap Piece.characters) := by
  cases gap with
  | cons first rest =>
      have separates := (isGap_iff _).mp isGap first List.mem_cons_self
      rw [List.cons_append, endsBefore_cons, mayPrecede_gap_iff kind separates]
  | nil =>
      cases pieces with
      | nil => cases kind <;> simp [MayPrecede]
      | cons piece others =>
          obtain ⟨token, source, gap⟩ := piece
          have spelled : token.Spelled source := laid.2.1
          obtain ⟨first, rest, rfl, -⟩ := spelled.exists_first
          simp only [List.head?_cons, Option.map_some, List.nil_append,
            List.flatMap_cons, Piece.characters, List.cons_append,
            endsBefore_cons]
          exact mayPrecede_token_iff kind spelled

/-! ## Layouts and cutting -/

open Scanner in
/-- Pieces that are laid out well are cut into their tokens. -/
theorem WellLaid.cut {before : List Char} {pieces : List Piece}
    (laid : WellLaid before pieces) :
    cut (.following before) (pieces.flatMap Piece.characters) =
      .ok (pieces.map Piece.token) := by
  induction pieces generalizing before with
  | nil => rfl
  | cons piece rest inductionHypothesis =>
      obtain ⟨place, spelled, isGap, adjacent, restLaid⟩ := laid
      have ends :=
        (Token.Kind.mayPrecede_iff_endsBefore _ isGap restLaid).mp adjacent
      have reached :
          (piece.token.position.advance piece.source).advance piece.gap =
            .following (before ++ piece.characters) := by
        rw [← Position.advance_append, place, Position.advance_following,
          Piece.characters]
      rw [List.flatMap_cons, Piece.characters, List.append_assoc, ← place,
        cut_token spelled ends, cut_gap ((isGap_iff _).mp isGap), reached,
        inductionHypothesis restLaid]
      rfl

open Scanner in
/-- What can be cut into tokens is a gap and pieces, each of which may stand
where it does. A separator or a token, which is never empty, is taken off the
front. -/
theorem exists_wellLaid_of_cut {before characters : List Char}
    {tokens : List Token}
    (success : cut (.following before) characters = .ok tokens) :
    ∃ leading pieces, IsGap leading ∧ WellLaid (before ++ leading) pieces ∧
      pieces.map Piece.token = tokens ∧
      leading ++ pieces.flatMap Piece.characters = characters := by
  induction size : characters.length using Nat.strongRecOn
    generalizing before characters tokens with
  | _ bound inductionHypothesis =>
  cases characters with
  | nil =>
      cases success
      exact ⟨[], [], by simp [IsGap], trivial, rfl, rfl⟩
  | cons first rest =>
      rcases cut_cons_cases success with
        ⟨separates, cutRest⟩ |
        ⟨token, source, following, later, place, spelled, split, ends, rfl,
            cutLater⟩
      · have shorter : rest.length < bound := by
          rw [← size]
          exact Nat.lt_succ_self _
        rw [← Position.following_append_singleton] at cutRest
        obtain ⟨leading, pieces, isGap, laid, rfl, rfl⟩ :=
          inductionHypothesis _ shorter cutRest rfl
        refine ⟨first :: leading, pieces, ?_, by simpa using laid, rfl, rfl⟩
        rw [isGap_iff] at isGap ⊢
        simpa [separates] using isGap
      · have shorter : following.length < bound := by
          have positive := List.length_pos_iff.mpr spelled.ne_nil
          rw [← size, split, List.length_append]
          omega
        rw [Position.advance_following] at cutLater
        obtain ⟨gap, pieces, isGap, laid, rfl, rfl⟩ :=
          inductionHypothesis _ shorter cutLater rfl
        refine ⟨[], ⟨token, source, gap⟩ :: pieces, by
          simp [IsGap], ?_, rfl, ?_⟩
        · rw [List.append_nil]
          refine ⟨place, spelled, isGap, ?_, ?_⟩
          · exact (Token.Kind.mayPrecede_iff_endsBefore _ isGap laid).mpr ends
          · rw [Piece.characters, ← List.append_assoc]
            exact laid
        · rw [split]
          simp [Piece.characters]

theorem exists_layout_of_tokenize {text : String} {tokens : List Token}
    (success : tokenize text = .ok tokens) :
    ∃ layout : Layout, layout.WellFormed ∧ layout.tokens = tokens ∧
      layout.characters = Text.unifyLineEndings text.toList := by
  rw [tokenize_eq_cut, ← Position.advance_nil .start,
    Position.advance_start] at success
  obtain ⟨leading, pieces, isGap, laid, same, whole⟩ :=
    exists_wellLaid_of_cut success
  exact ⟨⟨leading, pieces⟩, ⟨isGap, laid⟩, same, whole⟩

/-- A text that is laid out well is cut into the tokens of its layout. -/
theorem tokenize_of_layout {text : String} {layout : Layout}
    (laidOut : layout.WellFormed)
    (whole : layout.characters = Text.unifyLineEndings text.toList) :
    tokenize text = .ok layout.tokens := by
  obtain ⟨leading, pieces⟩ := layout
  obtain ⟨isGap, laid⟩ := laidOut
  have place : Position.start.advance leading = .following leading :=
    Position.advance_start leading
  rw [tokenize_eq_cut, ← whole, Layout.characters,
    Scanner.cut_gap ((isGap_iff _).mp isGap), place]
  exact laid.cut

/-- A text has these tokens exactly when they can be laid out to give it, with
unified line endings: every token spelled in full at the place it names,
nothing but gaps between the tokens, and between any two neighbours a gap that
they allow. -/
theorem tokenize_eq_ok_iff (text : String) (tokens : List Token) :
    tokenize text = .ok tokens ↔
      ∃ layout : Layout, layout.WellFormed ∧ layout.tokens = tokens ∧
        layout.characters = Text.unifyLineEndings text.toList := by
  constructor
  · exact exists_layout_of_tokenize
  · rintro ⟨layout, laidOut, rfl, whole⟩
    exact tokenize_of_layout laidOut whole

theorem WellLaid.spelled {before : List Char} {pieces : List Piece}
    (laid : WellLaid before pieces) :
    ∀ piece ∈ pieces, piece.token.Spelled piece.source := by
  induction pieces generalizing before with
  | nil => simp
  | cons piece rest inductionHypothesis =>
      obtain ⟨-, spelled, -, -, restLaid⟩ := laid
      exact List.forall_mem_cons.mpr ⟨spelled, inductionHypothesis restLaid⟩

theorem WellLaid.position_eq {before : List Char} {front back : List Piece}
    {piece : Piece} (laid : WellLaid before (front ++ piece :: back)) :
    piece.token.position =
      .following (before ++ front.flatMap Piece.characters) := by
  induction front generalizing before with
  | nil => simpa using laid.1
  | cons first rest inductionHypothesis =>
      obtain ⟨-, -, -, -, restLaid⟩ := laid
      rw [inductionHypothesis restLaid, List.flatMap_cons, List.append_assoc]

/-- Each token of a text is spelled out in it, in the place that it names. -/
theorem exists_source_of_tokenize {text : String} {before after : List Token}
    {token : Token}
    (tokenized : tokenize text = .ok (before ++ token :: after)) :
    ∃ front source back,
      Text.unifyLineEndings text.toList = front ++ source ++ back ∧
      token.Spelled source ∧ token.position = .following front := by
  obtain ⟨⟨leading, pieces⟩, ⟨-, laid⟩, same, whole⟩ :=
    exists_layout_of_tokenize tokenized
  obtain ⟨first, later, rfl, -, isLater⟩ := List.map_eq_append_iff.mp same
  obtain ⟨piece, rest, rfl, rfl, -⟩ := List.map_eq_cons_iff.mp isLater
  refine ⟨leading ++ first.flatMap Piece.characters, piece.source,
    piece.gap ++ rest.flatMap Piece.characters, ?_,
      laid.spelled piece (by simp),
    laid.position_eq⟩
  rw [← whole]
  simp [Layout.characters, Piece.characters]

/-- No carriage return is left in the spelling of a token. -/
theorem spelled_of_tokenize {text : String} {tokens : List Token}
    (success : tokenize text = .ok tokens) :
    ∀ token ∈ tokens, ∃ source, token.Spelled source ∧ '\r' ∉ source := by
  intro token member
  obtain ⟨before, after, rfl⟩ := List.append_of_mem member
  obtain ⟨front, source, back, whole, spelled, -⟩ :=
    exists_source_of_tokenize success
  refine ⟨source, spelled, ?_⟩
  have absent := Text.return_not_mem_unifyLineEndings text.toList
  rw [whole] at absent
  simp only [List.mem_append, not_or] at absent
  exact absent.1.2

end LispReader
