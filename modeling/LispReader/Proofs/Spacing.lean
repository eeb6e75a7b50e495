import LispReader.Proofs.Relocation
import LispReader.Proofs.Scanning.Continuation
import LispReader.Proofs.Scanning.Layout

/-!
# Room for gaps

Tabs, line feeds, form feeds and spaces can be put in wherever a token has
ended or must end. The tokens stay the same and only move, and what is read of
them does not depend on where they stand. There is no room behind the sign `#`,
inside a word, a string or a comment. Main statement: `readings_of_gap`.
-/

namespace LispReader

theorem Lookback.permits_of_isSeparator {before : Lookback}
    (noDispatch : before ≠ .dispatch) {character : Char}
    (separates : isSeparator character = true) :
    before.permits character = true := by
  cases before with
  | plain => rfl
  | dispatch => exact absurd rfl noDispatch
  | metadata =>
      have noSign : character ≠ '^' := by
        rintro rfl
        cases separates
      simpa [permits] using noSign

namespace Scanner

/-- Whether what a scanner is in the middle of ends in front of these
characters, or nothing is, and the characters may follow. -/
def Mode.Breaks (following : List Char) : Mode → Prop
  | .expression before => ∀ first ∈ following.head?, before.permits first = true
  | .keyword _ _ | .symbol _ _ =>
      ∀ first ∈ following.head?, (isSeparator first || isCloser first) = true
  | .string _ _ | .comment _ _ => False

/-- What ends in front of some characters is cut apart from them. -/
theorem Mode.scan_of_breaks {mode : Mode} {following : List Char}
    (breaks : mode.Breaks following) (position : Position) :
    mode.scan position following =
      prepend mode.unfinished (cut position following) := by
  cases mode with
  | expression before =>
      rw [scan_expression_of_permits breaks, unfinished, prepend_nil]
  | string opening reversed | comment opening reversed => exact absurd breaks id
  | keyword opening reversed | symbol opening reversed =>
      refine scan_release (fun _ => rfl) ?_ position
      intro first isFirst place
      exact readWord_release (breaks first isFirst) _ _ _

/-- Whether there is room for a gap where a scanner is in this mode and these
characters follow: between tokens, but not behind the sign `#`, and behind a
word that ends here. -/
def Mode.HasRoom (following : List Char) : Mode → Prop
  | .expression before => before ≠ .dispatch
  | .keyword _ _ | .symbol _ _ =>
      ∀ first ∈ following.head?, isSeparator first = true ∨
        isCloser first = true
  | .string _ _ | .comment _ _ => False

theorem Mode.HasRoom.breaks {mode : Mode} {following : List Char}
    (room : mode.HasRoom following) {position : Position}
    {tokens : List Token}
    (success : mode.scan position following = .ok tokens) :
    mode.Breaks following := by
  cases mode with
  | expression before => exact permits_of_scan_expression success
  | string opening reversed | comment opening reversed => exact room
  | keyword opening reversed | symbol opening reversed =>
      intro first isFirst
      simpa using room first isFirst

/-- Whatever comes behind a gap, the gap ends a token where there is room for
it. -/
theorem Mode.HasRoom.breaks_gap {mode : Mode} {following : List Char}
    (room : mode.HasRoom following) {gap : List Char} (isGap : IsGap gap)
    (nonempty : gap ≠ []) :
    mode.Breaks (gap ++ following) := by
  obtain ⟨blank, others, rfl⟩ := List.exists_cons_of_ne_nil nonempty
  have separates : isSeparator blank = true :=
    (isGap_iff _).mp isGap blank List.mem_cons_self
  cases mode with
  | expression before =>
      rintro first ⟨⟩
      exact Lookback.permits_of_isSeparator room separates
  | string opening reversed | comment opening reversed => exact room
  | keyword opening reversed | symbol opening reversed =>
      rintro first ⟨⟩
      simp [separates]

end Scanner

theorem SameTokens.append_left {left right : List Token}
    (same : SameTokens left right) (front : List Token) :
    SameTokens (front ++ left) (front ++ right) := by
  rw [SameTokens, List.map_append, List.map_append, same]

namespace Scanner

/-- A gap where there is room for it leaves the tokens what they are. -/
theorem exists_cut_of_gap {front gap rest : List Char} {reached : Scanner}
    {tokens : List Token}
    (accepted : feed Scanner.read start front = (reached, none))
    (success : cut .start (front ++ rest) = .ok tokens)
    (room : reached.mode.HasRoom rest) (isGap : IsGap gap) :
    ∃ others, cut .start (front ++ (gap ++ rest)) = .ok others ∧
      SameTokens others tokens := by
  by_cases empty : gap = []
  · subst empty
    exact ⟨tokens, success, rfl⟩
  · rw [cut_append accepted] at success ⊢
    obtain ⟨later, scanned, rfl⟩ := prepend_eq_ok success
    rw [Mode.scan_of_breaks (room.breaks scanned)] at scanned
    obtain ⟨behind, cutBehind, rfl⟩ := prepend_eq_ok scanned
    obtain ⟨moved, cutMoved, same⟩ :=
      exists_cut_of_cut cutBehind (reached.position.advance gap)
    refine ⟨reached.tokens ++ (reached.mode.unfinished ++ moved), ?_,
      (same.append_left _).append_left _⟩
    rw [Mode.scan_of_breaks (room.breaks_gap isGap empty),
      cut_gap ((isGap_iff _).mp isGap), cutMoved, prepend_ok, prepend_ok]

end Scanner

namespace Text

/-- Of a gap, only a line feed at its front can be lost, to a carriage return
before it. -/
theorem exists_gap_behind (front : List Char) {gap : List Char}
    (isGap : IsGap gap) :
    ∃ between, IsGap between ∧
      unifyLineEndings (front ++ gap) = unifyLineEndings front ++ between := by
  have unified : unifyLineEndings gap = gap :=
    unifyLineEndings_of_not_mem isGap.return_not_mem
  rcases unifyLineEndings_append_cases front gap with
    separate | ⟨later, begins, merged, -⟩
  · exact ⟨gap, isGap, by rw [separate, unified]⟩
  · rw [unified] at begins
    subst begins
    exact ⟨later, (List.forall_mem_cons.mp isGap).2, merged⟩

/-- A gap that is put into a text is a gap in the unified text too. What is
behind it begins differently only where the gap stands inside a line ending. -/
theorem exists_gap_between (front back : List Char) {gap : List Char}
    (isGap : IsGap gap) (nonempty : gap ≠ []) :
    ∃ between rest, IsGap between ∧
      unifyLineEndings (front ++ back) = unifyLineEndings front ++ rest ∧
      unifyLineEndings (front ++ gap ++ back) = unifyLineEndings front ++
        (between ++ rest) ∧
      (rest = unifyLineEndings back ∨
          (unifyLineEndings front).getLast? = some '\n') := by
  obtain ⟨between, isBetween, spread⟩ := exists_gap_behind front isGap
  have noReturn : (front ++ gap).getLast? ≠ some '\r' := by
    rw [List.getLast?_append, List.getLast?_eq_some_getLast nonempty,
      Option.some_or]
    intro ended
    have member : gap.getLast nonempty ∈ gap := List.getLast_mem nonempty
    rw [Option.some.inj ended] at member
    exact isGap.return_not_mem member
  have whole : unifyLineEndings (front ++ gap ++ back) =
      unifyLineEndings front ++ (between ++ unifyLineEndings back) := by
    rw [unifyLineEndings_append noReturn, spread, List.append_assoc]
  rcases unifyLineEndings_append_cases front back with
    separate | ⟨later, begins, merged, ended⟩
  · exact ⟨between, _, isBetween, separate, whole, .inl rfl⟩
  · have isGapLonger : IsGap (between ++ ['\n']) := by
      intro character member
      rcases List.mem_append.mp member with inBetween | isLast
      · exact isBetween character inBetween
      · rw [List.mem_singleton] at isLast
        simp [isLast]
    refine ⟨between ++ ['\n'], later, isGapLonger, merged, ?_, .inr ended⟩
    rw [whole, begins, List.append_assoc, List.singleton_append]

end Text

/-! ## Reading with gaps -/

/-- The scanner behind a text: the last state that it reaches there. -/
def Scanner.behind (text : String) : Scanner :=
  (feed Scanner.read start (Text.unifyLineEndings text.toList)).1

theorem Scanner.feed_eq_behind {front back : String} {tokens : List Token}
    (success : tokenize (front ++ back) = .ok tokens) :
    feed Scanner.read start (Text.unifyLineEndings front.toList) =
      (behind front, none) := by
  obtain ⟨rest, whole⟩ := Text.unifyLineEndings_front front.toList back.toList
  rw [tokenize_eq_cut, String.toList_append, ← whole] at success
  rcases outcome : feed Scanner.read start
    (Text.unifyLineEndings front.toList) with
    ⟨reached, _ | refused⟩
  · rw [behind, outcome]
  · rw [cut_append_of_refused outcome] at success
    cases success

theorem sameTokens_iff (left right : List Token) :
    SameTokens left right ↔
      left.map (fun token => (token.kind, token.text)) =
        right.map (fun token => (token.kind, token.text)) := by
  have anywhere (tokens : List Token) :
      tokens.map (Token.move Position.forget) =
      (tokens.map fun token => (token.kind, token.text)).map
        fun content => ⟨content.1, content.2, .start⟩ := by
    rw [List.map_map]
    rfl
  have injective : Function.Injective
      fun content : Token.Kind × Option String =>
        (⟨content.1, content.2, .start⟩ : Token) := by
    rintro ⟨kind, text⟩ ⟨otherKind, otherText⟩ same
    cases same
    rfl
  rw [SameTokens, anywhere, anywhere, List.map_inj_right injective]

/-- A gap where there is room for one changes no token. Inside a line ending a
scanner is between tokens, or in a string. -/
theorem exists_tokenize_of_gap {front back gap : String} {tokens : List Token}
    (success : tokenize (front ++ back) = .ok tokens)
    (room : (Scanner.behind front).mode.HasRoom
      (Text.unifyLineEndings back.toList))
    (isGap : IsGap gap.toList) :
    ∃ others, tokenize (front ++ gap ++ back) = .ok others ∧
      SameTokens others tokens := by
  have accepted := Scanner.feed_eq_behind success
  by_cases empty : gap.toList = []
  · have same : front ++ gap ++ back = front ++ back := by
      apply String.toList_injective
      simp [empty]
    exact ⟨tokens, by rw [same, success], rfl⟩
  · obtain ⟨between, rest, isBetween, whole, spread, begins⟩ :=
      Text.exists_gap_between front.toList back.toList isGap empty
    have roomInFront : (Scanner.behind front).mode.HasRoom rest := by
      rcases begins with rfl | ended
      · exact room
      · rcases Scanner.mode_of_newline accepted ended with
          plain | ⟨opening, reversed, inString⟩
        · rw [plain]
          exact nofun
        · rw [inString] at room
          exact absurd room id
    rw [tokenize_eq_cut, String.toList_append, whole] at success
    obtain ⟨others, cutOthers, same⟩ :=
      Scanner.exists_cut_of_gap accepted success roomInFront isBetween
    refine ⟨others, ?_, same⟩
    rw [tokenize_eq_cut, String.toList_append, String.toList_append, spread,
      cutOthers]

/-- Layout does not matter. A gap that is put into a text where the scanner has
room for it leaves the tokens with the kinds and the texts they have, and the
text is read as before, with an error in another place at most. Tokens that
have the same kinds and texts are read alike wherever they stand. -/
theorem readings_of_gap :
    (∀ (front back gap : String) (tokens : List Token),
      tokenize (front ++ back) = .ok tokens →
      (Scanner.behind front).mode.HasRoom (Text.unifyLineEndings back.toList) →
      IsGap gap.toList →
      (∃ others, tokenize (front ++ gap ++ back) = .ok others ∧
        others.map (fun token => (token.kind, token.text)) =
          tokens.map (fun token => (token.kind, token.text))) ∧
      (parse (front ++ gap ++ back)).mapError (ReadError.move .forget) =
        (parse (front ++ back)).mapError (ReadError.move .forget)) ∧
    ∀ left right : List Token,
      left.map (fun token => (token.kind, token.text)) =
        right.map (fun token => (token.kind, token.text)) →
      (read left).mapError (ReadError.move .forget) =
        (read right).mapError (ReadError.move .forget) := by
  constructor
  · intro front back gap tokens success room isGap
    obtain ⟨others, spaced, same⟩ := exists_tokenize_of_gap success room isGap
    refine ⟨⟨others, spaced, (sameTokens_iff _ _).mp same⟩, ?_⟩
    rw [parse, parse, spaced, success]
    exact same.read_alike
  · intro left right same
    exact ((sameTokens_iff _ _).mpr same).read_alike

/-- A gap inside a line ending, one between a word and the delimiter behind it,
and a sign that is moved away from the brace it bears on. -/
theorem readings_of_gap_in_line_ending :
    (tokenize ("(^:k a\r" ++ "\n]") =
        .ok [⟨.openParen, none, ⟨1, 1⟩⟩, ⟨.metadata, none, ⟨1, 2⟩⟩,
            ⟨.keyword, some "k", ⟨1, 3⟩⟩, ⟨.symbol, some "a", ⟨1, 6⟩⟩,
            .closer ']' ⟨2, 1⟩] ∧
      (Scanner.behind "(^:k a\r").mode.HasRoom
        (Text.unifyLineEndings "\n]".toList) ∧
      IsGap "\n \t".toList ∧
      (parse ("(^:k a\r" ++ "\n \t" ++ "\n]")).mapError
        (ReadError.move .forget) =
        .ok [.list [.list [.identifier "with_meta", .identifier "a",
          .map [.keyword "k", .literal (.boolean true)]]]]) ∧
    (tokenize ("%" ++ ")") =
        .ok [⟨.symbol, some "%", ⟨1, 1⟩⟩, .closer ')' ⟨1, 2⟩] ∧
      (Scanner.behind "%").mode.HasRoom (Text.unifyLineEndings ")".toList) ∧
      IsGap "\x0c".toList ∧
      (parse ("%" ++ "\x0c" ++ ")")).mapError (ReadError.move .forget) =
        .error (.notAnonymousFunction "%")) ∧
    (([⟨.metadata, none, ⟨1, 1⟩⟩, ⟨.openBrace, none, ⟨7, 9⟩⟩] : List Token).map
        (fun token => (token.kind, token.text)) =
          [(.metadata, none), (.openBrace, none)] ∧
      (read [⟨.metadata, none, ⟨1, 1⟩⟩, ⟨.openBrace, none, ⟨7, 9⟩⟩]).mapError
          (ReadError.move .forget) =
        .error (.unclosed '{' ⟨1, 1⟩)) := by
  have returned : tokenize ("(^:k a\r" ++ "\n]") =
      .ok [⟨.openParen, none, ⟨1, 1⟩⟩, ⟨.metadata, none, ⟨1, 2⟩⟩,
          ⟨.keyword, some "k", ⟨1, 3⟩⟩, ⟨.symbol, some "a", ⟨1, 6⟩⟩,
          .closer ']' ⟨2, 1⟩] := rfl
  have roomAtReturn :
      (Scanner.behind "(^:k a\r").mode.HasRoom
        (Text.unifyLineEndings "\n]".toList) :=
    (by decide : Lookback.plain ≠ .dispatch)
  have isGap : IsGap "\n \t".toList :=
    (isGap_iff _).mpr (List.all_eq_true.mp rfl)
  have closed : tokenize ("%" ++ ")") =
      .ok [⟨.symbol, some "%", ⟨1, 1⟩⟩, .closer ')' ⟨1, 2⟩] := rfl
  have roomAtCloser :
      (Scanner.behind "%").mode.HasRoom (Text.unifyLineEndings ")".toList) := by
    rintro first ⟨⟩
    exact .inr rfl
  have isFormFeed : IsGap "\x0c".toList :=
    (isGap_iff _).mpr (List.all_eq_true.mp rfl)
  refine ⟨⟨returned, roomAtReturn, isGap, ?_⟩,
    ⟨closed, roomAtCloser, isFormFeed, ?_⟩, rfl, ?_⟩
  · rw [(readings_of_gap.1 _ _ _ _ returned roomAtReturn isGap).2]
    rfl
  · rw [(readings_of_gap.1 _ _ _ _ closed roomAtCloser isFormFeed).2]
    rfl
  · have moved :=
      readings_of_gap.2 [⟨.metadata, none, ⟨1, 1⟩⟩, ⟨.openBrace, none, ⟨7, 9⟩⟩]
      [⟨.metadata, none, ⟨1, 1⟩⟩, ⟨.openBrace, none, ⟨1, 2⟩⟩] rfl
    rw [moved]
    rfl

end LispReader
