import LispReader.Proofs.Building.Fault
import LispReader.Proofs.Joining
import LispReader.Proofs.Scanning.Failure

/-!
# What an incomplete text lacks

A text that is called incomplete can be completed, and its tokens tell how. A
text with open collections lacks as many closing delimiters as it has
collections open, and no fewer will do. They go on a line of their own, unless
the text ends with a sign `#`: there an empty set goes first. A text that ends
inside a string lacks a quote. Main statement: `completed_of_incomplete`.
-/

namespace LispReader

/-- Tokens that leave a collection open are all taken, and every collection
counted as open is. -/
theorem exists_feed_of_unclosed {tokens : List Token} {delimiter : Char}
    {position : Position}
    (failed : read tokens = .error (.unclosed delimiter position)) :
    ∃ (builder : Builder) (sign : Lookback),
      feed Builder.read .start tokens = (builder, none) ∧
      builder.expects = .value sign ∧ 1 ≤ builder.frames.length ∧
      openers tokens = closers tokens + builder.frames.length := by
  rcases error_of_read failed with
    ⟨index, ⟨token, -, fault⟩, -⟩ | ⟨faultless, surplus, -⟩
  · cases fault
  · obtain ⟨builder, sign, accepted, waits⟩ :=
      exists_feed_of_faultless faultless
    have depth : openers tokens = closers tokens + builder.frames.length := by
      simpa [Builder.openings] using (Builder.follows_of_feed accepted).depth
    exact ⟨builder, sign, accepted, waits, by omega, depth⟩

theorem parse_error_cases {text : String} {error : ReadError}
    (failed : parse text = .error error) :
    tokenize text = .error error ∨
      ∃ tokens, tokenize text = .ok tokens ∧ read tokens = .error error := by
  unfold parse at failed
  cases outcome : tokenize text with
  | ok tokens =>
      rw [outcome] at failed
      exact .inr ⟨tokens, rfl, failed⟩
  | error refused =>
      rw [outcome] at failed
      cases failed
      exact .inl rfl

theorem exists_tokens_of_unclosed {text : String} {delimiter : Char}
    {position : Position}
    (failed : parse text = .error (.unclosed delimiter position)) :
    ∃ tokens, tokenize text = .ok tokens ∧
      read tokens = .error (.unclosed delimiter position) := by
  rcases parse_error_cases failed with uncut | cutUp
  · have failure := (tokenize_eq_error_iff text _).mp uncut
    cases failure
  · exact cutUp

/-- The quote that an error of an incomplete text names stands between tokens,
and no quote ends its string. -/
theorem exists_quote_of_unfinished {text : String} {position : Position}
    (failed : parse text = .error (.invalidCharacter '"' .string position)) :
    ∃ before inside,
      Text.unifyLineEndings text.toList = before ++ '"' :: inside ∧
      position = .following before ∧ Scanner.BetweenTokens before ∧
        '"' ∉ inside := by
  rcases parse_error_cases failed with uncut | ⟨tokens, -, refused⟩
  · have failure := (tokenize_eq_error_iff text _).mp uncut
    cases failure with
    | refused _ _ _ noString => exact absurd rfl noString
    | unfinished split between noQuote =>
        exact ⟨_, _, split, rfl, between, noQuote⟩
  · rcases error_of_read refused with
      ⟨index, ⟨token, -, fault⟩, -⟩ | ⟨-, -, leftOpen⟩
    · generalize same : ReadError.invalidCharacter '"' .string position =
        error at fault
      cases fault <;> simp at same
    · obtain ⟨_, _, _, _, -, -, -, same⟩ := leftOpen
      cases same

theorem return_not_mem_closers {shapes : List Char}
    (closes : ∀ shape ∈ shapes, isCloser shape = true) : '\r' ∉ shapes :=
  fun member => absurd (closes '\r' member) (by decide)

/-- A builder goes on with closing delimiters on a line of their own. -/
theorem parse_append_closers {text : String} {tokens : List Token}
    {builder : Builder} {shapes : List Char}
    (tokenized : tokenize text = .ok tokens)
    (noDispatch : ∀ last ∈ tokens.getLast?, last.kind ≠ .dispatch)
    (accepted : feed Builder.read .start tokens = (builder, none))
    (closes : ∀ shape ∈ shapes, isCloser shape = true) :
    ∃ place, parse (text ++ "\n" ++ String.ofList shapes) =
      builder.consume place shapes := by
  have rests := rests_of_tokenize tokenized noDispatch
  refine ⟨Position.start.advance (Text.above text), ?_⟩
  rw [parse_append_newline rests accepted, String.toList_ofList,
    Text.unifyLineEndings_of_not_mem (return_not_mem_closers closes)]

/-- A scanner that has just completed a sign `#` is between tokens. -/
theorem Scanner.exists_expression_of_dispatch {completed : List Token}
    {mode : Mode} {last : Token}
    (isLast : (completed ++ mode.unfinished).getLast? = some last)
    (sign : last.kind = .dispatch) :
    ∃ before, mode = .expression before := by
  cases mode with
  | expression before => exact ⟨before, rfl⟩
  | _ =>
      rw [Mode.unfinished, List.getLast?_concat] at isLast
      cases isLast
      cases sign

/-- A builder goes on behind a sign `#` with what begins with a brace. A brace
may stand behind every sign. -/
theorem parse_append_brace {text : String} {tokens : List Token}
    {last : Token} {builder : Builder} {rest : List Char}
    (tokenized : tokenize text = .ok tokens)
    (isLast : tokens.getLast? = some last) (sign : last.kind = .dispatch)
    (accepted : feed Builder.read .start tokens = (builder, none))
    (noReturn : '\r' ∉ rest) :
    ∃ place, parse (text ++ String.ofList ('{' :: rest)) =
      builder.consume place ('{' :: rest) := by
  rw [tokenize_eq_cut] at tokenized
  obtain ⟨scanner, taken, -, rfl⟩ := Scanner.exists_feed_of_cut tokenized
  obtain ⟨before, between⟩ := Scanner.exists_expression_of_dispatch isLast sign
  have noTokens : scanner.mode.unfinished = [] := by rw [between]; rfl
  rw [noTokens, List.append_nil] at accepted
  have permitted :
      ∀ first ∈ ('{' :: rest).head?, before.permits first = true := by
    rintro first ⟨⟩
    cases before <;> rfl
  have brace : '\r' ∉ '{' :: rest := by simp [noReturn]
  have whole :
      Text.unifyLineEndings (text ++ String.ofList ('{' :: rest)).toList =
      Text.unifyLineEndings text.toList ++ '{' :: rest := by
    rw [String.toList_append, String.toList_ofList,
      Text.unifyLineEndings_append_of_head (by simp),
      Text.unifyLineEndings_of_not_mem brace]
  refine ⟨scanner.position, ?_⟩
  rw [parse, tokenize_eq_cut, whole, Scanner.cut_append taken, between,
    Scanner.scan_expression_of_permits permitted, Builder.consume]
  cases Scanner.cut scanner.position ('{' :: rest) with
  | error refused => rfl
  | ok later => exact read_append_of_feed accepted later

/-- An empty set and as many closing delimiters as there are open collections
complete what a builder has read. -/
theorem Builder.exists_consume_of_braces {builder : Builder} {sign : Lookback}
    {shapes : List Char} (waits : builder.expects = .value sign)
    (depth : builder.frames.length = shapes.length)
    (closes : ∀ shape ∈ shapes, isCloser shape = true) (position : Position) :
    ∃ nodes, builder.consume position ('{' :: '}' :: shapes) = .ok nodes := by
  have spelled : (⟨.openBrace, none, position⟩ : Token).Spelled ['{'] :=
    .sign rfl
  have ends : Token.Kind.openBrace.endsBefore ('}' :: shapes) := by
    rintro first ⟨⟩
    rfl
  have called : builder.action? ⟨.openBrace, none, position⟩ =
      .ok (.enter (.ofBrace sign) position) :=
    action?_eq_ok_iff.mpr (.openBrace waits)
  have taken : builder.consume position ('{' :: '}' :: shapes) =
      (builder.perform (.enter (.ofBrace sign) position)).consume
        (position.after '{')
        ('}' :: shapes) :=
    consume_token spelled ends called
  have allClose : ∀ shape ∈ '}' :: shapes, isCloser shape = true := by
    simpa using ⟨by decide, closes⟩
  have deeper :
      (builder.perform (.enter (.ofBrace sign) position)).frames.length =
      ('}' :: shapes).length := by
    simp [perform, depth]
  rw [taken]
  exact exists_consume_of_closers rfl deeper allClose _

/-- A quote ends the string that is open. -/
theorem tokenize_append_quote {text : String} {before inside : List Char}
    (split : Text.unifyLineEndings text.toList = before ++ '"' :: inside)
    (between : Scanner.BetweenTokens before) (noQuote : '"' ∉ inside) :
    ∃ tokens, tokenize (text ++ "\"") =
      .ok (tokens ++
          [⟨.string, some (String.ofList inside), .following before⟩]) := by
  obtain ⟨tokens, place, cutString⟩ := between.cut_string noQuote
  have whole : Text.unifyLineEndings (text ++ "\"").toList =
      before ++ '"' :: (inside ++ ['"']) := by
    have quote : "\"".toList = ['"'] := rfl
    rw [String.toList_append, quote,
      Text.unifyLineEndings_append_of_head (by decide), split,
      Text.unifyLineEndings_of_not_mem (by decide), List.append_assoc,
      List.cons_append]
  refine ⟨tokens, ?_⟩
  rw [tokenize_eq_cut, whole, cutString]
  simp [Scanner.Mode.scan, Scanner.Mode.read, Scanner.Mode.unfinished,
    Scanner.textOf]

/-! ## Incomplete texts -/

/-- What completes an incomplete text. Where a collection is open, as many
closing delimiters of any shape as there are more opening ones do so on a line
of their own, and fewer leave a collection open; behind a sign `#` they do so
with an empty set before them. Where a string is open, a quote ends it. -/
theorem completed_of_incomplete (text : String) :
    (∀ delimiter position, parse text = .error (.unclosed delimiter position) →
      ∃ tokens depth, tokenize text = .ok tokens ∧ 1 ≤ depth ∧
        openers tokens = closers tokens + depth ∧
        ((∀ last ∈ tokens.getLast?, last.kind ≠ .dispatch) →
          ∀ shapes : List Char, (∀ shape ∈ shapes, isCloser shape = true) →
            (shapes.length = depth →
              ∃ nodes,
                parse (text ++ "\n" ++ String.ofList shapes) = .ok nodes) ∧
            (shapes.length < depth →
              ∃ other place, parse (text ++ "\n" ++ String.ofList shapes) =
                .error (.unclosed other place))) ∧
        ((∃ last, tokens.getLast? = some last ∧ last.kind = .dispatch) →
          ∀ shapes : List Char, (∀ shape ∈ shapes, isCloser shape = true) →
            shapes.length = depth →
              ∃ nodes, parse (text ++ "\x7b\x7d" ++ String.ofList shapes) =
                .ok nodes)) ∧
    (∀ position, parse text = .error (.invalidCharacter '"' .string position) →
      ∃ before inside tokens,
        Text.unifyLineEndings text.toList = before ++ '"' :: inside ∧
        position = .following before ∧
        tokenize (text ++ "\"") =
          .ok (tokens ++
              [⟨.string, some (String.ofList inside), position⟩])) := by
  constructor
  · intro delimiter position failed
    obtain ⟨tokens, tokenized, refused⟩ := exists_tokens_of_unclosed failed
    obtain ⟨builder, sign, accepted, waits, isOpen, depth⟩ :=
      exists_feed_of_unclosed refused
    refine ⟨tokens, builder.frames.length, tokenized, isOpen, depth, ?_, ?_⟩
    · intro noDispatch shapes closes
      obtain ⟨place, goesOn⟩ :=
        parse_append_closers tokenized noDispatch accepted closes
      rw [goesOn]
      exact ⟨fun all =>
        Builder.exists_consume_of_closers waits all.symm closes place,
        fun fewer =>
          Builder.exists_unclosed_of_closers waits fewer closes place⟩
    · rintro ⟨last, isLast, isDispatch⟩ shapes closes all
      have noReturn : '\r' ∉ '}' :: shapes := by
        simp [return_not_mem_closers closes]
      obtain ⟨place, goesOn⟩ :=
        parse_append_brace tokenized isLast isDispatch accepted noReturn
      have written : text ++ "\x7b\x7d" ++ String.ofList shapes =
          text ++ String.ofList ('{' :: '}' :: shapes) := by
        rw [String.append_assoc]
        congr 1
        exact String.toList_injective (by simp)
      rw [written, goesOn]
      exact Builder.exists_consume_of_braces waits all.symm closes place
  · intro position failed
    obtain ⟨before, inside, split, place, between, noQuote⟩ :=
      exists_quote_of_unfinished failed
    obtain ⟨tokens, tokenized⟩ := tokenize_append_quote split between noQuote
    exact ⟨before, inside, tokens, split, place, by rw [place, tokenized]⟩

theorem completed_of_two_open_collections :
    (parse "[(a" = .error (.unclosed '(' ⟨1, 2⟩) ∧
      (∃ nodes, parse ("[(a" ++ "\n" ++ String.ofList [']', '}']) = .ok nodes) ∧
      ∃ other place, parse ("[(a" ++ "\n" ++ String.ofList [')']) =
        .error (.unclosed other place)) ∧
    (parse "(#" = .error (.unclosed '(' ⟨1, 1⟩) ∧
      ∃ nodes, parse ("(#" ++ "\x7b\x7d" ++ String.ofList [')']) = .ok nodes) ∧
    (parse "a \"b" = .error (.invalidCharacter '"' .string ⟨1, 3⟩) ∧
      ∃ before inside tokens,
        Text.unifyLineEndings "a \"b".toList = before ++ '"' :: inside ∧
        ⟨1, 3⟩ = Position.following before ∧
        tokenize ("a \"b" ++ "\"") =
          .ok
            (tokens ++ [⟨.string, some (String.ofList inside), ⟨1, 3⟩⟩])) := by
  have twoOpen : parse "[(a" = .error (.unclosed '(' ⟨1, 2⟩) := rfl
  have twoTokens : tokenize "[(a" =
      .ok [⟨.openBracket, none, ⟨1, 1⟩⟩, ⟨.openParen, none, ⟨1, 2⟩⟩,
        ⟨.symbol, some "a", ⟨1, 3⟩⟩] := rfl
  have signLast : parse "(#" = .error (.unclosed '(' ⟨1, 1⟩) := rfl
  have signTokens : tokenize "(#" =
      .ok [⟨.openParen, none, ⟨1, 1⟩⟩, ⟨.dispatch, none, ⟨1, 2⟩⟩] := rfl
  have inString :
      parse "a \"b" = .error (.invalidCharacter '"' .string ⟨1, 3⟩) := rfl
  refine ⟨⟨twoOpen, ?_⟩, ⟨signLast, ?_⟩, inString,
    (completed_of_incomplete "a \"b").2 _ inString⟩
  · obtain ⟨tokens, depth, tokenized, -, count, closed, -⟩ :=
      (completed_of_incomplete "[(a").1 _ _ twoOpen
    rw [twoTokens] at tokenized
    cases tokenized
    have two : 2 = depth := count.trans (Nat.zero_add depth)
    subst two
    have noDispatch : ∀ last ∈ [(⟨.openBracket, none, ⟨1, 1⟩⟩ : Token),
        ⟨.openParen, none, ⟨1, 2⟩⟩, ⟨.symbol, some "a", ⟨1, 3⟩⟩].getLast?,
        last.kind ≠ .dispatch := by decide
    exact ⟨(closed noDispatch [']', '}'] (by simp [isCloser])).1 rfl,
      (closed noDispatch [')'] (by simp [isCloser])).2 (by simp)⟩
  · obtain ⟨tokens, depth, tokenized, -, count, -, closed⟩ :=
      (completed_of_incomplete "(#").1 _ _ signLast
    rw [signTokens] at tokenized
    cases tokenized
    have one : 1 = depth := count.trans (Nat.zero_add depth)
    subst one
    exact closed ⟨_, rfl, rfl⟩ [')'] (by simp [isCloser]) rfl

end LispReader
