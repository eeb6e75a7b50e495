import LispReader.Proofs.Building.Sequel
import LispReader.Proofs.Reading
import LispReader.Proofs.Relocation
import LispReader.Proofs.Scanning.Continuation

/-!
# Texts joined by a line feed

A text behind another one and a line feed is cut as it is alone, further down.
If the one before it leaves nothing open, it is also read as it is alone. Main
statement: `parse_of_joined`.
-/

namespace LispReader

/-- How many lines further down a text begins when it follows this one and a
line feed. -/
def linesAbove (front : String) : Nat :=
  (Text.above front).count '\n'

theorem Position.advance_of_newline {characters : List Char}
    (ended : characters.getLast? = some '\n') :
    start.advance characters = start.lower (characters.count '\n') := by
  rcases List.getLast?_eq_some_iff.mp ended with ⟨earlier, rfl⟩
  rw [advance_start, following_append_singleton, after_newline]
  simp [following, lower, start]
  omega

/-- Behind a line feed a text is cut as it is alone, as many lines further
down. -/
theorem tokenize_join {front : String} {tokens : List Token}
    (success : tokenize front = .ok tokens)
    (noDispatch : ∀ last ∈ tokens.getLast?, last.kind ≠ .dispatch)
    (back : String) :
    tokenize (front ++ "\n" ++ back) =
      Scanner.prepend tokens
        (Scanner.relocate (Position.lower (linesAbove front))
            (tokenize back)) := by
  have rests := rests_of_tokenize success noDispatch
  have place := Position.advance_of_newline (Text.getLast?_above front)
  rw [tokenize_append_newline rests, place, Scanner.cut_lower,
    ← tokenize_eq_cut]
  rfl

/-- A builder that took every token of a text goes on with the text behind a
line feed. -/
theorem parse_append_newline {front : String} {tokens : List Token}
    {reached : Builder} (rests : Scanner.Rests (Text.above front) tokens)
    (accepted : feed Builder.read .start tokens = (reached, none))
    (back : String) :
    parse (front ++ "\n" ++ back) =
      reached.consume (Position.start.advance (Text.above front))
        (Text.unifyLineEndings back.toList) := by
  rw [parse, tokenize_append_newline rests, Builder.consume]
  cases Scanner.cut (Position.start.advance (Text.above front))
      (Text.unifyLineEndings back.toList) with
  | error refused => rfl
  | ok later => exact read_append_of_feed accepted later

/-- Behind a program that leaves nothing open a text is read as it is alone,
with its errors further down. -/
theorem parse_join {front : String} {tokens : List Token} {nodes : List Node}
    (cut : tokenize front = .ok tokens) (built : read tokens = .ok nodes)
    (contained : SelfContained tokens nodes) (back : String) :
    parse (front ++ "\n" ++ back) =
      ((parse back).map (nodes ++ ·)).mapError
        (ReadError.move (Position.lower (linesAbove front))) := by
  have noDispatch : ∀ last ∈ tokens.getLast?, last.kind ≠ .dispatch :=
    fun last isLast => (contained.noSign last isLast).1
  rw [parse, tokenize_join cut noDispatch, parse]
  cases tokenize back with
  | error refused => rfl
  | ok later =>
      have behind := read_append built contained
        (later.map (Token.move (Position.lower (linesAbove front))))
      rw [read_map_move] at behind
      refine behind.trans ?_
      dsimp only
      cases read later <;> rfl

/-- Behind a program that leaves nothing open, a line feed and a text that can
be read add the nodes of the text. The error of a text that cannot be read is
the same, so many lines further down as the program and the line feed have line
endings. -/
theorem parse_of_joined {front : String} {tokens : List Token}
    {nodes : List Node} (tokenized : tokenize front = .ok tokens)
    (success : parse front = .ok nodes)
    (contained : SelfContained tokens nodes) (back : String) :
    (∀ others, parse back = .ok others →
      parse (front ++ "\n" ++ back) = .ok (nodes ++ others)) ∧
    (∀ error, parse back = .error error →
      parse (front ++ "\n" ++ back) =
        .error (error.move (Position.lower (linesAbove front)))) := by
  have built : read tokens = .ok nodes := by
    rwa [parse, tokenized] at success
  have joined := parse_join tokenized built contained back
  constructor
  · intro others backRead
    rw [joined, backRead]
    rfl
  · intro error backFailed
    rw [joined, backFailed]
    rfl

/-- The tokens of a text with a carriage return inside a list and at its end. -/
def tokensWithReturns : List Token :=
  [⟨.openParen, none, ⟨1, 1⟩⟩, ⟨.symbol, some "a", ⟨1, 2⟩⟩,
    .closer ')' ⟨2, 1⟩, ⟨.deref, none, ⟨2, 3⟩⟩, ⟨.symbol, some "b", ⟨2, 4⟩⟩]

/-- The carriage return at the end of the first text and the line feed are one
line ending. -/
theorem parse_of_joined_at_return :
    (tokenize "(a\r) @b\r" = .ok tokensWithReturns ∧
      parse "(a\r) @b\r" = .ok [.list [.identifier "a"],
        .list [.identifier "deref", .identifier "b"]] ∧
      parse "'c" = .ok [.list [.identifier "quote", .identifier "c"]] ∧
      parse "[ 'd" = .error (.unclosed '[' ⟨1, 1⟩)) ∧
    parse ("(a\r) @b\r" ++ "\n" ++ "'c") =
      .ok [.list [.identifier "a"],
        .list [.identifier "deref", .identifier "b"],
        .list [.identifier "quote", .identifier "c"]] ∧
    parse ("(a\r) @b\r" ++ "\n" ++ "[ 'd") = .error (.unclosed '[' ⟨3, 1⟩) := by
  have tokenized : tokenize "(a\r) @b\r" = .ok tokensWithReturns := rfl
  have success : parse "(a\r) @b\r" =
      .ok [.list [.identifier "a"],
        .list [.identifier "deref", .identifier "b"]] := rfl
  have quoted :
      parse "'c" = .ok [.list [.identifier "quote", .identifier "c"]] := rfl
  have unclosed : parse "[ 'd" = .error (.unclosed '[' ⟨1, 1⟩) := rfl
  have contained : SelfContained tokensWithReturns
      [.list [.identifier "a"], .list [.identifier "deref", .identifier "b"]] :=
    ⟨by decide, by simp [Node.isWaiting]⟩
  exact ⟨⟨tokenized, success, quoted, unclosed⟩,
    (parse_of_joined tokenized success contained "'c").1 _ quoted,
    (parse_of_joined tokenized success contained "[ 'd").2 _ unclosed⟩

end LispReader
