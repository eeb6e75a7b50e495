import LispReader.Proofs.Building.Fault
import LispReader.Proofs.Joining
import LispReader.Session

/-!
# What a session gives up

A session gives up on lines when they cannot be read and are not incomplete. In
all such texts but one kind the error stays whatever follows. The exception is
a text that ends with an ampersand: a name on the next line would mend it. Main
statement: `exists_continuation_iff_of_failed`.
-/

namespace LispReader

/-- Whether the last of the tokens is an ampersand without its name and the
first token at fault. -/
def EndsWithAmpersand (tokens : List Token) : Prop :=
  ∃ before ampersand, tokens = before ++ [ampersand] ∧ ampersand.kind = .rest ∧
    FaultlessUpTo tokens before.length

theorem Builder.exists_ampersand_of_finish {builder : Builder}
    {error : ReadError} (failed : builder.finish = .error error)
    (final : error.isIncomplete = false) :
    ∃ ampersand, builder.expects = .name ampersand := by
  rcases builder with ⟨expects, top, frames, scopes⟩
  cases expects with
  | name ampersand => exact ⟨ampersand, rfl⟩
  | value before =>
      cases frames with
      | nil => cases failed
      | cons frame outer =>
          cases failed
          cases final

/-- Only an ampersand in front of its name is refused for good and yet mended
by more tokens: any fault before it would still be one. -/
theorem endsWithAmpersand_of_read_append {tokens later : List Token}
    {error : ReadError} {nodes : List Node}
    (failed : read tokens = .error error) (final : error.isIncomplete = false)
    (success : read (tokens ++ later) = .ok nodes) :
    EndsWithAmpersand tokens := by
  have faultless := faultless_of_read success
  rcases exists_feed_of_read success with ⟨reached, accepted, -⟩
  have finished : reached.finish = .error error :=
    (read_of_feed accepted).symm.trans failed
  rcases Builder.exists_ampersand_of_finish finished final with
    ⟨ampersand, waits⟩
  have follows := Builder.follows_of_feed accepted
  rcases follows.exists_ampersand waits with ⟨before, last, split, isRest, -⟩
  refine ⟨before, last, split, isRest, ?_⟩
  intro index inFront refused fault
  have inside : index + 1 < tokens.length := by
    rw [split, List.length_append, List.length_singleton]
    omega
  obtain ⟨token, here, -, -⟩ := fault.exists_split
  have longer := (faultAt_append_iff here (.inr inside) later refused).mpr fault
  exact faultless index refused longer

theorem endsWithAmpersand_of_parse {source continuation : String}
    {error : ReadError} {nodes : List Node}
    (failed : parse source = .error error)
    (final : error.isIncomplete = false)
    (success : parse (source ++ "\n" ++ continuation) = .ok nodes) :
    ∃ tokens, tokenize source = .ok tokens ∧ EndsWithAmpersand tokens := by
  rcases (parse_eq_ok_iff _ _).mp success with ⟨whole, cut, built⟩
  cases front : tokenize source with
  | error refused =>
      rw [parse, front] at failed
      cases failed
      rw [String.append_assoc, tokenize_append_of_error front final] at cut
      cases cut
  | ok tokens =>
      refine ⟨tokens, rfl, ?_⟩
      rw [parse, front] at failed
      rcases rests_or_dispatch_of_tokenize front with rests | ⟨-, refuses⟩
      · rw [tokenize_append_newline rests] at cut
        rcases Scanner.prepend_eq_ok cut with ⟨later, -, rfl⟩
        exact endsWithAmpersand_of_read_append failed final built
      · rcases refuses continuation with ⟨refused, rejected⟩
        rw [rejected] at cut
        cases cut

theorem EndsWithAmpersand.last_ne_dispatch {tokens : List Token}
    (ends : EndsWithAmpersand tokens) :
    ∀ last ∈ tokens.getLast?, last.kind ≠ .dispatch := by
  rcases ends with ⟨before, ampersand, rfl, isRest, -⟩
  intro last isLast isDispatch
  rw [List.getLast?_concat, Option.mem_some_iff] at isLast
  rw [← isLast, isRest] at isDispatch
  cases isDispatch

/-- A builder has taken the ampersand and waits for its name. The ampersand
before would have been at fault, since this one is no name. -/
theorem EndsWithAmpersand.exists_feed {tokens : List Token}
    (ends : EndsWithAmpersand tokens) :
    ∃ (builder : Builder) (ampersand : Position),
      feed Builder.read .start tokens = (builder, none) ∧
        builder.expects = .name ampersand := by
  rcases ends with ⟨before, ⟨kind, text, position⟩, rfl, isRest, faultless⟩
  dsimp only at isRest
  subst isRest
  rcases exists_feed_of_faultlessUpTo faultless with ⟨builder, accepted⟩
  have inFront :
      (before ++ [(⟨.rest, text, position⟩ : Token)]).take before.length =
        before :=
    List.take_left
  rw [inFront] at accepted
  have follows := Builder.follows_of_feed accepted
  cases waits : builder.expects with
  | name ampersand =>
      rcases follows.exists_ampersand waits with
        ⟨earlier, last, split, lastIsRest, -⟩
      have here :
          (before ++ [(⟨.rest, text, position⟩ : Token)])[before.length]? =
          some ⟨.rest, text, position⟩ := by simp
      rcases exists_name_of_faultlessUpTo faultless (inFront.trans split)
        lastIsRest here with
        ⟨name, place, same⟩
      cases same
  | value sign =>
      have taken : builder.read ⟨.rest, text, position⟩ =
          .ok { builder with expects := .name position } :=
        Builder.read_eq_ok_iff.mpr ⟨_,
            Builder.action?_eq_ok_iff.mpr (.rest waits), rfl⟩
      exact ⟨{ builder with expects := .name position }, position,
        feed_append_eq_none_iff.mpr ⟨builder, accepted,
        feed_singleton_eq_none_iff.mpr taken⟩, rfl⟩

/-- A name, and as many closing delimiters as there are open collections. -/
def Builder.completion (builder : Builder) : List Char :=
  'x' :: List.replicate builder.frames.length ')'

/-- A name and closing delimiters complete what waits for a name. -/
theorem Builder.exists_consume_completion {builder : Builder}
    {ampersand : Position} (waits : builder.expects = .name ampersand)
    (position : Position) :
    ∃ nodes, builder.consume position builder.completion = .ok nodes := by
  have closes : ∀ shape ∈ List.replicate builder.frames.length ')',
      isCloser shape = true := by
    intro shape member
    rw [List.eq_of_mem_replicate member]
    rfl
  have inSymbol :
      ∀ character ∈ "x".toList, isSymbolCharacter character = true := by
    have single : "x".toList = ['x'] := rfl
    rw [single, List.forall_mem_singleton]
    rfl
  have spelled : (⟨.symbol, some "x", position⟩ : Token).Spelled "x".toList :=
    .symbol inSymbol rfl (by decide)
  have ends :
      Token.Kind.symbol.endsBefore
        (List.replicate builder.frames.length ')') := by
    intro first isFirst
    have isShape := closes first (List.mem_of_mem_head? isFirst)
    simp [Token.Kind.allows, isShape]
  have called : builder.action? ⟨.symbol, some "x", position⟩ =
      .ok (.add (.rest (Name.normalize "x"))) := by
    simp [action?, waits]
  have taken : builder.consume position builder.completion =
      (builder.add (.rest (Name.normalize "x"))).consume (position.after 'x')
        (List.replicate builder.frames.length ')') :=
    consume_token spelled ends called
  rw [taken]
  exact exists_consume_of_closers (expects_add _ _) (by simp) closes _

/-- A text that ends with an ampersand can be continued on the next line. -/
theorem exists_continuation_of_endsWithAmpersand {source : String}
    {tokens : List Token} (cut : tokenize source = .ok tokens)
    (ends : EndsWithAmpersand tokens) :
    ∃ continuation nodes,
      parse (source ++ "\n" ++ continuation) = .ok nodes := by
  rcases ends.exists_feed with ⟨builder, ampersand, accepted, waits⟩
  have rests := rests_of_tokenize cut ends.last_ne_dispatch
  have absent : '\r' ∉ builder.completion := by
    simp [Builder.completion, List.mem_replicate]
  refine ⟨String.ofList builder.completion, ?_⟩
  rw [parse_append_newline rests accepted, String.toList_ofList,
    Text.unifyLineEndings_of_not_mem absent]
  exact Builder.exists_consume_completion waits _

/-- Lines that a session gives up can still be completed exactly when they end
with an ampersand that lacks its name and have no other fault. -/
theorem exists_continuation_iff_of_failed {session : Session} {line : String}
    {error : ReadError} (failed : (session.read line).2 = .failed error) :
    (∃ continuation nodes,
      parse (Text.joinLines (session.pending ++ [line]) ++ "\n" ++
          continuation) = .ok nodes) ↔
    ∃ tokens,
      tokenize (Text.joinLines (session.pending ++ [line])) = .ok tokens ∧
      EndsWithAmpersand tokens := by
  rcases Session.parse_of_failed failed with ⟨refused, final⟩
  constructor
  · rintro ⟨continuation, nodes, success⟩
    exact endsWithAmpersand_of_parse refused final success
  · rintro ⟨tokens, cut, ends⟩
    exact exists_continuation_of_endsWithAmpersand cut ends

theorem not_exists_continuation_of_surplus_closer :
    (Session.start.read "a)").2 =
      .failed (.invalidCharacter ')' .expression ⟨1, 2⟩) ∧
      ¬ ∃ continuation nodes, parse ("a)" ++ "\n" ++ continuation) =
        .ok nodes := by
  have failed : (Session.start.read "a)").2 =
      .failed (.invalidCharacter ')' .expression ⟨1, 2⟩) := rfl
  have source : Text.joinLines (Session.start.pending ++ ["a)"]) = "a)" := rfl
  have tokenized : tokenize "a)" =
      .ok [⟨.symbol, some "a", ⟨1, 1⟩⟩, .closer ')' ⟨1, 2⟩] := rfl
  have completed := exists_continuation_iff_of_failed failed
  rw [source, tokenized] at completed
  refine ⟨failed, ?_⟩
  rw [completed]
  rintro ⟨tokens, ⟨⟩, before, ampersand, split, isRest, -⟩
  have last : Token.closer ')' ⟨1, 2⟩ = ampersand := by
    have ending := congrArg List.getLast? split
    simpa using ending
  rw [← last] at isRest
  cases isRest

/-- A session gives up a vector that ends with an ampersand, although a name
and a bracket on the next line complete it. -/
theorem read_of_last_ampersand :
    (Session.start.read "[a &").2 =
      .failed (.invalidCharacter '&' .expression ⟨1, 4⟩) ∧
      parse ("[a &" ++ "\n" ++ "b]") =
        .ok [.vector [.identifier "a", .rest "b"]] :=
  ⟨rfl, rfl⟩

end LispReader
