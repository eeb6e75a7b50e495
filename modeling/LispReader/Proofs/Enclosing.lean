import LispReader.Proofs.Building.Inside
import LispReader.Proofs.Completion

/-!
# Programs made into collections

A program means the same inside a collection as it does alone: between an
opening delimiter of any kind and a line feed with a closing delimiter, it is
read as the one collection of its nodes. Main statement:
`parse_between_delimiters`.
-/

namespace LispReader

open Descent (Opening)

/-- How a collection is begun in a text. -/
def Enclosure.source : Enclosure → String
  | .list => "("
  | .anonymousFunction => "#("
  | .vector => "["
  | .map => "\x7b"
  | .set => "#\x7b"
  | .metadataMap => "^\x7b"

theorem Enclosure.unifyLineEndings_source (enclosure : Enclosure)
    (following : List Char) :
    Text.unifyLineEndings (enclosure.source.toList ++ following) =
      enclosure.source.toList ++ Text.unifyLineEndings following := by
  have noReturn : '\r' ∉ enclosure.source.toList := by
    cases enclosure <;> decide
  rw [Text.unifyLineEndings_append fun last =>
    noReturn (List.mem_of_getLast? last),
    Text.unifyLineEndings_of_not_mem noReturn]

/-- The beginning of a collection is cut into tokens whatever follows, and a
new builder that takes them has the collection open and nothing else. -/
theorem Enclosure.exists_opening (enclosure : Enclosure) :
    ∃ front expects position place,
      (∀ following, Scanner.cut .start (enclosure.source.toList ++ following) =
        Scanner.prepend front (Scanner.cut place following)) ∧
      feed Builder.read .start front =
        (Builder.perform ⟨expects, [], [], []⟩ (.enter enclosure position),
            none) ∧
      ∀ last ∈ front.getLast?, last.kind ≠ .dispatch := by
  cases enclosure with
  | list =>
      exact ⟨[⟨.openParen, none, .start⟩], .value .plain, _, _, fun _ => rfl,
        rfl, by decide⟩
  | vector =>
      exact ⟨[⟨.openBracket, none, .start⟩], .value .plain, _, _, fun _ => rfl,
        rfl, by decide⟩
  | map =>
      exact ⟨[⟨.openBrace, none, .start⟩], .value .plain, _, _, fun _ => rfl,
        rfl, by decide⟩
  | anonymousFunction =>
      exact ⟨[⟨.dispatch, none, .start⟩, ⟨.openParen, none, ⟨1, 2⟩⟩],
        .value .dispatch, _, _,
        fun _ => Scanner.prepend_prepend _ _ _, rfl, by decide⟩
  | set =>
      exact ⟨[⟨.dispatch, none, .start⟩, ⟨.openBrace, none, ⟨1, 2⟩⟩],
        .value .dispatch, _, _,
        fun _ => Scanner.prepend_prepend _ _ _, rfl, by decide⟩
  | metadataMap =>
      exact ⟨[⟨.metadata, none, .start⟩, ⟨.openBrace, none, ⟨1, 2⟩⟩],
        .value .metadata, _, _,
        fun _ => Scanner.prepend_prepend _ _ _, rfl, by decide⟩

theorem SameTokens.noDispatch {tokens others : List Token}
    (same : SameTokens others tokens)
    (noDispatch : ∀ last ∈ tokens.getLast?, last.kind ≠ .dispatch) :
    ∀ last ∈ others.getLast?, last.kind ≠ .dispatch := by
  intro last isLast sign
  have kinds :
      others.getLast?.map Token.kind = tokens.getLast?.map Token.kind := by
    rw [← List.getLast?_map, ← List.getLast?_map, same.map_kind]
  rw [Option.mem_def.mp isLast] at kinds
  obtain ⟨original, isOriginal, sameKind⟩ :=
    Option.map_eq_some_iff.mp kinds.symm
  exact noDispatch original isOriginal (sameKind.trans sign)

/-- Behind the beginning of a collection and a program a builder has that one
collection open, and in it the nodes of the program. -/
theorem exists_feed_of_opened {text : String} {tokens : List Token}
    {nodes : List Node} (tokenized : tokenize text = .ok tokens)
    (built : read tokens = .ok nodes)
    (noDispatch : ∀ last ∈ tokens.getLast?, last.kind ≠ .dispatch)
    (enclosure : Enclosure) :
    ∃ later expects position sign,
      tokenize (enclosure.source ++ text) = .ok later ∧
      (∀ last ∈ later.getLast?, last.kind ≠ .dispatch) ∧
      feed Builder.read .start later =
        (Builder.enclose ⟨expects, [], [], []⟩ ⟨enclosure, position⟩
            nodes.reverse []
          ⟨.value sign, nodes.reverse, [], []⟩, none) := by
  obtain ⟨front, expects, position, place, cuts, opened, frontNoDispatch⟩ :=
    enclosure.exists_opening
  rw [tokenize_eq_cut] at tokenized
  obtain ⟨others, othersCut, same⟩ := Scanner.exists_cut_of_cut tokenized place
  obtain ⟨sign, scopes, accepted⟩ :=
    exists_top_of_read (read_of_sameTokens built same)
  have empty : scopes = [] :=
    List.length_eq_zero_iff.mp (Builder.follows_of_feed accepted).scopes
  subst empty
  refine ⟨front ++ others, expects, position, sign, ?_, ?_, ?_⟩
  · rw [tokenize_eq_cut, String.toList_append,
      enclosure.unifyLineEndings_source, cuts, othersCut, Scanner.prepend_ok]
  · intro last isLast
    rw [List.getLast?_append, Option.mem_def, Option.or_eq_some_iff] at isLast
    rcases isLast with isLast | ⟨-, isLast⟩
    · exact same.noDispatch noDispatch last isLast
    · exact frontNoDispatch last isLast
  · rw [← Builder.inside_start ⟨expects, [], [], []⟩ ⟨enclosure,
      position⟩] at opened
    exact feed_append_eq_none_iff.mpr
      ⟨_, opened, Builder.feed_inside ⟨expects, [], [], []⟩ ⟨enclosure,
          position⟩ accepted⟩

/-- A text between an opening delimiter and a closing one on the next line is
read as one collection of its nodes. -/
theorem parse_enclosed {text : String} {tokens : List Token}
    {nodes : List Node} {closer : Char}
    (tokenized : tokenize text = .ok tokens)
    (success : parse text = .ok nodes)
    (noDispatch : ∀ last ∈ tokens.getLast?, last.kind ≠ .dispatch)
    (closes : isCloser closer = true) (enclosure : Enclosure) :
    parse (enclosure.source ++ text ++ "\n" ++ String.singleton closer) =
      .ok [enclosure.node [] nodes] := by
  have built : read tokens = .ok nodes := by
    rwa [parse, tokenized] at success
  obtain ⟨later, expects, position, sign, whole, laterNoDispatch, accepted⟩ :=
    exists_feed_of_opened tokenized built noDispatch enclosure
  have allClose : ∀ shape ∈ [closer], isCloser shape = true := by
    simpa using closes
  obtain ⟨place, goesOn⟩ :=
    parse_append_closers whole laterNoDispatch accepted allClose
  have left :=
    Builder.leave_enclose ⟨expects, [], [], []⟩ ⟨enclosure, position⟩
      nodes.reverse []
    (.value sign) nodes.reverse
  rw [ite_self, List.reverse_reverse] at left
  rw [String.singleton_eq_ofList, goesOn, Builder.consume_closer rfl rfl closes,
    Builder.consume_nil, left]
  rfl

/-- A program that does not end with a sign `#` is one collection of its nodes
when an opening delimiter stands before it, and behind it a line feed and a
closing delimiter of any shape. -/
theorem parse_between_delimiters {text : String} {tokens : List Token}
    {nodes : List Node} {closer : Char}
    (tokenized : tokenize text = .ok tokens)
    (success : parse text = .ok nodes)
    (noDispatch : ∀ last ∈ tokens.getLast?, last.kind ≠ .dispatch)
    (closes : closer ∈ [')', ']', '}']) :
    parse ("(" ++ text ++ "\n" ++ String.singleton closer) = .ok [.list nodes] ∧
    parse ("[" ++ text ++ "\n" ++ String.singleton closer) =
      .ok [.vector nodes] ∧
    parse ("\x7b" ++ text ++ "\n" ++ String.singleton closer) =
      .ok [.map nodes] ∧
    parse ("#\x7b" ++ text ++ "\n" ++ String.singleton closer) =
      .ok [.set nodes] ∧
    parse ("#(" ++ text ++ "\n" ++ String.singleton closer) =
      .ok [.list [.identifier "fn", .vector [], .list nodes]] ∧
    parse ("^\x7b" ++ text ++ "\n" ++ String.singleton closer) =
      .ok [.list [.identifier "with_meta", .map nodes]] := by
  have isClosing : isCloser closer = true := by
    simp only [List.mem_cons, List.not_mem_nil, or_false] at closes
    rcases closes with rfl | rfl | rfl <;> rfl
  have enclosed := parse_enclosed tokenized success noDispatch isClosing
  exact ⟨enclosed .list, enclosed .vector, enclosed .map, enclosed .set,
    enclosed .anonymousFunction, enclosed .metadataMap⟩

/-- The tokens of a program with a function of its own, and at its end a list
that waits and a sign. -/
def waitingProgram : List Token :=
  [⟨.dispatch, none, ⟨1, 1⟩⟩, ⟨.openParen, none, ⟨1, 2⟩⟩,
    ⟨.symbol, some "f", ⟨1, 3⟩⟩, ⟨.symbol, some "%", ⟨1, 5⟩⟩,
    .closer ')' ⟨1, 6⟩, ⟨.openParen, none, ⟨2, 1⟩⟩,
    ⟨.symbol, some "quote", ⟨2, 2⟩⟩, .closer ')' ⟨2, 7⟩,
    ⟨.metadata, none, ⟨2, 9⟩⟩]

def waitingNodes : List Node :=
  [.list [.identifier "fn", .vector [.identifier "_PERCENT_1"],
      .list [.identifier "f", .identifier "_PERCENT_1"]],
    .list [.identifier "quote"]]

theorem parse_between_delimiters_waiting :
    (tokenize "#(f %)\r\n(quote) ^" = .ok waitingProgram ∧
      parse "#(f %)\r\n(quote) ^" = .ok waitingNodes) ∧
    parse ("#(" ++ "#(f %)\r\n(quote) ^" ++ "\n" ++ String.singleton ']') =
      .ok [.list [.identifier "fn", .vector [], .list waitingNodes]] := by
  have tokenized : tokenize "#(f %)\r\n(quote) ^" = .ok waitingProgram := rfl
  have success : parse "#(f %)\r\n(quote) ^" = .ok waitingNodes := rfl
  obtain ⟨-, -, -, -, inFunction, -⟩ :=
    parse_between_delimiters tokenized success (by decide)
      (by decide : ']' ∈ [')', ']', '}'])
  exact ⟨⟨tokenized, success⟩, inFunction⟩

end LispReader
