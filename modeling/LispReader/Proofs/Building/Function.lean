import LispReader.Proofs.Building.Enclosed
import LispReader.Proofs.Name

/-!
# Anonymous functions

An anonymous function becomes a list of the name `fn`, a vector of parameters
and its body. How many parameters it has depends on the placeholders that are
written in its body, outside the anonymous functions inside it. Main
statements: `exists_function_of_read`, `bound_of_parse`.
-/

namespace LispReader

open Descent (Opening)

/-- Whether an anonymous function with this body has so many parameters: as
many as the largest number says that is written behind a percent sign, one if
all percent signs are bare, and none if there is no percent sign. -/
inductive HasArity (body : List Token) : Nat → Prop
  | numbered {number : Nat} :
      number < 10 →
      Mentions body ("%" ++ toString number) →
      (∀ other < 10, Mentions body ("%" ++ toString other) → other ≤ number) →
      HasArity body number
  | bare :
      Mentions body "%" →
      (∀ number < 10, ¬ Mentions body ("%" ++ toString number)) →
      HasArity body 1
  | none :
      ¬ Mentions body "%" →
      (∀ number < 10, ¬ Mentions body ("%" ++ toString number)) →
      HasArity body 0

theorem Word.ofText_eq_argument_iff (text : String)
    (placeholder : Placeholder) :
    Word.ofText text = .argument placeholder ↔
      text = placeholder.text ∧
        ∀ number ∈ placeholder.number?, number < 10 := by
  rw [ofText_eq_argument_iff_ofText?, Placeholder.ofText?_eq_some_iff]

theorem Collects.mem_iff {used : List Placeholder} {tokens : List Token}
    (collects : Collects used tokens) (placeholder : Placeholder) :
    placeholder ∈ used ↔
      Mentions tokens placeholder.text ∧
        ∀ number ∈ placeholder.number?, number < 10 := by
  simp only [collects placeholder, Word.ofText_eq_argument_iff]
  constructor
  · rintro ⟨text, mentions, rfl, small⟩
    exact ⟨mentions, small⟩
  · rintro ⟨mentions, small⟩
    exact ⟨_, mentions, rfl, small⟩

theorem Collects.bare_mem_iff {used : List Placeholder} {tokens : List Token}
    (collects : Collects used tokens) : .bare ∈ used ↔ Mentions tokens "%" := by
  rw [collects.mem_iff]
  exact and_iff_left nofun

theorem Collects.number_mem_iff {used : List Placeholder} {tokens : List Token}
    (collects : Collects used tokens) (number : Nat) :
    number ∈ used.filterMap Placeholder.number? ↔
      number < 10 ∧ Mentions tokens ("%" ++ toString number) := by
  rw [List.mem_filterMap]
  constructor
  · rintro ⟨placeholder, member, isNumber⟩
    obtain ⟨mentions, small⟩ := (collects.mem_iff placeholder).mp member
    cases placeholder with
    | bare => cases isNumber
    | numbered other =>
        cases isNumber
        exact ⟨small number rfl, mentions⟩
  · rintro ⟨small, mentions⟩
    refine ⟨.numbered number, (collects.mem_iff _).mpr ⟨mentions, ?_⟩, rfl⟩
    rintro _ ⟨⟩
    exact small

/-- The builder gives a function as many parameters as its body asks for. -/
theorem Collects.hasArity {used : List Placeholder} {body : List Token}
    (collects : Collects used body) :
    HasArity body (Placeholder.arity used) := by
  unfold Placeholder.arity
  cases largest : (used.filterMap Placeholder.number?).max? with
  | some number =>
      obtain ⟨member, bounded⟩ := List.max?_eq_some_iff.mp largest
      obtain ⟨small, mentions⟩ := (collects.number_mem_iff number).mp member
      refine .numbered small mentions ?_
      intro other otherSmall otherMentions
      exact bounded other
        ((collects.number_mem_iff other).mpr ⟨otherSmall, otherMentions⟩)
  | none =>
      have numberless :
          ∀ number < 10, ¬ Mentions body ("%" ++ toString number) := by
        intro number small mentions
        have member := (collects.number_mem_iff number).mpr ⟨small, mentions⟩
        rw [List.max?_eq_none_iff.mp largest] at member
        cases member
      cases used with
      | nil =>
          refine .none ?_ numberless
          rw [← collects.bare_mem_iff]
          simp
      | cons placeholder others =>
          refine .bare ?_ numberless
          rw [← collects.bare_mem_iff]
          cases placeholder with
          | bare => exact List.mem_cons_self
          | numbered number => simp [Placeholder.number?] at largest

/-- The node for a function with so many parameters and this body. -/
def Node.function (count : Nat) (body : List Node) : Node :=
  .list [.identifier "fn",
    .vector ((List.range count).map fun index =>
      .identifier ("_PERCENT_" ++ toString (index + 1))),
    .list body]

theorem Name.not_mem_special_of_isDecimalDigit {character : Char}
    (digit : isDecimalDigit character = true) : character ∉ special := by
  intro member
  simp only [special, List.mem_cons, List.not_mem_nil, or_false] at member
  rcases member with
    rfl | rfl | rfl | rfl | rfl | rfl | rfl | rfl | rfl | rfl <;> cases digit

theorem Name.normalize_numbered (number : Nat) :
    normalize (Placeholder.numbered number).text =
      "_PERCENT_" ++ toString number := by
  obtain ⟨digits, written, areDigits⟩ :=
    (Placeholder.numbered number).exists_text
  have same : digits = (toString number).toList := by
    rw [Placeholder.text, String.toList_append] at written
    exact (List.cons.inj written).2.symm
  have nonempty : (toString number).toList ≠ [] := by
    rw [Nat.toString_eq_repr, Nat.toList_repr]
    exact Nat.toDigits_ne_nil
  have notBare : (Placeholder.numbered number).text ≠ "%" := by
    intro bare
    rw [bare] at written
    exact nonempty (same ▸ (List.cons.inj written).2.symm)
  have plain : digits.flatMap spell = digits :=
    flatMap_spell_of_plain fun digit member =>
      not_mem_special_of_isDecimalDigit (areDigits digit member)
  have sign : spell '%' = "_PERCENT_".toList := rfl
  rw [← String.toList_inj, toList_normalize, if_neg notBare, written,
    List.flatMap_cons, plain, sign, same, String.toList_append]

theorem Enclosure.node_anonymousFunction (used : List Placeholder)
    (items : List Node) :
    Enclosure.anonymousFunction.node used items =
      .function (Placeholder.arity used) items := by
  simp [node, Node.function, Placeholder.parameters, Name.normalize_numbered]

/-! ## Functions among tokens -/

/-- An anonymous function among some tokens: the tokens before its parenthesis,
the last of which is the sign `#`, the parenthesis, the body, the delimiter
that closes it, and the tokens behind it. -/
structure FunctionIn (tokens : List Token) where
  before : List Token
  opener : Token
  body : List Token
  closer : Token
  after : List Token
  whole : before ++ opener :: (body ++ closer :: after) = tokens
  sign : before.getLast?.map Token.kind = some .dispatch
  paren : opener.kind = .openParen
  balanced : Balanced body
  closes : closer.kind = .closeDelimiter

/-- Whether reading a function makes this node of it: what was read before its
parenthesis is left as it was, and the node is added to it. -/
def FunctionIn.Builds {tokens : List Token} (function : FunctionIn tokens)
    (node : Node) : Prop :=
  ∃ reached : Builder,
    feed Builder.read .start function.before = (reached, none) ∧
    feed Builder.read .start (function.before ++ function.opener ::
      (function.body ++ [function.closer])) = (reached.add node, none)

/-- When tokens can be read, none of their collections stays open. -/
theorem not_staysOpen_of_read {before after : List Token} {opener : Token}
    {delimiter : Char} {nodes : List Node}
    (success : read (before ++ opener :: after) = .ok nodes)
    (opens : opener.kind.opening? = some delimiter) : ¬ StaysOpen after := by
  intro stays
  have balanced := balanced_of_read success
  rw [← List.append_nil (before ++ opener :: after)] at success
  obtain ⟨builder, accepted, -⟩ := exists_feed_of_read success
  have follows := Builder.follows_of_feed accepted
  obtain ⟨opening, isOpening⟩ := Token.exists_opening? opens before
  have bounded : closers after ≤ openers after :=
    stays after (List.prefix_refl _)
  have isOpen :
      OpenBehind (before ++ opener :: after) (openers after - closers after)
        opening :=
    ⟨before, opener, after, rfl, isOpening, stays, by omega⟩
  have onStack := (follows.openings _ opening).mpr isOpen
  have depth := follows.depth
  have empty : builder.openings = [] := List.length_eq_zero_iff.mp (by omega)
  rw [empty] at onStack
  cases onStack

/-- When tokens can be read, every parenthesis behind the sign `#` begins a
function. -/
theorem exists_functionIn {tokens before rest : List Token} {opener : Token}
    {nodes : List Node} (success : read tokens = .ok nodes)
    (split : tokens = before ++ opener :: rest)
    (sign : before.getLast?.map Token.kind = some .dispatch)
    (paren : opener.kind = .openParen) :
    ∃ function : FunctionIn tokens, function.before = before ∧
      function.opener = opener := by
  subst split
  have opens : opener.kind.opening? = some '(' := by rw [paren]; rfl
  obtain ⟨body, closer, after, rfl, balanced, closes⟩ :=
    exists_closer_of_not_staysOpen staysOpen_nil
      (not_staysOpen_of_read success opens)
  exact ⟨⟨before, opener, body, closer, after, rfl, sign, paren, balanced,
    closes⟩, rfl, rfl⟩

/-- A parenthesis behind the sign `#` opens a function. -/
theorem Builder.action?_of_function {builder : Builder} {before : List Token}
    {opener : Token} (follows : builder.Follows before)
    (sign : before.getLast?.map Token.kind = some .dispatch)
    (paren : opener.kind = .openParen) :
    builder.action? opener =
      .ok (.enter .anonymousFunction opener.position) := by
  obtain ⟨last, isLast, isDispatch⟩ := Option.map_eq_some_iff.mp sign
  have waits : builder.expects = .value .dispatch := by
    simp [follows.expects, Expectation.behind, isLast, isDispatch,
      Lookback.ofKind]
  obtain ⟨kind, text, position⟩ := opener
  cases paren
  exact action?_eq_ok_iff.mpr (.openParen waits)

/-- A function is built as a list of the name `fn`, its parameters and its
body. -/
theorem FunctionIn.exists_builds {tokens : List Token} {nodes : List Node}
    (success : read tokens = .ok nodes) (function : FunctionIn tokens) :
    ∃ count body, HasArity function.body count ∧
      function.Builds (.function count body) := by
  obtain ⟨before, opener, body, closer, after, rfl, sign, paren, balanced,
    closes⟩ := function
  obtain ⟨reached, accepted, success⟩ := exists_feed_of_read success
  have called :=
    Builder.action?_of_function (Builder.follows_of_feed accepted) sign paren
  have regrouped :
      body ++ closer :: after = (body ++ [closer]) ++ after := by simp
  rw [Builder.run_cons_of_ok called, regrouped] at success
  obtain ⟨next, inside, -⟩ := Builder.exists_feed_of_run success
  obtain ⟨items, used, collects, rfl⟩ := Builder.exists_absorb_of_closer
    ⟨.anonymousFunction, opener.position⟩ inside balanced closes
  refine ⟨Placeholder.arity used, items, collects.hasArity, reached,
    accepted, ?_⟩
  have opened : reached.read opener =
      .ok (reached.perform (.enter .anonymousFunction opener.position)) :=
    Builder.read_eq_ok_iff.mpr ⟨_, called, rfl⟩
  rw [feed_append_eq_none_iff]
  refine ⟨reached, accepted, ?_⟩
  rw [feed_cons_of_ok opened, inside, ← Enclosure.node_anonymousFunction]
  rfl

/-- In tokens that can be read, every parenthesis behind the sign `#` is
closed, and together with all up to its closing delimiter it adds one node to
what was read before it: a function with the parameters that its body asks
for. -/
theorem exists_function_of_read {tokens before rest : List Token}
    {opener : Token} {nodes : List Node} (success : read tokens = .ok nodes)
    (split : tokens = before ++ opener :: rest)
    (sign : before.getLast?.map Token.kind = some .dispatch)
    (paren : opener.kind = .openParen) :
    ∃ function : FunctionIn tokens, function.before = before ∧
      function.opener = opener ∧
      ∃ count body, HasArity function.body count ∧
        function.Builds (.function count body) := by
  obtain ⟨function, isBefore, isOpener⟩ :=
    exists_functionIn success split sign paren
  exact ⟨function, isBefore, isOpener, function.exists_builds success⟩

/-- The tokens of a function with a rest name and another function in it. -/
def nestedFunction : List Token :=
  [⟨.dispatch, none, ⟨1, 1⟩⟩, ⟨.openParen, none, ⟨1, 2⟩⟩,
    ⟨.openBracket, none, ⟨1, 3⟩⟩, ⟨.symbol, some "%2", ⟨1, 4⟩⟩,
    ⟨.rest, none, ⟨1, 7⟩⟩, ⟨.symbol, some "%5", ⟨1, 8⟩⟩,
    .closer ']' ⟨1, 10⟩, ⟨.dispatch, none, ⟨1, 12⟩⟩,
    ⟨.openParen, none, ⟨1, 13⟩⟩, ⟨.symbol, some "%7", ⟨1, 14⟩⟩,
    .closer ')' ⟨1, 16⟩, .closer ')' ⟨1, 17⟩]

theorem exists_function_of_read_nested :
    read nestedFunction =
      .ok [.function 2 [.vector [.identifier "_PERCENT_2", .rest "_PERCENT_5"],
        .function 7 [.identifier "_PERCENT_7"]]] ∧
    ∃ function : FunctionIn nestedFunction,
      function.before = [⟨.dispatch, none, ⟨1, 1⟩⟩] ∧
        function.opener = ⟨.openParen, none, ⟨1, 2⟩⟩ ∧
        ∃ count body, HasArity function.body count ∧
          function.Builds (.function count body) :=
  ⟨rfl, exists_function_of_read rfl rfl rfl rfl⟩

/-- In a text that can be read, a function has a parameter for every
placeholder in its body: for each number behind a percent sign, and for a bare
percent sign unless zero is the largest number there. -/
theorem bound_of_parse {text : String} {tokens : List Token} {nodes : List Node}
    (parsed : parse text = .ok nodes) (tokenized : tokenize text = .ok tokens)
    (function : FunctionIn tokens) :
    ∃ count body, function.Builds (.function count body) ∧
      (∀ number < 10, Mentions function.body ("%" ++ toString number) →
          number ≤ count) ∧
      (Mentions function.body "%" →
        (Mentions function.body "%0" →
          ∃ number < 10, 1 ≤ number ∧
            Mentions function.body ("%" ++ toString number)) →
        1 ≤ count) := by
  have success : read tokens = .ok nodes := by
    rwa [parse, tokenized] at parsed
  obtain ⟨count, body, arity, builds⟩ := function.exists_builds success
  refine ⟨count, body, builds, ?_⟩
  cases arity with
  | numbered small mentions largest =>
      refine ⟨largest, fun _ another => ?_⟩
      by_cases zero : count = 0
      · subst zero
        obtain ⟨number, numberSmall, positive, numberMentions⟩ :=
          another mentions
        exact Nat.le_trans positive (largest number numberSmall numberMentions)
      · omega
  | bare _ numberless =>
      exact ⟨fun number small mentions =>
        absurd mentions (numberless number small),
        fun _ _ => Nat.le_refl 1⟩
  | none bareless numberless =>
      exact ⟨fun number small mentions =>
        absurd mentions (numberless number small),
        fun mentions _ => absurd mentions bareless⟩

/-- The tokens of a function with a vector in its body. -/
def functionOfVector : List Token :=
  [⟨.dispatch, none, ⟨1, 1⟩⟩, ⟨.openParen, none, ⟨1, 2⟩⟩,
    ⟨.openBracket, none, ⟨1, 3⟩⟩, ⟨.symbol, some "%2", ⟨1, 4⟩⟩,
    .closer ']' ⟨1, 6⟩, ⟨.symbol, some "%", ⟨1, 8⟩⟩, .closer ')' ⟨1, 9⟩]

theorem bound_of_parse_vector :
    parse "#([%2] %)" =
      .ok [.function 2 [.vector [.identifier "_PERCENT_2"],
        .identifier "_PERCENT_1"]] ∧
    ∃ function : FunctionIn functionOfVector,
      Mentions function.body "%2" ∧
        ∃ count body, function.Builds (.function count body) ∧ 2 ≤ count := by
  have parsed : parse "#([%2] %)" =
      .ok [.function 2 [.vector [.identifier "_PERCENT_2"],
        .identifier "_PERCENT_1"]] := rfl
  let function : FunctionIn functionOfVector :=
    { before := [⟨.dispatch, none, ⟨1, 1⟩⟩]
      opener := ⟨.openParen, none, ⟨1, 2⟩⟩
      body :=
        [⟨.openBracket, none, ⟨1, 3⟩⟩, ⟨.symbol, some "%2", ⟨1, 4⟩⟩,
          .closer ']' ⟨1, 6⟩, ⟨.symbol, some "%", ⟨1, 8⟩⟩]
      closer := .closer ')' ⟨1, 9⟩
      after := []
      whole := rfl
      sign := rfl
      paren := rfl
      balanced := by decide
      closes := rfl }
  have outside : ¬ InFunction [⟨.openBracket, none, ⟨1, 3⟩⟩] := by
    rintro ⟨before, opener, after, split, sign, -⟩
    cases before with
    | nil => cases sign
    | cons first rest => simp at split
  have mentions : Mentions function.body "%2" :=
    ⟨[⟨.openBracket, none, ⟨1, 3⟩⟩], _, _, rfl, by decide, outside⟩
  obtain ⟨count, body, builds, numbers, -⟩ := bound_of_parse parsed rfl function
  exact ⟨parsed, function, mentions, count, body, builds,
    numbers 2 (by decide) mentions⟩

/-- A percent sign is not bound beside a zero, and a name behind an ampersand
is no placeholder. -/
theorem unbound_placeholders :
    parse "#(% %0)" =
        .ok [.function 0 [.identifier "_PERCENT_1", .identifier "_PERCENT_0"]] ∧
      parse "#(f & %2)" =
        .ok [.function 0 [.identifier "f", .rest "_PERCENT_2"]] :=
  ⟨rfl, rfl⟩

end LispReader
