import LispReader.Proofs.Building.Function
import LispReader.Proofs.Node.Leaves

/-!
# Which leaves come from which tokens

Each token brings in certain leaves, which depend on it, on the token just
before it and, where it begins an anonymous function, on how many parameters
this has. The leaves of all the trees that are read from some tokens are the
leaves that the tokens bring in: none is lost, none is there twice and none
comes from elsewhere. Main statement: `leaves_of_read`.
-/

namespace LispReader

open Descent (Opening)

/-- The leaf for a symbol that is not the name of an ampersand. -/
def Node.ofSymbol (text : String) : Node :=
  match Numeral.ofChars? text.toList with
  | some numeral => numeral.node text
  | none => .ofName text

/-- The leaves that a token brings in with these tokens before it. Where an
anonymous function begins with it, the function has so many parameters. -/
def Token.leaves (before : List Token) (count : Nat) (token : Token) :
    Multiset Node :=
  let text := token.text.getD ""
  match token.kind with
  | .comment => {.comment text}
  | .string =>
      if Lookback.behind before = .dispatch then {.regexp ⟨text⟩}
        else {.string text}
  | .keyword =>
      if Lookback.behind before = .metadata then
        {.identifier "with_meta", .keyword text, .literal (.boolean true)}
      else
        {.keyword text}
  | .quote => {.identifier "quote"}
  | .deref => {.identifier "deref"}
  | .symbol =>
      if before.getLast?.map Token.kind = some .rest then
        {.rest (Name.normalize text)}
      else
        {Node.ofSymbol text}
  | .openParen =>
      if Lookback.behind before = .dispatch then
        {.identifier "fn"} + (Node.parameters count : Multiset Node)
      else
        0
  | .openBrace =>
      if Lookback.behind before = .metadata then {.identifier "with_meta"}
        else 0
  | .dispatch | .metadata | .rest | .openBracket | .closeDelimiter => 0

/-- The leaves that tokens bring in behind these ones. An anonymous function
that begins behind some tokens has as many parameters as `count` says. -/
def leavesBehind (count : List Token → Nat) (before : List Token) : List Token →
    Multiset Node
  | [] => 0
  | token :: rest =>
      token.leaves before (count before) +
        leavesBehind count (before ++ [token]) rest

theorem leavesBehind_append (count : List Token → Nat)
    (before left right : List Token) :
    leavesBehind count before (left ++ right) =
      leavesBehind count before left +
        leavesBehind count (before ++ left) right := by
  induction left generalizing before with
  | nil => simp [leavesBehind]
  | cons token rest inductionHypothesis =>
      have regrouped :
          before ++ token :: rest = (before ++ [token]) ++ rest := by simp
      rw [List.cons_append, leavesBehind, leavesBehind, inductionHypothesis,
        regrouped, add_assoc]

theorem Node.leaves_function (count : Nat) (body : List Node) :
    (Node.function count body).leaves =
      Enclosure.anonymousFunction.leaves count + leavesAll body := by
  have names : leavesAll (parameters count) = parameters count := by
    apply leavesAll_of_leaves
    intro node member
    obtain ⟨index, -, rfl⟩ := List.mem_map.mp member
    rfl
  have whole : Node.function count body =
      .list [.identifier "fn", .vector (parameters count), .list body] := rfl
  have marker : (Node.identifier "fn").leaves = {.identifier "fn"} := rfl
  simp only [whole, leaves_collection, leavesAll_cons, leavesAll_nil,
    names, marker, Enclosure.leaves, add_zero, add_assoc]

theorem Enclosure.leaves_node (enclosure : Enclosure) (used : List Placeholder)
    (items : List Node) :
    (enclosure.node used items).leaves =
      enclosure.leaves (Placeholder.arity used) + Node.leavesAll items := by
  cases enclosure with
  | anonymousFunction => rw [node_anonymousFunction, Node.leaves_function]
  | metadataMap =>
      have name : (Node.identifier "with_meta").leaves =
          {.identifier "with_meta"} := rfl
      simp [node, leaves, Node.withMetadata, name]
  | list | vector | map | set => simp [node, leaves]

/-- An opening delimiter brings in what its enclosure has beside its items. -/
theorem Token.leaves_of_opening? {before : List Token} {opener : Token}
    {opening : Opening} (opens : opener.opening? before = some opening)
    (count : Nat) :
    opener.leaves before count = opening.enclosure.leaves count := by
  obtain ⟨kind, text, position⟩ := opener
  simp only [opening?] at opens
  simp only [Token.leaves]
  generalize Lookback.behind before = sign at opens ⊢
  cases kind with
  | openParen | openBrace => cases sign <;> cases opens <;> rfl
  | openBracket => cases opens; rfl
  | _ => cases opens

/-- Only for an anonymous function does it matter how many parameters there
are. -/
theorem Enclosure.leaves_of_ne {enclosure : Enclosure}
    (other : enclosure ≠ .anonymousFunction) (left right : Nat) :
    enclosure.leaves left = enclosure.leaves right := by
  cases enclosure <;> first | rfl | exact absurd rfl other

/-! ## The leaves of a builder -/

namespace Builder

/-- The leaves of all nodes that a builder holds, those in open collections
too. -/
def leaves (builder : Builder) : Multiset Node :=
  Node.leavesAll (builder.top ++ builder.frames.flatMap Frame.reversed)

theorem leaves_add (builder : Builder) (value : Node) :
    (builder.add value).leaves = builder.leaves + value.leaves := by
  obtain ⟨expects, top, frames, scopes⟩ := builder
  cases frames with
  | nil => simp [add, leaves, Node.leavesAll_attach, add_comm]
  | cons frame outer =>
      simp [add, leaves, Node.leavesAll_attach, add_assoc, add_comm,
        add_left_comm]

theorem leaves_absorb (builder : Builder) (value : Node)
    (used : List Placeholder) :
    (builder.absorb [value] used).leaves = builder.leaves + value.leaves :=
  leaves_add { builder with scopes := noteAll used builder.scopes } value

theorem leaves_enclose (reached : Builder) (opening : Opening)
    (items : List Node) (used : List Placeholder) (expects : Expectation)
    (top : List Node) :
    (reached.enclose opening items used ⟨expects, top, [], []⟩).leaves =
      reached.leaves + Node.leavesAll items := by
  simp [enclose, leaves, add_comm, add_left_comm]

end Builder

theorem Node.ofSymbol_of_leaf {text : String} {node : Node}
    (word : Word.ofText text = .leaf node) :
    node = ofSymbol text ∧ node.children? = none := by
  refine ⟨?_, (Word.kind_of_leaf word).1⟩
  rcases Word.ofText_cases text with
    ⟨numeral, writing, reads⟩ | ⟨placeholder, -, reads⟩ | ⟨notNumeral, -, reads⟩
  · rw [reads] at word
    rw [ofSymbol, Numeral.ofChars?_of_writtenAs writing]
    exact (Word.leaf.inj word).symm
  · rw [reads] at word
    cases word
  · rw [reads] at word
    rw [ofSymbol, (Numeral.ofChars?_eq_none_iff _).mpr notNumeral]
    exact (Word.leaf.inj word).symm

theorem Node.ofSymbol_of_argument {text : String} {placeholder : Placeholder}
    (word : Word.ofText text = .argument placeholder) :
    ofSymbol text = .identifier (Name.normalize placeholder.text) := by
  obtain ⟨rfl, -⟩ := (Word.ofText_eq_argument_iff _ _).mp word
  obtain ⟨digits, written, -⟩ := placeholder.exists_text
  have noNumeral : Numeral.ofChars? ('%' :: digits) = none := rfl
  have unnamed (name : String) (different : name.toList.head? ≠ some '%') :
      placeholder.text ≠ name := by
    rintro rfl
    simp [written] at different
  rw [ofSymbol, written, noNumeral]
  simp only [ofName, if_neg (unnamed "nil" (by decide)),
    if_neg (unnamed "true" (by decide)), if_neg (unnamed "false" (by decide))]

/-- A token that is no delimiter adds the leaves that it brings in. -/
theorem Builder.leaves_perform {builder : Builder} {before : List Token}
    {token : Token} {action : Action} (follows : builder.Follows before)
    (called : builder.action? token = .ok action)
    (noOpener : token.kind.opening? = none)
    (noCloser : token.kind ≠ .closeDelimiter) (count : Nat) :
    (builder.perform action).leaves =
      builder.leaves + token.leaves before count := by
  have notName {sign : Lookback} (waits : builder.expects = .value sign) :
      before.getLast?.map Token.kind ≠ some .rest := follows.last_ne_rest waits
  have behind {sign : Lookback} (waits : builder.expects = .value sign) :
      Lookback.behind before = sign :=
    Lookback.behind_of_expectation (follows.expects.symm.trans waits)
  cases action?_eq_ok_iff.mp called with
  | name waits =>
      obtain ⟨earlier, last, rfl, isRest, -⟩ := follows.exists_ampersand waits
      simp [perform, leaves_add, Token.leaves, isRest, Node.leaves]
  | leaf waits word =>
      obtain ⟨rfl, isLeaf⟩ := Node.ofSymbol_of_leaf word
      simp only [Token.leaves, if_neg (notName waits)]
      rw [perform, leaves_add, Node.leaves_of_leaf isLeaf]
  | argument waits word _ =>
      simp only [Token.leaves, if_neg (notName waits), Option.getD_some]
      rw [Node.ofSymbol_of_argument word, perform, leaves_add]
      rfl
  | keyword waits notSign | string waits notSign =>
      simp [perform, leaves_add, Token.leaves, behind waits, notSign,
        Node.leaves]
  | shorthand waits | regexp waits =>
      simp [perform, leaves_add, Token.leaves, behind waits, Node.leaves,
        Node.withMetadata, Multiset.cons_swap]
  | comment _ | quote _ | deref _ =>
      simp [perform, leaves_add, Token.leaves, Node.leaves]
  | dispatch _ | metadata _ | rest _ => simp [perform, leaves, Token.leaves]
  | closer _ _ => exact absurd rfl noCloser
  | openParen _ | openBracket _ | openBrace _ => cases noOpener

/-- A body has one number of parameters. -/
theorem HasArity.unique {body : List Token} {left right : Nat}
    (isLeft : HasArity body left) (isRight : HasArity body right) :
    left = right := by
  cases isLeft with
  | numbered leftSmall leftMentions leftLargest =>
      cases isRight with
      | numbered rightSmall rightMentions rightLargest =>
          have below := leftLargest right rightSmall rightMentions
          have above := rightLargest left leftSmall leftMentions
          omega
      | bare _ numberless | none _ numberless =>
          exact absurd leftMentions (numberless left leftSmall)
  | bare mentions numberless =>
      cases isRight with
      | numbered small numbered _ => exact absurd numbered (numberless _ small)
      | bare _ _ => rfl
      | none bareless _ => exact absurd mentions bareless
  | none bareless numberless =>
      cases isRight with
      | numbered small numbered _ => exact absurd numbered (numberless _ small)
      | bare mentions _ => exact absurd mentions bareless
      | none _ _ => rfl

theorem Balanced.append_ne {body shorter rest : List Token} {closer : Token}
    (balanced : Balanced body) (inner : Balanced shorter)
    (closes : closer.kind = .closeDelimiter) :
    body ≠ shorter ++ closer :: rest := by
  rintro rfl
  have behind : Balanced (closer :: rest) := balanced.behind inner.2
  exact not_balanced_of_closer closes rest behind

/-- The closing delimiter of a collection is the first one with balanced tokens
before it. -/
theorem Balanced.eq_of_closers {left right leftAfter rightAfter : List Token}
    {leftCloser rightCloser : Token} (leftBalanced : Balanced left)
    (rightBalanced : Balanced right)
    (leftCloses : leftCloser.kind = .closeDelimiter)
    (rightCloses : rightCloser.kind = .closeDelimiter)
    (same : left ++ leftCloser :: leftAfter =
      right ++ rightCloser :: rightAfter) :
    left = right := by
  rcases List.append_eq_append_iff.mp same with
    ⟨gap, longer, behind⟩ | ⟨gap, longer, behind⟩
  · cases gap with
    | nil => simpa using longer.symm
    | cons first rest =>
        obtain ⟨rfl, -⟩ := List.cons.inj behind
        exact absurd longer (rightBalanced.append_ne leftBalanced leftCloses)
  · cases gap with
    | nil => simpa using longer
    | cons first rest =>
        obtain ⟨rfl, -⟩ := List.cons.inj behind
        exact absurd longer (leftBalanced.append_ne rightBalanced rightCloses)

theorem FunctionIn.body_eq {tokens : List Token}
    {left right : FunctionIn tokens} (same : left.before = right.before) :
    left.body = right.body := by
  have whole := left.whole.trans right.whole.symm
  rw [same, List.append_right_inj] at whole
  exact left.balanced.eq_of_closers right.balanced left.closes right.closes
    (List.cons.inj whole).2

/-! ## All tokens -/

/-- Whether it is said rightly how many parameters each function among the
tokens has. -/
def Arities (tokens : List Token) (count : List Token → Nat) : Prop :=
  ∀ function : FunctionIn tokens, HasArity function.body (count function.before)

theorem exists_arities {tokens : List Token} {nodes : List Node}
    (success : read tokens = .ok nodes) : ∃ count, Arities tokens count := by
  have arity (before : List Token) : ∃ number, ∀ function : FunctionIn tokens,
      function.before = before → HasArity function.body number := by
    by_cases begins : ∃ function : FunctionIn tokens, function.before = before
    · obtain ⟨first, rfl⟩ := begins
      obtain ⟨number, _, isArity, -⟩ := first.exists_builds success
      refine ⟨number, fun function same => ?_⟩
      rwa [FunctionIn.body_eq same]
    · exact ⟨0, fun function same => absurd ⟨function, same⟩ begins⟩
  obtain ⟨count, isArity⟩ := Classical.skolem.mp arity
  exact ⟨count, fun function => isArity _ function rfl⟩

/-- Whether these tokens, wherever they stand among all the tokens, add the
leaves that they bring in. -/
def AddsLeaves (tokens : List Token) (count : List Token → Nat)
    (segment : List Token) : Prop :=
  ∀ ⦃before after reached next⦄, before ++ (segment ++ after) = tokens →
    feed Builder.read .start before = (reached, none) →
    feed Builder.read reached segment = (next, none) →
    next.leaves = reached.leaves + leavesBehind count before segment

section AddsLeaves

variable {tokens : List Token} {count : List Token → Nat}

theorem addsLeaves_nil : AddsLeaves tokens count [] := by
  rintro before after reached next - - taken
  cases taken
  simp [leavesBehind]

theorem addsLeaves_of_neither {token : Token}
    (noOpener : token.kind.opening? = none)
    (noCloser : token.kind ≠ .closeDelimiter) :
    AddsLeaves tokens count [token] := by
  rintro before after reached next - start taken
  rw [feed_singleton_eq_none_iff, Builder.read_eq_ok_iff] at taken
  obtain ⟨action, called, rfl⟩ := taken
  rw [Builder.leaves_perform (Builder.follows_of_feed start) called noOpener
    noCloser
    (count before), leavesBehind, leavesBehind, add_zero]

theorem AddsLeaves.append {left right : List Token}
    (leftAdds : AddsLeaves tokens count left)
    (rightAdds : AddsLeaves tokens count right) :
    AddsLeaves tokens count (left ++ right) := by
  rintro before after reached final whole start taken
  obtain ⟨next, first, others⟩ := feed_append_eq_none_iff.mp taken
  have longer := feed_append_eq_none_iff.mpr ⟨reached, start, first⟩
  have leftWhole : before ++ (left ++ (right ++ after)) = tokens := by
    simpa using whole
  have rightWhole : (before ++ left) ++ (right ++ after) = tokens := by
    simpa using whole
  rw [rightAdds rightWhole longer others, leftAdds leftWhole start first,
    leavesBehind_append, add_assoc]

/-- The items of a collection are added inside it. What its opening delimiter
brings in is added together with the node, when the collection is closed. -/
theorem AddsLeaves.enclose (arities : Arities tokens count)
    {opener closer : Token} {body : List Token}
    (opens : opener.kind.opening?.isSome = true) (balanced : Balanced body)
    (closes : closer.kind = .closeDelimiter)
    (adds : AddsLeaves tokens count body) :
    AddsLeaves tokens count ([opener] ++ body ++ [closer]) := by
  rintro before after reached next whole start taken
  obtain ⟨opening, items, used, expects, top, isOpening, first, bodyTaken,
    collects, rfl⟩ :=
    Builder.exists_collection (Builder.follows_of_feed start).expects taken
      opens balanced closes
  have openedStart := feed_append_eq_none_iff.mpr ⟨reached, start, first⟩
  have regrouped :
      (before ++ [opener]) ++ (body ++ ([closer] ++ after)) = tokens := by
    simpa using whole
  have itemLeaves :
      Node.leavesAll items = leavesBehind count (before ++ [opener]) body := by
    have added := adds regrouped openedStart bodyTaken
    rw [Builder.leaves_enclose] at added
    exact add_left_cancel added
  have ownLeaves : opening.enclosure.leaves (Placeholder.arity used) =
      opener.leaves before (count before) := by
    rw [Token.leaves_of_opening? isOpening]
    by_cases isFunction : opening.enclosure = .anonymousFunction
    · obtain ⟨sign, paren⟩ :=
        (Token.opening?_function_iff before opener).mp ⟨opening, isOpening,
            isFunction⟩
      have split : before ++ opener :: (body ++ closer :: after) = tokens := by
        simpa using whole
      have isArity : HasArity body (count before) :=
        arities ⟨before, opener, body, closer, after, split, sign, paren,
            balanced, closes⟩
      rw [collects.hasArity.unique isArity]
    · exact Enclosure.leaves_of_ne isFunction _ _
  have closerLeaves (earlier : List Token) :
      leavesBehind count earlier [closer] = 0 := by
    simp [leavesBehind, Token.leaves, closes]
  rw [Builder.leaves_absorb, Enclosure.leaves_node, Node.leavesAll_reverse,
    ownLeaves, itemLeaves, leavesBehind_append, leavesBehind_append,
    closerLeaves, add_zero]
  simp [leavesBehind]

/-- Tokens that close what they open add the leaves they bring in. A collection
is taken as a whole, since its node comes only where it is closed. -/
theorem addsLeaves_of_balanced (arities : Arities tokens count)
    {segment : List Token} (balanced : Balanced segment) :
    AddsLeaves tokens count segment := by
  refine balanced.induction addsLeaves_nil ?_ ?_
  · intro token rest noOpener noCloser _ restAdds
    exact (addsLeaves_of_neither noOpener noCloser).append restAdds
  · intro opener body closer rest opens inner closes _ bodyAdds restAdds
    have split : opener :: (body ++ closer :: rest) =
        ([opener] ++ body ++ [closer]) ++ rest := by
      simp
    rw [split]
    exact (bodyAdds.enclose arities opens inner closes).append restAdds

end AddsLeaves

/-- The leaves of all the trees that are read are the leaves that the tokens
bring in, each token by itself, where every parenthesis behind the sign `#`
begins a function that has as many parameters as its body asks for. -/
theorem leaves_of_read {tokens : List Token} {nodes : List Node}
    (success : read tokens = .ok nodes) :
    ∃ count : List Token → Nat,
      (∀ before opener rest, tokens = before ++ opener :: rest →
        before.getLast?.map Token.kind = some .dispatch →
          opener.kind = .openParen →
        ∃ function : FunctionIn tokens, function.before = before ∧
          HasArity function.body (count before)) ∧
      Node.leavesAll nodes = leavesBehind count [] tokens := by
  obtain ⟨count, arities⟩ := exists_arities success
  refine ⟨count, ?_, ?_⟩
  · intro before opener rest split sign paren
    obtain ⟨function, rfl, -⟩ := exists_functionIn success split sign paren
    exact ⟨function, rfl, arities function⟩
  · obtain ⟨sign, scopes, accepted⟩ := exists_top_of_read success
    have whole : [] ++ (tokens ++ []) = tokens := List.append_nil tokens
    have added :=
      addsLeaves_of_balanced arities (.of_read success) whole rfl accepted
    simpa [Builder.leaves, Builder.start] using added

/-- The tokens of a function that uses its second argument. -/
def secondArgument : List Token :=
  [⟨.dispatch, none, ⟨1, 1⟩⟩, ⟨.openParen, none, ⟨1, 2⟩⟩,
    ⟨.symbol, some "f", ⟨1, 3⟩⟩, ⟨.symbol, some "%2", ⟨1, 5⟩⟩,
    .closer ')' ⟨1, 7⟩]

theorem leaves_of_read_function :
    read secondArgument =
      .ok [.function 2 [.identifier "f", .identifier "_PERCENT_2"]] ∧
    ∃ count : List Token → Nat,
      (∀ before opener rest,
        secondArgument = before ++ opener :: rest →
        before.getLast?.map Token.kind = some .dispatch →
        opener.kind = .openParen →
        ∃ function : FunctionIn secondArgument,
          function.before = before ∧ HasArity function.body (count before)) ∧
      Node.leavesAll [.function 2 [.identifier "f", .identifier "_PERCENT_2"]] =
        leavesBehind count [] secondArgument :=
  ⟨rfl, leaves_of_read rfl⟩

end LispReader
