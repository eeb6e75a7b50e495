import LispReader.Proofs.Building.Comments
import LispReader.Proofs.Node.Weight

/-!
# Where comments matter

Taking the comments out of tokens changes nothing else in the trees that are
read only if every token is read alike without the comments before it. A sign
that comes to bear on a token makes its value heavier, and a value that goes
into another place parts the siblings for good. Main statement:
`read_withoutComments_of_parse`.
-/

namespace LispReader

open Descent (Opening)

/-- Whether two builders add values of which those of the second are at least
as heavy. When the values are the same but for the comments and go into the
same places, something is the case. -/
def Compared (reached bare next bareNext : Builder) (alike : Prop) : Prop :=
  ∃ values others, next.siblings = Node.attachAll values reached.siblings ∧
    bareNext.siblings = Node.attachAll others bare.siblings ∧
    List.Forall₂ (fun left other => left.weight ≤ other.weight)
      (Node.allWithoutComments values) others ∧
    (others = Node.allWithoutComments values →
        Node.Steadily reached.siblings values → alike)

/-- Whether reading some tokens behind others with and without the comments
compares so, where the tokens are read alike. -/
def Compares (before segment : List Token) : Prop :=
  ∀ ⦃reached bare next bareNext⦄,
    feed Builder.read .start before = (reached, none) →
    feed Builder.read .start (withoutComments before) = (bare, none) →
    feed Builder.read reached segment = (next, none) →
    feed Builder.read bare (withoutComments segment) = (bareNext, none) →
    Compared reached bare next bareNext (CommentsApart before segment)

theorem compares_nil (before : List Token) : Compares before [] := by
  rintro reached bare next bareNext - - taken bareTaken
  cases taken
  cases bareTaken
  exact ⟨[], [], rfl, rfl, .nil, fun _ _ => trivial⟩

theorem Compared.of_value {reached bare next bareNext : Builder}
    {alike : Prop} {value left other : Node}
    (siblings : next.siblings = value.attach reached.siblings)
    (bareSiblings : bareNext.siblings = other.attach bare.siblings)
    (one : value.withoutComments = [left])
    (lighter : left.weight ≤ other.weight)
    (same : other = left → Node.Steady reached.siblings → alike) :
    Compared reached bare next bareNext alike := by
  refine ⟨[value], [other], siblings, bareSiblings, ?_, ?_⟩
  · rw [Node.allWithoutComments_cons, one]
    exact .cons lighter .nil
  · rintro equal ⟨steady, -⟩
    rw [Node.allWithoutComments_cons, one] at equal
    refine same (List.cons.inj equal).1 (steady ?_)
    intro isComment
    cases value with
    | comment text => cases one
    | _ => cases isComment

theorem Node.attachAll_append (left right siblings : List Node) :
    attachAll (left ++ right) siblings =
      attachAll right (attachAll left siblings) :=
  List.foldl_append

theorem Node.steadily_append_iff (left right siblings : List Node) :
    Steadily siblings (left ++ right) ↔
      Steadily siblings left ∧ Steadily (attachAll left siblings) right := by
  induction left generalizing siblings with
  | nil => simp [Steadily]
  | cons value rest inductionHypothesis =>
      simp [Steadily, inductionHypothesis, and_assoc]

/-- Segments that compare do so one behind the other. -/
theorem Compares.append {before left right : List Token}
    (leftCompares : Compares before left)
    (rightCompares : Compares (before ++ left) right) :
    Compares before (left ++ right) := by
  rintro reached bare next bareNext start bareStart taken bareTaken
  rw [withoutComments_append] at bareTaken
  obtain ⟨middle, first, second⟩ := feed_append_eq_none_iff.mp taken
  obtain ⟨bareMiddle, bareFirst, bareSecond⟩ :=
    feed_append_eq_none_iff.mp bareTaken
  obtain ⟨values, others, siblings, bareSiblings, lighter, apart⟩ :=
    leftCompares start bareStart first bareFirst
  have longer := feed_append_eq_none_iff.mpr ⟨reached, start, first⟩
  have bareLonger := feed_append_eq_none_iff.mpr ⟨bare, bareStart, bareFirst⟩
  rw [← withoutComments_append] at bareLonger
  obtain ⟨moreValues, moreOthers, moreSiblings, moreBare, moreLighter,
    moreApart⟩ :=
    rightCompares longer bareLonger second bareSecond
  refine ⟨values ++ moreValues, others ++ moreOthers, ?_, ?_, ?_, ?_⟩
  · rw [moreSiblings, siblings, Node.attachAll_append]
  · rw [moreBare, bareSiblings, Node.attachAll_append]
  · rw [Node.allWithoutComments_append]
    exact List.rel_append lighter moreLighter
  · intro same steadily
    rw [Node.allWithoutComments_append] at same
    have sizes : others.length = (Node.allWithoutComments values).length :=
      lighter.length_eq.symm
    obtain ⟨leftSame, rightSame⟩ := List.append_inj same sizes
    obtain ⟨leftSteadily, rightSteadily⟩ :=
      (Node.steadily_append_iff _ _ _).mp steadily
    rw [commentsApart_append_iff]
    exact ⟨apart leftSame leftSteadily,
      moreApart rightSame (siblings ▸ rightSteadily)⟩

/-! ## One token -/

namespace Builder

theorem siblings_add (builder : Builder) (value : Node) :
    (builder.add value).siblings = value.attach builder.siblings := by
  obtain ⟨expects, top, frames, scopes⟩ := builder
  cases frames <;> rfl

theorem beginsValue_of_expect {builder : Builder} {token : Token}
    {expectation : Expectation}
    (called : builder.action? token = .ok (.expect expectation)) :
    token.kind.beginsValue = false := by
  cases action?_eq_ok_iff.mp called with
  | dispatch _ | metadata _ | rest _ => rfl

/-- Two builders that expect the same and take the same token do the same,
unless they close a collection. -/
theorem action?_eq_of_expects {left right : Builder} {token : Token}
    {action other : Action} (same : left.expects = right.expects)
    (noCloser : token.kind ≠ .closeDelimiter)
    (called : left.action? token = .ok action)
    (otherCalled : right.action? token = .ok other) :
    action = other := by
  obtain ⟨kind, text, position⟩ := token
  cases waits : left.expects with
  | name ampersand =>
      have otherWaits : right.expects = .name ampersand := same.symm.trans waits
      simp only [action?, waits] at called
      simp only [action?, otherWaits, called] at otherCalled
      exact Except.ok.inj otherCalled
  | value before =>
      have otherWaits : right.expects = .value before := same.symm.trans waits
      simp only [action?, waits, valueAction?] at called
      simp only [action?, otherWaits, valueAction?] at otherCalled
      cases kind with
      | symbol =>
          simp only [symbolAction?] at called otherCalled
          cases word : Word.ofText (text.getD "") with
          | leaf value =>
              rw [word] at called otherCalled
              cases called
              cases otherCalled
              rfl
          | argument placeholder =>
              simp only [word] at called otherCalled
              split at called
              · cases called
              · split at otherCalled
                · cases otherCalled
                · cases called
                  cases otherCalled
                  rfl
      | closeDelimiter => exact absurd rfl noCloser
      | _ => exact Except.ok.inj (called.symm.trans otherCalled)

end Builder

/-- The sign that a builder has just read, if it expects a value. -/
def Expectation.sign : Expectation → Lookback
  | .value before => before
  | .name _ => .plain

theorem Expectation.sign_behind (tokens : List Token) :
    (Expectation.behind tokens).sign = Lookback.behind tokens := by
  unfold behind Lookback.behind
  cases tokens.getLast? with
  | none => rfl
  | some last => by_cases isRest : last.kind = .rest <;> simp [isRest, sign,
      Lookback.ofKind]

theorem Lookback.behind_congr {left right : List Token}
    (same : Expectation.behind left = .behind right) :
    Lookback.behind left = .behind right := by
  rw [← Expectation.sign_behind, ← Expectation.sign_behind, same]

/-- The last token before leaves the same sign behind without the comments,
unless it is one. -/
theorem Builder.signs_withoutComments {before : List Token} {reached : Builder}
    (start : feed Builder.read .start before = (reached, none)) :
    Lookback.behind before = .behind (withoutComments before) ∨
      Lookback.behind before = .plain := by
  have expects := (follows_of_feed start).expects
  rcases expects_withoutComments start with same | ⟨plain, -⟩
  · exact .inl (Lookback.behind_congr (expects.symm.trans same))
  · exact .inr (Lookback.behind_of_expectation (expects.symm.trans plain))

/-- What a token calls for with and without the comments before it: the same
action if it is read alike, and otherwise another value, which is at least as
heavy. -/
theorem Builder.compare_actions {reached bare : Builder} {before : List Token}
    {token : Token} {action bareAction : Action}
    (start : feed Builder.read .start before = (reached, none))
    (bareStart : feed Builder.read .start (withoutComments before) =
      (bare, none))
    (called : reached.action? token = .ok action)
    (bareCalled : bare.action? token = .ok bareAction)
    (noOpener : token.kind.opening? = none)
    (noCloser : token.kind ≠ .closeDelimiter) :
    action = bareAction ∧
      (token.heeds (.behind (withoutComments before)) = true →
        Lookback.behind before = .behind (withoutComments before)) ∨
      ∃ value other, action = .add value ∧ bareAction = .add other ∧
        value ≠ other ∧
        value.weight ≤ other.weight := by
  have bareExpects := (follows_of_feed bareStart).expects
  rcases expects_withoutComments start with same | ⟨plain, sign, expected⟩
  · have signs : Lookback.behind before = .behind (withoutComments before) :=
      Lookback.behind_congr ((follows_of_feed start).expects.symm.trans same)
    exact .inl ⟨action?_eq_of_expects (same.trans bareExpects.symm) noCloser
      called bareCalled,
      fun _ => signs⟩
  · have bareWaits : bare.expects = .value sign := bareExpects.trans expected
    have behind : Lookback.behind (withoutComments before) = sign :=
      Lookback.behind_of_expectation expected
    cases heeds : token.heeds sign with
    | false =>
        have ignored := @action?_of_not_heeds bare _ _ heeds
        rw [← bareWaits] at ignored
        refine .inl ⟨action?_eq_of_expects plain noCloser called
          (ignored ▸ bareCalled), ?_⟩
        rw [behind, heeds]
        exact fun impossible => absurd impossible Bool.false_ne_true
    | true =>
        obtain ⟨kind, text, position⟩ := token
        simp only [action?, plain, valueAction?] at called
        simp only [action?, bareWaits, valueAction?] at bareCalled
        cases kind with
        | string | keyword =>
            cases sign <;> cases heeds
            cases called
            cases bareCalled
            exact .inr ⟨_, _, rfl, rfl, by simp [Node.withMetadata],
              by simp [Node.weight, Node.withMetadata]⟩
        | openParen | openBrace => cases noOpener
        | _ => cases sign <;> cases heeds

/-- A comment adds nothing that is left without comments. -/
theorem compares_of_comment {token : Token} (isComment : token.kind = .comment)
    (before : List Token) : Compares before [token] := by
  rintro reached bare next bareNext start - taken bareTaken
  rw [withoutComments_comment isComment] at bareTaken
  cases bareTaken
  rw [feed_singleton_eq_none_iff] at taken
  have alike : ReadsAlike before token := by
    obtain ⟨kind, text, position⟩ := token
    cases isComment
    exact ⟨by cases Lookback.behind (withoutComments before) <;> nofun, nofun⟩
  refine ⟨[.comment (token.text.getD "")], [], ?_, rfl, .nil,
    fun _ _ => ⟨alike, trivial⟩⟩
  obtain ⟨action, called, rfl⟩ := Builder.read_eq_ok_iff.mp taken
  rw [Builder.action?_of_comment called isComment, Builder.perform,
    Builder.siblings_add]
  rfl

/-- Any other token brings the same in both readings, unless the comment before
it covers a sign: then it is lighter with the comment. -/
theorem compares_of_neither {token : Token}
    (noOpener : token.kind.opening? = none)
    (noCloser : token.kind ≠ .closeDelimiter)
    (noComment : token.kind ≠ .comment) (before : List Token) :
    Compares before [token] := by
  rintro reached bare next bareNext start bareStart taken bareTaken
  rw [withoutComments_other noComment, feed_singleton_eq_none_iff] at bareTaken
  rw [feed_singleton_eq_none_iff] at taken
  obtain ⟨action, called, rfl⟩ := Builder.read_eq_ok_iff.mp taken
  obtain ⟨bareAction, bareCalled, rfl⟩ := Builder.read_eq_ok_iff.mp bareTaken
  have isBehind := Builder.behind_of_feed start
  rcases Builder.compare_actions start bareStart called bareCalled noOpener
    noCloser with
    ⟨rfl, sign⟩ | ⟨value, other, rfl, rfl, different, lighter⟩
  · have alike (steady : Node.Steady reached.siblings) :
        CommentsApart before [token] := by
      refine ⟨⟨sign, fun _ => ?_⟩, trivial⟩
      rwa [Builder.behind_of_feed start]
    cases action with
    | expect expectation =>
        have noValue := Builder.beginsValue_of_expect called
        refine ⟨[], [], rfl, rfl, .nil,
          fun _ _ => ⟨⟨sign, fun begins => ?_⟩, trivial⟩⟩
        rw [noValue] at begins
        cases begins
    | add value =>
        obtain ⟨one, -⟩ := Builder.withoutComments_of_action? called noComment
        exact .of_value (Builder.siblings_add _ _) (Builder.siblings_add _ _)
          one (Nat.le_refl _)
          fun _ => alike
    | use placeholder =>
        exact .of_value (Builder.siblings_add _ _) (Builder.siblings_add _ _)
          (Node.withoutComments_identifier _) (Nat.le_refl _) fun _ => alike
    | enter enclosure position =>
        obtain ⟨opens, -⟩ :=
          Builder.fits_of_action? (Builder.follows_of_feed start).expects called
        rw [Token.opening?_eq_none noOpener] at opens
        cases opens
    | leave frame =>
        obtain ⟨closes, -⟩ :=
          Builder.fits_of_action? (Builder.follows_of_feed start).expects called
        exact absurd closes noCloser
  · obtain ⟨one, -⟩ := Builder.withoutComments_of_action? called noComment
    exact .of_value (Builder.siblings_add _ _) (Builder.siblings_add _ _)
      one lighter
      fun same => absurd same.symm different

/-- A comment that covers a sign can only make a collection lighter. -/
theorem Token.compare_openings {before : List Token} {opener : Token}
    {opening bareOpening : Opening}
    (opens : opener.opening? before = some opening)
    (bareOpens : opener.opening? (withoutComments before) = some bareOpening)
    (signs : Lookback.behind before = .behind (withoutComments before) ∨
      Lookback.behind before = .plain) :
    opening.enclosure.weight ≤ bareOpening.enclosure.weight ∧
      (opening.enclosure.weight = bareOpening.enclosure.weight →
        opening.enclosure = bareOpening.enclosure ∧
          (opener.heeds (.behind (withoutComments before)) = true →
            Lookback.behind before = .behind (withoutComments before))) := by
  obtain ⟨kind, text, position⟩ := opener
  simp only [opening?] at opens bareOpens
  rcases signs with same | plain
  · rw [same] at opens
    rw [opens] at bareOpens
    cases bareOpens
    exact ⟨Nat.le_refl _, fun _ => ⟨rfl, fun _ => same⟩⟩
  · rw [plain] at opens ⊢
    generalize Lookback.behind (withoutComments before) = sign at bareOpens ⊢
    cases kind with
    | openParen | openBrace =>
        cases opens
        cases sign <;> cases bareOpens <;>
          simp [Enclosure.ofParen, Enclosure.ofBrace, Enclosure.weight, heeds]
    | openBracket =>
        cases opens
        cases bareOpens
        cases sign <;> simp [heeds]
    | _ => cases opens

theorem Balanced.withoutComments {tokens : List Token}
    (balanced : Balanced tokens) :
    Balanced (withoutComments tokens) := by
  refine ⟨balanced.1.withoutComments, ?_⟩
  rw [openers_withoutComments, closers_withoutComments, balanced.2]

/-- Items that weigh the same come from the same values in the same places,
when they are the same but for the comments. -/
theorem Compared.alike_of_items {reached bare next bareNext : Builder}
    {alike : Prop} (compared : Compared reached bare next bareNext alike)
    (empty : reached.siblings = []) (bareEmpty : bare.siblings = [])
    (same : bareNext.siblings = Node.allWithoutComments next.siblings) :
    alike := by
  obtain ⟨values, others, siblings, bareSiblings, lighter, apart⟩ := compared
  rw [empty] at siblings apart
  rw [bareEmpty] at bareSiblings
  have weights : (Node.allWithoutComments values).map Node.weight =
      others.map Node.weight := by
    refine (Node.weights_of_forall₂ lighter).2 ?_
    have total := congrArg Node.weightAll same
    rw [bareSiblings, siblings, Node.weightAll_allWithoutComments,
      Node.weightAll_attachAll, Node.weightAll_attachAll] at total
    rw [Node.weightAll_allWithoutComments]
    exact (Nat.add_right_cancel total).symm
  rw [siblings, bareSiblings] at same
  obtain ⟨-, isOthers, steadily⟩ := Node.eq_of_attachAll weights same.symm
  exact apart isOthers steadily

theorem Compared.weight_le {reached bare next bareNext : Builder}
    {alike : Prop} (compared : Compared reached bare next bareNext alike)
    (empty : reached.siblings = []) (bareEmpty : bare.siblings = []) :
    Node.weightAll next.siblings ≤ Node.weightAll bareNext.siblings := by
  obtain ⟨values, others, siblings, bareSiblings, lighter, -⟩ := compared
  have total := (Node.weights_of_forall₂ lighter).1
  rw [Node.weightAll_allWithoutComments] at total
  rw [siblings, bareSiblings, empty, bareEmpty, Node.weightAll_attachAll,
    Node.weightAll_attachAll]
  exact Nat.add_le_add_right total _

/-- Of two collections whose items compare so, the nodes do, and a node can be
the same only if the items come from the same values in the same places. -/
theorem Compares.enclose {before body : List Token} {opener closer : Token}
    (opens : opener.kind.opening?.isSome = true) (balanced : Balanced body)
    (closes : closer.kind = .closeDelimiter)
    (compares : Compares (before ++ [opener]) body) :
    Compares before ([opener] ++ body ++ [closer]) := by
  rintro reached bare next bareNext start bareStart taken bareTaken
  have openerStays : withoutComments [opener] = [opener] := by
    apply withoutComments_other
    intro isComment
    rw [isComment] at opens
    cases opens
  have closerStays : withoutComments [closer] = [closer] :=
    withoutComments_other (by simp [closes])
  rw [withoutComments_append, withoutComments_append, openerStays,
    closerStays] at bareTaken
  obtain ⟨opening, items, used, expects, top, isOpening, first, bodyTaken,
    -, rfl⟩ :=
    Builder.exists_collection (Builder.follows_of_feed start).expects taken
      opens balanced closes
  obtain ⟨bareOpening, bareItems, bareUsed, bareExpects, bareTop, isBareOpening,
    bareFirst, bareBodyTaken, -, rfl⟩ :=
    Builder.exists_collection (Builder.follows_of_feed bareStart).expects
      bareTaken opens
      balanced.withoutComments closes
  have startOpened := feed_append_eq_none_iff.mpr ⟨reached, start, first⟩
  have bareStartOpened :=
    feed_append_eq_none_iff.mpr ⟨bare, bareStart, bareFirst⟩
  rw [← openerStays, ← withoutComments_append] at bareStartOpened
  have compared := compares startOpened bareStartOpened bodyTaken bareBodyTaken
  have lighter : Node.weightAll items ≤ Node.weightAll bareItems :=
    compared.weight_le rfl rfl
  obtain ⟨opensLighter, opensAlike⟩ :=
    Token.compare_openings isOpening isBareOpening
    (Builder.signs_withoutComments start)
  refine .of_value (Builder.siblings_add _ _) (Builder.siblings_add _ _)
    (Node.withoutComments_enclosure _ _ _) ?_ ?_
  · rw [Enclosure.weight_node, Enclosure.weight_node,
      Node.weightAll_allWithoutComments, Node.weightAll_reverse,
      Node.weightAll_reverse]
    omega
  · intro same steady
    have weights := congrArg Node.weight same
    rw [Enclosure.weight_node, Enclosure.weight_node,
      Node.weightAll_allWithoutComments, Node.weightAll_reverse,
      Node.weightAll_reverse] at weights
    obtain ⟨sameEnclosure, sign⟩ := opensAlike (by omega)
    rw [← sameEnclosure] at same
    have sameItems := Enclosure.items_eq_of_node_eq same
    rw [Node.allWithoutComments_reverse, List.reverse_inj] at sameItems
    have bodyApart := compared.alike_of_items rfl rfl sameItems
    have openerAlike : ReadsAlike before opener := by
      refine ⟨sign, fun _ => ?_⟩
      rwa [Builder.behind_of_feed start]
    have closerAlike : ReadsAlike (before ++ ([opener] ++ body)) closer := by
      obtain ⟨kind, text, position⟩ := closer
      cases closes
      exact ⟨by cases Lookback.behind (withoutComments _) <;> nofun, nofun⟩
    rw [commentsApart_append_iff, commentsApart_append_iff,
      commentsApart_singleton_iff, commentsApart_singleton_iff]
    exact ⟨⟨openerAlike, bodyApart⟩, closerAlike⟩

/-- Tokens that close what they open compare, whatever stands before them: a
collection puts its opening delimiter there. -/
theorem compares_of_balanced {segment : List Token}
    (balanced : Balanced segment) :
    ∀ before, Compares before segment := by
  refine Balanced.induction (motive := fun tokens => ∀ before,
    Compares before tokens)
    compares_nil ?_ ?_ balanced
  · intro token rest noOpener noCloser _ restCompares before
    have first : Compares before [token] := by
      by_cases isComment : token.kind = .comment
      · exact compares_of_comment isComment before
      · exact compares_of_neither noOpener noCloser isComment before
    exact first.append (restCompares _)
  · intro opener body closer rest opens inner closes _ bodyCompares
      restCompares before
    have split : opener :: (body ++ closer :: rest) =
        ([opener] ++ body ++ [closer]) ++ rest := by
      simp
    rw [split]
    exact ((bodyCompares _).enclose opens inner closes).append (restCompares _)

/-! ## All tokens -/

/-- Where the trees are the same but for the comments in them, every token is
read alike without the comments before it. -/
theorem apart_of_read_withoutComments {tokens : List Token}
    {nodes : List Node} (success : read tokens = .ok nodes)
    (bareSuccess : read (withoutComments tokens) =
      .ok (Node.allWithoutComments nodes)) :
    CommentsApart [] tokens := by
  obtain ⟨sign, scopes, accepted⟩ := exists_top_of_read success
  obtain ⟨bareSign, bareScopes, bareAccepted⟩ := exists_top_of_read bareSuccess
  have compared :=
    compares_of_balanced (.of_read success) [] rfl rfl accepted bareAccepted
  exact compared.alike_of_items rfl rfl
    (Node.allWithoutComments_reverse nodes).symm

/-- The tokens of a text that can be read can be read without the comments
among them. The trees are the same but for the comments in them exactly if
every token is read alike without the comments before it. -/
theorem read_withoutComments_of_parse {text : String} {tokens : List Token}
    {nodes : List Node} (parsed : parse text = .ok nodes)
    (tokenized : tokenize text = .ok tokens) :
    (∃ others, read (withoutComments tokens) = .ok others) ∧
      (read (withoutComments tokens) = .ok (Node.allWithoutComments nodes) ↔
        CommentsApart [] tokens) := by
  have success : read tokens = .ok nodes := by
    rwa [parse, tokenized] at parsed
  exact ⟨exists_read_withoutComments success,
    apart_of_read_withoutComments success,
    read_withoutComments_of_apart success⟩

/-- The tokens of a list that has a comment between its items. -/
def commentedList : List Token :=
  [⟨.openParen, none, ⟨1, 1⟩⟩, ⟨.symbol, some "a", ⟨1, 2⟩⟩,
    ⟨.comment, some "c", ⟨1, 4⟩⟩, ⟨.quote, none, ⟨2, 1⟩⟩,
    ⟨.symbol, some "b", ⟨2, 2⟩⟩, .closer ')' ⟨2, 3⟩]

theorem read_withoutComments_of_list :
    parse "(a ;c\n'b)" =
      .ok [.list [.identifier "a", .comment "c",
        .list [.identifier "quote", .identifier "b"]]] ∧
    tokenize "(a ;c\n'b)" = .ok commentedList ∧
    CommentsApart [] commentedList ∧
    (∃ others, read (withoutComments commentedList) = .ok others) ∧
    (read (withoutComments commentedList) =
        .ok (Node.allWithoutComments [.list [.identifier "a", .comment "c",
          .list [.identifier "quote", .identifier "b"]]]) ↔
      CommentsApart [] commentedList) := by
  have apart : CommentsApart [] commentedList := by
    unfold commentedList
    decide
  exact ⟨rfl, rfl, apart,
    @read_withoutComments_of_parse "(a ;c\n'b)" _ _ rfl rfl⟩

/-- The tokens of a quotation mark with a comment directly behind it. -/
def quotedComment : List Token :=
  [⟨.quote, none, ⟨1, 1⟩⟩, ⟨.comment, some "c", ⟨1, 2⟩⟩,
    ⟨.symbol, some "x", ⟨2, 1⟩⟩]

/-- A comment directly behind a quotation mark is what is quoted, and not the
value behind it. -/
theorem read_withoutComments_of_quoted_comment :
    parse "';c\nx" =
      .ok [.list [.identifier "quote", .comment "c"], .identifier "x"] ∧
    tokenize "';c\nx" = .ok quotedComment ∧
    read (withoutComments quotedComment) =
      .ok [.list [.identifier "quote", .identifier "x"]] ∧
    read (withoutComments quotedComment) ≠
      .ok (Node.allWithoutComments
        [.list [.identifier "quote", .comment "c"], .identifier "x"]) := by
  have bare : read (withoutComments quotedComment) =
      .ok [.list [.identifier "quote", .identifier "x"]] := rfl
  refine ⟨rfl, rfl, bare, ?_⟩
  rw [bare]
  simp

end LispReader
