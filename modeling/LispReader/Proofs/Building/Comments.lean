import LispReader.Proofs.Building.Enclosed
import LispReader.Proofs.Node.Comments

/-!
# Reading without the comments

When the comments are taken out of tokens that can be read, the others can
still be read. The trees are the same without their comments, as long as no
comment comes between a sign and the token that it bears on, and no comment
decides into which place a value is put. Main statements:
`read_withoutComments_of_apart`, `exists_read_withoutComments`.
-/

namespace LispReader

open Descent (Opening)

/-- Some tokens without the comments among them. -/
def withoutComments (tokens : List Token) : List Token :=
  tokens.filter fun token => token.kind ≠ .comment

theorem withoutComments_append (left right : List Token) :
    withoutComments (left ++ right) =
      withoutComments left ++ withoutComments right :=
  List.filter_append left right

theorem withoutComments_comment {token : Token}
    (isComment : token.kind = .comment) :
    withoutComments [token] = [] := by
  simp [withoutComments, isComment]

theorem withoutComments_other {token : Token}
    (noComment : token.kind ≠ .comment) :
    withoutComments [token] = [token] := by
  simp [withoutComments, noComment]

/-- Whether it makes a difference for a token that this sign is directly before
it. -/
def Token.heeds (token : Token) : Lookback → Bool
  | .plain => false
  | .dispatch =>
      token.kind = .openParen || token.kind = .openBrace || token.kind = .string
  | .metadata => token.kind = .openBrace || token.kind = .keyword

/-- Whether a value or the name behind an ampersand begins with a token of this
kind. -/
def Token.Kind.beginsValue : Kind → Bool
  | .dispatch | .metadata | .rest | .comment | .closeDelimiter => false
  | _ => true

/-- The builder that has read some tokens, as far as it takes them. -/
def Builder.behind (tokens : List Token) : Builder :=
  (feed Builder.read .start tokens).1

/-- The nodes in the innermost open collection, newest first. -/
def Builder.siblings (builder : Builder) : List Node :=
  match builder.frames with
  | [] => builder.top
  | frame :: _ => frame.reversed

/-- Whether a token is read alike with and without the comments before it: a
sign that bears on it is not parted from it, and the value that it begins is
put into the same place. -/
structure ReadsAlike (before : List Token) (token : Token) : Prop where
  sign : token.heeds (.behind (withoutComments before)) = true →
    Lookback.behind before = .behind (withoutComments before)
  place : token.kind.beginsValue = true →
    Node.Steady (Builder.behind before).siblings

instance (before : List Token) (token : Token) :
    Decidable (ReadsAlike before token) :=
  decidable_of_iff (_ ∧ _) ⟨fun alike => ⟨alike.1, alike.2⟩,
      fun alike => ⟨alike.sign, alike.place⟩⟩

/-- Whether each of some tokens is read alike with and without the comments
before it, when these tokens are before all of them. -/
def CommentsApart (before : List Token) : List Token → Prop
  | [] => True
  | token :: rest =>
      ReadsAlike before token ∧ CommentsApart (before ++ [token]) rest

instance decidableCommentsApart (before tokens : List Token) :
    Decidable (CommentsApart before tokens) :=
  match tokens with
  | [] => inferInstanceAs (Decidable True)
  | token :: rest =>
      have := decidableCommentsApart (before ++ [token]) rest
      inferInstanceAs (Decidable (_ ∧ _))

theorem commentsApart_append_iff (before left right : List Token) :
    CommentsApart before (left ++ right) ↔
      CommentsApart before left ∧ CommentsApart (before ++ left) right := by
  induction left generalizing before with
  | nil => simp [CommentsApart]
  | cons token rest inductionHypothesis =>
      simp [CommentsApart, inductionHypothesis, and_assoc]

theorem commentsApart_singleton_iff (before : List Token) (token : Token) :
    CommentsApart before [token] ↔ ReadsAlike before token := by
  simp [CommentsApart]

def Frame.uncommented (frame : Frame) : Frame :=
  { frame with reversed := Node.allWithoutComments frame.reversed }

namespace Builder

/-- A builder without the comments in its nodes, which expects something
else. -/
def uncommented (expects : Expectation) (builder : Builder) : Builder where
  expects := expects
  top := Node.allWithoutComments builder.top
  frames := builder.frames.map Frame.uncommented
  scopes := builder.scopes

/-- The nodes at each level around the innermost open collection. -/
def outerLevels (builder : Builder) : List (List Node) :=
  match builder.frames with
  | [] => []
  | _ :: outer => outer.map Frame.reversed ++ [builder.top]

/-- Around the innermost open collection the comments do not matter for where
the next value goes. -/
def SteadyAround (builder : Builder) : Prop :=
  ∀ level ∈ builder.outerLevels, Node.Steady level

theorem outerLevels_add (builder : Builder) (value : Node) :
    (builder.add value).outerLevels = builder.outerLevels := by
  obtain ⟨expects, top, frames, scopes⟩ := builder
  cases frames <;> rfl

theorem uncommented_add_comment (expects : Expectation) (builder : Builder)
    (text : String) :
    (builder.add (.comment text)).uncommented expects =
      builder.uncommented expects := by
  obtain ⟨was, top, frames, scopes⟩ := builder
  cases frames with
  | nil => simp [add, uncommented, Node.allWithoutComments_attach_comment]
  | cons frame outer =>
      simp [add, uncommented, Frame.uncommented,
        Node.allWithoutComments_attach_comment]

/-- A value is added without its comments where the builder without comments
adds it. -/
theorem uncommented_add {builder : Builder} {value left : Node}
    (expects : Expectation) (one : value.withoutComments = [left])
    (steady : Node.Steady builder.siblings) :
    (builder.add value).uncommented (.value .plain) =
      (builder.uncommented expects).add left := by
  obtain ⟨was, top, frames, scopes⟩ := builder
  cases frames with
  | nil =>
      have attached : Node.allWithoutComments (value.attach top) =
          left.attach (Node.allWithoutComments top) :=
            Node.allWithoutComments_attach one steady
      simp [add, uncommented, attached]
  | cons frame outer =>
      have attached : Node.allWithoutComments (value.attach frame.reversed) =
          left.attach (Node.allWithoutComments frame.reversed) :=
        Node.allWithoutComments_attach one steady
      simp [add, uncommented, Frame.uncommented, attached]

/-! ## One token -/

/-- An action without the comments in the collection that it closes. -/
def Action.uncommented : Action → Action
  | .leave frame => .leave frame.uncommented
  | other => other

/-- A builder without its comments takes every token for the same action, but
for the comments in it. -/
theorem action?_uncommented (builder : Builder) (token : Token) :
    (builder.uncommented builder.expects).action? token =
      (builder.action? token).map Action.uncommented := by
  obtain ⟨kind, text, position⟩ := token
  obtain ⟨expects, top, frames, scopes⟩ := builder
  cases expects with
  | name ampersand =>
      cases kind with
      | symbol => cases text <;> rfl
      | _ => rfl
  | value before =>
      cases kind with
      | symbol =>
          simp only [uncommented, action?, valueAction?, symbolAction?]
          cases Word.ofText (text.getD "") with
          | leaf value => rfl
          | argument placeholder => cases scopes <;> rfl
      | closeDelimiter => cases frames <;> rfl
      | keyword | string => cases before <;> rfl
      | _ => rfl

/-- Behind a sign that does not matter to a token it calls for the same as
behind none. -/
theorem action?_of_not_heeds {builder : Builder} {token : Token}
    {sign : Lookback} (ignores : token.heeds sign = false) :
    action? { builder with expects := .value sign } token =
      action? { builder with expects := .value .plain } token := by
  obtain ⟨kind, text, position⟩ := token
  cases kind with
  | keyword | string | openParen | openBrace =>
      cases sign <;> first | rfl | cases ignores
  | _ => rfl

theorem action?_of_comment {builder : Builder} {token : Token}
    {action : Action} (called : builder.action? token = .ok action)
    (isComment : token.kind = .comment) :
    action = .add (.comment (token.text.getD "")) := by
  cases action?_eq_ok_iff.mp called with
  | comment _ => rfl
  | _ => cases isComment

theorem withoutComments_of_symbol {text : String} {node : Node}
    (word : Word.ofText text = .leaf node) : node.withoutComments = [node] := by
  obtain ⟨isLeaf, kind⟩ := Word.kind_of_leaf word
  refine Node.withoutComments_of_leaf isLeaf fun isComment => ?_
  rw [isComment] at kind
  revert kind
  decide

/-- What a builder expects decides which action a token calls for, and not what
the action does. -/
theorem perform_expects (builder : Builder) (expectation : Expectation)
    (action : Action) :
    perform { builder with expects := expectation } action =
      builder.perform action := by
  cases action with
  | expect other => rfl
  | add value => exact add_expects builder expectation value
  | use placeholder =>
      exact add_expects
        { builder with scopes := note placeholder builder.scopes } expectation _
  | enter enclosure position => rfl
  | leave frame =>
      exact add_expects { builder with frames := _, scopes := _ } expectation _

/-- A value that is added for a token other than a comment has no comment in
it. -/
theorem withoutComments_of_action? {builder : Builder} {token : Token}
    {value : Node} (called : builder.action? token = .ok (.add value))
    (noComment : token.kind ≠ .comment) :
    value.withoutComments = [value] ∧ token.kind.beginsValue = true := by
  cases action?_eq_ok_iff.mp called with
  | comment _ => exact absurd rfl noComment
  | leaf _ word => exact ⟨withoutComments_of_symbol word, rfl⟩
  | name _ | quote _ | deref _ | keyword _ _ | shorthand _ | string _ _
    | regexp _ =>
      exact ⟨rfl, rfl⟩

theorem outerLevels_enter (builder : Builder) (enclosure : Enclosure)
    (position : Position) :
    (builder.perform (.enter enclosure position)).outerLevels =
      builder.siblings :: builder.outerLevels := by
  obtain ⟨expects, top, frames, scopes⟩ := builder
  cases frames <;> rfl

/-- When a collection is closed, its node becomes a sibling at the next
level. -/
theorem outerLevels_leave {builder : Builder} {frame : Frame}
    (scopes : List (List Placeholder))
    (innermost : builder.frames.head? = some frame) :
    builder.outerLevels =
      siblings
        { builder with frames := builder.frames.tail, scopes := scopes } ::
        (builder.perform (.leave frame)).outerLevels := by
  obtain ⟨outer, split⟩ := List.head?_eq_some_iff.mp innermost
  obtain ⟨expects, top, frames, was⟩ := builder
  dsimp only at split
  subst split
  rw [perform, outerLevels_add]
  cases outer <;> rfl

variable {builder next : Builder} {tokens : List Token} {token : Token}

/-- The levels around stay steady, since a collection begins at a steady
level. -/
theorem SteadyAround.read (around : builder.SteadyAround)
    (follows : builder.Follows tokens)
    (accepted : builder.read token = .ok next)
    (place : token.kind.beginsValue = true → Node.Steady builder.siblings) :
    next.SteadyAround := by
  obtain ⟨action, called, rfl⟩ := read_eq_ok_iff.mp accepted
  have fits := fits_of_action? follows.expects called
  cases action with
  | expect expectation => exact around
  | add value =>
      rw [SteadyAround, perform, outerLevels_add]
      exact around
  | use placeholder =>
      rw [SteadyAround, perform, outerLevels_add]
      exact around
  | enter enclosure position =>
      have begins : token.kind.beginsValue = true := by
        obtain ⟨opens, -⟩ := fits
        obtain ⟨sign, -⟩ := Token.opener_of_opening? opens
        obtain ⟨kind, text, position⟩ := token
        cases kind <;> first | rfl | cases sign
      rw [SteadyAround, outerLevels_enter, List.forall_mem_cons]
      exact ⟨place begins, around⟩
  | leave frame =>
      obtain ⟨-, innermost, -⟩ := fits
      rw [SteadyAround, outerLevels_leave [] innermost,
        List.forall_mem_cons] at around
      exact around.2

/-- A token that is no comment is taken in the same way where the comments
before it are missing. -/
theorem read_uncommented (follows : builder.Follows tokens)
    (accepted : builder.read token = .ok next)
    (noComment : token.kind ≠ .comment) (around : builder.SteadyAround)
    (place : token.kind.beginsValue = true → Node.Steady builder.siblings) :
    (builder.uncommented builder.expects).read token =
      .ok (next.uncommented next.expects) := by
  obtain ⟨action, called, rfl⟩ := read_eq_ok_iff.mp accepted
  have fits := fits_of_action? follows.expects called
  have calledLeft : (builder.uncommented builder.expects).action? token =
      .ok action.uncommented := by
    rw [action?_uncommented, called]
    rfl
  rw [read_eq_ok_iff]
  refine ⟨action.uncommented, calledLeft, ?_⟩
  cases action with
  | expect expectation => rfl
  | add value =>
      obtain ⟨one, begins⟩ := withoutComments_of_action? called noComment
      rw [perform, expects_add,
        uncommented_add builder.expects one (place begins)]
      rfl
  | use placeholder =>
      have begins : token.kind.beginsValue = true := by
        obtain ⟨text, ⟨⟨position, rfl⟩, -⟩, -⟩ :=
          (eq_use_iff follows.expects called placeholder).mp rfl
        rfl
      have one :=
        Node.withoutComments_identifier (Name.normalize placeholder.text)
      have added :=
        @uncommented_add
          { builder with scopes := note placeholder builder.scopes } _ _
        builder.expects one (place begins)
      rw [perform, expects_add, added]
      rfl
  | enter enclosure position => rfl
  | leave frame =>
      obtain ⟨-, innermost, -⟩ := fits
      have remaining : (builder.uncommented builder.expects).frames.tail =
          builder.frames.tail.map Frame.uncommented := List.map_tail.symm
      have one :=
        Node.withoutComments_enclosure frame.enclosure (builder.scopes.headD [])
        frame.reversed.reverse
      rw [Node.allWithoutComments_reverse] at one
      have steady (scopes : List (List Placeholder)) :
          Node.Steady (siblings
            { builder with
              frames := builder.frames.tail, scopes := scopes }) := by
        rw [SteadyAround, outerLevels_leave scopes innermost,
          List.forall_mem_cons] at around
        exact around.1
      rw [perform, expects_add, uncommented_add builder.expects one (steady _)]
      simp only [Action.uncommented, perform, remaining]
      rfl

end Builder

/-! ## All tokens -/

/-- Comments part what is expected behind some tokens from what is expected
without them only where a comment was the last token. The name behind an
ampersand is never missing. -/
theorem Builder.expects_withoutComments {tokens : List Token}
    {builder : Builder}
    (accepted : feed Builder.read .start tokens = (builder, none)) :
    builder.expects = .behind (withoutComments tokens) ∨
      builder.expects = .value .plain ∧
        ∃ sign, Expectation.behind (withoutComments tokens) = .value sign := by
  refine feed_induction (motive := fun earlier current =>
    current.expects = .behind (withoutComments earlier) ∨
      current.expects = .value .plain ∧
      ∃ sign, Expectation.behind (withoutComments earlier) = .value sign)
          (.inl rfl) ?_ accepted
  intro earlier reached last next before expected taken
  have follows := follows_of_feed before
  rw [withoutComments_append, (follows.read taken).expects]
  by_cases isComment : last.kind = .comment
  · rw [withoutComments_comment isComment, List.append_nil,
      Expectation.behind_concat]
    refine .inr ⟨by simp [isComment, Lookback.ofKind], ?_⟩
    rcases expected with same | ⟨-, other⟩
    · rw [← same]
      obtain ⟨action, called, -⟩ := read_eq_ok_iff.mp taken
      cases waits : reached.expects with
      | name ampersand => simp [action?, waits, isComment] at called
      | value sign => exact ⟨sign, rfl⟩
    · exact other
  · rw [withoutComments_other isComment, Expectation.behind_concat,
      Expectation.behind_concat]
    exact .inl rfl

theorem Builder.behind_of_feed {tokens : List Token} {builder : Builder}
    (accepted : feed Builder.read .start tokens = (builder, none)) :
    behind tokens = builder := by
  rw [behind, accepted]

/-- What a builder is like that took these tokens, told by what is left without
the comments. -/
structure Builder.Parallels (builder : Builder) (tokens : List Token) :
    Prop where
  taken : feed Builder.read .start (withoutComments tokens) =
    (builder.uncommented (.behind (withoutComments tokens)), none)
  around : builder.SteadyAround

namespace Builder.Parallels

variable {builder next : Builder} {tokens : List Token} {token : Token}

theorem read_comment (parallels : builder.Parallels tokens)
    (follows : builder.Follows tokens)
    (accepted : builder.read token = .ok next)
    (isComment : token.kind = .comment) :
    next.Parallels (tokens ++ [token]) := by
  have same : withoutComments (tokens ++ [token]) = withoutComments tokens := by
    rw [withoutComments_append, withoutComments_comment isComment,
      List.append_nil]
  refine ⟨?_, parallels.around.read follows accepted
    (by simp [isComment, Token.Kind.beginsValue])⟩
  obtain ⟨action, called, rfl⟩ := read_eq_ok_iff.mp accepted
  rw [same, parallels.taken, action?_of_comment called isComment, perform,
    uncommented_add_comment]

/-- A sign that is parted from the token by comments does not bear on it. -/
theorem action?_behind
    (accepted : feed Builder.read .start tokens = (builder, none))
    (alike : ReadsAlike tokens token) :
    (builder.uncommented (.behind (withoutComments tokens))).action? token =
      (builder.uncommented builder.expects).action? token := by
  have follows := follows_of_feed accepted
  rcases expects_withoutComments accepted with same | ⟨plain, sign, expected⟩
  · rw [same]
  · have behind : Lookback.behind (withoutComments tokens) = sign :=
      Lookback.behind_of_expectation expected
    have direct : Lookback.behind tokens = .plain :=
      Lookback.behind_of_expectation (follows.expects.symm.trans plain)
    have ignores : token.heeds sign = false := by
      rw [Bool.eq_false_iff]
      intro heeds
      have parted := alike.sign (behind.symm ▸ heeds)
      rw [direct, behind] at parted
      subst parted
      cases heeds
    rw [expected, plain]
    exact @action?_of_not_heeds (builder.uncommented (.value sign)) _ _ ignores

theorem read_other (parallels : builder.Parallels tokens)
    (before : feed Builder.read .start tokens = (builder, none))
    (accepted : builder.read token = .ok next)
    (noComment : token.kind ≠ .comment) (alike : ReadsAlike tokens token) :
    next.Parallels (tokens ++ [token]) := by
  have follows := follows_of_feed before
  have place : token.kind.beginsValue = true → Node.Steady builder.siblings :=
    behind_of_feed before ▸ alike.place
  have longer : withoutComments (tokens ++ [token]) =
      withoutComments tokens ++ [token] := by
    rw [withoutComments_append, withoutComments_other noComment]
  have expects :
      next.expects = .behind (withoutComments tokens ++ [token]) := by
    rw [(follows.read accepted).expects, Expectation.behind_concat,
      Expectation.behind_concat]
  refine ⟨?_, parallels.around.read follows accepted place⟩
  rw [longer, feed_append_eq_none_iff]
  refine ⟨_, parallels.taken, ?_⟩
  rw [feed_singleton_eq_none_iff, ← expects]
  have taken :=
    read_uncommented follows accepted noComment parallels.around place
  obtain ⟨action, called, performed⟩ := read_eq_ok_iff.mp taken
  refine read_eq_ok_iff.mpr ⟨action,
    (action?_behind before alike).trans called, ?_⟩
  exact (perform_expects (builder.uncommented builder.expects) _ action).trans
    performed

end Builder.Parallels

/-- The builder of the tokens without comments keeps in step as long as every
comment stands apart. -/
theorem Builder.parallels_of_feed {tokens : List Token} {builder : Builder}
    (accepted : feed Builder.read .start tokens = (builder, none))
    (apart : CommentsApart [] tokens) : builder.Parallels tokens := by
  refine feed_induction (motive := fun earlier current =>
    CommentsApart [] earlier →
    current.Parallels earlier) (fun _ => ⟨rfl, nofun⟩) ?_ accepted apart
  intro earlier reached last next before parallels taken apart
  obtain ⟨earlierApart, lastApart⟩ :=
    (commentsApart_append_iff [] earlier [last]).mp apart
  have alike := (commentsApart_singleton_iff earlier last).mp lastApart
  by_cases isComment : last.kind = .comment
  · exact (parallels earlierApart).read_comment (follows_of_feed before) taken
      isComment
  · exact (parallels earlierApart).read_other before taken isComment alike

/-- Where every token is read alike without the comments, the trees are the
same but for the comments in them. -/
theorem read_withoutComments_of_apart {tokens : List Token} {nodes : List Node}
    (success : read tokens = .ok nodes) (apart : CommentsApart [] tokens) :
    read (withoutComments tokens) = .ok (Node.allWithoutComments nodes) := by
  obtain ⟨before, scopes, accepted⟩ := exists_top_of_read success
  have parallels := Builder.parallels_of_feed accepted apart
  have waits :
      ∃ sign, Expectation.behind (withoutComments tokens) = .value sign := by
    rcases Builder.expects_withoutComments accepted with same | ⟨-, other⟩
    · exact ⟨before, same.symm⟩
    · exact other
  obtain ⟨sign, waits⟩ := waits
  rw [read_of_feed parallels.taken]
  simp [Builder.finish, Builder.uncommented, waits]

theorem exists_of_withoutComments_eq {tokens before after : List Token}
    {token : Token}
    (split : withoutComments tokens = before ++ token :: after) :
    ∃ earlier later, tokens = earlier ++ token :: later ∧
      withoutComments earlier = before ∧
      withoutComments later = after := by
  obtain ⟨front, rest, rfl, rfl, isRest⟩ := List.filter_eq_append_iff.mp split
  obtain ⟨skipped, later, rfl, noneKept, -, rfl⟩ :=
    List.filter_eq_cons_iff.mp isRest
  refine ⟨front ++ skipped, later, by simp, ?_, rfl⟩
  rw [withoutComments_append]
  have nothing : withoutComments skipped = [] :=
    List.filter_eq_nil_iff.mpr noneKept
  rw [nothing, List.append_nil]
  rfl

@[simp]
theorem openers_withoutComments (tokens : List Token) :
    openers (withoutComments tokens) = openers tokens := by
  rw [openers, withoutComments, List.countP_filter]
  apply List.countP_congr
  intro token _
  cases token.kind <;> simp [Token.Kind.opening?]

@[simp]
theorem closers_withoutComments (tokens : List Token) :
    closers (withoutComments tokens) = closers tokens := by
  rw [closers, withoutComments, List.countP_filter]
  apply List.countP_congr
  intro token _
  cases token.kind <;> simp

theorem StaysOpen.withoutComments {later : List Token}
    (stays : StaysOpen later) :
    StaysOpen (withoutComments later) := by
  rintro part ⟨rest, split⟩
  obtain ⟨front, behind, rfl, rfl, -⟩ := List.filter_eq_append_iff.mp split.symm
  have bounded := stays front (List.prefix_append _ _)
  rwa [← openers_withoutComments, ← closers_withoutComments] at bounded

theorem getLast?_withoutComments {tokens : List Token} {kind : Token.Kind}
    (last : tokens.getLast?.map Token.kind = some kind)
    (noComment : kind ≠ .comment) :
    (withoutComments tokens).getLast?.map Token.kind = some kind := by
  obtain ⟨token, isLast, rfl⟩ := Option.map_eq_some_iff.mp last
  obtain ⟨earlier, rfl⟩ := List.getLast?_eq_some_iff.mp isLast
  rw [withoutComments_append, withoutComments_other noComment]
  simp

theorem InFunction.withoutComments {tokens : List Token}
    (inFunction : InFunction tokens) :
    InFunction (withoutComments tokens) := by
  obtain ⟨before, opener, after, rfl, sign, paren, stays⟩ := inFunction
  have noComment : opener.kind ≠ .comment := by simp [paren]
  refine ⟨_, opener, _, ?_, getLast?_withoutComments sign nofun, paren,
    stays.withoutComments⟩
  rw [withoutComments_append, List.append_cancel_left_eq]
  exact List.filter_cons_of_pos (by simpa using noComment)

/-- A name that is missing without the comments is missing with them, since no
comment is a name. -/
theorem name?_withoutComments {after : List Token}
    (unnamed : Descent.name? (withoutComments after) = none) :
    Descent.name? after = none := by
  cases after with
  | nil => rfl
  | cons token rest =>
      obtain ⟨kind, text, position⟩ := token
      cases kind with
      | symbol =>
          cases text with
          | none => rfl
          | some name =>
              rw [withoutComments, List.filter_cons_of_pos (by simp)] at unnamed
              cases unnamed
      | _ => rfl

theorem Token.Fault.of_withoutComments {before after : List Token}
    {token : Token} {error : ReadError}
    (fault : token.Fault (withoutComments before) (withoutComments after)
      error) :
    token.Fault before after error := by
  cases fault with
  | ampersand unnamed => exact .ampersand (name?_withoutComments unnamed)
  | closer balanced => exact .closer (by simpa using balanced)
  | argument isArgument notName outside =>
      refine .argument isArgument ?_ ?_
      · exact fun isRest => notName (getLast?_withoutComments isRest nofun)
      · exact fun inFunction => outside inFunction.withoutComments

/-- Tokens that can be read can be read without the comments among them. -/
theorem exists_read_withoutComments {tokens : List Token} {nodes : List Node}
    (success : read tokens = .ok nodes) :
    ∃ others, read (withoutComments tokens) = .ok others := by
  obtain ⟨faultless, balanced⟩ := (read_outcome tokens).2.mp ⟨nodes, success⟩
  refine (read_outcome _).2.mpr ⟨?_, by simpa using balanced⟩
  rintro index error ⟨token, here, fault⟩
  have split : withoutComments tokens =
      (withoutComments tokens).take index ++ token ::
        (withoutComments tokens).drop (index + 1) := by
    obtain ⟨bounded, rfl⟩ := List.getElem?_eq_some_iff.mp here
    simp
  obtain ⟨earlier, later, rfl, isBefore, isBehind⟩ :=
    exists_of_withoutComments_eq split
  rw [← isBefore, ← isBehind] at fault
  exact faultless earlier.length error ⟨token, by
    simp, by simpa using fault.of_withoutComments⟩

end LispReader
