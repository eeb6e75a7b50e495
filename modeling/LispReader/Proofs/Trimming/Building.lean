import LispReader.Proofs.Building.Run
import LispReader.Proofs.Trimming.Scanning

/-!
# Trees of trimmed lines

Tokens that are alike are built into trees that are alike. Two builders stay in
step: each token calls for actions that are alike, and these keep the builders
alike. Main statement: `parse_trimEnd`.
-/

namespace LispReader

/-- Whether a node is another one. The texts of strings, the sources of
patterns and the texts of comments need only be related. -/
inductive Node.Alike (strings comments : List Char → List Char → Prop) :
    Node → Node → Prop
  | collection (shape : Shape) {items others : List Node} :
      List.Forall₂ (Alike strings comments) items others →
      Alike strings comments (.collection shape items)
        (.collection shape others)
  | string {text left : String} :
      strings text.toList left.toList →
        Alike strings comments (.string text) (.string left)
  | regexp {source left : String} :
      strings source.toList left.toList →
        Alike strings comments (.regexp ⟨source⟩) (.regexp ⟨left⟩)
  | comment {text left : String} :
      comments text.toList left.toList →
        Alike strings comments (.comment text) (.comment left)
  | leaf {node : Node} :
      node.children? = none → node.kind ≠ .string → node.kind ≠ .regexp →
        node.kind ≠ .comment →
      Alike strings comments node node

section Alike

variable {strings comments : List Char → List Char → Prop}

namespace Node

theorem alike_identifier (name : String) :
    Alike strings comments (.identifier name) (.identifier name) :=
  .leaf rfl nofun nofun nofun

theorem alike_of_symbol {text : String} {node : Node}
    (word : Word.ofText text = .leaf node) :
    Alike strings comments node node := by
  obtain ⟨isLeaf, kind⟩ := Word.kind_of_leaf word
  refine .leaf isLeaf ?_ ?_ ?_
  all_goals
    intro same
    rw [same] at kind
    revert kind
    decide

/-- A list waits by its first item, when it has one item or two, and nodes that
are alike wait alike. -/
theorem Alike.isWaiting {node other : Node}
    (alike : Alike strings comments node other) :
    node.isWaiting = other.isWaiting := by
  cases alike with
  | collection shape items =>
      cases shape with
      | list =>
          cases items with
          | nil => rfl
          | @cons first _ _ _ firsts others =>
              rcases others with _ | ⟨second, _ | ⟨third, more⟩⟩
              all_goals cases first <;> cases firsts <;> rfl
      | _ => rfl
  | _ => rfl

theorem Alike.fill {waiting other value otherValue : Node}
    (alike : Alike strings comments waiting other)
    (values : Alike strings comments value otherValue) :
    Alike strings comments (waiting.fill value) (other.fill otherValue) := by
  cases alike with
  | collection shape items =>
      have same := Alike.collection shape items
      cases shape with
      | list =>
          cases items with
          | nil => exact same
          | cons first others =>
              cases others with
              | nil => exact .collection .list (.cons first (.cons values .nil))
              | cons second more =>
                  cases more with
                  | nil =>
                      exact .collection .list
                        (.cons first (.cons values (.cons second .nil)))
                  | cons _ _ => exact same
      | _ => exact same
  | string texts => exact .string texts
  | regexp sources => exact .regexp sources
  | comment texts => exact .comment texts
  | leaf isLeaf noString noRegexp noComment =>
      cases waiting with
      | collection shape items => cases isLeaf
      | _ => exact .leaf isLeaf noString noRegexp noComment

theorem Alike.attach {value otherValue : Node} {siblings others : List Node}
    (values : Alike strings comments value otherValue)
    (alike : List.Forall₂ (Alike strings comments) siblings others) :
    List.Forall₂ (Alike strings comments) (value.attach siblings)
      (otherValue.attach others) := by
  cases alike with
  | nil => exact .cons values .nil
  | cons newest older =>
      simp only [Node.attach, newest.isWaiting]
      split
      · exact .cons (newest.fill values) older
      · exact .cons values (.cons newest older)

theorem Alike.withMetadata {metadata other : Node}
    (alike : Alike strings comments metadata other) :
    Alike strings comments (.withMetadata metadata) (.withMetadata other) :=
  .collection .list (.cons (alike_identifier _) (.cons alike .nil))

end Node

theorem Enclosure.node_alike (enclosure : Enclosure) (used : List Placeholder)
    {items others : List Node}
    (alike : List.Forall₂ (Node.Alike strings comments) items others) :
    Node.Alike strings comments (enclosure.node used items)
      (enclosure.node used others) := by
  cases enclosure with
  | anonymousFunction =>
      refine .collection .list
        (.cons (Node.alike_identifier _) (.cons ?_ (.cons ?_ .nil)))
      · refine .collection .vector ?_
        rw [List.forall₂_map_left_iff, List.forall₂_map_right_iff]
        exact List.forall₂_same.mpr fun placeholder _ => Node.alike_identifier _
      · exact .collection .list alike
  | metadataMap => exact (Node.Alike.collection .map alike).withMetadata
  | list | vector | map | set => exact .collection _ alike

namespace Builder

/-! ## Builders in step -/

/-- Whether two builders expect the same, wherever it was called for. -/
inductive ExpectsAlike : Expectation → Expectation → Prop
  | value (before : Lookback) : ExpectsAlike (.value before) (.value before)
  | name (ampersand other : Position) :
      ExpectsAlike (.name ampersand) (.name other)

structure FramesAlike (strings comments : List Char → List Char → Prop)
    (frame other : Frame) :
    Prop where
  enclosure : frame.enclosure = other.enclosure
  reversed :
    List.Forall₂ (Node.Alike strings comments) frame.reversed other.reversed

structure Alike (strings comments : List Char → List Char → Prop)
    (builder other : Builder) :
    Prop where
  expects : ExpectsAlike builder.expects other.expects
  top : List.Forall₂ (Node.Alike strings comments) builder.top other.top
  frames :
    List.Forall₂ (FramesAlike strings comments) builder.frames other.frames
  scopes : builder.scopes = other.scopes

inductive Action.Alike (strings comments : List Char → List Char → Prop) :
    Action → Action → Prop
  | expect {expectation other : Expectation} :
      ExpectsAlike expectation other →
        Alike strings comments (.expect expectation) (.expect other)
  | add {value other : Node} :
      Node.Alike strings comments value other →
        Alike strings comments (.add value) (.add other)
  | use (placeholder : Placeholder) :
      Alike strings comments (.use placeholder) (.use placeholder)
  | enter (enclosure : Enclosure) (position other : Position) :
      Alike strings comments (.enter enclosure position)
        (.enter enclosure other)
  | leave {frame other : Frame} :
      FramesAlike strings comments frame other →
        Alike strings comments (.leave frame) (.leave other)

variable {builder other : Builder}

theorem alike_start : Alike strings comments start start :=
  ⟨.value .plain, .nil, .nil, rfl⟩

theorem Alike.add {value otherValue : Node}
    (alike : Alike strings comments builder other)
    (values : Node.Alike strings comments value otherValue) :
    Alike strings comments (builder.add value) (other.add otherValue) := by
  obtain ⟨expects, top, frames, scopes⟩ := builder
  obtain ⟨otherExpects, otherTop, otherFrames, otherScopes⟩ := other
  obtain ⟨-, tops, framesAlike, rfl⟩ := alike
  cases framesAlike with
  | nil => exact ⟨.value .plain, values.attach tops, .nil, rfl⟩
  | cons innermost outer =>
      have longer := values.attach innermost.reversed
      exact ⟨.value .plain, tops,
        .cons ⟨innermost.enclosure, longer⟩ outer, rfl⟩

/-- Builders that are alike stay so when they do alike. -/
theorem Alike.perform {action otherAction : Action}
    (alike : Alike strings comments builder other)
    (actions : Action.Alike strings comments action otherAction) :
    Alike strings comments (builder.perform action)
      (other.perform otherAction) := by
  cases actions with
  | expect expects => exact ⟨expects, alike.top, alike.frames, alike.scopes⟩
  | add values => exact alike.add values
  | use placeholder =>
      refine Alike.add ⟨alike.expects, alike.top, alike.frames, ?_⟩
        (Node.alike_identifier _)
      exact congrArg (note placeholder) alike.scopes
  | enter enclosure position otherPosition =>
      refine ⟨.value .plain, alike.top, .cons ⟨rfl, .nil⟩ alike.frames, ?_⟩
      simp only [Builder.perform, alike.scopes]
  | leave innermost =>
      obtain ⟨expects, top, frames, scopes⟩ := builder
      obtain ⟨otherExpects, otherTop, otherFrames, otherScopes⟩ := other
      obtain ⟨expectsAlike, tops, framesAlike, rfl⟩ := alike
      have outer :
          List.Forall₂ (FramesAlike strings comments) frames.tail
            otherFrames.tail := by
        cases framesAlike with
        | nil => exact .nil
        | cons _ outer => exact outer
      simp only [Builder.perform, innermost.enclosure]
      refine Alike.add ⟨expectsAlike, tops, outer, rfl⟩ ?_
      exact Enclosure.node_alike _ _ (List.rel_reverse innermost.reversed)

theorem Alike.symbolAction? (alike : Alike strings comments builder other)
    (text : String) :
    OutcomeAlike (Action.Alike strings comments) (builder.symbolAction? text)
      (other.symbolAction? text) := by
  unfold Builder.symbolAction?
  rw [alike.scopes]
  cases word : Word.ofText text with
  | leaf value => exact .ok (.add (Node.alike_of_symbol word))
  | argument placeholder =>
      dsimp only
      split
      · exact .final _ rfl
      · exact .ok (.use placeholder)

theorem Alike.closeAction? (alike : Alike strings comments builder other)
    (text : String) (position otherPosition : Position) :
    OutcomeAlike (Action.Alike strings comments)
      (builder.closeAction? text position)
      (other.closeAction? text otherPosition) := by
  obtain ⟨expects, top, frames, scopes⟩ := builder
  obtain ⟨otherExpects, otherTop, otherFrames, otherScopes⟩ := other
  obtain ⟨-, -, framesAlike, -⟩ := alike
  cases framesAlike with
  | nil => exact .final _ (by simp [ReadError.isIncomplete])
  | cons innermost outer => exact .ok (.leave innermost)

theorem Alike.valueAction? {token otherToken : Token}
    (alike : Alike strings comments builder other) (before : Lookback)
    (tokens : Token.Alike strings comments token otherToken) :
    OutcomeAlike (Action.Alike strings comments)
      (builder.valueAction? before token)
      (other.valueAction? before otherToken) := by
  cases tokens with
  | string position otherPosition texts =>
      cases before with
      | dispatch => exact .ok (.add (.regexp (by simpa using texts)))
      | plain | metadata => exact .ok (.add (.string (by simpa using texts)))
  | comment position otherPosition texts =>
      exact .ok (.add (.comment (by simpa using texts)))
  | @other kind text position otherPosition noString noComment =>
      cases kind with
      | dispatch | metadata => exact .ok (.expect (.value _))
      | rest => exact .ok (.expect (.name _ _))
      | quote | deref =>
          exact .ok
            (.add (.collection .list (.cons (Node.alike_identifier _) .nil)))
      | keyword =>
          have keyword (name : String) :
              Node.Alike strings comments (.keyword name) (.keyword name) :=
            .leaf rfl nofun nofun nofun
          cases before with
          | metadata =>
              have isTrue :
                  Node.Alike strings comments (.literal (.boolean true))
                  (.literal (.boolean true)) := .leaf rfl nofun nofun nofun
              have marked := Node.Alike.collection .map
                (.cons (keyword (text.getD "")) (.cons isTrue .nil))
              exact .ok (.add marked.withMetadata)
          | plain | dispatch => exact .ok (.add (keyword _))
      | symbol => exact alike.symbolAction? _
      | openParen | openBracket | openBrace => exact .ok (.enter _ _ _)
      | closeDelimiter => exact alike.closeAction? _ _ _
      | string => exact absurd rfl noString
      | comment => exact absurd rfl noComment

theorem Alike.action? {token otherToken : Token}
    (alike : Alike strings comments builder other)
    (tokens : Token.Alike strings comments token otherToken) :
    OutcomeAlike (Action.Alike strings comments) (builder.action? token)
      (other.action? otherToken) := by
  have called (before : Lookback) := alike.valueAction? before tokens
  have expects := alike.expects
  unfold Builder.action?
  revert expects
  generalize builder.expects = expectation
  generalize other.expects = otherExpectation
  intro expects
  cases expects with
  | value before => exact called before
  | name ampersand otherAmpersand =>
      have refused :
          (ReadError.invalidCharacter '&' .expression ampersand).isIncomplete =
            false :=
        rfl
      cases tokens with
      | string | comment => exact .final _ refused
      | @other kind text position otherPosition noString noComment =>
          dsimp only
          split
          · exact .ok (.add (.leaf rfl nofun nofun nofun))
          · exact .final _ refused

theorem Alike.finish (alike : Alike strings comments builder other) :
    OutcomeAlike (List.Forall₂ (Node.Alike strings comments)) builder.finish
      other.finish := by
  obtain ⟨expects, top, frames, scopes⟩ := builder
  obtain ⟨otherExpects, otherTop, otherFrames, otherScopes⟩ := other
  obtain ⟨expectsAlike, tops, framesAlike, -⟩ := alike
  cases expectsAlike with
  | name ampersand otherAmpersand => exact .final _ rfl
  | value before =>
      cases framesAlike with
      | nil => exact .ok (List.rel_reverse tops)
      | cons innermost outer => exact .incomplete rfl rfl

/-- Builders that are alike make alike of tokens that are alike. -/
theorem Alike.run {tokens others : List Token}
    (alike : Alike strings comments builder other)
    (tokensAlike : List.Forall₂ (Token.Alike strings comments) tokens others) :
    OutcomeAlike (List.Forall₂ (Node.Alike strings comments))
      (builder.run tokens)
      (other.run others) := by
  induction tokensAlike generalizing builder other with
  | nil => exact alike.finish
  | @cons token otherToken rest otherRest first _ inductionHypothesis =>
      have outcome := alike.action? first
      generalize called : builder.action? token = action at outcome
      generalize otherCalled : other.action? otherToken = otherAction at outcome
      cases outcome with
      | ok actions =>
          rw [run_cons_of_ok called, run_cons_of_ok otherCalled]
          exact inductionHypothesis (alike.perform actions)
      | incomplete error otherError =>
          rw [run_cons_of_error called, run_cons_of_error otherCalled]
          exact .incomplete error otherError
      | final _ final =>
          rw [run_cons_of_error called]
          exact .final _ final

end Builder

/-- A text is read alike when its lines are trimmed, but for what the strokes
lose. -/
theorem parse_trimEnd {lines : List String} {strokes : List Text.Stroke}
    {last : List Char} (written : Text.Written lines strokes last)
    (relates : Scanner.Relates strokes strings comments) :
    OutcomeAlike (List.Forall₂ (Node.Alike strings comments))
      (parse (Text.joinLines lines))
      (parse (Text.joinLines (lines.map Text.trimEnd))) := by
  have outcome := tokenize_trimEnd written relates
  unfold parse
  generalize tokenize (Text.joinLines lines) = tokens at outcome
  generalize tokenize (Text.joinLines (lines.map Text.trimEnd)) =
    others at outcome
  cases outcome with
  | ok tokensAlike =>
      dsimp only
      rw [read_eq_run, read_eq_run]
      exact Builder.alike_start.run tokensAlike
  | incomplete error otherError => exact .incomplete error otherError
  | final _ final => exact .final _ final

end Alike

end LispReader
