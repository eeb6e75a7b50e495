import LispReader.Proofs.Node.Everywhere
import LispReader.Proofs.Placeholder
import LispReader.Reading

/-!
# Building as a function of the rest of the tokens

What comes of the tokens still to be read depends only on the builder that
reads them. `Builder.run` is that function. Values that are added one after the
other change one sequence of siblings only, and `Node.attachAll` says how.
`Throughout` is for what all sequences of siblings have that a builder holds.
-/

namespace LispReader

namespace Node

/-- Adds values in order to a sequence of nodes that is held newest first. -/
def attachAll (values siblings : List Node) : List Node :=
  values.foldl (fun reached value => value.attach reached) siblings

@[simp]
theorem attachAll_nil (siblings : List Node) :
    attachAll [] siblings = siblings := rfl

@[simp]
theorem attachAll_cons (value : Node) (rest siblings : List Node) :
    attachAll (value :: rest) siblings =
      attachAll rest (value.attach siblings) := rfl

/-- The sequence of siblings that values make when they are added in order,
oldest first. -/
def arrange (values : List Node) : List Node :=
  (attachAll values []).reverse

theorem attachAll_of_settled {values siblings : List Node}
    (settled : Settled values)
    (ready : ∀ newest ∈ siblings.head?, newest.isWaiting = false) :
    attachAll values siblings = values.reverse ++ siblings := by
  induction values generalizing siblings with
  | nil => rfl
  | cons value rest inductionHypothesis =>
      rw [attachAll_cons, attach_of_not_waiting value ready]
      cases rest with
      | nil => rfl
      | cons next others =>
          obtain ⟨valueReady, restSettled⟩ :=
            (settled_cons_cons value next others).mp settled
          rw [inductionHypothesis restSettled (by simpa using valueReady)]
          simp

theorem arrange_of_settled {values : List Node} (settled : Settled values) :
    arrange values = values := by
  have apart : attachAll values [] = values.reverse ++ [] :=
    attachAll_of_settled settled (by simp)
  rw [arrange, apart, List.append_nil, List.reverse_reverse]

end Node

theorem Numeral.node_of_point {numeral : Numeral}
    (point : numeral.fraction? ≠ none) (text : String) :
    numeral.node text = .float numeral.nearest text := by
  obtain ⟨fraction, isFraction⟩ := Option.ne_none_iff_exists'.mp point
  rw [Numeral.node, isFraction]

theorem Numeral.node_of_no_point {numeral : Numeral}
    (noPoint : numeral.fraction? = none) (text : String) :
    numeral.node text = .integer numeral.integerValue text := by
  rw [Numeral.node, noPoint]

namespace Word

theorem ofText_of_writtenAs {text : String} {numeral : Numeral}
    (writing : numeral.WrittenAs text.toList) :
    ofText text = .leaf (numeral.node text) := by
  rw [ofText, Numeral.ofChars?_of_writtenAs writing]

theorem ofText_of_name {text : String}
    (notNumeral : ∀ numeral : Numeral, ¬ numeral.WrittenAs text.toList)
    (notPlaceholder : Placeholder.ofText? text = none) :
    ofText text = .leaf (.ofName text) := by
  rw [ofText, (Numeral.ofChars?_eq_none_iff _).mpr notNumeral, notPlaceholder]

/-- A symbol is a numeral, a placeholder or a name. -/
theorem ofText_cases (text : String) :
    (∃ numeral : Numeral, numeral.WrittenAs text.toList ∧
      ofText text = .leaf (numeral.node text)) ∨
    (∃ placeholder, Placeholder.ofText? text = some placeholder ∧
      ofText text = .argument placeholder) ∨
    (∀ numeral : Numeral, ¬ numeral.WrittenAs text.toList) ∧
      Placeholder.ofText? text = none ∧ ofText text = .leaf (.ofName text) := by
  by_cases isNumeral : ∃ numeral : Numeral, numeral.WrittenAs text.toList
  · obtain ⟨numeral, writing⟩ := isNumeral
    exact .inl ⟨numeral, writing, ofText_of_writtenAs writing⟩
  · have notNumeral := not_exists.mp isNumeral
    cases found : Placeholder.ofText? text with
    | some placeholder =>
        refine .inr (.inl ⟨placeholder, rfl, ?_⟩)
        rw [ofText, (Numeral.ofChars?_eq_none_iff _).mpr notNumeral, found]
    | none =>
        exact .inr (.inr ⟨notNumeral, rfl, ofText_of_name notNumeral found⟩)

/-- No numeral is a placeholder, so it does not matter that numerals are tried
first. -/
theorem ofText_eq_argument_iff_ofText? (text : String)
    (placeholder : Placeholder) :
    ofText text = .argument placeholder ↔
      Placeholder.ofText? text = some placeholder := by
  constructor
  · intro word
    rcases ofText_cases text with
      ⟨_, -, reads⟩ | ⟨other, found, reads⟩ | ⟨-, -, reads⟩
    · rw [reads] at word
      cases word
    · rw [reads] at word
      cases word
      exact found
    · rw [reads] at word
      cases word
  · intro found
    obtain ⟨rfl, -⟩ := (Placeholder.ofText?_eq_some_iff _ _).mp found
    obtain ⟨digits, written, -⟩ := placeholder.exists_text
    have noNumeral : Numeral.ofChars? ('%' :: digits) = none := rfl
    simp [ofText, written, noNumeral, found]

/-- A symbol that reads as a node of its own is a number, a literal or a
name. -/
theorem kind_of_leaf {text : String} {node : Node}
    (word : ofText text = .leaf node) :
    node.children? = none ∧
      node.kind ∈ [Node.Kind.float, .integer, .literal, .identifier] := by
  rcases ofText_cases text with
    ⟨numeral, -, reads⟩ | ⟨_, -, reads⟩ | ⟨-, -, reads⟩
  · rw [reads] at word
    cases word
    unfold Numeral.node
    split <;> simp [Node.children?, Node.kind]
  · rw [reads] at word
    cases word
  · rw [reads] at word
    cases word
    unfold Node.ofName
    repeat' split
    all_goals simp [Node.children?, Node.kind]

end Word

namespace Builder

/-! ## The rest of the tokens -/

def run (builder : Builder) : List Token → Except ReadError (List Node)
  | [] => builder.finish
  | token :: rest =>
      match builder.read token with
      | .ok next => next.run rest
      | .error refused => .error refused

@[simp]
theorem run_nil (builder : Builder) : builder.run [] = builder.finish := rfl

theorem run_cons_of_ok {builder : Builder} {token : Token} {action : Action}
    (called : builder.action? token = .ok action) (rest : List Token) :
    builder.run (token :: rest) = (builder.perform action).run rest := by
  simp only [run, read, called]

theorem run_cons_of_error {builder : Builder} {token : Token}
    {refused : ReadError} (rejected : builder.action? token = .error refused)
    (rest : List Token) :
    builder.run (token :: rest) = .error refused := by
  simp only [run, read, rejected]

theorem exists_action_of_run {builder : Builder} {token : Token}
    {rest : List Token} {nodes : List Node}
    (success : builder.run (token :: rest) = .ok nodes) :
    ∃ action, builder.action? token = .ok action ∧
      (builder.perform action).run rest = .ok nodes := by
  cases called : builder.action? token with
  | error refused =>
      rw [run_cons_of_error called] at success
      cases success
  | ok action =>
      rw [run_cons_of_ok called] at success
      exact ⟨action, rfl, success⟩

/-- Which tokens call for an action, and for which one. -/
inductive Calls (builder : Builder) : Token → Action → Prop
  | name {ampersand position : Position} {name : String} :
      builder.expects = .name ampersand →
      Calls builder ⟨.symbol, some name, position⟩
        (.add (.rest (Name.normalize name)))
  | dispatch {before : Lookback} {text : Option String} {position : Position} :
      builder.expects = .value before →
      Calls builder ⟨.dispatch, text, position⟩ (.expect (.value .dispatch))
  | metadata {before : Lookback} {text : Option String} {position : Position} :
      builder.expects = .value before →
      Calls builder ⟨.metadata, text, position⟩ (.expect (.value .metadata))
  | rest {before : Lookback} {text : Option String} {position : Position} :
      builder.expects = .value before →
      Calls builder ⟨.rest, text, position⟩ (.expect (.name position))
  | comment {before : Lookback} {text : Option String} {position : Position} :
      builder.expects = .value before →
      Calls builder ⟨.comment, text, position⟩ (.add (.comment (text.getD "")))
  | quote {before : Lookback} {text : Option String} {position : Position} :
      builder.expects = .value before →
      Calls builder ⟨.quote, text, position⟩
        (.add (.list [.identifier "quote"]))
  | deref {before : Lookback} {text : Option String} {position : Position} :
      builder.expects = .value before →
      Calls builder ⟨.deref, text, position⟩
        (.add (.list [.identifier "deref"]))
  | keyword {before : Lookback} {text : Option String} {position : Position} :
      builder.expects = .value before →
      before ≠ .metadata →
      Calls builder ⟨.keyword, text, position⟩ (.add (.keyword (text.getD "")))
  | shorthand {text : Option String} {position : Position} :
      builder.expects = .value .metadata →
      Calls builder ⟨.keyword, text, position⟩
        (.add (.withMetadata
            (.map [.keyword (text.getD ""), .literal (.boolean true)])))
  | string {before : Lookback} {text : Option String} {position : Position} :
      builder.expects = .value before →
      before ≠ .dispatch →
      Calls builder ⟨.string, text, position⟩ (.add (.string (text.getD "")))
  | regexp {text : Option String} {position : Position} :
      builder.expects = .value .dispatch →
      Calls builder ⟨.string, text, position⟩ (.add (.regexp ⟨text.getD ""⟩))
  | leaf {before : Lookback} {text : Option String} {position : Position}
      {value : Node} :
      builder.expects = .value before →
      Word.ofText (text.getD "") = .leaf value →
      Calls builder ⟨.symbol, text, position⟩ (.add value)
  | argument {before : Lookback} {text : String} {position : Position}
      {placeholder : Placeholder} :
      builder.expects = .value before →
      Word.ofText text = .argument placeholder →
      builder.scopes ≠ [] →
      Calls builder ⟨.symbol, some text, position⟩ (.use placeholder)
  | openParen {before : Lookback} {text : Option String} {position : Position} :
      builder.expects = .value before →
      Calls builder ⟨.openParen, text, position⟩
        (.enter (.ofParen before) position)
  | openBracket {before : Lookback} {text : Option String}
      {position : Position} :
      builder.expects = .value before →
      Calls builder ⟨.openBracket, text, position⟩ (.enter .vector position)
  | openBrace {before : Lookback} {text : Option String} {position : Position} :
      builder.expects = .value before →
      Calls builder ⟨.openBrace, text, position⟩
        (.enter (.ofBrace before) position)
  | closer {before : Lookback} {text : Option String} {position : Position}
      {frame : Frame} :
      builder.expects = .value before →
      builder.frames.head? = some frame →
      Calls builder ⟨.closeDelimiter, text, position⟩ (.leave frame)

theorem calls_of_symbolAction? {builder : Builder} {before : Lookback}
    {text : Option String} {position : Position} {action : Action}
    (waits : builder.expects = .value before)
    (called : builder.symbolAction? (text.getD "") = .ok action) :
    builder.Calls ⟨.symbol, text, position⟩ action := by
  unfold symbolAction? at called
  cases word : Word.ofText (text.getD "") with
  | leaf value =>
      rw [word] at called
      cases called
      exact .leaf waits word
  | argument placeholder =>
      simp only [word, List.isEmpty_iff] at called
      split at called
      · cases called
      · rename_i inside
        cases called
        cases text with
        | none => cases word
        | some text => exact .argument waits word inside

/-- What a builder does with a token is one of the ways in which a token calls
for an action. -/
theorem calls_of_action? {builder : Builder} {token : Token} {action : Action}
    (called : builder.action? token = .ok action) :
    builder.Calls token action := by
  obtain ⟨kind, text, position⟩ := token
  cases waits : builder.expects with
  | name ampersand =>
      simp only [action?, waits] at called
      split at called
      · cases called
        exact .name waits
      · cases called
  | value before =>
      simp only [action?, waits, valueAction?] at called
      cases kind with
      | symbol => exact calls_of_symbolAction? waits called
      | closeDelimiter =>
          simp only [closeAction?] at called
          split at called
          · rename_i frame outer frames
            cases called
            exact .closer waits (by rw [frames, List.head?_cons])
          · cases called
      | keyword =>
          cases before with
          | metadata => cases called; exact .shorthand waits
          | plain | dispatch => cases called; exact .keyword waits nofun
      | string =>
          cases before with
          | dispatch => cases called; exact .regexp waits
          | plain | metadata => cases called; exact .string waits nofun
      | dispatch => cases called; exact .dispatch waits
      | metadata => cases called; exact .metadata waits
      | rest => cases called; exact .rest waits
      | comment => cases called; exact .comment waits
      | quote => cases called; exact .quote waits
      | deref => cases called; exact .deref waits
      | openParen => cases called; exact .openParen waits
      | openBracket => cases called; exact .openBracket waits
      | openBrace => cases called; exact .openBrace waits

/-- A token calls for an action in exactly these ways, on which later proofs
split. -/
theorem action?_eq_ok_iff {builder : Builder} {token : Token}
    {action : Action} :
    builder.action? token = .ok action ↔ builder.Calls token action := by
  refine ⟨calls_of_action?, fun calls => ?_⟩
  cases calls with
  | name waits | dispatch waits | metadata waits | rest waits | comment waits
    | quote waits
    | deref waits | shorthand waits | regexp waits | openParen waits
      | openBracket waits
    | openBrace waits => simp [action?, waits, valueAction?]
  | @keyword before _ _ waits notMarked =>
      cases before <;> simp [action?, waits, valueAction?] at notMarked ⊢
  | @string before _ _ waits notPattern =>
      cases before <;> simp [action?, waits, valueAction?] at notPattern ⊢
  | leaf waits word => simp [action?, waits, valueAction?, symbolAction?, word]
  | argument waits word inside =>
      simp [action?, waits, valueAction?, symbolAction?, word, inside]
  | closer waits innermost =>
      obtain ⟨outer, frames⟩ := List.head?_eq_some_iff.mp innermost
      simp [action?, waits, valueAction?, closeAction?, frames]

/-- A token that is taken calls for an action, and the action is carried out. -/
theorem read_eq_ok_iff {builder next : Builder} {token : Token} :
    builder.read token = .ok next ↔
      ∃ action, builder.action? token = .ok action ∧
        builder.perform action = next := by
  unfold read
  cases builder.action? token <;> simp

/-- The descent over the rest of the tokens is the fold over them with what can
be made of its end. -/
theorem run_eq_feed (builder : Builder) (tokens : List Token) :
    builder.run tokens =
      match feed Builder.read builder tokens with
      | (reached, none) => reached.finish
      | (_, some refused) => .error refused := by
  induction tokens generalizing builder with
  | nil => rfl
  | cons token rest inductionHypothesis =>
      cases outcome : builder.read token with
      | ok next =>
          rw [feed_cons_of_ok outcome, ← inductionHypothesis]
          simp only [run, outcome]
      | error refused =>
          rw [feed_cons_of_error outcome]
          simp only [run, outcome]

theorem run_append_of_feed {builder reached : Builder} {left : List Token}
    (accepted : feed Builder.read builder left = (reached, none))
    (right : List Token) :
    builder.run (left ++ right) = reached.run right := by
  rw [run_eq_feed, feed_append, accepted, run_eq_feed]

/-- A builder that reads all of some tokens takes each of them. -/
theorem exists_feed_of_run {builder : Builder} {left right : List Token}
    {nodes : List Node} (success : builder.run (left ++ right) = .ok nodes) :
    ∃ reached, feed Builder.read builder left = (reached, none) ∧
      reached.run right = .ok nodes := by
  rw [run_eq_feed, feed_append] at success
  rcases outcome : feed Builder.read builder left with ⟨reached, _ | refused⟩
  · rw [outcome] at success
    exact ⟨reached, rfl, by rw [run_eq_feed, ← success]⟩
  · rw [outcome] at success
    cases success

/-- When a change of builders agrees with every token and with the end, it
agrees with a run. -/
theorem run_of_respects {change : Builder → Builder} {relabel : Token → Token}
    {adjust : ReadError → ReadError}
    {outcome : Except ReadError (List Node) → Except ReadError (List Node)}
    (reads : ∀ builder token, (change builder).read (relabel token) =
      ((builder.read token).map change).mapError adjust)
    (finishes : ∀ builder, (change builder).finish = outcome builder.finish)
    (refuses : ∀ refused, outcome (.error refused) = .error (adjust refused))
    (builder : Builder) (tokens : List Token) :
    (change builder).run (tokens.map relabel) =
      outcome (builder.run tokens) := by
  induction tokens generalizing builder with
  | nil => exact finishes builder
  | cons token rest inductionHypothesis =>
      have first := reads builder token
      cases taken : builder.read token with
      | ok next =>
          rw [taken] at first
          simp only [List.map_cons, run, first, taken]
          exact inductionHypothesis next
      | error refused =>
          rw [taken] at first
          simp only [List.map_cons, run, first, taken]
          exact (refuses refused).symm

end Builder

theorem read_eq_run (tokens : List Token) :
    read tokens = Builder.start.run tokens :=
  (Builder.run_eq_feed Builder.start tokens).symm

theorem read_append_of_feed {tokens : List Token} {reached : Builder}
    (accepted : feed Builder.read .start tokens = (reached, none))
    (later : List Token) :
    read (tokens ++ later) = reached.run later := by
  rw [read_eq_run, Builder.run_append_of_feed accepted]

/-- What builders that took some tokens make alike of two continuations is read
alike behind these tokens. -/
theorem read_append_congr {tokens left right : List Token}
    (alike : ∀ reached, feed Builder.read .start tokens = (reached, none) →
      reached.run left = reached.run right) :
    read (tokens ++ left) = read (tokens ++ right) := by
  rcases outcome : feed Builder.read .start tokens with ⟨reached, _ | refused⟩
  · rw [read_append_of_feed outcome, read_append_of_feed outcome,
      alike reached outcome]
  · simp only [read, feed_append, outcome]

theorem read_of_feed {tokens : List Token} {reached : Builder}
    (accepted : feed Builder.read .start tokens = (reached, none)) :
    read tokens = reached.finish := by
  have whole := read_append_of_feed accepted []
  rwa [List.append_nil] at whole

theorem exists_feed_of_read {tokens later : List Token} {nodes : List Node}
    (success : read (tokens ++ later) = .ok nodes) :
    ∃ reached, feed Builder.read .start tokens = (reached, none) ∧
      reached.run later = .ok nodes := by
  rw [read_eq_run] at success
  exact Builder.exists_feed_of_run success

/-- Behind tokens that can be read, the nodes outside every collection are all
there are. -/
theorem exists_top_of_read {tokens : List Token} {nodes : List Node}
    (success : read tokens = .ok nodes) :
    ∃ sign scopes, feed Builder.read .start tokens =
      (⟨.value sign, nodes.reverse, [], scopes⟩, none) := by
  rw [← List.append_nil tokens] at success
  obtain ⟨⟨expects, top, frames, scopes⟩, accepted, finished⟩ :=
    exists_feed_of_read success
  rw [Builder.run_nil, Builder.finish] at finished
  cases expects with
  | name ampersand => cases finished
  | value sign =>
      cases frames with
      | cons frame outer => cases finished
      | nil =>
          cases finished
          exact ⟨sign, scopes, by rw [accepted, List.reverse_reverse]⟩

namespace Builder

/-! ## Adding values -/

def addAll (builder : Builder) (values : List Node) : Builder :=
  values.foldl add builder

@[simp]
theorem addAll_nil (builder : Builder) : builder.addAll [] = builder := rfl

@[simp]
theorem addAll_cons (builder : Builder) (value : Node) (rest : List Node) :
    builder.addAll (value :: rest) = (builder.add value).addAll rest := rfl

@[simp]
theorem expects_add (builder : Builder) (value : Node) :
    (builder.add value).expects = .value .plain := by
  unfold add
  split <;> rfl

@[simp]
theorem scopes_add (builder : Builder) (value : Node) :
    (builder.add value).scopes = builder.scopes := by
  unfold add
  split <;> rfl

@[simp]
theorem length_frames_add (builder : Builder) (value : Node) :
    (builder.add value).frames.length = builder.frames.length := by
  rcases builder with ⟨expects, top, frames, scopes⟩
  cases frames <;> rfl

theorem add_expects (builder : Builder) (expectation : Expectation)
    (value : Node) :
    add { builder with expects := expectation } value = builder.add value := by
  obtain ⟨expects, top, frames, scopes⟩ := builder
  cases frames <;> rfl

/-- Outside every collection values become siblings at the top. -/
theorem addAll_top (top values : List Node) (scopes : List (List Placeholder)) :
    addAll ⟨.value .plain, top, [], scopes⟩ values =
      ⟨.value .plain, Node.attachAll values top, [], scopes⟩ := by
  induction values generalizing top with
  | nil => rfl
  | cons value rest inductionHypothesis =>
      exact inductionHypothesis (value.attach top)

theorem finish_addAll_start {values : List Node}
    (settled : Node.Settled values) :
    (start.addAll values).finish = .ok values := by
  have apart : Node.attachAll values [] = values.reverse ++ [] :=
    Node.attachAll_of_settled settled (by simp)
  rw [start, addAll_top, apart, finish]
  simp

/-- Inside a collection values become siblings in the innermost one. -/
theorem addAll_frame (top values : List Node) (frame : Frame)
    (outer : List Frame) (scopes : List (List Placeholder)) :
    addAll ⟨.value .plain, top, frame :: outer, scopes⟩ values =
      ⟨.value .plain, top,
        { frame with reversed := Node.attachAll values frame.reversed } ::
          outer, scopes⟩ := by
  induction values generalizing frame with
  | nil => rfl
  | cons value rest inductionHypothesis =>
      exact inductionHypothesis
        { frame with reversed := value.attach frame.reversed }

/-- Whether something holds of the nodes read so far, newest first, outside of
all collections and in each one that is open. -/
structure Throughout (holds : List Node → Prop) (builder : Builder) : Prop where
  top : holds builder.top
  frames : ∀ frame ∈ builder.frames, holds frame.reversed

def Action.Adds : Action → Node → Prop
  | .add value, added => added = value
  | .use placeholder, added =>
      added = .identifier (Name.normalize placeholder.text)
  | .leave frame, added =>
      ∃ used, added = frame.enclosure.node used frame.reversed.reverse
  | .expect _, _ | .enter _ _, _ => False

variable {holds : List Node → Prop} {builder : Builder}

theorem Throughout.add (throughout : Throughout holds builder) {value : Node}
    (attached : ∀ siblings, holds siblings → holds (value.attach siblings)) :
    Throughout holds (builder.add value) := by
  obtain ⟨expects, top, frames, scopes⟩ := builder
  obtain ⟨atTop, inFrames⟩ := throughout
  cases frames with
  | nil => exact ⟨attached top atTop, inFrames⟩
  | cons frame outer =>
      obtain ⟨innermost, others⟩ := List.forall_mem_cons.mp inFrames
      exact ⟨atTop,
        List.forall_mem_cons.mpr ⟨attached frame.reversed innermost, others⟩⟩

/-- What holds at every level goes on to hold if it does of no nodes at all,
and of those to which a value that is added was attached. -/
theorem Throughout.perform (throughout : Throughout holds builder)
    (empty : holds []) {action : Action}
    (attached : ∀ value, action.Adds value → ∀ siblings, holds siblings →
      holds (value.attach siblings)) :
    Throughout holds (builder.perform action) := by
  obtain ⟨atTop, inFrames⟩ := throughout
  cases action with
  | expect expectation => exact ⟨atTop, inFrames⟩
  | add value =>
      have before : Throughout holds builder := ⟨atTop, inFrames⟩
      exact before.add (attached value rfl)
  | use placeholder =>
      have noted :
          Throughout holds
            { builder with scopes := note placeholder builder.scopes } :=
        ⟨atTop, inFrames⟩
      exact noted.add (attached _ rfl)
  | enter enclosure position =>
      exact ⟨atTop, List.forall_mem_cons.mpr ⟨empty, inFrames⟩⟩
  | leave frame =>
      have popped (scopes : List (List Placeholder)) :
          Throughout holds
            { builder with frames := builder.frames.tail, scopes := scopes } :=
        ⟨atTop,
            fun other member => inFrames other (List.mem_of_mem_tail member)⟩
      exact (popped _).add (attached _ ⟨_, rfl⟩)

end Builder

end LispReader
