import LispReader.Proofs.Building.Run
import LispReader.Proofs.Placeholder

/-!
# Building by descent

A second way to build trees, without a stack: the values of a sequence are read
up to its closing delimiter, and an opening delimiter reads a sequence of its
own before the values go on. What the placeholders in a sequence are is told to
whoever asked for it. Main statement: the builder makes of every list of tokens
what the descent makes of it, errors included.
-/

namespace LispReader

namespace Descent

structure Opening where
  enclosure : Enclosure
  position : Position

/-- A sequence that was read from the front of some tokens: its values, the
placeholders that are used in it outside every nested anonymous function, and
the tokens that are left. -/
structure Passage (tokens : List Token) where
  values : List Node
  used : List Placeholder
  remaining : List Token
  remaining_le : remaining.length ≤ tokens.length

namespace Passage

variable {tokens : List Token}

def widen (passage : Passage tokens) {whole : List Token}
    (fewer : tokens.length ≤ whole.length) :
    Passage whole :=
  ⟨passage.values, passage.used, passage.remaining,
      Nat.le_trans passage.remaining_le fewer⟩

def cons (value : Node) (used : List Placeholder) (passage : Passage tokens)
    {whole : List Token} (fewer : tokens.length ≤ whole.length) :
    Passage whole :=
  ⟨value :: passage.values, used ++ passage.used, passage.remaining,
    Nat.le_trans passage.remaining_le fewer⟩

end Passage

theorem tail_le (token : Token) (rest : List Token) :
    rest.tail.length ≤ (token :: rest).length := by
  rw [List.length_tail, List.length_cons]
  omega

inductive Role where
  | sign (before : Lookback)
  | value (node : Node) (used : List Placeholder)
  | opener (enclosure : Enclosure)
  | closer
  | ampersand

/-- The role of a symbol. It may be a placeholder only inside an anonymous
function. -/
def symbolRole (inFunction : Bool) (text : String) : Except ReadError Role :=
  match Word.ofText text with
  | .leaf node => .ok (.value node [])
  | .argument placeholder =>
      if inFunction then
        .ok
          (.value (.identifier (Name.normalize placeholder.text)) [placeholder])
      else
        .error (.notAnonymousFunction text)

def role (inFunction : Bool) (before : Lookback) (token : Token) :
    Except ReadError Role :=
  let text := token.text.getD ""
  match token.kind with
  | .dispatch => .ok (.sign .dispatch)
  | .metadata => .ok (.sign .metadata)
  | .rest => .ok .ampersand
  | .openParen =>
      .ok (.opener (if before = .dispatch then .anonymousFunction else .list))
  | .openBracket => .ok (.opener .vector)
  | .openBrace =>
      .ok (.opener
        (if before = .dispatch then .set
            else if before = .metadata then .metadataMap else .map))
  | .closeDelimiter => .ok .closer
  | .comment => .ok (.value (.comment text) [])
  | .quote => .ok (.value (.list [.identifier "quote"]) [])
  | .deref => .ok (.value (.list [.identifier "deref"]) [])
  | .keyword =>
      let keyword := Node.keyword text
      let shorthand :=
        Node.withMetadata (.map [keyword, .literal (.boolean true)])
      .ok (.value (if before = .metadata then shorthand else keyword) [])
  | .string =>
      .ok (.value (if before = .dispatch then .regexp ⟨text⟩
          else .string text) [])
  | .symbol => symbolRole inFunction text

/-- The name that the first of some tokens gives to an ampersand in front of
them. -/
def name? : List Token → Option String
  | ⟨.symbol, some name, _⟩ :: _ => some name
  | _ => none

/-- A sequence at the end of the tokens. Only the outermost one may end
there. -/
def ending (inside? : Option Opening) : Except ReadError (Passage []) :=
  match inside? with
  | none => .ok ⟨[], [], [], Nat.le_refl _⟩
  | some opening => .error (.unclosed opening.enclosure.opener opening.position)

/-- A sequence at a closing delimiter. Only the outermost one cannot end
there. -/
def closing (inside? : Option Opening) (token : Token) (rest : List Token) :
    Except ReadError (Passage (token :: rest)) :=
  match inside? with
  | none =>
      let character := (token.text.getD "").toList.headD ')'
      .error (.invalidCharacter character .expression token.position)
  | some _ => .ok ⟨[], [], rest, Nat.le_succ _⟩

/-- Reads the values up to the closing delimiter of the sequence, or up to the
end of the tokens when the sequence is not inside an opening delimiter. Only an
anonymous function keeps the placeholders used in it to itself. -/
def sequence (inFunction : Bool) (inside? : Option Opening)
    (before : Lookback) :
    (tokens : List Token) → Except ReadError (Passage tokens)
  | [] => ending inside?
  | token :: rest =>
      match role inFunction before token with
      | .error refused => .error refused
      | .ok (.sign next) =>
          (sequence inFunction inside? next rest).map fun passage =>
            passage.widen (Nat.le_succ _)
      | .ok (.value node used) =>
          (sequence inFunction inside? .plain rest).map fun passage =>
            passage.cons node used (Nat.le_succ _)
      | .ok .ampersand =>
          match name? rest with
          | none => .error (.invalidCharacter '&' .expression token.position)
          | some name =>
              (sequence inFunction inside? .plain rest.tail).map fun passage =>
                passage.cons (.rest (Name.normalize name)) []
                  (tail_le token rest)
      | .ok .closer => closing inside? token rest
      | .ok (.opener enclosure) =>
          let isFunction := enclosure == .anonymousFunction
          let opening : Opening := ⟨enclosure, token.position⟩
          match sequence (inFunction || isFunction) (some opening) .plain
            rest with
          | .error refused => .error refused
          | .ok inner =>
              let node := enclosure.node inner.used (Node.arrange inner.values)
              let used := if isFunction then [] else inner.used
              (sequence inFunction inside? .plain inner.remaining).map
                fun passage =>
                passage.cons node used (Nat.le_succ_of_le inner.remaining_le)
termination_by tokens => tokens.length
decreasing_by
  · exact Nat.lt_succ_self _
  · exact Nat.lt_succ_self _
  · exact Nat.lt_succ_of_le (List.length_tail ▸ Nat.sub_le _ _)
  · exact Nat.lt_succ_self _
  · exact Nat.lt_succ_of_le inner.remaining_le

def read (tokens : List Token) : Except ReadError (List Node) :=
  (sequence false none .plain tokens).map fun passage =>
    Node.arrange passage.values

end Descent

/-- Only an anonymous function depends on the placeholders used in it. -/
theorem Enclosure.node_of_ne {enclosure : Enclosure}
    (other : enclosure ≠ .anonymousFunction) (used : List Placeholder)
    (items : List Node) :
    enclosure.node used items = enclosure.node [] items := by
  cases enclosure <;> first | rfl | exact absurd rfl other

theorem Enclosure.node_reverse (enclosure : Enclosure)
    (used : List Placeholder) (items : List Node) :
    enclosure.node used.reverse items = enclosure.node used items := by
  cases enclosure with
  | anonymousFunction => simp only [node, Placeholder.arity_reverse]
  | _ => rfl

namespace Builder

open Descent

/-! ## What a token does to a builder -/

def noteAll (used : List Placeholder) (scopes : List (List Placeholder)) :
    List (List Placeholder) :=
  used.foldl (fun reached placeholder => note placeholder reached) scopes

@[simp]
theorem noteAll_nil (scopes : List (List Placeholder)) :
    noteAll [] scopes = scopes := rfl

theorem noteAll_append (first second : List Placeholder)
    (scopes : List (List Placeholder)) :
    noteAll (first ++ second) scopes = noteAll second (noteAll first scopes) :=
  List.foldl_append

theorem noteAll_cons (used innermost : List Placeholder)
    (outer : List (List Placeholder)) :
    noteAll used (innermost :: outer) =
      (used.reverse ++ innermost) :: outer := by
  induction used generalizing innermost with
  | nil => rfl
  | cons placeholder rest inductionHypothesis =>
      have noted := inductionHypothesis (placeholder :: innermost)
      rw [List.reverse_cons, List.append_assoc]
      exact noted

theorem isEmpty_noteAll (used : List Placeholder)
    (scopes : List (List Placeholder)) :
    (noteAll used scopes).isEmpty = scopes.isEmpty := by
  cases scopes with
  | nil =>
      induction used with
      | nil => rfl
      | cons placeholder rest inductionHypothesis => exact inductionHypothesis
  | cons innermost outer => rw [noteAll_cons]; rfl

def absorb (builder : Builder) (values : List Node) (used : List Placeholder) :
    Builder :=
  addAll { builder with scopes := noteAll used builder.scopes } values

/-- What comes of a builder at the end of the sequence it is in. -/
def resume (builder : Builder) (remaining : List Token) :
    Except ReadError (List Node) :=
  match builder.frames with
  | [] => .ok builder.top.reverse
  | frame :: _ => (builder.perform (.leave frame)).run remaining

def inFunction (builder : Builder) : Bool :=
  !builder.scopes.isEmpty

def inside? (builder : Builder) : Option Opening :=
  builder.frames.head?.map fun frame => ⟨frame.enclosure, frame.position⟩

theorem resume_expects (builder : Builder) (expectation : Expectation)
    (remaining : List Token) :
    resume { builder with expects := expectation } remaining =
      builder.resume remaining := by
  obtain ⟨expects, top, frames, scopes⟩ := builder
  cases frames with
  | nil => rfl
  | cons frame outer => cases outer <;> rfl

/-- What the builder expects is forgotten at the next value or at the end of
its sequence. -/
theorem resume_absorb_expects (builder : Builder) (expectation : Expectation)
    (values : List Node) (used : List Placeholder) (remaining : List Token) :
    (absorb { builder with expects := expectation } values used).resume
      remaining =
      (builder.absorb values used).resume remaining := by
  cases values with
  | nil =>
      exact resume_expects
        { builder with scopes := noteAll used builder.scopes } _ _
  | cons value rest =>
      have forgotten :=
        add_expects { builder with scopes := noteAll used builder.scopes }
          expectation value
      exact congrArg (fun reached : Builder =>
        (reached.addAll rest).resume remaining) forgotten

theorem absorb_absorb_singleton (builder : Builder) (value : Node)
    (values : List Node) (first second : List Placeholder) :
    (builder.absorb [value] first).absorb values second =
      builder.absorb (value :: values) (first ++ second) := by
  obtain ⟨expects, top, frames, scopes⟩ := builder
  cases frames <;> simp [absorb, add, noteAll_append]

/-- A role of a token says what the builder does with it. -/
theorem action?_of_role {builder : Builder} {before : Lookback} (token : Token)
    (waits : builder.expects = .value before) :
    match role builder.inFunction before token with
    | .error refused => builder.action? token = .error refused
    | .ok (.sign next) => builder.action? token = .ok (.expect (.value next))
    | .ok (.value node used) =>
        ∃ action, builder.action? token = .ok action ∧
          builder.perform action = builder.absorb [node] used
    | .ok (.opener enclosure) =>
        builder.action? token = .ok (.enter enclosure token.position)
    | .ok .closer =>
        builder.action? token =
          builder.closeAction? (token.text.getD "") token.position
    | .ok .ampersand =>
        builder.action? token = .ok (.expect (.name token.position)) := by
  have direct : builder.action? token = builder.valueAction? before token := by
    simp only [action?, waits]
  rw [direct]
  obtain ⟨kind, text, position⟩ := token
  cases kind with
  | symbol =>
      simp only [role, valueAction?, symbolRole, symbolAction?]
      cases Word.ofText (text.getD "") with
      | leaf node => exact ⟨_, rfl, rfl⟩
      | argument placeholder =>
          cases empty : builder.scopes.isEmpty with
          | true => simp [inFunction, empty]
          | false =>
              simp only [inFunction, empty]
              exact ⟨_, rfl, rfl⟩
  | keyword | string => cases before <;> exact ⟨_, rfl, rfl⟩
  | comment | quote | deref => exact ⟨_, rfl, rfl⟩
  | openParen | openBrace => cases before <;> rfl
  | dispatch | metadata | rest | openBracket | closeDelimiter => rfl

/-! ## The builder follows the descent -/

/-- What a builder comes to that meets the sequence the descent reads. -/
def follow {tokens : List Token} (builder : Builder) :
    Except ReadError (Passage tokens) → Except ReadError (List Node)
  | .error refused => .error refused
  | .ok passage =>
      (builder.absorb passage.values passage.used).resume passage.remaining

theorem follow_widen {tokens whole : List Token} (builder : Builder)
    (expectation : Expectation) (result : Except ReadError (Passage tokens))
    (fewer : tokens.length ≤ whole.length) :
    follow { builder with expects := expectation } result =
      builder.follow (result.map fun passage => passage.widen fewer) := by
  cases result with
  | error refused => rfl
  | ok passage => exact resume_absorb_expects _ _ _ _ _

theorem follow_cons {tokens whole : List Token} (builder : Builder)
    (value : Node) (used : List Placeholder)
    (result : Except ReadError (Passage tokens))
    (fewer : tokens.length ≤ whole.length) :
    (builder.absorb [value] used).follow result =
      builder.follow (result.map fun passage =>
          passage.cons value used fewer) := by
  cases result with
  | error refused => rfl
  | ok passage =>
      exact congrArg (fun reached : Builder => reached.resume passage.remaining)
        (absorb_absorb_singleton _ _ _ _ _)

theorem inFunction_absorb (builder : Builder) (value : Node)
    (used : List Placeholder) :
    (builder.absorb [value] used).inFunction = builder.inFunction := by
  simp [inFunction, absorb, isEmpty_noteAll]

theorem inside?_absorb (builder : Builder) (value : Node)
    (used : List Placeholder) :
    (builder.absorb [value] used).inside? = builder.inside? := by
  obtain ⟨expects, top, frames, scopes⟩ := builder
  cases frames <;> rfl

theorem expects_absorb (builder : Builder) (value : Node)
    (used : List Placeholder) :
    (builder.absorb [value] used).expects = .value .plain :=
  expects_add _ _

/-- At the end of a nested sequence its node is one more value of the sequence
around it. The builder notes placeholders newest first, and their order does
not matter. -/
theorem resume_enter (builder : Builder) (enclosure : Enclosure)
    (position : Position) (values : List Node) (used : List Placeholder)
    (remaining : List Token) :
    ((builder.perform (.enter enclosure position)).absorb values used).resume
      remaining =
      (builder.absorb [enclosure.node used (Node.arrange values)]
        (if enclosure == .anonymousFunction then [] else used)).run
            remaining := by
  obtain ⟨expects, top, frames, scopes⟩ := builder
  by_cases isFunction : enclosure = .anonymousFunction
  · subst isFunction
    have same := Enclosure.anonymousFunction.node_reverse used
    cases frames <;>
      simp [perform, absorb, addAll_frame, resume, noteAll_cons, add, same,
        Node.arrange]
  · have same := Enclosure.node_of_ne isFunction
    cases frames <;>
      simp [perform, absorb, addAll_frame, resume, add, isFunction, same _ _,
        Node.arrange]

theorem inFunction_enter (builder : Builder) (enclosure : Enclosure)
    (position : Position) :
    (builder.perform (.enter enclosure position)).inFunction =
      (builder.inFunction || enclosure == .anonymousFunction) := by
  by_cases isFunction : enclosure = .anonymousFunction <;>
    simp [perform, inFunction, isFunction]

theorem inside?_enter (builder : Builder) (enclosure : Enclosure)
    (position : Position) :
    (builder.perform (.enter enclosure position)).inside? =
      some ⟨enclosure, position⟩ := rfl

/-- After an ampersand the next token is a name, or the ampersand is refused. -/
theorem run_name (builder : Builder) (ampersand : Position)
    (rest : List Token) :
    (builder.perform (.expect (.name ampersand))).run rest =
      match name? rest with
      | none => .error (.invalidCharacter '&' .expression ampersand)
      | some name =>
          (builder.absorb [.rest (Name.normalize name)] []).run rest.tail := by
  cases rest with
  | nil => rfl
  | cons token others =>
      obtain ⟨kind, text, position⟩ := token
      cases kind with
      | symbol =>
          cases text with
          | none => rfl
          | some name =>
              have added :=
                add_expects builder (.name ampersand)
                  (.rest (Name.normalize name))
              exact congrArg (fun reached : Builder => reached.run others) added
      | _ => rfl

/-- The builder makes of the rest of the tokens what the descent makes of it,
and then goes on behind the sequence that it is in. A nested sequence leaves
fewer tokens than were behind its delimiter. -/
theorem run_eq_follow {builder : Builder} {before : Lookback}
    (waits : builder.expects = .value before) (tokens : List Token) :
    builder.run tokens =
      builder.follow (Descent.sequence builder.inFunction builder.inside? before
          tokens) := by
  induction size :
    tokens.length using Nat.strongRecOn generalizing builder before tokens with
  | _ bound inductionHypothesis =>
  cases tokens with
  | nil =>
      obtain ⟨expects, top, frames, scopes⟩ := builder
      cases waits
      rw [Descent.sequence]
      cases frames <;> rfl
  | cons token rest =>
      have fewer : rest.length < bound := by
        rw [← size]
        exact Nat.lt_succ_self _
      have called := action?_of_role token waits
      have valueStep (value : Node) (used : List Placeholder)
          {others : List Token}
          (shorter : others.length < bound) {whole : List Token}
          (bounded : others.length ≤ whole.length) :
          (builder.absorb [value] used).run others =
            builder.follow
              ((Descent.sequence builder.inFunction builder.inside? .plain
                  others).map fun passage =>
                (passage.cons value used bounded : Passage whole)) := by
        rw [inductionHypothesis _ shorter (expects_absorb _ _ _) _ rfl,
          inFunction_absorb, inside?_absorb, follow_cons]
      rw [Descent.sequence]
      cases outcome : role builder.inFunction before token with
      | error refused =>
          rw [outcome] at called
          rw [run_cons_of_error called]
          rfl
      | ok found =>
          rw [outcome] at called
          cases found with
          | sign next =>
              rw [run_cons_of_ok called, inductionHypothesis _ fewer rfl _ rfl]
              exact follow_widen _ _ _ _
          | value node used =>
              obtain ⟨action, calledAction, performed⟩ := called
              rw [run_cons_of_ok calledAction, performed]
              exact valueStep node used fewer _
          | closer =>
              obtain ⟨expects, top, frames, scopes⟩ := builder
              cases frames with
              | nil => exact run_cons_of_error called rest
              | cons frame outer => exact run_cons_of_ok called rest
          | ampersand =>
              rw [run_cons_of_ok called, run_name]
              dsimp only
              cases name? rest with
              | none => rfl
              | some name =>
                  have shorter : rest.tail.length < bound := by
                    rw [List.length_tail]
                    omega
                  exact valueStep _ [] shorter _
          | opener enclosure =>
              rw [run_cons_of_ok called, inductionHypothesis _ fewer rfl _ rfl,
                inFunction_enter, inside?_enter]
              dsimp only
              cases nested : Descent.sequence
                (builder.inFunction || enclosure == .anonymousFunction)
                (some ⟨enclosure, token.position⟩) .plain rest with
              | error refused => rfl
              | ok inner =>
                  have shorter : inner.remaining.length < bound :=
                    Nat.lt_of_le_of_lt inner.remaining_le fewer
                  exact (resume_enter _ _ _ _ _ _).trans
                    (valueStep _ _ shorter _)

end Builder

/-- The builder with its two stacks reads every list of tokens as the descent
does: the same trees, or the same error. -/
theorem read_eq_descent (tokens : List Token) :
    read tokens = Descent.read tokens := by
  have followed :
      Builder.start.run tokens =
        Builder.start.follow (Descent.sequence false none .plain tokens) :=
    Builder.run_eq_follow rfl tokens
  rw [read_eq_run, followed, Descent.read]
  cases Descent.sequence false none .plain tokens with
  | error refused => rfl
  | ok passage =>
      simp only [Builder.follow, Builder.absorb, Builder.start, Except.map]
      rw [Builder.addAll_top]
      rfl

end LispReader
