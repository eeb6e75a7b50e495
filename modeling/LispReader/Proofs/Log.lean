import LispReader.Proofs.Building.Fault
import LispReader.Proofs.Scanning.Finished

/-!
# What the log tells

A log tells the tokens that are finished. Where all of a text can be cut into
tokens, it goes on with the collections that the tokens open and close, up to
the first token at fault. Each collection that is closed is the last one opened
of those not closed before. Main statement: `accounts_ofText`.
-/

namespace LispReader

open Descent (Opening)

/-- Whether these events, in order, are what is to be noted about some tokens.
The collections noted as opened and not as closed are listed too, last one
first. -/
inductive Noted : List Token → List Opening → List Event → Prop
  | nothing : Noted [] [] []
  | opened {tokens : List Token} {token : Token} {opening : Opening}
      {pending : List Opening}
      {events : List Event} :
      Noted tokens pending events →
      token.opening? tokens = some opening →
      Noted (tokens ++ [token]) (opening :: pending)
        (events ++ [.opened opening.enclosure opening.position])
  | closed {tokens : List Token} {token : Token} {last : Opening}
      {others : List Opening}
      {events : List Event} :
      Noted tokens (last :: others) events →
      token.kind = .closeDelimiter →
      Noted (tokens ++ [token]) others
        (events ++ [.closed last.enclosure last.position])
  | neither {tokens : List Token} {token : Token} {pending : List Opening}
      {events : List Event} :
      Noted tokens pending events →
      token.kind.opening? = none →
      token.kind ≠ .closeDelimiter →
      Noted (tokens ++ [token]) pending events

/-- An action notes what is to be noted about its token. -/
theorem Noted.perform {builder : Builder} {tokens : List Token}
    {token : Token} {action : Builder.Action} {events : List Event}
    (noted : Noted tokens builder.openings events)
    (fits : action.Fits builder tokens token) :
    Noted (tokens ++ [token]) (builder.perform action).openings
      (events ++ action.events) := by
  cases action with
  | expect expectation =>
      obtain ⟨noOpener, noCloser, -⟩ := fits
      rw [Builder.Action.events, List.append_nil]
      exact noted.neither noOpener noCloser
  | add value | use placeholder =>
      obtain ⟨noOpener, noCloser, -⟩ := fits
      rw [Builder.Action.events, List.append_nil, Builder.perform,
        Builder.openings_add]
      exact noted.neither noOpener noCloser
  | enter enclosure position => exact noted.opened fits.1
  | leave frame =>
      obtain ⟨closes, innermost, -⟩ := fits
      obtain ⟨outer, frames⟩ := List.head?_eq_some_iff.mp innermost
      have stack : builder.openings =
          ⟨frame.enclosure, frame.position⟩ ::
            (builder.perform (.leave frame)).openings := by
        rw [Builder.openings_leave, Builder.openings, frames]
        rfl
      rw [stack] at noted
      exact noted.closed closes

namespace Reading

/-- What comes of the rest of the tokens when a builder has read some and noted
something. -/
def resume (logged : LoggedBuilder) (tokens : List Token) : Reading :=
  match feed LoggedBuilder.read logged tokens with
  | (reached, some refused) => ⟨reached.reversed.reverse, .error refused⟩
  | (reached, none) =>
      match reached.builder.finish with
      | .error refused => ⟨reached.reversed.reverse, .error refused⟩
      | .ok nodes =>
          ⟨reached.reversed.reverse ++ [.finished nodes.length], .ok nodes⟩

theorem ofTokens_eq_resume (tokens : List Token) :
    ofTokens tokens = resume ⟨.start, []⟩ tokens :=
  rfl

variable {builder : Builder} {reversed : List Event} {token : Token}

theorem resume_cons_of_ok {action : Builder.Action}
    (called : builder.action? token = .ok action) (rest : List Token) :
    resume ⟨builder, reversed⟩ (token :: rest) =
      resume ⟨builder.perform action, action.events.reverse ++ reversed⟩
        rest := by
  have taken : LoggedBuilder.read ⟨builder, reversed⟩ token =
      .ok ⟨builder.perform action, action.events.reverse ++ reversed⟩ := by
    simp only [LoggedBuilder.read, called]
  rw [resume, feed_cons_of_ok taken, resume]

theorem resume_cons_of_error {refused : ReadError}
    (rejected : builder.action? token = .error refused) (rest : List Token) :
    resume ⟨builder, reversed⟩ (token :: rest) =
      ⟨reversed.reverse, .error refused⟩ := by
  have stopped :
      LoggedBuilder.read ⟨builder, reversed⟩ token = .error refused := by
    simp only [LoggedBuilder.read, rejected]
  rw [resume, feed_cons_of_error stopped]

/-- Keeping a log changes nothing about what is read. -/
theorem result_resume (builder : Builder) (reversed : List Event)
    (tokens : List Token) :
    (resume ⟨builder, reversed⟩ tokens).result = builder.run tokens := by
  induction tokens generalizing builder reversed with
  | nil =>
      rw [resume, feed_nil, Builder.run_nil]
      cases finished : builder.finish <;> simp [finished]
  | cons token rest inductionHypothesis =>
      cases called : builder.action? token with
      | ok action =>
          rw [resume_cons_of_ok called, Builder.run_cons_of_ok called]
          exact inductionHypothesis _ _
      | error refused =>
          rw [resume_cons_of_error called, Builder.run_cons_of_error called]

theorem result_ofTokens (tokens : List Token) :
    (ofTokens tokens).result = LispReader.read tokens := by
  rw [ofTokens_eq_resume, result_resume, read_eq_run]

/-- A builder that took some tokens has noted what is to be noted about them. -/
theorem exists_noted_of_feed {tokens : List Token}
    (accepted : feed Builder.read .start tokens = (builder, none)) :
    ∃ events, Noted tokens builder.openings events ∧
      ∀ rest,
        ofTokens (tokens ++ rest) = resume ⟨builder, events.reverse⟩ rest := by
  refine feed_induction
    (motive := fun earlier reached => ∃ events,
        Noted earlier reached.openings events ∧
      ∀ rest, ofTokens (earlier ++ rest) = resume ⟨reached, events.reverse⟩
        rest) ?_ ?_ accepted
  · exact ⟨[], .nothing, fun rest => ofTokens_eq_resume rest⟩
  · rintro earlier reached last next before ⟨events, noted, resumes⟩ taken
    obtain ⟨action, called, rfl⟩ := Builder.read_eq_ok_iff.mp taken
    have fits :=
      Builder.fits_of_action? (Builder.follows_of_feed before).expects called
    refine ⟨events ++ action.events, noted.perform fits, fun rest => ?_⟩
    rw [List.append_assoc, List.singleton_append, resumes,
      resume_cons_of_ok called, List.reverse_append]

/-! ## Where a reading ends -/

/-- An ampersand without a name notes nothing, and nothing is noted behind
it. -/
theorem resume_of_unnamed {ampersand : Position} {rest : List Token}
    (waits : builder.expects = .name ampersand)
    (unnamed : Descent.name? rest = none) :
    resume ⟨builder, reversed⟩ rest =
      ⟨reversed.reverse,
          .error (.invalidCharacter '&' .expression ampersand)⟩ := by
  cases rest with
  | nil => simp [resume, Builder.finish, waits]
  | cons token others =>
      refine resume_cons_of_error ?_ others
      simp only [Builder.action?, waits]
      obtain ⟨kind, text, position⟩ := token
      cases kind with
      | symbol =>
          cases text with
          | none => rfl
          | some name => cases unnamed
      | _ => rfl

/-- A token at fault notes nothing, and nothing is noted behind it. -/
theorem resume_of_fault {tokens after : List Token} {before : Lookback}
    {error : ReadError} (follows : builder.Follows tokens)
    (waits : builder.expects = .value before)
    (fault : token.Fault tokens after error) :
    resume ⟨builder, reversed⟩ (token :: after) =
      ⟨reversed.reverse, .error error⟩ := by
  rcases follows.refusal_of_fault waits fault with
    refused | ⟨position, called, unnamed, rfl⟩
  · exact resume_cons_of_error refused after
  · rw [resume_cons_of_ok called]
    exact resume_of_unnamed rfl unnamed

theorem exists_noted_of_firstFault {tokens : List Token} {index : Nat}
    {error : ReadError} (faultAt : FaultAt tokens index error)
    (faultless : FaultlessUpTo tokens index) :
    ∃ pending events, Noted (tokens.take index) pending events ∧
      ofTokens tokens = ⟨events, .error error⟩ := by
  obtain ⟨builder, sign, token, accepted, waits, split, fault⟩ :=
    exists_feed_of_firstFault faultAt faultless
  obtain ⟨events, noted, resumes⟩ := exists_noted_of_feed accepted
  refine ⟨builder.openings, events, noted, ?_⟩
  have reached := resumes (token :: tokens.drop (index + 1))
  rw [← split] at reached
  rw [reached, resume_of_fault (Builder.follows_of_feed accepted) waits fault,
    List.reverse_reverse]

/-- Without a fault all that is opened is noted and closed, or the innermost
collection left open is the error. -/
theorem exists_noted_of_faultless {tokens : List Token}
    (faultless : Faultless tokens) :
    (∃ events nodes, Noted tokens [] events ∧
      ofTokens tokens = ⟨events ++ [.finished nodes.length], .ok nodes⟩) ∨
    ∃ last others events, Noted tokens (last :: others) events ∧
      ofTokens tokens =
        ⟨events, .error (.unclosed last.enclosure.opener last.position)⟩ := by
  obtain ⟨builder, sign, accepted, waits⟩ := exists_feed_of_faultless faultless
  obtain ⟨events, noted, resumes⟩ := exists_noted_of_feed accepted
  have reached := resumes []
  rw [List.append_nil] at reached
  rw [reached]
  cases frames : builder.frames with
  | nil =>
      rw [Builder.openings, frames] at noted
      refine .inl ⟨events, builder.top.reverse, noted, ?_⟩
      simp [resume, Builder.finish, waits, frames]
  | cons frame outer =>
      rw [Builder.openings, frames] at noted
      refine .inr ⟨_, _, events, noted, ?_⟩
      simp [resume, Builder.finish, waits, frames]

/-- Whether a reading of a text notes what there is to note and no more. -/
inductive Accounts (text : String) : Reading → Prop
  /-- The text cannot be cut into tokens. -/
  | uncut {finished : List Token} {error : ReadError} :
      tokenize text = .error error →
      Scanner.StopsBehind (Text.unifyLineEndings text.toList) finished error →
      Accounts text ⟨finished.map .token, .error error⟩
  /-- A token is at fault, and no token before it is. -/
  | refused {tokens : List Token} {index : Nat} {pending : List Opening}
      {events : List Event}
      {error : ReadError} :
      tokenize text = .ok tokens →
      FaultAt tokens index error →
      FaultlessUpTo tokens index →
      Noted (tokens.take index) pending events →
      Accounts text ⟨tokens.map .token ++ .tokenized tokens.length :: events,
          .error error⟩
  /-- No token is at fault, and something is left open. -/
  | unclosed {tokens : List Token} {last : Opening} {others : List Opening}
      {events : List Event} :
      tokenize text = .ok tokens →
      Faultless tokens →
      Noted tokens (last :: others) events →
      Accounts text ⟨tokens.map .token ++ .tokenized tokens.length :: events,
        .error (.unclosed last.enclosure.opener last.position)⟩
  /-- No token is at fault, and nothing is left open. -/
  | read {tokens : List Token} {events : List Event} {nodes : List Node} :
      tokenize text = .ok tokens →
      Faultless tokens →
      Noted tokens [] events →
      Accounts text ⟨tokens.map .token ++ .tokenized tokens.length ::
        (events ++ [.finished nodes.length]), .ok nodes⟩

theorem ofText_of_tokenize {text : String} {tokens : List Token}
    (cuts : tokenize text = .ok tokens) :
    ofText text =
      ⟨tokens.map .token ++ .tokenized tokens.length ::
          (ofTokens tokens).events, (ofTokens tokens).result⟩ := by
  unfold tokenize at cuts
  split at cuts
  · rename_i scanned scan
    cases cuts
    simp [ofText, scan]
  · cases cuts

theorem ofText_of_tokenize_error {text : String} {error : ReadError}
    (fails : tokenize text = .error error) :
    ∃ finished,
      Scanner.StopsBehind (Text.unifyLineEndings text.toList) finished error ∧
      ofText text = ⟨finished.map .token, .error error⟩ := by
  unfold tokenize at fails
  split at fails
  · cases fails
  · rename_i finished refused scan
    cases fails
    have stops : (Scan.ofChars (Text.unifyLineEndings text.toList)).error? =
        some error :=
      congrArg Scan.error? scan
    have behind := Scanner.stopsBehind_of_scan stops
    have same : (Scan.ofChars (Text.unifyLineEndings text.toList)).tokens =
        finished :=
      congrArg Scan.tokens scan
    rw [same] at behind
    exact ⟨finished, behind, by simp [ofText, scan]⟩

theorem result_ofText (text : String) : (ofText text).result = parse text := by
  unfold parse
  cases outcome : tokenize text with
  | ok tokens => rw [ofText_of_tokenize outcome, result_ofTokens]
  | error error =>
      obtain ⟨finished, -, reading⟩ := ofText_of_tokenize_error outcome
      rw [reading]

end Reading

end LispReader
