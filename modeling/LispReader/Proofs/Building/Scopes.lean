import LispReader.Proofs.Building.Function

/-!
# The placeholders of the functions that are open

A builder has two stacks, one for the collections that are open and one for the
placeholders used in the anonymous functions among them. The second has an
entry for each function on the first, in the same order, and this entry holds
what was written in the body of the function so far, outside the functions
inside it. Main statement: `scopes_in_step`.
-/

namespace LispReader

open Descent (Opening)

/-- Whether an anonymous function that begins at a position is open behind some
tokens, with this body so far and with so many open collections inside it. -/
def FunctionBehind (tokens body : List Token) (depth : Nat)
    (position : Position) : Prop :=
  ∃ before opener, tokens = before ++ opener :: body ∧
    before.getLast?.map Token.kind = some .dispatch ∧ opener.kind = .openParen ∧
    opener.position = position ∧ StaysOpen body ∧
      openers body = closers body + depth

/-- Whether these placeholders are the ones that are written in a body as
symbols, neither as the name of an ampersand nor inside another anonymous
function. -/
def Remembers (used : List Placeholder) (body : List Token) : Prop :=
  ∀ text, text ∈ used.map Placeholder.text ↔ IsArgument text ∧
    Mentions body text

/-- Whether the two stacks of a builder that took some tokens belong together,
from a place on inside of which there are so many open collections. -/
inductive Aligned (tokens : List Token) : Nat → List Frame →
    List (List Placeholder) → Prop
  | empty {depth : Nat} : Aligned tokens depth [] []
  | function {depth : Nat} {frame : Frame} {outer : List Frame}
      {used : List Placeholder}
      {others : List (List Placeholder)} {body : List Token} :
      frame.enclosure = .anonymousFunction →
      FunctionBehind tokens body depth frame.position →
      Remembers used body →
      Aligned tokens (depth + 1) outer others →
      Aligned tokens depth (frame :: outer) (used :: others)
  | other {depth : Nat} {frame : Frame} {outer : List Frame}
      {scopes : List (List Placeholder)} :
      frame.enclosure ≠ .anonymousFunction →
      Aligned tokens (depth + 1) outer scopes →
      Aligned tokens depth (frame :: outer) scopes

theorem Aligned.exists_of_function {tokens : List Token} {depth : Nat}
    {frame : Frame} {outer : List Frame} {scopes : List (List Placeholder)}
    (aligned : Aligned tokens depth (frame :: outer) scopes)
    (isFunction : frame.enclosure = .anonymousFunction) :
    ∃ body used others, FunctionBehind tokens body depth frame.position ∧
      Remembers used body ∧
      scopes = used :: others := by
  cases aligned with
  | function _ isOpen remembers _ => exact ⟨_, _, _, isOpen, remembers, rfl⟩
  | other notFunction _ => exact absurd isFunction notFunction

theorem Collects.remembers {used : List Placeholder} {body : List Token}
    (collects : Collects used body) : Remembers used body := by
  intro text
  rw [List.mem_map, ← Word.exists_argument_iff]
  constructor
  · rintro ⟨placeholder, member, rfl⟩
    obtain ⟨text, mentions, word⟩ := (collects placeholder).mp member
    obtain ⟨rfl, -⟩ := (Word.ofText_eq_argument_iff text placeholder).mp word
    exact ⟨⟨placeholder, word⟩, mentions⟩
  · rintro ⟨⟨placeholder, word⟩, mentions⟩
    obtain ⟨written, -⟩ :=
      (Word.ofText_eq_argument_iff text placeholder).mp word
    exact ⟨placeholder, (collects placeholder).mpr ⟨text, mentions, word⟩,
      written.symm⟩

namespace Builder

variable {builder : Builder} {tokens : List Token}

/-- Where a collection is open, the builder works inside it on top of what it
had before. -/
theorem exists_enclose_of_openBehind
    (accepted : feed Builder.read start tokens = (builder, none))
    {depth : Nat} {opening : Opening}
    (isOpen : OpenBehind tokens depth opening) :
    ∃ before opener body reached items used part,
      tokens = before ++ opener :: body ∧
        opener.opening? before = some opening ∧
      StaysOpen body ∧ openers body = closers body + depth ∧
      builder = enclose reached opening items used part ∧ part.Follows body ∧
      Collects used body := by
  obtain ⟨before, opener, body, rfl, opens, stays, count⟩ := isOpen
  obtain ⟨reached, first, rest⟩ := feed_append_eq_none_iff.mp accepted
  have split : opener :: body = [opener] ++ body := rfl
  obtain ⟨entered, opened, inside⟩ := feed_append_eq_none_iff.mp (split ▸ rest)
  obtain ⟨action, called, rfl⟩ :=
    read_eq_ok_iff.mp (feed_singleton_eq_none_iff.mp opened)
  have fits := fits_of_action? (follows_of_feed first).expects called
  have sign : opener.kind.opening?.isSome = true := by
    rw [(Token.opener_of_opening? opens).1]
    rfl
  obtain ⟨other, alsoOpens, rfl⟩ := fits.exists_enter sign
  obtain rfl : other = opening := Option.some.inj (alsoOpens.symm.trans opens)
  obtain ⟨items, used, part, rfl, follows, collects⟩ :=
    encloses_of_feed inside stays
  exact ⟨before, opener, body, reached, items, used, part, rfl, opens, stays,
    count, rfl, follows, collects⟩

theorem length_scopes_of_follows (follows : builder.Follows tokens) :
    builder.scopes.length =
      builder.frames.countP fun frame =>
        frame.enclosure = .anonymousFunction := by
  rw [follows.scopes, openings, List.countP_map]
  rfl

/-- Of a function on the first stack the placeholders are on the second one,
below those of the functions inside it. -/
theorem exists_scope_of_function
    (accepted : feed Builder.read start tokens = (builder, none))
    {inner outer : List Frame} {frame : Frame}
    (stack : builder.frames = inner ++ frame :: outer)
    (isFunction : frame.enclosure = .anonymousFunction) :
    ∃ body used innerScopes others,
      FunctionBehind tokens body inner.length frame.position ∧
      Remembers used body ∧ builder.scopes = innerScopes ++ used :: others ∧
      innerScopes.length = inner.countP fun frame =>
        frame.enclosure = .anonymousFunction := by
  have onStack : builder.openings[inner.length]? =
      some ⟨.anonymousFunction, frame.position⟩ := by
    simp [openings, stack, isFunction]
  have isOpen := ((follows_of_feed accepted).openings _ _).mp onStack
  obtain ⟨before, opener, body, reached, items, used, part, rfl, opens, stays,
    count, rfl, follows,
    collects⟩ := exists_enclose_of_openBehind accepted isOpen
  have depth : part.frames.length = inner.length := by
    have sizes := follows.depth
    rw [openings, List.length_map] at sizes
    omega
  obtain ⟨rfl, -⟩ := List.append_inj stack depth
  obtain ⟨sign, paren⟩ :=
    (Token.opening?_function_iff before opener).mp ⟨_, opens, rfl⟩
  refine ⟨body, used.reverse, part.scopes, reached.scopes,
    ⟨before, opener, rfl, sign, paren, (Token.opener_of_opening? opens).2.symm,
        stays, count⟩,
    collects.reverse.remembers, ?_, length_scopes_of_follows follows⟩
  rw [enclose, scopesInside, if_pos rfl, noteAll_cons, List.append_nil]

/-- Where the stacks are split alike, what is below the split is aligned. The
frames above it are taken off one by one, from the innermost out. -/
theorem aligned_of_split
    (accepted : feed Builder.read start tokens = (builder, none))
    {inner rest : List Frame} {innerScopes scopes : List (List Placeholder)}
    (stack : builder.frames = inner ++ rest)
    (notes : builder.scopes = innerScopes ++ scopes)
    (counts : innerScopes.length = inner.countP fun frame => frame.enclosure =
      .anonymousFunction) :
    Aligned tokens inner.length rest scopes := by
  induction rest generalizing inner innerScopes scopes with
  | nil =>
      have sizes := length_scopes_of_follows (follows_of_feed accepted)
      rw [stack, notes, List.append_nil, List.length_append, counts] at sizes
      obtain rfl : scopes = [] := List.length_eq_zero_iff.mp (by omega)
      exact .empty
  | cons frame outer inductionHypothesis =>
      have regrouped : builder.frames = (inner ++ [frame]) ++ outer := by
        simp [stack]
      have deeper : (inner ++ [frame]).length = inner.length + 1 := by simp
      by_cases isFunction : frame.enclosure = .anonymousFunction
      · obtain ⟨body, used, before, others, isOpen, remembers, found, sizes⟩ :=
          exists_scope_of_function accepted stack isFunction
        obtain ⟨rfl, rfl⟩ :=
          List.append_inj (notes.symm.trans found) (counts.trans sizes.symm)
        have regroupedNotes : builder.scopes =
            (innerScopes ++ [used]) ++ others := by simp [notes]
        have behind : Aligned tokens (inner ++ [frame]).length outer others :=
          inductionHypothesis regrouped regroupedNotes
            (by simp [counts, isFunction])
        exact .function isFunction isOpen remembers (deeper ▸ behind)
      · have behind : Aligned tokens (inner ++ [frame]).length outer scopes :=
          inductionHypothesis regrouped notes (by simp [counts, isFunction])
        exact .other isFunction (deeper ▸ behind)

theorem aligned_of_feed
    (accepted : feed Builder.read start tokens = (builder, none)) :
    Aligned tokens 0 builder.frames builder.scopes :=
  aligned_of_split accepted (List.nil_append _).symm
    (List.nil_append _).symm rfl

theorem Follows.exists_value (follows : builder.Follows tokens)
    (notName : tokens.getLast?.map Token.kind ≠ some .rest) :
    ∃ before, builder.expects = .value before := by
  rw [Ne, ← Expectation.exists_behind_eq_name_iff, ← follows.expects] at notName
  cases waits : builder.expects with
  | value before => exact ⟨before, rfl⟩
  | name ampersand => exact absurd ⟨ampersand, waits⟩ notName

/-- A delimiter that closes a function takes the placeholders noted for it from
the stack. -/
theorem read_closer_function {before : Lookback} {frame : Frame}
    {outer : List Frame} {used : List Placeholder}
    {others : List (List Placeholder)} {closer : Token}
    (waits : builder.expects = .value before)
    (stack : builder.frames = frame :: outer)
    (isFunction : frame.enclosure = .anonymousFunction)
    (notes : builder.scopes = used :: others)
    (closes : closer.kind = .closeDelimiter) :
    builder.read closer =
      .ok (add { builder with frames := outer, scopes := others }
        (.function (Placeholder.arity used) frame.reversed.reverse)) := by
  obtain ⟨kind, text, position⟩ := closer
  obtain rfl : kind = .closeDelimiter := closes
  have called :
      builder.action? ⟨.closeDelimiter, text, position⟩ = .ok (.leave frame) :=
    action?_eq_ok_iff.mpr (.closer waits (by rw [stack, List.head?_cons]))
  rw [read_eq_ok_iff]
  refine ⟨.leave frame, called, ?_⟩
  simp [perform, stack, notes, isFunction, Enclosure.node_anonymousFunction]

theorem read_argument_eq_error_iff {before : Lookback}
    (waits : builder.expects = .value before) {text : String}
    (isArgument : IsArgument text) (position : Position) (error : ReadError) :
    builder.read ⟨.symbol, some text, position⟩ = .error error ↔
      error = .notAnonymousFunction text ∧ builder.scopes = [] := by
  obtain ⟨placeholder, word⟩ := (Word.exists_argument_iff text).mpr isArgument
  cases scopes : builder.scopes with
  | nil => simp [read, action?, waits, valueAction?, symbolAction?, word,
      scopes, eq_comm]
  | cons innermost outer =>
      simp [read, action?, waits, valueAction?, symbolAction?, word, scopes]

theorem scopes_eq_nil_iff (follows : builder.Follows tokens) :
    builder.scopes = [] ↔
      ∀ frame ∈ builder.frames, frame.enclosure ≠ .anonymousFunction := by
  rw [← List.length_eq_zero_iff, length_scopes_of_follows follows,
    List.countP_eq_zero]
  simp

end Builder

/-- Behind all tokens that are taken, a builder has one entry with placeholders
for each anonymous function that is open, in the same order, and in it are the
placeholders of this function. So when a function is closed its own entry is
there and goes with it, and a placeholder is refused exactly where no function
is open. -/
theorem scopes_in_step {tokens : List Token} {builder : Builder}
    (accepted : feed Builder.read .start tokens = (builder, none)) :
    Aligned tokens 0 builder.frames builder.scopes ∧
    (∀ frame outer, builder.frames = frame :: outer →
        frame.enclosure = .anonymousFunction →
      ∃ body used others, FunctionBehind tokens body 0 frame.position ∧
        Remembers used body ∧
        builder.scopes = used :: others ∧
        ∀ closer : Token, closer.kind = .closeDelimiter →
          tokens.getLast?.map Token.kind ≠ some .rest →
          builder.read closer =
            .ok (Builder.add { builder with frames := outer, scopes := others }
              (.function (Placeholder.arity used) frame.reversed.reverse))) ∧
    ∀ text position error, IsArgument text →
      tokens.getLast?.map Token.kind ≠ some .rest →
      (builder.read ⟨.symbol, some text, position⟩ = .error error ↔
        error = .notAnonymousFunction text ∧
          ∀ frame ∈ builder.frames, frame.enclosure ≠ .anonymousFunction) := by
  have aligned := Builder.aligned_of_feed accepted
  have follows := Builder.follows_of_feed accepted
  refine ⟨aligned, ?_, ?_⟩
  · intro frame outer stack isFunction
    rw [stack] at aligned
    obtain ⟨body, used, others, isOpen, remembers, notes⟩ :=
      aligned.exists_of_function isFunction
    refine ⟨body, used, others, isOpen, remembers, notes,
      fun closer closes notName => ?_⟩
    obtain ⟨before, waits⟩ := follows.exists_value notName
    exact Builder.read_closer_function waits stack isFunction notes closes
  · intro text position error isArgument notName
    obtain ⟨before, waits⟩ := follows.exists_value notName
    rw [Builder.read_argument_eq_error_iff waits isArgument,
      Builder.scopes_eq_nil_iff follows]

/-- Of two functions, the inner one in a vector, each has its own placeholders,
and the name behind the ampersand is none. -/
theorem scopes_in_step_nested :
    ∃ (tokens : List Token) (builder : Builder),
      tokens = [⟨.dispatch, none, ⟨1, 1⟩⟩, ⟨.openParen, none, ⟨1, 2⟩⟩,
        ⟨.symbol, some "%", ⟨1, 3⟩⟩, ⟨.openBracket, none, ⟨1, 5⟩⟩,
          ⟨.dispatch, none, ⟨1, 6⟩⟩,
        ⟨.openParen, none, ⟨1, 7⟩⟩, ⟨.symbol, some "%2", ⟨1, 8⟩⟩,
          ⟨.rest, none, ⟨1, 11⟩⟩,
        ⟨.symbol, some "%3", ⟨1, 12⟩⟩] ∧
      builder = ⟨.value .plain, [],
        [⟨.anonymousFunction, ⟨1, 7⟩,
            [.rest "_PERCENT_3", .identifier "_PERCENT_2"]⟩, ⟨.vector, ⟨1, 5⟩,
            []⟩, ⟨.anonymousFunction, ⟨1, 2⟩, [.identifier "_PERCENT_1"]⟩],
        [[.numbered 2], [.bare]]⟩ ∧
      feed Builder.read .start tokens = (builder, none) ∧
      Aligned tokens 0 builder.frames builder.scopes ∧
      (∃ body used others, FunctionBehind tokens body 0 ⟨1, 7⟩ ∧
          Remembers used body ∧
        builder.scopes = used :: others) ∧
      ∀ error, builder.read ⟨.symbol, some "%4", ⟨1, 15⟩⟩ ≠ .error error := by
  refine ⟨_, _, rfl, rfl, ?accepted, ?result⟩
  case result =>
    obtain ⟨aligned, closing, arguments⟩ := scopes_in_step ?accepted
    obtain ⟨body, used, others, isOpen, remembers, notes, -⟩ :=
      closing _ _ rfl rfl
    refine ⟨aligned, ⟨body, used, others, isOpen, remembers, notes⟩,
      fun error refused => ?_⟩
    have isArgument : IsArgument "%4" := .inr ⟨'4', rfl, rfl⟩
    have noneOpen :=
      ((arguments "%4" _ error isArgument (by decide)).mp refused).2
    exact noneOpen _ List.mem_cons_self rfl
  case accepted => rfl

end LispReader
