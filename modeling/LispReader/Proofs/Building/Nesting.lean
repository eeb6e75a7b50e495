import LispReader.Proofs.Building.Descent

/-!
# Open collections by counting

Which collections are open behind some tokens can be told without a stack. A
collection is still open when among the tokens behind its opening delimiter, up
to any of them, no more collections are closed than opened, and as many
collections are open inside it as more are opened than closed there. A builder
that took the tokens has exactly these collections on its stack, at these
depths.
-/

namespace LispReader

open Descent (Opening)

/-- The sign at the beginning of a collection, for the kinds of token that
begin one. -/
def Token.Kind.opening? : Kind → Option Char
  | .openParen => some '('
  | .openBracket => some '['
  | .openBrace => some '{'
  | _ => none

def openers (tokens : List Token) : Nat :=
  tokens.countP fun token => token.kind.opening?.isSome

def closers (tokens : List Token) : Nat :=
  tokens.countP fun token => token.kind = .closeDelimiter

@[simp]
theorem openers_nil : openers [] = 0 := rfl

@[simp]
theorem closers_nil : closers [] = 0 := rfl

@[simp]
theorem openers_append (left right : List Token) :
    openers (left ++ right) = openers left + openers right :=
  List.countP_append

@[simp]
theorem closers_append (left right : List Token) :
    closers (left ++ right) = closers left + closers right :=
  List.countP_append

theorem Token.count_of_closer {token : Token}
    (closes : token.kind = .closeDelimiter) :
    openers [token] = 0 ∧ closers [token] = 1 := by
  simp [openers, closers, closes, Kind.opening?]

theorem Token.count_of_opener {token : Token}
    (opens : token.kind.opening?.isSome = true) :
    openers [token] = 1 ∧ closers [token] = 0 := by
  have noCloser : token.kind ≠ .closeDelimiter := by
    intro closes
    rw [closes] at opens
    cases opens
  simp [openers, closers, opens, noCloser]

theorem Token.count_of_neither {token : Token}
    (noOpener : token.kind.opening? = none)
    (noCloser : token.kind ≠ .closeDelimiter) :
    openers [token] = 0 ∧ closers [token] = 0 := by
  simp [openers, closers, noOpener, noCloser]

/-- Whether a collection that is opened just before these tokens is open behind
each of them. -/
def StaysOpen (later : List Token) : Prop :=
  ∀ part, part <+: later → closers part ≤ openers part

theorem staysOpen_nil : StaysOpen [] := by
  intro part isPart
  rw [List.prefix_nil.mp isPart]
  exact Nat.le_refl _

theorem staysOpen_concat_iff (later : List Token) (token : Token) :
    StaysOpen (later ++ [token]) ↔
      StaysOpen later ∧
        closers (later ++ [token]) ≤ openers (later ++ [token]) := by
  constructor
  · intro stays
    constructor
    · intro part isPart
      exact stays part (isPart.trans (List.prefix_append _ _))
    · exact stays _ (List.prefix_refl _)
  · rintro ⟨stays, whole⟩ part isPart
    rcases List.prefix_concat_iff.mp isPart with rfl | shorter
    · exact whole
    · exact stays part shorter

theorem staysOpen_iff_take (later : List Token) :
    StaysOpen later ↔
      ∀ count ∈ List.range (later.length + 1),
        closers (later.take count) ≤ openers (later.take count) := by
  constructor
  · intro stays count _
    exact stays _ (List.take_prefix count later)
  · intro bounded part isPart
    rw [List.prefix_iff_eq_take.mp isPart]
    exact bounded _ (List.mem_range.mpr (Nat.lt_succ_of_le isPart.length_le))

instance (later : List Token) : Decidable (StaysOpen later) :=
  decidable_of_iff _ (staysOpen_iff_take later).symm

/-- Whether the collections opened among these tokens, and no others, are
closed among them. -/
def Balanced (tokens : List Token) : Prop :=
  StaysOpen tokens ∧ openers tokens = closers tokens

instance (tokens : List Token) : Decidable (Balanced tokens) :=
  inferInstanceAs (Decidable (_ ∧ _))

/-- Where a collection stays open at first but not to the end, there is a
delimiter that closes it. -/
theorem exists_closer_of_not_staysOpen {earlier later : List Token}
    (stays : StaysOpen earlier) (closed : ¬ StaysOpen (earlier ++ later)) :
    ∃ body closer after, earlier ++ later = body ++ closer :: after ∧
      Balanced body ∧
      closer.kind = .closeDelimiter := by
  induction later generalizing earlier with
  | nil =>
      rw [List.append_nil] at closed
      exact absurd stays closed
  | cons token rest inductionHypothesis =>
      by_cases longer : StaysOpen (earlier ++ [token])
      · have regrouped :
            earlier ++ token :: rest = (earlier ++ [token]) ++ rest := by simp
        rw [regrouped] at closed ⊢
        exact inductionHypothesis longer closed
      · have bounded : closers earlier ≤ openers earlier :=
          stays earlier (List.prefix_refl _)
        have surplus :
            ¬ closers (earlier ++ [token]) ≤ openers (earlier ++ [token]) :=
          fun whole =>
            longer ((staysOpen_concat_iff earlier token).mpr ⟨stays, whole⟩)
        rw [openers_append, closers_append] at surplus
        by_cases closes : token.kind = .closeDelimiter
        · have oneClosed : closers [token] = 1 := by simp [closers, closes]
          exact ⟨earlier, token, rest, rfl, ⟨stays, by omega⟩, closes⟩
        · have noneClosed : closers [token] = 0 := by simp [closers, closes]
          omega

theorem StaysOpen.behind {front rest : List Token}
    (stays : StaysOpen (front ++ rest))
    (equal : openers front = closers front) : StaysOpen rest := by
  intro part isPart
  have bounded :=
    stays (front ++ part) ((List.prefix_append_right_inj front).mpr isPart)
  rw [openers_append, closers_append] at bounded
  omega

theorem Balanced.behind {front rest : List Token}
    (balanced : Balanced (front ++ rest))
    (equal : openers front = closers front) : Balanced rest := by
  have counts := balanced.2
  rw [openers_append, closers_append] at counts
  exact ⟨balanced.1.behind equal, by omega⟩

theorem not_balanced_of_closer {closer : Token}
    (closes : closer.kind = .closeDelimiter) (rest : List Token) :
    ¬ Balanced (closer :: rest) := by
  rintro ⟨stays, -⟩
  have bounded : closers [closer] ≤ openers [closer] := stays [closer] (by simp)
  obtain ⟨noneOpened, oneClosed⟩ := Token.count_of_closer closes
  omega

/-- What an opening delimiter opens is closed by the delimiter behind the
balanced tokens that follow it. -/
theorem Balanced.exists_closer {opener : Token} {rest : List Token}
    (balanced : Balanced ([opener] ++ rest))
    (opens : opener.kind.opening?.isSome = true) :
    ∃ body closer after, rest = body ++ closer :: after ∧ Balanced body ∧
      closer.kind = .closeDelimiter ∧ Balanced after := by
  obtain ⟨oneOpened, noneClosed⟩ := Token.count_of_opener opens
  have counts := balanced.2
  have closed : ¬ StaysOpen rest := by
    intro stays
    have bounded := stays rest (List.prefix_refl _)
    rw [openers_append, closers_append] at counts
    omega
  obtain ⟨body, closer, after, split, inner, closes⟩ :=
    exists_closer_of_not_staysOpen staysOpen_nil closed
  rw [List.nil_append] at split
  obtain ⟨noneOpened, oneClosed⟩ := Token.count_of_closer closes
  have innerCounts := inner.2
  have front : openers ([opener] ++ body ++ [closer]) =
      closers ([opener] ++ body ++ [closer]) := by
    simp only [openers_append, closers_append]
    omega
  have whole : [opener] ++ rest = ([opener] ++ body ++ [closer]) ++ after := by
    simp [split]
  rw [whole] at balanced
  exact ⟨body, closer, after, split, inner, closes, balanced.behind front⟩

/-- Balanced tokens begin with a token that is no delimiter, or with a
collection up to the delimiter that closes it, and what is behind is balanced
again. -/
theorem Balanced.induction {motive : List Token → Prop} (empty : motive [])
    (neither : ∀ token rest, token.kind.opening? = none →
      token.kind ≠ .closeDelimiter → Balanced rest → motive rest →
        motive (token :: rest))
    (nested : ∀ opener body closer after, opener.kind.opening?.isSome = true →
      Balanced body → closer.kind = .closeDelimiter → Balanced after →
        motive body → motive after →
          motive (opener :: (body ++ closer :: after)))
    {tokens : List Token} (balanced : Balanced tokens) : motive tokens := by
  induction size : tokens.length using Nat.strongRecOn generalizing tokens with
  | _ bound inductionHypothesis =>
  cases tokens with
  | nil => exact empty
  | cons token rest =>
      by_cases closes : token.kind = .closeDelimiter
      · exact absurd balanced (not_balanced_of_closer closes rest)
      by_cases opens : token.kind.opening?.isSome = true
      · obtain ⟨body, closer, after, rfl, inner, bodyCloses, outer⟩ :=
          balanced.exists_closer opens
        have sizes : body.length < bound ∧ after.length < bound := by
          simp only [List.length_cons, List.length_append] at size
          omega
        exact nested token body closer after opens inner bodyCloses outer
          (inductionHypothesis _ sizes.1 inner rfl)
            (inductionHypothesis _ sizes.2 outer rfl)
      · have noOpener : token.kind.opening? = none := by simpa using opens
        obtain ⟨noneOpened, noneClosed⟩ :=
          Token.count_of_neither noOpener closes
        have whole : Balanced ([token] ++ rest) := balanced
        have restBalanced : Balanced rest :=
          whole.behind (noneOpened.trans noneClosed.symm)
        have shorter : rest.length < bound := by
          rw [← size]
          exact Nat.lt_succ_self _
        exact neither token rest noOpener closes restBalanced
          (inductionHypothesis _ shorter restBalanced rfl)

/-! ## What the tokens before say -/

/-- The sign that the last of some tokens leaves behind. -/
def Lookback.behind (tokens : List Token) : Lookback :=
  match tokens.getLast? with
  | none => .plain
  | some last => .ofKind last.kind

/-- What is expected behind some tokens. -/
def Expectation.behind (tokens : List Token) : Expectation :=
  match tokens.getLast? with
  | none => .value .plain
  | some last =>
      if last.kind = .rest then .name last.position
        else .value (.ofKind last.kind)

/-- What a token opens that has these tokens before it. -/
def Token.opening? (before : List Token) (token : Token) : Option Opening :=
  match token.kind with
  | .openParen => some ⟨.ofParen (.behind before), token.position⟩
  | .openBracket => some ⟨.vector, token.position⟩
  | .openBrace => some ⟨.ofBrace (.behind before), token.position⟩
  | _ => none

theorem Token.opening?_eq_none {token : Token}
    (noOpener : token.kind.opening? = none) (before : List Token) :
    token.opening? before = none := by
  obtain ⟨kind, text, position⟩ := token
  cases kind <;> first | rfl | cases noOpener

theorem Token.count_of_opening? {before : List Token} {token : Token}
    {opening : Opening} (opens : token.opening? before = some opening) :
    openers [token] = 1 ∧ closers [token] = 0 := by
  obtain ⟨kind, text, position⟩ := token
  cases kind <;> first | exact ⟨rfl, rfl⟩ | cases opens

theorem Expectation.behind_concat (tokens : List Token) (last : Token) :
    Expectation.behind (tokens ++ [last]) =
      if last.kind = .rest then .name last.position
        else .value (.ofKind last.kind) := by
  simp [behind]

theorem Lookback.behind_of_expectation {tokens : List Token}
    {before : Lookback} (waits : Expectation.behind tokens = .value before) :
    Lookback.behind tokens = before := by
  unfold Expectation.behind at waits
  unfold Lookback.behind
  cases ending : tokens.getLast? with
  | none =>
      rw [ending] at waits
      cases waits
      rfl
  | some last =>
      rw [ending] at waits
      by_cases ampersand : last.kind = .rest
      · simp [ampersand] at waits
      · simpa [ampersand] using waits

/-- Whether a collection is open behind some tokens, with so many open
collections inside it. -/
def OpenBehind (tokens : List Token) (depth : Nat) (opening : Opening) : Prop :=
  ∃ before token after, tokens = before ++ token :: after ∧
    token.opening? before = some opening ∧ StaysOpen after ∧
      openers after = closers after + depth

theorem not_openBehind_nil (depth : Nat) (opening : Opening) :
    ¬ OpenBehind [] depth opening := by
  rintro ⟨before, token, after, split, -⟩
  simp at split

/-- Behind one token more a collection is open that the token opens, or one
that was open before, at a depth that the token may change. -/
theorem openBehind_concat_iff (tokens : List Token) (token : Token)
    (depth : Nat) (opening : Opening) :
    OpenBehind (tokens ++ [token]) depth opening ↔
      depth = 0 ∧ token.opening? tokens = some opening ∨
        ∃ outer, OpenBehind tokens outer opening ∧
          outer + openers [token] = depth + closers [token] := by
  constructor
  · rintro ⟨before, opener, after, split, opens, stays, count⟩
    rcases List.eq_nil_or_concat after with rfl | ⟨inner, last, rfl⟩
    · obtain ⟨rfl, same⟩ := List.append_inj' split rfl
      cases same
      refine .inl ⟨?_, opens⟩
      simpa using count.symm
    · rw [List.concat_eq_append] at split stays count
      have parts :
          tokens ++ [token] = (before ++ opener :: inner) ++ [last] := by
        simpa using split
      obtain ⟨rfl, same⟩ := List.append_inj' parts rfl
      cases same
      have innerStays := ((staysOpen_concat_iff inner token).mp stays).1
      have bounded := innerStays inner (List.prefix_refl _)
      simp only [openers_append, closers_append] at count
      refine .inr ⟨openers inner - closers inner,
        ⟨before, opener, inner, rfl, opens, innerStays, ?_⟩, ?_⟩
      · omega
      · omega
  · rintro (⟨rfl, opens⟩ |
      ⟨outer, ⟨before, opener, inner, rfl, opens, stays, count⟩, change⟩)
    · exact ⟨tokens, token, [], rfl, opens, staysOpen_nil, rfl⟩
    · refine ⟨before, opener, inner ++ [token], by simp, opens, ?_, ?_⟩
      · rw [staysOpen_concat_iff]
        refine ⟨stays, ?_⟩
        simp only [openers_append, closers_append]
        omega
      · simp only [openers_append, closers_append]
        omega

theorem openBehind_concat_of_neither {token : Token}
    (noOpener : token.kind.opening? = none)
    (noCloser : token.kind ≠ .closeDelimiter) (tokens : List Token)
    (depth : Nat) (opening : Opening) :
    OpenBehind (tokens ++ [token]) depth opening ↔
      OpenBehind tokens depth opening := by
  have opensNothing : token.opening? tokens = none :=
    Token.opening?_eq_none noOpener tokens
  obtain ⟨noneOpened, noneClosed⟩ := Token.count_of_neither noOpener noCloser
  rw [openBehind_concat_iff, opensNothing, noneOpened, noneClosed]
  simp

theorem openBehind_concat_of_opening {tokens : List Token} {token : Token}
    {opened : Opening} (opens : token.opening? tokens = some opened)
    (depth : Nat) (opening : Opening) :
    OpenBehind (tokens ++ [token]) depth opening ↔
      depth = 0 ∧ opened = opening ∨
        ∃ outer, OpenBehind tokens outer opening ∧ outer + 1 = depth := by
  obtain ⟨oneOpened, noneClosed⟩ := Token.count_of_opening? opens
  rw [openBehind_concat_iff, opens, oneOpened, noneClosed]
  simp

theorem openBehind_concat_of_closer {token : Token}
    (closes : token.kind = .closeDelimiter) (tokens : List Token)
    (depth : Nat) (opening : Opening) :
    OpenBehind (tokens ++ [token]) depth opening ↔
      OpenBehind tokens (depth + 1) opening := by
  have opensNothing : token.opening? tokens = none := by
    simp [Token.opening?, closes]
  obtain ⟨noneOpened, oneClosed⟩ := Token.count_of_closer closes
  rw [openBehind_concat_iff, opensNothing, noneOpened, oneClosed]
  simp

/-! ## The stack of a builder -/

namespace Builder

def openings (builder : Builder) : List Opening :=
  builder.frames.map fun frame => ⟨frame.enclosure, frame.position⟩

@[simp]
theorem openings_add (builder : Builder) (value : Node) :
    (builder.add value).openings = builder.openings := by
  obtain ⟨expects, top, frames, scopes⟩ := builder
  cases frames <;> rfl

theorem openings_leave (builder : Builder) (frame : Frame) :
    (builder.perform (.leave frame)).openings = builder.openings.tail := by
  rw [perform, openings_add]
  exact List.map_tail

theorem openings_innermost {builder : Builder} {frame : Frame}
    (isTop : builder.frames.head? = some frame) :
    builder.openings[0]? = some ⟨frame.enclosure, frame.position⟩ := by
  rw [← List.head?_eq_getElem?, openings, List.head?_map, isTop]
  rfl

/-- What a builder is like that took these tokens and no others. -/
structure Follows (builder : Builder) (tokens : List Token) : Prop where
  expects : builder.expects = .behind tokens
  openings : ∀ depth opening,
    builder.openings[depth]? = some opening ↔ OpenBehind tokens depth opening
  depth : openers tokens = closers tokens + builder.openings.length
  scopes : builder.scopes.length =
    builder.openings.countP fun opening =>
      opening.enclosure = .anonymousFunction

theorem follows_start : start.Follows [] where
  expects := rfl
  openings depth opening := by
    have nothing := not_openBehind_nil depth opening
    simp [openings, start, nothing]
  depth := rfl
  scopes := rfl

/-- Which tokens call for an action, with these tokens before them. -/
def Action.Fits (builder : Builder) (tokens : List Token) (token : Token) :
    Action → Prop
  | .expect expectation =>
      token.kind.opening? = none ∧ token.kind ≠ .closeDelimiter ∧
        Expectation.behind (tokens ++ [token]) = expectation
  | .add _ | .use _ =>
      token.kind.opening? = none ∧ token.kind ≠ .closeDelimiter ∧
        Expectation.behind (tokens ++ [token]) = .value .plain
  | .enter enclosure position =>
      token.opening? tokens = some ⟨enclosure, position⟩ ∧
        Expectation.behind (tokens ++ [token]) = .value .plain
  | .leave frame =>
      token.kind = .closeDelimiter ∧ builder.frames.head? = some frame ∧
        Expectation.behind (tokens ++ [token]) = .value .plain

/-- Only closing a collection fits a closing delimiter. -/
theorem Action.Fits.eq_leave {builder : Builder} {tokens : List Token}
    {closer : Token} {action : Action}
    (fits : action.Fits builder tokens closer)
    (closes : closer.kind = .closeDelimiter) :
    ∃ frame, action = .leave frame ∧ builder.frames.head? = some frame := by
  cases action with
  | leave frame => exact ⟨frame, rfl, fits.2.1⟩
  | enter enclosure position =>
      obtain ⟨opens, -⟩ := fits
      simp [Token.opening?, closes] at opens
  | _ => exact absurd closes fits.2.1

/-- Only opening a collection fits an opening delimiter. -/
theorem Action.Fits.exists_enter {builder : Builder} {before : List Token}
    {opener : Token} {action : Action}
    (fits : action.Fits builder before opener)
    (opens : opener.kind.opening?.isSome = true) :
    ∃ opening, opener.opening? before = some opening ∧
      action = .enter opening.enclosure opening.position := by
  cases action with
  | enter enclosure position => exact ⟨⟨enclosure, position⟩, fits.1, rfl⟩
  | leave frame =>
      rw [fits.1] at opens
      cases opens
  | _ =>
      rw [fits.1] at opens
      cases opens

theorem length_note (placeholder : Placeholder)
    (scopes : List (List Placeholder)) :
    (note placeholder scopes).length = scopes.length := by
  cases scopes <;> rfl

/-- What a token calls for fits the tokens before it. -/
theorem fits_of_action? {builder : Builder} {tokens : List Token}
    {token : Token} {action : Action}
    (expects : builder.expects = .behind tokens)
    (called : builder.action? token = .ok action) :
    action.Fits builder tokens token := by
  cases action?_eq_ok_iff.mp called with
  | openParen waits | openBracket waits | openBrace waits =>
      have sign := Lookback.behind_of_expectation (expects.symm.trans waits)
      exact ⟨by simp [Token.opening?, sign], Expectation.behind_concat _ _⟩
  | closer _ innermost => exact ⟨rfl, innermost, Expectation.behind_concat _ _⟩
  | _ => exact ⟨rfl, by simp, Expectation.behind_concat _ _⟩

namespace Follows

variable {builder next : Builder} {tokens : List Token} {token : Token}

theorem of_neither (follows : builder.Follows tokens)
    (noOpener : token.kind.opening? = none)
    (noCloser : token.kind ≠ .closeDelimiter)
    (expects : next.expects = .behind (tokens ++ [token]))
    (same : next.openings = builder.openings)
    (scopes : next.scopes.length = builder.scopes.length) :
    next.Follows (tokens ++ [token]) where
  expects := expects
  openings depth opening := by
    rw [same, follows.openings, openBehind_concat_of_neither noOpener noCloser]
  depth := by
    obtain ⟨noneOpened, noneClosed⟩ := Token.count_of_neither noOpener noCloser
    have before := follows.depth
    rw [openers_append, closers_append, noneOpened, noneClosed, same]
    omega
  scopes := by
    rw [scopes, same, follows.scopes]

theorem of_opening {opened : Opening} (follows : builder.Follows tokens)
    (opens : token.opening? tokens = some opened)
    (expects : next.expects = .behind (tokens ++ [token]))
    (pushed : next.openings = opened :: builder.openings)
    (scopes : next.scopes.length = builder.scopes.length + if opened.enclosure =
      .anonymousFunction then 1 else 0) :
    next.Follows (tokens ++ [token]) where
  expects := expects
  openings depth opening := by
    rw [pushed, openBehind_concat_of_opening opens]
    cases depth with
    | zero => simp
    | succ outer => simp [follows.openings]
  depth := by
    obtain ⟨oneOpened, noneClosed⟩ := Token.count_of_opening? opens
    have before := follows.depth
    rw [openers_append, closers_append, oneOpened, noneClosed, pushed,
      List.length_cons]
    omega
  scopes := by
    rw [scopes, pushed, List.countP_cons, follows.scopes]
    simp

theorem of_closer {closed : Opening} (follows : builder.Follows tokens)
    (closes : token.kind = .closeDelimiter)
    (expects : next.expects = .behind (tokens ++ [token]))
    (popped : builder.openings = closed :: next.openings)
    (scopes : builder.scopes.length = next.scopes.length + if closed.enclosure =
      .anonymousFunction then 1 else 0) :
    next.Follows (tokens ++ [token]) where
  expects := expects
  openings depth opening := by
    rw [openBehind_concat_of_closer closes, ← follows.openings, popped,
      List.getElem?_cons_succ]
  depth := by
    obtain ⟨noneOpened, oneClosed⟩ := Token.count_of_closer closes
    have before := follows.depth
    rw [popped, List.length_cons] at before
    rw [openers_append, closers_append, noneOpened, oneClosed]
    omega
  scopes := by
    have before := follows.scopes
    rw [scopes, popped, List.countP_cons] at before
    simpa using before

/-- A builder that follows some tokens follows them and the next one, when it
does what that calls for. -/
theorem perform {action : Action} (follows : builder.Follows tokens)
    (fits : action.Fits builder tokens token) :
    (builder.perform action).Follows (tokens ++ [token]) := by
  cases action with
  | expect expectation =>
      obtain ⟨noOpener, noCloser, expected⟩ := fits
      exact follows.of_neither noOpener noCloser expected.symm rfl rfl
  | add value =>
      obtain ⟨noOpener, noCloser, expected⟩ := fits
      refine follows.of_neither noOpener noCloser ?_ (openings_add _ _) ?_
      · exact (expects_add _ _).trans expected.symm
      · exact congrArg List.length (scopes_add _ _)
  | use placeholder =>
      obtain ⟨noOpener, noCloser, expected⟩ := fits
      refine follows.of_neither noOpener noCloser ?_ (openings_add _ _) ?_
      · exact (expects_add _ _).trans expected.symm
      · exact (congrArg List.length (scopes_add _ _)).trans (length_note _ _)
  | enter enclosure position =>
      obtain ⟨opens, expected⟩ := fits
      refine follows.of_opening opens expected.symm rfl ?_
      by_cases isFunction : enclosure = .anonymousFunction
      · simp [Builder.perform, isFunction]
      · simp [Builder.perform, isFunction]
  | leave frame =>
      obtain ⟨closes, innermost, expected⟩ := fits
      obtain ⟨outer, frames⟩ := List.head?_eq_some_iff.mp innermost
      have popped : builder.openings =
          ⟨frame.enclosure, frame.position⟩ ::
            (builder.perform (.leave frame)).openings := by
        rw [openings_leave, Builder.openings, frames]
        rfl
      refine follows.of_closer closes ((expects_add _ _).trans expected.symm)
        popped ?_
      by_cases isFunction : frame.enclosure = .anonymousFunction
      · have used := follows.scopes
        rw [popped, List.countP_cons,
          if_pos (by simpa using isFunction)] at used
        have tail :
            (builder.perform (.leave frame)).scopes = builder.scopes.tail := by
          simp [Builder.perform, isFunction]
        rw [tail, List.length_tail, if_pos isFunction]
        omega
      · simp [Builder.perform, isFunction]

theorem read (follows : builder.Follows tokens)
    (accepted : builder.read token = .ok next) :
    next.Follows (tokens ++ [token]) := by
  obtain ⟨action, called, rfl⟩ := read_eq_ok_iff.mp accepted
  exact follows.perform (fits_of_action? follows.expects called)

end Follows

/-- A builder that took some tokens without refusing one has open what is open
behind them. -/
theorem follows_of_feed {tokens : List Token} {builder : Builder}
    (accepted : feed read start tokens = (builder, none)) :
    builder.Follows tokens := by
  have kept (earlier : List Token) (reached : Builder) (last : Token)
      (next : Builder)
      (_ : feed read start earlier = (reached, none))
        (follows : reached.Follows earlier)
      (taken : reached.read last = .ok next) :
        next.Follows (earlier ++ [last]) :=
    follows.read taken
  exact feed_induction follows_start kept accepted

/-- A builder takes only tokens that close no more than is open. -/
theorem staysOpen_of_feed {tokens : List Token} {builder : Builder}
    (accepted : feed read start tokens = (builder, none)) :
    StaysOpen tokens := by
  rintro part ⟨rest, rfl⟩
  obtain ⟨reached, before, -⟩ := feed_append_eq_none_iff.mp accepted
  have depth := (follows_of_feed before).depth
  omega

end Builder

end LispReader
