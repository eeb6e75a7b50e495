import LispReader.Proofs.Building.Nesting

/-!
# Tokens at fault

Trees can be built from some tokens exactly when none of them is at fault and
every collection is closed. Whether a token is at fault depends on the tokens
before it, by counting, and for an ampersand on the token behind it. The first
token at fault decides the error. Main statement: `read_outcome`.
-/

namespace LispReader

open Descent (Opening)

/-- Whether a symbol is a percent sign, alone or with one digit. -/
def IsArgument (text : String) : Prop :=
  text = "%" ∨ ∃ digit, isDecimalDigit digit = true ∧ text.toList = ['%', digit]

/-- Whether a parenthesis with the sign `#` directly before it is still open
behind some tokens. -/
def InFunction (tokens : List Token) : Prop :=
  ∃ before opener after, tokens = before ++ opener :: after ∧
    before.getLast?.map Token.kind = some .dispatch ∧ opener.kind = .openParen ∧
      StaysOpen after

/-- Why a token is at fault that has these tokens before and behind it. A
symbol directly behind an ampersand is a name, whatever it looks like, and is
not at fault. -/
inductive Token.Fault (before after : List Token) : Token → ReadError → Prop
  | ampersand {text : Option String} {position : Position} :
      Descent.name? after = none →
      Fault before after ⟨.rest, text, position⟩
        (.invalidCharacter '&' .expression position)
  | closer {text : Option String} {position : Position} :
      closers before = openers before →
      Fault before after ⟨.closeDelimiter, text, position⟩
        (.invalidCharacter ((text.getD "").toList.headD ')') .expression
            position)
  | argument {text : String} {position : Position} :
      IsArgument text →
      before.getLast?.map Token.kind ≠ some .rest →
      ¬ InFunction before →
      Fault before after ⟨.symbol, some text, position⟩
        (.notAnonymousFunction text)

def FaultAt (tokens : List Token) (index : Nat) (error : ReadError) : Prop :=
  ∃ token, tokens[index]? = some token ∧
    token.Fault (tokens.take index) (tokens.drop (index + 1)) error

def Faultless (tokens : List Token) : Prop :=
  ∀ index error, ¬ FaultAt tokens index error

def FaultlessUpTo (tokens : List Token) (count : Nat) : Prop :=
  ∀ index < count, ∀ error, ¬ FaultAt tokens index error

/-- The error of the first token at fault. -/
def FirstFault (tokens : List Token) (error : ReadError) : Prop :=
  ∃ index, FaultAt tokens index error ∧ FaultlessUpTo tokens index

/-- The error of the innermost collection that is open behind all the tokens:
everything opened inside it is closed again, and it is not. -/
def LeftOpen (tokens : List Token) (error : ReadError) : Prop :=
  ∃ before opener after delimiter, tokens = before ++ opener :: after ∧
    opener.kind.opening? = some delimiter ∧ Balanced after ∧
      error = .unclosed delimiter opener.position

theorem Placeholder.exists_ofText?_iff (text : String) :
    (∃ placeholder, ofText? text = some placeholder) ↔ IsArgument text := by
  constructor
  · rintro ⟨placeholder, found⟩
    unfold ofText? at found
    split at found
    · rename_i bare
      exact .inl (String.toList_injective bare)
    · rename_i digit numbered
      split at found
      · rename_i isDigit
        exact .inr ⟨digit, isDigit, numbered⟩
      · cases found
    · cases found
  · rintro (rfl | ⟨digit, isDigit, written⟩)
    · exact ⟨.bare, rfl⟩
    · exact ⟨.numbered (decimalValue [digit]), by
        simp [ofText?, written, isDigit]⟩

theorem Word.exists_argument_iff (text : String) :
    (∃ placeholder, ofText text = .argument placeholder) ↔ IsArgument text := by
  simp only [ofText_eq_argument_iff_ofText?, Placeholder.exists_ofText?_iff]

/-! ## Anonymous functions that are open -/

theorem Lookback.behind_eq_dispatch_iff (tokens : List Token) :
    Lookback.behind tokens = .dispatch ↔
      tokens.getLast?.map Token.kind = some .dispatch := by
  unfold Lookback.behind
  cases tokens.getLast? with
  | none => simp
  | some last =>
      obtain ⟨kind, text, position⟩ := last
      cases kind <;> simp [Lookback.ofKind]

theorem Token.opening?_function_iff (before : List Token) (token : Token) :
    (∃ opening, token.opening? before = some opening ∧
        opening.enclosure = .anonymousFunction) ↔
      before.getLast?.map Token.kind = some .dispatch ∧
        token.kind = .openParen := by
  rw [← Lookback.behind_eq_dispatch_iff]
  obtain ⟨kind, text, position⟩ := token
  simp only [opening?]
  generalize Lookback.behind before = sign
  cases kind with
  | openParen | openBrace =>
      cases sign <;> simp [Enclosure.ofParen, Enclosure.ofBrace]
  | _ => simp

/-- A function is open where one of the open collections is a function. -/
theorem inFunction_iff (tokens : List Token) :
    InFunction tokens ↔
      ∃ depth opening, OpenBehind tokens depth opening ∧
        opening.enclosure = .anonymousFunction := by
  constructor
  · rintro ⟨before, opener, after, split, sign, paren, stays⟩
    have bounded : closers after ≤ openers after :=
      stays after (List.prefix_refl _)
    have count : openers after =
        closers after + (openers after - closers after) := by omega
    obtain ⟨opening, opens, isFunction⟩ :=
      (Token.opening?_function_iff before opener).mpr ⟨sign, paren⟩
    exact ⟨_, opening, ⟨before, opener, after, split, opens, stays, count⟩,
      isFunction⟩
  · rintro ⟨depth, opening, ⟨before, opener, after, split, opens, stays, -⟩,
      isFunction⟩
    obtain ⟨sign, paren⟩ :=
      (Token.opening?_function_iff before opener).mp ⟨opening, opens,
          isFunction⟩
    exact ⟨before, opener, after, split, sign, paren, stays⟩

namespace Builder.Follows

variable {builder : Builder} {tokens : List Token}

theorem scopes_isEmpty_iff (follows : builder.Follows tokens) :
    builder.scopes.isEmpty = true ↔ ¬ InFunction tokens := by
  rw [inFunction_iff, List.isEmpty_iff, ← List.length_eq_zero_iff,
    follows.scopes, List.countP_eq_zero]
  constructor
  · rintro none ⟨depth, opening, isOpen, isFunction⟩
    have member :=
      List.mem_of_getElem? ((follows.openings depth opening).mpr isOpen)
    exact none opening member (by simpa using isFunction)
  · intro outside opening member isFunction
    obtain ⟨depth, found⟩ := List.getElem?_of_mem member
    have isOpen := (follows.openings depth opening).mp found
    exact outside ⟨depth, opening, isOpen, by simpa using isFunction⟩

theorem frames_eq_nil_iff (follows : builder.Follows tokens) :
    builder.frames = [] ↔ closers tokens = openers tokens := by
  have depth := follows.depth
  rw [Builder.openings, List.length_map] at depth
  rw [← List.length_eq_zero_iff]
  omega

theorem exists_ampersand (follows : builder.Follows tokens)
    {ampersand : Position} (waits : builder.expects = .name ampersand) :
    ∃ earlier last, tokens = earlier ++ [last] ∧ last.kind = .rest ∧
      last.position = ampersand := by
  rw [follows.expects] at waits
  rcases List.eq_nil_or_concat tokens with rfl | ⟨earlier, last, rfl⟩
  · cases waits
  · rw [List.concat_eq_append, Expectation.behind_concat] at waits
    by_cases isRest : last.kind = .rest
    · rw [if_pos isRest] at waits
      cases waits
      exact ⟨earlier, last, List.concat_eq_append, isRest, rfl⟩
    · rw [if_neg isRest] at waits
      cases waits

theorem last_ne_rest (follows : builder.Follows tokens) {before : Lookback}
    (waits : builder.expects = .value before) :
    tokens.getLast?.map Token.kind ≠ some .rest := by
  intro isRest
  obtain ⟨last, isLast, kind⟩ := Option.map_eq_some_iff.mp isRest
  obtain ⟨earlier, rfl⟩ := List.getLast?_eq_some_iff.mp isLast
  rw [follows.expects, Expectation.behind_concat, if_pos kind] at waits
  cases waits

/-- Where a value may begin, only a token at fault is refused. -/
theorem exists_action (follows : builder.Follows tokens) {before : Lookback}
    (waits : builder.expects = .value before) {token : Token}
    {after : List Token}
    (faultless : ∀ error, ¬ token.Fault tokens after error) :
    ∃ action, builder.action? token = .ok action := by
  obtain ⟨kind, text, position⟩ := token
  have direct : builder.action? ⟨kind, text, position⟩ =
      builder.valueAction? before ⟨kind, text, position⟩ := by
    simp only [action?, waits]
  rw [direct]
  cases kind with
  | closeDelimiter =>
      have unequal : builder.frames ≠ [] := by
        intro empty
        exact faultless _ (.closer (follows.frames_eq_nil_iff.mp empty))
      obtain ⟨frame, outer, split⟩ := List.exists_cons_of_ne_nil unequal
      exact ⟨.leave frame, by simp [valueAction?, closeAction?, split]⟩
  | symbol =>
      simp only [valueAction?, symbolAction?]
      cases word : Word.ofText (text.getD "") with
      | leaf value => exact ⟨_, rfl⟩
      | argument placeholder =>
          have argument := (Word.exists_argument_iff _).mp ⟨placeholder, word⟩
          cases text with
          | none =>
              rcases argument with same | ⟨digit, -, written⟩
              · simp at same
              · simp at written
          | some text =>
              have inside : builder.scopes.isEmpty = false := by
                rw [Bool.eq_false_iff]
                intro empty
                exact faultless _
                  (.argument argument (follows.last_ne_rest waits)
                  (follows.scopes_isEmpty_iff.mp empty))
              simp [inside]
  | keyword | string => cases before <;> exact ⟨_, rfl⟩
  | _ => exact ⟨_, rfl⟩

/-- A token at fault is refused, except for an ampersand, behind which there is
no name. -/
theorem refusal_of_fault (follows : builder.Follows tokens)
    {before : Lookback} (waits : builder.expects = .value before)
    {token : Token} {after : List Token} {error : ReadError}
    (fault : token.Fault tokens after error) :
    builder.action? token = .error error ∨
      ∃ position, builder.action? token = .ok (.expect (.name position)) ∧
        Descent.name? after = none ∧
          error = .invalidCharacter '&' .expression position := by
  have direct : builder.action? token = builder.valueAction? before token := by
    simp only [action?, waits]
  rw [direct]
  cases fault with
  | ampersand unnamed => exact .inr ⟨_, rfl, unnamed, rfl⟩
  | closer balanced =>
      have empty := follows.frames_eq_nil_iff.mpr balanced
      exact .inl (by simp [valueAction?, closeAction?, empty])
  | argument isArgument notName outside =>
      obtain ⟨placeholder, word⟩ := (Word.exists_argument_iff _).mpr isArgument
      have empty := follows.scopes_isEmpty_iff.mpr outside
      exact .inl (by simp [valueAction?, symbolAction?, word, empty])

/-- A token at fault ends the run, if need be at the token behind it. -/
theorem run_of_fault (follows : builder.Follows tokens) {before : Lookback}
    (waits : builder.expects = .value before) {token : Token}
    {after : List Token} {error : ReadError}
    (fault : token.Fault tokens after error) :
    builder.run (token :: after) = .error error := by
  rcases follows.refusal_of_fault waits fault with
    refused | ⟨position, called, unnamed, rfl⟩
  · exact run_cons_of_error refused after
  · rw [run_cons_of_ok called, run_name, unnamed]

end Builder.Follows

/-! ## The first fault -/

theorem Builder.read_of_symbol {builder : Builder} {ampersand : Position}
    (waits : builder.expects = .name ampersand) (name : String)
    (position : Position) :
    builder.read ⟨.symbol, some name, position⟩ =
      .ok (builder.add (.rest (Name.normalize name))) := by
  simp [read, action?, waits, perform]

theorem name?_ne_none {tokens : List Token} {index : Nat} {ampersand : Token}
    (here : tokens[index]? = some ampersand) (isRest : ampersand.kind = .rest)
    (faultless : ∀ error, ¬ FaultAt tokens index error) :
    Descent.name? (tokens.drop (index + 1)) ≠ none := by
  intro unnamed
  obtain ⟨kind, text, position⟩ := ampersand
  cases isRest
  exact faultless _ ⟨_, here, .ampersand unnamed⟩

theorem name?_append {tokens : List Token} (nonempty : tokens ≠ [])
    (later : List Token) :
    Descent.name? (tokens ++ later) = Descent.name? tokens := by
  rcases List.exists_cons_of_ne_nil nonempty with
    ⟨⟨kind, text, position⟩, rest, rfl⟩
  cases kind with
  | symbol => cases text <;> rfl
  | _ => rfl

theorem exists_of_name?_ne_none {token : Token} {after : List Token}
    (named : Descent.name? (token :: after) ≠ none) :
    ∃ name position, token = ⟨.symbol, some name, position⟩ := by
  obtain ⟨kind, text, position⟩ := token
  cases kind with
  | symbol =>
      cases text with
      | none => exact absurd rfl named
      | some name => exact ⟨name, position, rfl⟩
  | _ => exact absurd rfl named

/-- Behind an ampersand that is not at fault stands its name. -/
theorem exists_name_of_faultlessUpTo {tokens earlier : List Token}
    {index : Nat} {ampersand token : Token}
    (faultless : FaultlessUpTo tokens index)
    (split : tokens.take index = earlier ++ [ampersand])
    (isRest : ampersand.kind = .rest) (here : tokens[index]? = some token) :
    ∃ name position, token = ⟨.symbol, some name, position⟩ := by
  have bounded : index < tokens.length := (List.getElem?_eq_some_iff.mp here).1
  have size : earlier.length + 1 = index := by
    have lengths := congrArg List.length split
    rw [List.length_take, List.length_append, List.length_singleton] at lengths
    omega
  have last : tokens[earlier.length]? = some ampersand := by
    have inFront : (tokens.take index)[earlier.length]? = some ampersand := by
      simp [split]
    rwa [List.getElem?_take_of_lt (by omega)] at inFront
  have named := name?_ne_none last isRest (faultless _ (by omega))
  rw [size, List.drop_eq_getElem_cons bounded] at named
  have same : tokens[index] = token := (List.getElem?_eq_some_iff.mp here).2
  rw [same] at named
  exact exists_of_name?_ne_none named

/-- A builder takes all tokens up to the first one at fault. -/
theorem exists_feed_of_faultlessUpTo {tokens : List Token} {count : Nat}
    (faultless : FaultlessUpTo tokens count) :
    ∃ builder, feed Builder.read Builder.start (tokens.take count) =
      (builder, none) := by
  induction count with
  | zero => exact ⟨_, rfl⟩
  | succ index inductionHypothesis =>
      have before : FaultlessUpTo tokens index :=
        fun earlier less => faultless earlier (Nat.lt_succ_of_lt less)
      obtain ⟨builder, accepted⟩ := inductionHypothesis before
      cases here : tokens[index]? with
      | none =>
          have same : tokens.take (index + 1) = tokens.take index := by
            simp [List.take_add_one, here]
          exact ⟨builder, by rw [same, accepted]⟩
      | some token =>
          have longer :
              tokens.take (index + 1) = tokens.take index ++ [token] := by
            simp [List.take_add_one, here]
          have follows := Builder.follows_of_feed accepted
          have taken : ∃ next, builder.read token = .ok next := by
            cases waits : builder.expects with
            | name ampersand =>
                obtain ⟨earlier, last, split, isRest, -⟩ :=
                  follows.exists_ampersand waits
                obtain ⟨name, position, rfl⟩ :=
                  exists_name_of_faultlessUpTo before split isRest here
                exact ⟨_, Builder.read_of_symbol waits name position⟩
            | value sign =>
                have noFault : ∀ error,
                    ¬ token.Fault (tokens.take index) (tokens.drop (index + 1))
                      error := by
                  intro error fault
                  exact faultless index (Nat.lt_succ_self _) error ⟨token,
                    here, fault⟩
                obtain ⟨action, called⟩ := follows.exists_action waits noFault
                exact ⟨builder.perform action,
                  Builder.read_eq_ok_iff.mpr ⟨action, called, rfl⟩⟩
          obtain ⟨next, read⟩ := taken
          refine ⟨next, ?_⟩
          rw [longer, feed_append_eq_none_iff]
          exact ⟨builder, accepted, feed_singleton_eq_none_iff.mpr read⟩

theorem FaultAt.exists_split {tokens : List Token} {index : Nat}
    {error : ReadError} (fault : FaultAt tokens index error) :
    ∃ token, tokens[index]? = some token ∧
      tokens = tokens.take index ++ token :: tokens.drop (index + 1) ∧
      token.Fault (tokens.take index) (tokens.drop (index + 1)) error := by
  obtain ⟨token, here, fault⟩ := fault
  obtain ⟨bounded, same⟩ := List.getElem?_eq_some_iff.mp here
  refine ⟨token, here, ?_, fault⟩
  rw [← same, ← List.drop_eq_getElem_cons bounded, List.take_append_drop]

/-- At the first fault the builder has taken all tokens before and expects a
value. A symbol behind an ampersand is its name, and no other token passes the
ampersand. -/
theorem exists_feed_of_firstFault {tokens : List Token} {index : Nat}
    {error : ReadError} (faultAt : FaultAt tokens index error)
    (faultless : FaultlessUpTo tokens index) :
    ∃ (builder : Builder) (sign : Lookback) (token : Token),
      feed Builder.read Builder.start (tokens.take index) = (builder, none) ∧
      builder.expects = .value sign ∧
      tokens = tokens.take index ++ token :: tokens.drop (index + 1) ∧
      token.Fault (tokens.take index) (tokens.drop (index + 1)) error := by
  obtain ⟨token, here, split, fault⟩ := faultAt.exists_split
  obtain ⟨builder, accepted⟩ := exists_feed_of_faultlessUpTo faultless
  cases waits : builder.expects with
  | value sign => exact ⟨builder, sign, token, accepted, waits, split, fault⟩
  | name ampersand =>
      have follows := Builder.follows_of_feed accepted
      obtain ⟨earlier, last, before, isRest, -⟩ :=
        follows.exists_ampersand waits
      obtain ⟨name, position, rfl⟩ :=
        exists_name_of_faultlessUpTo faultless before isRest here
      cases fault with
      | argument _ notName _ => simp [before, isRest] at notName

theorem read_of_firstFault {tokens : List Token} {error : ReadError}
    (first : FirstFault tokens error) : read tokens = .error error := by
  obtain ⟨index, faultAt, faultless⟩ := first
  obtain ⟨builder, sign, token, accepted, waits, split, fault⟩ :=
    exists_feed_of_firstFault faultAt faultless
  rw [split, read_append_of_feed accepted]
  exact (Builder.follows_of_feed accepted).run_of_fault waits fault

/-- Either some token is the first one at fault or none is. -/
theorem firstFault_or_faultless (tokens : List Token) :
    (∃ error, FirstFault tokens error) ∨ Faultless tokens := by
  suffices upTo : ∀ count, (∃ error, FirstFault tokens error) ∨
    FaultlessUpTo tokens count by
    rcases upTo tokens.length with found | faultless
    · exact .inl found
    · refine .inr fun index error fault => ?_
      obtain ⟨token, here, _⟩ := id fault
      obtain ⟨bounded, -⟩ := List.getElem?_eq_some_iff.mp here
      exact faultless index bounded error fault
  intro count
  induction count with
  | zero => exact .inr nofun
  | succ index inductionHypothesis =>
      rcases inductionHypothesis with found | faultless
      · exact .inl found
      · by_cases fault : ∃ error, FaultAt tokens index error
        · obtain ⟨error, fault⟩ := fault
          exact .inl ⟨error, index, fault, faultless⟩
        · refine .inr fun earlier less error faultEarlier => ?_
          rcases Nat.lt_succ_iff_lt_or_eq.mp less with before | rfl
          · exact faultless earlier before error faultEarlier
          · exact fault ⟨error, faultEarlier⟩

theorem faultless_of_read {tokens : List Token} {nodes : List Node}
    (success : read tokens = .ok nodes) : Faultless tokens := by
  rcases firstFault_or_faultless tokens with ⟨error, first⟩ | faultless
  · rw [read_of_firstFault first] at success
    cases success
  · exact faultless

/-- Of the tokens behind a token only the name behind an ampersand bears on its
fault. -/
theorem Token.Fault.of_name?_eq {before after other : List Token}
    {token : Token} {error : ReadError}
    (fault : token.Fault before after error)
    (named : token.kind = .rest → Descent.name? other = Descent.name? after) :
    token.Fault before other error := by
  cases fault with
  | ampersand unnamed => exact .ampersand ((named rfl).trans unnamed)
  | closer balanced => exact .closer balanced
  | argument isArgument notName outside =>
      exact .argument isArgument notName outside

/-- Tokens that come later change nothing about a fault, except where an
ampersand is the last. -/
theorem faultAt_append_iff {tokens : List Token} {index : Nat} {token : Token}
    (here : tokens[index]? = some token)
    (named : token.kind ≠ .rest ∨ index + 1 < tokens.length)
    (later : List Token) (error : ReadError) :
    FaultAt (tokens ++ later) index error ↔ FaultAt tokens index error := by
  have bounded : index < tokens.length := (List.getElem?_eq_some_iff.mp here).1
  have before : (tokens ++ later).take index = tokens.take index :=
    List.take_append_of_le_length (by omega)
  have behind :
      (tokens ++ later).drop (index + 1) = tokens.drop (index + 1) ++ later :=
    List.drop_append_of_le_length (by omega)
  have same : (tokens ++ later)[index]? = some token := by
    rw [List.getElem?_append_left bounded, here]
  have sameName : token.kind = .rest →
      Descent.name? (tokens.drop (index + 1) ++ later) =
        Descent.name? (tokens.drop (index + 1)) := by
    intro isRest
    have inside : index + 1 < tokens.length := named.resolve_left fun noRest =>
        noRest isRest
    have nonempty : tokens.drop (index + 1) ≠ [] := by
      rw [Ne, List.drop_eq_nil_iff]
      omega
    exact name?_append nonempty later
  simp only [FaultAt, same, here, before, behind, Option.some.injEq,
    exists_eq_left']
  exact ⟨fun fault => fault.of_name?_eq fun isRest => (sameName isRest).symm,
    fun fault => fault.of_name?_eq sameName⟩

theorem Token.opener_of_opening? {before : List Token} {token : Token}
    {opening : Opening} (opens : token.opening? before = some opening) :
    token.kind.opening? = some opening.enclosure.opener ∧
      opening.position = token.position := by
  obtain ⟨kind, text, position⟩ := token
  simp only [opening?] at opens
  generalize Lookback.behind before = sign at opens
  cases kind with
  | openParen | openBrace => cases sign <;> cases opens <;> exact ⟨rfl, rfl⟩
  | openBracket => cases opens; exact ⟨rfl, rfl⟩
  | _ => cases opens

theorem Token.exists_opening? {token : Token} {delimiter : Char}
    (sign : token.kind.opening? = some delimiter) (before : List Token) :
    ∃ opening, token.opening? before = some opening := by
  obtain ⟨kind, text, position⟩ := token
  cases kind <;> first | exact ⟨_, rfl⟩ | cases sign

/-- What is left open is the collection on top of the stack. -/
theorem leftOpen_iff {builder : Builder} {tokens : List Token}
    (follows : builder.Follows tokens) (error : ReadError) :
    LeftOpen tokens error ↔
      ∃ frame, builder.frames.head? = some frame ∧
        error = .unclosed frame.enclosure.opener frame.position := by
  constructor
  · rintro ⟨before, opener, after, delimiter, split, sign, ⟨stays, count⟩, rfl⟩
    obtain ⟨opening, opens⟩ := Token.exists_opening? sign before
    obtain ⟨sameSign, samePosition⟩ := Token.opener_of_opening? opens
    have innermost : builder.openings[0]? = some opening :=
      (follows.openings 0 opening).mpr ⟨before, opener, after, split, opens,
          stays, count⟩
    rw [← List.head?_eq_getElem?, Builder.openings, List.head?_map,
      Option.map_eq_some_iff]
      at innermost
    obtain ⟨frame, isTop, rfl⟩ := innermost
    have delimiters : delimiter = frame.enclosure.opener :=
      Option.some.inj (sign.symm.trans sameSign)
    exact ⟨frame, isTop, by rw [delimiters, ← samePosition]⟩
  · rintro ⟨frame, isTop, rfl⟩
    obtain ⟨before, opener, after, split, opens, stays, count⟩ :=
      (follows.openings _ _).mp (Builder.openings_innermost isTop)
    obtain ⟨sign, position⟩ := Token.opener_of_opening? opens
    exact ⟨before, opener, after, _, split, sign, ⟨stays, count⟩, by
      rw [← position]⟩

theorem exists_value_of_faultless {builder : Builder} {tokens : List Token}
    (faultless : Faultless tokens) (follows : builder.Follows tokens) :
    ∃ sign, builder.expects = .value sign := by
  cases waits : builder.expects with
  | value sign => exact ⟨sign, rfl⟩
  | name ampersand =>
      obtain ⟨earlier, last, rfl, isRest, -⟩ := follows.exists_ampersand waits
      have here : (earlier ++ [last])[earlier.length]? = some last := by simp
      have named := name?_ne_none here isRest (faultless _)
      simp [Descent.name?] at named

/-- Without a fault the builder takes every token and then expects a value. -/
theorem exists_feed_of_faultless {tokens : List Token}
    (faultless : Faultless tokens) :
    ∃ (builder : Builder) (sign : Lookback),
      feed Builder.read .start tokens = (builder, none) ∧
      builder.expects = .value sign := by
  have upToEnd : FaultlessUpTo tokens tokens.length :=
    fun index _ => faultless index
  obtain ⟨builder, accepted⟩ := exists_feed_of_faultlessUpTo upToEnd
  rw [List.take_length] at accepted
  obtain ⟨sign, waits⟩ :=
    exists_value_of_faultless faultless (Builder.follows_of_feed accepted)
  exact ⟨builder, sign, accepted, waits⟩

/-- Without a fault the builder gets to the end, where only an open collection
is refused. -/
theorem exists_finish_of_faultless {tokens : List Token}
    (faultless : Faultless tokens) :
    ∃ builder : Builder, builder.Follows tokens ∧
      read tokens =
        match builder.frames.head? with
        | none => .ok builder.top.reverse
        | some frame =>
            .error (.unclosed frame.enclosure.opener frame.position) := by
  obtain ⟨builder, sign, accepted, waits⟩ := exists_feed_of_faultless faultless
  have reached : read tokens = builder.finish := read_of_feed accepted
  refine ⟨builder, Builder.follows_of_feed accepted, reached.trans ?_⟩
  cases frames : builder.frames <;> simp [Builder.finish, waits, frames]

theorem read_of_leftOpen {tokens : List Token} {error : ReadError}
    (faultless : Faultless tokens) (leftOpen : LeftOpen tokens error) :
    read tokens = .error error := by
  obtain ⟨builder, follows, finished⟩ := exists_finish_of_faultless faultless
  obtain ⟨frame, isTop, rfl⟩ := (leftOpen_iff follows error).mp leftOpen
  rw [finished, isTop]

theorem leftOpen_of_surplus {tokens : List Token}
    (faultless : Faultless tokens) (surplus : closers tokens < openers tokens) :
    ∃ error, LeftOpen tokens error := by
  obtain ⟨builder, follows, -⟩ := exists_finish_of_faultless faultless
  have notEmpty : builder.frames ≠ [] := by
    intro empty
    have balanced := follows.frames_eq_nil_iff.mp empty
    omega
  obtain ⟨frame, outer, frames⟩ := List.exists_cons_of_ne_nil notEmpty
  exact ⟨_,
    (leftOpen_iff follows _).mpr ⟨frame, by rw [frames, List.head?_cons], rfl⟩⟩

theorem exists_read_of_balanced {tokens : List Token}
    (faultless : Faultless tokens)
    (balanced : openers tokens ≤ closers tokens) :
    ∃ nodes, read tokens = .ok nodes := by
  obtain ⟨builder, follows, finished⟩ := exists_finish_of_faultless faultless
  have depth := follows.depth
  have empty : builder.frames = [] := follows.frames_eq_nil_iff.mpr (by omega)
  rw [empty] at finished
  exact ⟨_, finished⟩

/-- An error is that of the first token at fault. Where no token is at fault it
names what is left open. -/
theorem error_of_read {tokens : List Token} {error : ReadError}
    (failed : read tokens = .error error) :
    FirstFault tokens error ∨
      Faultless tokens ∧ closers tokens < openers tokens ∧
        LeftOpen tokens error := by
  rcases firstFault_or_faultless tokens with ⟨first, isFirst⟩ | faultless
  · have same : Except.error first = Except.error error :=
      (read_of_firstFault isFirst).symm.trans failed
    cases same
    exact .inl isFirst
  · by_cases surplus : closers tokens < openers tokens
    · obtain ⟨unclosed, leftOpen⟩ := leftOpen_of_surplus faultless surplus
      have same : Except.error unclosed = Except.error error :=
        (read_of_leftOpen faultless leftOpen).symm.trans failed
      cases same
      exact .inr ⟨faultless, surplus, leftOpen⟩
    · obtain ⟨nodes, success⟩ :=
        exists_read_of_balanced faultless (Nat.le_of_not_lt surplus)
      rw [success] at failed
      cases failed

theorem balanced_of_read {tokens : List Token} {nodes : List Node}
    (success : read tokens = .ok nodes) : openers tokens ≤ closers tokens := by
  apply Nat.le_of_not_lt
  intro surplus
  obtain ⟨unclosed, leftOpen⟩ :=
    leftOpen_of_surplus (faultless_of_read success) surplus
  rw [read_of_leftOpen (faultless_of_read success) leftOpen] at success
  cases success

theorem Balanced.of_read {tokens : List Token} {nodes : List Node}
    (success : read tokens = .ok nodes) : Balanced tokens := by
  obtain ⟨sign, scopes, accepted⟩ := exists_top_of_read success
  refine ⟨Builder.staysOpen_of_feed accepted, ?_⟩
  exact ((Builder.follows_of_feed accepted).frames_eq_nil_iff.mp rfl).symm

/-- Reading tokens fails with the error of the first token at fault. Without
such a token it fails with the innermost open collection when more collections
are opened than closed, and succeeds in every other case. -/
theorem read_outcome (tokens : List Token) :
    (∀ error, read tokens = .error error ↔
      FirstFault tokens error ∨
        Faultless tokens ∧ closers tokens < openers tokens ∧
          LeftOpen tokens error) ∧
    ((∃ nodes, read tokens = .ok nodes) ↔
      Faultless tokens ∧ openers tokens ≤ closers tokens) := by
  constructor
  · intro error
    constructor
    · exact error_of_read
    · rintro (isFirst | ⟨faultless, -, leftOpen⟩)
      · exact read_of_firstFault isFirst
      · exact read_of_leftOpen faultless leftOpen
  · constructor
    · rintro ⟨nodes, success⟩
      exact ⟨faultless_of_read success, balanced_of_read success⟩
    · rintro ⟨faultless, balanced⟩
      exact exists_read_of_balanced faultless balanced

end LispReader
