import LispReader.Proofs.Building.Fault

/-!
# Building inside a collection

A builder that has opened a collection works on top of what it had then: as a
builder of its own, except that values outside its own collections go into the
opened one, and placeholders outside its own anonymous functions belong to the
function around. When the collection is closed, all of this has come to one
value for the builder there was before, and to the placeholders used in it.
Main statement: `exists_absorb_of_closer`.
-/

namespace LispReader

open Descent (Opening)

/-- Whether a symbol with this text stands among the tokens, neither as the
name of an ampersand nor inside an anonymous function that is opened among
them. -/
def Mentions (tokens : List Token) (text : String) : Prop :=
  ∃ before position after,
    tokens = before ++ ⟨.symbol, some text, position⟩ :: after ∧
    before.getLast?.map Token.kind ≠ some .rest ∧ ¬ InFunction before

theorem not_mentions_nil (text : String) : ¬ Mentions [] text := by
  rintro ⟨before, position, after, split, -⟩
  simp at split

theorem mentions_concat_iff (tokens : List Token) (token : Token)
    (text : String) :
    Mentions (tokens ++ [token]) text ↔
      Mentions tokens text ∨
        (∃ position, token = ⟨.symbol, some text, position⟩) ∧
          tokens.getLast?.map Token.kind ≠ some .rest ∧
            ¬ InFunction tokens := by
  constructor
  · rintro ⟨before, position, after, split, notName, outside⟩
    rcases List.eq_nil_or_concat after with rfl | ⟨inner, last, rfl⟩
    · obtain ⟨rfl, same⟩ := List.append_inj' split rfl
      exact .inr ⟨⟨position, List.singleton_inj.mp same⟩, notName, outside⟩
    · have parts : tokens ++ [token] =
          (before ++ ⟨.symbol, some text, position⟩ :: inner) ++ [last] := by
        simpa using split
      obtain ⟨rfl, -⟩ := List.append_inj' parts rfl
      exact .inl ⟨before, position, inner, rfl, notName, outside⟩
  · rintro (⟨before, position, after, rfl, notName, outside⟩ |
      ⟨⟨position, rfl⟩, notName, outside⟩)
    · exact ⟨before, position, after ++ [token], by simp, notName, outside⟩
    · exact ⟨tokens, position, [], rfl, notName, outside⟩

/-- Whether these placeholders are the ones used among the tokens outside every
anonymous function that is opened there. -/
def Collects (used : List Placeholder) (tokens : List Token) : Prop :=
  ∀ placeholder, placeholder ∈ used ↔
    ∃ text, Mentions tokens text ∧ Word.ofText text = .argument placeholder

theorem collects_nil : Collects [] [] := by
  intro placeholder
  simp [not_mentions_nil]

theorem Collects.reverse {used : List Placeholder} {tokens : List Token}
    (collects : Collects used tokens) : Collects used.reverse tokens :=
  fun placeholder => List.mem_reverse.trans (collects placeholder)

theorem Expectation.exists_behind_eq_name_iff (tokens : List Token) :
    (∃ ampersand, Expectation.behind tokens = .name ampersand) ↔
      tokens.getLast?.map Token.kind = some .rest := by
  unfold Expectation.behind
  cases tokens.getLast? with
  | none => simp
  | some last => by_cases isRest : last.kind = .rest <;> simp [isRest]

namespace Builder

/-- A token is used as a placeholder when it is a symbol that is not a name and
is written as the placeholder is. -/
theorem eq_use_iff {builder : Builder} {tokens : List Token} {token : Token}
    {action : Action} (expects : builder.expects = .behind tokens)
    (called : builder.action? token = .ok action) (placeholder : Placeholder) :
    action = .use placeholder ↔
      ∃ text, ((∃ position, token = ⟨.symbol, some text, position⟩) ∧
        tokens.getLast?.map Token.kind ≠ some .rest) ∧
          Word.ofText text = .argument placeholder := by
  simp only [ne_eq, ← Expectation.exists_behind_eq_name_iff, ← expects]
  cases action?_eq_ok_iff.mp called with
  | name waits => simp [waits]
  | @leaf _ text _ _ _ word =>
      cases text with
      | none => simp
      | some text =>
          rw [Option.getD_some] at word
          simp [word]
  | argument waits word _ => simp [waits, word]
  | _ => simp

/-! ## A builder on top of another -/

/-- The placeholders noted for each function when a collection has just been
opened. -/
def scopesInside (reached : Builder) (enclosure : Enclosure) :
    List (List Placeholder) :=
  if enclosure = .anonymousFunction then [] :: reached.scopes
    else reached.scopes

/-- A builder that has opened a collection where another one was and works
inside it as `part`. Of what it has read inside, the nodes are the items of the
collection, newest first. -/
def enclose (reached : Builder) (opening : Opening) (items : List Node)
    (used : List Placeholder) (part : Builder) : Builder where
  expects := part.expects
  top := reached.top
  frames := part.frames ++ ⟨opening.enclosure, opening.position, items⟩ ::
    reached.frames
  scopes := part.scopes ++ noteAll used (reached.scopesInside opening.enclosure)

variable {reached part : Builder} {opening : Opening} {items : List Node}
  {used : List Placeholder}

theorem exists_add_enclose (reached : Builder) (opening : Opening)
    (items : List Node) (used : List Placeholder) (part : Builder)
    (value : Node) :
    ∃ more, (reached.enclose opening items used part).add value =
      reached.enclose opening more used (part.add value) := by
  obtain ⟨expects, top, frames, scopes⟩ := part
  cases frames with
  | nil => exact ⟨value.attach items, rfl⟩
  | cons frame outer => exact ⟨items, rfl⟩

/-- Using a placeholder inside a collection notes it there, or in a function
that is open in it. -/
theorem exists_use_enclose (reached : Builder) (opening : Opening)
    (items : List Node) (used : List Placeholder) (part : Builder)
    (placeholder : Placeholder) :
    ∃ more,
      (reached.enclose opening items used part).perform (.use placeholder) =
      reached.enclose opening more (if part.scopes =
          [] then used ++ [placeholder] else used)
        (part.perform (.use placeholder)) := by
  obtain ⟨expects, top, frames, scopes⟩ := part
  cases scopes with
  | nil =>
      have noted :
          noteAll (used ++ [placeholder])
            (reached.scopesInside opening.enclosure) =
          note placeholder
            (noteAll used (reached.scopesInside opening.enclosure)) :=
        noteAll_append used [placeholder] _
      obtain ⟨more, added⟩ :=
        exists_add_enclose reached opening items (used ++ [placeholder])
        ⟨expects, top, frames, []⟩
          (.identifier (Name.normalize placeholder.text))
      refine ⟨more, ?_⟩
      rw [if_pos rfl]
      refine Eq.trans ?_ added
      simp only [perform, enclose, List.nil_append, noted]
  | cons innermost outer =>
      exact exists_add_enclose reached opening items used
        ⟨expects, top, frames, (placeholder :: innermost) :: outer⟩ _

theorem enter_enclose (reached : Builder) (opening : Opening)
    (items : List Node) (used : List Placeholder) (part : Builder)
    (enclosure : Enclosure) (position : Position) :
    (reached.enclose opening items used part).perform
      (.enter enclosure position) =
      reached.enclose opening items used
        (part.perform (.enter enclosure position)) := by
  by_cases isFunction : enclosure = .anonymousFunction
  · simp [perform, enclose, isFunction]
  · simp [perform, enclose, isFunction]

/-- A collection that is closed inside another one is closed as it would be
outside of it. -/
theorem exists_popped_of_leave {frame : Frame}
    (innermost : part.frames.head? = some frame)
    (inFunction : frame.enclosure = .anonymousFunction → part.scopes ≠ []) :
    ∃ (popped : Builder) (value : Node), popped.top = part.top ∧
      part.perform (.leave frame) = popped.add value ∧
      ∀ (reached : Builder) (opening : Opening) (items : List Node)
        (used : List Placeholder),
        (reached.enclose opening items used part).perform (.leave frame) =
          (reached.enclose opening items used popped).add value := by
  obtain ⟨expects, top, frames, scopes⟩ := part
  obtain ⟨outer, rfl⟩ := List.head?_eq_some_iff.mp innermost
  by_cases isFunction : frame.enclosure = .anonymousFunction
  · obtain ⟨own, others, rfl⟩ :=
      List.exists_cons_of_ne_nil (inFunction isFunction)
    refine ⟨⟨expects, top, outer, others⟩,
      frame.enclosure.node own frame.reversed.reverse, rfl, ?_,
      fun reached opening items used => ?_⟩ <;>
      simp [perform, isFunction, enclose]
  · refine ⟨⟨expects, top, outer, scopes⟩,
      frame.enclosure.node [] frame.reversed.reverse, rfl, ?_,
      fun reached opening items used => ?_⟩ <;>
        simp [perform, isFunction, enclose, Enclosure.node_of_ne isFunction _]

theorem exists_leave_enclose {frame : Frame} (reached : Builder)
    (opening : Opening) (items : List Node) (used : List Placeholder)
    (innermost : part.frames.head? = some frame)
    (inFunction : frame.enclosure = .anonymousFunction → part.scopes ≠ []) :
    ∃ more, (reached.enclose opening items used part).perform (.leave frame) =
      reached.enclose opening more used (part.perform (.leave frame)) := by
  obtain ⟨popped, value, -, inner, enclosed⟩ :=
    exists_popped_of_leave innermost inFunction
  obtain ⟨more, added⟩ :=
    exists_add_enclose reached opening items used popped value
  exact ⟨more, by rw [enclosed, added, inner]⟩

/-- What a builder is like that opened a collection where `reached` was and has
read these tokens since, without closing it. -/
def Encloses (reached : Builder) (opening : Opening) (tokens : List Token)
    (builder : Builder) : Prop :=
  ∃ items used part, builder = reached.enclose opening items used part ∧
    part.Follows tokens ∧ Collects used tokens

theorem encloses_start (reached : Builder) (opening : Opening) :
    reached.Encloses opening []
      (reached.perform (.enter opening.enclosure opening.position)) :=
  ⟨[], [], start, rfl, follows_start, collects_nil⟩

/-- An action for the whole builder is one for the part that works inside the
collection, unless it closes the collection. -/
theorem Action.Fits.of_enclose {tokens : List Token} {token : Token}
    {action : Action}
    (fits : action.Fits (reached.enclose opening items used part) tokens token)
    (follows : part.Follows tokens)
    (stays : closers (tokens ++ [token]) ≤ openers (tokens ++ [token])) :
    action.Fits part tokens token := by
  cases action with
  | leave frame =>
      obtain ⟨closes, innermost, expected⟩ := fits
      obtain ⟨noneOpened, oneClosed⟩ := Token.count_of_closer closes
      have unequal : part.frames ≠ [] := by
        intro empty
        have balanced := follows.frames_eq_nil_iff.mp empty
        rw [openers_append, closers_append] at stays
        omega
      obtain ⟨own, outer, frames⟩ := List.exists_cons_of_ne_nil unequal
      refine ⟨closes, ?_, expected⟩
      simpa [enclose, frames] using innermost
  | _ => exact fits

theorem Follows.scopes_ne_nil {tokens : List Token} {frame : Frame}
    (follows : part.Follows tokens) (innermost : part.frames.head? = some frame)
    (isFunction : frame.enclosure = .anonymousFunction) : part.scopes ≠ [] := by
  obtain ⟨outer, frames⟩ := List.head?_eq_some_iff.mp innermost
  have isOpen :
      (⟨frame.enclosure, frame.position⟩ : Opening) ∈ part.openings := by
    simp [Builder.openings, frames]
  have positive : 0 < part.scopes.length := by
    rw [follows.scopes, List.countP_pos_iff]
    exact ⟨_, isOpen, by simpa using isFunction⟩
  exact List.ne_nil_of_length_pos positive

theorem exists_mentions_concat_iff {builder : Builder} {tokens : List Token}
    {token : Token} {action : Action}
    (expects : builder.expects = .behind tokens)
    (called : builder.action? token = .ok action) (placeholder : Placeholder) :
    (∃ text, Mentions (tokens ++ [token]) text ∧
        Word.ofText text = .argument placeholder) ↔
      (∃ text, Mentions tokens text ∧
          Word.ofText text = .argument placeholder) ∨
        action = .use placeholder ∧ ¬ InFunction tokens := by
  rw [eq_use_iff expects called placeholder]
  constructor
  · rintro ⟨text, mentions, word⟩
    rcases (mentions_concat_iff _ _ _).mp mentions with
      earlier | ⟨isSymbol, notName, outside⟩
    · exact .inl ⟨text, earlier, word⟩
    · exact .inr ⟨⟨text, ⟨isSymbol, notName⟩, word⟩, outside⟩
  · rintro (⟨text, earlier, word⟩ |
      ⟨⟨text, ⟨isSymbol, notName⟩, word⟩, outside⟩)
    · exact ⟨text, (mentions_concat_iff _ _ _).mpr (.inl earlier), word⟩
    · exact ⟨text, (mentions_concat_iff _ _ _).mpr
        (.inr ⟨isSymbol, notName, outside⟩), word⟩

/-- One token more inside the collection changes nothing of what there was
before it. -/
theorem Encloses.read {builder next : Builder} {tokens : List Token}
    {token : Token} (encloses : reached.Encloses opening tokens builder)
    (accepted : builder.read token = .ok next)
    (stays : closers (tokens ++ [token]) ≤ openers (tokens ++ [token])) :
    reached.Encloses opening (tokens ++ [token]) next := by
  obtain ⟨items, used, part, rfl, follows, collects⟩ := encloses
  obtain ⟨action, called, rfl⟩ := read_eq_ok_iff.mp accepted
  have expects :
      (reached.enclose opening items used part).expects = .behind tokens :=
    follows.expects
  have fits : action.Fits part tokens token :=
    (fits_of_action? expects called).of_enclose follows stays
  have behind : (part.perform action).Follows (tokens ++ [token]) :=
    follows.perform fits
  have uses := exists_mentions_concat_iff expects called
  have unused (notUse : ∀ placeholder, action ≠ .use placeholder) :
      Collects used (tokens ++ [token]) := by
    intro placeholder
    rw [collects placeholder, uses placeholder, or_iff_left]
    exact fun used => notUse placeholder used.1
  cases action with
  | expect expectation => exact ⟨items, used, _, rfl, behind, unused nofun⟩
  | enter enclosure position =>
      have performed :=
        enter_enclose reached opening items used part enclosure position
      exact ⟨items, used, _, performed, behind, unused nofun⟩
  | add value =>
      obtain ⟨more, performed⟩ :=
        exists_add_enclose reached opening items used part value
      exact ⟨more, used, _, performed, behind, unused nofun⟩
  | leave frame =>
      obtain ⟨-, innermost, -⟩ := fits
      obtain ⟨more, performed⟩ :=
        exists_leave_enclose reached opening items used innermost
        (follows.scopes_ne_nil innermost)
      exact ⟨more, used, _, performed, behind, unused nofun⟩
  | use placeholder =>
      obtain ⟨more, performed⟩ :=
        exists_use_enclose reached opening items used part placeholder
      refine ⟨more, _, _, performed, behind, ?_⟩
      intro other
      rw [uses other, ← collects other, ← follows.scopes_isEmpty_iff,
        List.isEmpty_iff, Action.use.injEq]
      by_cases outside : part.scopes = []
      · simp [outside, eq_comm]
      · simp [outside]

theorem encloses_of_feed {builder : Builder} {tokens : List Token}
    (accepted : feed Builder.read (reached.perform
      (.enter opening.enclosure opening.position)) tokens = (builder, none))
    (stays : StaysOpen tokens) : reached.Encloses opening tokens builder := by
  refine feed_induction
    (motive := fun earlier current => StaysOpen earlier →
        reached.Encloses opening earlier current)
    (fun _ => encloses_start reached opening) ?_ accepted stays
  intro earlier current last next _ encloses taken stays
  obtain ⟨before, whole⟩ := (staysOpen_concat_iff earlier last).mp stays
  exact (encloses before).read taken whole

/-- What is closed is one value more for the builder there was before, and its
placeholders are that builder's unless a function keeps them. -/
theorem leave_enclose (reached : Builder) (opening : Opening)
    (items : List Node) (used : List Placeholder) (expects : Expectation)
    (top : List Node) :
    (reached.enclose opening items used ⟨expects, top, [], []⟩).perform
        (.leave ⟨opening.enclosure, opening.position, items⟩) =
      reached.absorb [opening.enclosure.node used items.reverse]
        (if opening.enclosure = .anonymousFunction then [] else used) := by
  obtain ⟨enclosure, position⟩ := opening
  by_cases isFunction : enclosure = .anonymousFunction
  · subst isFunction
    have scopes : noteAll used (reached.scopesInside .anonymousFunction) =
        used.reverse :: reached.scopes := by
      rw [scopesInside, if_pos rfl, noteAll_cons, List.append_nil]
    have forgotten := add_expects reached expects
      (Enclosure.anonymousFunction.node used items.reverse)
    simpa [perform, enclose, absorb, scopes, Enclosure.node_reverse]
      using forgotten
  · have scopes : noteAll used (reached.scopesInside enclosure) =
        noteAll used reached.scopes := by
      rw [scopesInside, if_neg isFunction]
    have forgotten :=
      add_expects { reached with scopes := noteAll used reached.scopes } expects
      (enclosure.node [] items.reverse)
    simpa [perform, enclose, absorb, scopes, isFunction,
      Enclosure.node_of_ne isFunction _]
      using forgotten

/-- Behind tokens that close what they open, a builder inside a collection has
nothing open in it. -/
theorem exists_enclose_of_balanced {opening : Opening} {builder : Builder}
    {tokens : List Token}
    (inside : feed Builder.read (reached.perform
      (.enter opening.enclosure opening.position)) tokens = (builder, none))
    (balanced : Balanced tokens) :
    ∃ items used expects top, Collects used tokens ∧ expects = .behind tokens ∧
      builder = reached.enclose opening items used ⟨expects, top, [], []⟩ := by
  obtain ⟨items, used, part, rfl, follows, collects⟩ :=
    encloses_of_feed inside balanced.1
  have noFrames : part.frames = [] :=
    follows.frames_eq_nil_iff.mpr balanced.2.symm
  have noScopes : part.scopes = [] := by
    rw [← List.length_eq_zero_iff, follows.scopes, openings, noFrames]
    rfl
  have expected := follows.expects
  obtain ⟨expects, top, frames, scopes⟩ := part
  dsimp only at noFrames noScopes expected
  subst noFrames noScopes
  exact ⟨items, used, expects, top, collects, expected, rfl⟩

/-- A closing delimiter makes one value of all that was read inside the
collection. -/
theorem read_closer_enclose {opening : Opening} {items : List Node}
    {used : List Placeholder} {expects : Expectation} {top : List Node}
    {tokens : List Token} {closer : Token} {next : Builder}
    (atEnd : expects = .behind tokens)
    (last : (reached.enclose opening items used ⟨expects, top, [], []⟩).read
      closer = .ok next)
    (closes : closer.kind = .closeDelimiter) :
    next = reached.absorb [opening.enclosure.node used items.reverse]
      (if opening.enclosure = .anonymousFunction then [] else used) := by
  rw [← leave_enclose reached opening items used expects top]
  obtain ⟨action, called, rfl⟩ := read_eq_ok_iff.mp last
  obtain ⟨frame, rfl, innermost⟩ :=
    (fits_of_action? atEnd called).eq_leave closes
  cases innermost
  rfl

/-- A builder that reads a collection from its beginning to its end opens it,
reads the items inside it and makes one value of them. -/
theorem exists_collection {next : Builder} {before body : List Token}
    {opener closer : Token} (expected : reached.expects = .behind before)
    (taken : feed Builder.read reached ([opener] ++ body ++ [closer]) =
      (next, none))
    (opens : opener.kind.opening?.isSome = true) (balanced : Balanced body)
    (closes : closer.kind = .closeDelimiter) :
    ∃ opening items used expects top, opener.opening? before = some opening ∧
      feed Builder.read reached [opener] =
        (reached.perform (.enter opening.enclosure opening.position), none) ∧
      feed Builder.read
        (reached.perform (.enter opening.enclosure opening.position)) body =
        (reached.enclose opening items used ⟨expects, top, [], []⟩, none) ∧
      Collects used body ∧
      next = reached.absorb [opening.enclosure.node used items.reverse]
        (if opening.enclosure = .anonymousFunction then [] else used) := by
  obtain ⟨inside, front, last⟩ := feed_append_eq_none_iff.mp taken
  obtain ⟨opened, first, bodyTaken⟩ := feed_append_eq_none_iff.mp front
  have accepted := feed_singleton_eq_none_iff.mp first
  obtain ⟨action, called, rfl⟩ := read_eq_ok_iff.mp accepted
  obtain ⟨opening, isOpening, rfl⟩ :=
    (fits_of_action? expected called).exists_enter opens
  obtain ⟨items, used, expects, top, collects, atEnd, rfl⟩ :=
    exists_enclose_of_balanced bodyTaken balanced
  exact ⟨opening, items, used, expects, top, isOpening, first, bodyTaken,
    collects,
    read_closer_enclose atEnd (feed_singleton_eq_none_iff.mp last) closes⟩

/-- A builder that has read a collection from its beginning to its end is the
builder there was before with one value more. Placeholders that are used in the
collection remain noted there, unless it is an anonymous function: then they
decide how many parameters it has. -/
theorem exists_absorb_of_closer (opening : Opening) {next : Builder}
    {tokens : List Token} {closer : Token}
    (accepted : feed Builder.read
      (reached.perform (.enter opening.enclosure opening.position))
      (tokens ++ [closer]) = (next, none))
    (balanced : Balanced tokens) (closes : closer.kind = .closeDelimiter) :
    ∃ items used, Collects used tokens ∧
      next = reached.absorb [opening.enclosure.node used items]
        (if opening.enclosure = .anonymousFunction then [] else used) := by
  obtain ⟨builder, inside, last⟩ := feed_append_eq_none_iff.mp accepted
  rw [feed_singleton_eq_none_iff] at last
  obtain ⟨items, used, expects, top, collects, atEnd, rfl⟩ :=
    exists_enclose_of_balanced inside balanced
  exact ⟨items.reverse, used, collects, read_closer_enclose atEnd last closes⟩

end Builder

end LispReader
