import LispReader.Proofs.Building.Enclosed

/-!
# Programs inside a collection

A builder that has opened a collection takes the tokens of a program as a new
builder takes them: the nodes of the program become the items of the
collection. Main statement: `feed_inside`.
-/

namespace LispReader

open Descent (Opening)

namespace Builder

/-- A builder that has opened a collection where another one was, and has read
inside it what `part` has read as a new builder. -/
def inside (reached : Builder) (opening : Opening) (part : Builder) : Builder :=
  reached.enclose opening part.top [] part

variable (reached : Builder) (opening : Opening) {part : Builder}

theorem inside_start :
    reached.inside opening start =
      reached.perform (.enter opening.enclosure opening.position) :=
  rfl

theorem add_inside (part : Builder) (value : Node) :
    (reached.inside opening part).add value =
      reached.inside opening (part.add value) := by
  obtain ⟨expects, top, frames, scopes⟩ := part
  cases frames <;> rfl

/-- A placeholder is taken only inside an anonymous function. -/
theorem scopes_ne_nil_of_use {token : Token} {placeholder : Placeholder}
    (called : part.action? token = .ok (.use placeholder)) :
    part.scopes ≠ [] := by
  cases action?_eq_ok_iff.mp called with
  | argument _ _ inside => exact inside

/-- What a new builder is called to do, a builder inside the collection is
called to do. -/
theorem action?_inside {token : Token} {action : Action}
    (called : part.action? token = .ok action) :
    (reached.inside opening part).action? token = .ok action := by
  obtain ⟨expects, top, frames, scopes⟩ := part
  obtain ⟨kind, text, position⟩ := token
  cases expects with
  | name ampersand => exact called
  | value before =>
      cases kind with
      | closeDelimiter =>
          cases frames with
          | nil => cases called
          | cons frame outer => exact called
      | symbol =>
          cases scopes with
          | cons innermost outer => exact called
          | nil =>
              simp only [inside, enclose, action?, valueAction?,
                symbolAction?] at called ⊢
              cases word : Word.ofText (text.getD "") with
              | leaf value => rwa [word] at called
              | argument placeholder =>
                  rw [word] at called
                  cases called
      | _ => exact called

theorem note_append {own : List (List Placeholder)} (nonempty : own ≠ [])
    (placeholder : Placeholder) (others : List (List Placeholder)) :
    note placeholder (own ++ others) = note placeholder own ++ others := by
  obtain ⟨innermost, outer, rfl⟩ := List.exists_cons_of_ne_nil nonempty
  rfl

/-- What a new builder does, a builder inside the collection does above what
there was before. -/
theorem perform_inside {tokens : List Token} {token : Token} {action : Action}
    (follows : part.Follows tokens) (called : part.action? token = .ok action) :
    (reached.inside opening part).perform action =
      reached.inside opening (part.perform action) := by
  cases action with
  | expect expectation => rfl
  | add value => exact add_inside reached opening part value
  | enter enclosure position =>
      exact enter_enclose reached opening part.top [] part _ _
  | use placeholder =>
      have noted := note_append (scopes_ne_nil_of_use called) placeholder
        (reached.scopesInside opening.enclosure)
      have added := add_inside reached opening
        { part with scopes := note placeholder part.scopes }
        (.identifier (Name.normalize placeholder.text))
      refine Eq.trans ?_ added
      simp only [perform, inside, enclose, noteAll_nil, noted]
  | leave frame =>
      obtain ⟨-, innermost, -⟩ := fits_of_action? follows.expects called
      obtain ⟨popped, value, sameTop, inner, enclosed⟩ :=
        exists_popped_of_leave innermost (follows.scopes_ne_nil innermost)
      rw [inner, ← add_inside, inside, enclosed, inside, sameTop]

theorem read_inside {next : Builder} {tokens : List Token} {token : Token}
    (follows : part.Follows tokens) (taken : part.read token = .ok next) :
    (reached.inside opening part).read token =
      .ok (reached.inside opening next) := by
  obtain ⟨action, called, rfl⟩ := read_eq_ok_iff.mp taken
  exact read_eq_ok_iff.mpr ⟨action, action?_inside reached opening called,
    perform_inside reached opening follows called⟩

/-- Inside a collection the tokens of a program are taken as a new builder
takes them. -/
theorem feed_inside {tokens : List Token}
    (accepted : feed read start tokens = (part, none)) :
    feed read (reached.inside opening start) tokens =
      (reached.inside opening part, none) := by
  refine feed_induction
    (motive := fun earlier current =>
      feed read (reached.inside opening start) earlier =
        (reached.inside opening current, none))
    rfl ?_ accepted
  intro earlier current last next before insideBefore taken
  have takenInside := read_inside reached opening (follows_of_feed before) taken
  exact feed_append_eq_none_iff.mpr
    ⟨_, insideBefore, feed_singleton_eq_none_iff.mpr takenInside⟩

end Builder

end LispReader
