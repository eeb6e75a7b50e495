import LispReader.Proofs.Building.Nesting

/-!
# Programs in a row

A builder that has closed every collection is a new builder with some nodes
already read. If neither its last token nor its last node concerns what comes
next, it builds from the tokens to come what a new builder would build, behind
the nodes it has.
-/

namespace LispReader

namespace Node

theorem attach_append_of_ready (value : Node) (siblings : List Node)
    {older : List Node}
    (ready : ∀ newest ∈ older.head?, newest.isWaiting = false) :
    value.attach (siblings ++ older) = value.attach siblings ++ older := by
  cases siblings with
  | nil => exact attach_of_not_waiting value ready
  | cons newest others =>
      by_cases waits : newest.isWaiting = true
      · simp only [List.cons_append, attach, if_pos waits]
      · simp only [List.cons_append, attach, if_neg waits]

end Node

namespace Builder

/-- A builder that has read these nodes too, newest first, before all it has
read. -/
def onto (older : List Node) (builder : Builder) : Builder :=
  { builder with top := builder.top ++ older }

theorem action?_onto (older : List Node) (builder : Builder) (token : Token) :
    (builder.onto older).action? token = builder.action? token := rfl

section Ready

variable {older : List Node}
  (ready : ∀ newest ∈ older.head?, newest.isWaiting = false)

include ready

theorem add_onto (builder : Builder) (value : Node) :
    (builder.onto older).add value = (builder.add value).onto older := by
  rcases builder with ⟨expects, top, frames, scopes⟩
  cases frames with
  | nil =>
      have attached := Node.attach_append_of_ready value top ready
      simp only [add, onto, attached]
  | cons frame outer => rfl

theorem perform_onto (builder : Builder) (action : Action) :
    (builder.onto older).perform action =
      (builder.perform action).onto older := by
  cases action with
  | expect expectation => rfl
  | add value => exact add_onto ready builder value
  | use placeholder =>
      exact add_onto ready
        { builder with scopes := note placeholder builder.scopes } _
  | enter enclosure position => rfl
  | leave frame =>
      exact add_onto ready { builder with frames := _, scopes := _ } _

theorem read_onto (builder : Builder) (token : Token) :
    (builder.onto older).read token =
      (builder.read token).map (onto older) := by
  unfold read
  rw [action?_onto]
  cases builder.action? token with
  | ok action => exact congrArg Except.ok (perform_onto ready builder action)
  | error refused => rfl

omit ready in
theorem finish_onto (builder : Builder) :
    (builder.onto older).finish = builder.finish.map (older.reverse ++ ·) := by
  rcases builder with ⟨expects, top, frames, scopes⟩
  cases expects with
  | name ampersand => rfl
  | value before =>
      cases frames with
      | nil => simp [finish, onto, Except.map]
      | cons frame outer => rfl

/-- Nodes that wait for nothing stay in front of all that is read behind
them. -/
theorem run_onto (builder : Builder) (tokens : List Token) :
    (builder.onto older).run tokens =
      (builder.run tokens).map (older.reverse ++ ·) := by
  have reads (builder : Builder) (token : Token) :
      (builder.onto older).read (id token) =
      ((builder.read token).map (onto older)).mapError id := by
    have taken := read_onto ready builder token
    cases outcome : builder.read token with
    | ok next => rwa [outcome] at taken
    | error refused => rwa [outcome] at taken
  have behind := run_of_respects reads finish_onto (fun _ => rfl) builder tokens
  rwa [List.map_id] at behind

end Ready

/-- A builder that read a program without a sign at its end is a new one with
the nodes read. -/
theorem feed_of_read {tokens : List Token} {nodes : List Node}
    (success : LispReader.read tokens = .ok nodes)
    (noSign : Lookback.behind tokens = .plain) :
    feed read start tokens = (start.onto nodes.reverse, none) := by
  rw [← List.append_nil tokens] at success
  rcases exists_feed_of_read success with ⟨reached, accepted, finished⟩
  have follows := follows_of_feed accepted
  rcases reached with ⟨expects, top, frames, scopes⟩
  simp only [run_nil, finish] at finished
  cases expects with
  | name ampersand => cases finished
  | value before =>
      cases frames with
      | cons frame outer => cases finished
      | nil =>
          have plain : before = .plain :=
            (Lookback.behind_of_expectation follows.expects.symm).symm.trans
              noSign
          have empty : scopes = [] := List.length_eq_zero_iff.mp follows.scopes
          cases finished
          rw [accepted, plain, empty]
          simp [onto, start]

end Builder

/-- Whether reading begins anew behind some tokens from which these nodes were
built: the last token is not a sign that concerns the next one, and the last
node does not wait for a value. -/
structure SelfContained (tokens : List Token) (nodes : List Node) : Prop where
  noSign : ∀ last ∈ tokens.getLast?, last.kind ≠ .dispatch ∧
    last.kind ≠ .metadata
  noWaiting : ∀ last ∈ nodes.getLast?, last.isWaiting = false

theorem SelfContained.behind_eq {tokens : List Token} {nodes : List Node}
    (contained : SelfContained tokens nodes) :
    Lookback.behind tokens = .plain := by
  unfold Lookback.behind
  cases ending : tokens.getLast? with
  | none => rfl
  | some last =>
      have different := contained.noSign last ending
      rcases last with ⟨kind, text, position⟩
      cases kind with
      | dispatch => exact absurd rfl different.1
      | metadata => exact absurd rfl different.2
      | _ => rfl

theorem read_append {left : List Token} {nodes : List Node}
    (success : read left = .ok nodes) (contained : SelfContained left nodes)
    (right : List Token) :
    read (left ++ right) = (read right).map (nodes ++ ·) := by
  have accepted := Builder.feed_of_read success contained.behind_eq
  have ready : ∀ newest ∈ nodes.reverse.head?, newest.isWaiting = false := by
    rw [List.head?_reverse]
    exact contained.noWaiting
  rw [read_append_of_feed accepted, Builder.run_onto ready,
    List.reverse_reverse, ← read_eq_run]

end LispReader
