import LispReader.Proofs.Building.Run

/-!
# Trees without their comments

What is left of trees when the comments in them are taken out, at every depth.
A value is put in the same place among its siblings with and without the
comments there, as long as the last sibling waits for a value in both cases or
in neither.
-/

namespace LispReader

namespace Node

mutual

/-- What is left of a node without comments: of a comment nothing, and of any
other node one node. -/
def withoutComments : Node → List Node
  | .comment _ => []
  | .collection shape items => [.collection shape (allWithoutComments items)]
  | leaf => [leaf]

def allWithoutComments : List Node → List Node
  | [] => []
  | first :: others => withoutComments first ++ allWithoutComments others

end

@[simp]
theorem withoutComments_comment (text : String) :
    (comment text).withoutComments = [] := by
  rw [withoutComments]

@[simp]
theorem withoutComments_collection (shape : Shape) (items : List Node) :
    (collection shape items).withoutComments =
      [.collection shape (allWithoutComments items)] := by
  rw [withoutComments]

@[simp]
theorem withoutComments_identifier (name : String) :
    (identifier name).withoutComments = [.identifier name] := rfl

theorem withoutComments_of_leaf {node : Node} (isLeaf : node.children? = none)
    (noComment : node.kind ≠ .comment) : node.withoutComments = [node] := by
  cases node with
  | collection shape items => cases isLeaf
  | comment text => exact absurd rfl noComment
  | _ => rfl

@[simp]
theorem allWithoutComments_nil : allWithoutComments [] = [] := rfl

@[simp]
theorem allWithoutComments_cons (first : Node) (others : List Node) :
    allWithoutComments (first :: others) =
      first.withoutComments ++ allWithoutComments others := by
  rw [allWithoutComments]

@[simp]
theorem allWithoutComments_append (left right : List Node) :
    allWithoutComments (left ++ right) =
      allWithoutComments left ++ allWithoutComments right := by
  induction left with
  | nil => rfl
  | cons first others inductionHypothesis => simp [inductionHypothesis]

/-- Of each node there is left one node or none, whatever the order is read
in. -/
theorem withoutComments_reverse (node : Node) :
    node.withoutComments.reverse = node.withoutComments := by
  cases node with
  | collection shape items => simp
  | comment text => simp
  | _ => rfl

@[simp]
theorem allWithoutComments_reverse (nodes : List Node) :
    allWithoutComments nodes.reverse = (allWithoutComments nodes).reverse := by
  induction nodes with
  | nil => rfl
  | cons first others inductionHypothesis =>
      simp [inductionHypothesis, withoutComments_reverse]

/-- Enclosing nodes and taking out their comments can be done in either
order. -/
theorem withoutComments_enclosure (enclosure : Enclosure)
    (used : List Placeholder) (items : List Node) :
    (enclosure.node used items).withoutComments =
      [enclosure.node used (allWithoutComments items)] := by
  have names (placeholders : List Placeholder) :
      allWithoutComments (placeholders.map fun placeholder =>
        identifier (Name.normalize placeholder.text)) =
      placeholders.map fun placeholder =>
        identifier (Name.normalize placeholder.text) := by
    induction placeholders with
    | nil => rfl
    | cons placeholder rest inductionHypothesis => simp [inductionHypothesis]
  cases enclosure with
  | anonymousFunction => simp [Enclosure.node, names]
  | _ => simp [Enclosure.node, withMetadata]

/-- Whether the newest of some siblings, which are held newest first, waits for
a value. -/
def newestWaits (siblings : List Node) : Bool :=
  siblings.head?.any isWaiting

/-- Whether the comments among siblings do not matter for where the next value
goes. -/
def Steady (siblings : List Node) : Prop :=
  newestWaits siblings = newestWaits (allWithoutComments siblings)

instance (siblings : List Node) : Decidable (Steady siblings) :=
  inferInstanceAs (Decidable (_ = _))

theorem attach_of_newestWaits {value newest : Node} {older : List Node}
    (waits : newest.isWaiting = true) :
    value.attach (newest :: older) = newest.fill value :: older := by
  rw [attach, if_pos waits]

theorem attach_of_not_newestWaits {siblings : List Node}
    (noneWaits : newestWaits siblings = false) (value : Node) :
    value.attach siblings = value :: siblings := by
  apply attach_of_not_waiting
  intro newest isNewest
  simpa [newestWaits, Option.mem_def.mp isNewest] using noneWaits

/-- A comment leaves no trace, not even in a list that waited for a value. -/
theorem allWithoutComments_attach_comment (text : String)
    (siblings : List Node) :
    allWithoutComments ((comment text).attach siblings) =
      allWithoutComments siblings := by
  cases siblings with
  | nil => simp [attach]
  | cons newest older =>
      by_cases waits : newest.isWaiting = true
      · rw [attach_of_newestWaits waits]
        rcases (isWaiting_iff newest).mp waits with
          rfl | rfl | ⟨metadata, rfl⟩ <;>
          simp [fill, withMetadata]
      · rw [attach, if_neg waits]
        simp

theorem withoutComments_eq_nil_or (node : Node) :
    node.withoutComments = [] ∨ ∃ left, node.withoutComments = [left] := by
  cases node with
  | comment text => exact .inl rfl
  | collection shape items =>
      exact .inr ⟨_, withoutComments_collection shape items⟩
  | _ => exact .inr ⟨_, rfl⟩

/-- A value is put into the same place whether there are comments among its
siblings or not. -/
theorem allWithoutComments_attach {value left : Node} {siblings : List Node}
    (one : value.withoutComments = [left]) (steady : Steady siblings) :
    allWithoutComments (value.attach siblings) =
      left.attach (allWithoutComments siblings) := by
  cases waits : newestWaits siblings with
  | false =>
      have waitsLeft : newestWaits (allWithoutComments siblings) = false :=
        steady.symm.trans waits
      rw [attach_of_not_newestWaits waits, attach_of_not_newestWaits waitsLeft]
      simp [one]
  | true =>
      have waitsLeft : newestWaits (allWithoutComments siblings) = true :=
        steady.symm.trans waits
      cases siblings with
      | nil => cases waits
      | cons newest older =>
          have newestIs : newest.isWaiting = true := waits
          rw [attach_of_newestWaits newestIs]
          rcases (isWaiting_iff newest).mp newestIs with
            rfl | rfl | ⟨metadata, rfl⟩
          · simp [fill, one, attach, isWaiting]
          · simp [fill, one, attach, isWaiting]
          · -- The metadata are no comment, for then what is left of the list
            -- would not wait.
            rcases metadata.withoutComments_eq_nil_or with none | ⟨data, some⟩
            · simp [newestWaits, withMetadata, none, isWaiting] at waitsLeft
            · simp [fill, one, some, withMetadata, attach, isWaiting]

end Node

end LispReader
