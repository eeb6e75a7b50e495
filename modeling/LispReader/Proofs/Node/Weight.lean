import LispReader.Proofs.Node.Comments
import Mathlib.Data.List.Forall2

/-!
# Weights of trees

A value that is put into a list which waited for it makes that list heavier,
and what stands alone keeps its weight. So when the same values, some with
comments among them, come to the same siblings once the comments are taken out,
each of them went into the same place. Main statement: `Node.eq_of_attachAll`.
-/

namespace LispReader

namespace Node

mutual

/-- A weight that a node does not gain or lose with the comments in it. Names
weigh nothing, since an anonymous function has as many of them as it has
parameters. Patterns and sets weigh more than the strings and maps that are
written like them. -/
def weight : Node → Nat
  | .collection shape items => (if shape = .set then 2 else 1) + weightAll items
  | .comment _ => 0
  | .identifier _ => 0
  | .regexp _ => 2
  | _ => 1

def weightAll : List Node → Nat
  | [] => 0
  | first :: others => weight first + weightAll others

end

@[simp]
theorem weight_collection (shape : Shape) (items : List Node) :
    (collection shape items).weight =
      (if shape = .set then 2 else 1) + weightAll items := by
  rw [weight]

@[simp]
theorem weight_identifier (name : String) : (identifier name).weight = 0 := rfl

@[simp]
theorem weightAll_nil : weightAll [] = 0 := rfl

@[simp]
theorem weightAll_cons (first : Node) (others : List Node) :
    weightAll (first :: others) = first.weight + weightAll others := by
  rw [weightAll]

@[simp]
theorem weightAll_append (left right : List Node) :
    weightAll (left ++ right) = weightAll left + weightAll right := by
  induction left with
  | nil => simp
  | cons first others inductionHypothesis =>
      simp [inductionHypothesis, Nat.add_assoc]

@[simp]
theorem weightAll_reverse (nodes : List Node) :
    weightAll nodes.reverse = weightAll nodes := by
  induction nodes with
  | nil => rfl
  | cons first others inductionHypothesis =>
      simp [inductionHypothesis, Nat.add_comm]

mutual

theorem weightAll_withoutComments : (node : Node) →
    weightAll node.withoutComments = node.weight
  | .collection shape items => by simp [weightAll_allWithoutComments items]
  | .comment _ => rfl
  | .string _ => rfl
  | .keyword _ => rfl
  | .regexp _ => rfl
  | .float _ _ => rfl
  | .integer _ _ => rfl
  | .literal _ => rfl
  | .identifier _ => rfl
  | .rest _ => rfl

theorem weightAll_allWithoutComments : (nodes : List Node) →
    weightAll (allWithoutComments nodes) = weightAll nodes
  | [] => rfl
  | first :: others => by
      simp [weightAll_withoutComments first,
        weightAll_allWithoutComments others]

end

theorem weight_pos_of_isWaiting {node : Node} (waits : node.isWaiting = true) :
    0 < node.weight := by
  rcases (isWaiting_iff node).mp waits with rfl | rfl | ⟨metadata, rfl⟩
  · simp
  · simp
  · rw [withMetadata, weight_collection, if_neg (by decide)]
    omega

theorem weight_fill {waiting : Node} (waits : waiting.isWaiting = true)
    (value : Node) :
    (waiting.fill value).weight = value.weight + waiting.weight := by
  rcases (isWaiting_iff waiting).mp waits with rfl | rfl | ⟨metadata, rfl⟩ <;>
    simp [withMetadata, fill, Nat.add_comm, Nat.add_left_comm]

theorem weightAll_attach (value : Node) (siblings : List Node) :
    weightAll (value.attach siblings) = value.weight + weightAll siblings := by
  cases siblings with
  | nil => rfl
  | cons newest older =>
      by_cases waits : newest.isWaiting = true
      · rw [attach_of_newestWaits waits, weightAll_cons, weightAll_cons,
          weight_fill waits, Nat.add_assoc]
      · rw [attach, if_neg waits, weightAll_cons]

theorem weightAll_attachAll (values siblings : List Node) :
    weightAll (attachAll values siblings) =
      weightAll values + weightAll siblings := by
  induction values generalizing siblings with
  | nil => simp
  | cons value rest inductionHypothesis =>
      rw [attachAll_cons, inductionHypothesis, weightAll_attach, weightAll_cons]
      omega

/-- Nodes that are each at most as heavy as their partners weigh less in all,
unless each weighs the same. -/
theorem weights_of_forall₂ {left right : List Node}
    (lighter : List.Forall₂ (fun one other => one.weight ≤ other.weight) left
      right) :
    weightAll left ≤ weightAll right ∧
      (weightAll left = weightAll right →
          left.map weight = right.map weight) := by
  induction lighter with
  | nil => simp
  | cons first _ inductionHypothesis =>
      obtain ⟨bounded, equal⟩ := inductionHypothesis
      simp only [weightAll_cons, List.map_cons, List.cons.injEq]
      refine ⟨by omega, fun same => ⟨by omega, equal (by omega)⟩⟩

/-- Whether each of some values that are added is put into the same place
without the comments. -/
def Steadily (siblings : List Node) : List Node → Prop
  | [] => True
  | value :: others =>
      (value.kind ≠ .comment → Steady siblings) ∧
        Steadily (value.attach siblings) others

theorem exists_withoutComments {value : Node}
    (noComment : value.kind ≠ .comment) :
    ∃ left, value.withoutComments = [left] ∧ left.weight = value.weight := by
  have weights := weightAll_withoutComments value
  rcases value.withoutComments_eq_nil_or with none | ⟨left, one⟩
  · cases value with
    | comment text => exact absurd rfl noComment
    | collection shape items => simp at none
    | _ => cases none
  · rw [one] at weights
    exact ⟨left, one, by simpa using weights⟩

theorem kind_fill {waiting : Node} (waits : waiting.isWaiting = true)
    (value : Node) :
    (waiting.fill value).kind ≠ .comment := by
  rcases (isWaiting_iff waiting).mp waits with rfl | rfl | ⟨metadata, rfl⟩ <;>
    nofun

theorem exists_of_newestWaits {siblings : List Node}
    (waits : newestWaits siblings = true) :
    ∃ newest older, siblings = newest :: older ∧ newest.isWaiting = true := by
  cases siblings with
  | nil => cases waits
  | cons newest older => exact ⟨newest, older, rfl, waits⟩

/-- Lists that waited are the same when they are the same with their values put
in. -/
theorem eq_of_fill {waiting other value left right : Node}
    (waits : waiting.isWaiting = true) (otherWaits : other.isWaiting = true)
    (one : value.withoutComments = [left])
    (same : (waiting.fill value).withoutComments = [other.fill right]) :
    waiting.withoutComments = [other] ∧ left = right := by
  rcases (isWaiting_iff waiting).mp waits with rfl | rfl | ⟨metadata, rfl⟩ <;>
    rcases (isWaiting_iff other).mp otherWaits with rfl | rfl | ⟨data, rfl⟩ <;>
      simp [fill, one, withMetadata] at same ⊢
  · exact same
  · exact same
  · exact ⟨same.2, same.1⟩

/-- A value goes into the same place when the outcome is the same: a value that
fills what was waiting would make a node too heavy for a value that stands
alone. -/
theorem eq_of_attach {value other : Node} {siblings others : List Node}
    (noComment : value.kind ≠ .comment)
    (same : allWithoutComments (value.attach siblings) = other.attach others)
    (weights : value.weight = other.weight) :
    allWithoutComments siblings = others ∧ value.withoutComments = [other] ∧
      Steady siblings := by
  obtain ⟨left, one, leftWeight⟩ := exists_withoutComments noComment
  cases waits : newestWaits siblings with
  | false =>
      rw [attach_of_not_newestWaits waits, allWithoutComments_cons, one] at same
      cases otherWaits : newestWaits others with
      | false =>
          rw [attach_of_not_newestWaits otherWaits] at same
          obtain ⟨rfl, rfl⟩ := List.cons.inj same
          exact ⟨rfl, one, waits.trans otherWaits.symm⟩
      | true =>
          obtain ⟨newest, older, rfl, newestIs⟩ :=
            exists_of_newestWaits otherWaits
          rw [attach_of_newestWaits newestIs] at same
          have filled : left = newest.fill other := (List.cons.inj same).1
          have heavier := weight_fill newestIs other
          have positive := weight_pos_of_isWaiting newestIs
          rw [← filled] at heavier
          omega
  | true =>
      obtain ⟨newest, older, rfl, newestIs⟩ := exists_of_newestWaits waits
      obtain ⟨filled, whole, filledWeight⟩ :=
        exists_withoutComments (kind_fill newestIs value)
      rw [attach_of_newestWaits newestIs, allWithoutComments_cons,
        whole] at same
      rw [weight_fill newestIs] at filledWeight
      cases otherWaits : newestWaits others with
      | false =>
          rw [attach_of_not_newestWaits otherWaits] at same
          have alone : filled = other := (List.cons.inj same).1
          have positive := weight_pos_of_isWaiting newestIs
          rw [alone] at filledWeight
          omega
      | true =>
          obtain ⟨otherNewest, otherOlder, rfl, otherIs⟩ :=
            exists_of_newestWaits otherWaits
          rw [attach_of_newestWaits otherIs] at same
          obtain ⟨rfl, rest⟩ := List.cons.inj same
          obtain ⟨isNewest, rfl⟩ := eq_of_fill newestIs otherIs one whole
          have before : allWithoutComments (newest :: older) =
              otherNewest :: otherOlder := by
            rw [allWithoutComments_cons, isNewest, ← rest]
            rfl
          exact ⟨before, one, waits.trans (before ▸ otherWaits.symm)⟩

/-- Values that come to the same siblings with and without the comments are the
same without them, and each of them is put into the same place. -/
theorem eq_of_attachAll {values others siblings otherSiblings : List Node}
    (weights : (allWithoutComments values).map weight = others.map weight)
    (same : allWithoutComments (attachAll values siblings) =
      attachAll others otherSiblings) :
    allWithoutComments siblings = otherSiblings ∧
      others = allWithoutComments values ∧
      Steadily siblings values := by
  induction values generalizing others siblings otherSiblings with
  | nil =>
      obtain rfl : others = [] := by simpa [eq_comm] using weights
      exact ⟨same, rfl, trivial⟩
  | cons value rest inductionHypothesis =>
      by_cases isComment : value.kind = .comment
      · cases value with
        | comment text =>
            obtain ⟨before, rfl, steadily⟩ := inductionHypothesis weights same
            rw [allWithoutComments_attach_comment] at before
            exact ⟨before, rfl, fun noComment => absurd rfl noComment, steadily⟩
        | _ => cases isComment
      · obtain ⟨left, one, leftWeight⟩ := exists_withoutComments isComment
        rw [allWithoutComments_cons, one] at weights
        cases others with
        | nil => cases weights
        | cons other otherRest =>
            obtain ⟨first, restWeights⟩ := List.cons.inj weights
            obtain ⟨attached, rfl, steadily⟩ :=
              inductionHypothesis restWeights same
            obtain ⟨before, isOther, steady⟩ :=
              eq_of_attach isComment attached (leftWeight.symm.trans first)
            refine ⟨before, ?_, fun _ => steady, steadily⟩
            rw [allWithoutComments_cons, isOther]
            rfl

end Node

def Enclosure.weight : Enclosure → Nat
  | .list | .vector | .map => 1
  | .set | .metadataMap => 2
  | .anonymousFunction => 3

theorem Enclosure.weight_node (enclosure : Enclosure) (used : List Placeholder)
    (items : List Node) :
    (enclosure.node used items).weight =
      enclosure.weight + Node.weightAll items := by
  have names (placeholders : List Placeholder) :
      Node.weightAll (placeholders.map fun placeholder =>
        .identifier (Name.normalize placeholder.text)) = 0 := by
    induction placeholders with
    | nil => rfl
    | cons placeholder rest inductionHypothesis => simp [inductionHypothesis]
  cases enclosure with
  | anonymousFunction =>
      simp only [node, weight, Node.weight_collection,
        Node.weightAll_cons, names]
      simp
      omega
  | metadataMap =>
      simp [node, weight, Node.withMetadata]
      omega
  | list | vector | map | set => simp [node, weight]

theorem Enclosure.items_eq_of_node_eq {enclosure : Enclosure}
    {used otherUsed : List Placeholder} {items others : List Node}
    (same : enclosure.node used items = enclosure.node otherUsed others) :
    items = others := by
  cases enclosure with
  | anonymousFunction =>
      simp only [node, Node.collection.injEq, List.cons.injEq, true_and,
        and_true] at same
      exact same.2
  | _ => simpa [node, Node.withMetadata] using same

end LispReader
