import LispReader.Proofs.Building.Run
import Mathlib.Algebra.Order.Group.Multiset

/-!
# The leaves of trees

The leaves of a node, each of them as often as it stands in it and in no order.
Attaching a value moves leaves about and neither loses nor makes any; an
enclosure has the leaves of its items and those that it adds for itself.
-/

namespace LispReader

namespace Node

mutual

/-- The leaves in a node. A leaf is in itself, and a collection is no leaf, not
even an empty one. -/
def leaves : Node → Multiset Node
  | .collection _ items => leavesAll items
  | leaf => {leaf}

def leavesAll : List Node → Multiset Node
  | [] => 0
  | first :: others => leaves first + leavesAll others

end

@[simp]
theorem leaves_collection (shape : Shape) (items : List Node) :
    (collection shape items).leaves = leavesAll items := by
  rw [leaves]

theorem leaves_of_leaf {node : Node} (isLeaf : node.children? = none) :
    node.leaves = {node} := by
  cases node with
  | collection shape items => cases isLeaf
  | _ => rfl

@[simp]
theorem leavesAll_nil : leavesAll [] = 0 := rfl

@[simp]
theorem leavesAll_cons (first : Node) (others : List Node) :
    leavesAll (first :: others) = first.leaves + leavesAll others := by
  rw [leavesAll]

@[simp]
theorem leavesAll_append (left right : List Node) :
    leavesAll (left ++ right) = leavesAll left + leavesAll right := by
  induction left with
  | nil => simp
  | cons first others inductionHypothesis =>
      simp [inductionHypothesis, add_assoc]

@[simp]
theorem leavesAll_reverse (nodes : List Node) :
    leavesAll nodes.reverse = leavesAll nodes := by
  induction nodes with
  | nil => rfl
  | cons first others inductionHypothesis =>
      simp [inductionHypothesis, add_comm]

theorem leavesAll_of_leaves {nodes : List Node}
    (areLeaves : ∀ node ∈ nodes, node.children? = none) :
    leavesAll nodes = nodes := by
  induction nodes with
  | nil => rfl
  | cons first others inductionHypothesis =>
      obtain ⟨firstLeaf, othersLeaves⟩ := List.forall_mem_cons.mp areLeaves
      rw [leavesAll_cons, leaves_of_leaf firstLeaf,
        inductionHypothesis othersLeaves]
      rfl

theorem leaves_fill {waiting : Node} (waits : waiting.isWaiting = true)
    (value : Node) :
    (waiting.fill value).leaves = value.leaves + waiting.leaves := by
  unfold isWaiting at waits
  split at waits
  · simp [fill, add_comm]
  · simp [fill, add_left_comm]
  · cases waits

/-- Wherever a value is put, its leaves come to those of the siblings. -/
theorem leavesAll_attach (value : Node) (siblings : List Node) :
    leavesAll (value.attach siblings) = value.leaves + leavesAll siblings := by
  cases siblings with
  | nil => rfl
  | cons newest older =>
      by_cases waits : newest.isWaiting = true
      · rw [attach, if_pos waits, leavesAll_cons, leavesAll_cons,
          leaves_fill waits, add_assoc]
      · rw [attach, if_neg waits, leavesAll_cons]

end Node

def Node.parameters (count : Nat) : List Node :=
  (List.range count).map fun index =>
    .identifier ("_PERCENT_" ++ toString (index + 1))

namespace Enclosure

/-- The leaves that an enclosure has beside those of its items, when it has so
many parameters. -/
def leaves (count : Nat) : Enclosure → Multiset Node
  | .metadataMap => {.identifier "with_meta"}
  | .anonymousFunction =>
      {.identifier "fn"} + (Node.parameters count : Multiset Node)
  | _ => 0

end Enclosure

end LispReader
