import LispReader.Builder

/-!
# Conditions on trees

`Node.Everywhere` asks a condition of a node and of every node inside it, at
any depth, and `Node.Settled` asks of siblings that none of them waits for the
next. Such conditions are kept when values are attached, since attaching makes
only new lists of nodes that were there before.
-/

namespace LispReader.Node

def items (node : Node) : List Node :=
  node.children?.getD []

@[simp]
theorem items_collection (shape : Shape) (inside : List Node) :
    (collection shape inside).items = inside := rfl

/-- Whether a node and all nodes inside it, at any depth, satisfy a
condition. -/
inductive Everywhere (condition : Node → Prop) : Node → Prop
  | intro {node : Node} :
      condition node →
      (∀ item ∈ node.items, Everywhere condition item) →
      Everywhere condition node

namespace Everywhere

variable {condition : Node → Prop}

theorem here {node : Node} (holds : node.Everywhere condition) :
    condition node := by
  cases holds with
  | intro here _ => exact here

theorem inside {node item : Node} (holds : node.Everywhere condition)
    (member : item ∈ node.items) :
    item.Everywhere condition := by
  cases holds with
  | intro _ inside => exact inside item member

theorem collection_iff {shape : Shape} {items : List Node} :
    (collection shape items).Everywhere condition ↔
      condition (collection shape items) ∧
        ∀ item ∈ items, item.Everywhere condition :=
  ⟨fun holds => ⟨holds.here, fun _ member => holds.inside member⟩,
    fun ⟨here, inside⟩ => .intro here inside⟩

theorem leaf {node : Node} (isLeaf : node.children? = none)
    (here : condition node) :
    node.Everywhere condition := by
  refine .intro here ?_
  simp [items, isLeaf]

theorem mono {other : Node → Prop}
    (weaker : ∀ node, condition node → other node) {node : Node}
    (holds : node.Everywhere condition) : node.Everywhere other := by
  induction holds with
  | intro here _ inductionHypothesis =>
      exact .intro (weaker _ here) inductionHypothesis

theorem and {other : Node → Prop} {node : Node}
    (holds : node.Everywhere condition) (otherHolds : node.Everywhere other) :
    node.Everywhere fun inner => condition inner ∧ other inner := by
  induction holds with
  | intro here _ inductionHypothesis =>
      exact .intro ⟨here, otherHolds.here⟩ fun item member =>
        inductionHypothesis item member (otherHolds.inside member)

end Everywhere

/-- Whether no waiting list has a sibling behind it. -/
def Settled : List Node → Prop
  | first :: second :: others =>
      first.isWaiting = false ∧ Settled (second :: others)
  | _ => True

@[simp]
theorem settled_nil : Settled [] := trivial

@[simp]
theorem settled_singleton (node : Node) : Settled [node] := trivial

@[simp]
theorem settled_cons_cons (first second : Node) (others : List Node) :
    Settled (first :: second :: others) ↔
      first.isWaiting = false ∧ Settled (second :: others) :=
  Iff.rfl

/-- The three kinds of list that wait for a value. -/
theorem isWaiting_iff (node : Node) :
    node.isWaiting = true ↔
      node = .list [.identifier "quote"] ∨ node = .list [.identifier "deref"] ∨
        ∃ metadata, node = .withMetadata metadata := by
  constructor
  · intro waits
    unfold isWaiting at waits
    split at waits
    · rw [Bool.or_eq_true, decide_eq_true_iff, decide_eq_true_iff] at waits
      rcases waits with rfl | rfl
      · exact .inl rfl
      · exact .inr (.inl rfl)
    · obtain rfl := of_decide_eq_true waits
      exact .inr (.inr ⟨_, rfl⟩)
    · cases waits
  · rintro (rfl | rfl | ⟨metadata, rfl⟩) <;> rfl

theorem attach_of_not_waiting (value : Node) {siblings : List Node}
    (ready : ∀ newest ∈ siblings.head?, newest.isWaiting = false) :
    value.attach siblings = value :: siblings := by
  cases siblings with
  | nil => rfl
  | cons newest older => simp [attach, ready newest rfl]

/-- A list with a value put in is a list of what was in it and the value. -/
theorem Everywhere.fill {condition : Node → Prop} {waiting value : Node}
    (filled : condition (waiting.fill value))
    (holds : waiting.Everywhere condition)
    (valueHolds : value.Everywhere condition) :
    (waiting.fill value).Everywhere condition := by
  revert filled
  unfold Node.fill
  split
  · intro filled
    have wrapperHolds := holds.inside List.mem_cons_self
    refine .intro filled ?_
    simpa using ⟨wrapperHolds, valueHolds⟩
  · intro filled
    have inside := (collection_iff.mp holds).2
    refine .intro filled ?_
    simp only [items_collection, List.forall_mem_cons] at inside ⊢
    exact ⟨inside.1, valueHolds, inside.2⟩
  · exact fun _ => holds

theorem Everywhere.attach {condition : Node → Prop} {value : Node}
    (filled : ∀ waiting : Node, waiting.isWaiting = true →
      condition (waiting.fill value))
    {siblings : List Node}
    (holds : ∀ sibling ∈ siblings, sibling.Everywhere condition)
    (valueHolds : value.Everywhere condition) :
    ∀ sibling ∈ value.attach siblings, sibling.Everywhere condition := by
  cases siblings with
  | nil => simpa [Node.attach] using valueHolds
  | cons newest older =>
      obtain ⟨newestHolds, olderHold⟩ := List.forall_mem_cons.mp holds
      cases waits : newest.isWaiting with
      | true =>
          rw [Node.attach, if_pos waits, List.forall_mem_cons]
          exact ⟨newestHolds.fill (filled newest waits) valueHolds, olderHold⟩
      | false =>
          rw [Node.attach, if_neg (by simp [waits]), List.forall_mem_cons]
          exact ⟨valueHolds, holds⟩

end LispReader.Node
