import LispReader.Proofs.Node.Comments

/-!
# Values in pairs

Values that are attached one after the other make pairs from the left: a
waiting list takes the value right behind it, whatever that is, and is then a
list that waits no more. So among the nodes of a collection that is open only
the newest can wait, and the same is true outside of all collections. Main
statement: `arrange_eq_pairUp_and_settled`.
-/

namespace LispReader

namespace Node

/-- Values in order, except that a waiting list and the value behind it are one
list. -/
def pairUp : List Node → List Node
  | .list [.identifier "with_meta", metadata] :: value :: others =>
      .list [.identifier "with_meta", value, metadata] :: pairUp others
  | .list [.identifier "quote"] :: value :: others =>
      .list [.identifier "quote", value] :: pairUp others
  | .list [.identifier "deref"] :: value :: others =>
      .list [.identifier "deref", value] :: pairUp others
  | value :: others => value :: pairUp others
  | [] => []

/-- A waiting list and the value behind it are one node, which does not wait
for the values to come. -/
theorem attachAll_pair {waiting value filled : Node}
    {rest paired siblings : List Node}
    (ready : ∀ newest ∈ siblings.head?, newest.isWaiting = false)
    (waits : waiting.isWaiting = true) (fills : waiting.fill value = filled)
    (waitsNoMore : filled.isWaiting = false)
    (behind : ∀ {siblings : List Node},
      (∀ newest ∈ siblings.head?, newest.isWaiting = false) →
        attachAll rest siblings = paired.reverse ++ siblings) :
    attachAll (waiting :: value :: rest) siblings =
      (filled :: paired).reverse ++ siblings := by
  have filledReady :
      ∀ newest ∈ (filled :: siblings).head?, newest.isWaiting = false := by
    simpa using waitsNoMore
  rw [attachAll_cons, attachAll_cons, attach_of_not_waiting waiting ready,
    attach_of_newestWaits waits, fills, behind filledReady, List.reverse_cons,
      List.append_assoc,
    List.singleton_append]

/-- Values that are attached one after the other are paired up, if nothing
before them waits. -/
theorem attachAll_eq_pairUp (values : List Node) {siblings : List Node}
    (ready : ∀ newest ∈ siblings.head?, newest.isWaiting = false) :
    attachAll values siblings = (pairUp values).reverse ++ siblings := by
  fun_induction pairUp values generalizing siblings with
  | case1 metadata value rest inductionHypothesis =>
      exact attachAll_pair ready rfl rfl rfl inductionHypothesis
  | case2 value rest inductionHypothesis
    | case3 value rest inductionHypothesis =>
      exact attachAll_pair ready rfl rfl rfl inductionHypothesis
  | case4 value rest noMetadata noQuote noDeref inductionHypothesis =>
      rw [attachAll_cons, attach_of_not_waiting value ready]
      cases rest with
      | nil => rfl
      | cons next others =>
          have settled : value.isWaiting = false := by
            rw [Bool.eq_false_iff]
            intro waits
            rcases (isWaiting_iff value).mp waits with
              rfl | rfl | ⟨metadata, rfl⟩
            · exact noQuote next others rfl rfl
            · exact noDeref next others rfl rfl
            · exact noMetadata metadata next others rfl rfl
          rw [inductionHypothesis (by simpa using settled)]
          simp
  | case5 => rfl

theorem arrange_eq_pairUp (values : List Node) :
    arrange values = pairUp values := by
  rw [arrange, attachAll_eq_pairUp values (by simp), List.append_nil,
    List.reverse_reverse]

theorem settled_concat_iff (nodes : List Node) (last : Node) :
    Settled (nodes ++ [last]) ↔ ∀ node ∈ nodes, node.isWaiting = false := by
  induction nodes with
  | nil => simp
  | cons first others inductionHypothesis =>
      cases others with
      | nil => simp
      | cons second more =>
          have behind := inductionHypothesis
          rw [List.cons_append] at behind
          rw [List.cons_append, List.cons_append, settled_cons_cons, behind]
          simp only [List.mem_cons, forall_eq_or_imp]

/-- A value goes into the newest sibling or behind it, and only the latter
makes it an older one. -/
theorem Settled.attach {siblings : List Node}
    (settled : Settled siblings.reverse) (value : Node) :
    Settled (value.attach siblings).reverse := by
  cases siblings with
  | nil => exact settled_singleton value
  | cons newest older =>
      rw [List.reverse_cons, settled_concat_iff] at settled
      cases waits : newest.isWaiting with
      | true =>
          rw [attach_of_newestWaits waits, List.reverse_cons,
            settled_concat_iff]
          exact settled
      | false =>
          rw [Node.attach, if_neg (by simp [waits]), List.reverse_cons,
            settled_concat_iff, List.reverse_cons, List.forall_mem_append]
          exact ⟨settled, by simpa using waits⟩

end Node

namespace Builder

/-- The nodes read so far outside of all collections and in each one that is
open, oldest first. -/
def contexts (builder : Builder) : List (List Node) :=
  builder.top.reverse :: builder.frames.map fun frame => frame.reversed.reverse

/-- Whether no node that waits has a sibling behind it, in the collections that
are open and outside of all. -/
def Settled (builder : Builder) : Prop :=
  ∀ siblings ∈ builder.contexts, Node.Settled siblings

theorem settled_iff (builder : Builder) :
    builder.Settled ↔
      Throughout (fun siblings => Node.Settled siblings.reverse) builder := by
  rw [Settled, contexts, List.forall_mem_cons, List.forall_mem_map]
  exact ⟨fun ⟨atTop, inFrames⟩ => ⟨atTop, inFrames⟩, fun ⟨atTop, inFrames⟩ =>
    ⟨atTop, inFrames⟩⟩

theorem settled_start : start.Settled := by
  simp [Settled, contexts, start]

theorem Settled.read {builder next : Builder} {token : Token}
    (settled : builder.Settled) (taken : builder.read token = .ok next) :
    next.Settled := by
  obtain ⟨action, -, rfl⟩ := read_eq_ok_iff.mp taken
  have throughout := (settled_iff builder).mp settled
  exact (settled_iff _).mpr <|
    throughout.perform Node.settled_nil fun value _ _ siblingsSettled =>
      siblingsSettled.attach value

theorem settled_feed (tokens : List Token) :
    (feed Builder.read start tokens).1.Settled :=
  feed_invariant (fun _ _ _ settled taken => settled.read taken)
    settled_start tokens

end Builder

/-- Values that are attached in order are paired from the left, and no node but
the last waits in any collection that is open behind some tokens, even where
the next token is refused. -/
theorem arrange_eq_pairUp_and_settled :
    (∀ values, Node.arrange values = Node.pairUp values) ∧
    ∀ tokens, ∀ siblings ∈ (feed Builder.read .start tokens).1.contexts,
      Node.Settled siblings :=
  ⟨Node.arrange_eq_pairUp, Builder.settled_feed⟩

end LispReader
