import LispReader.Proofs.Building.Nesting
import LispReader.Proofs.Building.Pairing

/-!
# Where lists go on waiting

A list that waits takes the value right behind it and has none behind it as
long as it waits. So in all that is read a waiting list is the last of its
siblings, with one exception: it may be a value that was put in front of its
metadata. There it waits for good, since values are only added at the end of
what is open. Main statement: `waitsLast_of_read`.
-/

namespace LispReader

namespace Node

/-- Whether directly inside a node only the last item waits. A list of three,
in which a value is marked with its metadata, may have a value that waits
too. -/
def WaitsLast (node : Node) : Prop :=
  ∀ before waiting next after, node.items = before ++ waiting :: next :: after →
    waiting.isWaiting = true →
      node = .list [.identifier "with_meta", waiting, next]

/-- No list waits with a sibling behind it, said of any two neighbours. -/
theorem settled_iff_of_split (nodes : List Node) :
    Settled nodes ↔
      ∀ before first second after, nodes = before ++ first :: second :: after →
        first.isWaiting = false := by
  induction nodes with
  | nil => simp
  | cons newest older inductionHypothesis =>
      cases older with
      | nil => simp [List.cons_eq_append_iff]
      | cons next others =>
          rw [settled_cons_cons, inductionHypothesis]
          constructor
          · rintro ⟨ready, behind⟩ before first second after split
            cases before with
            | nil =>
                cases split
                exact ready
            | cons _ earlier =>
                exact behind earlier first second after (List.cons.inj split).2
          · intro apart
            refine ⟨apart [] newest next others rfl,
              fun before first second after split => ?_⟩
            exact apart (newest :: before) first second after
              (by rw [split, List.cons_append])

theorem waitsLast_of_settled {node : Node} (settled : Settled node.items) :
    node.WaitsLast := by
  intro before waiting next after split waits
  have ready :=
    (settled_iff_of_split _).mp settled before waiting next after split
  rw [ready] at waits
  cases waits

/-- A value that is marked with its metadata is the only item of three that may
wait and not be the last. -/
theorem waitsLast_of_marked (value metadata : Node) :
    (list [.identifier "with_meta", value, metadata]).WaitsLast := by
  intro before waiting next after split waits
  rcases before with _ | ⟨marker, _ | ⟨second, _ | ⟨third, others⟩⟩⟩
  · cases split
    cases waits
  · cases split
    rfl
  · simp at split
  · simp at split

theorem waitsLast_fill {waiting : Node} (waits : waiting.isWaiting = true)
    (value : Node) :
    (waiting.fill value).WaitsLast := by
  rcases (isWaiting_iff waiting).mp waits with rfl | rfl | ⟨metadata, rfl⟩
  · exact waitsLast_of_settled ⟨rfl, trivial⟩
  · exact waitsLast_of_settled ⟨rfl, trivial⟩
  · exact waitsLast_of_marked value metadata

theorem everywhere_waitsLast_of_leaf {node : Node}
    (isLeaf : node.children? = none) :
    node.Everywhere WaitsLast := by
  refine .leaf isLeaf (waitsLast_of_settled ?_)
  simp [items, isLeaf]

theorem everywhere_waitsLast_of_settled {shape : Shape} {items : List Node}
    (settled : Settled items)
    (inside : ∀ item ∈ items, item.Everywhere WaitsLast) :
    (collection shape items).Everywhere WaitsLast :=
  .intro (waitsLast_of_settled settled) inside

theorem isWaiting_of_leaf {node : Node} (isLeaf : node.children? = none) :
    node.isWaiting = false := by
  cases node with
  | collection shape items => cases isLeaf
  | _ => rfl

theorem everywhere_waitsLast_of_leaves {shape : Shape} {items : List Node}
    (leaves : ∀ item ∈ items, item.children? = none) :
    (collection shape items).Everywhere WaitsLast := by
  refine everywhere_waitsLast_of_settled ?_ fun item member =>
    everywhere_waitsLast_of_leaf (leaves item member)
  rw [settled_iff_of_split]
  rintro before first second after rfl
  exact isWaiting_of_leaf (leaves first (by simp))

theorem everywhere_waitsLast_withMetadata {metadata : Node}
    (holds : metadata.Everywhere WaitsLast) :
    (withMetadata metadata).Everywhere WaitsLast := by
  have marker : (identifier "with_meta").Everywhere WaitsLast :=
    everywhere_waitsLast_of_leaf rfl
  exact everywhere_waitsLast_of_settled ⟨rfl, trivial⟩
    (by simpa using ⟨marker, holds⟩)

end Node

open Node (WaitsLast)

theorem Enclosure.everywhere_waitsLast_node {items : List Node}
    (settled : Node.Settled items)
    (inside : ∀ item ∈ items, item.Everywhere WaitsLast)
    (used : List Placeholder) (enclosure : Enclosure) :
    (enclosure.node used items).Everywhere WaitsLast := by
  have collected (shape : Shape) :
      (Node.collection shape items).Everywhere WaitsLast :=
    Node.everywhere_waitsLast_of_settled settled inside
  cases enclosure with
  | list | vector | map | set => exact collected _
  | metadataMap => exact Node.everywhere_waitsLast_withMetadata (collected .map)
  | anonymousFunction =>
      have name : (Node.identifier "fn").Everywhere WaitsLast :=
        Node.everywhere_waitsLast_of_leaf rfl
      have parameters :
          (Node.vector ((Placeholder.parameters (Placeholder.arity used)).map
          fun placeholder =>
            .identifier (Name.normalize placeholder.text))).Everywhere
            WaitsLast :=
        Node.everywhere_waitsLast_of_leaves
          (List.forall_mem_map.mpr fun _ _ => rfl)
      refine Node.everywhere_waitsLast_of_settled ⟨rfl, rfl, trivial⟩ ?_
      simpa using ⟨name, parameters, collected .list⟩

namespace Builder

/-- What is added for a token alone is a leaf, a list that waits, or both in
one. -/
theorem everywhere_waitsLast_of_action? {builder : Builder} {token : Token}
    {value : Node} (called : builder.action? token = .ok (.add value)) :
    value.Everywhere WaitsLast := by
  cases action?_eq_ok_iff.mp called with
  | leaf _ word =>
      exact Node.everywhere_waitsLast_of_leaf (Word.kind_of_leaf word).1
  | quote _ | deref _ =>
      exact Node.everywhere_waitsLast_of_leaves
        (List.forall_mem_singleton.mpr rfl)
  | @shorthand text _ _ =>
      have leaves :
          ∀ item ∈ [Node.keyword (text.getD ""), .literal (.boolean true)],
          item.children? = none := by simp [Node.children?]
      exact Node.everywhere_waitsLast_withMetadata
        (Node.everywhere_waitsLast_of_leaves leaves)
  | name _ | comment _ | keyword _ _ | string _ _ | regexp _ =>
      exact Node.everywhere_waitsLast_of_leaf rfl

/-- Whether in all nodes that a builder holds, at every depth, lists wait only
where they are the last. -/
def WaitsLast : Builder → Prop :=
  Throughout fun siblings => ∀ node ∈ siblings, node.Everywhere Node.WaitsLast

theorem waitsLast_start : start.WaitsLast := ⟨by simp [start], by simp [start]⟩

/-- One step of the builder leaves the waiting lists where they may be. A
collection that is closed was open before, so that nothing behind another of
its items waits. -/
theorem WaitsLast.read {builder next : Builder} {tokens : List Token}
    {token : Token} (holds : builder.WaitsLast) (settled : builder.Settled)
    (follows : builder.Follows tokens) (taken : builder.read token = .ok next) :
    next.WaitsLast := by
  obtain ⟨action, called, rfl⟩ := read_eq_ok_iff.mp taken
  have fits := fits_of_action? follows.expects called
  have added : ∀ value, action.Adds value →
      value.Everywhere Node.WaitsLast := by
    intro value adds
    cases action with
    | expect _ | enter _ _ => cases adds
    | add value =>
        cases adds
        exact everywhere_waitsLast_of_action? called
    | use placeholder =>
        cases adds
        exact Node.everywhere_waitsLast_of_leaf rfl
    | leave frame =>
        obtain ⟨used, rfl⟩ := adds
        have isOpen : frame ∈ builder.frames := List.mem_of_mem_head? fits.2.1
        have inside :
            ∀ item ∈ frame.reversed.reverse, item.Everywhere Node.WaitsLast :=
          fun item member =>
            holds.frames frame isOpen item (List.mem_reverse.mp member)
        have apart := ((settled_iff builder).mp settled).frames frame isOpen
        exact Enclosure.everywhere_waitsLast_node apart inside used _
  exact holds.perform (by simp) fun value adds siblings siblingsHold =>
    .attach (fun _ waits => Node.waitsLast_fill waits value) siblingsHold
      (added value adds)

/-- At every depth only the last of the nodes read so far can wait. -/
theorem waitsLast_of_feed {tokens : List Token} {builder : Builder}
    (accepted : feed Builder.read start tokens = (builder, none)) :
    builder.WaitsLast := by
  have kept (earlier : List Token) (reached : Builder) (last : Token)
      (next : Builder)
      (before : feed Builder.read start earlier = (reached, none))
        (holds : reached.WaitsLast)
      (taken : reached.read last = .ok next) : next.WaitsLast := by
    have settled := settled_feed earlier
    rw [before] at settled
    exact holds.read settled (follows_of_feed before) taken
  exact feed_induction waitsLast_start kept accepted

end Builder

/-- In the trees that are read from tokens, a list that waits is the last of
its siblings, at the top and inside every collection at every depth, unless it
is a value that is marked with its metadata. -/
theorem waitsLast_of_read {tokens : List Token} {nodes : List Node}
    (success : read tokens = .ok nodes) :
    Node.Settled nodes ∧ ∀ node ∈ nodes, node.Everywhere WaitsLast := by
  obtain ⟨sign, scopes, accepted⟩ := exists_top_of_read success
  have settled := Builder.settled_feed tokens
  rw [accepted, Builder.settled_iff] at settled
  have atTop : Node.Settled nodes.reverse.reverse := settled.top
  rw [List.reverse_reverse] at atTop
  exact ⟨atTop, fun node member =>
    (Builder.waitsLast_of_feed accepted).top node (List.mem_reverse.mpr member)⟩

/-- A quotation of nothing that is marked with metadata goes on waiting in
front of them. -/
theorem waitsLast_of_read_marked :
    ∃ nodes : List Node,
      nodes =
        [.list [.list [.identifier "with_meta", .list [.identifier "quote"],
        .map [.keyword "k", .literal (.boolean true)]], .identifier "x",
        .list [.identifier "deref"]]] ∧
      read [⟨.openParen, none, ⟨1, 1⟩⟩, ⟨.metadata, none, ⟨1, 2⟩⟩,
          ⟨.keyword, some "k", ⟨1, 3⟩⟩, ⟨.quote, none, ⟨1, 6⟩⟩,
          ⟨.symbol, some "x", ⟨1, 7⟩⟩, ⟨.deref, none, ⟨1, 9⟩⟩,
          .closer ')' ⟨1, 10⟩] = .ok nodes ∧
      Node.Settled nodes ∧ ∀ node ∈ nodes, node.Everywhere WaitsLast := by
  refine ⟨_, rfl, ?success, waitsLast_of_read ?success⟩
  rfl

end LispReader
