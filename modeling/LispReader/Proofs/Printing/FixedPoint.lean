import LispReader.Command.View
import LispReader.Proofs.Printing.RoundTrip

/-!
# Printing settles after one round

What is printed for a text, one tree on a line, is read as the trees of the
text again, except that `nil` has been printed as the name `null`. Printing
these trees gives the same lines. For this the trees must not hold what is
printed ambiguously: patterns, comments inside a collection, and lists that
wait for the value behind them.
-/

namespace LispReader

namespace Node

/-- Whether nothing in a node is printed ambiguously, apart from what is inside
the nodes in it. -/
def Unambiguous : Node → Prop
  | .regexp _ => False
  | .collection _ items => Settled items ∧ ∀ item ∈ items, item.kind ≠ .comment
  | _ => True

mutual

/-- The node in which the literal `nil`, at any depth, has become the
identifier it is printed as. -/
def renameNil : Node → Node
  | .collection shape items => .collection shape (renameNilAll items)
  | .literal .nil => .identifier "null"
  | node => node

def renameNilAll : List Node → List Node
  | [] => []
  | first :: others => renameNil first :: renameNilAll others

end

theorem renameNilAll_eq_map (nodes : List Node) :
    renameNilAll nodes = nodes.map renameNil := by
  induction nodes with
  | nil => rfl
  | cons first others inductionHypothesis =>
      simp [renameNilAll, inductionHypothesis]

mutual

theorem surface_renameNil : (node : Node) →
    node.renameNil.surface = node.surface
  | .collection shape items => by
      rw [renameNil, surface, surface, surfaces_renameNilAll items]
  | .literal .nil => rfl
  | .literal (.boolean _) => rfl
  | .comment _ => rfl
  | .string _ => rfl
  | .keyword _ => rfl
  | .regexp _ => rfl
  | .float _ _ => rfl
  | .integer _ _ => rfl
  | .identifier _ => rfl
  | .rest _ => rfl

theorem surfaces_renameNilAll : (nodes : List Node) →
    surfaces (renameNilAll nodes) = surfaces nodes
  | [] => rfl
  | first :: others => by
      rw [renameNilAll, surfaces, surfaces, surface_renameNil first,
        surfaces_renameNilAll others]

end

/-- A list waits for a value or does not, whatever `nil` is called in it. -/
theorem isWaiting_renameNil (node : Node) :
    node.renameNil.isWaiting = node.isWaiting := by
  cases node with
  | collection shape items =>
      rw [renameNil, renameNilAll_eq_map]
      cases shape with
      | vector | map | set => rfl
      | list =>
          rcases items with _ | ⟨first, _ | ⟨second, _ | _⟩⟩
          · rfl
          · cases first with
            | literal value => cases value <;> rfl
            | _ => rfl
          · cases first with
            | literal value => cases value <;> rfl
            | _ => rfl
          · cases first with
            | literal value => cases value <;> rfl
            | _ => rfl
  | literal value => cases value <;> rfl
  | _ => rfl

theorem Settled.renameNil {nodes : List Node} (settled : Settled nodes) :
    Settled (nodes.map Node.renameNil) := by
  induction nodes with
  | nil => trivial
  | cons first rest inductionHypothesis =>
      cases rest with
      | nil => trivial
      | cons second others =>
          obtain ⟨ready, restSettled⟩ := settled
          refine ⟨?_, inductionHypothesis restSettled⟩
          rw [isWaiting_renameNil]
          exact ready

/-- A node of a text is printable once `nil` is a name, if nothing in it is
ambiguous. -/
theorem printable_renameNil {node : Node}
    (holds : node.Everywhere fun inner => inner.WellFormed ∧ inner.Unambiguous)
    (notComment : node.kind ≠ .comment) : node.renameNil.Printable := by
  induction holds with
  | @intro node here inside inductionHypothesis =>
      obtain ⟨wellFormed, unambiguous⟩ := here
      cases node with
      | collection shape items =>
          obtain ⟨settled, noComment⟩ := unambiguous
          rw [renameNil, renameNilAll_eq_map]
          refine .collection settled.renameNil ?_ shape
          intro item member
          obtain ⟨original, isItem, rfl⟩ := List.mem_map.mp member
          exact inductionHypothesis original isItem (noComment original isItem)
      | comment text => exact absurd rfl notComment
      | regexp pattern => exact absurd unambiguous id
      | literal value =>
          cases value with
          | nil =>
              have notNumeral :=
                (Numeral.ofChars?_eq_none_iff "null".toList).mp (by decide)
              have plain : Name.IsPlain "null".toList := by
                decide
              exact .leaf rfl ⟨plain, notNumeral, by decide⟩
          | boolean value => exact .leaf rfl trivial
      | string text | keyword name | float value raw | integer value raw
        | identifier name
        | rest name => exact .leaf rfl wellFormed

end Node

/-- Whether a node is read back from a line of its own. There a comment does no
harm. -/
def Node.PrintableOnLine : Node → Prop
  | .comment text => (Node.comment text).WellFormed
  | node => node.Printable

theorem Node.Printable.onLine {node : Node} (printable : node.Printable) :
    node.PrintableOnLine := by
  cases node with
  | comment text => exact absurd printable.here id
  | _ => exact printable

theorem Node.PrintableOnLine.return_not_mem {node : Node}
    (printable : node.PrintableOnLine) :
    '\r' ∉ node.surface.toList := by
  cases node with
  | comment text => exact Node.return_not_mem_surface (.leaf rfl printable)
  | _ => exact Node.return_not_mem_surface (Node.Printable.wellFormed printable)

namespace Builder

/-- A line with the surface text of a node adds the node. -/
theorem consume_line {node : Node} (printable : node.PrintableOnLine)
    {builder : Builder} (waits : builder.expects = .value .plain)
    (position : Position) (following : List Char) :
    ∃ place,
      builder.consume position (node.surface.toList ++ '\n' :: following) =
      (builder.add node).consume place following := by
  have gap : ∀ character ∈ ['\n'], isSeparator character = true :=
    List.forall_mem_singleton.mpr rfl
  have read :
      builder.consume position (node.surface.toList ++ '\n' :: following) =
      (builder.add node).consume (position.advance node.surface.toList)
        ('\n' :: following) := by
    cases node with
    | comment text =>
        have source :
            (Node.comment text).surface.toList = ';' :: text.toList := by
          simp [Node.surface]
        have spelled :
            Token.Spelled ⟨.comment, some text, position⟩
              (';' :: text.toList) :=
          .comment printable.1
        have called : builder.action? ⟨.comment, some text, position⟩ =
            .ok (.add (.comment text)) :=
          action?_eq_ok_iff.mpr (.comment waits)
        have mayEnd : Token.Kind.endsBefore .comment ('\n' :: following) :=
          (Token.Kind.endsBefore_cons _ _ _).mpr rfl
        rw [source]
        exact consume_token spelled mayEnd called
    | _ =>
        have mayEnd : Token.Kind.endsBefore .symbol ('\n' :: following) :=
          (Token.Kind.endsBefore_cons _ _ _).mpr rfl
        exact Node.Printable.readsAs printable builder position _ waits mayEnd
  exact ⟨_, read.trans (consume_gap gap _ _ following)⟩

/-- Lines with the surface texts of nodes add the nodes one by one. -/
theorem consume_lines {nodes : List Node}
    (printable : ∀ node ∈ nodes, node.PrintableOnLine) {builder : Builder}
    (waits : builder.expects = .value .plain) (position : Position) :
    builder.consume position (Format.sexp.render nodes).toList =
      (builder.addAll nodes).finish := by
  induction nodes generalizing builder position with
  | nil => rfl
  | cons first rest inductionHypothesis =>
      obtain ⟨firstPrintable, restPrintable⟩ :=
        List.forall_mem_cons.mp printable
      have split : (Format.sexp.render (first :: rest)).toList =
          first.surface.toList ++ '\n' :: (Format.sexp.render rest).toList := by
        simp [Format.render, Text.endLines]
      obtain ⟨place, read⟩ := consume_line firstPrintable waits position
        (Format.sexp.render rest).toList
      rw [split, read,
        inductionHypothesis restPrintable (expects_add builder first)]
      rfl

end Builder

/-! ## Whole texts -/

theorem return_not_mem_render {nodes : List Node}
    (absent : ∀ node ∈ nodes, '\r' ∉ node.surface.toList) :
    '\r' ∉ (Format.sexp.render nodes).toList := by
  simpa [Format.render, Text.endLines] using absent

theorem parse_render {nodes : List Node}
    (printable : ∀ node ∈ nodes, node.PrintableOnLine)
    (settled : Node.Settled nodes) :
    parse (Format.sexp.render nodes) = .ok nodes := by
  have unified : Text.unifyLineEndings (Format.sexp.render nodes).toList =
      (Format.sexp.render nodes).toList := by
    apply Text.unifyLineEndings_of_not_mem
    apply return_not_mem_render
    intro node member
    exact (printable node member).return_not_mem
  rw [parse_eq_consume, unified, Builder.consume_lines printable rfl,
    Builder.finish_addAll_start settled]

theorem render_renameNil (nodes : List Node) :
    Format.sexp.render (nodes.map Node.renameNil) =
      Format.sexp.render nodes := by
  have same : Node.surface ∘ Node.renameNil = Node.surface :=
    funext Node.surface_renameNil
  rw [Format.render, Format.render, List.map_map, same]

/-- Well-formed nodes are read back from their lines, up to the name of `nil`,
if nothing in them is printed ambiguously and none of them waits for the
next. -/
theorem parse_render_renameNil {nodes : List Node}
    (wellFormed : ∀ node ∈ nodes, node.Everywhere Node.WellFormed)
    (unambiguous : ∀ node ∈ nodes, node.Everywhere Node.Unambiguous)
    (settled : Node.Settled nodes) :
    parse (Format.sexp.render nodes) = .ok (nodes.map Node.renameNil) := by
  have printable : ∀ node ∈ nodes.map Node.renameNil, node.PrintableOnLine := by
    intro node member
    obtain ⟨original, isNode, rfl⟩ := List.mem_map.mp member
    have originalHolds := wellFormed original isNode
    have holds := originalHolds.and (unambiguous original isNode)
    by_cases isComment : original.kind = .comment
    · cases original with
      | comment text => exact originalHolds.here
      | _ => cases isComment
    · exact (Node.printable_renameNil holds isComment).onLine
  have read := parse_render printable settled.renameNil
  rwa [render_renameNil] at read

/-- What is printed for a text is read as the trees of the text, up to the name
of `nil`, and printing these gives the same text again, if nothing in the trees
is printed ambiguously and no tree waits for the next. -/
theorem render_fixed_point {source : String} {nodes : List Node}
    (success : parse source = .ok nodes)
    (unambiguous : ∀ node ∈ nodes, node.Everywhere Node.Unambiguous)
    (settled : Node.Settled nodes) :
    parse (Format.sexp.render nodes) = .ok (nodes.map Node.renameNil) ∧
      Format.sexp.render (nodes.map Node.renameNil) =
        Format.sexp.render nodes := by
  have read := parse_render_renameNil (wellFormed_of_parse success) unambiguous
    settled
  exact ⟨read, render_renameNil nodes⟩

/-- A function whose body is a list of its argument and a rest parameter. -/
def functionOfRest : Node :=
  .list [.identifier "fn", .vector [.identifier "_PERCENT_1"],
    .list [.identifier "_PERCENT_1", .rest "nil"]]

theorem render_fixed_point_function :
    parse "(quote null)\n; c\n(fn [_PERCENT_1] (_PERCENT_1 &nil))\n" =
        .ok [.list [.identifier "quote", .identifier "null"], .comment " c",
          functionOfRest] ∧
      Format.sexp.render [.list [.identifier "quote", .identifier "null"],
          .comment " c", functionOfRest] =
        "(quote null)\n; c\n(fn [_PERCENT_1] (_PERCENT_1 &nil))\n" := by
  have success : parse "'nil ; c\n#(% &nil)" =
      .ok [.list [.identifier "quote", .literal .nil], .comment " c",
        functionOfRest] := rfl
  have name (text : String) :
      (Node.identifier text).Everywhere Node.Unambiguous :=
    .leaf rfl trivial
  have nil : (Node.literal .nil).Everywhere Node.Unambiguous :=
    .leaf rfl trivial
  have comment : (Node.comment " c").Everywhere Node.Unambiguous :=
    .leaf rfl trivial
  have parameter : (Node.rest "nil").Everywhere Node.Unambiguous :=
    .leaf rfl trivial
  have quotation : (Node.list [.identifier "quote", .literal .nil]).Everywhere
      Node.Unambiguous :=
    Node.Everywhere.collection_iff.mpr
      ⟨by simp [Node.Unambiguous, Node.isWaiting, Node.kind],
        by simp [name, nil]⟩
  have parameters :
      (Node.vector [.identifier "_PERCENT_1"]).Everywhere Node.Unambiguous :=
    Node.Everywhere.collection_iff.mpr
      ⟨by simp [Node.Unambiguous, Node.kind], by simp [name]⟩
  have body :
      (Node.list [.identifier "_PERCENT_1", .rest "nil"]).Everywhere
        Node.Unambiguous :=
    Node.Everywhere.collection_iff.mpr
      ⟨by simp [Node.Unambiguous, Node.isWaiting, Node.kind],
        by simp [name, parameter]⟩
  have function : functionOfRest.Everywhere Node.Unambiguous :=
    Node.Everywhere.collection_iff.mpr
      ⟨by simp [Node.Unambiguous, Node.isWaiting, Node.kind],
        by simp [name, parameters, body]⟩
  exact render_fixed_point success (by simp [quotation, comment, function])
    (by simp [Node.isWaiting])

end LispReader
