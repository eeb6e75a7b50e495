import LispReader.Proofs.Listing
import LispReader.Proofs.Printing.FixedPoint
import LispReader.Proofs.Printing.Json
import LispReader.Proofs.Printing.Outline

/-!
# What a view shows

A view shows all tokens of a text or all of its trees, and nothing is left
out.  A listing, outlines and JSON tell what was read of the text.  Surface
texts are read as the same trees again where nothing in them is ambiguous, and
the text of every leaf stands in them in any case.  Main statements:
`View.render_eq_ok_iff`, `View.Shows.tells`.
-/

namespace LispReader

namespace Node

mutual

/-- The texts of the leaves inside a node, in order. -/
def texts : Node → List String
  | .collection _ items => textsAll items
  | node => node.text?.toList

def textsAll : List Node → List String
  | [] => []
  | first :: others => texts first ++ textsAll others

end

mutual

/-- The surface text of a node has the texts of its leaves, one after the
other. -/
theorem texts_sublist_surface : (node : Node) →
    (node.texts.flatMap String.toList).Sublist node.surface.toList
  | .collection shape items => by
      have inside := textsAll_sublist_surfaces items
      rw [texts, surface, String.toList_append, String.toList_append]
      exact (inside.trans (List.sublist_append_right _ _)).trans
        (List.sublist_append_left _ _)
  | .comment text | .string text | .keyword text | .regexp pattern
  | .float value raw | .integer value raw | .identifier text | .rest text => by
      simp [texts, text?, surface]
  | .literal value => by
      simp [texts, text?]

theorem textsAll_sublist_surfaces : (nodes : List Node) →
    ((textsAll nodes).flatMap String.toList).Sublist
      (String.intercalate " " (surfaces nodes)).toList
  | [] => by simp [textsAll]
  | first :: others => by
      have here := texts_sublist_surface first
      have behind := textsAll_sublist_surfaces others
      rw [textsAll, List.flatMap_append, surfaces]
      cases others with
      | nil => simpa [textsAll, surfaces] using here
      | cons second later =>
          rw [surfaces, String.intercalate_cons_cons, String.append_assoc,
            String.toList_append, String.toList_append]
          rw [surfaces] at behind
          exact here.append (behind.trans (List.sublist_append_right _ _))

end

/-- Lines of surface text have the texts of all leaves, tree by tree. -/
theorem texts_sublist_endLines (nodes : List Node) :
    ((nodes.flatMap texts).flatMap String.toList).Sublist
      (Text.endLines (nodes.map surface)).toList := by
  induction nodes with
  | nil => simp
  | cons first others inductionHypothesis =>
      have split : (Text.endLines ((first :: others).map surface)).toList =
          first.surface.toList ++
            ("\n".toList ++ (Text.endLines (others.map surface)).toList) := by
        simp [Text.endLines]
      rw [List.flatMap_cons, List.flatMap_append, split]
      exact (texts_sublist_surface first).append
        (inductionHypothesis.trans (List.sublist_append_right _ _))

end Node

namespace View

/-- What a view shows of a text: a line for every token, a line for every tree,
the outline of all trees, or the array of the objects of all trees. -/
inductive Shows (source : String) : View → String → Prop
  | tokens {tokens : List Token} :
      tokenize source = .ok tokens →
      Shows source .tokens (Text.endLines (tokens.map Token.listing))
  | surfaces {nodes : List Node} :
      parse source = .ok nodes →
      Shows source (.trees .sexp) (Text.endLines (nodes.map Node.surface))
  | outlines {nodes : List Node} :
      parse source = .ok nodes →
      Shows source (.trees .debug)
        (Outline.block 0 "[" "]" (nodes.map (Node.outlineAt 1)) ++ "\n")
  | objects {nodes : List Node} :
      parse source = .ok nodes →
      Shows source (.trees .json)
        (Json.array .pretty 0 (nodes.map (Node.jsonAt .pretty 1)) ++ "\n")

/-- What the output of a view tells about a text.  A listing, outlines and
objects tell the tokens or the trees.  Surface texts hold the texts of all
leaves, and are read as the trees again, up to the name of `nil`, where nothing
in these is printed ambiguously. -/
inductive Tells (source output : String) : View → Prop
  | tokens {tokens : List Token} :
      tokenize source = .ok tokens →
      (∀ other, Shows other .tokens output → tokenize other = .ok tokens) →
      Tells source output .tokens
  | trees {nodes : List Node} {format : Format} :
      format ≠ .sexp →
      parse source = .ok nodes →
      (∀ other, Shows other (.trees format) output → parse other = .ok nodes) →
      Tells source output (.trees format)
  | surfaces {nodes : List Node} :
      parse source = .ok nodes →
      ((nodes.flatMap Node.texts).flatMap String.toList).Sublist
        output.toList →
      ((∀ node ∈ nodes, node.Everywhere Node.Unambiguous) →
        Node.Settled nodes →
        parse output = .ok (nodes.map Node.renameNil)) →
      Tells source output (.trees .sexp)

/-- What is printed of a text is what the view shows of it. -/
theorem render_eq_ok_iff (view : View) (source output : String) :
    view.render source = .ok output ↔ view.Shows source output := by
  constructor
  · intro rendered
    cases view with
    | tokens =>
        cases cut : tokenize source with
        | error error => simp [render, cut, Except.map] at rendered
        | ok tokens =>
            simp only [render, cut, Except.map, Except.ok.injEq] at rendered
            exact rendered ▸ .tokens cut
    | trees format =>
        cases parsed : parse source with
        | error error => simp [render, parsed, Except.map] at rendered
        | ok nodes =>
            simp only [render, parsed, Except.map, Except.ok.injEq] at rendered
            subst rendered
            cases format with
            | sexp => exact .surfaces parsed
            | debug => exact .outlines parsed
            | json => exact .objects parsed
  · intro shows
    cases shows with
    | tokens cut =>
        rw [render, cut]
        rfl
    | surfaces parsed | outlines parsed | objects parsed =>
        rw [render, parsed]
        rfl

theorem tokenize_of_shows {source : String} {tokens : List Token}
    (shows : Shows source .tokens (Text.endLines (tokens.map Token.listing))) :
    tokenize source = .ok tokens := by
  generalize same : Text.endLines (tokens.map Token.listing) = output at shows
  cases shows with
  | tokens cut => rw [cut, renderTokens_injective same]

theorem parse_of_shows_outlines {source : String} {nodes : List Node}
    (wellFormed : ∀ node ∈ nodes, node.Everywhere Node.WellFormed)
    (shows : Shows source (.trees .debug)
      (Outline.block 0 "[" "]" (nodes.map (Node.outlineAt 1)) ++ "\n")) :
    parse source = .ok nodes := by
  generalize same :
    Outline.block 0 "[" "]" (nodes.map (Node.outlineAt 1)) ++ "\n" = output
      at shows
  cases shows with
  | outlines parsed =>
      rw [parsed, Node.eq_of_outlineList_append_eq wellFormed
        (wellFormed_of_parse parsed) same]

theorem parse_of_shows_objects {source : String} {nodes : List Node}
    (wellFormed : ∀ node ∈ nodes, node.Everywhere Node.WellFormed)
    (shows : Shows source (.trees .json)
      (Json.array .pretty 0 (nodes.map (Node.jsonAt .pretty 1)) ++ "\n")) :
    parse source = .ok nodes := by
  generalize same :
    Json.array .pretty 0 (nodes.map (Node.jsonAt .pretty 1)) ++ "\n" = output
      at shows
  cases shows with
  | objects parsed =>
      rw [parsed, Node.eq_of_jsonArray_append_eq wellFormed
        (wellFormed_of_parse parsed) same]

/-- What a view shows of a text tells what was read of it. -/
theorem Shows.tells {view : View} {source output : String}
    (shows : view.Shows source output) : view.Tells source output := by
  cases shows with
  | tokens cut => exact .tokens cut fun _ => tokenize_of_shows
  | outlines parsed =>
      exact .trees (by decide) parsed
        fun _ => parse_of_shows_outlines (wellFormed_of_parse parsed)
  | objects parsed =>
      exact .trees (by decide) parsed
        fun _ => parse_of_shows_objects (wellFormed_of_parse parsed)
  | @surfaces nodes parsed =>
      exact .surfaces parsed (Node.texts_sublist_endLines nodes)
        (parse_render_renameNil (wellFormed_of_parse parsed))

end View

end LispReader
