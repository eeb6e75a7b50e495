import LispReader.Proofs.Building.Run
import LispReader.Proofs.Name
import LispReader.Proofs.Placeholder
import LispReader.Proofs.Scanning.Layout

/-!
# What every tree of a text has

`Node.WellFormed` says of a single node what holds of all nodes that come from
a text: names are plain, numbers have the value of their raw text, and no text
has a character that would end it. The builder keeps this for all nodes it
holds, so it holds at every depth of what is parsed. Main statements:
`wellFormed_of_parse`, and `everywhere_of_parse` with the carriage returns that
no text of a node has.
-/

namespace LispReader

namespace Node

/-- Whether a node could come from a text, apart from the nodes inside it. -/
def WellFormed : Node → Prop
  | .collection _ _ => True
  | .comment text => '\n' ∉ text.toList ∧ '\r' ∉ text.toList
  | .string text => '"' ∉ text.toList ∧ '\r' ∉ text.toList
  | .keyword name =>
      ∀ character ∈ name.toList, isSymbolCharacter character = true
  | .regexp pattern =>
      '"' ∉ pattern.source.toList ∧ '\r' ∉ pattern.source.toList
  | .float value raw => ∃ numeral : Numeral,
      numeral.WrittenAs raw.toList ∧ numeral.fraction? ≠ none ∧
        value = numeral.nearest
  | .integer value raw => ∃ numeral : Numeral,
      numeral.WrittenAs raw.toList ∧ numeral.fraction? = none ∧
        value = numeral.integerValue
  | .literal _ => True
  | .identifier name => Name.IsPlain name.toList ∧
      (∀ numeral : Numeral, ¬ numeral.WrittenAs name.toList) ∧
        name ∉ ["nil", "true", "false"]
  | .rest name => Name.IsPlain name.toList

/-- The text that a leaf was made of. Literals and collections have none. -/
def text? : Node → Option String
  | .comment text | .string text => some text
  | .keyword name | .identifier name | .rest name => some name
  | .regexp pattern => some pattern.source
  | .float _ raw | .integer _ raw => some raw
  | .collection _ _ | .literal _ => none

/-- No leaf has a carriage return in the text that it was made of. -/
theorem WellFormed.return_not_mem {node : Node} (holds : node.WellFormed) :
    ∀ text ∈ node.text?, '\r' ∉ text.toList := by
  intro text isText
  cases node with
  | collection shape items | literal value => cases isText
  | comment text | string text | regexp pattern =>
      cases isText
      exact holds.2
  | keyword name =>
      cases isText
      exact Name.return_not_mem_of_inside holds
  | float value raw | integer value raw =>
      cases isText
      obtain ⟨numeral, writing, -⟩ := holds
      exact Name.return_not_mem_of_inside
        (Name.isSymbol_of_writtenAs writing).inside
  | identifier name =>
      cases isText
      exact Name.return_not_mem_of_inside holds.1.inside
  | rest name =>
      cases isText
      exact Name.return_not_mem_of_inside holds.inside

theorem WellFormed.float_eq {value other : Float} {raw : String}
    (holds : (Node.float value raw).WellFormed)
    (otherHolds : (Node.float other raw).WellFormed) :
    value = other := by
  obtain ⟨numeral, writing, -, rfl⟩ := holds
  obtain ⟨otherNumeral, otherWriting, -, rfl⟩ := otherHolds
  rw [writing.unique otherWriting]

theorem WellFormed.integer_eq {value other : IntegerValue} {raw : String}
    (holds : (Node.integer value raw).WellFormed)
    (otherHolds : (Node.integer other raw).WellFormed) : value = other := by
  obtain ⟨numeral, writing, -, rfl⟩ := holds
  obtain ⟨otherNumeral, otherWriting, -, rfl⟩ := otherHolds
  rw [writing.unique otherWriting]

end Node

/-- A name that is no numeral and no literal does not become one when it is
normalized: what changes gets an underscore, and none of them has one. -/
theorem Node.wellFormed_normalize {name : String}
    (symbol : Name.IsSymbol name.toList)
    (notNumeral : ∀ numeral : Numeral, ¬ numeral.WrittenAs name.toList)
    (notLiteral : name ∉ ["nil", "true", "false"]) :
    (Node.identifier (Name.normalize name)).WellFormed := by
  have unchanged : '_' ∉ (Name.normalize name).toList →
      Name.normalize name = name :=
    fun absent =>
      Name.normalize_of_plain (Name.plain_of_underscore_not_mem absent)
  refine ⟨Name.isPlain_normalize symbol, ?_, ?_⟩
  · intro numeral writing
    have absent : '_' ∉ (Name.normalize name).toList :=
      writing.not_mem rfl (by decide)
    rw [unchanged absent] at writing
    exact notNumeral numeral writing
  · intro member
    have absent : '_' ∉ (Name.normalize name).toList := by
      simp only [List.mem_cons, List.not_mem_nil, or_false] at member
      rcases member with same | same | same <;> rw [same] <;> decide
    rw [unchanged absent] at member
    exact notLiteral member

theorem Node.everywhere_wellFormed_ofName {name : String}
    (symbol : Name.IsSymbol name.toList)
    (notNumeral : ∀ numeral : Numeral, ¬ numeral.WrittenAs name.toList) :
    (Node.ofName name).Everywhere Node.WellFormed := by
  by_cases isNil : name = "nil"
  · rw [Node.ofName, if_pos isNil]
    exact .leaf rfl trivial
  by_cases isTrue : name = "true"
  · rw [Node.ofName, if_neg isNil, if_pos isTrue]
    exact .leaf rfl trivial
  by_cases isFalse : name = "false"
  · rw [Node.ofName, if_neg isNil, if_neg isTrue, if_pos isFalse]
    exact .leaf rfl trivial
  have notLiteral : name ∉ ["nil", "true", "false"] := by
    simp [isNil, isTrue, isFalse]
  rw [Node.ofName, if_neg isNil, if_neg isTrue, if_neg isFalse]
  exact .leaf rfl (wellFormed_normalize symbol notNumeral notLiteral)

theorem Numeral.everywhere_wellFormed_node {text : String} {numeral : Numeral}
    (writing : numeral.WrittenAs text.toList) :
    (numeral.node text).Everywhere Node.WellFormed := by
  by_cases noPoint : numeral.fraction? = none
  · rw [node_of_no_point noPoint]
    exact .leaf rfl ⟨numeral, writing, noPoint, rfl⟩
  · rw [node_of_point noPoint]
    exact .leaf rfl ⟨numeral, writing, noPoint, rfl⟩

namespace Placeholder

theorem wellFormed (placeholder : Placeholder) :
    (Node.identifier (Name.normalize placeholder.text)).WellFormed := by
  obtain ⟨digits, spelled, decimal⟩ := placeholder.exists_text
  have inside : ∀ character ∈ placeholder.text.toList,
      isSymbolCharacter character = true := by
    rw [spelled]
    intro character member
    rcases List.mem_cons.mp member with rfl | isDigit
    · decide
    · exact isSymbolCharacter_of_isDecimalDigit (decimal character isDigit)
  have symbol : Name.IsSymbol placeholder.text.toList := by
    exact ⟨inside, '%', digits, spelled, by decide⟩
  apply Node.wellFormed_normalize symbol
  · intro numeral writing
    have percent : '%' ∈ placeholder.text.toList := spelled ▸ List.mem_cons_self
    exact writing.not_mem rfl (by decide) percent
  · intro member
    simp only [List.mem_cons, List.not_mem_nil, or_false] at member
    rcases member with same | same | same <;> rw [same] at spelled <;>
      cases spelled

end Placeholder

/-! ## The builder -/

theorem Node.wellFormed_wrapper {name : String}
    (isWrapper : name ∈ ["quote", "deref", "with_meta", "fn"]) :
    (Node.identifier name).WellFormed := by
  simp only [List.mem_cons, List.not_mem_nil, or_false] at isWrapper
  rcases isWrapper with rfl | rfl | rfl | rfl <;>
    exact
      ⟨by decide, (Numeral.ofChars?_eq_none_iff _).mp (by decide), by decide⟩

theorem Node.everywhere_wellFormed_headed {name : String} {items : List Node}
    (isWrapper : name ∈ ["quote", "deref", "with_meta", "fn"])
    (inside : ∀ item ∈ items, item.Everywhere WellFormed) :
    (Node.list (.identifier name :: items)).Everywhere WellFormed := by
  have headHolds : (Node.identifier name).Everywhere WellFormed :=
    .leaf rfl (wellFormed_wrapper isWrapper)
  exact Everywhere.collection_iff.mpr ⟨trivial,
    List.forall_mem_cons.mpr ⟨headHolds, inside⟩⟩

/-- What encloses well-formed nodes is well formed, whatever is added around
them. -/
theorem Enclosure.everywhere_wellFormed_node {items : List Node}
    (inside : ∀ item ∈ items, item.Everywhere Node.WellFormed)
    (used : List Placeholder) (enclosure : Enclosure) :
    (enclosure.node used items).Everywhere Node.WellFormed := by
  have collected (shape : Shape) :
      (Node.collection shape items).Everywhere Node.WellFormed :=
    Node.Everywhere.collection_iff.mpr ⟨trivial, inside⟩
  cases enclosure with
  | list => exact collected .list
  | vector => exact collected .vector
  | map => exact collected .map
  | set => exact collected .set
  | metadataMap =>
      exact Node.everywhere_wellFormed_headed (by decide)
        (by simpa using collected .map)
  | anonymousFunction =>
      refine Node.everywhere_wellFormed_headed (by decide) ?_
      simp only [List.forall_mem_cons]
      refine ⟨Node.Everywhere.collection_iff.mpr ⟨trivial, ?_⟩, collected .list,
        by simp⟩
      intro parameter member
      obtain ⟨placeholder, -, rfl⟩ := List.mem_map.mp member
      exact .leaf rfl placeholder.wellFormed

namespace Builder

/-- Whether all nodes that a builder holds are well formed, at every depth. -/
structure WellFormed (builder : Builder) : Prop where
  top : ∀ node ∈ builder.top, node.Everywhere Node.WellFormed
  frames : ∀ frame ∈ builder.frames, ∀ node ∈ frame.reversed,
    node.Everywhere Node.WellFormed

def Action.WellFormed : Action → Prop
  | .add value => value.Everywhere Node.WellFormed
  | .leave frame => ∀ node ∈ frame.reversed, node.Everywhere Node.WellFormed
  | _ => True

theorem wellFormed_start : start.WellFormed :=
    ⟨by simp [start], by simp [start]⟩

theorem Action.WellFormed.of_adds {action : Action}
    (brings : action.WellFormed) {value : Node} (adds : action.Adds value) :
    value.Everywhere Node.WellFormed := by
  cases action with
  | expect _ | enter _ _ => cases adds
  | add value =>
      cases adds
      exact brings
  | use placeholder =>
      cases adds
      exact .leaf rfl placeholder.wellFormed
  | leave frame =>
      obtain ⟨used, rfl⟩ := adds
      have items :
          ∀ item ∈ frame.reversed.reverse, item.Everywhere Node.WellFormed :=
        fun item member => brings item (List.mem_reverse.mp member)
      exact Enclosure.everywhere_wellFormed_node items _ _

/-- One step of the builder keeps its nodes well formed. -/
theorem WellFormed.perform {builder : Builder} (holds : builder.WellFormed)
    {action : Action} (brings : action.WellFormed) :
    (builder.perform action).WellFormed := by
  have throughout :
      Throughout (fun siblings => ∀ node ∈
          siblings, node.Everywhere Node.WellFormed)
      builder := ⟨holds.top, holds.frames⟩
  have filled (value waiting : Node) (waits : waiting.isWaiting = true) :
      (waiting.fill value).WellFormed := by
    rcases (Node.isWaiting_iff waiting).mp waits with
      rfl | rfl | ⟨metadata, rfl⟩ <;> trivial
  have kept :=
    throughout.perform (by simp) fun value adds siblings siblingsHold =>
    .attach (filled value) siblingsHold (brings.of_adds adds)
  exact ⟨kept.top, kept.frames⟩

theorem isSymbol_of_spelled {text : Option String} {position : Position}
    {source : List Char}
    (spelled : Token.Spelled ⟨.symbol, text, position⟩ source) :
    Name.IsSymbol (text.getD "").toList := by
  cases spelled with
  | sign sign => cases sign
  | @symbol text position first within isFirst notSign =>
      obtain ⟨rest, split⟩ := List.head?_eq_some_iff.mp isFirst
      exact ⟨within, first, rest, split, notSign⟩

theorem everywhere_wellFormed_of_leaf {text : String}
    (symbol : Name.IsSymbol text.toList) {value : Node}
    (word : Word.ofText text = .leaf value) :
    value.Everywhere Node.WellFormed := by
  rcases Word.ofText_cases text with
    ⟨numeral, writing, reads⟩ | ⟨placeholder, -, reads⟩ | ⟨notNumeral, -, reads⟩
  · cases reads.symm.trans word
    exact Numeral.everywhere_wellFormed_node writing
  · cases reads.symm.trans word
  · cases reads.symm.trans word
    exact Node.everywhere_wellFormed_ofName symbol notNumeral

/-- A token that is spelled out in a text brings well-formed nodes. -/
theorem action?_wellFormed {builder : Builder} (holds : builder.WellFormed)
    {token : Token} {source : List Char} (spelled : token.Spelled source)
    (unified : '\r' ∉ source) {action : Action}
    (called : builder.action? token = .ok action) : action.WellFormed := by
  cases calls_of_action? called with
  | dispatch _ | metadata _ | rest _ | argument _ _ _ | openParen _
    | openBracket _
    | openBrace _ => trivial
  | quote _ | deref _ =>
      exact Node.everywhere_wellFormed_headed (by decide) (by simp)
  | closer _ innermost => exact holds.frames _ (List.mem_of_mem_head? innermost)
  | name _ =>
      exact .leaf rfl (Name.isPlain_normalize (isSymbol_of_spelled spelled))
  | leaf _ word =>
      exact everywhere_wellFormed_of_leaf (isSymbol_of_spelled spelled) word
  | string _ _ | regexp _ =>
      cases spelled with
      | sign sign => cases sign
      | string absent => exact .leaf rfl ⟨absent, by simpa using unified⟩
  | comment _ =>
      cases spelled with
      | sign sign => cases sign
      | comment absent => exact .leaf rfl ⟨absent, by simpa using unified⟩
  | keyword _ _ =>
      cases spelled with
      | sign sign => cases sign
      | keyword within => exact .leaf rfl within
  | shorthand _ =>
      cases spelled with
      | sign sign => cases sign
      | keyword within =>
          have truth :
              (Node.literal (.boolean true)).Everywhere Node.WellFormed :=
            .leaf rfl trivial
          have pair :
              (Node.map [.keyword _, .literal (.boolean true)]).Everywhere
              Node.WellFormed :=
            Node.Everywhere.collection_iff.mpr ⟨trivial, by
              simpa using ⟨.leaf rfl within, truth⟩⟩
          exact Node.everywhere_wellFormed_headed (by decide)
            (by simpa using pair)

/-- Whatever the rest of a text is, the nodes read are well formed. -/
theorem WellFormed.run {builder : Builder} (holds : builder.WellFormed)
    {tokens : List Token}
    (spelled : ∀ token ∈ tokens, ∃ source, token.Spelled source ∧ '\r' ∉ source)
    {nodes : List Node} (success : builder.run tokens = .ok nodes) :
    ∀ node ∈ nodes, node.Everywhere Node.WellFormed := by
  induction tokens generalizing builder with
  | nil =>
      obtain ⟨expects, top, frames, scopes⟩ := builder
      cases expects with
      | name ampersand => cases success
      | value before =>
          cases frames with
          | cons frame outer => cases success
          | nil =>
              cases success
              exact fun node member =>
                holds.top node (List.mem_reverse.mp member)
  | cons token rest inductionHypothesis =>
      obtain ⟨⟨source, tokenSpelled, unified⟩, restSpelled⟩ :=
        List.forall_mem_cons.mp spelled
      obtain ⟨action, called, success⟩ := exists_action_of_run success
      have brings := action?_wellFormed holds tokenSpelled unified called
      exact inductionHypothesis (holds.perform brings) restSpelled success

end Builder

/-- Every tree that comes from a text is well formed at every depth. -/
theorem wellFormed_of_parse {text : String} {nodes : List Node}
    (success : parse text = .ok nodes) :
    ∀ node ∈ nodes, node.Everywhere Node.WellFormed := by
  unfold parse at success
  cases scanned : tokenize text with
  | error refused =>
      rw [scanned] at success
      cases success
  | ok tokens =>
      simp only [scanned, read_eq_run] at success
      exact Builder.wellFormed_start.run (spelled_of_tokenize scanned) success

/-- Every node of a tree that comes from a text is well formed, at whatever
depth, and no text that a leaf keeps has a carriage return. -/
theorem everywhere_of_parse {text : String} {nodes : List Node}
    (success : parse text = .ok nodes) :
    ∀ node ∈ nodes, node.Everywhere fun inner =>
      inner.WellFormed ∧ ∀ part ∈ inner.text?, '\r' ∉ part.toList :=
  fun node member => (wellFormed_of_parse success node member).mono
    fun _ holds => ⟨holds, holds.return_not_mem⟩

/-- Metadata, an anonymous function, a rest name, both kinds of number, and
carriage returns in a pattern, behind a comment and in a string. -/
theorem everywhere_of_parse_mixed :
    ∃ nodes : List Node,
      nodes = [.list [.list [.identifier "with_meta", .identifier "f",
          .map [.keyword "k", .literal (.boolean true)]],
        .list [.identifier "fn",
            .vector [.identifier "_PERCENT_1", .identifier "_PERCENT_2"],
          .list [.identifier "_STAR_", .identifier "_PERCENT_2",
            .list [.identifier "quote",
            .float (Numeral.nearest ⟨false, ['1'], some []⟩) "+1."]]],
        .rest "more_BANG_", .integer (.exact (-7)) "-007", .regexp ⟨"a\nb"⟩,
          .comment "c",
        .list [.identifier "deref", .literal .nil], .string "\n"]] ∧
      parse "(^:k f #(* %2 '+1.) & more! -007 #\"a\rb\" ;c\r\n@nil \"\r\")" =
        .ok nodes ∧
      ∀ node ∈ nodes, node.Everywhere fun inner =>
        inner.WellFormed ∧ ∀ part ∈ inner.text?, '\r' ∉ part.toList := by
  refine ⟨_, rfl, ?success, everywhere_of_parse ?success⟩
  rfl

end LispReader
