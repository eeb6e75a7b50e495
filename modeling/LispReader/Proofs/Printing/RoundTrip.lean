import LispReader.Proofs.Lines
import LispReader.Proofs.Node.WellFormed
import LispReader.Proofs.Reading

/-!
# Reading undoes printing

A printable node is one whose surface text says all that it is. Wherever a
value is expected, the surface text of a printable node is read as that node
and nothing more, as long as a separator, a closing delimiter or nothing is
behind it. Main statement: a program of printable nodes is read as these nodes.
-/

namespace LispReader

namespace Node

/-- Whether the surface text of a node leaves no doubt about it, apart from the
nodes inside it. A comment would take in what is behind it, and patterns and
`nil` are printed as something else. -/
def PrintableHere : Node → Prop
  | .collection _ items => Settled items
  | .comment _ => False
  | .regexp _ => False
  | .literal .nil => False
  | node => node.WellFormed

/-- Whether the surface text of a node leaves no doubt about it. -/
def Printable (node : Node) : Prop :=
  node.Everywhere PrintableHere

end Node

namespace Node

theorem Printable.collection {items : List Node} (settled : Settled items)
    (printable : ∀ item ∈ items, item.Printable) (shape : Shape) :
    (Node.collection shape items).Printable :=
  Everywhere.collection_iff.mpr ⟨settled, printable⟩

theorem Printable.wellFormed {node : Node} (printable : node.Printable) :
    node.Everywhere WellFormed := by
  refine Everywhere.mono ?_ printable
  intro inner here
  cases inner with
  | collection shape items => trivial
  | comment text => exact absurd here id
  | regexp pattern => exact absurd here id
  | literal value => trivial
  | string text | keyword name | float value raw | integer value raw
    | identifier name
    | rest name => exact here

theorem surface_collection (shape : Shape) (items : List Node) :
    (collection shape items).surface =
      shape.opening ++ program items ++ shape.closing := by
  rw [surface, surfaces_eq_map, program]

theorem program_cons_cons (first second : Node) (others : List Node) :
    program (first :: second :: others) =
      first.surface ++ " " ++ program (second :: others) := by
  simp [program]

theorem return_not_mem_program {nodes : List Node}
    (absent : ∀ node ∈ nodes, '\r' ∉ node.surface.toList) :
    '\r' ∉ (program nodes).toList := by
  induction nodes with
  | nil => decide
  | cons first rest inductionHypothesis =>
      obtain ⟨firstAbsent, restAbsent⟩ := List.forall_mem_cons.mp absent
      cases rest with
      | nil => simpa [program] using firstAbsent
      | cons second others =>
          have othersAbsent := inductionHypothesis restAbsent
          rw [program_cons_cons, String.toList_append, String.toList_append]
          simpa [firstAbsent] using othersAbsent

theorem return_not_mem_surface {node : Node}
    (holds : node.Everywhere WellFormed) :
    '\r' ∉ node.surface.toList := by
  induction holds with
  | @intro node here inside inductionHypothesis =>
      cases node with
      | collection shape items =>
          rw [surface_collection, String.toList_append, String.toList_append]
          have innerAbsent := return_not_mem_program inductionHypothesis
          cases shape <;> simpa [Shape.opening, Shape.closing] using innerAbsent
      | comment text | string text | regexp pattern | keyword name
        | rest name =>
          have absent := here.return_not_mem _ rfl
          simpa [surface] using absent
      | float value raw | integer value raw | identifier name =>
          exact here.return_not_mem _ rfl
      | literal value => rcases value with _ | _ | _ <;> decide

end Node

/-! ## Leaves -/

/-- Whether characters are read as one value wherever a value is expected, if a
separator, a closing delimiter or nothing is behind them. -/
def ReadsAs (source : List Char) (node : Node) : Prop :=
  ∀ (builder : Builder) (position : Position) (following : List Char),
    builder.expects = .value .plain →
    Token.Kind.endsBefore .symbol following →
    builder.consume position (source ++ following) =
      (builder.add node).consume (position.advance source) following

namespace ReadsAs

theorem of_token {kind : Token.Kind} {text : Option String}
    {source : List Char} {node : Node}
    (spelled : ∀ position, Token.Spelled ⟨kind, text, position⟩ source)
    (allows : ∀ character, Token.Kind.allows .symbol character = true →
      kind.allows character = true)
    (called : ∀ (builder : Builder) (position : Position),
      builder.expects = .value .plain →
        builder.action? ⟨kind, text, position⟩ = .ok (.add node)) :
    ReadsAs source node := by
  intro builder position following waits ends
  have mayEnd : kind.endsBefore following :=
    fun first isFirst => allows first (ends first isFirst)
  exact Builder.consume_token (spelled position) mayEnd
    (called builder position waits)

theorem of_symbol {text : String} {node : Node}
    (symbol : Name.IsSymbol text.toList)
    (word : Word.ofText text = .leaf node) : ReadsAs text.toList node := by
  obtain ⟨inside, first, rest, split, notSign⟩ := symbol
  refine of_token (fun position => .symbol inside (by rw [split]; rfl) notSign)
    (fun _ allowed => allowed) ?_
  intro builder position waits
  exact Builder.action?_eq_ok_iff.mpr (.leaf waits word)

theorem of_numeral {raw : String} {numeral : Numeral}
    (writing : numeral.WrittenAs raw.toList) :
    ReadsAs raw.toList (numeral.node raw) :=
  of_symbol (Name.isSymbol_of_writtenAs writing)
    (Word.ofText_of_writtenAs writing)

theorem boolean (value : Bool) :
    ReadsAs (Node.literal (.boolean value)).surface.toList
      (.literal (.boolean value)) := by
  have symbol :
      Name.IsSymbol (Node.literal (.boolean value)).surface.toList := by
    cases value <;> decide
  have word : Word.ofText (Node.literal (.boolean value)).surface =
      .leaf (.literal (.boolean value)) := by
    cases value <;> rfl
  exact of_symbol symbol word

theorem identifier {name : String}
    (wellFormed : (Node.identifier name).WellFormed) :
    ReadsAs name.toList (.identifier name) := by
  obtain ⟨plain, notNumeral, notLiteral⟩ := wellFormed
  have noPlaceholder : Placeholder.ofText? name = none :=
    Placeholder.ofText?_of_not_mem fun percent =>
      plain.plain '%' percent (by decide)
  have unchanged : Name.normalize name = name :=
    Name.normalize_of_plain plain.plain
  simp only [List.mem_cons, List.not_mem_nil, or_false, not_or] at notLiteral
  refine of_symbol plain.toIsSymbol ?_
  rw [Word.ofText_of_name notNumeral noPlaceholder]
  simp [Node.ofName, notLiteral, unchanged]

theorem string {text : String} (absent : '"' ∉ text.toList) :
    ReadsAs (Node.string text).surface.toList (.string text) := by
  have source :
      (Node.string text).surface.toList = '"' :: (text.toList ++ ['"']) := by
    simp [Node.surface]
  rw [source]
  refine of_token (fun position => .string absent) (fun _ _ => rfl) ?_
  intro builder position waits
  exact Builder.action?_eq_ok_iff.mpr (.string waits nofun)

theorem keyword {name : String}
    (inside : ∀ character ∈ name.toList, isSymbolCharacter character = true) :
    ReadsAs (Node.keyword name).surface.toList (.keyword name) := by
  have source : (Node.keyword name).surface.toList = ':' :: name.toList := by
    simp [Node.surface]
  rw [source]
  refine of_token (fun position => .keyword inside)
    (fun _ allowed => allowed) ?_
  intro builder position waits
  exact Builder.action?_eq_ok_iff.mpr (.keyword waits nofun)

/-- A rest parameter takes two tokens: the ampersand and, directly behind it,
the name. -/
theorem rest {name : String} (plain : Name.IsPlain name.toList) :
    ReadsAs (Node.rest name).surface.toList (.rest name) := by
  intro builder position following waits ends
  obtain ⟨first, others, split, notSign⟩ := plain.begins
  have source : (Node.rest name).surface.toList = ['&'] ++ name.toList := by
    simp [Node.surface]
  have ampersand : Token.Spelled ⟨.rest, none, position⟩ ['&'] := .sign rfl
  have spelled :
      Token.Spelled ⟨.symbol, some name, position.advance ['&']⟩ name.toList :=
    .symbol plain.inside (by rw [split]; rfl) notSign
  have expected : builder.action? ⟨.rest, none, position⟩ =
      .ok (.expect (.name position)) :=
    Builder.action?_eq_ok_iff.mpr (.rest waits)
  have named : (builder.perform (.expect (.name position))).action?
      ⟨.symbol, some name, position.advance ['&']⟩ =
        .ok (.add (.rest name)) := by
    simp [Builder.perform, Builder.action?, Name.normalize_of_plain plain.plain]
  have added :
      (builder.perform (.expect (.name position))).perform (.add (.rest name)) =
      builder.add (.rest name) := Builder.add_expects _ _ _
  rw [source, List.append_assoc,
    Builder.consume_token ampersand (fun _ _ => rfl) expected,
    Builder.consume_token spelled ends named, added, Position.advance_append]

end ReadsAs

def Shape.enclosure : Shape → Enclosure
  | .list => .list
  | .vector => .vector
  | .map => .map
  | .set => .set

namespace Builder

/-- The delimiter of a set is two tokens, all others are one. -/
theorem consume_opening {builder : Builder}
    (waits : builder.expects = .value .plain) (shape : Shape)
    (position : Position) (following : List Char) :
    ∃ place, builder.consume position (shape.opening.toList ++ following) =
      (builder.perform (.enter shape.enclosure place)).consume
        (position.advance shape.opening.toList) following := by
  have called (kind : Token.Kind) : builder.action? ⟨kind, none, position⟩ =
      builder.valueAction? .plain ⟨kind, none, position⟩ := by
    simp only [action?, waits]
  cases shape with
  | list =>
      have spelled : Token.Spelled ⟨.openParen, none, position⟩ ['('] :=
        .sign rfl
      exact ⟨position,
        consume_token spelled (fun _ _ => rfl) (called .openParen)⟩
  | vector =>
      have spelled : Token.Spelled ⟨.openBracket, none, position⟩ ['['] :=
        .sign rfl
      exact ⟨position,
        consume_token spelled (fun _ _ => rfl) (called .openBracket)⟩
  | map =>
      have spelled : Token.Spelled ⟨.openBrace, none, position⟩ ['{'] :=
        .sign rfl
      exact ⟨position,
        consume_token spelled (fun _ _ => rfl) (called .openBrace)⟩
  | set =>
      have sign : Token.Spelled ⟨.dispatch, none, position⟩ ['#'] := .sign rfl
      have brace :
          Token.Spelled ⟨.openBrace, none, position.advance ['#']⟩ ['{'] :=
            .sign rfl
      have mayFollow :
          Token.Kind.endsBefore .dispatch (['{'] ++ following) := by
        simp [Token.Kind.allows]
        decide
      have entered : (builder.perform (.expect (.value .dispatch))).action?
          ⟨.openBrace, none, position.advance ['#']⟩ =
            .ok (.enter .set (position.advance ['#'])) := rfl
      refine ⟨position.advance ['#'], ?_⟩
      have split : Shape.set.opening.toList = ['#'] ++ ['{'] := rfl
      rw [split, List.append_assoc,
        consume_token sign mayFollow (called .dispatch),
        consume_token brace (fun _ _ => rfl) entered, Position.advance_append]
      rfl

/-- The closing delimiter ends the innermost collection, and its node is a
value of the sequence around it. -/
theorem consume_closing {builder : Builder}
    (waits : builder.expects = .value .plain) (shape : Shape)
    (items : List Node) (place position : Position) (following : List Char) :
    ((builder.perform (.enter shape.enclosure place)).addAll items).consume
      position
        (shape.closing.toList ++ following) =
      (builder.add (.collection shape (Node.arrange items))).consume
        (position.advance shape.closing.toList) following := by
  obtain ⟨expects, top, frames, scopes⟩ := builder
  cases waits
  let frame : Frame := ⟨shape.enclosure, place, Node.attachAll items []⟩
  let inside : Builder := ⟨.value .plain, top, frame :: frames, scopes⟩
  have entered : (perform ⟨.value .plain, top, frames, scopes⟩
      (.enter shape.enclosure place)).addAll items = inside := by
    cases shape <;> exact addAll_frame _ _ _ _ _
  have left : inside.perform (.leave frame) =
      add ⟨.value .plain, top, frames, scopes⟩
        (.collection shape (Node.arrange items)) := by
    cases shape <;> rfl
  obtain ⟨closer, closes, single⟩ :
      ∃ closer, closer ∈ [')', ']', '}'] ∧ shape.closing.toList = [closer] := by
    cases shape <;> exact ⟨_, by decide, rfl⟩
  have spelled : Token.Spelled (Token.closer closer position) [closer] :=
    .closer closes
  rw [entered, single, ← left]
  exact consume_token spelled (fun _ _ => rfl) rfl

/-- Values with a space between each and the next are added one after the
other. -/
theorem consume_program {items : List Node}
    (reads : ∀ item ∈ items, ReadsAs item.surface.toList item)
    {builder : Builder} (waits : builder.expects = .value .plain)
    (position : Position) {following : List Char}
    (ends : Token.Kind.endsBefore .symbol following) :
    builder.consume position ((Node.program items).toList ++ following) =
      (builder.addAll items).consume
        (position.advance (Node.program items).toList) following := by
  induction items generalizing builder position with
  | nil => rfl
  | cons first rest inductionHypothesis =>
      obtain ⟨firstReads, restReads⟩ := List.forall_mem_cons.mp reads
      cases rest with
      | nil =>
          have single :
              (Node.program [first]).toList = first.surface.toList := by
            simp [Node.program]
          rw [single]
          exact firstReads builder position following waits ends
      | cons second others =>
          have split : (Node.program (first :: second :: others)).toList =
              first.surface.toList ++
                ([' '] ++ (Node.program (second :: others)).toList) := by
            simp [Node.program_cons_cons]
          have gap : ∀ character ∈ [' '], isSeparator character = true :=
            List.forall_mem_singleton.mpr rfl
          have mayEnd : Token.Kind.endsBefore .symbol
              ([' '] ++
                  ((Node.program (second :: others)).toList ++ following)) :=
            (Token.Kind.endsBefore_cons _ _ _).mpr rfl
          have added : (builder.add first).expects = .value .plain :=
            expects_add builder first
          rw [split, List.append_assoc, List.append_assoc,
            firstReads builder position _ waits mayEnd, consume_gap gap,
            inductionHypothesis restReads added, addAll_cons builder,
              Position.advance_append,
            Position.advance_append]

end Builder

/-! ## Nodes and programs -/

/-- A collection is read back if its items are and none of them waits for its
neighbour. -/
theorem ReadsAs.collection {shape : Shape} {items : List Node}
    (settled : Node.Settled items)
    (itemsRead : ∀ item ∈ items, ReadsAs item.surface.toList item) :
    ReadsAs (Node.collection shape items).surface.toList
      (.collection shape items) := by
  intro builder position following waits ends
  -- The builder arranges the items anew: only a waiting item would take in its
  -- neighbour.
  have unchanged : Node.arrange items = items := Node.arrange_of_settled settled
  have source : (Node.collection shape items).surface.toList =
      shape.opening.toList ++
        ((Node.program items).toList ++ shape.closing.toList) := by
    simp [Node.surface_collection]
  have mayEnd :
      Token.Kind.endsBefore .symbol (shape.closing.toList ++ following) := by
    cases shape <;> exact (Token.Kind.endsBefore_cons _ _ _).mpr rfl
  obtain ⟨place, opened⟩ := Builder.consume_opening waits shape position
    ((Node.program items).toList ++ (shape.closing.toList ++ following))
  have entered : (builder.perform (.enter shape.enclosure place)).expects =
      .value .plain := rfl
  rw [source, List.append_assoc, List.append_assoc, opened,
    Builder.consume_program itemsRead entered _ mayEnd,
      Builder.consume_closing waits, unchanged,
    Position.advance_append, Position.advance_append]

/-- Every printable node is read back from its surface text. -/
theorem Node.Printable.readsAs {node : Node} (printable : node.Printable) :
    ReadsAs node.surface.toList node := by
  induction printable with
  | @intro node here inside inductionHypothesis =>
      cases node with
      | collection shape items => exact .collection here inductionHypothesis
      | comment text => exact absurd here id
      | regexp pattern => exact absurd here id
      | string text => exact .string here.1
      | keyword name => exact .keyword here
      | float value raw =>
          obtain ⟨numeral, writing, point, rfl⟩ := here
          have read := ReadsAs.of_numeral writing
          rw [Numeral.node_of_point point] at read
          exact read
      | integer value raw =>
          obtain ⟨numeral, writing, noPoint, rfl⟩ := here
          have read := ReadsAs.of_numeral writing
          rw [Numeral.node_of_no_point noPoint] at read
          exact read
      | literal value =>
          cases value with
          | nil => exact absurd here id
          | boolean value => exact .boolean value
      | identifier name => exact .identifier here
      | rest name => exact .rest here

/-- Printing a program and reading it back gives the program, if its nodes are
printable and none of them waits for the next. -/
theorem parse_program {nodes : List Node}
    (printable : ∀ node ∈ nodes, node.Printable)
    (settled : Node.Settled nodes) :
    parse (Node.program nodes) = .ok nodes := by
  have readEach : ∀ node ∈ nodes, ReadsAs node.surface.toList node :=
    fun node member => (printable node member).readsAs
  have unified : Text.unifyLineEndings (Node.program nodes).toList =
      (Node.program nodes).toList := by
    apply Text.unifyLineEndings_of_not_mem
    apply Node.return_not_mem_program
    intro node member
    exact Node.return_not_mem_surface (printable node member).wellFormed
  have consumed :
      Builder.start.consume .start ((Node.program nodes).toList ++ []) =
      (Builder.start.addAll nodes).finish :=
    Builder.consume_program readEach rfl .start (Token.Kind.endsBefore_nil _)
  rw [parse_eq_consume, unified, ← List.append_nil (Node.program nodes).toList,
    consumed, Builder.finish_addAll_start settled]

theorem parse_program_waiting :
    parse "\x7b: &nil\x7d #\x7b+7 (quote)\x7d (with_meta \"a\nb\")" =
      .ok [.map [.keyword "", .rest "nil"],
        .set [.integer (.exact 7) "+7", .list [.identifier "quote"]],
        .list [.identifier "with_meta", .string "a\nb"]] := by
  have keyword : (Node.keyword "").Printable :=
    .leaf rfl (fun _ member => by cases member)
  have name : (Node.rest "nil").Printable :=
    .leaf rfl (by decide : Name.IsPlain "nil".toList)
  have value :
      IntegerValue.exact 7 = Numeral.integerValue ⟨false, ['7'], none⟩ := by
    rw [Numeral.integerValue, if_pos (by decide)]
    rfl
  have number : (Node.integer (.exact 7) "+7").Printable :=
    .leaf rfl ⟨⟨false, ['7'], none⟩,
      ⟨by decide, List.forall_mem_singleton.mpr rfl, by simp,
        ['+'], by decide, rfl⟩, rfl, value⟩
  have quote : (Node.identifier "quote").Printable :=
    .leaf rfl (Node.wellFormed_wrapper (by decide))
  have marker : (Node.identifier "with_meta").Printable :=
    .leaf rfl (Node.wellFormed_wrapper (by decide))
  have text : (Node.string "a\nb").Printable := .leaf rfl ⟨by decide, by decide⟩
  have first : (Node.map [.keyword "", .rest "nil"]).Printable :=
    .collection (by simp [Node.isWaiting]) (by simpa using ⟨keyword, name⟩) _
  have quotation : (Node.list [.identifier "quote"]).Printable :=
    .collection (by simp) (by simpa using quote) _
  have second :
      (Node.set [.integer (.exact 7) "+7",
          .list [.identifier "quote"]]).Printable :=
    .collection (by simp [Node.isWaiting])
      (by simpa using ⟨number, quotation⟩) _
  have third :
      (Node.list [.identifier "with_meta", .string "a\nb"]).Printable :=
    .collection (by simp [Node.isWaiting]) (by simpa using ⟨marker, text⟩) _
  have printable := List.forall_mem_cons.mpr
    ⟨first,
        List.forall_mem_cons.mpr ⟨second, List.forall_mem_singleton.mpr third⟩⟩
  exact parse_program printable (by simp [Node.isWaiting])

end LispReader
