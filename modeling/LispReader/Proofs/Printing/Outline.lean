import LispReader.Node.Outline
import LispReader.Proofs.Decimal
import LispReader.Proofs.Node.WellFormed
import LispReader.Proofs.Quoted

/-!
# Trees told from their outlines

Well-formed trees are equal when their outlines are.  The first line of an
outline tells the kind of the node.  A text is ended by its quote, a bracket
ends the items of a collection, and a number or a literal, which nothing
encloses, is ended by the comma behind it.  What a number denotes need not be
read from its value, since the raw text decides it.
-/

namespace LispReader

open Outline
open Text (SelfDelimiting join_append_inj)

namespace Outline

theorem indentation_succ (depth : Nat) :
    indentation (depth + 1) = indentation depth ++ "    " := by
  apply String.toList_injective
  simp [indentation, Nat.mul_add, ← List.replicate_append_replicate]

theorem block_cons (depth : Nat) (opening closing first : String)
    (others : List String) :
    block depth opening closing (first :: others) =
      opening ++ ("\n" ++
        (String.join ((first :: others).map fun item =>
            indentation (depth + 1) ++ item ++ ",\n") ++
          (indentation depth ++ closing))) := by
  simp [block, String.append_assoc]

theorem tagged_eq (depth : Nat) (name item : String) :
    tagged depth name item =
      name ++ ("(\n" ++ (indentation (depth + 1) ++
        (item ++ (",\n" ++ (indentation depth ++ ")"))))) := by
  simp [tagged, block, String.append_assoc]

theorem indentation_append_ne (depth : Nat) (item back : String) :
    indentation (depth + 1) ++ item ≠ indentation depth ++ "]" ++ back := by
  rw [indentation_succ, String.append_assoc, String.append_assoc, Ne,
    String.append_right_inj]
  simp [← String.toList_inj]

/-- The items of a block in brackets are told from the block, if each of them
tells where it ends. -/
theorem block_append_inj {value : Type} {write : value → String}
    {among : value → Prop} {items others : List value}
    (inside : ∀ item ∈ items, SelfDelimiting write among item)
    (othersHold : ∀ other ∈ others, among other)
    {depth : Nat} {rest otherRest : String}
    (same : block depth "[" "]" (items.map write) ++ rest =
      block depth "[" "]" (others.map write) ++ otherRest) :
    items = others ∧ rest = otherRest := by
  have lines : ∀ item ∈ items,
      SelfDelimiting (fun item => indentation (depth + 1) ++
          write item ++ ",\n")
        among item := by
    intro item member other holds front back equal
    simp only [String.append_assoc, String.append_right_inj] at equal
    obtain ⟨rfl, behind⟩ := inside item member other holds _ _ equal
    exact ⟨rfl, (String.append_right_inj _).mp behind⟩
  have unlike (item : value) (front back : String) :
      indentation (depth + 1) ++ write item ++ ",\n" ++ front ≠
        indentation depth ++ "]" ++ back := by
    rw [String.append_assoc, String.append_assoc]
    exact indentation_append_ne depth _ back
  cases items with
  | nil =>
      cases others with
      | nil => exact ⟨rfl, (String.append_right_inj _).mp same⟩
      | cons other otherLater =>
          rw [List.map_cons, block_cons] at same
          simp [block, ← String.toList_inj] at same
  | cons item later =>
      cases others with
      | nil =>
          rw [List.map_cons, block_cons] at same
          simp [block, ← String.toList_inj] at same
      | cons other otherLater =>
          rw [List.map_cons, List.map_cons, block_cons, block_cons,
            ← List.map_cons, ← List.map_cons, List.map_map,
            List.map_map] at same
          simp only [String.append_assoc, String.append_right_inj] at same
          refine join_append_inj lines othersHold unlike ?_
          simpa only [String.append_assoc, Function.comp_def] using same

end Outline

theorem comma_not_mem_number (value : Float) :
    ',' ∉ (number.write value).toList :=
  Decimal.Layout.not_mem_write rfl (by decide) (by simp [number]) value

/-- The outline of an integer value has one comma, in front of its last line. -/
theorem IntegerValue.exists_outline_eq (value : IntegerValue) (depth : Nat) :
    ∃ front, ',' ∉ front.toList ∧
      value.outline depth =
        front ++ ("," ++ ("\n" ++ (indentation depth ++ ")"))) := by
  cases value with
  | exact value =>
      refine ⟨"Exact(\n" ++ indentation (depth + 1) ++ toString value.toInt,
        ?_, ?_⟩
      · have digits : ',' ∉ (toString value.toInt).toList :=
          Decimal.not_mem_toString_int rfl (by decide) value.toInt
        simpa [indentation] using digits
      · simp [outline, tagged_eq, String.append_assoc, ← String.toList_inj]
  | approximate value =>
      refine ⟨"Approximate(\n" ++ indentation (depth + 1) ++ number.write value,
        ?_, ?_⟩
      · simpa [indentation] using comma_not_mem_number value
      · simp [outline, tagged_eq, String.append_assoc, ← String.toList_inj]

theorem IntegerValue.outline_append_inj {value other : IntegerValue}
    {depth : Nat} {rest otherRest : String}
    (same : value.outline depth ++ rest = other.outline depth ++ otherRest) :
    rest = otherRest := by
  obtain ⟨front, plain, written⟩ := value.exists_outline_eq depth
  obtain ⟨otherFront, otherPlain, otherWritten⟩ := other.exists_outline_eq depth
  simp only [written, otherWritten, String.append_assoc] at same
  obtain ⟨-, behind⟩ := Text.eq_of_sign_append_eq rfl plain otherPlain same
  simpa only [String.append_assoc, String.append_right_inj] using behind

theorem Literal.outline_append_inj {value other : Literal}
    {depth : Nat} {rest otherRest : String}
    (same : value.outline depth ++ rest = other.outline depth ++ otherRest) :
    value = other ∧ rest = otherRest := by
  rcases value with _ | ⟨_ | _⟩ <;> rcases other with _ | ⟨_ | _⟩ <;>
    simp [outline, tagged_eq, ← String.toList_inj] at same ⊢ <;>
    exact same

namespace Node

def Kind.title : Kind → String
  | .collection shape => shape.title ++ "("
  | .comment => "Comment("
  | .string => "String("
  | .keyword => "Keyword("
  | .regexp => "Regexp("
  | .float => "Float \x7b"
  | .integer => "Integer \x7b"
  | .literal => "Literal("
  | .identifier => "Identifier("
  | .rest => "Rest("

def Kind.ending : Kind → String
  | .float | .integer => "\x7d"
  | _ => ")"

/-- What stands between the first line of the outline of a node and its last
one. -/
def outlineBody (depth : Nat) : Node → String
  | .collection _ items =>
      block (depth + 1) "[" "]" (items.map (outlineAt (depth + 2)))
  | .comment text | .string text | .keyword text | .identifier text
  | .rest text => Text.quoted text
  | .regexp pattern => tagged (depth + 1) "Pattern" (Text.quoted pattern.source)
  | .float value raw =>
      "value: " ++ (number.write value ++ ("," ++ ("\n" ++
        (indentation (depth + 1) ++ ("raw: " ++ Text.quoted raw)))))
  | .integer value raw =>
      "value: " ++ (value.outline (depth + 1) ++ ("," ++ ("\n" ++
        (indentation (depth + 1) ++ ("raw: " ++ Text.quoted raw)))))
  | .literal value => value.outline (depth + 1)

theorem outlineAt_eq (depth : Nat) (node : Node) :
    outlineAt depth node =
      node.kind.title ++ ("\n" ++ (indentation (depth + 1) ++
        (node.outlineBody depth ++
          (",\n" ++ (indentation depth ++ node.kind.ending))))) := by
  cases node <;>
    simp [outlineAt, outlinesAt_eq_map, kind, Kind.title, Kind.ending,
      outlineBody, tagged, record, block, String.append_assoc,
      ← String.toList_inj]

/-- The first line of an outline tells the kind of the node. -/
theorem Kind.title_append_inj {kind otherKind : Kind} {rest otherRest : String}
    (same : kind.title ++ ("\n" ++ rest) =
      otherKind.title ++ ("\n" ++ otherRest)) :
    kind = otherKind ∧ rest = otherRest := by
  have inLine (kind : Kind) : '\n' ∉ kind.title.toList := by
    rcases kind with ⟨⟨⟩⟩ | _ <;> decide
  obtain ⟨titles, rests⟩ :=
    Text.eq_of_sign_append_eq rfl (inLine kind) (inLine otherKind) same
  refine ⟨?_, rests⟩
  revert titles
  rcases kind with ⟨⟨⟩⟩ | _ <;> rcases otherKind with ⟨⟨⟩⟩ | _ <;> decide

/-- The raw text of a number is behind its value. -/
theorem raw_append_inj {depth : Nat} {raw otherRaw rest otherRest : String}
    (same : "\n" ++
      (indentation depth ++ ("raw: " ++ (Text.quoted raw ++ rest))) =
        "\n" ++ (indentation depth ++
            ("raw: " ++ (Text.quoted otherRaw ++ otherRest)))) :
    raw = otherRaw ∧ rest = otherRest := by
  simp only [String.append_right_inj] at same
  exact Text.eq_of_quoted_append_eq same

/-- The outline of a well-formed node tells where it ends. -/
theorem Everywhere.selfDelimiting_outlineAt {node : Node}
    (holds : node.Everywhere WellFormed) (depth : Nat) :
    SelfDelimiting (outlineAt depth) (Everywhere WellFormed) node := by
  induction holds generalizing depth with
  | @intro node here inside inductionHypothesis =>
      intro other otherHolds rest otherRest same
      simp only [outlineAt_eq, String.append_assoc] at same
      obtain ⟨sameKind, bodies⟩ := Kind.title_append_inj same
      rw [String.append_right_inj, ← sameKind] at bodies
      have ended {front back : String}
          (equal : ",\n" ++ (indentation depth ++ (node.kind.ending ++ front)) =
            ",\n" ++ (indentation depth ++ (node.kind.ending ++ back))) :
          front = back := by
        simpa only [String.append_right_inj] using equal
      clear same
      cases node with
      | collection shape items =>
          cases other <;> cases sameKind
          rename_i others
          have othersHold := (Everywhere.collection_iff.mp otherHolds).2
          obtain ⟨rfl, behind⟩ := block_append_inj
            (fun item member => inductionHypothesis item member (depth + 2))
            othersHold bodies
          exact ⟨rfl, ended behind⟩
      | comment text | string text | keyword text | identifier text
        | rest text =>
          cases other <;> cases sameKind
          obtain ⟨rfl, behind⟩ := Text.eq_of_quoted_append_eq bodies
          exact ⟨rfl, ended behind⟩
      | regexp pattern =>
          cases other <;> cases sameKind
          rename_i otherPattern
          simp only [outlineBody, tagged_eq, String.append_assoc,
            String.append_right_inj] at bodies
          obtain ⟨sources, behind⟩ := Text.eq_of_quoted_append_eq bodies
          simp only [String.append_right_inj] at behind
          obtain rfl : pattern = otherPattern := congrArg Pattern.mk sources
          exact ⟨rfl, behind⟩
      | float value raw =>
          cases other <;> cases sameKind
          simp only [outlineBody, String.append_assoc] at bodies
          rw [String.append_right_inj] at bodies
          obtain ⟨-, raws⟩ := Text.eq_of_sign_append_eq rfl
            (comma_not_mem_number _) (comma_not_mem_number _) bodies
          obtain ⟨rfl, behind⟩ := raw_append_inj raws
          exact ⟨by rw [WellFormed.float_eq here otherHolds.here], ended behind⟩
      | integer value raw =>
          cases other <;> cases sameKind
          simp only [outlineBody, String.append_assoc] at bodies
          rw [String.append_right_inj] at bodies
          have raws := IntegerValue.outline_append_inj bodies
          rw [String.append_right_inj] at raws
          obtain ⟨rfl, behind⟩ := raw_append_inj raws
          exact
            ⟨by rw [WellFormed.integer_eq here otherHolds.here], ended behind⟩
      | literal value =>
          cases other <;> cases sameKind
          obtain ⟨rfl, behind⟩ := Literal.outline_append_inj bodies
          exact ⟨rfl, ended behind⟩

/-- Well-formed nodes are told from their outline. -/
theorem eq_of_outlineList_append_eq {nodes others : List Node}
    (holds : ∀ node ∈ nodes, node.Everywhere WellFormed)
    (othersHold : ∀ node ∈ others, node.Everywhere WellFormed)
    {rest otherRest : String}
    (same : outlineList nodes ++ rest = outlineList others ++ otherRest) :
    nodes = others := by
  have inside : ∀ node ∈ nodes,
      SelfDelimiting (outlineAt 1) (Everywhere WellFormed) node :=
    fun node member => (holds node member).selfDelimiting_outlineAt 1
  exact (block_append_inj inside othersHold same).1

end Node

end LispReader
