import LispReader.Node.Json
import LispReader.Proofs.Decimal
import LispReader.Proofs.Json
import LispReader.Proofs.Node.WellFormed

/-!
# Trees told from their JSON texts

Trees that come from texts are equal when their JSON texts are. The object of a
node tells its kind first, and then where its value ends: a string by its
quote, an array by its bracket, and a number or a literal, which nothing
encloses, by the comma in front of its raw text. What a number denotes need not
be read from its value, since the raw text decides it. Main statement:
`eq_of_jsonArray_eq`.
-/

namespace LispReader

open Json
open Text (SelfDelimiting)

theorem Node.Kind.name_injective {left right : Kind}
    (same : left.name = right.name) :
    left = right := by
  revert same
  rcases left with ⟨⟨⟩⟩ | _ <;> rcases right with ⟨⟨⟩⟩ | _ <;> decide

theorem Literal.raw_injective {left right : Literal}
    (same : left.raw = right.raw) :
    left = right := by
  revert same
  rcases left with _ | ⟨_ | _⟩ <;> rcases right with _ | ⟨_ | _⟩ <;> decide

theorem Literal.comma_not_mem_json (literal : Literal) :
    ',' ∉ literal.json.toList := by
  rcases literal with _ | ⟨_ | _⟩ <;> decide

theorem comma_not_mem_jsonNumber (value : Float) :
    ',' ∉ (jsonNumber.write value).toList :=
  Decimal.Layout.not_mem_write rfl (by decide) (by simp [jsonNumber]) value

theorem IntegerValue.comma_not_mem_json (value : IntegerValue) :
    ',' ∉ value.json.toList := by
  cases value with
  | approximate value => exact comma_not_mem_jsonNumber value
  | exact value =>
      exact Decimal.not_mem_toString_int rfl (by decide) value.toInt

namespace Node

/-- The object of a node of some kind up to its value. -/
def jsonFront (spacing : Spacing) (depth : Nat) (kind : Kind) : String :=
  "\x7b" ++
    (spacing.gap (depth + 1) ++ (field spacing "kind" (text kind.name) ++
    ("," ++ (spacing.gap (depth + 1) ++ field spacing "value" ""))))

def jsonValue (spacing : Spacing) (depth : Nat) : Node → String
  | .collection _ items =>
      array spacing (depth + 1) (items.map (jsonAt spacing (depth + 2)))
  | .comment content | .string content | .keyword content | .identifier content
  | .rest content => text content
  | .regexp pattern => text pattern.source
  | .float value _ => jsonNumber.write value
  | .integer value _ => value.json
  | .literal value => value.json

/-- The object of a node behind its value. -/
def jsonBack (spacing : Spacing) (depth : Nat) : Option String → String
  | none => spacing.gap depth ++ "\x7d"
  | some raw =>
      "," ++ (spacing.gap (depth + 1) ++ (field spacing "raw" (text raw) ++
      (spacing.gap depth ++ "\x7d")))

theorem jsonObject_eq (spacing : Spacing) (depth : Nat) (node : Node)
    (value : String) :
    jsonObject spacing depth node value =
      jsonFront spacing depth node.kind ++
        (value ++ jsonBack spacing depth node.raw?) := by
  unfold jsonObject
  cases node.raw? <;> cases spacing <;>
    simp [object, enclose_cons, jsonFront, jsonBack, field, String.append_assoc]

theorem jsonAt_eq (spacing : Spacing) (depth : Nat) (node : Node) :
    jsonAt spacing depth node =
      jsonFront spacing depth node.kind ++
        (jsonValue spacing depth node ++ jsonBack spacing depth node.raw?) := by
  cases node <;> simp only [jsonAt, jsonObject_eq, jsonValue, jsonsAt_eq_map]

variable {spacing : Spacing} {depth : Nat}

theorem jsonFront_append_inj {kind otherKind : Kind} {rest otherRest : String}
    (same : jsonFront spacing depth kind ++ rest =
      jsonFront spacing depth otherKind ++ otherRest) :
    kind = otherKind ∧ rest = otherRest := by
  have names : text kind.name ++ ("," ++ (spacing.gap (depth + 1) ++
        (field spacing "value" "" ++ rest))) =
      text otherKind.name ++ ("," ++ (spacing.gap (depth + 1) ++
        (field spacing "value" "" ++ otherRest))) := by
    cases spacing <;>
      simpa only [jsonFront, field, String.append_assoc,
        String.append_right_inj] using same
  obtain ⟨kinds, behind⟩ := text_append_inj names
  refine ⟨Kind.name_injective kinds, ?_⟩
  simpa only [String.append_right_inj] using behind

theorem jsonBack_append_inj {raw otherRaw rest otherRest : String}
    (same : jsonBack spacing depth (some raw) ++ rest =
      jsonBack spacing depth (some otherRaw) ++ otherRest) :
    raw = otherRaw ∧ rest = otherRest := by
  have raws : text raw ++ (spacing.gap depth ++ ("\x7d" ++ rest)) =
      text otherRaw ++ (spacing.gap depth ++ ("\x7d" ++ otherRest)) := by
    cases spacing <;>
      simpa only [jsonBack, field, String.append_assoc, String.append_right_inj]
        using same
  obtain ⟨contents, behind⟩ := text_append_inj raws
  exact ⟨contents, by simpa only [String.append_right_inj] using behind⟩

/-- The comma in front of the raw text ends a value that has none. Numbers and
literals are told by their raw texts, so the value itself need not be
recovered. -/
theorem jsonBack_append_inj_of_plain
    {value other raw otherRaw rest otherRest : String}
    (plain : ',' ∉ value.toList) (otherPlain : ',' ∉ other.toList)
    (same : value ++ (jsonBack spacing depth (some raw) ++ rest) =
      other ++ (jsonBack spacing depth (some otherRaw) ++ otherRest)) :
    raw = otherRaw ∧ rest = otherRest := by
  have parts := same
  simp only [jsonBack, String.append_assoc] at parts
  obtain ⟨values, -⟩ :=
    Text.eq_of_sign_append_eq rfl plain otherPlain parts
  rw [values, String.append_right_inj] at same
  exact jsonBack_append_inj same

theorem jsonAt_append_ne_bracket (node : Node) (rest otherRest : String) :
    jsonAt spacing depth node ++ rest ≠ "]" ++ otherRest := by
  rw [jsonAt_eq, jsonFront]
  simp [← String.toList_inj]

/-- The JSON object of a well-formed node tells where it ends. -/
theorem Everywhere.selfDelimiting {node : Node}
    (holds : node.Everywhere WellFormed) (depth : Nat) :
    SelfDelimiting (jsonAt spacing depth) (Everywhere WellFormed) node := by
  induction holds generalizing depth with
  | @intro node here inside inductionHypothesis =>
      intro other otherHolds rest otherRest same
      rw [jsonAt_eq, jsonAt_eq, String.append_assoc, String.append_assoc,
        String.append_assoc, String.append_assoc] at same
      obtain ⟨sameKind, values⟩ := jsonFront_append_inj same
      clear same
      cases node with
      | collection shape items =>
          cases other <;> cases sameKind
          rename_i others
          have othersHold := (Everywhere.collection_iff.mp otherHolds).2
          obtain ⟨rfl, behind⟩ := array_append_inj
            (fun item member => inductionHypothesis item member (depth + 2))
              othersHold
            jsonAt_append_ne_bracket values
          exact ⟨rfl, (String.append_right_inj _).mp behind⟩
      | comment content | string content | keyword content | identifier content
        | rest content =>
          cases other <;> cases sameKind
          obtain ⟨rfl, behind⟩ := text_append_inj values
          exact ⟨rfl, (String.append_right_inj _).mp behind⟩
      | regexp pattern =>
          cases other <;> cases sameKind
          rename_i otherPattern
          obtain ⟨sources, behind⟩ := text_append_inj values
          have patterns : pattern = otherPattern := congrArg Pattern.mk sources
          subst patterns
          exact ⟨rfl, (String.append_right_inj _).mp behind⟩
      | float value raw =>
          cases other <;> cases sameKind
          -- The values may have been written as null both; the raw texts are
          -- what is the same.
          obtain ⟨rfl, rests⟩ :=
            jsonBack_append_inj_of_plain (comma_not_mem_jsonNumber _)
            (comma_not_mem_jsonNumber _) values
          exact ⟨by rw [WellFormed.float_eq here otherHolds.here], rests⟩
      | integer value raw =>
          cases other <;> cases sameKind
          obtain ⟨rfl, rests⟩ := jsonBack_append_inj_of_plain
            (IntegerValue.comma_not_mem_json _)
              (IntegerValue.comma_not_mem_json _) values
          exact ⟨by rw [WellFormed.integer_eq here otherHolds.here], rests⟩
      | literal value =>
          cases other <;> cases sameKind
          obtain ⟨raws, rests⟩ := jsonBack_append_inj_of_plain
            (Literal.comma_not_mem_json _) (Literal.comma_not_mem_json _) values
          exact ⟨by rw [Literal.raw_injective raws], rests⟩

/-- Well-formed nodes are told from their JSON array. -/
theorem eq_of_jsonArray_append_eq {nodes others : List Node}
    (holds : ∀ node ∈ nodes, node.Everywhere WellFormed)
    (othersHold : ∀ node ∈ others, node.Everywhere WellFormed)
    {rest otherRest : String}
    (same : jsonArray spacing nodes ++ rest =
      jsonArray spacing others ++ otherRest) : nodes = others := by
  have inside : ∀ node ∈ nodes,
      SelfDelimiting (jsonAt spacing 1) (Everywhere WellFormed) node :=
    fun node member => (holds node member).selfDelimiting 1
  exact (array_append_inj inside othersHold jsonAt_append_ne_bracket same).1

end Node

/-- Two texts that can be read have the same JSON array only if they have the
same nodes. -/
theorem eq_of_jsonArray_eq {text other : String} {nodes others : List Node}
    (success : parse text = .ok nodes)
    (otherSuccess : parse other = .ok others) {spacing : Spacing}
    (same : Node.jsonArray spacing nodes = Node.jsonArray spacing others) :
    nodes = others := by
  have ended : Node.jsonArray spacing nodes ++ "" =
      Node.jsonArray spacing others ++ "" := congrArg (· ++ "") same
  exact Node.eq_of_jsonArray_append_eq (wellFormed_of_parse success)
    (wellFormed_of_parse otherSuccess) ended

/-- The trees of a quotation, by its sign or by its name. -/
def quotation : List Node :=
  [.list [.identifier "quote", .list [.integer (.exact 7) "+7", .string "\n"]]]

theorem eq_of_jsonArray_eq_of_quotations :
    parse "'(+7 \"\n\")" = .ok quotation ∧
      parse "(quote (+7 \"\r\"))" = parse "'(+7 \"\n\")" := by
  have quoted : parse "'(+7 \"\n\")" = .ok quotation := rfl
  have named : parse "(quote (+7 \"\r\"))" = .ok quotation := rfl
  have same : Node.jsonArray .compact quotation =
      Node.jsonArray .compact quotation := rfl
  exact ⟨quoted, by rw [quoted, named, eq_of_jsonArray_eq quoted named same]⟩

end LispReader
