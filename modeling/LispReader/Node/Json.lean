import LispReader.Decimal
import LispReader.Json
import LispReader.Node

/-!
# Trees as JSON

A node is an object with its kind, its value and, where it has one, its raw
text. The value of a collection is the array of its items.
-/

namespace LispReader

/-- Numbers in JSON: positional from a hundred-thousandth up to but not
including ten to the sixteenth, with a sign on every exponent. A tie goes to
the even digit, and what is not finite is null. -/
def jsonNumber : Decimal.Layout where
  plainFrom := -5
  plainBelow := 16
  exponentPlus := "+"
  tie := .toEven
  infinity := "null"
  negativeInfinity := "null"
  notANumber := "null"

def Literal.json : Literal → String
  | .nil => "null"
  | .boolean value => Json.boolean value

def IntegerValue.json : IntegerValue → String
  | .exact value => toString value.toInt
  | .approximate value => jsonNumber.write value

namespace Node

def jsonObject (spacing : Json.Spacing) (depth : Nat) (node : Node)
    (value : String) : String :=
  let raw := match node.raw? with
    | some raw => [("raw", Json.text raw)]
    | none => []
  Json.object spacing depth
    ([("kind", Json.text node.kind.name), ("value", value)] ++ raw)

mutual

def jsonAt (spacing : Json.Spacing) (depth : Nat) : Node → String
  | .collection shape items =>
      jsonObject spacing depth (.collection shape items)
        (Json.array spacing (depth + 1) (jsonsAt spacing (depth + 2) items))
  | .comment content =>
      jsonObject spacing depth (.comment content) (Json.text content)
  | .string content =>
      jsonObject spacing depth (.string content) (Json.text content)
  | .keyword name => jsonObject spacing depth (.keyword name) (Json.text name)
  | .regexp pattern =>
      jsonObject spacing depth (.regexp pattern) (Json.text pattern.source)
  | .float value raw =>
      jsonObject spacing depth (.float value raw) (jsonNumber.write value)
  | .integer value raw =>
      jsonObject spacing depth (.integer value raw) value.json
  | .literal value => jsonObject spacing depth (.literal value) value.json
  | .identifier name =>
      jsonObject spacing depth (.identifier name) (Json.text name)
  | .rest name => jsonObject spacing depth (.rest name) (Json.text name)

def jsonsAt (spacing : Json.Spacing) (depth : Nat) : List Node → List String
  | [] => []
  | first :: others =>
      jsonAt spacing depth first :: jsonsAt spacing depth others

end

theorem jsonsAt_eq_map (spacing : Json.Spacing) (depth : Nat)
    (nodes : List Node) :
    jsonsAt spacing depth nodes = nodes.map (jsonAt spacing depth) := by
  induction nodes with
  | nil => rfl
  | cons first others inductionHypothesis => simp [jsonsAt, inductionHypothesis]

def json (spacing : Json.Spacing) (node : Node) : String :=
  jsonAt spacing 0 node

def jsonArray (spacing : Json.Spacing) (nodes : List Node) : String :=
  Json.array spacing 0 (nodes.map (jsonAt spacing 1))

end Node

end LispReader
