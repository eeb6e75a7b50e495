import LispReader.Decimal
import LispReader.Node
import LispReader.Text.Quoted

/-!
# Trees as outlines

An outline shows every constructor and every field of a tree by name, one item
on a line, each level four spaces further in than the one above.
-/

namespace LispReader

namespace Outline

def indentation (depth : Nat) : String :=
  String.ofList (List.replicate (4 * depth) ' ')

/-- Items one level below `depth`, each on a line of its own with a comma after
it, enclosed by two texts. Without items the two stand side by side. -/
def block (depth : Nat) (opening closing : String) (items : List String) :
    String :=
  if items.isEmpty then
    opening ++ closing
  else
    opening ++ "\n" ++
      String.join (items.map fun item => indentation (depth + 1) ++ item ++
          ",\n") ++
      indentation depth ++ closing

def tagged (depth : Nat) (name item : String) : String :=
  block depth (name ++ "(") ")" [item]

def record (depth : Nat) (name : String) (fields : List (String × String)) :
    String :=
  block depth (name ++ " \x7b") "\x7d" (fields.map fun (label, item) =>
      label ++ ": " ++ item)

/-- Numbers in an outline: positional from a ten-thousandth up to but not
including ten to the sixteenth, and a tie goes to the larger digit. -/
def number : Decimal.Layout where
  plainFrom := -4
  plainBelow := 16
  exponentPlus := ""
  tie := .awayFromZero
  infinity := "inf"
  negativeInfinity := "-inf"
  notANumber := "NaN"

end Outline

open Outline

def Shape.title : Shape → String
  | .list => "List"
  | .vector => "Vector"
  | .map => "Map"
  | .set => "Set"

def Literal.outline (depth : Nat) : Literal → String
  | .nil => "Nil"
  | .boolean value => tagged depth "Boolean" (if value then "true" else "false")

/-- The outline of an integer value whose first line is at `depth`. -/
def IntegerValue.outline (depth : Nat) : IntegerValue → String
  | .exact value => tagged depth "Exact" (toString value.toInt)
  | .approximate value => tagged depth "Approximate" (number.write value)

namespace Node

mutual

def outlineAt (depth : Nat) : Node → String
  | .collection shape items =>
      tagged depth shape.title
        (block (depth + 1) "[" "]" (outlinesAt (depth + 2) items))
  | .comment text => tagged depth "Comment" (Text.quoted text)
  | .string text => tagged depth "String" (Text.quoted text)
  | .keyword name => tagged depth "Keyword" (Text.quoted name)
  | .regexp pattern =>
      tagged depth "Regexp"
        (tagged (depth + 1) "Pattern" (Text.quoted pattern.source))
  | .float value raw =>
      record depth "Float" [("value", number.write value),
          ("raw", Text.quoted raw)]
  | .integer value raw =>
      record depth "Integer" [("value", value.outline (depth + 1)),
          ("raw", Text.quoted raw)]
  | .literal value => tagged depth "Literal" (value.outline (depth + 1))
  | .identifier name => tagged depth "Identifier" (Text.quoted name)
  | .rest name => tagged depth "Rest" (Text.quoted name)

def outlinesAt (depth : Nat) : List Node → List String
  | [] => []
  | first :: others => outlineAt depth first :: outlinesAt depth others

end

theorem outlinesAt_eq_map (depth : Nat) (nodes : List Node) :
    outlinesAt depth nodes = nodes.map (outlineAt depth) := by
  induction nodes with
  | nil => rfl
  | cons first others inductionHypothesis =>
      simp [outlinesAt, inductionHypothesis]

def outline (node : Node) : String :=
  outlineAt 0 node

def outlineList (nodes : List Node) : String :=
  block 0 "[" "]" (nodes.map (outlineAt 1))

end Node

end LispReader
