import LispReader.Numeral

/-!
# Syntax trees

A node is a collection of nodes or one of nine kinds of leaf. Numbers keep the
text they were written as beside their value. `surface` writes a node much as
source text would be written.
-/

namespace LispReader

inductive Shape where
  | list
  | vector
  | map
  | set
deriving DecidableEq, Repr

namespace Shape

def opening : Shape → String
  | .list => "("
  | .vector => "["
  | .map => "\x7b"
  | .set => "#\x7b"

def closing : Shape → String
  | .list => ")"
  | .vector => "]"
  | .map => "\x7d"
  | .set => "\x7d"

end Shape

inductive Literal where
  | nil
  | boolean (value : Bool)
deriving DecidableEq, Repr

/-- The name of a literal in the languages that trees are written out to. -/
def Literal.raw : Literal → String
  | .nil => "null"
  | .boolean true => "true"
  | .boolean false => "false"

/-- The source of a regular expression literal.  Reading a text never compiles
it. -/
structure Pattern where
  source : String
deriving DecidableEq, Repr

inductive Node where
  | collection (shape : Shape) (items : List Node)
  | comment (text : String)
  | string (text : String)
  | keyword (name : String)
  | regexp (pattern : Pattern)
  | float (value : Float) (raw : String)
  | integer (value : IntegerValue) (raw : String)
  | literal (literal : Literal)
  | identifier (name : String)
  | rest (name : String)

instance : Inhabited Node := ⟨.literal .nil⟩

namespace Node

@[match_pattern] abbrev list (items : List Node) : Node :=
    .collection .list items

@[match_pattern] abbrev vector (items : List Node) : Node :=
    .collection .vector items

/-- A map, its keys and values in the order in which they were written. -/
@[match_pattern] abbrev map (items : List Node) : Node := .collection .map items

@[match_pattern] abbrev set (items : List Node) : Node := .collection .set items

/-- The nodes directly inside a collection. A leaf has none to give. -/
def children? : Node → Option (List Node)
  | .collection _ items => some items
  | _ => none

inductive Kind where
  | collection (shape : Shape)
  | comment
  | string
  | keyword
  | regexp
  | float
  | integer
  | literal
  | identifier
  | rest
deriving DecidableEq, Repr

def Kind.name : Kind → String
  | .collection .list => "list"
  | .collection .vector => "vector"
  | .collection .map => "map"
  | .collection .set => "set"
  | .comment => "comment"
  | .string => "string"
  | .keyword => "keyword"
  | .regexp => "regexp"
  | .float => "float"
  | .integer => "integer"
  | .literal => "literal"
  | .identifier => "identifier"
  | .rest => "rest"

def kind : Node → Kind
  | .collection shape _ => .collection shape
  | .comment _ => .comment
  | .string _ => .string
  | .keyword _ => .keyword
  | .regexp _ => .regexp
  | .float _ _ => .float
  | .integer _ _ => .integer
  | .literal _ => .literal
  | .identifier _ => .identifier
  | .rest _ => .rest

/-- The text of a literal for those who want to write it out unchanged.
Collections, comments, identifiers and rest parameters have none. -/
def raw? : Node → Option String
  | .string text => some ("\"" ++ text ++ "\"")
  | .keyword name => some ("\"" ++ name ++ "\"")
  | .regexp pattern => some ("/" ++ pattern.source ++ "/")
  | .float _ raw => some raw
  | .integer _ raw => some raw
  | .literal value => some value.raw
  | _ => none

mutual

/-- A node on one line of source text, a string with line ends apart. A pattern
stands between slashes. -/
def surface : Node → String
  | .collection shape items =>
      shape.opening ++ String.intercalate " " (surfaces items) ++ shape.closing
  | .comment text => ";" ++ text
  | .string text => "\"" ++ text ++ "\""
  | .keyword name => ":" ++ name
  | .regexp pattern => "/" ++ pattern.source ++ "/"
  | .float _ raw => raw
  | .integer _ raw => raw
  | .literal value => value.raw
  | .identifier name => name
  | .rest name => "&" ++ name

def surfaces : List Node → List String
  | [] => []
  | first :: others => surface first :: surfaces others

end

theorem surfaces_eq_map (nodes : List Node) :
    surfaces nodes = nodes.map surface := by
  induction nodes with
  | nil => rfl
  | cons first others inductionHypothesis =>
      simp [surfaces, inductionHypothesis]

end Node

/-- Equality of integer values. An exact one never equals an approximate one. -/
def IntegerValue.equal : IntegerValue → IntegerValue → Bool
  | .exact left, .exact right => left == right
  | .approximate left, .approximate right => left == right
  | _, _ => false

instance : BEq IntegerValue := ⟨IntegerValue.equal⟩

namespace Node

mutual

/-- Equality of nodes. Doubles are compared as numbers: the two zeros are
equal, and what is not a number differs from itself. -/
def equal : Node → Node → Bool
  | .collection leftShape left, .collection rightShape right =>
      leftShape == rightShape && equalAll left right
  | .comment left, .comment right => left == right
  | .string left, .string right => left == right
  | .keyword left, .keyword right => left == right
  | .regexp left, .regexp right => left == right
  | .float left leftRaw, .float right rightRaw =>
      left == right && leftRaw == rightRaw
  | .integer left leftRaw, .integer right rightRaw =>
      left == right && leftRaw == rightRaw
  | .literal left, .literal right => left == right
  | .identifier left, .identifier right => left == right
  | .rest left, .rest right => left == right
  | _, _ => false

def equalAll : List Node → List Node → Bool
  | [], [] => true
  | left :: leftOthers, right :: rightOthers =>
      equal left right && equalAll leftOthers rightOthers
  | _, _ => false

end

instance : BEq Node := ⟨equal⟩

end Node

end LispReader
