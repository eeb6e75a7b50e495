/-!
# JSON texts

How texts, arrays and objects are written in JSON, on one line or spread over
many. Values are handed in as texts already written, so a tree is written in
one pass.
-/

namespace LispReader.Json

inductive Spacing where
  /-- Everything on one line, without spaces. -/
  | compact
  /-- Every item and every field on a line of its own, two spaces further in
  than its parent. -/
  | pretty
deriving DecidableEq, Repr

/-- A number below 256 as two digits in base sixteen. -/
def twoDigits (number : Nat) : String :=
  String.ofList [Nat.digitChar (number / 16), Nat.digitChar (number % 16)]

/-- How a character is written inside a JSON string: only what must be escaped
is. -/
def escape (character : Char) : String :=
  if character = '"' then "\\\""
  else if character = '\\' then "\\\\"
  else if character = '\x08' then "\\b"
  else if character = '\x0c' then "\\f"
  else if character = '\n' then "\\n"
  else if character = '\r' then "\\r"
  else if character = '\t' then "\\t"
  else if character < ' ' then "\\u00" ++ twoDigits character.toNat
  else String.singleton character

def text (content : String) : String :=
  "\"" ++ String.join (content.toList.map escape) ++ "\""

def boolean (value : Bool) : String :=
  if value then "true" else "false"

def indentation (depth : Nat) : String :=
  "\n" ++ String.ofList (List.replicate (2 * depth) ' ')

/-- Items at one level below `depth` with commas between them, enclosed by two
signs. Without items the signs stand side by side. -/
def enclose (spacing : Spacing) (depth : Nat) (opening closing : String)
    (items : List String) :
    String :=
  if items.isEmpty then
    opening ++ closing
  else
    match spacing with
    | .compact => opening ++ String.intercalate "," items ++ closing
    | .pretty =>
        opening ++ indentation (depth + 1) ++
          String.intercalate ("," ++ indentation (depth + 1)) items ++
          indentation depth ++ closing

def array (spacing : Spacing) (depth : Nat) (items : List String) : String :=
  enclose spacing depth "[" "]" items

def field (spacing : Spacing) (name value : String) : String :=
  match spacing with
  | .compact => text name ++ ":" ++ value
  | .pretty => text name ++ ": " ++ value

/-- An object of written values, in the order in which they are given. -/
def object (spacing : Spacing) (depth : Nat) (fields : List (String × String)) :
    String :=
  enclose spacing depth "\x7b" "\x7d" (fields.map fun (name, value) =>
      field spacing name value)

end LispReader.Json
