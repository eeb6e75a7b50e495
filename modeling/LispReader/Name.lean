import LispReader.Numeral

/-!
# Names and placeholders

Ten signs that may occur in a symbol cannot occur in an identifier of most
languages. `Name.normalize` writes each of them as a word between underscores,
the hyphen as a bare underscore, and `Name.denormalize` reads such words back.

Inside an anonymous function a percent sign, alone or with one digit, stands
for an argument. The placeholders used decide how many arguments the function
takes.
-/

namespace LispReader.Name

/-- The signs that are spelled out, each with its spelling. An earlier spelling
is tried before a later one when a name is read back, so the bare underscore
comes last. -/
def spellings : List (Char × String) :=
  [('!', "_BANG_"), ('%', "_PERCENT_"), ('*', "_STAR_"), ('+', "_PLUS_"),
      ('/', "_SLASH_"), ('<', "_LT_"), ('=', "_EQ_"), ('>', "_GT_"),
      ('?', "_QMARK_"), ('-', "_")]

def spell (character : Char) : List Char :=
  match spellings.lookup character with
  | some spelling => spelling.toList
  | none => [character]

/-- The identifier-safe spelling of a name. A percent sign alone is the first
argument of an anonymous function, so it gets the number one. -/
def normalize (name : String) : String :=
  if name = "%" then
    "_PERCENT_1"
  else
    String.ofList (name.toList.flatMap spell)

/-- The sign whose spelling the text begins with, and the length of that
spelling. -/
def spelled? (text : List Char) : Option (Char × Nat) :=
  spellings.findSome? fun (sign, spelling) =>
    if spelling.toList.isPrefixOf text then some (sign, spelling.length)
      else none

/-- Reads spellings back from left to right, passing over the first `covered`
characters, which belong to a spelling already read. The result is added to
`reversed`, newest character first. -/
def readSpellings (reversed : List Char) : Nat → List Char → List Char
  | _, [] => reversed.reverse
  | covered + 1, _ :: rest => readSpellings reversed covered rest
  | 0, first :: rest =>
      match spelled? (first :: rest) with
      | some (sign, length) =>
          readSpellings (sign :: reversed) (length - 1) rest
      | none => readSpellings (first :: reversed) 0 rest

def denormalize (name : String) : String :=
  String.ofList (readSpellings [] 0 name.toList)

end LispReader.Name

namespace LispReader

/-- An argument as it is written in the body of an anonymous function. -/
inductive Placeholder where
  | bare
  | numbered (number : Nat)
deriving DecidableEq, Repr

namespace Placeholder

def ofText? (text : String) : Option Placeholder :=
  match text.toList with
  | ['%'] => some .bare
  | ['%', digit] =>
      if isDecimalDigit digit then some (.numbered (decimalValue [digit]))
        else none
  | _ => none

def text : Placeholder → String
  | .bare => "%"
  | .numbered number => "%" ++ toString number

def number? : Placeholder → Option Nat
  | .bare => none
  | .numbered number => some number

/-- How many arguments a function takes whose body uses these placeholders: the
largest number among them, or one if only the bare sign is used. -/
def arity (used : List Placeholder) : Nat :=
  match (used.filterMap number?).max? with
  | some largest => largest
  | none => if used.isEmpty then 0 else 1

/-- The placeholders of the arguments of a function, from the first on. -/
def parameters (arity : Nat) : List Placeholder :=
  (List.range arity).map fun index => .numbered (index + 1)

end Placeholder

end LispReader
