import LispReader.Token

/-!
# Errors in a text

Why a text cannot be read. `ReadError.isIncomplete` tells the errors that more
text can still mend.
-/

namespace LispReader

inductive Setting where
  | expression
  | string
  | comment
  | symbol
deriving DecidableEq, Repr

def Setting.name : Setting → String
  | .expression => "expression"
  | .string => "string"
  | .comment => "comment"
  | .symbol => "symbol"

/-- The causes for which a text is refused. -/
inductive ReadError where
  /-- A character that no rule accepts in this setting. For a string without
  end it is the opening quote. -/
  | invalidCharacter (character : Char) (setting : Setting)
      (position : Position)
  /-- An argument placeholder outside every anonymous function. -/
  | notAnonymousFunction (text : String)
  /-- The innermost collection that the text never closes. -/
  | unclosed (delimiter : Char) (position : Position)
deriving DecidableEq, Repr

namespace ReadError

def message : ReadError → String
  | .invalidCharacter character setting _ =>
      "Invalid character \"" ++ String.singleton character ++ "\" in " ++
        setting.name ++ "."
  | .notAnonymousFunction text =>
      "Invalid character \"" ++ text ++ "\" in not an anonymous function."
  | .unclosed delimiter _ =>
      "Unclosed delimiter \"" ++ String.singleton delimiter ++ "\"."

/-- Whether more text could still make the whole readable: a string or a
collection is open. -/
def isIncomplete : ReadError → Bool
  | .invalidCharacter character setting _ =>
      character = '"' && setting = .string
  | .notAnonymousFunction _ => false
  | .unclosed _ _ => true

end ReadError

end LispReader
