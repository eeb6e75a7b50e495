import LispReader.Text.Quoted

/-!
# Tokens and their positions

A text is cut into tokens before its tree is built.  A token that is one fixed
sign has no text of its own; a closing delimiter keeps its sign, since one kind
of token stands for all three.  Lines and columns are counted from one, and
columns count characters.
-/

namespace LispReader

structure Position where
  line : Nat
  column : Nat
deriving DecidableEq, Repr

namespace Position

def start : Position := ⟨1, 1⟩

/-- Where the next character stands when `character` stands at `position`. -/
def after (position : Position) (character : Char) : Position :=
  if character = '\n' then ⟨position.line + 1, 1⟩
    else ⟨position.line, position.column + 1⟩

/-- The line and the column with a colon between them, both in decimal. -/
def label (position : Position) : String :=
  toString position.line ++ ":" ++ toString position.column

@[simp]
theorem after_newline (position : Position) :
    position.after '\n' = ⟨position.line + 1, 1⟩ := rfl

theorem after_of_ne_newline (position : Position) {character : Char}
    (inLine : character ≠ '\n') :
    position.after character = ⟨position.line, position.column + 1⟩ :=
  if_neg inLine

end Position

namespace Token

/-- The kinds of token. `dispatch` is the sign `#`, `metadata` the sign `^`. -/
inductive Kind where
  | dispatch
  | metadata
  | quote
  | deref
  | openParen
  | openBracket
  | openBrace
  | closeDelimiter
  | string
  | comment
  | keyword
  | rest
  | symbol
deriving DecidableEq, Repr

def Kind.name : Kind → String
  | .dispatch => "dispatch"
  | .metadata => "meta"
  | .quote => "quote"
  | .deref => "deref"
  | .openParen => "open-paren"
  | .openBracket => "open-bracket"
  | .openBrace => "open-brace"
  | .closeDelimiter => "close-delimiter"
  | .string => "string"
  | .comment => "comment"
  | .keyword => "keyword"
  | .rest => "rest"
  | .symbol => "symbol"

theorem Kind.name_injective {left right : Kind}
    (same : left.name = right.name) :
    left = right := by
  revert same
  cases left <;> cases right <;> decide

end Token

/-- A token with the place of its first character. -/
structure Token where
  kind : Token.Kind
  text : Option String
  position : Position
deriving DecidableEq, Repr

namespace Token

def closer (character : Char) (position : Position) : Token :=
  ⟨.closeDelimiter, some (String.singleton character), position⟩

/-- The token on one line: its kind, its place and its text in quotes, if it
has one. -/
def listing (token : Token) : String :=
  let place := token.kind.name ++ "@" ++ token.position.label
  match token.text with
  | none => place
  | some text => place ++ " " ++ Text.quoted text

end Token

/-- A sign just before that bears on what may follow it. Any other token, or a
space, is plain. -/
inductive Lookback where
  | plain
  | dispatch
  | metadata
deriving DecidableEq, Repr

/-- What a token of this kind leaves behind for the token right after it. -/
def Lookback.ofKind : Token.Kind → Lookback
  | .dispatch => .dispatch
  | .metadata => .metadata
  | _ => .plain

end LispReader
