import LispReader.Feed
import LispReader.ReadError
import LispReader.Text.Characters
import LispReader.Text.Lines
import LispReader.Token

/-!
# Cutting a text into tokens

A scanner takes one character at a time. It remembers the token it is in the
middle of, and between tokens only whether the character just before was one of
the two signs `#` and `^`. `tokenize` runs it over a text whose line endings
have been unified.
-/

namespace LispReader

/-- The characters other than white space that cannot be part of a symbol. -/
def delimiters : List Char :=
  ['(', ')', '[', ']', '{', '}', '#', '"', '\'', '\x60', ',', ':', ';', '|']

/-- Whether a character can be part of a symbol or a keyword. -/
def isSymbolCharacter (character : Char) : Bool :=
  !(delimiters.contains character || Text.isBlank character)

/-- Whether a character separates tokens: tab, line feed, form feed or space. -/
def isSeparator (character : Char) : Bool :=
  character = '\t' || character = '\n' || character = '\x0c' || character = ' '

def isCloser (character : Char) : Bool :=
  character = ')' || character = '}' || character = ']'

def mayFollowDispatch (character : Char) : Bool :=
  ['^', '\'', '@', '&', '(', '{', '"', ';'].contains character

def signKind? : Char → Option Token.Kind
  | '#' => some .dispatch
  | '^' => some .metadata
  | '\'' => some .quote
  | '@' => some .deref
  | '&' => some .rest
  | '(' => some .openParen
  | '[' => some .openBracket
  | '{' => some .openBrace
  | _ => none

namespace Scanner

/-- What a scanner is in the middle of. Inside a token it knows where the token
began and what of its text has been read, newest character first. -/
inductive Mode where
  | expression (before : Lookback)
  | string (opening : Position) (reversed : List Char)
  | comment (opening : Position) (reversed : List Char)
  | keyword (opening : Position) (reversed : List Char)
  | symbol (opening : Position) (reversed : List Char)
deriving DecidableEq, Repr

def textOf (reversed : List Char) : Option String :=
  some (String.ofList reversed.reverse)

namespace Mode

/-- The token that ends when nothing more belongs to it. Between tokens there
is none. -/
def unfinished : Mode → List Token
  | .expression _ => []
  | .string opening reversed => [⟨.string, textOf reversed, opening⟩]
  | .comment opening reversed => [⟨.comment, textOf reversed, opening⟩]
  | .keyword opening reversed => [⟨.keyword, textOf reversed, opening⟩]
  | .symbol opening reversed => [⟨.symbol, textOf reversed, opening⟩]

end Mode

/-- Where a scanner goes from one character: its next mode and the tokens that
the character completes, in order. -/
abbrev Step := Except ReadError (Mode × List Token)

def readExpression (before : Lookback) (position : Position)
    (character : Char) : Step :=
  if before = .dispatch ∧ mayFollowDispatch character = false then
    -- A colon after `#` is refused as the start of a keyword.
    .error (.invalidCharacter character (if character = ':' then .symbol
        else .expression) position)
  else if before = .metadata ∧ character = '^' then
    .error (.invalidCharacter character .expression position)
  else
    match signKind? character with
    | some kind => .ok (.expression (.ofKind kind), [⟨kind, none, position⟩])
    | none =>
        if isCloser character then
          .ok (.expression .plain, [Token.closer character position])
        else if character = '"' then
          .ok (.string position [], [])
        else if character = ';' then
          .ok (.comment position [], [])
        else if character = ':' then
          .ok (.keyword position [], [])
        else if isSymbolCharacter character then
          .ok (.symbol position [character], [])
        else if isSeparator character then
          .ok (.expression .plain, [])
        else
          .error (.invalidCharacter character .expression position)

/-- Reads a character right after the characters of the symbol or keyword that
`current` is in the middle of. `extended` is the mode in which the character
belongs to it too. -/
def readWord (current extended : Mode) (position : Position)
    (character : Char) : Step :=
  if isCloser character then
    .ok (.expression .plain,
        current.unfinished ++ [Token.closer character position])
  else if isSeparator character then
    .ok (.expression .plain, current.unfinished)
  else if isSymbolCharacter character then
    .ok (extended, [])
  else
    .error (.invalidCharacter character .symbol position)

def Mode.read (mode : Mode) (position : Position) (character : Char) : Step :=
  match mode with
  | .expression before => readExpression before position character
  | .string opening reversed =>
      if character = '"' then
        .ok (.expression .plain, mode.unfinished)
      else
        .ok (.string opening (character :: reversed), [])
  | .comment opening reversed =>
      if character = '\n' then
        .ok (.expression .plain, mode.unfinished)
      else
        .ok (.comment opening (character :: reversed), [])
  | .keyword opening reversed =>
      readWord mode (.keyword opening (character :: reversed)) position
        character
  | .symbol opening reversed =>
      readWord mode (.symbol opening (character :: reversed)) position character

end Scanner

/-- A scanner on its way through a text: its mode, where the next character
stands, and the tokens completed so far, newest first. -/
structure Scanner where
  mode : Scanner.Mode
  position : Position
  reversed : List Token
deriving DecidableEq, Repr

namespace Scanner

def start : Scanner := ⟨.expression .plain, .start, []⟩

def read (scanner : Scanner) (character : Char) : Except ReadError Scanner :=
  match scanner.mode.read scanner.position character with
  | .ok (mode, completed) =>
      .ok ⟨mode, scanner.position.after character,
          completed.reverse ++ scanner.reversed⟩
  | .error refused => .error refused

/-- The error of a text that ends here: only a string must have an end of its
own. -/
def endError? (scanner : Scanner) : Option ReadError :=
  match scanner.mode with
  | .string opening _ => some (.invalidCharacter '"' .string opening)
  | _ => none

def tokens (scanner : Scanner) : List Token :=
  scanner.reversed.reverse

end Scanner

/-- What scanning a text came to: the tokens completed, and the error that
stopped it, if any. -/
structure Scan where
  tokens : List Token
  error? : Option ReadError
deriving DecidableEq, Repr

/-- Scans characters among which there is no carriage return. At the end of the
text an unfinished token is completed, except for a string. -/
def Scan.ofChars (characters : List Char) : Scan :=
  match feed Scanner.read Scanner.start characters with
  | (scanner, some refused) => ⟨scanner.tokens, some refused⟩
  | (scanner, none) =>
      match scanner.endError? with
      | some unfinished => ⟨scanner.tokens, some unfinished⟩
      | none => ⟨scanner.tokens ++ scanner.mode.unfinished, none⟩

def Scan.ofText (text : String) : Scan :=
  Scan.ofChars (Text.unifyLineEndings text.toList)

/-- The tokens of a text, or the first error in it. -/
def tokenize (text : String) : Except ReadError (List Token) :=
  match Scan.ofText text with
  | ⟨tokens, none⟩ => .ok tokens
  | ⟨_, some error⟩ => .error error

end LispReader
