import LispReader.Node
import LispReader.Pattern.Expression

/-!
# Reading patterns

The grammar of patterns, as a recursive descent over the characters of the
source. A choice consists of branches, a branch of pieces, and a piece is an
atom with or without a quantifier.
-/

namespace LispReader

inductive PatternError where
  /-- It does not follow the grammar, or refers to a group that has not
  begun. -/
  | malformed
  /-- It looks back for something that has no fixed width. -/
  | unboundedBehind
deriving DecidableEq, Repr

namespace Pattern

def readNumber? (characters : List Char) : Option (Nat × List Char) :=
  let digits := characters.takeWhile isDecimalDigit
  if digits.isEmpty then
    none
  else
    some (decimalValue digits, characters.dropWhile isDecimalDigit)

/-- Reads the bounds of a repetition behind an opening brace, with the closing
brace. A lower bound that is missing before a comma is zero. -/
def readBounds? (characters : List Char) :
    Option ((Nat × Option Nat) × List Char) :=
  let lower := match characters with
    | ',' :: _ => some (0, characters)
    | _ => readNumber? characters
  match lower with
  | some (least, '}' :: rest) => some ((least, some least), rest)
  | some (least, ',' :: '}' :: rest) => some ((least, none), rest)
  | some (least, ',' :: rest) =>
      match readNumber? rest with
      | some (most, '}' :: rest) => some ((least, some most), rest)
      | _ => none
  | _ => none

/-- Reads a quantifier without what makes it lazy, if one stands here. A brace
that opens no bounds is no quantifier. -/
def readQuantifier? : List Char → Option ((Nat × Option Nat) × List Char)
  | '?' :: rest => some ((0, some 1), rest)
  | '*' :: rest => some ((0, none), rest)
  | '+' :: rest => some ((1, none), rest)
  | '{' :: rest => readBounds? rest
  | _ => none

/-- Puts the quantifier that stands here around an atom, if there is one. A
bound below the least number of times makes no sense. Repetitions are told
apart by how much of the source follows. -/
def quantify? (atom : Expression) (characters : List Char) :
    Option (Expression × List Char) :=
  match readQuantifier? characters with
  | none => some (atom, characters)
  | some ((least, most?), rest) =>
      if atom.isRepeatable ∧ most?.all (least ≤ ·) then
        let repetition :=
          fun greedy => Expression.repeated atom least most? greedy rest.length
        match rest with
        | '?' :: rest => some (repetition false, rest)
        | _ => some (repetition true, rest)
      else
        none

def namedSet? : Char → Option CharacterSet
  | 'd' => some .digit
  | 'D' => some (.complement .digit)
  | 'w' => some .word
  | 'W' => some (.complement .word)
  | 's' => some .blank
  | 'S' => some (.complement .blank)
  | _ => none

/-- The character that stands for itself or for a control behind a backslash.
Other letters and the digits have meanings of their own. -/
def escapedCharacter? : Char → Option Char
  | 'n' => some '\n'
  | 'r' => some '\r'
  | 't' => some '\t'
  | character => if character.isAlphanum then none else some character

/-- Reads one item of a class: a set, or a character that may begin a range. -/
def readClassItem? : List Char → Option ((CharacterSet ⊕ Char) × List Char)
  | '\\' :: character :: rest =>
      match namedSet? character with
      | some set => some (.inl set, rest)
      | none =>
          (escapedCharacter? character).map fun plain => (.inr plain, rest)
  | '\\' :: [] => none
  | character :: rest => some (.inr character, rest)
  | [] => none

mutual

/-- Reads the items of a class up to the bracket that closes it, and adds them
to `items`. A hyphen before that bracket is a plain character, and a class
inside adds all its characters. -/
def readClassItems? : Nat → CharacterSet → List Char →
    Option (CharacterSet × List Char)
  | 0, _, _ => none
  | _ + 1, items, ']' :: rest => some (items, rest)
  | fuel + 1, items, '[' :: rest =>
      match readClass? fuel rest with
      | some (inner, rest) => readClassItems? fuel (.union items inner) rest
      | none => none
  | fuel + 1, items, characters =>
      match readClassItem? characters with
      | none => none
      | some (.inl set, rest) => readClassItems? fuel (.union items set) rest
      | some (.inr first, rest) =>
          match rest with
          | '-' :: next :: others =>
              if next = ']' then
                readClassItems? fuel (.union items (.one first)) rest
              else
                match readClassItem? (next :: others) with
                | some (.inr last, rest) =>
                    if first ≤ last then
                      readClassItems? fuel
                        (.union items (.range first last)) rest
                    else
                      none
                | _ => none
          | _ => readClassItems? fuel (.union items (.one first)) rest

/-- Reads a class behind its opening bracket. A closing bracket at its start is
a plain character. -/
def readClass? : Nat → List Char → Option (CharacterSet × List Char)
  | 0, _ => none
  | fuel + 1, characters =>
      let (negated, characters) := match characters with
        | '^' :: rest => (true, rest)
        | _ => (false, characters)
      let (items, characters) := match characters with
        | ']' :: rest => (CharacterSet.one ']', rest)
        | _ => (.empty, characters)
      (readClassItems? fuel items characters).map fun (set, rest) =>
        (if negated then .complement set else set, rest)

end

/-- Reads what stands behind a backslash outside of classes, when so many
groups have begun. -/
def readEscape? (groups : Nat) : List Char → Option (Expression × List Char)
  | [] => none
  | character :: rest =>
      if isDecimalDigit character then
        match readNumber? (character :: rest) with
        | some (number, rest) =>
            if 1 ≤ number ∧ number ≤ groups then some (.reference number, rest)
              else none
        | none => none
      else if character = 'b' then some (.wordBoundary true, rest)
      else if character = 'B' then some (.wordBoundary false, rest)
      else
        match namedSet? character with
        | some set => some (.character set, rest)
        | none =>
            (escapedCharacter? character).map fun plain =>
              (.character (.one plain), rest)

inductive Opening where
  | capture
  | plain
  | ahead (wanted : Bool)
  | behind (wanted : Bool)
deriving DecidableEq, Repr

/-- Reads what follows an opening parenthesis and says what it begins. -/
def readOpening? : List Char → Option (Opening × List Char)
  | '?' :: ':' :: rest => some (.plain, rest)
  | '?' :: '=' :: rest => some (.ahead true, rest)
  | '?' :: '!' :: rest => some (.ahead false, rest)
  | '?' :: '<' :: '=' :: rest => some (.behind true, rest)
  | '?' :: '<' :: '!' :: rest => some (.behind false, rest)
  | '?' :: _ => none
  | characters => some (.capture, characters)

/-- The expression for a parenthesis and what it encloses. A group gets its
number where it begins. -/
def Opening.enclose (opening : Opening) (number : Nat) (body : Expression) :
    Expression :=
  match opening with
  | .capture => .group number body
  | .plain => body
  | .ahead wanted => .ahead wanted body
  | .behind wanted => .behind wanted body

/-- What a part of the source reads as: its content, how many groups have begun
by its end, and what follows it. -/
structure Part (α : Type) where
  content : α
  groups : Nat
  rest : List Char
deriving DecidableEq, Repr

mutual

def readBranches? : Nat → Nat → List Char → Option (Part (List Expression))
  | 0, _, _ => none
  | fuel + 1, groups, characters =>
      match readPieces? fuel groups characters with
      | none => none
      | some ⟨pieces, groups, rest⟩ =>
          let branch := Expression.inSequence pieces
          match rest with
          | '|' :: rest =>
              (readBranches? fuel groups rest).map fun others =>
                { others with content := branch :: others.content }
          | _ => some ⟨[branch], groups, rest⟩

def readPieces? : Nat → Nat → List Char → Option (Part (List Expression))
  | 0, _, _ => none
  | fuel + 1, groups, characters =>
      match characters with
      | [] => some ⟨[], groups, []⟩
      | first :: rest =>
          if first = '|' ∨ first = ')' then
            some ⟨[], groups, characters⟩
          else
            match readAtom? fuel groups first rest with
            | none => none
            | some atom =>
                match quantify? atom.content atom.rest with
                | none => none
                | some (piece, rest) =>
                    (readPieces? fuel atom.groups rest).map fun others =>
                      { others with content := piece :: others.content }

def readAtom? : Nat → Nat → Char → List Char → Option (Part Expression)
  | 0, _, _, _ => none
  | fuel + 1, groups, first, rest =>
      if first = '(' then
        match readOpening? rest with
        | none => none
        | some (opening, rest) =>
            let number := if opening = .capture then groups + 1 else groups
            match readBranches? fuel number rest with
            | some ⟨branches, groups, ')' :: rest⟩ =>
                some ⟨opening.enclose number (.anyOf branches), groups, rest⟩
            | _ => none
      else if first = '[' then
        (readClass? (2 * rest.length + 2) rest).map fun (set, rest) =>
          ⟨.character set, groups, rest⟩
      else if first = '\\' then
        (readEscape? groups rest).map fun (expression, rest) =>
          ⟨expression, groups, rest⟩
      else if first = '.' then some ⟨.character .inLine, groups, rest⟩
      else if first = '^' then some ⟨.startOfText, groups, rest⟩
      else if first = '$' then some ⟨.endOfText, groups, rest⟩
      else if first = '*' ∨ first = '+' ∨ first = '?' then none
      else some ⟨.character (.one first), groups, rest⟩

end

/-- The expression that a pattern denotes. A character costs at most three
calls, one for each level of the grammar. -/
def expression (pattern : Pattern) : Except PatternError Expression :=
  let characters := pattern.source.toList
  match readBranches? (3 * characters.length + 3) 0 characters with
  | some ⟨branches, _, []⟩ => .ok (.anyOf branches)
  | _ => .error .malformed

end Pattern

end LispReader
