import LispReader.Text.Characters

/-!
# Regular expressions

The expressions that patterns denote: characters, repetition, choice, groups
that capture what they matched, references to such groups, and conditions on
what lies before and after.
-/

namespace LispReader

inductive CharacterSet where
  | empty
  | range (first last : Char)
  | digit
  | word
  | blank
  | complement (set : CharacterSet)
  | union (left right : CharacterSet)
deriving DecidableEq, Repr

namespace CharacterSet

def one (character : Char) : CharacterSet := .range character character

def inLine : CharacterSet := .complement (.one '\n')

def contains : CharacterSet → Char → Bool
  | .empty, _ => false
  | .range first last, character => first ≤ character && character ≤ last
  | .digit, character => Text.isDigit character
  | .word, character => Text.isWordCharacter character
  | .blank, character => Text.isBlank character
  | .complement set, character => !set.contains character
  | .union left right, character =>
      left.contains character || right.contains character

end CharacterSet

/-- A regular expression. Groups are numbered from one by their opening
parentheses. -/
inductive Expression where
  | empty
  | character (set : CharacterSet)
  | startOfText
  | endOfText
  /-- A place between a word character and something else, or a place that is
  none such. -/
  | wordBoundary (wanted : Bool)
  | sequence (parts : List Expression)
  | choice (branches : List Expression)
  /-- At least so many times the body, at most so many if there is a limit. The
  mark tells one repetition of an expression from the others. -/
  | repeated (body : Expression) (least : Nat) (most? : Option Nat)
      (greedy : Bool) (mark : Nat)
  | group (number : Nat) (body : Expression)
  | reference (number : Nat)
  /-- The body matches from here on, or does not. -/
  | ahead (wanted : Bool) (body : Expression)
  /-- The body matches up to here, or does not. -/
  | behind (wanted : Bool) (body : Expression)
deriving Repr

namespace Expression

def isEmpty : Expression → Bool
  | .empty => true
  | _ => false

/-- Parts one after the other. Empty ones do not count, and a single one stands
for itself. -/
def inSequence (parts : List Expression) : Expression :=
  match parts.filter fun part => !part.isEmpty with
  | [] => .empty
  | [part] => part
  | parts => .sequence parts

/-- A choice between branches, of which a single one stands for itself. -/
def anyOf : List Expression → Expression
  | [branch] => branch
  | branches => .choice branches

/-- Whether an expression may be repeated: one that only states a condition may
not. -/
def isRepeatable : Expression → Bool
  | .empty | .startOfText | .endOfText | .wordBoundary _ | .ahead _ _
    | .behind _ _ => false
  | _ => true

mutual

/-- The number of characters that an expression matches, if it always is the
same. -/
def width? : Expression → Option Nat
  | .empty | .startOfText | .endOfText | .wordBoundary _ | .ahead _ _
    | .behind _ _ => some 0
  | .character _ => some 1
  | .sequence parts => (widths? parts).map List.sum
  | .choice branches =>
      match widths? branches with
      | some (width :: others) =>
          if others.all (· = width) then some width else none
      | _ => none
  | .repeated body least most? _ _ =>
      if most? = some least then body.width?.map (· * least) else none
  | .group _ body => body.width?
  | .reference _ => none

def widths? : List Expression → Option (List Nat)
  | [] => some []
  | first :: others =>
      match first.width?, widths? others with
      | some width, some widths => some (width :: widths)
      | _, _ => none

end

mutual

def leastWidth : Expression → Nat
  | .empty | .startOfText | .endOfText | .wordBoundary _ | .ahead _ _
    | .behind _ _ => 0
  | .character _ => 1
  | .sequence parts => (leastWidths parts).sum
  | .choice branches => (leastWidths branches).min?.getD 0
  | .repeated body least _ _ _ => body.leastWidth * least
  | .group _ body => body.leastWidth
  | .reference _ => 0

def leastWidths : List Expression → List Nat
  | [] => []
  | first :: others => first.leastWidth :: leastWidths others

end

end Expression

end LispReader
