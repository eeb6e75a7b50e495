/-!
# Places in a text

Where a match stands in a text, and what it has to remember there: where its
groups began and ended, and where its repetitions could last have stopped.
-/

namespace LispReader

/-- The value that belongs to a number is replaced or added. Numbers stay in
order. -/
def assign {α : Type} (number : Nat) (value : α) : List (Nat × α) →
    List (Nat × α)
  | [] => [(number, value)]
  | entry :: others =>
      if number < entry.1 then (number, value) :: entry :: others
      else if number = entry.1 then (number, value) :: others
      else entry :: assign number value others

/-- Where a group began and ended, as numbers of characters from the start of
the text. While a group goes on its end is that of its round before, if there
was one. -/
structure Extent where
  start : Nat
  stop? : Option Nat
deriving DecidableEq, Repr

/-- A place in a text during a match: how many characters lie before it, the
extents of groups, and where marked repetitions could last have stopped. -/
structure Place where
  offset : Nat
  groups : List (Nat × Extent)
  stops : List (Nat × Nat)
deriving DecidableEq, Repr

namespace Place

def start (offset : Nat) : Place :=
  ⟨offset, [], []⟩

def advance (place : Place) (count : Nat) : Place :=
  { place with offset := place.offset + count }

/-- The place so many characters further back, if there are as many. -/
def retreat? (place : Place) (count : Nat) : Option Place :=
  if count ≤ place.offset then
    some { place with offset := place.offset - count } else none

def remembering (place reached : Place) : Place :=
  { reached with offset := place.offset }

def next? (text : Array Char) (place : Place) : Option Char :=
  text[place.offset]?

def previous? (text : Array Char) (place : Place) : Option Char :=
  (place.retreat? 1).bind (next? text)

def capture (place : Place) (number start : Nat) : Place :=
  { place with groups := assign number ⟨start, some place.offset⟩ place.groups }

/-- A group begins here. Where it ended before is kept. -/
def openGroup (place : Place) (number : Nat) : Place :=
  let stop? := (place.groups.lookup number).bind Extent.stop?
  { place with groups := assign number ⟨place.offset, stop?⟩ place.groups }

def closeGroup (place : Place) (number : Nat) : Place :=
  match place.groups.lookup number with
  | some extent => place.capture number extent.start
  | none => place

def forget (place : Place) (numbers : List Nat) : Place :=
  { place with
    groups := place.groups.filter fun entry => !numbers.contains entry.1 }

/-- The place behind one more occurrence of what a group captured. The group
must have begun and ended, in this order. -/
def repeatGroup? (text : Array Char) (place : Place) (number : Nat) :
    Option Place :=
  match place.groups.lookup number with
  | some ⟨start, some stop⟩ =>
      let behind := place.advance (stop - start)
      if start ≤ stop ∧
        text.extract place.offset behind.offset = text.extract start stop then
        some behind
      else
        none
  | _ => none

def markStop (place : Place) (mark : Nat) : Place :=
  { place with stops := assign mark place.offset place.stops }

/-- Whether a repetition could last stop here, so that nothing has been matched
since. -/
def isStalled (place : Place) (mark : Nat) : Bool :=
  place.stops.lookup mark == some place.offset

end Place

end LispReader
