import LispReader.Json
import LispReader.Proofs.Quoted

/-!
# JSON texts that tell where they end

When two texts that begin with a JSON string are equal, the strings are equal
and so is what follows them. The same holds of arrays whose items tell where
they end. A character of a string is read back by `unescape`; an array is told
from its items by the sign behind each of them.
-/

namespace LispReader.Json

open Text (SelfDelimiting join_append_inj)

universe u

/-- The characters that are written as a backslash and a letter, with their
letters. -/
def letters : List (Char × Char) :=
  [('"', '"'), ('b', '\x08'), ('f', '\x0c'), ('n', '\n'), ('r', '\r'),
      ('t', '\t'), ('\\', '\\')]

/-- The character below a space that is written with these two digits in base
sixteen. -/
def control? (high low : Char) : Option Char :=
  ((List.range 32).find? fun number => (twoDigits number).toList =
      [high, low]).map Char.ofNat

/-- Reads one character of a JSON string back, and leaves what follows it. -/
def unescape : List Char → Option (Char × List Char)
  | '\\' :: 'u' :: '0' :: '0' :: high :: low :: rest =>
      (control? high low).map (·, rest)
  | '\\' :: letter :: rest => (letters.lookup letter).map (·, rest)
  | character :: rest => some (character, rest)
  | [] => none

theorem control?_digits {character : Char} (isControl : character < ' ') :
    control? (Nat.digitChar (character.toNat / 16))
      (Nat.digitChar (character.toNat % 16)) =
      some character := by
  have small : character.toNat < 32 := isControl
  have found : ∀ number < 32,
      control? (Nat.digitChar (number / 16)) (Nat.digitChar (number % 16)) =
        some (Char.ofNat number) := by decide
  rw [found _ small, Char.ofNat_toNat]

/-- The three ways to write a character: with a letter, with two digits, or as
it is. -/
theorem escape_cases (character : Char) :
    (∃ letter, letter ≠ 'u' ∧ letters.lookup letter = some character ∧
      (escape character).toList = ['\\', letter]) ∨
    (character < ' ' ∧ (escape character).toList =
      ['\\', 'u', '0', '0', Nat.digitChar (character.toNat / 16),
        Nat.digitChar (character.toNat % 16)]) ∨
    (character ≠ '"' ∧ character ≠ '\\' ∧
        (escape character).toList = [character]) := by
  have lettered : ∀ pair ∈ letters, pair.1 ≠ 'u' ∧
      letters.lookup pair.1 = some pair.2 ∧
      (escape pair.2).toList = ['\\', pair.1] := by decide
  by_cases inTable : character ∈ letters.map Prod.snd
  · obtain ⟨pair, member, rfl⟩ := List.mem_map.mp inTable
    exact .inl ⟨pair.1, lettered pair member⟩
  · right
    simp only [letters, List.map_cons, List.map_nil, List.mem_cons,
      List.not_mem_nil, or_false, not_or] at inTable
    obtain ⟨quote, backspace, formFeed, lineFeed, carriage, tab, backslash⟩ :=
      inTable
    rw [escape, if_neg quote, if_neg backslash, if_neg backspace,
      if_neg formFeed, if_neg lineFeed, if_neg carriage, if_neg tab]
    by_cases isControl : character < ' '
    · left
      rw [if_pos isControl]
      exact ⟨isControl, by simp [twoDigits]⟩
    · right
      rw [if_neg isControl]
      exact ⟨quote, backslash, String.toList_singleton character⟩

theorem unescape_escape (character : Char) (rest : List Char) :
    unescape ((escape character).toList ++ rest) = some (character, rest) := by
  rcases escape_cases character with
    ⟨letter, noDigits, found, written⟩ | ⟨isControl, written⟩ | ⟨-, noBackslash,
        written⟩
  · rw [written]
    simp [unescape, noDigits, found]
  · rw [written]
    simp [unescape, control?_digits isControl]
  · rw [written]
    simp [unescape, noBackslash]

theorem escape_append_ne_quote (character : Char) (rest otherRest : List Char) :
    (escape character).toList ++ rest ≠ '"' :: otherRest := by
  rcases escape_cases character with
    ⟨letter, -, -, written⟩ | ⟨-, written⟩ | ⟨noQuote, -, written⟩
  · simp [written]
  · simp [written]
  · simp [written, noQuote]

/-- A JSON string tells where it ends. -/
theorem text_append_inj {content other rest otherRest : String}
    (same : text content ++ rest = text other ++ otherRest) :
    content = other ∧ rest = otherRest := by
  have characters := congrArg String.toList same
  simp only [text, String.toList_append, String.toList_join, List.flatMap_map,
    List.append_assoc] at characters
  have behindQuote := List.append_cancel_left characters
  obtain ⟨contents, rests⟩ :=
    Text.flatMap_append_inj unescape_escape escape_append_ne_quote behindQuote
  exact ⟨String.toList_injective contents, String.toList_injective rests⟩

/-- What stands before an item or a closing sign at some depth. -/
def Spacing.gap (spacing : Spacing) (depth : Nat) : String :=
  match spacing with
  | .compact => ""
  | .pretty => indentation depth

theorem intercalate_cons (separator first : String) (others : List String) :
    String.intercalate separator (first :: others) =
      first ++ String.join (others.map (separator ++ ·)) := by
  induction others generalizing first with
  | nil => simp
  | cons second later inductionHypothesis =>
      rw [String.intercalate_cons_cons, inductionHypothesis, List.map_cons,
        String.join_cons, String.append_assoc, String.append_assoc]

theorem enclose_cons (spacing : Spacing) (depth : Nat)
    (opening closing first : String) (others : List String) :
    enclose spacing depth opening closing (first :: others) =
      opening ++ (spacing.gap (depth + 1) ++ (first ++
        (String.join (others.map ("," ++ spacing.gap (depth + 1) ++ ·)) ++
          (spacing.gap depth ++ closing)))) := by
  cases spacing <;>
    simp [enclose, Spacing.gap, intercalate_cons, String.append_assoc]

/-- The end of an array is told from a further item by its first sign. -/
theorem comma_append_ne_gap (spacing : Spacing) (depth : Nat)
    (rest otherRest : String) :
    "," ++ otherRest ≠ spacing.gap depth ++ "]" ++ rest := by
  cases spacing <;>
    simp [Spacing.gap, indentation, ← String.toList_inj]

section Arrays

variable {value : Type u} {write : value → String} {among : value → Prop}
  {items others : List value}
  (inside : ∀ item ∈ items, SelfDelimiting write among item)
  (othersHold : ∀ other ∈ others, among other) {spacing : Spacing}
  {depth : Nat} {rest otherRest : String}

include inside othersHold

/-- The items of an array with a comma before each, up to the end of the
array. -/
theorem later_append_inj
    (same :
      String.join ((items.map write).map
          ("," ++ spacing.gap (depth + 1) ++ ·)) ++
        (spacing.gap depth ++ "]" ++ rest) =
      String.join ((others.map write).map
          ("," ++ spacing.gap (depth + 1) ++ ·)) ++
        (spacing.gap depth ++ "]" ++ otherRest)) :
    items = others ∧ rest = otherRest := by
  have separated : ∀ item ∈ items,
      SelfDelimiting (("," ++ spacing.gap (depth + 1) ++ ·) ∘ write)
        among item := by
    intro item member other holds front back equal
    simp only [Function.comp_apply, String.append_assoc,
      String.append_right_inj] at equal
    exact inside item member other holds front back equal
  rw [List.map_map, List.map_map] at same
  refine join_append_inj separated othersHold ?_ same
  intro item front back
  rw [Function.comp_apply, String.append_assoc, String.append_assoc]
  exact comma_append_ne_gap spacing depth back _

/-- An array tells where it ends if its items do and none of them looks like
its end. -/
theorem array_append_inj
    (noBracket : ∀ item front back, write item ++ front ≠ "]" ++ back)
    (same : array spacing depth (items.map write) ++ rest =
      array spacing depth (others.map write) ++ otherRest) :
    items = others ∧ rest = otherRest := by
  have nonempty (item : value) (tail back : String) :
      "]" ++ back ≠ spacing.gap (depth + 1) ++ (write item ++ tail) := by
    intro equal
    cases spacing with
    | compact =>
        exact noBracket item tail back
          (by simpa [Spacing.gap] using equal.symm)
    | pretty => simp [Spacing.gap, indentation, ← String.toList_inj] at equal
  unfold array at same
  cases items with
  | nil =>
      cases others with
      | nil =>
          simpa only [List.map_nil, String.append_right_inj, true_and]
            using same
      | cons other otherLater =>
          rw [List.map_cons, enclose_cons] at same
          simp only [List.map_nil, enclose, List.isEmpty_nil, if_true,
            String.append_assoc, String.append_right_inj] at same
          exact absurd same (nonempty _ _ _)
  | cons item later =>
      cases others with
      | nil =>
          rw [List.map_cons, enclose_cons] at same
          simp only [List.map_nil, enclose, List.isEmpty_nil, if_true,
            String.append_assoc, String.append_right_inj] at same
          exact absurd same.symm (nonempty _ _ _)
      | cons other otherLater =>
          rw [List.map_cons, List.map_cons, enclose_cons, enclose_cons] at same
          rw [List.forall_mem_cons] at inside othersHold
          simp only [String.append_assoc, String.append_right_inj] at same
          obtain ⟨rfl, behind⟩ := inside.1 other othersHold.1 _ _ same
          obtain ⟨rfl, rests⟩ :=
            later_append_inj inside.2 othersHold.2
              (by simpa only [String.append_assoc] using behind)
          exact ⟨rfl, rests⟩

end Arrays

end LispReader.Json
