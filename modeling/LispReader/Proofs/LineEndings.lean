import LispReader.Proofs.Lines
import LispReader.Reading

/-!
# How line endings are written

A line feed of a text can be written as it is, as a carriage return with a line
feed behind it, or as a carriage return alone. Unifying the line endings takes
each of these back to the line feed, so the tokens, the trees and the errors of
a text do not tell how its line endings are written. Main statement:
`readings_of_rewritten`.
-/

namespace LispReader

namespace Text

theorem unifyLineEndings_cons {character : Char} (noReturn : character ≠ '\r')
    (rest : List Char) :
    unifyLineEndings (character :: rest) =
      character :: unifyLineEndings rest := by
  have front : [character].getLast? ≠ some '\r' := by simpa using noReturn
  have alone : unifyLineEndings [character] = [character] :=
    unifyLineEndings_of_not_mem (by simpa using Ne.symm noReturn)
  have apart := unifyLineEndings_append front rest
  rwa [alone] at apart

theorem unifyLineEndings_return_newline (rest : List Char) :
    unifyLineEndings ('\r' :: '\n' :: rest) = '\n' :: unifyLineEndings rest :=
  unifyLineEndings_append_newline ['\r'] rest

/-- A carriage return is a line ending of its own where no line feed is
directly behind it. -/
theorem unifyLineEndings_return {rest : List Char}
    (noLineFeed : rest.head? ≠ some '\n') :
    unifyLineEndings ('\r' :: rest) = '\n' :: unifyLineEndings rest :=
  unifyLineEndings_append_of_head noLineFeed ['\r']

inductive LineEnding where
  | lineFeed
  | returnAndLineFeed
  | carriageReturn
deriving DecidableEq, Repr

def LineEnding.characters : LineEnding → List Char
  | .lineFeed => ['\n']
  | .returnAndLineFeed => ['\r', '\n']
  | .carriageReturn => ['\r']

/-- `Rewritten text written` means that `written` is `text` with each line feed
written in one of the three ways, whichever is chosen for it. A carriage return
alone does not stand directly before a line feed, with which it would make one
line ending. -/
inductive Rewritten : List Char → List Char → Prop
  | nil : Rewritten [] []
  | inLine {character : Char} {text written : List Char} :
      character ≠ '\n' →
      Rewritten text written →
      Rewritten (character :: text) (character :: written)
  | lineEnd {ending : LineEnding} {text written : List Char} :
      (ending = .carriageReturn → written.head? ≠ some '\n') →
      Rewritten text written →
      Rewritten ('\n' :: text) (ending.characters ++ written)

/-- Unifying the line endings takes each of them back, whatever way was chosen
for it. -/
theorem Rewritten.unifyLineEndings_eq {text written : List Char}
    (rewritten : Rewritten text written) (noReturn : '\r' ∉ text) :
    unifyLineEndings written = text := by
  induction rewritten with
  | nil => rfl
  | @inLine character text written inLine rewritten inductionHypothesis =>
      rw [List.mem_cons, not_or] at noReturn
      rw [unifyLineEndings_cons (Ne.symm noReturn.1),
        inductionHypothesis noReturn.2]
  | @lineEnd ending text written apart rewritten inductionHypothesis =>
      have behind := inductionHypothesis (List.not_mem_of_not_mem_cons noReturn)
      rw [← behind]
      cases ending with
      | lineFeed => exact unifyLineEndings_cons (by decide) written
      | returnAndLineFeed => exact unifyLineEndings_return_newline written
      | carriageReturn => exact unifyLineEndings_return (apart rfl)

/-- Every text is its unified text with the line endings written in some way. -/
theorem rewritten_unifyLineEndings (written : List Char) :
    Rewritten (unifyLineEndings written) written := by
  induction size :
    written.length using Nat.strongRecOn generalizing written with
  | _ bound inductionHypothesis =>
  cases written with
  | nil => exact .nil
  | cons first rest =>
      have restRewritten : Rewritten (unifyLineEndings rest) rest :=
        inductionHypothesis rest.length (by simp [← size]) rest rfl
      by_cases isReturn : first = '\r'
      · subst isReturn
        by_cases lineFeed : rest.head? = some '\n'
        · obtain ⟨later, rfl⟩ := List.head?_eq_some_iff.mp lineFeed
          have shorter : later.length < bound := by
            rw [← size, List.length_cons, List.length_cons]
            omega
          have laterRewritten : Rewritten (unifyLineEndings later) later :=
            inductionHypothesis later.length shorter later rfl
          rw [unifyLineEndings_return_newline]
          exact @Rewritten.lineEnd .returnAndLineFeed _ _ nofun laterRewritten
        · rw [unifyLineEndings_return lineFeed]
          exact @Rewritten.lineEnd .carriageReturn _ _ (fun _ => lineFeed)
            restRewritten
      · rw [unifyLineEndings_cons isReturn]
        by_cases isLineFeed : first = '\n'
        · subst isLineFeed
          exact @Rewritten.lineEnd .lineFeed _ _ nofun restRewritten
        · exact .inLine isLineFeed restRewritten

/-- The texts that are told apart only by how their line endings are written
are those with the same unified text. -/
theorem rewritten_iff {text : List Char} (noReturn : '\r' ∉ text)
    (written : List Char) :
    Rewritten text written ↔ unifyLineEndings written = text := by
  constructor
  · intro rewritten
    exact rewritten.unifyLineEndings_eq noReturn
  · rintro rfl
    exact rewritten_unifyLineEndings written

theorem unifyLineEndings_unifyLineEndings (characters : List Char) :
    unifyLineEndings (unifyLineEndings characters) =
      unifyLineEndings characters :=
  unifyLineEndings_of_not_mem (return_not_mem_unifyLineEndings characters)

end Text

/-- A reading is of the unified text, so texts for which this is the same are
read alike. -/
theorem Scan.ofText_congr {text other : String}
    (unified : Text.unifyLineEndings text.toList =
      Text.unifyLineEndings other.toList) :
    Scan.ofText text = Scan.ofText other := by
  rw [Scan.ofText, unified, Scan.ofText]

theorem tokenize_of_scan {text other : String}
    (scans : Scan.ofText text = Scan.ofText other) :
    tokenize text = tokenize other := by
  rw [tokenize, scans, tokenize]

/-- A text without carriage returns has the same tokens, the same trees and the
same errors, each in the same place, whichever way each of its line endings is
written, and the same is noted on the way. What is scanned of any text is the
text with unified line endings: no carriage return is in it, and unifying it
once more changes nothing. -/
theorem readings_of_rewritten :
    (∀ text written : String, '\r' ∉ text.toList →
        Text.Rewritten text.toList written.toList →
      tokenize written = tokenize text ∧ parse written = parse text ∧
        Reading.ofText written = Reading.ofText text) ∧
    ∀ text : String,
      Scan.ofText text = Scan.ofChars (Text.unifyLineEndings text.toList) ∧
        '\r' ∉ Text.unifyLineEndings text.toList ∧
        Text.unifyLineEndings (Text.unifyLineEndings text.toList) =
          Text.unifyLineEndings text.toList := by
  constructor
  · intro text written noReturn rewritten
    have unified : Text.unifyLineEndings written.toList =
        Text.unifyLineEndings text.toList := by
      rw [rewritten.unifyLineEndings_eq noReturn,
        Text.unifyLineEndings_of_not_mem noReturn]
    have scans : Scan.ofText written = Scan.ofText text :=
      Scan.ofText_congr unified
    have tokens : tokenize written = tokenize text := tokenize_of_scan scans
    exact ⟨tokens, by
      rw [parse, tokens, parse], by rw [Reading.ofText, scans, Reading.ofText]⟩
  · intro text
    exact ⟨rfl, Text.return_not_mem_unifyLineEndings _,
      Text.unifyLineEndings_unifyLineEndings _⟩

/-- Every way to write a line ending, between tokens, behind a comment and
inside a string. -/
theorem readings_of_rewritten_mixed :
    ('\r' ∉ "a\n\nb ;c\n\"d\ne\"\n)".toList ∧
      Text.Rewritten "a\n\nb ;c\n\"d\ne\"\n)".toList
        "a\r\r\nb ;c\r\"d\r\ne\"\n)".toList) ∧
    tokenize "a\r\r\nb ;c\r\"d\r\ne\"\n)" =
      .ok [⟨.symbol, some "a", ⟨1, 1⟩⟩, ⟨.symbol, some "b", ⟨3, 1⟩⟩,
          ⟨.comment, some "c", ⟨3, 3⟩⟩, ⟨.string, some "d\ne", ⟨4, 1⟩⟩,
          .closer ')' ⟨6, 1⟩] ∧
    parse "a\r\r\nb ;c\r\"d\r\ne\"\n)" =
      .error (.invalidCharacter ')' .expression ⟨6, 1⟩) := by
  have noReturn : '\r' ∉ "a\n\nb ;c\n\"d\ne\"\n)".toList := by decide
  have rewritten :
      Text.Rewritten "a\n\nb ;c\n\"d\ne\"\n)".toList
        "a\r\r\nb ;c\r\"d\r\ne\"\n)".toList :=
    (Text.rewritten_iff noReturn _).mpr rfl
  obtain ⟨tokens, trees, -⟩ := readings_of_rewritten.1 _ _ noReturn rewritten
  refine ⟨⟨noReturn, rewritten⟩, ?_, ?_⟩
  · rw [tokens]
    rfl
  · rw [trees]
    rfl

end LispReader
