import LispReader.Text.Lines

/-!
# Texts with unified line endings

A text without carriage returns has unified line endings already. A text with a
line feed in it has them unified up to and with the line feed and behind it
apart; where a carriage return stands before the line feed, the two are one
line ending.
-/

namespace LispReader.Text

theorem foldl_read_of_not_mem {characters : List Char}
    (absent : '\r' ∉ characters) (reversed : List Char) :
    characters.foldl UnifiedLines.read ⟨false, reversed⟩ =
      ⟨false, characters.reverse ++ reversed⟩ := by
  induction characters generalizing reversed with
  | nil => rfl
  | cons character rest inductionHypothesis =>
      rw [List.mem_cons, not_or] at absent
      have taken : UnifiedLines.read ⟨false, reversed⟩ character =
          ⟨false, character :: reversed⟩ := by
        simp [UnifiedLines.read, Ne.symm absent.1]
      rw [List.foldl_cons, taken, inductionHypothesis absent.2]
      simp

theorem unifyLineEndings_of_not_mem {characters : List Char}
    (absent : '\r' ∉ characters) :
    unifyLineEndings characters = characters := by
  simp [unifyLineEndings, foldl_read_of_not_mem absent]

/-- What is written already stays in front of what is written later. -/
theorem foldl_read_eq (written : UnifiedLines) (characters : List Char) :
    characters.foldl UnifiedLines.read written =
      ⟨(characters.foldl UnifiedLines.read ⟨written.afterReturn,
          []⟩).afterReturn,
        (characters.foldl UnifiedLines.read ⟨written.afterReturn,
            []⟩).reversed ++
          written.reversed⟩ := by
  induction characters generalizing written with
  | nil => rfl
  | cons character rest inductionHypothesis =>
      have step : ∃ flag added, ∀ reversed,
          UnifiedLines.read ⟨written.afterReturn, reversed⟩ character =
            ⟨flag, added ++ reversed⟩ := by
        by_cases carriage : character = '\r'
        · exact ⟨true, ['\n'], fun reversed => by
            simp [UnifiedLines.read, carriage]⟩
        · by_cases merged : character = '\n' ∧ written.afterReturn = true
          · exact ⟨false, [], fun reversed => by
              simp [UnifiedLines.read, merged]⟩
          · refine ⟨false, [character], fun reversed => ?_⟩
            rw [UnifiedLines.read, if_neg carriage, if_neg merged]
            rfl
      rcases step with ⟨flag, added, reads⟩
      have here : UnifiedLines.read written character =
          ⟨flag, added ++ written.reversed⟩ :=
        reads written.reversed
      rw [List.foldl_cons, List.foldl_cons, here, reads [], inductionHypothesis,
        inductionHypothesis ⟨flag, added ++ []⟩]
      simp

theorem read_newline (written : UnifiedLines) :
    written.read '\n' =
      ⟨false, if written.afterReturn then written.reversed
          else '\n' :: written.reversed⟩ := by
  cases flag : written.afterReturn <;> simp [UnifiedLines.read, flag]

theorem unifyLineEndings_append_newline (front rest : List Char) :
    unifyLineEndings (front ++ '\n' :: rest) =
      unifyLineEndings (front ++ ['\n']) ++ unifyLineEndings rest := by
  simp only [unifyLineEndings, List.foldl_append, List.foldl_cons,
    List.foldl_nil, read_newline]
  rw [foldl_read_eq]
  simp

/-- What follows changes nothing about the line endings written so far. -/
theorem unifyLineEndings_front (front rest : List Char) :
    unifyLineEndings front <+: unifyLineEndings (front ++ rest) := by
  simp only [unifyLineEndings, List.foldl_append]
  rw [foldl_read_eq (front.foldl UnifiedLines.read ⟨false, []⟩) rest,
    List.reverse_append]
  exact List.prefix_append _ _

/-- Only a carriage return at the end bears on the characters behind. -/
theorem unifyLineEndings_append {front : List Char}
    (noReturn : front.getLast? ≠ some '\r') (rest : List Char) :
    unifyLineEndings (front ++ rest) =
      unifyLineEndings front ++ unifyLineEndings rest := by
  have settled :
      (front.foldl UnifiedLines.read ⟨false, []⟩).afterReturn = false := by
    rcases List.eq_nil_or_concat front with rfl | ⟨earlier, last, rfl⟩
    · rfl
    · have noCarriage : last ≠ '\r' := by simpa using noReturn
      rw [List.concat_eq_append, List.foldl_append, List.foldl_cons,
        List.foldl_nil, UnifiedLines.read, if_neg noCarriage]
      split <;> rfl
  simp only [unifyLineEndings, List.foldl_append]
  rw [foldl_read_eq, settled]
  simp

/-- A carriage return bears only on a line feed directly behind it. -/
theorem unifyLineEndings_append_of_head {rest : List Char}
    (noLineFeed : rest.head? ≠ some '\n') (front : List Char) :
    unifyLineEndings (front ++ rest) =
      unifyLineEndings front ++ unifyLineEndings rest := by
  have anew (written : UnifiedLines) :
      (rest.foldl UnifiedLines.read written).reversed =
        (rest.foldl UnifiedLines.read ⟨false, written.reversed⟩).reversed := by
    cases rest with
    | nil => rfl
    | cons first later =>
        have inLine : first ≠ '\n' := by simpa using noLineFeed
        have same : written.read first =
            UnifiedLines.read ⟨false, written.reversed⟩ first := by
          simp [UnifiedLines.read, inLine]
        rw [List.foldl_cons, List.foldl_cons, same]
  simp only [unifyLineEndings, List.foldl_append]
  rw [anew, foldl_read_eq]
  simp

/-- No characters are made other than line feeds. -/
theorem mem_unifyLineEndings {characters : List Char} {character : Char}
    (member : character ∈ unifyLineEndings characters) :
    character = '\n' ∨ character ∈ characters := by
  have kept : ∀ written : UnifiedLines,
      character ∈ (characters.foldl UnifiedLines.read written).reversed →
        character = '\n' ∨ character ∈ characters ∨
          character ∈ written.reversed := by
    clear member
    induction characters with
    | nil => exact fun _ member => .inr (.inr member)
    | cons first rest inductionHypothesis =>
        intro written member
        rcases inductionHypothesis _ member with isLineFeed | inRest | inWritten
        · exact .inl isLineFeed
        · exact .inr (.inl (List.mem_cons_of_mem _ inRest))
        · unfold UnifiedLines.read at inWritten
          split at inWritten
          · rcases List.mem_cons.mp inWritten with isLineFeed | earlier
            · exact .inl isLineFeed
            · exact .inr (.inr earlier)
          · split at inWritten
            · exact .inr (.inr inWritten)
            · rcases List.mem_cons.mp inWritten with rfl | earlier
              · exact .inr (.inl List.mem_cons_self)
              · exact .inr (.inr earlier)
  simpa using kept ⟨false, []⟩ (by simpa [unifyLineEndings] using member)

theorem head?_of_afterReturn {characters : List Char} {written : UnifiedLines}
    (invariant : written.afterReturn = true →
      written.reversed.head? = some '\n')
    (flag : (characters.foldl UnifiedLines.read written).afterReturn = true) :
    (characters.foldl UnifiedLines.read written).reversed.head? =
      some '\n' := by
  induction characters generalizing written with
  | nil => exact invariant flag
  | cons character rest inductionHypothesis =>
      refine inductionHypothesis ?_ flag
      intro returned
      by_cases carriage : character = '\r'
      · simp [UnifiedLines.read, carriage]
      · by_cases merged : character = '\n' ∧ written.afterReturn = true
        · simp [UnifiedLines.read, merged] at returned
        · rw [UnifiedLines.read, if_neg carriage, if_neg merged] at returned
          cases returned

/-- A line feed at the end is a line ending of its own, or completes one that
is there already. -/
theorem unifyLineEndings_concat_newline (front : List Char) :
    unifyLineEndings (front ++ ['\n']) = unifyLineEndings front ++ ['\n'] ∨
      unifyLineEndings (front ++ ['\n']) = unifyLineEndings front ∧
        (unifyLineEndings front).getLast? = some '\n' := by
  simp only [unifyLineEndings, List.foldl_append, List.foldl_cons,
    List.foldl_nil, read_newline, List.getLast?_reverse]
  cases flag : (front.foldl UnifiedLines.read ⟨false, []⟩).afterReturn with
  | false => exact .inl (by simp)
  | true =>
      have ended := head?_of_afterReturn (by simp) flag
      exact .inr ⟨by simp, ended⟩

/-- Texts in a row have their line endings unified apart, or the first ends
with a carriage return that the line feed in front of the second completes. -/
theorem unifyLineEndings_append_cases (front back : List Char) :
    unifyLineEndings (front ++ back) = unifyLineEndings front ++
      unifyLineEndings back ∨
      ∃ later, unifyLineEndings back = '\n' :: later ∧
        unifyLineEndings (front ++ back) = unifyLineEndings front ++ later ∧
        (unifyLineEndings front).getLast? = some '\n' := by
  by_cases lineFeed : back.head? = some '\n'
  · obtain ⟨later, rfl⟩ := List.head?_eq_some_iff.mp lineFeed
    have begins :
        unifyLineEndings ('\n' :: later) = '\n' :: unifyLineEndings later :=
      unifyLineEndings_append_newline [] later
    rw [unifyLineEndings_append_newline, begins]
    rcases unifyLineEndings_concat_newline front with separate | ⟨merged, ended⟩
    · exact .inl (by rw [separate, List.append_assoc, List.singleton_append])
    · exact .inr ⟨unifyLineEndings later, rfl, by rw [merged], ended⟩
  · exact .inl (unifyLineEndings_append_of_head lineFeed front)

/-- The characters in front of a text that follows this one and a line feed. -/
def above (front : String) : List Char :=
  unifyLineEndings (front.toList ++ ['\n'])

theorem unifyLineEndings_join (front back : String) :
    unifyLineEndings (front ++ "\n" ++ back).toList =
      above front ++ unifyLineEndings back.toList := by
  have characters :
      (front ++ "\n" ++ back).toList = front.toList ++ '\n' :: back.toList := by
    simp
  rw [characters, unifyLineEndings_append_newline, above]

theorem getLast?_unifyLineEndings_concat_newline (front : List Char) :
    (unifyLineEndings (front ++ ['\n'])).getLast? = some '\n' := by
  rcases unifyLineEndings_concat_newline front with separate | ⟨merged, ended⟩
  · rw [separate, List.getLast?_concat]
  · rw [merged, ended]

theorem getLast?_above (front : String) : (above front).getLast? = some '\n' :=
  getLast?_unifyLineEndings_concat_newline front.toList

theorem joinLines_append {left right : List String} (leftNonempty : left ≠ [])
    (rightNonempty : right ≠ []) :
    joinLines (left ++ right) = joinLines left ++ "\n" ++ joinLines right := by
  rw [joinLines, String.intercalate_append_of_ne_nil leftNonempty rightNonempty]
  rfl

end LispReader.Text
