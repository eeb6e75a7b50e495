import LispReader.Proofs.Lines
import LispReader.Text.Characters

/-!
# Lines without the blanks at their ends

A text whose lines are trimmed is written like the text itself, stroke by
stroke, but without the blanks that stand before a line feed and at the end.
What is lost between two places of the text is told by the strokes between
them.
-/

namespace LispReader.Text

/-- Whether some blanks directly before line feeds are missing in the second
text, and else it is the first one. -/
inductive LosesBlanks : List Char → List Char → Prop
  | nil : LosesBlanks [] []
  | keep (character : Char) {text left : List Char} :
      LosesBlanks text left →
        LosesBlanks (character :: text) (character :: left)
  | lineFeed {blanks text left : List Char} :
      (∀ character ∈ blanks, isBlank character = true) →
      LosesBlanks text left →
        LosesBlanks (blanks ++ '\n' :: text) ('\n' :: left)

/-- Whether some blanks at the end are missing in the second text, and else it
is the first one. -/
def LosesEnd (text left : List Char) : Prop :=
  ∃ blanks, (∀ character ∈ blanks, isBlank character = true) ∧
    text = left ++ blanks

/-- The characters without all blanks directly before line feeds, other than
line feeds. -/
def trimLines : List Char → List Char
  | [] => []
  | character :: rest =>
      let left := trimLines rest
      if isBlank character ∧ character ≠ '\n' ∧ left.head? = some '\n' then left
      else character :: left

example : trimLines "a  \n \t\n b \"".toList = "a\n\n b \"".toList := by decide

/-- What is written in one go: a character that stays, or a line feed with the
blanks before it, which are lost. -/
inductive Stroke where
  | keep (character : Char)
  | lineFeed (blanks : List Char)

def Stroke.whole : Stroke → List Char
  | .keep character => [character]
  | .lineFeed blanks => blanks ++ ['\n']

def Stroke.left : Stroke → List Char
  | .keep character => [character]
  | .lineFeed _ => ['\n']

def wholeOf (strokes : List Stroke) : List Char :=
  strokes.flatMap Stroke.whole

def leftOf (strokes : List Stroke) : List Char :=
  strokes.flatMap Stroke.left

@[simp]
theorem wholeOf_nil : wholeOf [] = [] := rfl

@[simp]
theorem leftOf_nil : leftOf [] = [] := rfl

@[simp]
theorem wholeOf_append (left right : List Stroke) :
    wholeOf (left ++ right) = wholeOf left ++ wholeOf right :=
  List.flatMap_append

@[simp]
theorem leftOf_append (left right : List Stroke) :
    leftOf (left ++ right) = leftOf left ++ leftOf right :=
  List.flatMap_append

@[simp]
theorem wholeOf_keep (characters : List Char) :
    wholeOf (characters.map .keep) = characters := by
  induction characters with
  | nil => rfl
  | cons character rest inductionHypothesis =>
      exact congrArg (character :: ·) inductionHypothesis

@[simp]
theorem leftOf_keep (characters : List Char) :
    leftOf (characters.map .keep) = characters := by
  induction characters with
  | nil => rfl
  | cons character rest inductionHypothesis =>
      exact congrArg (character :: ·) inductionHypothesis

@[simp]
theorem wholeOf_lineFeed (blanks : List Char) (rest : List Stroke) :
    wholeOf (.lineFeed blanks :: rest) = blanks ++ '\n' :: wholeOf rest := by
  simp [wholeOf, Stroke.whole]

@[simp]
theorem leftOf_lineFeed (blanks : List Char) (rest : List Stroke) :
    leftOf (.lineFeed blanks :: rest) = '\n' :: leftOf rest := rfl

def BlanksOnly (strokes : List Stroke) : Prop :=
  ∀ blanks, .lineFeed blanks ∈ strokes →
    ∀ character ∈ blanks, isBlank character = true

def EndsLine : List Stroke → Prop
  | [] => True
  | .keep character :: _ => character = '\n'
  | .lineFeed _ :: _ => True

/-- Whether every line is ended by a line feed that loses all blanks of the
line before it. -/
def Thorough : List Stroke → Prop
  | [] => True
  | .keep character :: rest =>
      character ≠ '\n' ∧ (isBlank character = true → ¬ EndsLine rest) ∧
        Thorough rest
  | .lineFeed blanks :: rest => '\n' ∉ blanks ∧ Thorough rest

theorem Thorough.of_append {front rest : List Stroke}
    (thorough : Thorough (front ++ rest)) :
    Thorough rest := by
  induction front with
  | nil => exact thorough
  | cons stroke others inductionHypothesis =>
      cases stroke with
      | keep character => exact inductionHypothesis thorough.2.2
      | lineFeed blanks => exact inductionHypothesis thorough.2

theorem losesBlanks_of_strokes {inner : List Stroke}
    (blanksOnly : BlanksOnly inner) :
    LosesBlanks (wholeOf inner) (leftOf inner) := by
  induction inner with
  | nil => exact .nil
  | cons stroke rest inductionHypothesis =>
      have restLoses := inductionHypothesis fun blanks member =>
        blanksOnly blanks (List.mem_cons_of_mem _ member)
      cases stroke with
      | keep character => exact .keep character restLoses
      | lineFeed blanks =>
          rw [wholeOf_lineFeed]
          exact .lineFeed (blanksOnly blanks List.mem_cons_self) restLoses

theorem trimLines_append {blanks : List Char}
    (areBlank : ∀ character ∈ blanks, isBlank character = true)
    (noLineFeed : '\n' ∉ blanks) (rest : List Char) :
    trimLines (blanks ++ '\n' :: rest) = '\n' :: trimLines rest := by
  induction blanks with
  | nil => simp [trimLines]
  | cons character others inductionHypothesis =>
      obtain ⟨isBlank, othersBlank⟩ := List.forall_mem_cons.mp areBlank
      rw [List.mem_cons, not_or] at noLineFeed
      have trimmed := inductionHypothesis othersBlank noLineFeed.2
      simp [trimLines, trimmed, isBlank, Ne.symm noLineFeed.1]

/-- Where all blanks at the ends of lines are lost, all before line feeds
are. -/
theorem leftOf_eq_trimLines {inner rest : List Stroke}
    (blanksOnly : BlanksOnly inner) (thorough : Thorough (inner ++ rest)) :
    leftOf inner = trimLines (wholeOf inner) := by
  induction inner with
  | nil => rfl
  | cons stroke others inductionHypothesis =>
      have othersBlank : BlanksOnly others := fun blanks member =>
        blanksOnly blanks (List.mem_cons_of_mem _ member)
      cases stroke with
      | keep character =>
          obtain ⟨noLineFeed, stays, othersThorough⟩ := thorough
          have trimmed := inductionHypothesis othersBlank othersThorough
          -- A blank that stays has no line feed behind it, or that would have
          -- taken it along.
          have noEnd : isBlank character = true →
              (leftOf others).head? ≠ some '\n' := by
            intro isBlank ends
            have goesOn := stays isBlank
            cases others with
            | nil => cases ends
            | cons next later =>
                cases next with
                | keep other => exact goesOn (Option.some.inj ends)
                | lineFeed blanks => exact goesOn trivial
          have kept : ¬ (isBlank character ∧ character ≠ '\n' ∧
              (trimLines (wholeOf others)).head? = some '\n') := by
            rintro ⟨isBlank, -, ends⟩
            exact noEnd isBlank (trimmed ▸ ends)
          have whole : wholeOf (.keep character :: others) =
              character :: wholeOf others := rfl
          rw [whole, trimLines, if_neg kept, ← trimmed]
          rfl
      | lineFeed blanks =>
          have trimmed := inductionHypothesis othersBlank thorough.2
          rw [wholeOf_lineFeed, trimLines_append
            (blanksOnly blanks List.mem_cons_self) thorough.1, ← trimmed]
          rfl

/-! ## Trimmed lines -/

/-- A line is its trimmed form and blanks, and no blank ends the trimmed
form. -/
theorem exists_blanks (text : String) :
    ∃ blanks, text.toList = (trimEnd text).toList ++ blanks ∧
      (∀ character ∈ blanks, isBlank character = true) ∧
      ∀ last ∈ (trimEnd text).toList.getLast?, isBlank last = false := by
  have split :=
    List.takeWhile_append_dropWhile (p := isBlank) (l := text.toList.reverse)
  refine ⟨(text.toList.reverse.takeWhile isBlank).reverse, ?_, ?_, ?_⟩
  · rw [trimEnd, String.toList_ofList, ← List.reverse_append, split,
      List.reverse_reverse]
  · intro character member
    exact List.all_eq_true.mp List.all_takeWhile character
      (List.mem_reverse.mp member)
  · intro last isLast
    rw [trimEnd, String.toList_ofList, List.getLast?_reverse] at isLast
    have kept := List.head?_dropWhile_not isBlank text.toList.reverse
    rw [Option.mem_def.mp isLast] at kept
    simpa using kept

theorem trimEnd_append {kept blanks : List Char}
    (stays : ∀ last ∈ kept.getLast?, isBlank last = false)
    (areBlank : ∀ character ∈ blanks, isBlank character = true) :
    trimEnd (String.ofList (kept ++ blanks)) = String.ofList kept := by
  have blanksGo : ∀ character ∈ blanks.reverse, isBlank character = true := by
    simpa using areBlank
  have keptStays : kept.reverse.dropWhile isBlank = kept.reverse := by
    cases reversed : kept.reverse with
    | nil => rfl
    | cons last earlier =>
        have isLast : kept.getLast? = some last := by
          rw [← List.head?_reverse, reversed]
          rfl
        rw [List.dropWhile_cons, stays last isLast]
        rfl
  rw [trimEnd, String.toList_ofList, List.reverse_append,
    List.dropWhile_append_of_pos blanksGo, keptStays, List.reverse_reverse]

/-- The strokes in which a text is written whose lines are trimmed, and the
blanks at its end. -/
structure Written (lines : List String) (strokes : List Stroke)
    (last : List Char) : Prop where
  whole : unifyLineEndings (joinLines lines).toList = wholeOf strokes ++ last
  left :
    unifyLineEndings (joinLines (lines.map trimEnd)).toList = leftOf strokes
  blanksOnly : BlanksOnly strokes
  lastBlank : ∀ character ∈ last, isBlank character = true
  thorough : (∀ line ∈ lines, '\n' ∉ line.toList ∧ '\r' ∉ line.toList) →
    Thorough strokes

theorem blanksOnly_keep_append {characters : List Char} {rest : List Stroke}
    (blanksOnly : BlanksOnly rest) :
    BlanksOnly (characters.map .keep ++ rest) := by
  intro blanks member
  rcases List.mem_append.mp member with isKept | inRest
  · obtain ⟨character, -, same⟩ := List.mem_map.mp isKept
    cases same
  · exact blanksOnly blanks inRest

theorem thorough_keep_append {characters : List Char} {rest : List Stroke}
    (noLineFeed : '\n' ∉ characters)
    (noBlank : ∀ last ∈ characters.getLast?, isBlank last = false)
    (thorough : Thorough rest) :
    Thorough (characters.map .keep ++ rest) := by
  induction characters with
  | nil => exact thorough
  | cons character others inductionHypothesis =>
      rw [List.mem_cons, not_or] at noLineFeed
      cases others with
      | nil =>
          have stays : isBlank character = false := noBlank character rfl
          refine ⟨Ne.symm noLineFeed.1, fun blank => ?_, thorough⟩
          rw [stays] at blank
          cases blank
      | cons next later =>
          have rest := inductionHypothesis noLineFeed.2 (by simpa using noBlank)
          exact ⟨Ne.symm noLineFeed.1, fun _ ends => rest.1 ends, rest⟩

theorem areBlank_unifyLineEndings {characters : List Char}
    (areBlank : ∀ character ∈ characters, isBlank character = true) :
    ∀ character ∈ unifyLineEndings characters, isBlank character = true := by
  intro character member
  rcases mem_unifyLineEndings member with rfl | isThere
  · decide
  · exact areBlank character isThere

/-- A line apart from the blanks at its end, as it stands in a text. -/
theorem exists_line (line : String) :
    ∃ kept blanks, (∀ rest, unifyLineEndings (line.toList ++ rest) =
        kept ++ unifyLineEndings (blanks ++ rest)) ∧
      (∀ rest, unifyLineEndings ((trimEnd line).toList ++ rest) = kept ++
          unifyLineEndings rest) ∧
      (∀ character ∈ blanks, isBlank character = true) ∧
      ('\n' ∉ line.toList → '\r' ∉ line.toList →
        '\n' ∉ kept ∧ (∀ last ∈ kept.getLast?, isBlank last = false) ∧
          '\n' ∉ blanks ∧ '\r' ∉ blanks) := by
  obtain ⟨blanks, split, areBlank, noBlank⟩ := exists_blanks line
  have noReturn : (trimEnd line).toList.getLast? ≠ some '\r' := by
    intro isReturn
    have stays := noBlank '\r' isReturn
    revert stays
    decide
  refine ⟨unifyLineEndings (trimEnd line).toList, blanks, fun rest => ?_,
    fun rest => ?_, areBlank,
    fun noLineFeed noCarriage => ?_⟩
  · rw [split, List.append_assoc, unifyLineEndings_append noReturn]
  · rw [unifyLineEndings_append noReturn]
  · rw [split, List.mem_append, not_or] at noLineFeed noCarriage
    rw [unifyLineEndings_of_not_mem noCarriage.1]
    exact ⟨noLineFeed.1, noBlank, noLineFeed.2, noCarriage.2⟩

theorem exists_written_singleton (line : String) :
    ∃ strokes last, Written [line] strokes last := by
  obtain ⟨kept, blanks, whole, left, areBlank, plain⟩ := exists_line line
  refine ⟨kept.map .keep, unifyLineEndings blanks, ?_, ?_, ?_,
    areBlank_unifyLineEndings areBlank,
    fun noEndings => ?_⟩
  · have alone := whole []
    simpa [joinLines] using alone
  · have alone := left []
    simpa [joinLines, unifyLineEndings] using alone
  · have none : BlanksOnly [] :=
      fun blanks member => absurd member List.not_mem_nil
    simpa using @blanksOnly_keep_append kept [] none
  · obtain ⟨noLineFeed, noCarriage⟩ := noEndings line List.mem_cons_self
    obtain ⟨keptPlain, noBlank, -⟩ := plain noLineFeed noCarriage
    have nothing : Thorough [] := trivial
    simpa using thorough_keep_append keptPlain noBlank nothing

/-- One line more in front is written with a line feed that loses its blanks. -/
theorem Written.exists_cons {lines : List String} {strokes : List Stroke}
    {last : List Char} (written : Written lines strokes last)
    (nonempty : lines ≠ []) (line : String) :
    ∃ front, Written (line :: lines) (front ++ strokes) last := by
  obtain ⟨kept, blanks, whole, left, areBlank, plain⟩ := exists_line line
  obtain ⟨lost, isLost⟩ := List.getLast?_eq_some_iff.mp
    (getLast?_unifyLineEndings_concat_newline blanks)
  have lostBlank : ∀ character ∈ lost, isBlank character = true := by
    intro character member
    have inWhole : character ∈ unifyLineEndings (blanks ++ ['\n']) := by
      rw [isLost]
      exact List.mem_append_left _ member
    refine areBlank_unifyLineEndings ?_ character inWhole
    simpa [or_imp, forall_and] using ⟨areBlank, by decide⟩
  have joined (first : String) (rest : List String) (others : rest ≠ []) :
      (joinLines (first :: rest)).toList =
        first.toList ++ '\n' :: (joinLines rest).toList := by
    have apart := joinLines_append (List.cons_ne_nil first []) others
    rw [List.singleton_append] at apart
    rw [apart]
    simp [joinLines]
  refine ⟨kept.map .keep ++ [.lineFeed lost], ?_, ?_, ?_, written.lastBlank,
    fun noEndings => ?_⟩
  · rw [joined line lines nonempty, unifyLineEndings_append_newline, whole,
      isLost, written.whole]
    simp
  · have others : lines.map trimEnd ≠ [] := by simpa using nonempty
    have lineFeed : unifyLineEndings ['\n'] = ['\n'] := rfl
    rw [List.map_cons, joined _ _ others, unifyLineEndings_append_newline, left,
      lineFeed, written.left]
    simp
  · rw [List.append_assoc]
    apply blanksOnly_keep_append
    intro gap member
    rcases List.mem_cons.mp member with same | inRest
    · cases same
      exact lostBlank
    · exact written.blanksOnly gap inRest
  · obtain ⟨linePlain, restPlain⟩ := List.forall_mem_cons.mp noEndings
    obtain ⟨keptPlain, noBlank, blanksPlain, noReturn⟩ :=
      plain linePlain.1 linePlain.2
    have unified : '\r' ∉ blanks ++ ['\n'] := by simp [noReturn]
    rw [unifyLineEndings_of_not_mem unified] at isLost
    obtain rfl : blanks = lost := List.append_cancel_right isLost
    rw [List.append_assoc]
    exact thorough_keep_append keptPlain noBlank ⟨blanksPlain,
      written.thorough restPlain⟩

theorem exists_written (lines : List String) :
    ∃ strokes last, Written lines strokes last := by
  induction lines with
  | nil => exact ⟨[], [], rfl, rfl, nofun, nofun, fun _ => trivial⟩
  | cons line rest inductionHypothesis =>
      by_cases alone : rest = []
      · subst alone
        exact exists_written_singleton line
      · obtain ⟨strokes, last, written⟩ := inductionHypothesis
        obtain ⟨front, longer⟩ := written.exists_cons alone line
        exact ⟨_, _, longer⟩

end LispReader.Text
