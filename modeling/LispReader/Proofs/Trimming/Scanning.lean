import LispReader.Proofs.Scanning.Failure
import LispReader.Proofs.Trimming.Lines
import Mathlib.Data.List.Forall2

/-!
# Tokens of trimmed lines

A text and the text with its lines trimmed are cut into the same tokens, but
for the blanks that are lost inside strings and at the ends of comments. Both
are cut stroke by stroke: behind each stroke that stays the two scanners are in
the same mode. Main statement: `tokenize_trimEnd`.
-/

namespace LispReader

open Text (Stroke wholeOf leftOf BlanksOnly EndsLine Written)

/-- Whether a token is another one in a different place. The texts of two
strings and those of two comments need only be related. -/
inductive Token.Alike (strings comments : List Char → List Char → Prop) :
    Token → Token → Prop
  | string {text left : List Char} (position other : Position) :
      strings text left →
      Alike strings comments ⟨.string, some (String.ofList text), position⟩
        ⟨.string, some (String.ofList left), other⟩
  | comment {text left : List Char} (position other : Position) :
      comments text left →
      Alike strings comments ⟨.comment, some (String.ofList text), position⟩
        ⟨.comment, some (String.ofList left), other⟩
  | other {kind : Token.Kind} (text : Option String)
      (position other : Position) :
      kind ≠ .string → kind ≠ .comment →
      Alike strings comments ⟨kind, text, position⟩ ⟨kind, text, other⟩

/-- Whether a second outcome is like a first one. Of a first one that no more
text can mend nothing is asked. -/
inductive OutcomeAlike {value : Type} (related : value → value → Prop) :
    Except ReadError value → Except ReadError value → Prop
  | ok {result other : value} : related result other →
      OutcomeAlike related (.ok result) (.ok other)
  | incomplete {error other : ReadError} :
      error.isIncomplete = true → other.isIncomplete = true →
      OutcomeAlike related (.error error) (.error other)
  | final {error : ReadError} (other : Except ReadError value) :
      error.isIncomplete = false → OutcomeAlike related (.error error) other

namespace Scanner

/-- Whether these relations hold for what is written and what is left of it,
among some strokes: between any two places, and from any place to the end of
the line. -/
structure Relates (strokes : List Stroke)
    (strings comments : List Char → List Char → Prop) :
    Prop where
  strings : ∀ {front inner rest}, strokes = front ++ inner ++ rest →
    strings (wholeOf inner) (leftOf inner)
  comments :
    ∀ {front kept rest blanks}, strokes = front ++ kept.map .keep ++ rest →
    EndsLine rest → (∀ character ∈ blanks, Text.isBlank character = true) →
    comments (kept ++ blanks) kept

/-- Whether two scanners are in the same mode in front of these strokes, the
second one without what the strokes before have lost. -/
inductive Mode.Alike (strokes rest : List Stroke) : Mode → Mode → Prop
  | expression (before : Lookback) :
      Alike strokes rest (.expression before) (.expression before)
  | string {front inner : List Stroke} (opening other : Position) :
      strokes = front ++ inner ++ rest →
      Alike strokes rest (.string opening (wholeOf inner).reverse)
        (.string other (leftOf inner).reverse)
  | comment {front : List Stroke} {kept : List Char}
      (opening other : Position) :
      strokes = front ++ kept.map .keep ++ rest →
      Alike strokes rest (.comment opening kept.reverse)
        (.comment other kept.reverse)
  | keyword (reversed : List Char) (opening other : Position) :
      Alike strokes rest (.keyword opening reversed) (.keyword other reversed)
  | symbol (reversed : List Char) (opening other : Position) :
      Alike strokes rest (.symbol opening reversed) (.symbol other reversed)

section Keep

variable {strings comments : List Char → List Char → Prop}
  {strokes front rest : List Stroke}

/-- Whether a second step is like this one, unless this one fails. -/
def StepAlike (strings comments : List Char → List Char → Prop)
    (strokes rest : List Stroke) (step other : Step) : Prop :=
  ∀ next completed, step = .ok (next, completed) → ∃ otherNext otherCompleted,
    other = .ok (otherNext, otherCompleted) ∧
      Mode.Alike strokes rest next otherNext ∧
      List.Forall₂ (Token.Alike strings comments) completed otherCompleted

theorem alike_closer (character : Char) (position other : Position) :
    Token.Alike strings comments (Token.closer character position)
      (Token.closer character other) :=
  .other _ position other nofun nofun

/-- A token begins alike in two places. -/
theorem Begins.alike (here : strokes = front ++ rest) {position : Position}
    {character : Char} {next : Mode} {completed : List Token}
    (begins : Begins position character next completed) (other : Position) :
    ∃ otherNext otherCompleted,
      Begins other character otherNext otherCompleted ∧
      Mode.Alike strokes rest next otherNext ∧
      List.Forall₂ (Token.Alike strings comments) completed otherCompleted := by
  cases begins with
  | @sign kind _ sign =>
      have noString : kind ≠ .string := by
        rintro rfl
        cases sign
      have noComment : kind ≠ .comment := by
        rintro rfl
        cases sign
      exact ⟨_, _, .sign sign, .expression _,
        .cons (.other _ _ _ noString noComment) .nil⟩
  | closer closes =>
      exact ⟨_, _, .closer closes, .expression _,
        .cons (alike_closer _ _ _) .nil⟩
  | string =>
      have inner : strokes = front ++ [] ++ rest := by simpa using here
      exact ⟨_, _, .string, .string _ _ inner, .nil⟩
  | comment =>
      have kept : strokes = front ++ ([] : List Char).map .keep ++ rest := by
        simpa using here
      exact ⟨_, _, .comment, .comment _ _ kept, .nil⟩
  | keyword => exact ⟨_, _, .keyword, .keyword _ _ _, .nil⟩
  | symbol inSymbol notSign =>
      exact ⟨_, _, .symbol inSymbol notSign, .symbol _ _ _, .nil⟩
  | separator separates =>
      exact ⟨_, _, .separator separates, .expression _, .nil⟩

/-- A character that stays leads both scanners to the same mode. -/
theorem Mode.Alike.read {mode other : Mode} {character : Char}
    (relates : Relates strokes strings comments)
    (here : strokes = front ++ .keep character :: rest)
    (alike : Mode.Alike strokes (.keep character :: rest) mode other)
    (position otherPosition : Position) :
    StepAlike strings comments strokes rest (mode.read position character)
      (other.read otherPosition character) := by
  have behind : strokes = (front ++ [.keep character]) ++ rest := by
    simpa using here
  intro next completed accepted
  simp only [Mode.read_eq_ok_iff] at accepted ⊢
  cases alike with
  | expression before =>
      cases accepted with
      | between permitted begins =>
          obtain ⟨otherNext, others, otherBegins, modes, tokens⟩ :=
            begins.alike behind otherPosition
          exact ⟨otherNext, others, .between permitted otherBegins,
            modes, tokens⟩
  | @string ahead inner opening otherOpening split =>
      cases accepted with
      | endsString =>
          refine ⟨_, _, .endsString, .expression _, .cons ?_ .nil⟩
          simpa [textOf] using Token.Alike.string opening otherOpening
            (relates.strings split)
      | inString other =>
          have longer :
              strokes = ahead ++ (inner ++ [.keep character]) ++ rest := by
            simpa using split
          have modes := Mode.Alike.string opening otherOpening longer
          simp only [Text.wholeOf_append, Text.leftOf_append,
            List.reverse_append] at modes
          exact ⟨_, _, .inString other, modes, .nil⟩
  | @comment ahead kept opening otherOpening split =>
      cases accepted with
      | endsComment =>
          have ends :=
            @Relates.comments _ _ _ relates _ _ _ [] split rfl (by simp)
          refine ⟨_, _, .endsComment, .expression _, .cons ?_ .nil⟩
          rw [List.append_nil] at ends
          simpa [textOf] using Token.Alike.comment opening otherOpening ends
      | inComment other =>
          have longer :
              strokes = ahead ++ (kept ++ [character]).map .keep ++ rest := by
            simpa using split
          have modes := Mode.Alike.comment opening otherOpening longer
          rw [List.reverse_append] at modes
          exact ⟨_, _, .inComment other, modes, .nil⟩
  | keyword reversed opening otherOpening =>
      have word :
          Token.Alike strings comments ⟨.keyword, textOf reversed, opening⟩
          ⟨.keyword, textOf reversed, otherOpening⟩ :=
            .other _ _ _ (by decide) (by decide)
      cases accepted with
      | inKeyword inside =>
          exact ⟨_, _, .inKeyword inside, .keyword _ _ _, .nil⟩
      | endsKeyword separates =>
          exact ⟨_, _, .endsKeyword separates, .expression _, .cons word .nil⟩
      | closesKeyword closes =>
          exact ⟨_, _, .closesKeyword closes, .expression _,
            .cons word (.cons (alike_closer _ _ _) .nil)⟩
  | symbol reversed opening otherOpening =>
      have word :
          Token.Alike strings comments ⟨.symbol, textOf reversed, opening⟩
          ⟨.symbol, textOf reversed, otherOpening⟩ :=
            .other _ _ _ (by decide) (by decide)
      cases accepted with
      | inSymbol inside => exact ⟨_, _, .inSymbol inside, .symbol _ _ _, .nil⟩
      | endsSymbol separates =>
          exact ⟨_, _, .endsSymbol separates, .expression _, .cons word .nil⟩
      | closesSymbol closes =>
          exact ⟨_, _, .closesSymbol closes, .expression _,
            .cons word (.cons (alike_closer _ _ _) .nil)⟩

end Keep

/-! ## Blanks that are lost -/

theorem Mode.final_of_read_error {mode : Mode} {position : Position}
    {character : Char} {error : ReadError}
    (rejected : mode.read position character = .error error) :
    error.isIncomplete = false := by
  obtain ⟨setting, noString, rfl⟩ := Mode.read_error rejected
  simp [ReadError.isIncomplete, noString]

theorem ne_of_blank {character other : Char}
    (blank : Text.isBlank character = true)
    (visible : Text.isBlank other = false) : character ≠ other := by
  rintro rfl
  rw [visible] at blank
  cases blank

theorem isCloser_of_blank {character : Char}
    (blank : Text.isBlank character = true) :
    isCloser character = false := by
  simp [isCloser, ne_of_blank blank (by decide : Text.isBlank ')' = false),
    ne_of_blank blank (by decide : Text.isBlank ']' = false),
    ne_of_blank blank (by decide : Text.isBlank '}' = false)]

/-- Of the characters that may stand between tokens only separators are
blank. -/
theorem Begins.of_blank {position : Position} {character : Char} {next : Mode}
    {completed : List Token} (begins : Begins position character next completed)
    (blank : Text.isBlank character = true) :
    isSeparator character = true ∧ next = .expression .plain ∧
      completed = [] := by
  cases begins with
  | @sign kind _ sign =>
      cases kind <;> cases sign <;> exact absurd blank (by decide)
  | closer closes =>
      rw [isCloser_of_blank blank] at closes
      cases closes
  | string | comment | keyword => exact absurd blank (by decide)
  | symbol inSymbol _ => simp [isSymbolCharacter, blank] at inSymbol
  | separator separates => exact ⟨separates, rfl, rfl⟩

/-- A blank outside a string ends what is unfinished, or it belongs to a
comment. -/
theorem Mode.read_blank {mode next : Mode} {position : Position}
    {character : Char} {completed : List Token}
    (noString : ∀ opening reversed, mode ≠ .string opening reversed)
    (blank : Text.isBlank character = true)
    (taken : mode.read position character = .ok (next, completed)) :
    mode ≠ .expression .dispatch ∧
      (next = .expression .plain ∧ completed = mode.unfinished ∨
        ∃ opening reversed, mode = .comment opening reversed ∧
          next = .comment opening (character :: reversed) ∧
            completed = []) := by
  cases Mode.read_eq_ok_iff.mp taken with
  | between permitted begins =>
      obtain ⟨separates, rfl, rfl⟩ := begins.of_blank blank
      refine ⟨?_, .inl ⟨rfl, rfl⟩⟩
      rintro ⟨⟩
      simp only [isSeparator, Bool.or_eq_true, decide_eq_true_eq] at separates
      rcases separates with ((rfl | rfl) | rfl) | rfl <;> cases permitted
  | inString _ | endsString => exact absurd rfl (noString _ _)
  | inComment _ => exact ⟨by simp, .inr ⟨_, _, rfl, rfl, rfl⟩⟩
  | endsComment | endsKeyword _ | endsSymbol _ =>
      exact ⟨by simp, .inl ⟨rfl, rfl⟩⟩
  | inKeyword inSymbol | inSymbol inSymbol =>
      simp [isSymbolCharacter, blank] at inSymbol
  | closesKeyword closes | closesSymbol closes =>
      rw [isCloser_of_blank blank] at closes
      cases closes

/-- Whether these tokens end what is unfinished, if blanks may still belong to
a comment. -/
def Mode.Ends (mode : Mode) (tokens : List Token) : Prop :=
  tokens = mode.unfinished ∨
    ∃ opening reversed lost, mode = .comment opening reversed ∧
      (∀ character ∈ lost, Text.isBlank character = true) ∧
      tokens = [⟨.comment, textOf (lost ++ reversed), opening⟩]

theorem Mode.Ends.of_longer {opening : Position} {reversed : List Char}
    {character : Char} {tokens : List Token}
    (blank : Text.isBlank character = true)
    (ends : (Mode.comment opening (character :: reversed)).Ends tokens) :
    (Mode.comment opening reversed).Ends tokens := by
  rcases ends with rfl | ⟨_, _, lost, ⟨⟩, areBlank, rfl⟩
  · exact .inr ⟨opening, reversed, [character], rfl, by simpa using blank, rfl⟩
  · refine .inr ⟨opening, reversed, lost ++ [character], rfl, ?_, by simp⟩
    simpa [or_imp, forall_and] using ⟨areBlank, blank⟩

/-- Outside a string a scanner refuses some blanks for good, or it ends on them
what is unfinished and stands between tokens or in the same comment. -/
theorem Mode.scan_blanks {mode : Mode}
    (noString : ∀ opening reversed, mode ≠ .string opening reversed)
    {blanks : List Char}
    (areBlank : ∀ character ∈ blanks, Text.isBlank character = true)
    (position : Position) :
    (∃ error, error.isIncomplete = false ∧
      ∀ rest, mode.scan position (blanks ++ rest) = .error error) ∨
    ∃ (next : Mode) (completed : List Token) (place : Position),
      (∀ rest, mode.scan position (blanks ++ rest) =
          prepend completed (next.scan place rest)) ∧
      (∀ opening reversed, next ≠ .string opening reversed) ∧
      (mode = .expression .dispatch → next = .expression .dispatch) ∧
      mode.Ends (completed ++ next.unfinished) := by
  induction blanks generalizing mode position with
  | nil =>
      exact .inr ⟨mode, [], position, fun rest => (prepend_nil _).symm,
        noString, id, .inl rfl⟩
  | cons character others inductionHypothesis =>
      obtain ⟨blank, othersBlank⟩ := List.forall_mem_cons.mp areBlank
      cases outcome : mode.read position character with
      | error refused =>
          exact .inl ⟨refused, Mode.final_of_read_error outcome,
            fun rest => scan_cons_of_error outcome _⟩
      | ok step =>
          obtain ⟨middle, first⟩ := step
          obtain ⟨noSign, goesOn⟩ := Mode.read_blank noString blank outcome
          have middleNoString :
              ∀ opening reversed, middle ≠ .string opening reversed := by
            rcases goesOn with ⟨rfl, -⟩ | ⟨opening, reversed, -, rfl, -⟩ <;>
              exact nofun
          rcases inductionHypothesis middleNoString othersBlank
            (position.after character) with
            ⟨error, final, rejects⟩ | ⟨next, completed, place, scans,
                nextNoString, -, ends⟩
          · refine .inl ⟨error, final, fun rest => ?_⟩
            rw [List.cons_append, scan_cons_of_ok outcome, rejects,
              prepend_error]
          · refine .inr ⟨next, first ++ completed, place, fun rest => ?_,
              nextNoString,
              fun isSign => absurd isSign noSign, ?_⟩
            · rw [List.cons_append, scan_cons_of_ok outcome, scans,
                prepend_prepend]
            · rw [List.append_assoc]
              rcases goesOn with ⟨rfl, rfl⟩ | ⟨opening, reversed, rfl, rfl, rfl⟩
              · rcases ends with nothing | ⟨_, _, _, ⟨⟩, _⟩
                rw [nothing]
                exact .inl (List.append_nil _)
              · exact ends.of_longer blank

/-- Outside a string a scanner refuses blanks and a line feed for good, or they
end what is unfinished. -/
theorem Mode.scan_lineFeed {mode : Mode}
    (noString : ∀ opening reversed, mode ≠ .string opening reversed)
    {blanks : List Char}
    (areBlank : ∀ character ∈ blanks, Text.isBlank character = true)
    (position : Position) :
    (∃ error, error.isIncomplete = false ∧
      ∀ rest, mode.scan position (blanks ++ '\n' :: rest) = .error error) ∨
    mode ≠ .expression .dispatch ∧ ∃ completed place, mode.Ends completed ∧
      ∀ rest, mode.scan position (blanks ++ '\n' :: rest) =
        prepend completed (cut place rest) := by
  rcases Mode.scan_blanks noString areBlank position with
    ⟨error, final, rejects⟩ | ⟨next, completed, place, scans, nextNoString,
        keepsSign, ends⟩
  · exact .inl ⟨error, final, fun rest => rejects _⟩
  · by_cases isSign : next = .expression .dispatch
    · subst isSign
      have rejected : (Mode.expression .dispatch).read place '\n' =
          .error (.invalidCharacter '\n' .expression place) := rfl
      refine .inl ⟨.invalidCharacter '\n' .expression place, rfl,
        fun rest => ?_⟩
      rw [scans, scan_cons_of_error rejected, prepend_error]
    · have accepted := Mode.read_newline isSign nextNoString place
      refine .inr ⟨fun same => isSign (keepsSign same), _, place.after '\n',
        ends, fun rest => ?_⟩
      rw [scans, scan_cons_of_ok accepted, prepend_prepend]
      rfl

theorem scan_nil {mode : Mode}
    (noString : ∀ opening reversed, mode ≠ .string opening reversed)
    (position : Position) : mode.scan position [] = .ok mode.unfinished := by
  cases mode with
  | string opening reversed => exact absurd rfl (noString opening reversed)
  | _ => rfl

/-- Outside a string a scanner refuses the blanks at the end of a text for
good, or ends on them what is unfinished. -/
theorem Mode.scan_lastBlanks {mode : Mode}
    (noString : ∀ opening reversed, mode ≠ .string opening reversed)
    {blanks : List Char}
    (areBlank : ∀ character ∈ blanks, Text.isBlank character = true)
    (position : Position) :
    (∃ error, error.isIncomplete = false ∧
        mode.scan position blanks = .error error) ∨
    ∃ completed, mode.Ends completed ∧
      mode.scan position blanks = .ok completed := by
  rcases Mode.scan_blanks noString areBlank position with
    ⟨error, final, rejects⟩ | ⟨next, completed, place, scans, nextNoString,
        -, ends⟩
  · have rejected := rejects []
    rw [List.append_nil] at rejected
    exact .inl ⟨error, final, rejected⟩
  · have scanned := scans []
    rw [List.append_nil, scan_nil nextNoString, prepend_ok] at scanned
    exact .inr ⟨_, ends, scanned⟩

/-! ## Whole texts -/

section Strokes

variable {strings comments : List Char → List Char → Prop}
  {strokes : List Stroke}

theorem prepend_alike {completed others : List Token}
    {result other : Except ReadError (List Token)}
    (front : List.Forall₂ (Token.Alike strings comments) completed others)
    (alike : OutcomeAlike (List.Forall₂ (Token.Alike strings comments)) result
      other) :
    OutcomeAlike (List.Forall₂ (Token.Alike strings comments))
      (prepend completed result)
      (prepend others other) := by
  cases alike with
  | ok later => exact .ok (List.rel_append front later)
  | incomplete error other => exact .incomplete error other
  | final other final => exact .final _ final

theorem Mode.Alike.ends {rest : List Stroke} {mode other : Mode}
    {tokens : List Token} (relates : Relates strokes strings comments)
    (endsLine : EndsLine rest) (alike : Mode.Alike strokes rest mode other)
    (noString : ∀ opening reversed, mode ≠ .string opening reversed)
    (ends : mode.Ends tokens) :
    List.Forall₂ (Token.Alike strings comments) tokens other.unfinished := by
  cases alike with
  | string opening other split => exact absurd rfl (noString _ _)
  | @comment front kept opening other split =>
      have lose : ∃ lost : List Char,
          (∀ character ∈ lost, Text.isBlank character = true) ∧
          tokens =
            [⟨.comment, textOf (lost.reverse ++ kept.reverse), opening⟩] := by
        rcases ends with rfl | ⟨_, _, lost, ⟨⟩, areBlank, rfl⟩
        · exact ⟨[], by simp, rfl⟩
        · exact ⟨lost.reverse, by simpa using areBlank, by simp⟩
      obtain ⟨lost, areBlank, rfl⟩ := lose
      refine .cons ?_ .nil
      simpa [textOf] using
        Token.Alike.comment opening other
          (relates.comments split endsLine areBlank)
  | expression before =>
      rcases ends with rfl | ⟨_, _, _, ⟨⟩, _⟩
      exact .nil
  | keyword reversed opening other | symbol reversed opening other =>
      rcases ends with rfl | ⟨_, _, _, ⟨⟩, _⟩
      exact .cons (.other _ _ _ (by decide) (by decide)) .nil

theorem Mode.Alike.of_string {rest : List Stroke} {opening : Position}
    {reversed : List Char} {other : Mode}
    (alike : Mode.Alike strokes rest (.string opening reversed) other) :
    ∃ front inner otherOpening, strokes = front ++ inner ++ rest ∧
      reversed = (wholeOf inner).reverse ∧
        other = .string otherOpening (leftOf inner).reverse := by
  cases alike with
  | string opening otherOpening split => exact ⟨_, _, _, split, rfl, rfl⟩

theorem Mode.Alike.not_string {rest : List Stroke} {mode other : Mode}
    (alike : Mode.Alike strokes rest mode other)
    (noString : ∀ opening reversed, mode ≠ .string opening reversed) :
    ∀ opening reversed, other ≠ .string opening reversed := by
  cases alike with
  | string opening other split => exact absurd rfl (noString _ _)
  | _ => exact nofun

theorem Mode.Alike.not_dispatch {rest : List Stroke} {mode other : Mode}
    (alike : Mode.Alike strokes rest mode other)
    (noSign : mode ≠ .expression .dispatch) :
    other ≠ .expression .dispatch := by
  cases alike with
  | expression before => exact noSign
  | _ => exact nofun

theorem noQuote_of_blank {characters : List Char}
    (areBlank : ∀ character ∈ characters, Text.isBlank character = true) :
    '"' ∉ characters :=
  fun member => absurd (areBlank '"' member) (by decide)

/-- Where the strokes are at an end, two modes that are alike end alike,
whatever blanks the last line loses. -/
theorem Mode.Alike.scan_last {mode other : Mode}
    (relates : Relates strokes strings comments)
    (alike : Mode.Alike strokes [] mode other) {last : List Char}
    (lastBlank : ∀ character ∈ last, Text.isBlank character = true)
    (position otherPosition : Position) :
    OutcomeAlike (List.Forall₂ (Token.Alike strings comments))
      (mode.scan position last)
      (other.scan otherPosition []) := by
  by_cases inString : ∃ opening reversed, mode = .string opening reversed
  · obtain ⟨opening, inside, rfl⟩ := inString
    obtain ⟨ahead, inner, otherOpening, -, -, rfl⟩ := alike.of_string
    have scanned :=
      scan_string (noQuote_of_blank lastBlank) opening inside position []
    rw [List.append_nil] at scanned
    rw [scanned]
    exact .incomplete rfl rfl
  · have noString : ∀ opening reversed, mode ≠ .string opening reversed :=
      fun opening reversed same => inString ⟨opening, reversed, same⟩
    rw [scan_nil (alike.not_string noString) otherPosition]
    rcases Mode.scan_lastBlanks noString lastBlank position with
      ⟨error, final, rejected⟩ | ⟨completed, ends, scanned⟩
    · rw [rejected]
      exact .final _ final
    · rw [scanned]
      have endsLine : EndsLine [] := trivial
      exact .ok (alike.ends relates endsLine noString ends)

section Stroke

variable {front later : List Stroke} {mode other : Mode}
  {whole left : List Char}

/-- A character that stays leads on from two modes that are alike to two
others. -/
theorem Mode.Alike.scan_keep {character : Char}
    (relates : Relates strokes strings comments)
    (here : strokes = front ++ .keep character :: later)
    (alike : Mode.Alike strokes (.keep character :: later) mode other)
    (goesOn : ∀ (next otherNext : Mode) (place otherPlace : Position),
      Mode.Alike strokes later next otherNext →
        OutcomeAlike (List.Forall₂ (Token.Alike strings comments))
          (next.scan place whole) (otherNext.scan otherPlace left))
    (position otherPosition : Position) :
    OutcomeAlike (List.Forall₂ (Token.Alike strings comments))
      (mode.scan position (character :: whole))
        (other.scan otherPosition (character :: left)) := by
  have steps := alike.read relates here position otherPosition
  cases outcome : mode.read position character with
  | error refused =>
      rw [scan_cons_of_error outcome]
      exact .final _ (Mode.final_of_read_error outcome)
  | ok step =>
      obtain ⟨next, completed⟩ := step
      obtain ⟨otherNext, others, accepted, modes, tokens⟩ :=
        steps next completed outcome
      rw [scan_cons_of_ok outcome, scan_cons_of_ok accepted]
      exact prepend_alike tokens (goesOn next otherNext _ _ modes)

/-- A line feed leads on from two modes that are alike to two others, whatever
blanks are lost in front of it. Inside a string the blanks are read as they
are; in every other mode they end what is unfinished. -/
theorem Mode.Alike.scan_lineFeed {blanks : List Char}
    (relates : Relates strokes strings comments)
    (areBlank : ∀ character ∈ blanks, Text.isBlank character = true)
    (alike : Mode.Alike strokes (.lineFeed blanks :: later) mode other)
    (goesOn : ∀ (next otherNext : Mode) (place otherPlace : Position),
      Mode.Alike strokes later next otherNext →
        OutcomeAlike (List.Forall₂ (Token.Alike strings comments))
          (next.scan place whole) (otherNext.scan otherPlace left))
    (position otherPosition : Position) :
    OutcomeAlike (List.Forall₂ (Token.Alike strings comments))
      (mode.scan position (blanks ++ '\n' :: whole))
        (other.scan otherPosition ('\n' :: left)) := by
  by_cases inString : ∃ opening reversed, mode = .string opening reversed
  · obtain ⟨opening, inside, rfl⟩ := inString
    obtain ⟨ahead, inner, otherOpening, split, rfl, rfl⟩ := alike.of_string
    have longer :
        strokes = ahead ++ (inner ++ [.lineFeed blanks]) ++ later := by
      simpa using split
    have modes := Mode.Alike.string opening otherOpening longer
    have noQuote : '"' ∉ blanks ++ ['\n'] := by
      simpa using noQuote_of_blank areBlank
    have noQuoteLeft : '"' ∉ ['\n'] := by decide
    have scanned :=
      scan_string noQuote opening (wholeOf inner).reverse position whole
    have otherScanned :=
      scan_string noQuoteLeft otherOpening (leftOf inner).reverse
      otherPosition left
    have wholeModes := goesOn _ _ (position.advance (blanks ++ ['\n']))
      (otherPosition.advance ['\n']) modes
    rw [List.append_assoc] at scanned
    rw [List.singleton_append] at scanned otherScanned
    rw [scanned, otherScanned]
    simpa using wholeModes
  · have noString : ∀ opening reversed, mode ≠ .string opening reversed :=
      fun opening reversed same => inString ⟨opening, reversed, same⟩
    rcases Mode.scan_lineFeed noString areBlank position with
      ⟨error, final, rejects⟩ | ⟨noSign, completed, place, ends, scans⟩
    · rw [rejects]
      exact .final _ final
    · have accepted := Mode.read_newline (alike.not_dispatch noSign)
        (alike.not_string noString) otherPosition
      rw [scans, scan_cons_of_ok accepted]
      have endsLine : EndsLine (.lineFeed blanks :: later) := trivial
      have tokens := alike.ends relates endsLine noString ends
      exact prepend_alike tokens (goesOn _ _ _ _ (.expression .plain))

end Stroke

/-- From two modes that are alike a text and what is left of it are cut
alike. -/
theorem scan_alike {front rest : List Stroke} {last : List Char}
    {mode other : Mode} (relates : Relates strokes strings comments)
    (here : strokes = front ++ rest) (blanksOnly : BlanksOnly rest)
    (lastBlank : ∀ character ∈ last, Text.isBlank character = true)
    (alike : Mode.Alike strokes rest mode other)
    (position otherPosition : Position) :
    OutcomeAlike (List.Forall₂ (Token.Alike strings comments))
      (mode.scan position (wholeOf rest ++ last))
        (other.scan otherPosition (leftOf rest)) := by
  induction rest generalizing front mode other position otherPosition with
  | nil => exact alike.scan_last relates lastBlank position otherPosition
  | cons stroke later inductionHypothesis =>
      have behind : strokes = (front ++ [stroke]) ++ later := by
        simpa using here
      have laterBlanks : BlanksOnly later := fun blanks member =>
        blanksOnly blanks (List.mem_cons_of_mem _ member)
      have goesOn (next otherNext : Mode) (place otherPlace : Position)
          (modes : Mode.Alike strokes later next otherNext) :=
        inductionHypothesis behind laterBlanks modes place otherPlace
      cases stroke with
      | keep character =>
          exact alike.scan_keep relates here goesOn position otherPosition
      | lineFeed blanks =>
          have areBlank := blanksOnly blanks List.mem_cons_self
          rw [Text.wholeOf_lineFeed, Text.leftOf_lineFeed, List.append_assoc,
            List.cons_append]
          exact alike.scan_lineFeed relates areBlank goesOn position
            otherPosition

theorem relates_losses (blanksOnly : BlanksOnly strokes) :
    Relates strokes Text.LosesBlanks Text.LosesEnd where
  strings := by
    rintro front inner rest rfl
    refine Text.losesBlanks_of_strokes fun blanks member => blanksOnly blanks ?_
    exact List.mem_append_left _ (List.mem_append_right _ member)
  comments {_ _ _ blanks} _ _ areBlank := ⟨blanks, areBlank, rfl⟩

/-- Where every line loses all the blanks at its end, strings and comments lose
all they can. -/
theorem relates_trimmed (blanksOnly : BlanksOnly strokes)
    (thorough : Text.Thorough strokes) :
    Relates strokes (fun text left => left = Text.trimLines text)
      (fun text left => String.ofList left =
          Text.trimEnd (String.ofList text)) where
  strings := by
    rintro front inner rest rfl
    rw [List.append_assoc] at thorough
    refine Text.leftOf_eq_trimLines (fun blanks member => blanksOnly blanks ?_)
      thorough.of_append
    exact List.mem_append_left _ (List.mem_append_right _ member)
  comments := by
    rintro front kept rest blanks rfl endsLine areBlank
    have stays : ∀ last ∈ kept.getLast?, Text.isBlank last = false := by
      intro last isLast
      obtain ⟨earlier, rfl⟩ := List.getLast?_eq_some_iff.mp isLast
      have behind : (front ++ (earlier ++ [last]).map .keep ++ rest) =
          (front ++ earlier.map .keep) ++ .keep last :: rest := by simp
      rw [behind] at thorough
      cases blank : Text.isBlank last with
      | false => rfl
      | true => exact absurd endsLine (thorough.of_append.2.1 blank)
    exact (Text.trimEnd_append stays areBlank).symm

end Strokes

end Scanner

theorem tokenize_trimEnd {lines : List String} {strokes : List Stroke}
    {last : List Char} {strings comments : List Char → List Char → Prop}
    (written : Written lines strokes last)
    (relates : Scanner.Relates strokes strings comments) :
    OutcomeAlike (List.Forall₂ (Token.Alike strings comments))
      (tokenize (Text.joinLines lines))
      (tokenize (Text.joinLines (lines.map Text.trimEnd))) := by
  rw [tokenize_eq_cut, tokenize_eq_cut, written.whole, written.left]
  have here : strokes = [] ++ strokes := rfl
  exact Scanner.scan_alike relates here written.blanksOnly written.lastBlank
    (.expression .plain)
    _ _

end LispReader
