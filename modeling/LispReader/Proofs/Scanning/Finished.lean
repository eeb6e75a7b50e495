import LispReader.Proofs.Scanning.Failure

/-!
# Tokens finished so far

A scanner on its way has finished the tokens of the characters up to some
place. What it took behind that place begins one more token, or is nothing when
it is between tokens. Where cutting fails, this tells which tokens were
finished before. Main statement: `stopsBehind_of_scan`.
-/

namespace LispReader.Scanner

/-- The characters of the token that a scanner is in the middle of. -/
def Mode.begun : Mode → List Char
  | .expression _ => []
  | .string _ reversed => '"' :: reversed.reverse
  | .comment _ reversed => ';' :: reversed.reverse
  | .keyword _ reversed => ':' :: reversed.reverse
  | .symbol _ reversed => reversed.reverse

/-- Whether the characters of the token that a scanner is in the middle of may
stand in it. -/
def Mode.Sound : Mode → Prop
  | .expression _ => True
  | .string _ reversed => '"' ∉ reversed
  | .comment _ reversed => '\n' ∉ reversed
  | .keyword _ reversed =>
      ∀ character ∈ reversed, isSymbolCharacter character = true
  | .symbol _ reversed =>
      (∀ character ∈ reversed, isSymbolCharacter character = true) ∧
        ∃ first ∈ reversed.getLast?, first ∉ ['^', '@', '&']

/-- A token that its own end does not belong to is spelled by the characters
that have begun it. -/
theorem Mode.Sound.spelled {mode : Mode} (sound : mode.Sound) :
    ∀ token ∈ mode.unfinished, token.kind ≠ .string →
      token.Spelled mode.begun := by
  intro token member noString
  cases mode with
  | expression sign => cases member
  | string opening reversed =>
      rw [List.mem_singleton.mp member] at noString
      exact absurd rfl noString
  | comment opening reversed =>
      rw [List.mem_singleton.mp member]
      have spelled :=
        @Token.Spelled.comment (String.ofList reversed.reverse) opening
      rw [String.toList_ofList] at spelled
      exact spelled fun lineFeed => sound (List.mem_reverse.mp lineFeed)
  | keyword opening reversed =>
      rw [List.mem_singleton.mp member]
      have spelled :=
        @Token.Spelled.keyword (String.ofList reversed.reverse) opening
      rw [String.toList_ofList] at spelled
      exact spelled fun character within =>
        sound character (List.mem_reverse.mp within)
  | symbol opening reversed =>
      rw [List.mem_singleton.mp member]
      obtain ⟨inSymbol, first, isFirst, noSign⟩ := sound
      have spelled :=
        @Token.Spelled.symbol (String.ofList reversed.reverse) opening first
      rw [String.toList_ofList, List.head?_reverse] at spelled
      exact spelled (fun character within =>
        inSymbol character (List.mem_reverse.mp within))
        isFirst noSign

theorem Begins.sound {position : Position} {character : Char} {next : Mode}
    {completed : List Token}
    (begins : Begins position character next completed) :
    (∃ sign, next = .expression sign) ∨
      completed = [] ∧ next.begun = [character] ∧ next.Sound := by
  cases begins with
  | sign _ | closer _ | separator _ => exact .inl ⟨_, rfl⟩
  | string | comment => exact .inr ⟨rfl, rfl, List.not_mem_nil⟩
  | keyword => exact .inr ⟨rfl, rfl, nofun⟩
  | symbol inSymbol notSign =>
      exact .inr ⟨rfl, rfl, List.forall_mem_singleton.mpr inSymbol, character,
        rfl, notSign⟩

/-- A character that leaves a scanner in the middle of a token belongs to this
token, and no other token is completed with it. -/
theorem Mode.begun_of_read {mode next : Mode} {position : Position}
    {character : Char} {completed : List Token}
    (accepted : mode.read position character = .ok (next, completed))
    (sound : mode.Sound) :
    (∃ sign, next = .expression sign) ∨
      completed = [] ∧ next.begun = mode.begun ++ [character] ∧ next.Sound := by
  cases Mode.read_eq_ok_iff.mp accepted with
  | between _ begins => exact begins.sound
  | inString other | inComment other =>
      exact .inr ⟨rfl, by
        simp [begun], List.not_mem_cons_of_ne_of_not_mem (Ne.symm other) sound⟩
  | inKeyword inSymbol =>
      exact .inr ⟨rfl, by
        simp [begun], List.forall_mem_cons.mpr ⟨inSymbol, sound⟩⟩
  | inSymbol inSymbol =>
      obtain ⟨within, first, isFirst, noSign⟩ := sound
      refine .inr ⟨rfl, by
        simp [begun], List.forall_mem_cons.mpr ⟨inSymbol, within⟩, first, ?_,
        noSign⟩
      rw [List.getLast?_cons, isFirst]
      rfl
  | endsString | endsComment | closesKeyword _ | closesSymbol _ | endsKeyword _
    | endsSymbol _ =>
      exact .inl ⟨_, rfl⟩

/-- Whether a scanner that took these characters is between tokens and has
finished these. -/
def Finishes (characters : List Char) (tokens : List Token) : Prop :=
  BetweenTokens characters ∧ cut .start characters = .ok tokens

theorem finishes_of_feed {characters : List Char} {reached : Scanner}
    {sign : Lookback}
    (accepted : feed Scanner.read start characters = (reached, none))
    (between : reached.mode = .expression sign) :
    Finishes characters reached.tokens := by
  refine ⟨⟨reached, sign, accepted, between⟩, ?_⟩
  rw [cut_start, accepted]
  simp [conclude, endError?, between, Mode.unfinished]

/-- The tokens that a scanner has finished are those of all characters but the
ones of the token that it is in the middle of. -/
theorem exists_finishes_of_feed {characters : List Char} {reached : Scanner}
    (accepted : feed Scanner.read start characters = (reached, none)) :
    ∃ front, characters = front ++ reached.mode.begun ∧
      Finishes front reached.tokens ∧
      reached.mode.Sound := by
  refine feed_induction
    (motive := fun earlier scanner => ∃ front, earlier =
        front ++ scanner.mode.begun ∧
      Finishes front scanner.tokens ∧ scanner.mode.Sound) ?_ ?_ accepted
  · exact ⟨[], rfl, finishes_of_feed rfl rfl, trivial⟩
  · rintro earlier scanner last next before ⟨front, split, finishes,
      sound⟩ taken
    have longer : feed Scanner.read start (earlier ++ [last]) = (next, none) :=
      feed_append_eq_none_iff.mpr ⟨scanner, before,
          feed_singleton_eq_none_iff.mpr taken⟩
    obtain ⟨mode, completed, stepped, rfl⟩ := exists_step_of_read taken
    rcases Mode.begun_of_read stepped sound with
      ⟨sign, rfl⟩ | ⟨rfl, begun, stillSound⟩
    · exact ⟨earlier ++ [last], by
        simp [Mode.begun], finishes_of_feed longer rfl, trivial⟩
    · exact ⟨front, by simp [split, begun], finishes, stillSound⟩

/-- Whether cutting these characters fails with an error when exactly these
tokens are finished. -/
inductive StopsBehind (characters : List Char) (finished : List Token) :
    ReadError → Prop
  /-- The character refused stands between tokens, behind those that are
  finished. -/
  | between {before after : List Char} {character : Char} {setting : Setting} :
      characters = before ++ character :: after →
      Finishes before finished →
      StopsBehind characters finished
        (.invalidCharacter character setting (.following before))
  /-- The character refused stands directly behind a keyword or a symbol, which
  is not finished. -/
  | word {front source after : List Char} {character : Char} {word : Token} :
      characters = front ++ source ++ character :: after →
      Finishes front finished →
      word.kind ∈ [.keyword, .symbol] →
      word.Spelled source →
      StopsBehind characters finished
        (.invalidCharacter character .symbol (.following (front ++ source)))
  /-- The characters end in a string, which is not finished. -/
  | string {front inside : List Char} :
      characters = front ++ '"' :: inside →
      Finishes front finished →
      '"' ∉ inside →
      StopsBehind characters finished
        (.invalidCharacter '"' .string (.following front))

/-- A character is refused between tokens or in a word. -/
theorem Mode.read_error_cases {mode : Mode} {position : Position}
    {character : Char} {error : ReadError}
    (rejected : mode.read position character = .error error) :
    (∃ sign, mode = .expression sign) ∨
      ∃ word, word ∈ mode.unfinished ∧ word.kind ∈ [.keyword, .symbol] ∧
        error = .invalidCharacter character .symbol position := by
  cases mode with
  | expression sign => exact .inl ⟨sign, rfl⟩
  | string opening reversed | comment opening reversed =>
      simp only [Mode.read] at rejected
      split at rejected <;> cases rejected
  | keyword opening reversed | symbol opening reversed =>
      exact .inr ⟨_, List.mem_singleton_self _, by
        simp, readWord_error rejected⟩

/-- A scanner that is stopped by a character has finished the tokens before
it. -/
theorem stopsBehind_of_refused {characters : List Char} {reached : Scanner}
    {error : ReadError}
    (stopped : feed Scanner.read start characters = (reached, some error)) :
    StopsBehind characters reached.tokens error := by
  obtain ⟨before, character, after, whole, accepted, rejected⟩ :=
    exists_of_feed_eq_some stopped
  obtain ⟨front, split, finishes, sound⟩ := exists_finishes_of_feed accepted
  have place : reached.position = .following before := by
    rw [position_of_feed accepted, Position.advance_start]
  have refused := refused_of_read rejected
  rw [place] at refused
  rcases Mode.read_error_cases refused with
    ⟨sign, between⟩ | ⟨word, member, isWord, rfl⟩
  · obtain ⟨setting, -, rfl⟩ := Mode.read_error refused
    rw [between, Mode.begun, List.append_nil] at split
    exact .between whole (split ▸ finishes)
  · have noString : word.kind ≠ .string := by
      intro isString
      rw [isString] at isWord
      revert isWord
      decide
    rw [split] at whole ⊢
    exact .word whole finishes isWord (sound.spelled word member noString)

theorem stopsBehind_of_endError? {characters : List Char} {reached : Scanner}
    {error : ReadError}
    (accepted : feed Scanner.read start characters = (reached, none))
    (ended : reached.endError? = some error) :
    StopsBehind characters reached.tokens error := by
  obtain ⟨front, split, finishes, sound⟩ := exists_finishes_of_feed accepted
  cases inString : reached.mode with
  | string opening inside =>
      simp only [endError?, inString, Option.some.injEq] at ended
      subst ended
      rw [inString] at split sound
      obtain ⟨before, whole, -, -, rfl⟩ :=
        endsInString_of_feed accepted opening inside inString
      have same : front = before :=
        List.append_cancel_right (split.symm.trans whole)
      subst same
      exact .string split finishes fun member =>
        sound (List.mem_reverse.mp member)
  | _ => simp [endError?, inString] at ended

/-- Where scanning fails, the tokens it has completed are those that are
finished there. -/
theorem stopsBehind_of_scan {characters : List Char} {error : ReadError}
    (failed : (Scan.ofChars characters).error? = some error) :
    StopsBehind characters (Scan.ofChars characters).tokens error := by
  unfold Scan.ofChars at failed ⊢
  rcases outcome : feed Scanner.read start characters with
    ⟨reached, _ | refused⟩
  · rw [outcome] at failed
    cases ended : reached.endError? with
    | none => simp [ended] at failed
    | some unfinished =>
        simp only [ended, Option.some.injEq] at failed ⊢
        subst failed
        exact stopsBehind_of_endError? outcome ended
  · rw [outcome] at failed
    cases failed
    exact stopsBehind_of_refused outcome

end LispReader.Scanner
