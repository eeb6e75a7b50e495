import LispReader.Proofs.Scanning.Run

/-!
# What a character does

A scanner takes a character in one of few ways. `Mode.Takes` says which
characters a mode takes, where they lead and which tokens they complete, and
`Begins` says it for characters between tokens. Main statement:
`Mode.read_eq_ok_iff`.
-/

namespace LispReader

namespace Token

def Kind.sign? : Kind → Option Char
  | .dispatch => some '#'
  | .metadata => some '^'
  | .quote => some '\''
  | .deref => some '@'
  | .rest => some '&'
  | .openParen => some '('
  | .openBracket => some '['
  | .openBrace => some '{'
  | _ => none

theorem Kind.sign?_of_signKind? {kind : Kind} {character : Char}
    (found : signKind? character = some kind) :
    kind.sign? = some character := by
  unfold signKind? at found
  split at found <;> cases found <;> rfl

end Token

namespace Scanner

theorem isCloser_iff (character : Char) :
    isCloser character = true ↔ character ∈ [')', ']', '}'] := by
  simp [isCloser, or_comm, or_left_comm]

theorem readExpression_sign {kind : Token.Kind} {character : Char}
    (sign : kind.sign? = some character) (position : Position) :
    readExpression .plain position character =
      .ok (.expression (.ofKind kind), [⟨kind, none, position⟩]) := by
  cases kind <;> cases sign <;> rfl

theorem readExpression_closer {character : Char}
    (closes : isCloser character = true) (position : Position) :
    readExpression .plain position character =
      .ok (.expression .plain, [Token.closer character position]) := by
  rw [isCloser_iff] at closes
  simp only [List.mem_cons, List.not_mem_nil, or_false] at closes
  rcases closes with rfl | rfl | rfl <;> rfl

theorem readExpression_separator {character : Char}
    (separates : isSeparator character = true) (position : Position) :
    readExpression .plain position character =
      .ok (.expression .plain, []) := by
  simp only [isSeparator, Bool.or_eq_true, decide_eq_true_eq] at separates
  rcases separates with ((rfl | rfl) | rfl) | rfl <;> rfl

theorem not_mem_delimiters_of_isSymbolCharacter {character : Char}
    (inSymbol : isSymbolCharacter character = true) :
    character ∉ delimiters := by
  intro member
  simp [isSymbolCharacter, member] at inSymbol

theorem isSeparator_of_isSymbolCharacter {character : Char}
    (inSymbol : isSymbolCharacter character = true) :
    isSeparator character = false := by
  cases separates : isSeparator character with
  | false => rfl
  | true =>
      simp only [isSeparator, Bool.or_eq_true, decide_eq_true_eq] at separates
      rcases separates with ((rfl | rfl) | rfl) | rfl <;>
        revert inSymbol <;> decide

theorem isCloser_of_isSeparator {character : Char}
    (separates : isSeparator character = true) :
    isCloser character = false := by
  simp only [isSeparator, Bool.or_eq_true, decide_eq_true_eq] at separates
  rcases separates with ((rfl | rfl) | rfl) | rfl <;> rfl

theorem isCloser_of_isSymbolCharacter {character : Char}
    (inSymbol : isSymbolCharacter character = true) :
    isCloser character = false := by
  have absent := not_mem_delimiters_of_isSymbolCharacter inSymbol
  simp only [delimiters, List.mem_cons, List.not_mem_nil, or_false,
    not_or] at absent
  simp [isCloser, absent]

theorem readExpression_symbol {character : Char}
    (inSymbol : isSymbolCharacter character = true)
    (notSign : character ∉ ['^', '@', '&']) (position : Position) :
    readExpression .plain position character =
      .ok (.symbol position [character], []) := by
  have absent := not_mem_delimiters_of_isSymbolCharacter inSymbol
  have noCloser := isCloser_of_isSymbolCharacter inSymbol
  simp only [delimiters, List.mem_cons, List.not_mem_nil, or_false,
    not_or] at absent notSign
  have noSign : signKind? character = none := by
    unfold signKind?
    split <;> simp_all
  simp [readExpression, noSign, noCloser, absent, inSymbol]

/-- Which characters may stand between tokens, where they lead and which token
they are. -/
inductive Begins (position : Position) : Char → Mode → List Token → Prop
  | sign {kind : Token.Kind} {character : Char} :
      kind.sign? = some character →
      Begins position character (.expression (.ofKind kind))
        [⟨kind, none, position⟩]
  | closer {character : Char} :
      isCloser character = true →
      Begins position character (.expression .plain)
        [Token.closer character position]
  | string : Begins position '"' (.string position []) []
  | comment : Begins position ';' (.comment position []) []
  | keyword : Begins position ':' (.keyword position []) []
  | symbol {character : Char} :
      isSymbolCharacter character = true →
      character ∉ ['^', '@', '&'] →
      Begins position character (.symbol position [character]) []
  | separator {character : Char} :
      isSeparator character = true →
      Begins position character (.expression .plain) []

/-- What a scanner does between tokens is one of the ways to begin a token. -/
theorem begins_of_readExpression {position : Position} {character : Char}
    {next : Mode} {completed : List Token}
    (accepted : readExpression .plain position character =
      .ok (next, completed)) :
    Begins position character next completed := by
  cases found : signKind? character with
  | some kind =>
      have sign := Token.Kind.sign?_of_signKind? found
      rw [readExpression_sign sign] at accepted
      cases accepted
      exact .sign sign
  | none =>
      have notSign : character ∉ ['^', '@', '&'] := by
        simp only [List.mem_cons, List.not_mem_nil, or_false]
        rintro (rfl | rfl | rfl) <;> cases found
      simp only [readExpression, reduceCtorEq, false_and, if_false,
        found] at accepted
      by_cases closes : isCloser character = true
      · rw [if_pos closes] at accepted
        cases accepted
        exact .closer closes
      rw [if_neg closes] at accepted
      by_cases quote : character = '"'
      · rw [if_pos quote] at accepted
        cases accepted
        exact quote ▸ .string
      rw [if_neg quote] at accepted
      by_cases semicolon : character = ';'
      · rw [if_pos semicolon] at accepted
        cases accepted
        exact semicolon ▸ .comment
      rw [if_neg semicolon] at accepted
      by_cases colon : character = ':'
      · rw [if_pos colon] at accepted
        cases accepted
        exact colon ▸ .keyword
      rw [if_neg colon] at accepted
      by_cases inSymbol : isSymbolCharacter character = true
      · rw [if_pos inSymbol] at accepted
        cases accepted
        exact .symbol inSymbol notSign
      rw [if_neg inSymbol] at accepted
      split at accepted
      · rename_i separates
        cases accepted
        exact .separator separates
      · cases accepted

theorem readExpression_eq_ok_iff {before : Lookback} {position : Position}
    {character : Char} {next : Mode} {completed : List Token} :
    readExpression before position character = .ok (next, completed) ↔
      before.permits character = true ∧
        Begins position character next completed := by
  cases permitted : before.permits character with
  | false =>
      obtain ⟨refused, rejected⟩ :=
        readExpression_of_not_permits permitted position
      simp [rejected]
  | true =>
      rw [readExpression_of_permits permitted]
      refine ⟨fun accepted => ⟨rfl, begins_of_readExpression accepted⟩, ?_⟩
      rintro ⟨-, begins⟩
      cases begins with
      | sign sign => exact readExpression_sign sign position
      | closer closes => exact readExpression_closer closes position
      | string | comment | keyword => rfl
      | symbol inSymbol notSign =>
          exact readExpression_symbol inSymbol notSign position
      | separator separates => exact readExpression_separator separates position

/-- Which characters a mode takes, where they lead and which tokens they
complete. -/
inductive Mode.Takes (position : Position) : Mode → Char → Mode →
    List Token → Prop
  | between {before : Lookback} {character : Char} {next : Mode}
      {completed : List Token} :
      before.permits character = true →
      Begins position character next completed →
      Takes position (.expression before) character next completed
  | inString {opening : Position} {reversed : List Char} {character : Char} :
      character ≠ '"' →
      Takes position (.string opening reversed) character
        (.string opening (character :: reversed)) []
  | endsString {opening : Position} {reversed : List Char} :
      Takes position (.string opening reversed) '"' (.expression .plain)
        [⟨.string, textOf reversed, opening⟩]
  | inComment {opening : Position} {reversed : List Char} {character : Char} :
      character ≠ '\n' →
      Takes position (.comment opening reversed) character
        (.comment opening (character :: reversed)) []
  | endsComment {opening : Position} {reversed : List Char} :
      Takes position (.comment opening reversed) '\n' (.expression .plain)
        [⟨.comment, textOf reversed, opening⟩]
  | inKeyword {opening : Position} {reversed : List Char} {character : Char} :
      isSymbolCharacter character = true →
      Takes position (.keyword opening reversed) character
        (.keyword opening (character :: reversed)) []
  | inSymbol {opening : Position} {reversed : List Char} {character : Char} :
      isSymbolCharacter character = true →
      Takes position (.symbol opening reversed) character
        (.symbol opening (character :: reversed)) []
  | closesKeyword {opening : Position} {reversed : List Char}
      {character : Char} :
      isCloser character = true →
      Takes position (.keyword opening reversed) character (.expression .plain)
        [⟨.keyword, textOf reversed, opening⟩, Token.closer character position]
  | closesSymbol {opening : Position} {reversed : List Char}
      {character : Char} :
      isCloser character = true →
      Takes position (.symbol opening reversed) character (.expression .plain)
        [⟨.symbol, textOf reversed, opening⟩, Token.closer character position]
  | endsKeyword {opening : Position} {reversed : List Char} {character : Char} :
      isSeparator character = true →
      Takes position (.keyword opening reversed) character (.expression .plain)
        [⟨.keyword, textOf reversed, opening⟩]
  | endsSymbol {opening : Position} {reversed : List Char} {character : Char} :
      isSeparator character = true →
      Takes position (.symbol opening reversed) character (.expression .plain)
        [⟨.symbol, textOf reversed, opening⟩]

theorem readWord_of_isSymbolCharacter {character : Char}
    (inSymbol : isSymbolCharacter character = true) (current extended : Mode)
    (position : Position) :
    readWord current extended position character = .ok (extended, []) := by
  simp [readWord, isCloser_of_isSymbolCharacter inSymbol,
    isSeparator_of_isSymbolCharacter inSymbol, inSymbol]

/-- A character behind a word closes a collection, separates, or belongs to the
word. -/
theorem readWord_cases {current extended next : Mode} {position : Position}
    {character : Char} {completed : List Token}
    (accepted : readWord current extended position character =
      .ok (next, completed)) :
    (isCloser character = true ∧ next = .expression .plain ∧
      completed = current.unfinished ++ [Token.closer character position]) ∨
    (isSeparator character = true ∧ next = .expression .plain ∧
        completed = current.unfinished) ∨
    isSymbolCharacter character = true ∧ next = extended ∧ completed = [] := by
  unfold readWord at accepted
  by_cases closes : isCloser character = true
  · rw [if_pos closes] at accepted
    cases accepted
    exact .inl ⟨closes, rfl, rfl⟩
  rw [if_neg closes] at accepted
  by_cases separates : isSeparator character = true
  · rw [if_pos separates] at accepted
    cases accepted
    exact .inr (.inl ⟨separates, rfl, rfl⟩)
  rw [if_neg separates] at accepted
  by_cases inSymbol : isSymbolCharacter character = true
  · rw [if_pos inSymbol] at accepted
    cases accepted
    exact .inr (.inr ⟨inSymbol, rfl, rfl⟩)
  · rw [if_neg inSymbol] at accepted
    cases accepted

/-- What a scanner does with a character is one of the ways to take it. -/
theorem Mode.takes_of_read {mode next : Mode} {position : Position}
    {character : Char} {completed : List Token}
    (accepted : mode.read position character = .ok (next, completed)) :
    mode.Takes position character next completed := by
  cases mode with
  | expression before =>
      obtain ⟨permitted, begins⟩ := readExpression_eq_ok_iff.mp accepted
      exact .between permitted begins
  | string opening reversed =>
      simp only [Mode.read] at accepted
      split at accepted
      · rename_i quote
        cases accepted
        exact quote ▸ .endsString
      · rename_i other
        cases accepted
        exact .inString other
  | comment opening reversed =>
      simp only [Mode.read] at accepted
      split at accepted
      · rename_i lineFeed
        cases accepted
        exact lineFeed ▸ .endsComment
      · rename_i other
        cases accepted
        exact .inComment other
  | keyword opening reversed =>
      rcases readWord_cases accepted with
        ⟨closes, rfl, rfl⟩ | ⟨separates, rfl, rfl⟩ | ⟨inSymbol, rfl, rfl⟩
      · exact .closesKeyword closes
      · exact .endsKeyword separates
      · exact .inKeyword inSymbol
  | symbol opening reversed =>
      rcases readWord_cases accepted with
        ⟨closes, rfl, rfl⟩ | ⟨separates, rfl, rfl⟩ | ⟨inSymbol, rfl, rfl⟩
      · exact .closesSymbol closes
      · exact .endsSymbol separates
      · exact .inSymbol inSymbol

/-- A scanner takes a character in exactly these ways, on which later proofs
split. -/
theorem Mode.read_eq_ok_iff {mode next : Mode} {position : Position}
    {character : Char} {completed : List Token} :
    mode.read position character = .ok (next, completed) ↔
      mode.Takes position character next completed := by
  refine ⟨Mode.takes_of_read, fun takes => ?_⟩
  cases takes with
  | between permitted begins =>
      exact readExpression_eq_ok_iff.mpr ⟨permitted, begins⟩
  | inString other | inComment other => exact if_neg other
  | endsString | endsComment => rfl
  | inKeyword inside | inSymbol inside =>
      exact readWord_of_isSymbolCharacter inside _ _ _
  | closesKeyword closes | closesSymbol closes =>
      simp [Mode.read, readWord, closes, unfinished]
  | endsKeyword separates | endsSymbol separates =>
      have noCloser := isCloser_of_isSeparator separates
      simp [Mode.read, readWord, noCloser, separates, unfinished]

end Scanner

end LispReader
