import LispReader.Proofs.Scanning.Step

/-!
# How tokens are spelled

`Token.Spelled` says which characters make up a token, and `Token.Kind.allows`
which character may stand directly behind one. The two together decide what is
cut: a token is cut from the front of a text exactly when it is spelled there
and is followed by nothing or by what its kind allows.
-/

namespace LispReader

namespace Token

/-- The characters that a token stands for in a text. A closing delimiter is
its own text, a symbol too; strings, comments and keywords have signs that do
not belong to their text. -/
inductive Spelled : Token → List Char → Prop
  | sign {kind : Kind} {character : Char} {position : Position} :
      kind.sign? = some character →
      Spelled ⟨kind, none, position⟩ [character]
  | closer {character : Char} {position : Position} :
      character ∈ [')', ']', '}'] →
      Spelled ⟨.closeDelimiter, some (String.singleton character), position⟩
        [character]
  | string {text : String} {position : Position} :
      '"' ∉ text.toList →
      Spelled ⟨.string, some text, position⟩ ('"' :: (text.toList ++ ['"']))
  | comment {text : String} {position : Position} :
      '\n' ∉ text.toList →
      Spelled ⟨.comment, some text, position⟩ (';' :: text.toList)
  | keyword {text : String} {position : Position} :
      (∀ character ∈ text.toList, isSymbolCharacter character = true) →
      Spelled ⟨.keyword, some text, position⟩ (':' :: text.toList)
  | symbol {text : String} {position : Position} {first : Char} :
      (∀ character ∈ text.toList, isSymbolCharacter character = true) →
      text.toList.head? = some first →
      first ∉ ['^', '@', '&'] →
      Spelled ⟨.symbol, some text, position⟩ text.toList

def Kind.allows : Kind → Char → Bool
  | .comment, character => character = '\n'
  | .keyword, character => isSeparator character || isCloser character
  | .symbol, character => isSeparator character || isCloser character
  | kind, character => (Lookback.ofKind kind).permits character

/-- Whether a token of this kind may end where some characters are still to
come. -/
def Kind.endsBefore (kind : Kind) (following : List Char) : Prop :=
  ∀ first ∈ following.head?, kind.allows first = true

@[simp]
theorem Kind.endsBefore_nil (kind : Kind) : kind.endsBefore [] := by
  simp [endsBefore]

@[simp]
theorem Kind.endsBefore_cons (kind : Kind) (first : Char) (rest : List Char) :
    kind.endsBefore (first :: rest) ↔ kind.allows first = true := by
  simp [endsBefore]

theorem Kind.allows_of_sign? {kind : Kind} {character : Char}
    (sign : kind.sign? = some character) :
    kind.allows = (Lookback.ofKind kind).permits := by
  cases kind <;> cases sign <;> rfl

theorem Spelled.ne_nil {token : Token} {source : List Char}
    (spelled : token.Spelled source) :
    source ≠ [] := by
  cases spelled with
  | symbol _ first _ =>
      intro empty
      simp [empty] at first
  | _ => simp

end Token

namespace Scanner

/-- A mode that only takes in the characters of a word takes in all of it. -/
theorem scan_inside {extend : List Char → Mode} {inside : Char → Prop}
    (reads : ∀ reversed position character, inside character →
      (extend reversed).read position character = .ok
      (extend (character :: reversed), []))
    {word : List Char} (within : ∀ character ∈ word, inside character)
    (reversed : List Char) (position : Position) (following : List Char) :
    (extend reversed).scan position (word ++ following) =
      (extend (word.reverse ++ reversed)).scan (position.advance word)
        following := by
  induction word generalizing reversed position with
  | nil => rfl
  | cons character rest inductionHypothesis =>
      have accepted :=
        reads reversed position character (within character List.mem_cons_self)
      have restWithin : ∀ character ∈ rest, inside character :=
        fun character member => within character (List.mem_cons_of_mem _ member)
      rw [List.cons_append, scan_cons_of_ok accepted, prepend_nil,
        inductionHypothesis restWithin]
      simp

theorem scan_string {characters : List Char} (noQuote : '"' ∉ characters)
    (opening : Position) (reversed : List Char) (position : Position)
    (rest : List Char) :
    (Mode.string opening reversed).scan position (characters ++ rest) =
      (Mode.string opening (characters.reverse ++ reversed)).scan
        (position.advance characters) rest := by
  refine @scan_inside (.string opening) (· ≠ '"') ?_ _ ?_ reversed position rest
  · intro reversed place character other
    exact if_neg other
  · rintro character member rfl
    exact noQuote member

/-- A mode that ends its token in front of a character leaves the character to
be read between tokens. -/
theorem scan_release {mode : Mode} {following : List Char}
    (ends : ∀ position, mode.scan position [] = .ok mode.unfinished)
    (releases : ∀ first ∈ following.head?, ∀ position,
      mode.read position first =
        (readExpression .plain position first).map
          fun step => (step.1, mode.unfinished ++ step.2))
    (position : Position) :
    mode.scan position following =
      prepend mode.unfinished (cut position following) := by
  cases following with
  | nil => simp [ends]
  | cons first rest =>
      have released := releases first rfl position
      cases outcome : readExpression .plain position first with
      | error refused =>
          rw [outcome] at released
          rw [scan_cons_of_error released, cut_cons_of_error outcome,
            prepend_error]
      | ok step =>
          rw [outcome] at released
          rw [scan_cons_of_ok released, cut_cons_of_ok outcome, prepend_prepend]

/-- What ends a word is read as it is between tokens, behind the word. -/
theorem readWord_release {character : Char}
    (ends : (isSeparator character || isCloser character) = true)
    (current extended : Mode) (position : Position) :
    readWord current extended position character =
      (readExpression .plain position character).map
        fun step => (step.1, current.unfinished ++ step.2) := by
  cases closes : isCloser character with
  | true =>
      rw [readExpression_closer closes]
      simp [readWord, closes, Except.map]
  | false =>
      have separates : isSeparator character = true := by
        simpa [closes] using ends
      rw [readExpression_separator separates]
      simp [readWord, closes, separates, Except.map]

@[simp]
theorem textOf_reverse (text : String) :
    textOf text.toList.reverse = some text := by
  simp [textOf]

theorem cut_gap {gap : List Char}
    (separates : ∀ character ∈ gap, isSeparator character = true)
    (position : Position) (following : List Char) :
    cut position (gap ++ following) = cut (position.advance gap) following := by
  induction gap generalizing position with
  | nil => rfl
  | cons character rest inductionHypothesis =>
      have accepted :=
        readExpression_separator (separates character List.mem_cons_self)
          position
      have restSeparates : ∀ character ∈ rest, isSeparator character = true :=
        fun character member =>
          separates character (List.mem_cons_of_mem _ member)
      rw [List.cons_append, cut_cons_of_ok accepted, prepend_nil]
      exact inductionHypothesis restSeparates _

/-- A word is cut off as one token if what follows it ends it. -/
theorem cut_word {extend : List Char → Mode} {word : List Char}
    (reads : ∀ reversed position character,
      (extend reversed).read position character = readWord (extend reversed)
      (extend (character :: reversed)) position character)
    (ends : ∀ reversed position,
      (extend reversed).scan position [] = .ok (extend reversed).unfinished)
    (within : ∀ character ∈ word, isSymbolCharacter character = true)
    {following : List Char}
    (stops : ∀ first ∈ following.head?,
      (isSeparator first || isCloser first) = true)
    (reversed : List Char) (position : Position) :
    (extend reversed).scan position (word ++ following) =
      prepend (extend (word.reverse ++ reversed)).unfinished
        (cut (position.advance word) following) := by
  rw [scan_inside _ within]
  · refine scan_release (ends _) ?_ _
    intro first isFirst position
    rw [reads, readWord_release (stops first isFirst)]
  · intro reversed position character inSymbol
    rw [reads, readWord_of_isSymbolCharacter inSymbol]

/-- A token that is spelled out in front of a text is cut off it, if it may end
there. -/
theorem cut_token {token : Token} {source following : List Char}
    (spelled : token.Spelled source) (ends : token.kind.endsBefore following) :
    cut token.position (source ++ following) =
      prepend [token] (cut (token.position.advance source) following) := by
  cases spelled with
  | @sign kind character position sign =>
      have permitted : ∀ first ∈ following.head?,
          (Lookback.ofKind kind).permits first = true := by
        rw [← Token.Kind.allows_of_sign? sign]
        exact ends
      rw [List.singleton_append,
        cut_cons_of_ok (readExpression_sign sign position),
        scan_expression_of_permits permitted]
      rfl
  | @closer character position closes =>
      rw [← isCloser_iff] at closes
      rw [List.singleton_append,
        cut_cons_of_ok (readExpression_closer closes position)]
      rfl
  | @string text position absent =>
      have opened : readExpression .plain position '"' =
          .ok (.string position [], []) := rfl
      have closed : ∀ reversed here,
          (Mode.string position reversed).read here '"' =
            .ok (.expression .plain, [⟨.string, textOf reversed, position⟩]) :=
        fun _ _ => rfl
      rw [List.cons_append, List.append_assoc, List.singleton_append,
        cut_cons_of_ok opened, prepend_nil, scan_string absent,
        scan_cons_of_ok (closed _ _)]
      simp [cut]
  | @comment text position absent =>
      have within : ∀ character ∈ text.toList, character ≠ '\n' := by
        rintro character member rfl
        exact absent member
      have opened : readExpression .plain position ';' =
          .ok (.comment position [], []) := rfl
      rw [List.cons_append, cut_cons_of_ok opened, prepend_nil,
        scan_inside _ within, scan_release (fun _ => rfl)]
      · simp [Mode.unfinished]
      · intro first isFirst here
        have lineFeed : first = '\n' := by
          simpa [Token.Kind.allows] using ends first isFirst
        subst lineFeed
        rfl
      · intro reversed here character inside
        exact if_neg inside
  | @keyword text position within =>
      have opened : readExpression .plain position ':' =
          .ok (.keyword position [], []) := rfl
      rw [List.cons_append, cut_cons_of_ok opened, prepend_nil,
        cut_word (fun _ _ _ => rfl) (fun _ _ => rfl) within ends]
      simp [Mode.unfinished]
  | @symbol text position first within isFirst notSign =>
      obtain ⟨rest, split⟩ := List.head?_eq_some_iff.mp isFirst
      have restWithin :
          ∀ character ∈ rest, isSymbolCharacter character = true :=
        fun character member =>
          within character (split ▸ List.mem_cons_of_mem _ member)
      have opened := readExpression_symbol
        (within first (split ▸ List.mem_cons_self)) notSign position
      have text_eq : textOf (rest.reverse ++ [first]) = some text := by
        rw [← textOf_reverse text, split, List.reverse_cons]
      rw [split, List.cons_append, cut_cons_of_ok opened, prepend_nil,
        cut_word (fun _ _ _ => rfl) (fun _ _ => rfl) restWithin ends]
      simp [Mode.unfinished, text_eq]

/-! ## What was cut -/

theorem exists_split (inside : Char → Bool) (characters : List Char) :
    ∃ word following, characters = word ++ following ∧
      (∀ character ∈ word, inside character = true) ∧
      ∀ first ∈ following.head?, inside first = false := by
  refine ⟨characters.takeWhile inside, characters.dropWhile inside,
    List.takeWhile_append_dropWhile.symm, ?_, ?_⟩
  · exact List.all_eq_true.mp List.all_takeWhile
  · intro first isFirst
    have stopped := List.head?_dropWhile_not inside characters
    rw [isFirst] at stopped
    simpa using stopped

/-- Inside a word a scanner has read the rest of the word before all else. -/
theorem exists_word_of_scan {extend : List Char → Mode}
    (reads : ∀ reversed position character,
      (extend reversed).read position character = readWord (extend reversed)
      (extend (character :: reversed)) position character)
    {reversed characters : List Char} {position : Position}
    {tokens : List Token}
    (success : (extend reversed).scan position characters = .ok tokens) :
    ∃ word following, characters = word ++ following ∧
      (∀ character ∈ word, isSymbolCharacter character = true) ∧
      ∀ first ∈ following.head?,
        (isSeparator first || isCloser first) = true := by
  obtain ⟨word, following, rfl, within, outside⟩ :=
    exists_split isSymbolCharacter characters
  refine ⟨word, following, rfl, within, ?_⟩
  rintro first isFirst
  obtain ⟨rest, rfl⟩ := List.head?_eq_some_iff.mp isFirst
  rw [scan_inside _ within] at success
  · cases ends : (isSeparator first || isCloser first) with
    | true => rfl
    | false =>
        have notSymbol := outside first isFirst
        rw [Bool.or_eq_false_iff] at ends
        have rejected :
            (extend (word.reverse ++ reversed)).read
              (position.advance word) first =
            .error
              (.invalidCharacter first .symbol (position.advance word)) := by
          rw [reads]
          simp [readWord, ends, notSymbol]
        rw [scan_cons_of_error rejected] at success
        cases success
  · intro reversed position character inSymbol
    rw [reads, readWord_of_isSymbolCharacter inSymbol]

theorem exists_string_of_scan {opening position : Position}
    {reversed characters : List Char} {tokens : List Token}
    (success : (Mode.string opening reversed).scan position characters =
      .ok tokens) :
    ∃ text following, characters = text ++ '"' :: following ∧ '"' ∉ text := by
  obtain ⟨text, following, rfl, within, outside⟩ :=
    exists_split (fun character => character ≠ '"') characters
  have absent : '"' ∉ text := fun member => by simpa using within '"' member
  cases following with
  | nil =>
      rw [scan_string absent] at success
      cases success
  | cons first rest =>
      have quote : first = '"' := by
        simpa using outside first rfl
      exact ⟨text, rest, by rw [quote], absent⟩

/-- Where cutting succeeds and no separator stands, a token is spelled out and
may end. -/
theorem exists_spelled_of_cut {position : Position} {first : Char}
    {rest : List Char} {tokens : List Token}
    (success : cut position (first :: rest) = .ok tokens)
    (notSeparator : isSeparator first = false) :
    ∃ (token : Token) (source following : List Char),
      token.position = position ∧ token.Spelled source ∧
        first :: rest = source ++ following ∧
          token.kind.endsBefore following := by
  cases outcome : readExpression .plain position first with
  | error refused =>
      rw [cut_cons_of_error outcome] at success
      cases success
  | ok step =>
      obtain ⟨next, completed⟩ := step
      rw [cut_cons_of_ok outcome] at success
      obtain ⟨later, scanned, -⟩ := prepend_eq_ok success
      cases begins_of_readExpression outcome with
      | @sign kind _ sign =>
          refine ⟨⟨kind, none, position⟩, [first], rest, rfl, .sign sign,
            rfl, ?_⟩
          intro next isNext
          rw [Token.Kind.allows_of_sign? sign]
          exact permits_of_scan_expression scanned next isNext
      | closer closes =>
          exact ⟨Token.closer first position, [first], rest, rfl,
            .closer ((isCloser_iff first).mp closes), rfl, fun _ _ => rfl⟩
      | string =>
          obtain ⟨text, following, rfl, absent⟩ := exists_string_of_scan scanned
          exact ⟨⟨.string, some (String.ofList text), position⟩, _,
            following, rfl, .string (by simpa using absent), by
            simp, fun _ _ => rfl⟩
      | comment =>
          obtain ⟨text, following, rfl, within, outside⟩ :=
            exists_split (fun character => character ≠ '\n') rest
          have absent : '\n' ∉ text := fun member => by
            simpa using within '\n' member
          refine ⟨⟨.comment, some (String.ofList text), position⟩, _,
            following, rfl, .comment (by simpa using absent), by simp, ?_⟩
          intro next isNext
          simpa [Token.Kind.allows] using outside next isNext
      | keyword =>
          obtain ⟨word, following, rfl, within, stops⟩ :=
            exists_word_of_scan (fun _ _ _ => rfl) scanned
          exact ⟨⟨.keyword, some (String.ofList word), position⟩, _,
            following, rfl, .keyword (by simpa using within), by simp, stops⟩
      | symbol inSymbol notSign =>
          obtain ⟨word, following, rfl, within, stops⟩ :=
            exists_word_of_scan (fun _ _ _ => rfl) scanned
          have inside :
              ∀ character ∈ first :: word, isSymbolCharacter character = true :=
            List.forall_mem_cons.mpr ⟨inSymbol, within⟩
          exact ⟨⟨.symbol, some (String.ofList (first :: word)), position⟩, _,
            following, rfl, .symbol (by simpa using inside) (by simp) notSign,
            by simp, stops⟩
      | separator separates =>
          rw [separates] at notSeparator
          cases notSeparator

/-- Where cutting succeeds, either a separator is passed over or a token is cut
off. -/
theorem cut_cons_cases {position : Position} {first : Char} {rest : List Char}
    {tokens : List Token}
    (success : cut position (first :: rest) = .ok tokens) :
    (isSeparator first = true ∧ cut (position.after first) rest = .ok tokens) ∨
      ∃ (token : Token) (source following : List Char) (later : List Token),
        token.position = position ∧ token.Spelled source ∧
          first :: rest = source ++ following ∧
            token.kind.endsBefore following ∧
          tokens = token :: later ∧
            cut (position.advance source) following = .ok later := by
  cases separates : isSeparator first with
  | true =>
      rw [cut_cons_of_ok (readExpression_separator separates position),
        prepend_nil] at success
      exact .inl ⟨rfl, success⟩
  | false =>
      obtain ⟨token, source, following, rfl, spelled, split, ends⟩ :=
        exists_spelled_of_cut success separates
      rw [split, cut_token spelled ends] at success
      obtain ⟨later, cutLater, rfl⟩ := prepend_eq_ok success
      exact .inr ⟨token, source, following, later, rfl, spelled, split, ends,
        rfl, cutLater⟩

end Scanner

theorem Token.Spelled.of_sign {token : Token} {source : List Char}
    {character : Char} (spelled : token.Spelled source)
    (sign : token.kind.sign? = some character) :
    source = [character] ∧ token.text = none := by
  cases spelled with
  | sign other =>
      rw [Option.some.inj (sign.symm.trans other)]
      exact ⟨rfl, rfl⟩
  | _ => cases sign

theorem Token.Spelled.exists_closer {token : Token} {source : List Char}
    (spelled : token.Spelled source) (closes : token.kind = .closeDelimiter) :
    ∃ shape, isCloser shape = true ∧ source = [shape] ∧
      token = .closer shape token.position := by
  cases spelled with
  | @closer character position isShape =>
      exact ⟨character, (Scanner.isCloser_iff character).mpr isShape, rfl, rfl⟩
  | @sign kind character position sign =>
      cases closes
      cases sign
  | _ => cases closes

end LispReader
