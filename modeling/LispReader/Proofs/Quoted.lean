import LispReader.Text.Quoted

/-!
# Quoted texts read back

When two texts that begin with a quoted text are equal, what is quoted is equal
and so is what follows. Each character between the quotes tells where its
writing ends, and a quote ends them all. Main statement: `quoted_append_inj`.
-/

namespace LispReader.Text

universe u

/-- Whether no text begins both with this value as it is written and with
another one of the values, and what is behind it is therefore settled too. -/
def SelfDelimiting {value : Type u} (write : value → String)
    (among : value → Prop) (item : value) : Prop :=
  ∀ other, among other → ∀ rest otherRest,
    write item ++ rest = write other ++ otherRest → item = other ∧
      rest = otherRest

/-- Items that tell where they end are told by what is behind the last of them,
if no item looks like it. -/
theorem join_append_inj {value : Type u} {write : value → String}
    {among : value → Prop} {items others : List value}
    {ending rest otherRest : String}
    (inside : ∀ item ∈ items, SelfDelimiting write among item)
    (othersHold : ∀ other ∈ others, among other)
    (unlike : ∀ item front back, write item ++ front ≠ ending ++ back)
    (same : String.join (items.map write) ++ (ending ++ rest) =
      String.join (others.map write) ++ (ending ++ otherRest)) :
    items = others ∧ rest = otherRest := by
  induction items generalizing others with
  | nil =>
      cases others with
      | nil =>
          refine ⟨rfl, ?_⟩
          simpa only [List.map_nil, String.append_right_inj] using same
      | cons other otherLater =>
          rw [List.map_nil, List.map_cons, String.join_nil, String.join_cons,
            String.empty_append, String.append_assoc] at same
          exact absurd same.symm (unlike other _ _)
  | cons item later inductionHypothesis =>
      cases others with
      | nil =>
          rw [List.map_nil, List.map_cons, String.join_nil, String.join_cons,
            String.empty_append, String.append_assoc] at same
          exact absurd same (unlike item _ _)
      | cons other otherLater =>
          rw [List.forall_mem_cons] at inside othersHold
          rw [List.map_cons, List.map_cons, String.join_cons, String.join_cons,
            String.append_assoc, String.append_assoc] at same
          obtain ⟨rfl, behind⟩ := inside.1 other othersHold.1 _ _ same
          obtain ⟨rfl, rests⟩ :=
            inductionHypothesis inside.2 othersHold.2 behind
          exact ⟨rfl, rests⟩

/-- A character that stands in neither of two fronts tells them from what is
behind it. -/
theorem append_cons_inj_of_not_mem {front other rest otherRest : List Char}
    {mark : Char} (absent : mark ∉ front) (otherAbsent : mark ∉ other)
    (same : front ++ mark :: rest = other ++ mark :: otherRest) :
    front = other ∧ rest = otherRest := by
  rcases List.append_eq_append_iff.mp same with
    ⟨between, rfl, behind⟩ | ⟨between, rfl, behind⟩
  · cases between with
    | nil => exact ⟨(List.append_nil front).symm, (List.cons.inj behind).2⟩
    | cons first later =>
        rw [(List.cons.inj behind).1] at otherAbsent
        simp at otherAbsent
  · cases between with
    | nil => exact ⟨List.append_nil other, (List.cons.inj behind).2.symm⟩
    | cons first later =>
        rw [(List.cons.inj behind).1] at absent
        simp at absent

/-- The same of texts: a sign that stands in neither of two values ends them. -/
theorem eq_of_sign_append_eq {value other sign rest otherRest : String}
    {mark : Char} (isSign : sign.toList = [mark])
    (absent : mark ∉ value.toList) (otherAbsent : mark ∉ other.toList)
    (same : value ++ (sign ++ rest) = other ++ (sign ++ otherRest)) :
    value = other ∧ rest = otherRest := by
  have characters := congrArg String.toList same
  simp only [String.toList_append, isSign, List.singleton_append] at characters
  obtain ⟨values, rests⟩ :=
    append_cons_inj_of_not_mem absent otherAbsent characters
  exact ⟨String.toList_injective values, String.toList_injective rests⟩

section Characters

variable {write : Char → List Char}
  {read : List Char → Option (Char × List Char)} {mark : Char}
  (reads : ∀ character rest,
      read (write character ++ rest) = some (character, rest))
  (unlike : ∀ character rest otherRest,
      write character ++ rest ≠ mark :: otherRest)

include reads unlike

/-- Characters that can be read back one by one are told by the mark behind
them, if none of them is written like the mark. -/
theorem flatMap_append_inj {characters others rest otherRest : List Char}
    (same : characters.flatMap write ++ mark :: rest =
      others.flatMap write ++ mark :: otherRest) :
    characters = others ∧ rest = otherRest := by
  induction characters generalizing others with
  | nil =>
      cases others with
      | nil => exact ⟨rfl, (List.cons.inj same).2⟩
      | cons other otherLater =>
          rw [List.flatMap_cons, List.append_assoc] at same
          exact absurd same.symm (unlike other _ _)
  | cons character later inductionHypothesis =>
      cases others with
      | nil =>
          rw [List.flatMap_cons, List.append_assoc] at same
          exact absurd same (unlike character _ _)
      | cons other otherLater =>
          rw [List.flatMap_cons, List.flatMap_cons, List.append_assoc,
            List.append_assoc] at same
          have first := congrArg read same
          rw [reads, reads, Option.some.injEq, Prod.mk.injEq] at first
          obtain ⟨rfl, behind⟩ := first
          obtain ⟨rfl, rests⟩ := inductionHypothesis behind
          exact ⟨rfl, rests⟩

end Characters

/-- The number that some digits in base sixteen stand for. -/
def hexadecimalValue (digits : List Char) : Nat :=
  digits.foldl
    (fun value digit => 16 * value + "0123456789abcdef".toList.idxOf digit) 0

/-- Digits in base sixteen stand for the number that they were written for. -/
theorem hexadecimalValue_toDigits (number : Nat) :
    hexadecimalValue (Nat.toDigits 16 number) = number := by
  have digit : ∀ value < 16,
      "0123456789abcdef".toList.idxOf (Nat.digitChar value) = value := by
    decide
  induction number using Nat.strongRecOn with
  | _ number inductionHypothesis =>
  rw [Nat.toDigits_eq_if (by decide)]
  by_cases small : number < 16
  · rw [if_pos small, hexadecimalValue, List.foldl_cons, List.foldl_nil,
      digit number small, Nat.mul_zero, Nat.zero_add]
  · have front := inductionHypothesis (number / 16) (by omega)
    rw [hexadecimalValue] at front
    rw [if_neg small, hexadecimalValue, List.foldl_append, front,
      List.foldl_cons, List.foldl_nil, digit _ (Nat.mod_lt _ (by decide)),
      Nat.div_add_mod]

theorem exists_digitChar_of_mem {digit : Char} {number : Nat}
    (member : digit ∈ Nat.toDigits 16 number) :
    ∃ value, digit = Nat.digitChar value := by
  induction number using Nat.strongRecOn with
  | _ number inductionHypothesis =>
  rw [Nat.toDigits_eq_if (by decide)] at member
  by_cases small : number < 16
  · rw [if_pos small, List.mem_singleton] at member
    exact ⟨number, member⟩
  · rw [if_neg small, List.mem_append, List.mem_singleton] at member
    rcases member with front | last
    · exact inductionHypothesis (number / 16) (by omega) front
    · exact ⟨number % 16, last⟩

/-- The characters that are written as a backslash and a letter, with their
letters. -/
def letters : List (Char × Char) :=
  [('"', '"'), ('\\', '\\'), ('t', '\t'), ('n', '\n'), ('r', '\r'),
      ('0', '\x00')]

/-- Reads one character of a quoted text back, and leaves what follows it. -/
def unquote : List Char → Option (Char × List Char)
  | '\\' :: 'u' :: '{' :: rest =>
      let digits := rest.takeWhile (· ≠ '}')
      some (Char.ofNat (hexadecimalValue digits), rest.drop (digits.length + 1))
  | '\\' :: letter :: rest => (letters.lookup letter).map (·, rest)
  | character :: rest => some (character, rest)
  | [] => none

/-- The three ways to write a character: with a letter, with its number, or as
it is. -/
theorem quotedCharacter_cases (character : Char) :
    (∃ letter, letter ≠ 'u' ∧ letter ≠ '\n' ∧
        letters.lookup letter = some character ∧
      (quotedCharacter character).toList = ['\\', letter]) ∨
    (quotedCharacter character).toList =
      '\\' :: 'u' :: '{' :: (Nat.toDigits 16 character.toNat ++ ['}']) ∨
    (character ≠ '"' ∧ character ≠ '\\' ∧ character ≠ '\n' ∧
      (quotedCharacter character).toList = [character]) := by
  have lettered : ∀ pair ∈ letters, pair.1 ≠ 'u' ∧ pair.1 ≠ '\n' ∧
      letters.lookup pair.1 = some pair.2 ∧
      (quotedCharacter pair.2).toList = ['\\', pair.1] := by decide
  by_cases inTable : character ∈ letters.map Prod.snd
  · obtain ⟨pair, member, rfl⟩ := List.mem_map.mp inTable
    exact .inl ⟨pair.1, lettered pair member⟩
  · right
    simp only [letters, List.map_cons, List.map_nil, List.mem_cons,
      List.not_mem_nil, or_false, not_or] at inTable
    obtain ⟨quote, backslash, tab, lineFeed, carriage, null⟩ := inTable
    rw [quotedCharacter, if_neg quote, if_neg backslash, if_neg tab,
      if_neg lineFeed, if_neg carriage, if_neg null]
    by_cases hidden : isHidden character = true
    · left
      rw [if_pos hidden]
      simp [hexadecimal]
    · right
      rw [if_neg hidden]
      exact ⟨quote, backslash, lineFeed, String.toList_singleton character⟩

theorem takeWhile_toDigits (number : Nat) (rest : List Char) :
    (Nat.toDigits 16 number ++ '}' :: rest).takeWhile (· ≠ '}') =
      Nat.toDigits 16 number := by
  have noBrace :
      ∀ digit ∈ Nat.toDigits 16 number, decide (digit ≠ '}') = true := by
    intro digit member
    obtain ⟨value, rfl⟩ := exists_digitChar_of_mem member
    exact decide_eq_true (Nat.digitChar_ne '}' (by decide))
  rw [List.takeWhile_append_of_pos noBrace]
  simp

theorem unquote_quotedCharacter (character : Char) (rest : List Char) :
    unquote ((quotedCharacter character).toList ++ rest) =
      some (character, rest) := by
  rcases quotedCharacter_cases character with
    ⟨letter, noNumber, -, found, written⟩ | written | ⟨-, noBackslash, -,
        written⟩
  · rw [written]
    simp [unquote, noNumber, found]
  · rw [written]
    simp only [List.cons_append, List.append_assoc, List.nil_append, unquote,
      takeWhile_toDigits, hexadecimalValue_toDigits, Char.ofNat_toNat]
    simp
  · rw [written]
    simp [unquote, noBackslash]

theorem quotedCharacter_append_ne_quote (character : Char)
    (rest otherRest : List Char) :
    (quotedCharacter character).toList ++ rest ≠ '"' :: otherRest := by
  rcases quotedCharacter_cases character with
    ⟨letter, -, -, -, written⟩ | written | ⟨noQuote, -, -, written⟩
  · simp [written]
  · simp [written]
  · simp [written, noQuote]

theorem lineFeed_not_mem_quotedCharacter (character : Char) :
    '\n' ∉ (quotedCharacter character).toList := by
  rcases quotedCharacter_cases character with
    ⟨letter, -, noLineFeed, -, written⟩ | written | ⟨-, -, noLineFeed, written⟩
  · simp [written, noLineFeed.symm]
  · have noDigit : '\n' ∉ Nat.toDigits 16 character.toNat := by
      intro member
      obtain ⟨value, isDigit⟩ := exists_digitChar_of_mem member
      exact Nat.digitChar_ne '\n' (by decide) isDigit.symm
    simp [written, noDigit]
  · simp [written, noLineFeed.symm]

theorem toList_quoted (text : String) :
    (quoted text).toList =
      '"' ::
        (text.toList.flatMap
            (fun character => (quotedCharacter character).toList) ++
        ['"']) := by
  simp [quoted, String.toList_join, List.flatMap_map]

theorem lineFeed_not_mem_quoted (text : String) :
    '\n' ∉ (quoted text).toList := by
  simp [toList_quoted, lineFeed_not_mem_quotedCharacter]

/-- A quoted text tells where it ends. -/
theorem quoted_append_inj {text other : String} {rest otherRest : List Char}
    (same : (quoted text).toList ++ rest = (quoted other).toList ++ otherRest) :
    text = other ∧ rest = otherRest := by
  simp only [toList_quoted, List.cons_append, List.append_assoc,
    List.nil_append] at same
  obtain ⟨characters, rests⟩ :=
    flatMap_append_inj unquote_quotedCharacter quotedCharacter_append_ne_quote
      (List.cons.inj same).2
  exact ⟨String.toList_injective characters, rests⟩

theorem eq_of_quoted_append_eq {text other rest otherRest : String}
    (same : quoted text ++ rest = quoted other ++ otherRest) :
    text = other ∧ rest = otherRest := by
  have characters := congrArg String.toList same
  rw [String.toList_append, String.toList_append] at characters
  obtain ⟨texts, rests⟩ := quoted_append_inj characters
  exact ⟨texts, String.toList_injective rests⟩

end LispReader.Text
