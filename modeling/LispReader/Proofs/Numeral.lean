import LispReader.Numeral
import LispReader.Token.Scanner

/-!
# How numerals are written

`Numeral.WrittenAs` is the pattern of a numeral: an optional sign, one digit or
more, and perhaps a point with further digits. Taking a word apart finds
exactly the numeral it is the writing of.
-/

namespace LispReader

theorem toNat_of_isDecimalDigit {character : Char}
    (digit : isDecimalDigit character = true) :
    48 ≤ character.toNat ∧ character.toNat ≤ 57 := by
  simp only [isDecimalDigit, Bool.and_eq_true, decide_eq_true_eq] at digit
  exact digit

theorem isSymbolCharacter_of_isDecimalDigit {character : Char}
    (digit : isDecimalDigit character = true) :
    isSymbolCharacter character = true := by
  obtain ⟨lower, upper⟩ := toNat_of_isDecimalDigit digit
  have notBlank : Text.isBlank character = false := by
    rw [Bool.eq_false_iff]
    intro blank
    obtain ⟨range, member, above, below⟩ := (Text.inRanges_iff _ _).mp blank
    simp only [Text.blankRanges, List.mem_cons, List.not_mem_nil,
      or_false] at member
    rcases member with
      rfl | rfl | rfl | rfl | rfl | rfl | rfl | rfl | rfl | rfl <;> omega
  have notDelimiter : character ∉ delimiters := by
    intro member
    simp only [delimiters, List.mem_cons, List.not_mem_nil, or_false] at member
    rcases member with
      rfl | rfl | rfl | rfl | rfl | rfl | rfl | rfl | rfl | rfl | rfl | rfl |
      rfl | rfl <;> revert digit <;> decide
  simp [isSymbolCharacter, notBlank, notDelimiter]

namespace Numeral

/-- The ways to write a sign. A number that is not negative may have a plus or
none. -/
def signs (negative : Bool) : List (List Char) :=
  if negative then [['-']] else [[], ['+']]

def tail : Option (List Char) → List Char
  | none => []
  | some fraction => '.' :: fraction

/-- Whether a word is a writing of a numeral. -/
structure WrittenAs (numeral : Numeral) (word : List Char) : Prop where
  whole_ne_nil : numeral.whole ≠ []
  whole_digits : ∀ digit ∈ numeral.whole, isDecimalDigit digit = true
  fraction_digits : ∀ fraction ∈ numeral.fraction?, ∀ digit ∈ fraction,
    isDecimalDigit digit = true
  written : ∃ sign ∈ signs numeral.negative,
    word = sign ++ numeral.whole ++ tail numeral.fraction?

/-- A sign is told from the digit behind it. -/
theorem splitSign_append {negative : Bool} {sign unsigned : List Char}
    (isSign : sign ∈ signs negative) {digit : Char} {rest : List Char}
    (begins : unsigned = digit :: rest)
    (isDigit : isDecimalDigit digit = true) :
    splitSign (sign ++ unsigned) = (negative, unsigned) := by
  subst begins
  cases negative with
  | true =>
      rw [signs, if_pos rfl, List.mem_singleton] at isSign
      subst isSign
      rfl
  | false =>
      rw [signs, if_neg Bool.false_ne_true, List.mem_cons,
        List.mem_singleton] at isSign
      rcases isSign with rfl | rfl
      · rw [List.nil_append, splitSign]
        · rintro _ split
          cases split
          cases isDigit
        · rintro _ split
          cases split
          cases isDigit
      · rfl

theorem exists_sign_of_splitSign (word : List Char) :
    ∃ sign ∈ signs (splitSign word).1, word = sign ++ (splitSign word).2 := by
  unfold splitSign
  split
  · exact ⟨['-'], by simp [signs], rfl⟩
  · exact ⟨['+'], by simp [signs], rfl⟩
  · exact ⟨[], by simp [signs], rfl⟩

/-- What is taken apart as a numeral is a writing of that numeral. -/
theorem writtenAs_of_ofChars? {word : List Char} {numeral : Numeral}
    (found : ofChars? word = some numeral) : numeral.WrittenAs word := by
  obtain ⟨sign, isSign, signed⟩ := exists_sign_of_splitSign word
  unfold ofChars? at found
  generalize splitSign word = parts at found isSign signed
  obtain ⟨negative, unsigned⟩ := parts
  have digits : ∀ digit ∈ unsigned.takeWhile isDecimalDigit,
      isDecimalDigit digit = true :=
    List.all_eq_true.mp List.all_takeWhile
  have whole :
      unsigned.takeWhile isDecimalDigit ++ unsigned.dropWhile isDecimalDigit =
      unsigned := List.takeWhile_append_dropWhile
  dsimp only at found isSign signed
  split at found
  · cases found
  · rename_i present
    rw [List.isEmpty_iff] at present
    split at found
    · rename_i rest
      cases found
      refine ⟨present, digits, by simp, sign, isSign, ?_⟩
      rw [rest, List.append_nil] at whole
      simp [signed, whole, tail]
    · rename_i fraction rest
      split at found
      · rename_i fractionDigits
        cases found
        refine ⟨present, digits, by
          simpa using fractionDigits, sign, isSign, ?_⟩
        rw [rest] at whole
        rw [signed, tail, List.append_assoc, whole]
      · cases found
    · cases found

/-- Every writing of a numeral is taken apart as that numeral. -/
theorem ofChars?_of_writtenAs {word : List Char} {numeral : Numeral}
    (writing : numeral.WrittenAs word) : ofChars? word = some numeral := by
  obtain ⟨negative, whole, fraction?⟩ := numeral
  obtain ⟨whole_ne_nil, whole_digits, fraction_digits, sign, isSign, rfl⟩ :=
    writing
  dsimp only at whole_ne_nil whole_digits fraction_digits isSign ⊢
  obtain ⟨first, others, begins⟩ := List.exists_cons_of_ne_nil whole_ne_nil
  have split : splitSign (sign ++ (whole ++ tail fraction?)) =
      (negative, whole ++ tail fraction?) := by
    have headed :
        whole ++ tail fraction? = first :: (others ++ tail fraction?) := by
      rw [begins, List.cons_append]
    exact splitSign_append isSign headed
      (whole_digits first (begins ▸ List.mem_cons_self))
  have front : (whole ++ tail fraction?).takeWhile isDecimalDigit = whole := by
    rw [List.takeWhile_append_of_pos whole_digits]
    cases fraction? <;> simp [tail, isDecimalDigit]
  have back :
      (whole ++ tail fraction?).dropWhile isDecimalDigit = tail fraction? := by
    rw [List.dropWhile_append_of_pos whole_digits]
    cases fraction? <;> simp [tail, isDecimalDigit]
  unfold ofChars?
  rw [List.append_assoc, split]
  dsimp only
  rw [front, back]
  cases fraction? with
  | none => simp [tail, whole_ne_nil]
  | some fraction =>
      have digits := fraction_digits fraction rfl
      simpa [tail, whole_ne_nil] using digits

/-- Taking a word apart finds the numeral that it is a writing of, and nothing
else. -/
theorem ofChars?_eq_some_iff (word : List Char) (numeral : Numeral) :
    ofChars? word = some numeral ↔ numeral.WrittenAs word :=
  ⟨writtenAs_of_ofChars?, ofChars?_of_writtenAs⟩

theorem ofChars?_eq_none_iff (word : List Char) :
    ofChars? word = none ↔ ∀ numeral : Numeral, ¬ numeral.WrittenAs word := by
  simp only [← ofChars?_eq_some_iff, Option.eq_none_iff_forall_ne_some, ne_eq]

/-- No word is a writing of two numerals. -/
theorem WrittenAs.unique {word : List Char} {numeral other : Numeral}
    (writing : numeral.WrittenAs word) (otherWriting : other.WrittenAs word) :
    numeral = other := by
  have found := ofChars?_of_writtenAs writing
  rw [ofChars?_of_writtenAs otherWriting] at found
  exact (Option.some.inj found).symm

theorem WrittenAs.ne_nil {word : List Char} {numeral : Numeral}
    (writing : numeral.WrittenAs word) : word ≠ [] := by
  obtain ⟨whole_ne_nil, -, -, sign, -, rfl⟩ := writing
  simp [whole_ne_nil]

theorem mem_of_mem_signs {negative : Bool} {sign : List Char}
    (isSign : sign ∈ signs negative) {character : Char}
    (member : character ∈ sign) : character ∈ ['-', '+', '.'] := by
  cases negative with
  | true =>
      rw [signs, if_pos rfl, List.mem_singleton] at isSign
      subst isSign
      rw [List.mem_singleton] at member
      simp [member]
  | false =>
      rw [signs, if_neg Bool.false_ne_true, List.mem_cons,
        List.mem_singleton] at isSign
      rcases isSign with rfl | rfl
      · cases member
      · rw [List.mem_singleton] at member
        simp [member]

/-- What is written of a numeral are digits, signs and points. -/
theorem WrittenAs.mem {word : List Char} {numeral : Numeral}
    (writing : numeral.WrittenAs word) {character : Char}
    (member : character ∈ word) :
    isDecimalDigit character = true ∨ character ∈ ['-', '+', '.'] := by
  obtain ⟨-, whole_digits, fraction_digits, sign, isSign, rfl⟩ := writing
  rw [List.mem_append, List.mem_append] at member
  rcases member with (inSign | inWhole) | inTail
  · exact .inr (mem_of_mem_signs isSign inSign)
  · exact .inl (whole_digits _ inWhole)
  · cases point : numeral.fraction? with
    | none => simp [point, tail] at inTail
    | some fraction =>
        rw [point, tail, List.mem_cons] at inTail
        rcases inTail with rfl | inFraction
        · right
          simp
        · exact .inl (fraction_digits fraction point _ inFraction)

theorem WrittenAs.not_mem {word : List Char} {numeral : Numeral}
    (writing : numeral.WrittenAs word) {character : Char}
    (notDigit : isDecimalDigit character = false)
    (notSign : character ∉ ['-', '+', '.']) :
    character ∉ word := by
  intro member
  rcases writing.mem member with digit | sign
  · rw [notDigit] at digit
    cases digit
  · exact notSign sign

end Numeral

end LispReader
