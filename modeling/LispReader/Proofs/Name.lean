import LispReader.Name
import LispReader.Proofs.Numeral

/-!
# Plain names

A plain name can stand in a text as a symbol, and none of its characters has a
spelling of its own. Main statements: every normalized symbol is a plain name,
and a plain name is its own normalization.
-/

namespace LispReader.Name

def special : List Char :=
  ['!', '%', '*', '+', '/', '<', '=', '>', '?', '-']

structure IsSymbol (characters : List Char) : Prop where
  inside : ∀ character ∈ characters, isSymbolCharacter character = true
  begins : ∃ first rest, characters = first :: rest ∧ first ∉ ['^', '@', '&']

/-- Whether characters are a symbol of which nothing is spelled out. -/
structure IsPlain (characters : List Char) :
    Prop extends IsSymbol characters where
  plain : ∀ character ∈ characters, character ∉ special

theorem return_not_mem_of_inside {characters : List Char}
    (inside : ∀ character ∈ characters, isSymbolCharacter character = true) :
    '\r' ∉ characters := by
  intro member
  have inSymbol := inside '\r' member
  revert inSymbol
  decide

theorem isSymbol_iff (characters : List Char) :
    IsSymbol characters ↔ characters.all isSymbolCharacter = true ∧
      (characters.head?.any fun first => decide (first ∉ ['^', '@', '&'])) =
        true := by
  rw [List.all_eq_true]
  constructor
  · rintro ⟨inside, first, rest, rfl, notSign⟩
    exact ⟨inside, by simpa using notSign⟩
  · rintro ⟨inside, begins⟩
    cases characters with
    | nil => cases begins
    | cons first rest => exact ⟨inside, first, rest, rfl, by simpa using begins⟩

theorem isPlain_iff (characters : List Char) :
    IsPlain characters ↔ IsSymbol characters ∧
      (characters.all fun character => decide (character ∉ special)) =
        true := by
  simp only [List.all_eq_true, decide_eq_true_eq]
  exact ⟨fun isPlain => ⟨isPlain.toIsSymbol, isPlain.plain⟩,
    fun ⟨symbol, plain⟩ => ⟨symbol, plain⟩⟩

instance (characters : List Char) : Decidable (IsSymbol characters) :=
  decidable_of_iff _ (isSymbol_iff characters).symm

instance (characters : List Char) : Decidable (IsPlain characters) :=
  decidable_of_iff _ (isPlain_iff characters).symm

theorem special_eq_map : special = spellings.map Prod.fst := rfl

theorem spell_of_not_mem {character : Char} (notSpecial : character ∉ special) :
    spell character = [character] := by
  have unspelled : spellings.lookup character = none := by
    rw [List.lookup_eq_none_iff]
    rintro ⟨sign, spelling⟩ member
    rw [bne_iff_ne]
    rintro rfl
    rw [special_eq_map] at notSpecial
    exact notSpecial (List.mem_map.mpr ⟨_, member, rfl⟩)
  simp only [spell, unspelled]

theorem exists_spell_of_mem {character : Char}
    (isSpecial : character ∈ special) :
    ∃ letters, spell character = '_' :: letters ∧
      IsPlain (spell character) := by
  simp only [special, List.mem_cons, List.not_mem_nil, or_false] at isSpecial
  rcases isSpecial with
    rfl | rfl | rfl | rfl | rfl | rfl | rfl | rfl | rfl | rfl <;>
    exact ⟨_, rfl, by decide⟩

/-- What is written for a character is the character itself, or can stand in a
symbol and is never spelled out in its turn. -/
theorem eq_or_of_mem_spell {character letter : Char}
    (member : letter ∈ spell character) :
    letter = character ∧ character ∉ special ∨
      isSymbolCharacter letter = true ∧ letter ∉ special := by
  by_cases isSpecial : character ∈ special
  · obtain ⟨-, -, isPlain⟩ := exists_spell_of_mem isSpecial
    exact .inr ⟨isPlain.inside letter member, isPlain.plain letter member⟩
  · rw [spell_of_not_mem isSpecial, List.mem_singleton] at member
    exact .inl ⟨member, isSpecial⟩

theorem flatMap_spell_of_plain {characters : List Char}
    (plain : ∀ character ∈ characters, character ∉ special) :
    characters.flatMap spell = characters := by
  induction characters with
  | nil => rfl
  | cons character rest inductionHypothesis =>
      rw [List.flatMap_cons,
        spell_of_not_mem (plain character List.mem_cons_self),
        inductionHypothesis fun other member =>
          plain other (List.mem_cons_of_mem _ member)]
      rfl

theorem normalize_of_plain {name : String}
    (plain : ∀ character ∈ name.toList, character ∉ special) :
    normalize name = name := by
  have notPercent : name ≠ "%" := by
    rintro rfl
    exact plain '%' (by decide) (by decide)
  rw [normalize, if_neg notPercent, flatMap_spell_of_plain plain,
    String.ofList_toList]

theorem toList_normalize (name : String) :
    (normalize name).toList =
      if name = "%" then "_PERCENT_1".toList
        else name.toList.flatMap spell := by
  unfold normalize
  split <;> simp

/-- A name that has no underscore after normalization had nothing to be spelled
out. -/
theorem plain_of_underscore_not_mem {name : String}
    (absent : '_' ∉ (normalize name).toList) :
    ∀ character ∈ name.toList, character ∉ special := by
  intro character member isSpecial
  rw [toList_normalize] at absent
  split at absent
  · exact absent (by decide)
  · obtain ⟨letters, spelled, -⟩ := exists_spell_of_mem isSpecial
    exact absent
      (List.mem_flatMap.mpr ⟨character, member, by rw [spelled]; simp⟩)

theorem not_mem_special_of_mem_flatMap_spell {characters : List Char} :
    ∀ letter ∈ characters.flatMap spell, letter ∉ special := by
  intro letter member
  obtain ⟨character, -, spelled⟩ := List.mem_flatMap.mp member
  rcases eq_or_of_mem_spell spelled with ⟨rfl, notSpecial⟩ | ⟨-, notSpecial⟩
  · exact notSpecial
  · exact notSpecial

theorem not_mem_special_of_mem_normalize {name : String} :
    ∀ letter ∈ (normalize name).toList, letter ∉ special := by
  have numbered : IsPlain "_PERCENT_1".toList := by decide
  rw [toList_normalize]
  split
  · exact numbered.plain
  · exact not_mem_special_of_mem_flatMap_spell

theorem isPlain_flatMap_spell {characters : List Char}
    (symbol : IsSymbol characters) :
    IsPlain (characters.flatMap spell) := by
  obtain ⟨inside, first, rest, rfl, notSign⟩ := symbol
  refine ⟨⟨?_, ?_⟩, not_mem_special_of_mem_flatMap_spell⟩
  · intro letter member
    obtain ⟨character, isIn, spelled⟩ := List.mem_flatMap.mp member
    rcases eq_or_of_mem_spell spelled with ⟨rfl, -⟩ | ⟨inSymbol, -⟩
    · exact inside letter isIn
    · exact inSymbol
  · by_cases isSpecial : first ∈ special
    · obtain ⟨letters, spelled, -⟩ := exists_spell_of_mem isSpecial
      exact ⟨'_', letters ++ rest.flatMap spell, by simp [spelled], by decide⟩
    · exact ⟨first, rest.flatMap spell, by
        simp [spell_of_not_mem isSpecial], notSign⟩

theorem isPlain_normalize {name : String} (symbol : IsSymbol name.toList) :
    IsPlain (normalize name).toList := by
  rw [toList_normalize]
  split
  · decide
  · exact isPlain_flatMap_spell symbol

theorem isSymbol_of_writtenAs {word : List Char} {numeral : Numeral}
    (writing : numeral.WrittenAs word) : IsSymbol word := by
  constructor
  · intro character member
    rcases writing.mem member with digit | sign
    · exact isSymbolCharacter_of_isDecimalDigit digit
    · simp only [List.mem_cons, List.not_mem_nil, or_false] at sign
      rcases sign with rfl | rfl | rfl <;> decide
  · obtain ⟨first, rest, rfl⟩ := List.exists_cons_of_ne_nil writing.ne_nil
    refine ⟨first, rest, rfl, ?_⟩
    intro isSign
    simp only [List.mem_cons, List.not_mem_nil, or_false] at isSign
    rcases isSign with rfl | rfl | rfl <;>
      exact writing.not_mem rfl (by decide) List.mem_cons_self

end LispReader.Name
