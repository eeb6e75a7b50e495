import LispReader.Name
import LispReader.Proofs.Numeral

/-!
# Placeholders as a set

The number of arguments depends only on which placeholders are used, not on
their order or on how often each of them is. A placeholder is written as a
percent sign with decimal digits behind it, and what is written so with one
digit at most is read as that placeholder.
-/

namespace LispReader.Placeholder

theorem max?_eq_of_mem_iff {left right : List Nat}
    (same : ∀ number, number ∈ left ↔ number ∈ right) :
    left.max? = right.max? := by
  ext number
  rw [List.max?_eq_some_iff, List.max?_eq_some_iff]
  simp only [same]

theorem arity_eq_of_mem_iff {left right : List Placeholder}
    (same : ∀ placeholder, placeholder ∈ left ↔ placeholder ∈ right) :
    arity left = arity right := by
  have numbers :
      (left.filterMap number?).max? = (right.filterMap number?).max? := by
    apply max?_eq_of_mem_iff
    simp only [List.mem_filterMap, same, implies_true]
  have empty : left.isEmpty = right.isEmpty := by
    rw [Bool.eq_iff_iff, List.isEmpty_iff, List.isEmpty_iff]
    simp only [List.eq_nil_iff_forall_not_mem, same]
  simp only [arity, numbers, empty]

theorem arity_reverse (used : List Placeholder) :
    arity used.reverse = arity used :=
  arity_eq_of_mem_iff fun _ => List.mem_reverse

theorem ofText?_of_not_mem {text : String} (absent : '%' ∉ text.toList) :
    ofText? text = none := by
  unfold ofText?
  split
  · rename_i whole
    simp [whole] at absent
  · rename_i digit whole
    simp [whole] at absent
  · rfl

theorem exists_text (placeholder : Placeholder) :
    ∃ digits, placeholder.text.toList = '%' :: digits ∧
      ∀ digit ∈ digits, isDecimalDigit digit = true := by
  cases placeholder with
  | bare => exact ⟨[], rfl, by simp⟩
  | numbered number =>
      refine ⟨Nat.toDigits 10 number, ?_, ?_⟩
      · rw [text, String.toList_append, Nat.toString_eq_repr, Nat.toList_repr]
        rfl
      · intro digit member
        have isDigit : digit.isDigit = true :=
          Nat.isDigit_of_mem_toDigits (by decide) (Nat.le_refl 10) member
        simpa [Char.isDigit, isDecimalDigit, Char.le_def] using isDigit

theorem exists_digitChar {character : Char}
    (digit : isDecimalDigit character = true) :
    ∃ number < 10, character = number.digitChar := by
  obtain ⟨lower, upper⟩ := toNat_of_isDecimalDigit digit
  refine ⟨character.toNat - 48, by omega, ?_⟩
  rw [← Char.toNat_inj, Nat.toNat_digitChar_of_lt_ten (by omega)]
  omega

theorem text_numbered {number : Nat} (oneDigit : number < 10) :
    (numbered number).text.toList = ['%', number.digitChar] := by
  rw [text, String.toList_append, Nat.toString_eq_repr, Nat.toList_repr,
    Nat.toDigits_of_lt_base oneDigit]
  rfl

theorem ofText?_numbered {number : Nat} (oneDigit : number < 10) :
    ofText? (numbered number).text = some (numbered number) := by
  have digits : ∀ other < 10, isDecimalDigit other.digitChar = true ∧
      decimalValue [other.digitChar] = other := by decide
  obtain ⟨isDigit, value⟩ := digits number oneDigit
  simp [ofText?, text_numbered oneDigit, isDigit, value]

/-- A text is read as a placeholder exactly when the placeholder is written so
and its number, if it has one, is a single digit. -/
theorem ofText?_eq_some_iff (text : String) (placeholder : Placeholder) :
    ofText? text = some placeholder ↔
      text = placeholder.text ∧
        ∀ number ∈ placeholder.number?, number < 10 := by
  constructor
  · intro found
    unfold ofText? at found
    split at found
    · rename_i bare
      cases found
      exact ⟨String.toList_injective bare, nofun⟩
    · rename_i character written
      split at found
      · rename_i isDigit
        obtain ⟨number, oneDigit, rfl⟩ := exists_digitChar isDigit
        have same : text = (numbered number).text := by
          rw [← String.toList_inj, written, text_numbered oneDigit]
        have again := ofText?_numbered oneDigit
        rw [← same] at again
        simp only [ofText?, written, isDigit, if_true] at again
        rw [again] at found
        cases found
        refine ⟨same, ?_⟩
        rintro _ ⟨⟩
        exact oneDigit
      · cases found
    · cases found
  · rintro ⟨rfl, small⟩
    cases placeholder with
    | bare => rfl
    | numbered number => exact ofText?_numbered (small number rfl)

end LispReader.Placeholder
