import LispReader.Decimal

/-!
# The characters of a written number

Whatever holds of the digits, of the minus sign, the point and the `e`, and of
the characters in the texts of a layout, holds of every character of a number
written in that layout. Main statement: `Layout.forall_mem_write`.
-/

namespace LispReader.Decimal

theorem isDigit_of_mem_repr (number : Nat) :
    ∀ character ∈ number.repr.toList, character.isDigit = true := by
  intro character member
  rw [Nat.repr_eq_ofList_toDigits, String.toList_ofList] at member
  exact Nat.isDigit_of_mem_toDigits (by decide) (by decide) member

theorem not_mem_repr {mark : Char} (noDigit : mark.isDigit = false)
    (number : Nat) :
    mark ∉ number.repr.toList := by
  intro member
  rw [isDigit_of_mem_repr number mark member] at noDigit
  cases noDigit

theorem not_mem_toString_int {mark : Char} (noDigit : mark.isDigit = false)
    (noMinus : mark ≠ '-') (number : Int) :
    mark ∉ (toString number).toList := by
  change mark ∉ number.repr.toList
  cases number with
  | ofNat magnitude => exact not_mem_repr noDigit magnitude
  | negSucc magnitude =>
      have minus : "-".toList = ['-'] := rfl
      rw [Int.repr, String.toList_append, List.mem_append, not_or, minus,
        List.mem_singleton]
      exact ⟨noMinus, not_mem_repr noDigit _⟩

/-- A number is read back from its digits. -/
theorem eq_of_toList_repr_eq {number other : Nat}
    (same : number.repr.toList = other.repr.toList) : number = other := by
  have value (written : Nat) :
      Nat.ofDigitChars 10 written.repr.toList 0 = written := by
    rw [Nat.repr_eq_ofList_toDigits, String.toList_ofList,
      Nat.ofDigitChars_ten_toDigits]
  rw [← value number, same, value]

theorem isDigit_of_mem_ofScaled (number : Nat) (power : Int) :
    ∀ character ∈ (Digits.ofScaled number power).digits,
      character.isDigit = true := by
  intro character member
  rw [Digits.ofScaled, List.mem_reverse] at member
  have inDigits :=
    List.mem_reverse.mp ((List.dropWhile_sublist _).subset member)
  exact Nat.isDigit_of_mem_toDigits (by decide) (by decide) inDigits

theorem isDigit_of_mem_shortest (value : Double) (tie : Tie) :
    ∀ character ∈ (value.shortest tie).digits, character.isDigit = true :=
  isDigit_of_mem_ofScaled _ _

section Characters

variable {condition : Char → Prop}
  (digits : ∀ character, character.isDigit = true → condition character)
  (marks : ∀ character ∈ ['-', '.', 'e'], condition character)

include digits marks

theorem Digits.forall_mem_positional {decimal : Digits}
    (inside : ∀ digit ∈ decimal.digits, digit.isDigit = true) :
    ∀ character ∈ decimal.positional.toList, condition character := by
  have point : condition '.' := marks '.' (by decide)
  have zero : condition '0' := digits '0' rfl
  have zeros (count : Nat) :
      ∀ character ∈ List.replicate count '0', condition character := by
    intro character member
    rwa [List.eq_of_mem_replicate member]
  have decimals : ∀ character ∈ decimal.digits, condition character :=
    fun character member => digits character (inside character member)
  unfold positional
  dsimp only
  split
  · have front : "0.".toList = ['0', '.'] := rfl
    simp only [String.toList_append, String.toList_ofList, front,
      List.forall_mem_append]
    exact ⟨by simpa using ⟨zero, point⟩, zeros _, decimals⟩
  · split
    · have middle : ".".toList = ['.'] := rfl
      simp only [String.toList_append, String.toList_ofList, middle,
        List.forall_mem_append]
      exact ⟨⟨fun character member =>
        decimals character (List.mem_of_mem_take member),
        by simpa using point⟩,
        fun character member =>
          decimals character (List.mem_of_mem_drop member)⟩
    · have back : ".0".toList = ['.', '0'] := rfl
      simp only [String.toList_append, String.toList_ofList, back,
        List.forall_mem_append]
      exact ⟨⟨decimals, zeros _⟩, by simpa using ⟨point, zero⟩⟩

theorem Digits.forall_mem_scientific {decimal : Digits} {plus : String}
    (inside : ∀ digit ∈ decimal.digits, digit.isDigit = true)
    (sign : ∀ character ∈ plus.toList, condition character) :
    ∀ character ∈ (decimal.scientific plus).toList, condition character := by
  have decimals : ∀ character ∈ decimal.digits, condition character :=
    fun character member => digits character (inside character member)
  have pointed : ∀ character ∈ (if (decimal.digits.drop 1).isEmpty then "" else
      "." ++ String.ofList (decimal.digits.drop 1)).toList,
      condition character := by
    split
    · nofun
    · have point : ".".toList = ['.'] := rfl
      simp only [String.toList_append, String.toList_ofList, point,
        List.forall_mem_append]
      exact ⟨by simpa using marks '.' (by decide),
        fun character member =>
          decimals character (List.mem_of_mem_drop member)⟩
  have signed :
      ∀ character ∈ (if decimal.scale - 1 < 0 then "-" else plus).toList,
      condition character := by
    split
    · have minus : "-".toList = ['-'] := rfl
      simpa [minus] using marks '-' (by decide)
    · exact sign
  have letter : "e".toList = ['e'] := rfl
  simp only [scientific, String.toList_append, String.toList_ofList, letter,
    List.forall_mem_append]
  refine
    ⟨⟨⟨⟨fun character member =>
        decimals character (List.mem_of_mem_take member), pointed⟩,
    by simpa using marks 'e' (by decide)⟩, signed⟩, ?_⟩
  exact fun character member =>
    digits character (isDigit_of_mem_repr _ character member)

/-- The condition holds of all characters of a number written in a layout. -/
theorem Layout.forall_mem_write {layout : Layout}
    (texts : ∀ text ∈ [layout.exponentPlus, layout.infinity,
      layout.negativeInfinity, layout.notANumber], ∀ character ∈ text.toList,
      condition character)
    (value : Float) :
    ∀ character ∈ (layout.write value).toList, condition character := by
  simp only [List.forall_mem_cons] at texts
  obtain ⟨plus, infinity, negativeInfinity, notANumber, -⟩ := texts
  have magnitude (double : Double) :
      ∀ character ∈ (layout.magnitude double).toList, condition character := by
    unfold Layout.magnitude
    split
    · have zero : "0.0".toList = ['0', '.', '0'] := rfl
      simpa [zero] using ⟨digits '0' rfl, marks '.' (by decide), digits '0' rfl⟩
    · have inside := isDigit_of_mem_shortest double layout.tie
      dsimp only
      split
      · exact Digits.forall_mem_positional digits marks inside
      · exact Digits.forall_mem_scientific digits marks inside plus
  unfold Layout.write
  dsimp only
  split
  · repeat' split
    · exact notANumber
    · exact negativeInfinity
    · exact infinity
  · rw [String.toList_append, List.forall_mem_append]
    refine ⟨?_, magnitude _⟩
    split
    · have minus : "-".toList = ['-'] := rfl
      simpa [minus] using marks '-' (by decide)
    · nofun

end Characters

/-- A character is in no written number if it is no digit, none of the marks
and in no text of the layout. -/
theorem Layout.not_mem_write {layout : Layout} {mark : Char}
    (noDigit : mark.isDigit = false) (noMark : mark ∉ ['-', '.', 'e'])
    (texts : ∀ text ∈ [layout.exponentPlus, layout.infinity,
      layout.negativeInfinity, layout.notANumber], mark ∉ text.toList)
    (value : Float) : mark ∉ (layout.write value).toList := by
  intro member
  have others :
      ∀ character ∈ (layout.write value).toList, character ≠ mark := by
    apply Layout.forall_mem_write
    · rintro character isDigit rfl
      rw [isDigit] at noDigit
      cases noDigit
    · rintro character isMark rfl
      exact noMark isMark
    · rintro text isText character inText rfl
      exact texts text isText inText
  exact others mark member rfl

end LispReader.Decimal
