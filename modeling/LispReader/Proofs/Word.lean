import LispReader.Proofs.Building.Fault
import LispReader.Proofs.Lines
import LispReader.Proofs.Name
import LispReader.Proofs.Scanning.Token
import Mathlib.Data.List.Induction
import Mathlib.Data.Nat.Digits.Defs

/-!
# Words that stand alone

A text that is one word is one token, and it is read as a number, a literal or
a name, or it is refused for being the argument of a function that is not
there. An integer is exact wherever sixty-four bits hold what its digits
denote, however many of them there are. Main statement: `parse_word`.
-/

namespace LispReader

theorem decimalValue_concat (digits : List Char) (last : Char) :
    decimalValue (digits ++ [last]) =
      10 * decimalValue digits + (last.toNat - '0'.toNat) := by
  rw [decimalValue, List.foldl_append, List.foldl_cons, List.foldl_nil,
    decimalValue]

/-- The number that digits denote by their place values. -/
theorem decimalValue_eq_ofDigits (digits : List Char) :
    decimalValue digits =
      Nat.ofDigits 10 (digits.reverse.map fun digit => digit.toNat -
          '0'.toNat) := by
  induction digits using List.reverseRecOn with
  | nil => rfl
  | append_singleton digits last inductionHypothesis =>
      rw [decimalValue_concat, inductionHypothesis, List.reverse_append,
        List.reverse_singleton, List.singleton_append, List.map_cons,
        Nat.ofDigits_cons, Nat.add_comm]

namespace Numeral

/-- The integer in front of the point of a numeral: its digits by their place
values, with the sign. -/
def denoted (numeral : Numeral) : Int :=
  let magnitude : Nat :=
    Nat.ofDigits 10 (numeral.whole.reverse.map fun digit => digit.toNat -
        '0'.toNat)
  if numeral.negative then -(magnitude : Int) else (magnitude : Int)

theorem integer_eq_denoted (numeral : Numeral) :
    numeral.integer = numeral.denoted := by
  rw [integer, denoted, decimalValue_eq_ofDigits]

theorem integerValue_of_toInt {numeral : Numeral} {value : Int64}
    (same : value.toInt = numeral.denoted) :
    numeral.integerValue = .exact value := by
  have inRange : Int64.minValue.toInt ≤ numeral.integer ∧
      numeral.integer ≤ Int64.maxValue.toInt := by
    rw [integer_eq_denoted, ← same]
    exact ⟨value.minValue_le_toInt, value.toInt_le⟩
  rw [integerValue, if_pos inRange, integer_eq_denoted, ← same,
    Int64.ofInt_toInt]

theorem exists_toInt_of_range {numeral : Numeral}
    (inRange : -2 ^ 63 ≤ numeral.denoted ∧ numeral.denoted ≤ 2 ^ 63 - 1) :
    ∃ value : Int64, value.toInt = numeral.denoted := by
  have upper : numeral.denoted < 2 ^ 63 := by
    omega
  exact ⟨_, Int64.toInt_ofInt_of_le inRange.1 upper⟩

theorem integerValue_of_not_range {numeral : Numeral}
    (outside : ¬ (-2 ^ 63 ≤ numeral.denoted ∧ numeral.denoted ≤ 2 ^ 63 - 1)) :
    numeral.integerValue = .approximate numeral.nearest := by
  rw [← Int64.toInt_minValue, ← Int64.toInt_maxValue,
    ← integer_eq_denoted] at outside
  rw [integerValue, if_neg outside]

end Numeral

theorem tokenize_symbol {word : String} (symbol : Name.IsSymbol word.toList) :
    tokenize word = .ok [⟨.symbol, some word, .start⟩] := by
  obtain ⟨inside, first, rest, split, notSign⟩ := symbol
  have spelled : Token.Spelled ⟨.symbol, some word, .start⟩ word.toList :=
    .symbol inside (by rw [split]; rfl) notSign
  have noReturn : '\r' ∉ word.toList := Name.return_not_mem_of_inside inside
  have cut := Scanner.cut_token spelled (Token.Kind.endsBefore_nil _)
  rw [List.append_nil, Scanner.cut_nil] at cut
  rw [tokenize_eq_cut, Text.unifyLineEndings_of_not_mem noReturn]
  exact cut

theorem parse_symbol_of_leaf {word : String} {node : Node}
    (symbol : Name.IsSymbol word.toList)
    (reads : Word.ofText word = .leaf node) : parse word = .ok [node] := by
  have called :
      Builder.start.action? ⟨.symbol, some word, .start⟩ = .ok (.add node) :=
    Builder.action?_eq_ok_iff.mpr (.leaf rfl reads)
  simp only [parse, tokenize_symbol symbol, read, feed, Builder.read, called]
  rfl

theorem parse_symbol_of_argument {word : String} {placeholder : Placeholder}
    (symbol : Name.IsSymbol word.toList)
    (reads : Word.ofText word = .argument placeholder) :
    parse word = .error (.notAnonymousFunction word) := by
  have refused : Builder.start.action? ⟨.symbol, some word, .start⟩ =
      .error (.notAnonymousFunction word) := by
    simp [Builder.action?, Builder.start, Builder.valueAction?,
      Builder.symbolAction?, reads]
  simp only [parse, tokenize_symbol symbol, read, feed, Builder.read, refused]

/-- What comes of a text that is one word. Which it is depends on how the word
is written. -/
inductive StandsFor (word : String) : Except ReadError (List Node) → Prop
  | float {numeral : Numeral} :
      numeral.WrittenAs word.toList →
      numeral.fraction? ≠ none →
      StandsFor word (.ok [.float numeral.nearest word])
  | exact {numeral : Numeral} {value : Int64} :
      numeral.WrittenAs word.toList →
      numeral.fraction? = none →
      -2 ^ 63 ≤ numeral.denoted ∧ numeral.denoted ≤ 2 ^ 63 - 1 →
      value.toInt = numeral.denoted →
      StandsFor word (.ok [.integer (.exact value) word])
  | approximate {numeral : Numeral} :
      numeral.WrittenAs word.toList →
      numeral.fraction? = none →
      ¬ (-2 ^ 63 ≤ numeral.denoted ∧ numeral.denoted ≤ 2 ^ 63 - 1) →
      StandsFor word (.ok [.integer (.approximate numeral.nearest) word])
  | argument :
      IsArgument word →
      StandsFor word (.error (.notAnonymousFunction word))
  | nil :
      word = "nil" →
      StandsFor word (.ok [.literal .nil])
  | boolean {value : Bool} :
      word = toString value →
      StandsFor word (.ok [.literal (.boolean value)])
  | identifier :
      (∀ numeral : Numeral, ¬ numeral.WrittenAs word.toList) →
      ¬ IsArgument word →
      word ∉ ["nil", "true", "false"] →
      StandsFor word (.ok [.identifier (Name.normalize word)])

namespace StandsFor

/-- What a word stands for is what the text of this one word is read as. -/
theorem parse_eq {word : String} (symbol : Name.IsSymbol word.toList)
    {outcome : Except ReadError (List Node)} (stands : StandsFor word outcome) :
    parse word = outcome := by
  cases stands with
  | float writing point =>
      have reads := Word.ofText_of_writtenAs writing
      rw [Numeral.node_of_point point] at reads
      exact parse_symbol_of_leaf symbol reads
  | exact writing noPoint _ same =>
      have reads := Word.ofText_of_writtenAs writing
      rw [Numeral.node_of_no_point noPoint,
        Numeral.integerValue_of_toInt same] at reads
      exact parse_symbol_of_leaf symbol reads
  | approximate writing noPoint outside =>
      have reads := Word.ofText_of_writtenAs writing
      rw [Numeral.node_of_no_point noPoint,
        Numeral.integerValue_of_not_range outside] at reads
      exact parse_symbol_of_leaf symbol reads
  | argument isArgument =>
      obtain ⟨placeholder, reads⟩ :=
        (Word.exists_argument_iff word).mpr isArgument
      exact parse_symbol_of_argument symbol reads
  | nil same =>
      subst same
      exact parse_symbol_of_leaf symbol rfl
  | @boolean value same =>
      subst same
      cases value <;> exact parse_symbol_of_leaf symbol rfl
  | identifier notNumeral notArgument notLiteral =>
      have notPlaceholder : Placeholder.ofText? word = none := by
        rw [Option.eq_none_iff_forall_ne_some]
        intro placeholder found
        exact notArgument
          ((Placeholder.exists_ofText?_iff word).mp ⟨placeholder, found⟩)
      have reads := Word.ofText_of_name notNumeral notPlaceholder
      simp only [List.mem_cons, List.not_mem_nil, or_false,
        not_or] at notLiteral
      obtain ⟨notNil, notTrue, notFalse⟩ := notLiteral
      rw [Node.ofName, if_neg notNil, if_neg notTrue, if_neg notFalse] at reads
      exact parse_symbol_of_leaf symbol reads

end StandsFor

/-- Every word stands for something. -/
theorem exists_standsFor (word : String) :
    ∃ outcome, StandsFor word outcome := by
  by_cases isNumeral : ∃ numeral : Numeral, numeral.WrittenAs word.toList
  · obtain ⟨numeral, writing⟩ := isNumeral
    by_cases noPoint : numeral.fraction? = none
    · by_cases inRange : -2 ^ 63 ≤ numeral.denoted ∧
        numeral.denoted ≤ 2 ^ 63 - 1
      · obtain ⟨value, same⟩ := Numeral.exists_toInt_of_range inRange
        exact ⟨_, .exact writing noPoint inRange same⟩
      · exact ⟨_, .approximate writing noPoint inRange⟩
    · exact ⟨_, .float writing noPoint⟩
  · by_cases isArgument : IsArgument word
    · exact ⟨_, .argument isArgument⟩
    · by_cases isLiteral : word ∈ ["nil", "true", "false"]
      · simp only [List.mem_cons, List.not_mem_nil, or_false] at isLiteral
        rcases isLiteral with isNil | isTrue | isFalse
        · exact ⟨_, .nil isNil⟩
        · exact ⟨.ok [.literal (.boolean true)], .boolean isTrue⟩
        · exact ⟨.ok [.literal (.boolean false)], .boolean isFalse⟩
      · exact ⟨_, .identifier (not_exists.mp isNumeral) isArgument isLiteral⟩

/-- A word that is a whole text is one token at its start, and what comes of
the text is what the word stands for, and nothing else. -/
theorem parse_word {word : String} (symbol : Name.IsSymbol word.toList) :
    tokenize word = .ok [⟨.symbol, some word, .start⟩] ∧
      ∀ outcome, parse word = outcome ↔ StandsFor word outcome := by
  refine ⟨tokenize_symbol symbol, ?_⟩
  intro outcome
  constructor
  · rintro rfl
    obtain ⟨found, stands⟩ := exists_standsFor word
    rw [stands.parse_eq symbol]
    exact stands
  · exact fun stands => stands.parse_eq symbol

/-- The smallest integer that is exact, with zeros in front of it, its
opposite, which is not, and a placeholder outside every function. -/
theorem parse_word_limits :
    (Name.IsSymbol "-009223372036854775808".toList ∧
      parse "-009223372036854775808" =
        .ok [.integer (.exact Int64.minValue) "-009223372036854775808"]) ∧
    (Name.IsSymbol "+9223372036854775808".toList ∧
      parse "+9223372036854775808" =
        .ok
          [.integer (.approximate
              (Numeral.nearest ⟨false, "9223372036854775808".toList, none⟩))
          "+9223372036854775808"]) ∧
    (Name.IsSymbol "%7".toList ∧
      tokenize "%7" = .ok [⟨.symbol, some "%7", ⟨1, 1⟩⟩] ∧
      parse "%7" = .error (.notAnonymousFunction "%7")) := by
  have least : Name.IsSymbol "-009223372036854775808".toList := by decide
  have beyond : Name.IsSymbol "+9223372036854775808".toList := by decide
  have numbered : Name.IsSymbol "%7".toList := by decide
  have leastWritten :
      Numeral.WrittenAs ⟨true, "009223372036854775808".toList, none⟩
      "-009223372036854775808".toList :=
        (Numeral.ofChars?_eq_some_iff _ _).mp rfl
  have beyondWritten :
      Numeral.WrittenAs ⟨false, "9223372036854775808".toList, none⟩
      "+9223372036854775808".toList := (Numeral.ofChars?_eq_some_iff _ _).mp rfl
  refine ⟨⟨least, ?_⟩, ⟨beyond, ?_⟩, numbered, (parse_word numbered).1, ?_⟩
  · exact ((parse_word least).2 _).mpr (.exact leastWritten rfl (by decide) rfl)
  · exact ((parse_word beyond).2 _).mpr
      (.approximate beyondWritten rfl (by decide))
  · exact ((parse_word numbered).2 _).mpr (.argument (.inr ⟨'7', rfl, rfl⟩))

end LispReader
