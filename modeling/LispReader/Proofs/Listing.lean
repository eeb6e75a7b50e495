import LispReader.Command.View
import LispReader.Proofs.Decimal
import LispReader.Proofs.Quoted

/-!
# Listings of tokens read back

A listing has one line for each token, and the line tells the token: its kind
up to the sign `@`, the line it stands in up to the colon, its column up to the
last digit, and behind that its text, if it has one. Main statement:
`renderTokens_reads_back`.
-/

namespace LispReader

namespace Token

theorem Kind.at_not_mem_name (kind : Kind) : '@' ∉ kind.name.toList := by
  cases kind <;> decide

theorem Kind.lineFeed_not_mem_name (kind : Kind) : '\n' ∉ kind.name.toList := by
  cases kind <;> decide

def listedText : Option String → List Char
  | none => []
  | some text => ' ' :: (Text.quoted text).toList

theorem toList_listing (token : Token) :
    token.listing.toList =
      token.kind.name.toList ++ '@' :: (token.position.line.repr.toList ++
        ':' ::
          (token.position.column.repr.toList ++ listedText token.text)) := by
  obtain ⟨kind, _ | text, position⟩ := token <;>
    simp [listing, listedText, Position.label, toString]

theorem listedText_injective : Function.Injective listedText := by
  intro text other same
  cases text with
  | none =>
      cases other with
      | none => rfl
      | some written => cases same
  | some text =>
      cases other with
      | none => cases same
      | some written =>
          have ended : (Text.quoted text).toList ++ [] =
              (Text.quoted written).toList ++ [] := by
            rw [(List.cons.inj same).2]
          rw [(Text.quoted_append_inj ended).1]

theorem takeWhile_column (column : Nat) (text : Option String) :
    (column.repr.toList ++ listedText text).takeWhile Char.isDigit =
      column.repr.toList := by
  rw [List.takeWhile_append_of_pos (Decimal.isDigit_of_mem_repr column)]
  cases text <;> simp [listedText]

theorem column_append_inj {column other : Nat} {text written : Option String}
    (same : column.repr.toList ++ listedText text =
      other.repr.toList ++ listedText written) :
    column = other ∧ text = written := by
  have digits := congrArg (List.takeWhile Char.isDigit) same
  rw [takeWhile_column, takeWhile_column] at digits
  obtain rfl := Decimal.eq_of_toList_repr_eq digits
  exact ⟨rfl, listedText_injective (List.append_cancel_left same)⟩

/-- Each line tells its token. -/
theorem listing_injective : Function.Injective listing := by
  intro token other same
  have characters := congrArg String.toList same
  rw [toList_listing, toList_listing] at characters
  obtain ⟨names, places⟩ :=
    Text.append_cons_inj_of_not_mem token.kind.at_not_mem_name
      other.kind.at_not_mem_name characters
  obtain ⟨lines, columns⟩ :=
    Text.append_cons_inj_of_not_mem (Decimal.not_mem_repr rfl _)
      (Decimal.not_mem_repr rfl _) places
  obtain ⟨column, text⟩ := column_append_inj columns
  obtain ⟨kind, content, ⟨line, place⟩⟩ := token
  obtain ⟨otherKind, otherContent, ⟨otherLine, otherPlace⟩⟩ := other
  obtain rfl : kind = otherKind :=
    Kind.name_injective (String.toList_injective names)
  obtain rfl : line = otherLine := Decimal.eq_of_toList_repr_eq lines
  obtain rfl : place = otherPlace := column
  obtain rfl : content = otherContent := text
  rfl

theorem lineFeed_not_mem_listing (token : Token) :
    '\n' ∉ token.listing.toList := by
  have digits (number : Nat) : '\n' ∉ number.repr.toList :=
    Decimal.not_mem_repr rfl number
  have text : '\n' ∉ listedText token.text := by
    cases token.text with
    | none => exact List.not_mem_nil
    | some text => simp [listedText, Text.lineFeed_not_mem_quoted]
  rw [toList_listing]
  simp only [List.mem_append, List.mem_cons, not_or]
  exact ⟨token.kind.lineFeed_not_mem_name, by
    decide, digits _, by decide, digits _, text⟩

end Token

/-- Lines that are ended by line feeds and hold none are told by them. -/
theorem Text.splitOn_endLines {lines : List String}
    (inLine : ∀ line ∈ lines, '\n' ∉ line.toList) :
    (endLines lines).toList.splitOn '\n' = lines.map String.toList ++ [[]] := by
  induction lines with
  | nil => rfl
  | cons line later inductionHypothesis =>
      obtain ⟨first, others⟩ := List.forall_mem_cons.mp inLine
      have noFeed : ∀ character ∈ line.toList, (character == '\n') = false := by
        intro character member
        exact beq_false_of_ne fun same => first (same ▸ member)
      have split : (endLines (line :: later)).toList =
          line.toList ++ '\n' :: (endLines later).toList := by
        simp [endLines]
      rw [split, List.splitOn,
        List.splitOnP_append_cons_of_forall_mem noFeed _ rfl, List.map_cons,
        List.cons_append, ← inductionHypothesis others, List.splitOn]

theorem splitOn_renderTokens (tokens : List Token) :
    (View.renderTokens tokens).toList.splitOn '\n' =
      tokens.map (fun token => token.listing.toList) ++ [[]] := by
  have inLine : ∀ line ∈ tokens.map Token.listing, '\n' ∉ line.toList :=
    List.forall_mem_map.mpr fun token _ => token.lineFeed_not_mem_listing
  rw [View.renderTokens, Text.splitOn_endLines inLine, List.map_map]
  rfl

theorem renderTokens_injective : Function.Injective View.renderTokens := by
  intro tokens others same
  have lines := congrArg (fun listing => listing.toList.splitOn '\n') same
  rw [splitOn_renderTokens, splitOn_renderTokens] at lines
  have listed := List.append_cancel_right lines
  exact (List.map_inj_right fun token other equal =>
    Token.listing_injective (String.toList_injective equal)).mp listed

/-- A listing has one line for each token, no line holds a line feed, and the
tokens are read back from the lines. -/
theorem renderTokens_reads_back (tokens : List Token) :
    (∀ token : Token, '\n' ∉ token.listing.toList) ∧
    (View.renderTokens tokens).toList.splitOn '\n' =
      tokens.map (fun token => token.listing.toList) ++ [[]] ∧
    (∀ others, View.renderTokens others = View.renderTokens tokens ↔
        others = tokens) ∧
    (∀ text, View.tokens.render text = .ok (View.renderTokens tokens) ↔
      tokenize text = .ok tokens) := by
  refine ⟨Token.lineFeed_not_mem_listing, splitOn_renderTokens tokens,
    fun others => renderTokens_injective.eq_iff, fun text => ?_⟩
  cases outcome : tokenize text with
  | error error => simp [View.render, outcome, Except.map]
  | ok found =>
      simp [View.render, outcome, Except.map, renderTokens_injective.eq_iff]

end LispReader
