import LispReader.Proofs.Building.Run
import LispReader.Proofs.Scanning.Token

/-!
# Reading from the middle of a text

A builder that has read the front of a text makes of the rest what
`Builder.consume` says: the rest is cut into tokens, and the builder runs over
them. Gaps are passed over, and a token that is spelled out in front of the
rest does what it calls for.
-/

namespace LispReader

namespace Builder

open Scanner

/-- What a builder makes of characters that begin at a position. -/
def consume (builder : Builder) (position : Position) (characters : List Char) :
    Except ReadError (List Node) :=
  match cut position characters with
  | .ok tokens => builder.run tokens
  | .error refused => .error refused

@[simp]
theorem consume_nil (builder : Builder) (position : Position) :
    builder.consume position [] = builder.finish := rfl

theorem consume_gap {gap : List Char}
    (separates : ∀ character ∈ gap, isSeparator character = true)
    (builder : Builder) (position : Position) (following : List Char) :
    builder.consume position (gap ++ following) =
      builder.consume (position.advance gap) following := by
  rw [consume, cut_gap separates, consume]

theorem consume_token {builder : Builder} {token : Token}
    {source following : List Char} {action : Action}
    (spelled : token.Spelled source) (ends : token.kind.endsBefore following)
    (called : builder.action? token = .ok action) :
    builder.consume token.position (source ++ following) =
      (builder.perform action).consume (token.position.advance source)
        following := by
  rw [consume, cut_token spelled ends, consume]
  cases cut (token.position.advance source) following with
  | error refused => rfl
  | ok later => exact run_cons_of_ok called later

/-- A closing delimiter of any shape closes the innermost open collection. -/
theorem consume_closer {builder : Builder} {before : Lookback} {frame : Frame}
    {shape : Char} (waits : builder.expects = .value before)
    (innermost : builder.frames.head? = some frame)
    (closes : isCloser shape = true) (position : Position)
    (following : List Char) :
    builder.consume position (shape :: following) =
      (builder.perform (.leave frame)).consume (position.after shape)
        following := by
  have spelled : (Token.closer shape position).Spelled [shape] :=
    .closer ((isCloser_iff shape).mp closes)
  have called :
      builder.action? (Token.closer shape position) = .ok (.leave frame) :=
    action?_eq_ok_iff.mpr (.closer waits innermost)
  have ends : (Token.closer shape position).kind.endsBefore following :=
    fun _ _ => rfl
  exact consume_token spelled ends called

/-- No more closing delimiters than there are open collections leave the others
of these open. -/
theorem exists_finish_of_closers {builder : Builder} {before : Lookback}
    {shapes : List Char} (waits : builder.expects = .value before)
    (enough : shapes.length ≤ builder.frames.length)
    (closes : ∀ shape ∈ shapes, isCloser shape = true) (position : Position) :
    ∃ (reached : Builder) (sign : Lookback),
      builder.consume position shapes = reached.finish ∧
      reached.expects = .value sign ∧
      builder.frames.length = reached.frames.length + shapes.length := by
  induction shapes generalizing builder before position with
  | nil => exact ⟨builder, before, rfl, waits, rfl⟩
  | cons shape rest inductionHypothesis =>
      obtain ⟨isShape, restClose⟩ := List.forall_mem_cons.mp closes
      have nonempty : builder.frames ≠ [] := by
        intro empty
        simp [empty] at enough
      obtain ⟨frame, outer, frames⟩ := List.exists_cons_of_ne_nil nonempty
      have innermost : builder.frames.head? = some frame := by
        rw [frames, List.head?_cons]
      have depth : (builder.perform (.leave frame)).frames.length + 1 =
          builder.frames.length := by
        rw [perform, length_frames_add, List.length_tail, frames]
        rfl
      rw [List.length_cons] at enough
      obtain ⟨reached, sign, finished, reachedWaits, left⟩ :=
        @inductionHypothesis (builder.perform (.leave frame)) .plain
          (expects_add _ _) (by omega)
          restClose (position.after shape)
      refine ⟨reached, sign, ?_, reachedWaits, ?_⟩
      · rw [consume_closer waits innermost isShape, finished]
      · rw [List.length_cons]
        omega

/-- As many closing delimiters as there are open collections close them all. -/
theorem exists_consume_of_closers {builder : Builder} {before : Lookback}
    {shapes : List Char} (waits : builder.expects = .value before)
    (depth : builder.frames.length = shapes.length)
    (closes : ∀ shape ∈ shapes, isCloser shape = true) (position : Position) :
    ∃ nodes, builder.consume position shapes = .ok nodes := by
  obtain ⟨reached, sign, finished, reachedWaits, left⟩ :=
    exists_finish_of_closers waits (Nat.le_of_eq depth.symm) closes position
  have empty : reached.frames = [] := List.length_eq_zero_iff.mp (by omega)
  exact ⟨reached.top.reverse, by rw [finished, finish, reachedWaits, empty]⟩

/-- Fewer closing delimiters than there are open collections leave one of these
open. -/
theorem exists_unclosed_of_closers {builder : Builder} {before : Lookback}
    {shapes : List Char} (waits : builder.expects = .value before)
    (fewer : shapes.length < builder.frames.length)
    (closes : ∀ shape ∈ shapes, isCloser shape = true) (position : Position) :
    ∃ delimiter place,
      builder.consume position shapes = .error (.unclosed delimiter place) := by
  obtain ⟨reached, sign, finished, reachedWaits, left⟩ :=
    exists_finish_of_closers waits (Nat.le_of_lt fewer) closes position
  have nonempty : reached.frames ≠ [] := by
    intro empty
    rw [empty, List.length_nil] at left
    omega
  obtain ⟨frame, outer, frames⟩ := List.exists_cons_of_ne_nil nonempty
  refine ⟨frame.enclosure.opener, frame.position, ?_⟩
  rw [finished, finish, reachedWaits, frames]

end Builder

theorem parse_eq_consume (text : String) :
    parse text =
      Builder.start.consume .start (Text.unifyLineEndings text.toList) := by
  rw [parse, tokenize_eq_cut, Builder.consume]
  cases Scanner.cut .start (Text.unifyLineEndings text.toList) with
  | error refused => rfl
  | ok tokens => exact read_eq_run tokens

theorem parse_eq_ok_iff (text : String) (nodes : List Node) :
    parse text = .ok nodes ↔
      ∃ tokens, tokenize text = .ok tokens ∧ read tokens = .ok nodes := by
  unfold parse
  cases tokenize text <;> simp

end LispReader
