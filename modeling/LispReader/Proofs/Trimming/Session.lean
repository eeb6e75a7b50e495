import LispReader.Proofs.Trimming.Building
import LispReader.Repl

/-!
# Sessions on trimmed lines

An interactive reader prints the replies of a session on the trimmed lines.
Beside a session that reads the lines as they are, as long as that one takes
them, the session on trimmed lines stays in step: the same texts are complete,
and the nodes are the same but for the blanks that strings, patterns and
comments have lost. Main statement: `readAll_trimEnd`.
-/

namespace LispReader

/-- Whether two replies are alike: both bring nodes, and these are alike, or
both ask for more. -/
inductive Reply.Alike (strings comments : List Char → List Char → Prop) :
    Reply → Reply → Prop
  | completed (source other : String) {nodes others : List Node} :
      List.Forall₂ (Node.Alike strings comments) nodes others →
      Alike strings comments (.completed source nodes) (.completed other others)
  | incomplete : Alike strings comments .incomplete .incomplete

namespace Session

variable {strings comments : List Char → List Char → Prop}

/-- Whether a step of a session on trimmed lines is alike to a step of the
session on the lines. -/
structure StepsAlike (strings comments : List Char → List Char → Prop)
    (step other : Session × Reply) : Prop where
  pending : other.1.pending = step.1.pending.map Text.trimEnd
  reply : Reply.Alike strings comments step.2 other.2

/-- A line that is taken is taken in step when it is trimmed. -/
theorem stepsAlike_read {session other : Session} {line : String}
    (pending : other.pending = session.pending.map Text.trimEnd)
    (parses : OutcomeAlike (List.Forall₂ (Node.Alike strings comments))
      (parse (Text.joinLines (session.pending ++ [line])))
      (parse (Text.joinLines ((session.pending ++ [line]).map Text.trimEnd))))
    (taken : ∀ error, (session.read line).2 ≠ .failed error) :
    StepsAlike strings comments (session.read line)
      (other.read (Text.trimEnd line)) := by
  have lines : (session.pending ++ [line]).map Text.trimEnd =
      other.pending ++ [Text.trimEnd line] := by simp [pending]
  rw [lines] at parses
  generalize outcome : parse (Text.joinLines (session.pending ++ [line])) =
    result at parses
  generalize otherOutcome :
    parse (Text.joinLines (other.pending ++ [Text.trimEnd line])) =
      otherResult at parses
  cases parses with
  | ok nodes =>
      rw [read_of_ok outcome, read_of_ok otherOutcome]
      exact ⟨rfl, .completed _ _ nodes⟩
  | incomplete error otherError =>
      rw [read_of_incomplete outcome error,
        read_of_incomplete otherOutcome otherError]
      exact ⟨lines.symm, .incomplete⟩
  | @final error _ final =>
      have failed := read_of_error outcome final
      exact absurd (congrArg Prod.snd failed) (taken error)

theorem mem_of_mem_pending {session : Session} {line other : String}
    (member : other ∈ (session.read line).1.pending) :
    other ∈ session.pending ++ [line] := by
  unfold Session.read at member
  dsimp only at member
  split at member
  · cases member
  · split at member
    · exact member
    · cases member

/-- Two sessions with the same lines pending but for their trimming go on
alike. -/
theorem stepsAlike_readAll {allowed : String → Prop}
    (parses : ∀ lines : List String, (∀ line ∈ lines, allowed line) →
      OutcomeAlike (List.Forall₂ (Node.Alike strings comments))
        (parse (Text.joinLines lines))
        (parse (Text.joinLines (lines.map Text.trimEnd))))
    {session other : Session} {lines : List String}
    (pending : other.pending = session.pending.map Text.trimEnd)
    (pendingAllowed : ∀ line ∈ session.pending, allowed line)
    (linesAllowed : ∀ line ∈ lines, allowed line)
    (taken : ∀ step ∈ session.readAll lines, ∀ error, step.2 ≠ .failed error) :
    List.Forall₂ (StepsAlike strings comments) (session.readAll lines)
      (other.readAll (lines.map Text.trimEnd)) := by
  induction lines generalizing session other with
  | nil => exact .nil
  | cons line rest inductionHypothesis =>
      obtain ⟨lineAllowed, restAllowed⟩ := List.forall_mem_cons.mp linesAllowed
      obtain ⟨lineTaken, restTaken⟩ := List.forall_mem_cons.mp taken
      have longerAllowed :
          ∀ other ∈ session.pending ++ [line], allowed other := by
        simpa [or_imp, forall_and] using ⟨pendingAllowed, lineAllowed⟩
      have first := stepsAlike_read pending (parses _ longerAllowed) lineTaken
      have nextAllowed :
          ∀ other ∈ (session.read line).1.pending, allowed other :=
        fun other member => longerAllowed other (mem_of_mem_pending member)
      exact .cons first
        (inductionHypothesis first.pending nextAllowed restAllowed restTaken)

end Session

/-- What an interactive reader prints are the replies of its session to the
trimmed lines. -/
theorem Repl.answers_run (view : View) (repl : Repl) (lines : List String) :
    (repl.run view (lines.map some)).1.map Exchange.answer =
      (repl.session.readAll (lines.map Text.trimEnd)).map
        (fun step => printed view step.2) ++
        [farewell] := by
  induction lines generalizing repl with
  | nil => rfl
  | cons line rest inductionHypothesis =>
      have later := inductionHypothesis (repl.ask.1.answer view line).1
      have session : (repl.ask.1.answer view line).1.session =
          (repl.session.read (Text.trimEnd line)).1 := by
        simp only [answer, session_ask]
      have here : (repl.ask.1.answer view line).2 =
          printed view (repl.session.read (Text.trimEnd line)).2 := by
        simp only [answer, session_ask]
      rw [session] at later
      simp only [List.map_cons, run, Session.readAll, List.cons_append,
        later, here]

/-- When a session takes every line, trimming the lines first changes no
outcome, and no node except that strings and patterns may lose blanks directly
before line feeds and comments the blanks at their ends. Where no line holds a
line ending, they lose all of these. -/
theorem readAll_trimEnd {lines : List String}
    (taken : ∀ step ∈ Session.start.readAll lines, ∀ error,
      step.2 ≠ .failed error) :
    List.Forall₂ (Session.StepsAlike Text.LosesBlanks Text.LosesEnd)
      (Session.start.readAll lines)
        (Session.start.readAll (lines.map Text.trimEnd)) ∧
    ((∀ line ∈ lines, '\n' ∉ line.toList ∧ '\r' ∉ line.toList) →
      List.Forall₂
        (Session.StepsAlike (fun text left => left = Text.trimLines text)
          fun text left =>
            String.ofList left = Text.trimEnd (String.ofList text))
        (Session.start.readAll lines)
          (Session.start.readAll (lines.map Text.trimEnd))) := by
  constructor
  · refine @Session.stepsAlike_readAll _ _ (fun _ => True) ?_ _ _ _ rfl nofun
      ?_ taken
    · intro some _
      obtain ⟨strokes, last, written⟩ := Text.exists_written some
      exact parse_trimEnd written (Scanner.relates_losses written.blanksOnly)
    · exact fun _ _ => trivial
  · intro plain
    refine Session.stepsAlike_readAll ?_ rfl nofun plain taken
    intro some somePlain
    obtain ⟨strokes, last, written⟩ := Text.exists_written some
    exact parse_trimEnd written
      (Scanner.relates_trimmed written.blanksOnly (written.thorough somePlain))

theorem readAll_trimEnd_of_broken_list :
    (∀ step ∈ Session.start.readAll ["(a ;c  ", "b)\t"], ∀ error,
        step.2 ≠ .failed error) ∧
    (∀ line ∈ ["(a ;c  ", "b)\t"], '\n' ∉ line.toList ∧ '\r' ∉ line.toList) ∧
    List.Forall₂ (Session.StepsAlike Text.LosesBlanks Text.LosesEnd)
      (Session.start.readAll ["(a ;c  ", "b)\t"])
      (Session.start.readAll (["(a ;c  ", "b)\t"].map Text.trimEnd)) ∧
    List.Forall₂
      (Session.StepsAlike (fun text left => left = Text.trimLines text)
        fun text left => String.ofList left = Text.trimEnd (String.ofList text))
      (Session.start.readAll ["(a ;c  ", "b)\t"])
      (Session.start.readAll (["(a ;c  ", "b)\t"].map Text.trimEnd)) := by
  have replies : Session.start.readAll ["(a ;c  ", "b)\t"] =
      [(⟨["(a ;c  "]⟩, .incomplete),
        (.start, .completed "(a ;c  \nb)\t"
          [.list [.identifier "a", .comment "c  ", .identifier "b"]])] := rfl
  have taken : ∀ step ∈ Session.start.readAll ["(a ;c  ", "b)\t"], ∀ error,
      step.2 ≠ .failed error := by
    simp [replies]
  have plain : ∀ line ∈ ["(a ;c  ", "b)\t"], '\n' ∉ line.toList ∧
      '\r' ∉ line.toList := by decide
  exact ⟨taken, plain, (readAll_trimEnd taken).1,
    (readAll_trimEnd taken).2 plain⟩

/-- Blanks at the end of a line inside a string are part of the string, and
trimming loses them. -/
theorem readAll_trimEnd_of_broken_string :
    Session.start.readAll ["\"a  ", "b\""] =
      [(⟨["\"a  "]⟩, .incomplete),
        (.start, .completed "\"a  \nb\"" [.string "a  \nb"])] ∧
    Session.start.readAll (["\"a  ", "b\""].map Text.trimEnd) =
      [(⟨["\"a"]⟩, .incomplete),
        (.start, .completed "\"a\nb\"" [.string "a\nb"])] ∧
    [Node.string "a  \nb"] ≠ [.string "a\nb"] :=
  ⟨rfl, rfl, by simp⟩

end LispReader
