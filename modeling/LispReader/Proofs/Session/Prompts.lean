import LispReader.Proofs.Joining
import LispReader.Proofs.Session.Division
import LispReader.Proofs.View
import LispReader.Repl

/-!
# Prompts

An interactive reader counts the groups into which its session divides the
lines. All prompts of one group bear the number of the group, and the first of
them looks unlike the others. What is printed behind a prompt is nothing for a
line that waits, and what has come of the group for its last line. Main
statement: `exists_division_of_run`.
-/

namespace LispReader

namespace Repl

/-- The prompt for a group with this number when so many of its lines are
pending. -/
def promptAt (number pending : Nat) : String :=
  if pending = 0 then "clast(" ++ toString number ++ ")> "
    else ".....(" ++ toString number ++ ")> "

/-- What is printed at the first lines of a group, while all of them wait. -/
def waitingExchanges (number count : Nat) : List Exchange :=
  (List.range count).map fun pending => ⟨promptAt number pending, ""⟩

def groupExchanges (view : View) (number : Nat) (group : List String) :
    List Exchange :=
  waitingExchanges number (group.length - 1) ++
    [⟨promptAt number (group.length - 1),
        printed view (.ofText (Text.joinLines group))⟩]

/-- What is printed at the lines of a division. Groups are numbered from one,
and the lines that are left bear the number after that of the last group. -/
def exchanges (view : View) (division : Division) : List Exchange :=
  (division.groups.zipIdx 1).flatMap
    (fun numbered => groupExchanges view numbered.2 numbered.1) ++
    waitingExchanges (division.groups.length + 1) division.pending.length

theorem exchanges_wait (view : View) (division : Division) (line : String) :
    exchanges view ⟨division.groups, division.pending ++ [line]⟩ =
      exchanges view division ++
        [⟨promptAt (division.groups.length + 1) division.pending.length,
            ""⟩] := by
  simp [exchanges, waitingExchanges, List.range_succ]

theorem exchanges_close (view : View) (division : Division) (line : String) :
    exchanges view ⟨division.groups ++ [division.pending ++ [line]], []⟩ =
      exchanges view division ++
        [⟨promptAt (division.groups.length + 1) division.pending.length,
          printed view
            (.ofText (Text.joinLines (division.pending ++ [line])))⟩] := by
  simp [exchanges, groupExchanges, waitingExchanges, List.zipIdx_append,
    Nat.add_comm]

/-- Whether a reader that has got this far with its lines is in step with their
division. -/
structure InStep (repl : Repl) (division : Division) : Prop where
  session : repl.session = ⟨division.pending⟩
  number : repl.ask.1.number = division.groups.length + 1

theorem inStep_start (history : History) : (start history).InStep ⟨[], []⟩ :=
    ⟨rfl, rfl⟩

variable {repl : Repl} {division : Division}

theorem InStep.prompt (inStep : repl.InStep division) :
    repl.ask.2 =
      promptAt (division.groups.length + 1) division.pending.length := by
  have pending : repl.session.pending = division.pending :=
    congrArg Session.pending inStep.session
  rw [← inStep.number, ← pending]
  by_cases nothing : repl.session.pending = []
  · simp [ask, promptAt, nothing]
  · simp [ask, promptAt, nothing]

/-- A line with which the text is still incomplete leaves the reader in the
same group. -/
theorem InStep.wait (inStep : repl.InStep division) (view : View)
    {line : String}
    (incomplete : IsIncomplete (division.pending ++ [Text.trimEnd line])) :
    (repl.ask.1.answer view line).2 = "" ∧
      (repl.ask.1.answer view line).1.InStep
        ⟨division.groups, division.pending ++ [Text.trimEnd line]⟩ := by
  have read : repl.ask.1.session.read (Text.trimEnd line) =
      (⟨division.pending ++ [Text.trimEnd line]⟩, .incomplete) := by
    rw [session_ask, inStep.session]
    exact Session.read_of_isIncomplete incomplete
  have answered : repl.ask.1.answer view line =
      ({ repl.ask.1 with
          session := ⟨division.pending ++ [Text.trimEnd line]⟩
          history := repl.ask.1.history.add line }, "") := by
    simp only [answer, read, printed]
  rw [answered]
  refine ⟨rfl, rfl, ?_⟩
  rw [number_ask_of_ne_nil (by simp)]
  exact inStep.number

/-- Any other line ends the group, whether it can be read or not. -/
theorem InStep.close (inStep : repl.InStep division) (view : View)
    {line : String}
    (complete : ¬ IsIncomplete (division.pending ++ [Text.trimEnd line])) :
    (repl.ask.1.answer view line).2 =
        printed view
          (.ofText (Text.joinLines (division.pending ++ [Text.trimEnd line]))) ∧
      (repl.ask.1.answer view line).1.InStep
        ⟨division.groups ++ [division.pending ++ [Text.trimEnd line]], []⟩ := by
  have read : repl.ask.1.session.read (Text.trimEnd line) =
      (.start,
          .ofText
            (Text.joinLines (division.pending ++ [Text.trimEnd line]))) := by
    rw [session_ask, inStep.session]
    exact Session.read_of_not_isIncomplete complete
  have answered : repl.ask.1.answer view line =
      ({ repl.ask.1 with
          session := .start, history := repl.ask.1.history.add line },
        printed view
          (.ofText
              (Text.joinLines (division.pending ++ [Text.trimEnd line])))) := by
    simp only [answer, read]
  rw [answered]
  refine ⟨rfl, rfl, ?_⟩
  rw [number_ask_of_nil rfl, List.length_append, List.length_singleton]
  exact congrArg (· + 1) inStep.number

theorem run_some_cons (view : View) (repl : Repl) (line : String)
    (later : List (Option String)) :
    (repl.run view (some line :: later)).1 =
      ⟨repl.ask.2, (repl.ask.1.answer view line).2⟩ ::
        ((repl.ask.1.answer view line).1.run view later).1 := by
  simp only [run]

/-- What is printed from here on makes what was printed for a division what is
printed for the division of all the lines. Each line either waits or ends a
group. -/
theorem InStep.run (inStep : repl.InStep division) {earlier : List String}
    (follows : Session.Follows division earlier) (view : View)
    (later : List String) :
    ∃ next, Session.Follows next (earlier ++ later.map Text.trimEnd) ∧
      exchanges view division ++ (repl.run view (later.map some)).1 =
        exchanges view next ++
          [⟨promptAt (next.groups.length + 1) next.pending.length,
              farewell⟩] := by
  induction later generalizing repl division earlier with
  | nil =>
      refine ⟨division, by rwa [List.map_nil, List.append_nil], ?_⟩
      rw [List.map_nil, run, inStep.prompt]
  | cons line rest inductionHypothesis =>
      have regrouped : earlier ++ (line :: rest).map Text.trimEnd =
          (earlier ++ [Text.trimEnd line]) ++ rest.map Text.trimEnd := by simp
      rw [regrouped, List.map_cons, run_some_cons, inStep.prompt]
      by_cases incomplete : IsIncomplete
        (division.pending ++ [Text.trimEnd line])
      · obtain ⟨nothing, still⟩ := inStep.wait view incomplete
        obtain ⟨next, nextFollows, printed⟩ :=
          inductionHypothesis still (follows.wait incomplete)
        refine ⟨next, nextFollows, ?_⟩
        rw [← printed, exchanges_wait, nothing, List.append_assoc,
          List.singleton_append]
      · obtain ⟨outcome, still⟩ := inStep.close view incomplete
        obtain ⟨next, nextFollows, printed⟩ :=
          inductionHypothesis still (follows.close incomplete)
        refine ⟨next, nextFollows, ?_⟩
        rw [← printed, exchanges_close, outcome, List.append_assoc,
          List.singleton_append]

/-- Whether this is what a view shows of a text that can be read, or else the
message of its error. -/
inductive Answers (view : View) (source : String) : String → Prop
  | shown {nodes : List Node} {output : String} :
      parse source = .ok nodes →
      view.Shows source output →
      Answers view source output
  | refused {error : ReadError} :
      parse source = .error error →
      Answers view source (error.message ++ "\n")

/-- A text that can be read can be shown in every view. -/
theorem answers_printed (view : View) (source : String) :
    Answers view source (printed view (.ofText source)) := by
  cases outcome : parse source with
  | error error =>
      rw [Reply.ofText, outcome]
      exact .refused outcome
  | ok nodes =>
      rw [Reply.ofText, outcome]
      refine .shown outcome ((view.render_eq_ok_iff source _).mp ?_)
      cases view with
      | trees format => simp [View.render, printed, outcome, Except.map]
      | tokens =>
          obtain ⟨tokens, cut, -⟩ := (parse_eq_ok_iff _ _).mp outcome
          simp [View.render, printed, cut, Except.map]

/-- The lines given to a new reader fall into groups, each as short as it can
be, and lines that are left. What is printed are the exchanges of this
division, and behind them the prompt that is next and the farewell. -/
theorem exists_division_of_run (view : View) (history : History)
    (lines : List String) :
    ∃ division : Division,
      division.lines = lines.map Text.trimEnd ∧ division.Greedy ∧
      ((start history).run view (lines.map some)).1 =
        exchanges view division ++
          [⟨promptAt (division.groups.length + 1) division.pending.length,
              farewell⟩] ∧
      ∀ source, Answers view source (printed view (.ofText source)) := by
  obtain ⟨division, follows, printed⟩ :=
    (inStep_start history).run Session.follows_nil view lines
  exact ⟨division, follows.whole, follows.greedy, printed, answers_printed view⟩

end Repl

end LispReader
