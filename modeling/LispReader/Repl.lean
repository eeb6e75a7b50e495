import LispReader.Command.View
import LispReader.History
import LispReader.Session

/-!
# The interactive reader

An interactive reader asks for a line, answers it and asks again. The prompt
shows a number that goes up with each text that is begun, and whether lines are
pending.
-/

namespace LispReader

/-- An interactive reader: its session, the number of its last prompt and the
lines entered. -/
structure Repl where
  session : Session
  number : Nat
  history : History
deriving DecidableEq, Repr

namespace Repl

def start (history : History) : Repl := ⟨.start, 0, history⟩

def greeting (historyLoaded : Bool) : String :=
  "clast v0.1.0 - Clojure reader\n" ++
    (if historyLoaded then "" else "No previous history.\n")

def farewell : String := "CTRL-D\n"

/-- What is printed for a line that is not UTF-8, which ends the reading. -/
def unreadable : String :=
  "Error: Io(Error \x7b kind: InvalidData, " ++
    "message: \"stream did not contain valid UTF-8\" \x7d)\n"

/-- Asks for a line. A prompt with nothing pending begins a new text and gets
the next number. -/
def ask (repl : Repl) : Repl × String :=
  if repl.session.pending.isEmpty then
    let number := repl.number + 1
    ({ repl with number := number }, "clast(" ++ toString number ++ ")> ")
  else
    (repl, ".....(" ++ toString repl.number ++ ")> ")

theorem session_ask (repl : Repl) : repl.ask.1.session = repl.session := by
  unfold ask
  split <;> rfl

theorem number_ask_of_nil {repl : Repl} (nothing : repl.session.pending = []) :
    repl.ask.1.number = repl.number + 1 := by
  simp [ask, nothing]

theorem number_ask_of_ne_nil {repl : Repl}
    (waiting : repl.session.pending ≠ []) :
    repl.ask.1.number = repl.number := by
  simp [ask, waiting]

/-- What is printed for a reply. Tokens are those of the whole text that was
read. -/
def printed (view : View) : Reply → String
  | .incomplete => ""
  | .failed error => error.message ++ "\n"
  | .completed source nodes =>
      match view with
      | .trees format => format.render nodes
      | .tokens =>
          match tokenize source with
          | .ok tokens => View.renderTokens tokens
          | .error error => "Error: " ++ error.message ++ "\n"

/-- Takes a line and answers it. The history keeps the line as it was entered;
blanks at its end are not read. -/
def answer (view : View) (repl : Repl) (line : String) : Repl × String :=
  let (session, reply) := repl.session.read (Text.trimEnd line)
  ({ repl with session := session, history := repl.history.add line },
      printed view reply)

/-- A prompt and what was printed after it. -/
structure Exchange where
  prompt : String
  answer : String
deriving DecidableEq, Repr

/-- Asks for each line in turn, and once more at the end. A line that is
missing ends the run. -/
def run (view : View) (repl : Repl) : List (Option String) →
    List Exchange × Repl
  | [] => ([⟨repl.ask.2, farewell⟩], repl.ask.1)
  | none :: _ => ([⟨repl.ask.2, unreadable⟩], repl.ask.1)
  | some line :: rest =>
      let (asked, prompt) := repl.ask
      let (next, answer) := asked.answer view line
      let (exchanges, last) := run view next rest
      (⟨prompt, answer⟩ :: exchanges, last)

def transcript (exchanges : List Exchange) : String :=
  String.join (exchanges.map fun exchange => exchange.prompt ++ exchange.answer)

end Repl

end LispReader
