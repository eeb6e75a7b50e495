import LispReader.Reading

/-!
# Sessions

A session reads a text line by line. Lines are kept until together they can be
read, or until no further line could make them readable.
-/

namespace LispReader

/-- A session: the lines that wait for more. -/
structure Session where
  pending : List String
deriving DecidableEq, Repr

inductive Reply where
  /-- The pending lines and this one, joined, were read. -/
  | completed (source : String) (nodes : List Node)
  | incomplete
  | failed (error : ReadError)

def Reply.nodes : Reply → List Node
  | .completed _ nodes => nodes
  | _ => []

namespace Session

def start : Session := ⟨[]⟩

/-- Reads one more line. Only an incomplete text stays pending. -/
def read (session : Session) (line : String) : Session × Reply :=
  let lines := session.pending ++ [line]
  let source := Text.joinLines lines
  match parse source with
  | .ok nodes => (⟨[]⟩, .completed source nodes)
  | .error error =>
      if error.isIncomplete then (⟨lines⟩, .incomplete)
        else (⟨[]⟩, .failed error)

theorem read_of_ok {session : Session} {line : String} {nodes : List Node}
    (success : parse (Text.joinLines (session.pending ++ [line])) = .ok nodes) :
    session.read line =
      (start,
          .completed (Text.joinLines (session.pending ++ [line])) nodes) := by
  simp only [read, success, start]

theorem read_of_incomplete {session : Session} {line : String}
    {error : ReadError}
    (failed : parse (Text.joinLines (session.pending ++ [line])) = .error error)
    (incomplete : error.isIncomplete = true) :
    session.read line = (⟨session.pending ++ [line]⟩, .incomplete) := by
  simp only [read, failed, if_pos incomplete]

theorem read_of_error {session : Session} {line : String} {error : ReadError}
    (failed : parse (Text.joinLines (session.pending ++ [line])) = .error error)
    (final : error.isIncomplete = false) :
    session.read line = (start, .failed error) := by
  simp [read, failed, final, start]

/-- A session that gives up has an error that it does not take for
incomplete. -/
theorem parse_of_failed {session : Session} {line : String} {error : ReadError}
    (failed : (session.read line).2 = .failed error) :
    parse (Text.joinLines (session.pending ++ [line])) = .error error ∧
      error.isIncomplete = false := by
  cases outcome : parse (Text.joinLines (session.pending ++ [line])) with
  | ok nodes =>
      rw [read_of_ok outcome] at failed
      cases failed
  | error refused =>
      cases incomplete : refused.isIncomplete with
      | true =>
          rw [read_of_incomplete outcome incomplete] at failed
          cases failed
      | false =>
          rw [read_of_error outcome incomplete] at failed
          cases failed
          exact ⟨rfl, incomplete⟩

/-- Reads lines in order. Each reply comes with the session after it. -/
def readAll (session : Session) : List String → List (Session × Reply)
  | [] => []
  | line :: rest =>
      let step := session.read line
      step :: readAll step.1 rest

def reached (session : Session) (lines : List String) : Session :=
  lines.foldl (fun current line => (current.read line).1) session

end Session

end LispReader
