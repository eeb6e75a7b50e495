/-!
# Line histories

The lines entered so far, as they are kept in a file from one run to the next.
-/

namespace LispReader

/-- Lines entered, oldest first, and how many of them are new since the history
was loaded. -/
structure History where
  entries : List String
  added : Nat
deriving DecidableEq, Repr

namespace History

def empty : History := ⟨[], 0⟩

def capacity : Nat := 100

/-- Adds a line. An empty line and a repetition of the last one are left out,
and the oldest line makes room when the history is full. -/
def add (history : History) (line : String) : History :=
  if line = "" ∨ history.entries.getLast? = some line then
    history
  else
    let kept :=
      if history.entries.length = capacity then history.entries.drop 1
        else history.entries
    let entries := kept ++ [line]
    ⟨entries, min (history.added + 1) entries.length⟩

def header : String := "#V2"

/-- A line of the file for an entry: backslashes are doubled and line ends
written with one. -/
def escape (entry : String) : String :=
  String.ofList (entry.toList.flatMap fun character =>
    if character = '\\' then ['\\', '\\']
    else if character = '\n' then ['\\', 'n']
    else [character])

/-- Reads escapes back. There is no result if a backslash stands before
anything else. -/
def unescape? : List Char → Option (List Char)
  | [] => some []
  | '\\' :: '\\' :: rest => (unescape? rest).map ('\\' :: ·)
  | '\\' :: 'n' :: rest => (unescape? rest).map ('\n' :: ·)
  | character :: rest =>
      if character = '\\' then none else (unescape? rest).map (character :: ·)

/-- The entry on a line of an escaped file. A line with a wrong escape is taken
as it stands. -/
def unescape (line : String) : String :=
  match unescape? line.toList with
  | some characters => String.ofList characters
  | none => line

def save (history : History) : String :=
  String.join ((header :: history.entries.map escape).map (· ++ "\n"))

/-- Adds the lines of a file. Where a line is missing the file could not be
read further: then nothing after it is loaded, and what was loaded counts as
new. The second component says whether the whole file was loaded. -/
def loadLines (escaped : Bool) (history : History) : List (Option String) →
    History × Bool
  | [] => (⟨history.entries, 0⟩, true)
  | none :: _ => (history, false)
  | some line :: rest =>
      loadLines escaped (history.add (if escaped then unescape line else line))
        rest

/-- The history in the lines of a file, and whether all of it could be read. -/
def load : List (Option String) → History × Bool
  | some first :: rest =>
      if first = header then
        loadLines true empty rest
      else
        loadLines false (empty.add first) rest
  | lines => loadLines false empty lines

end History

end LispReader
