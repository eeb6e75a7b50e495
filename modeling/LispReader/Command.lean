import LispReader.Command.Files
import LispReader.Command.Options
import LispReader.Repl
import LispReader.Text.Lines

/-!
# The command line

`runFile` reads one source text and prints all of it or nothing. Without a file
the program is an interactive reader with a history. `run` is the whole program
in a directory held in memory.
-/

namespace LispReader.Command

structure Outcome where
  code : UInt32
  output : String
  errors : String
deriving DecidableEq, Repr

def succeed (output : String) : Outcome := ⟨0, output, ""⟩

def fail (output reason : String) : Outcome :=
    ⟨1, output, "Error: " ++ reason ++ "\n"⟩

def misuse : Outcome := ⟨2, "", usageText⟩

/-- How a source is called in messages. A hyphen is standard input. -/
def sourceName (path : String) : String :=
  if path = "-" then "stdin" else path

def decodeSource (content : Except FileError ByteArray) :
    Except String String :=
  match content with
  | .error error => .error error.message
  | .ok bytes =>
      match String.fromUTF8? bytes with
      | some source => .ok source
      | none => .error "stream did not contain valid UTF-8"

def runFile (view : View) (path : String)
    (content : Except FileError ByteArray) : Outcome :=
  match decodeSource content with
  | .error reason =>
      fail "" ("failed to read " ++ sourceName path ++
          "\n\nCaused by:\n    " ++ reason)
  | .ok source =>
      match view.render source with
      | .ok output => succeed output
      | .error error => fail "" error.message

def loadHistory (content : Except FileError ByteArray) : History × Bool :=
  match content with
  | .error _ => (.empty, false)
  | .ok bytes => History.load (Text.decodeLines bytes)

/-- What is to be written to the history file: nothing if no line is new. -/
def historyToSave? (history : History) : Option ByteArray :=
  if history.added = 0 then none else some history.save.toUTF8

/-- The reason for which a run fails whose history cannot be saved. -/
def saveFailure (path : String) (error : FileError) : String :=
  "failed to save history to " ++ path ++ ": " ++ error.message

def runRepl (view : View) (path : String) (input : ByteArray)
    (directory : Directory) :
    Outcome × Directory :=
  let (history, loaded) := loadHistory (directory.read path)
  let (exchanges, last) :=
    (Repl.start history).run view (Text.decodeLines input)
  let output := Repl.greeting loaded ++ Repl.transcript exchanges
  match historyToSave? last.history with
  | none => (succeed output, directory)
  | some content =>
      match directory.write path content with
      | .ok saved => (succeed output, saved)
      | .error error => (fail output (saveFailure path error), directory)

def run (arguments : List String) (input : ByteArray) (directory : Directory) :
    Outcome × Directory :=
  match Request.parse? arguments with
  | none => (misuse, directory)
  | some .help => (succeed helpText, directory)
  | some .version => (succeed versionText, directory)
  | some (.run options) =>
      match options.file? with
      | none => runRepl options.view options.historyPath input directory
      | some path =>
          let content := if path = "-" then .ok input else directory.read path
          (runFile options.view path content, directory)

end LispReader.Command
