import LispReader.Command

/-!
# The program

Standard input and output, files and arguments. Everything that is decided is
decided elsewhere.
-/

namespace LispReader

def FileError.ofSystem : IO.Error → FileError
  | .noFileOrDirectory _ _ _ => .notFound
  | .inappropriateType _ number _ =>
      if number = 21 then .isDirectory else .notDirectory
  | .permissionDenied _ number details => ⟨details, number.toNat⟩
  | .resourceExhausted _ number details => ⟨details, number.toNat⟩
  | .resourceBusy number details => ⟨details, number.toNat⟩
  | .otherError number details => ⟨details, number.toNat⟩
  | other => ⟨toString other, 5⟩

namespace Main

def attempt {result : Type} (action : IO result) :
    IO (Except FileError result) := do
  try
    return .ok (← action)
  catch error =>
    return .error (.ofSystem error)

def readInput : IO ByteArray := do
  let input ← IO.getStdin
  let mut bytes := ByteArray.empty
  repeat
    let chunk ← input.read 4096
    if chunk.isEmpty then
      break
    bytes := bytes ++ chunk
  return bytes

/-- The bytes of one line of standard input with their ending, or none at its
end. They are read one by one, so that nothing is asked for beyond the line. -/
def readLine : IO ByteArray := do
  let input ← IO.getStdin
  let mut bytes := ByteArray.empty
  repeat
    let next ← input.read 1
    bytes := bytes ++ next
    if next.isEmpty || next.data.contains 10 then
      break
  return bytes

def display (text : String) : IO Unit := do
  let output ← IO.getStdout
  output.putStr text
  output.flush

def report (outcome : Command.Outcome) : IO UInt32 := do
  display outcome.output
  (← IO.getStderr).putStr outcome.errors
  return outcome.code

def converse (view : View) (start : Repl) : IO Repl := do
  let mut repl := start
  repeat
    let (asked, prompt) := repl.ask
    repl := asked
    display prompt
    match Text.decodeLines (← readLine) with
    | some line :: _ =>
        let (next, answer) := asked.answer view line
        repl := next
        display answer
    | none :: _ =>
        display Repl.unreadable
        break
    | [] =>
        display Repl.farewell
        break
  return repl

def runRepl (view : View) (path : String) : IO UInt32 := do
  let content ← attempt (IO.FS.readBinFile path)
  let (history, loaded) := Command.loadHistory content
  display (Repl.greeting loaded)
  let last ← converse view (Repl.start history)
  match Command.historyToSave? last.history with
  | none => return 0
  | some saved =>
      match ← attempt (IO.FS.writeBinFile path saved) with
      | .ok _ => return 0
      | .error error =>
          report (Command.fail "" (Command.saveFailure path error))

end Main

end LispReader

open LispReader

/-- Runs a command line. -/
def main (arguments : List String) : IO UInt32 := do
  match Request.parse? arguments with
  | none => Main.report Command.misuse
  | some .help => Main.report (Command.succeed helpText)
  | some .version => Main.report (Command.succeed versionText)
  | some (.run options) =>
      match options.file? with
      | none => Main.runRepl options.view options.historyPath
      | some "-" =>
          Main.report
            (Command.runFile options.view "-" (← Main.attempt Main.readInput))
      | some path =>
          let content ← Main.attempt (IO.FS.readBinFile path)
          Main.report (Command.runFile options.view path content)
