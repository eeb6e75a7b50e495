import LispReader.Command.View

/-!
# Options of the command line

Arguments are taken one after the other, and the first that asks for help, asks
for the version or is wrong decides.
-/

namespace LispReader

inductive Argument where
  /-- Two hyphens alone: no option follows. -/
  | escape
  /-- Two hyphens and a name, and a value after an equals sign if there is
  one. -/
  | long (name : String) (value? : Option String)
  /-- One hyphen and at least one letter, of which only the first counts. -/
  | short (letter : Char)
  /-- Anything else, a hyphen alone and an empty argument among it. -/
  | plain (text : String)
deriving DecidableEq, Repr

namespace Argument

def ofLong (characters : List Char) : Argument :=
  let name := String.ofList (characters.takeWhile (· ≠ '='))
  match characters.dropWhile (· ≠ '=') with
  | [] => .long name none
  | _ :: value => .long name (some (String.ofList value))

def ofText (text : String) : Argument :=
  match text.toList with
  | ['-', '-'] => .escape
  | '-' :: '-' :: characters => ofLong characters
  | '-' :: letter :: _ => .short letter
  | _ => .plain text

end Argument

structure Options where
  file? : Option String
  format? : Option Format
  history? : Option String
  tokens : Bool
deriving DecidableEq, Repr

namespace Options

def empty : Options := ⟨none, none, none, false⟩

def setFile? (options : Options) (path : String) : Option Options :=
  if options.file?.isSome then none
    else some { options with file? := some path }

/-- Sets an option that has a value, once, if there is such an option and the
value fits it. -/
def set? (options : Options) (name value : String) : Option Options :=
  if name = "format" ∧ options.format?.isNone then
    (Format.ofName? value).map fun format =>
      { options with format? := some format }
  else if name = "history" ∧ options.history?.isNone then
    some { options with history? := some value }
  else
    none

def setTokens? (options : Options) : Option Options :=
  if options.tokens then none else some { options with tokens := true }

def view (options : Options) : View :=
  if options.tokens then .tokens else .trees (options.format?.getD .sexp)

def historyPath (options : Options) : String :=
  options.history?.getD "history.txt"

end Options

inductive Request where
  | help
  | version
  | run (options : Options)
deriving DecidableEq, Repr

namespace Request

def ofPlain? (options : Options) : List String → Option Request
  | [] => some (.run options)
  | argument :: rest =>
      match options.setFile? argument with
      | some next => ofPlain? next rest
      | none => none

/-- Takes arguments in order. There is no result if one of them is wrong. -/
def ofArguments? (options : Options) : List String → Option Request
  | [] => some (.run options)
  | argument :: rest =>
      match Argument.ofText argument with
      | .escape => ofPlain? options rest
      | .plain path =>
          match options.setFile? path with
          | some next => ofArguments? next rest
          | none => none
      | .short letter =>
          if letter = 'h' then some .help
          else if letter = 'V' then some .version
          else none
      | .long name (some value) =>
          match options.set? name value with
          | some next => ofArguments? next rest
          | none => none
      | .long name none =>
          if name = "help" then some .help
          else if name = "version" then some .version
          else if name = "tokens" then
            match options.setTokens? with
            | some next => ofArguments? next rest
            | none => none
          else
            match rest with
            | [] => none
            | text :: others =>
                match Argument.ofText text with
                | .plain value =>
                    match options.set? name value with
                    | some next => ofArguments? next others
                    | none => none
                | _ => none

def parse? (arguments : List String) : Option Request :=
  ofArguments? .empty arguments

end Request

def versionText : String := "clast-repl 0.1.0\n"

def usageText : String := "Usage: clast-repl [OPTIONS] [FILE]\n"

/-- What the program does, how it is called and what its options are. -/
def helpText : String :=
  "Reads Clojure-style source into a language-agnostic syntax tree\n\n" ++
    usageText ++ "\n" ++
  Text.endLines [
    "Arguments:",
    "  [FILE]  File to read once instead of starting the REPL, `-` for stdin",
    "",
    "Options:",
    "      --format <FORMAT>    How to print the tree [default: sexp] " ++
      "[possible values: sexp, debug, json]",
    "      --history <HISTORY>  Where the REPL keeps its history " ++
      "[default: history.txt]",
    "      --tokens             Print the token stream instead of the tree",
    "  -h, --help               Print help",
    "  -V, --version            Print version"]

end LispReader
