import LispReader.Node.Json
import LispReader.Node.Outline
import LispReader.Reading

/-!
# Views of a source text

What the command line prints for a source text: its tokens, or its trees in one
of three formats.
-/

namespace LispReader

inductive Format where
  | sexp
  | debug
  | json
deriving DecidableEq, Repr

namespace Format

def ofName? (name : String) : Option Format :=
  if name = "sexp" then some .sexp
  else if name = "debug" then some .debug
  else if name = "json" then some .json
  else none

/-- Trees in a format, ended by a line feed. Surface texts stand on a line
each. -/
def render (format : Format) (nodes : List Node) : String :=
  match format with
  | .sexp => Text.endLines (nodes.map Node.surface)
  | .debug => Node.outlineList nodes ++ "\n"
  | .json => Node.jsonArray .pretty nodes ++ "\n"

end Format

inductive View where
  | tokens
  | trees (format : Format)
deriving DecidableEq, Repr

namespace View

def renderTokens (tokens : List Token) : String :=
  Text.endLines (tokens.map Token.listing)

def render (view : View) (source : String) : Except ReadError String :=
  match view with
  | .tokens => (tokenize source).map renderTokens
  | .trees format => (parse source).map format.render

end View

end LispReader
