import LispReader.Builder
import LispReader.Token.Scanner

/-!
# Reading texts

`parse` reads a text in two stages: `tokenize` cuts it into tokens and `read`
builds the trees. `Reading.ofText` does the same and keeps the log, up to the
error if there is one: every token is noted, and every collection opened or
closed.
-/

namespace LispReader

/-- Builds the trees for a list of tokens. The list need not come from a
text. -/
def read (tokens : List Token) : Except ReadError (List Node) :=
  match feed Builder.read Builder.start tokens with
  | (builder, none) => builder.finish
  | (_, some refused) => .error refused

/-- The trees of a text, or its first error. An error of the first stage comes
before all errors of the second. -/
def parse (text : String) : Except ReadError (List Node) :=
  match tokenize text with
  | .ok tokens => read tokens
  | .error error => .error error

def Enclosure.title : Enclosure → String
  | .list => "List"
  | .anonymousFunction => "AnonymousFn"
  | .vector => "Vector"
  | .map => "Map"
  | .metadataMap => "MetaMap"
  | .set => "Set"

inductive Event where
  | token (token : Token)
  | tokenized (count : Nat)
  | opened (enclosure : Enclosure) (position : Position)
  | closed (enclosure : Enclosure) (position : Position)
  | finished (count : Nat)
deriving DecidableEq, Repr

namespace Event

/-- Single steps are traced, the end of each stage is for debugging. -/
def level : Event → String
  | .token _ | .opened _ _ | .closed _ _ => "TRACE"
  | .tokenized _ | .finished _ => "DEBUG"

def target : Event → String
  | .token _ | .tokenized _ => "clast::tokenizer"
  | .opened _ _ | .closed _ _ | .finished _ => "clast::parser"

def message : Event → String
  | .token item => "token " ++ item.listing
  | .tokenized count => "tokenized " ++ toString count ++ " tokens"
  | .opened enclosure position =>
      "open " ++ enclosure.title ++ " at " ++ position.label
  | .closed enclosure position =>
      "close " ++ enclosure.title ++ " opened at " ++ position.label
  | .finished count => "read " ++ toString count ++ " top-level forms"

end Event

def Builder.Action.events : Builder.Action → List Event
  | .enter enclosure position => [.opened enclosure position]
  | .leave frame => [.closed frame.enclosure frame.position]
  | .expect _ | .add _ | .use _ => []

structure LoggedBuilder where
  builder : Builder
  reversed : List Event

def LoggedBuilder.read (logged : LoggedBuilder) (token : Token) :
    Except ReadError LoggedBuilder :=
  match logged.builder.action? token with
  | .ok action =>
      .ok ⟨logged.builder.perform action,
          action.events.reverse ++ logged.reversed⟩
  | .error refused => .error refused

/-- A reading: what was noted, in order, and what came of it. -/
structure Reading where
  events : List Event
  result : Except ReadError (List Node)

namespace Reading

def ofTokens (tokens : List Token) : Reading :=
  match feed LoggedBuilder.read ⟨.start, []⟩ tokens with
  | (logged, some refused) => ⟨logged.reversed.reverse, .error refused⟩
  | (logged, none) =>
      match logged.builder.finish with
      | .error refused => ⟨logged.reversed.reverse, .error refused⟩
      | .ok nodes =>
          ⟨logged.reversed.reverse ++ [.finished nodes.length], .ok nodes⟩

/-- Reads a text and keeps the log. Each token is noted when it is complete. -/
def ofText (text : String) : Reading :=
  let scan := Scan.ofText text
  let scanned := scan.tokens.map Event.token
  match scan.error? with
  | some error => ⟨scanned, .error error⟩
  | none =>
      let building := ofTokens scan.tokens
      ⟨scanned ++ [.tokenized scan.tokens.length] ++ building.events,
          building.result⟩

end Reading

/-- The surface text of a program: its nodes with a space between each and the
next. -/
def Node.program (nodes : List Node) : String :=
  String.intercalate " " (nodes.map Node.surface)

/-- One round of reading a text and printing what was read. -/
inductive Round where
  | printed (count : Nat) (text : String)
  | failed (error : ReadError)
deriving DecidableEq, Repr

/-- Reads a text, prints it, reads what was printed and so on: until an error,
until printing changes nothing, or for so many rounds. -/
def reprint : Nat → String → List Round
  | 0, _ => []
  | rounds + 1, text =>
      match parse text with
      | .error error => [.failed error]
      | .ok nodes =>
          let printed := Node.program nodes
          .printed nodes.length printed ::
            (if printed = text then [] else reprint rounds printed)

/-- What comes of reading the first characters of a text: none of them, one,
two, and so on up to the whole. -/
def parseInitialParts (text : String) : List (Except ReadError (List Node)) :=
  (List.range (text.length + 1)).map fun count =>
    parse (String.ofList (text.toList.take count))

end LispReader
