import LispReader.Feed
import LispReader.Name
import LispReader.Node
import LispReader.ReadError
import LispReader.Token

/-!
# Building trees from tokens

A builder takes one token at a time. Each token calls for one action, or is
refused, and the action changes the builder. Values are attached to the
innermost collection that is open. A value is put into the one before it when
that one is a list still waiting for its value, as `(quote)` is.
-/

namespace LispReader

namespace Node

def withMetadata (metadata : Node) : Node :=
  .list [.identifier "with_meta", metadata]

/-- Whether a node waits for a value: metadata without what it belongs to, or a
quotation or a dereference of nothing. Only its shape matters, not how it was
written. -/
def isWaiting : Node → Bool
  | .list [.identifier name] => name = "quote" || name = "deref"
  | .list [.identifier name, _] => name = "with_meta"
  | _ => false

/-- A waiting list with its value put in: before the metadata, or at the end. -/
def fill (waiting value : Node) : Node :=
  match waiting with
  | .list [wrapper] => .list [wrapper, value]
  | .list [marker, metadata] => .list [marker, value, metadata]
  | other => other

/-- Adds a value to a sequence of nodes that is held newest first. -/
def attach (value : Node) : List Node → List Node
  | [] => [value]
  | newest :: older =>
      if newest.isWaiting then newest.fill value :: older
        else value :: newest :: older

end Node

inductive Enclosure where
  | list
  | anonymousFunction
  | vector
  | map
  | metadataMap
  | set
deriving DecidableEq, Repr

namespace Enclosure

def ofParen : Lookback → Enclosure
  | .dispatch => .anonymousFunction
  | _ => .list

def ofBrace : Lookback → Enclosure
  | .dispatch => .set
  | .metadata => .metadataMap
  | .plain => .map

def opener : Enclosure → Char
  | .list | .anonymousFunction => '('
  | .vector => '['
  | .map | .metadataMap | .set => '{'

/-- The node for an enclosure with these items, in which these placeholders
were used. -/
def node (used : List Placeholder) (items : List Node) : Enclosure → Node
  | .list => .list items
  | .vector => .vector items
  | .map => .map items
  | .set => .set items
  | .metadataMap => .withMetadata (.map items)
  | .anonymousFunction =>
      let parameters :=
        (Placeholder.parameters (Placeholder.arity used)).map fun placeholder =>
        Node.identifier (Name.normalize placeholder.text)
      .list [.identifier "fn", .vector parameters, .list items]

end Enclosure

/-- A collection still open: where it began, and its nodes so far, newest
first. -/
structure Frame where
  enclosure : Enclosure
  position : Position
  reversed : List Node

inductive Word where
  | leaf (node : Node)
  | argument (placeholder : Placeholder)

/-- The leaf for a symbol that is neither a number nor a placeholder. -/
def Node.ofName (name : String) : Node :=
  if name = "nil" then .literal .nil
  else if name = "true" then .literal (.boolean true)
  else if name = "false" then .literal (.boolean false)
  else .identifier (Name.normalize name)

def Numeral.node (text : String) (numeral : Numeral) : Node :=
  match numeral.fraction? with
  | some _ => .float numeral.nearest text
  | none => .integer numeral.integerValue text

def Word.ofText (text : String) : Word :=
  match Numeral.ofChars? text.toList with
  | some numeral => .leaf (numeral.node text)
  | none =>
      match Placeholder.ofText? text with
      | some placeholder => .argument placeholder
      | none => .leaf (.ofName text)

/-! ## The builder -/

/-- What a builder expects: a value after what stands just before it, or the
name that must follow an ampersand. -/
inductive Expectation where
  | value (before : Lookback)
  | name (ampersand : Position)
deriving DecidableEq, Repr

/-- A builder on its way through the tokens: the nodes outside every
collection, newest first, the open collections, innermost first, and for each
anonymous function among them the placeholders used in it so far. -/
structure Builder where
  expects : Expectation
  top : List Node
  frames : List Frame
  scopes : List (List Placeholder)

namespace Builder

inductive Action where
  | expect (expectation : Expectation)
  | add (value : Node)
  | use (placeholder : Placeholder)
  | enter (enclosure : Enclosure) (position : Position)
  | leave (frame : Frame)

def start : Builder := ⟨.value .plain, [], [], []⟩

/-- The action for a symbol. A placeholder needs an anonymous function around
it. -/
def symbolAction? (builder : Builder) (text : String) :
    Except ReadError Action :=
  match Word.ofText text with
  | .leaf value => .ok (.add value)
  | .argument placeholder =>
      if builder.scopes.isEmpty then
        .error (.notAnonymousFunction text)
      else
        .ok (.use placeholder)

/-- The action for a closing delimiter. It closes the innermost collection,
whatever the shape of the two delimiters. -/
def closeAction? (builder : Builder) (text : String) (position : Position) :
    Except ReadError Action :=
  match builder.frames with
  | frame :: _ => .ok (.leave frame)
  | [] =>
      .error (.invalidCharacter (text.toList.headD ')') .expression position)

/-- The action for a token where a value may begin. -/
def valueAction? (builder : Builder) (before : Lookback) (token : Token) :
    Except ReadError Action :=
  let text := token.text.getD ""
  match token.kind with
  | .dispatch => .ok (.expect (.value .dispatch))
  | .metadata => .ok (.expect (.value .metadata))
  | .rest => .ok (.expect (.name token.position))
  | .comment => .ok (.add (.comment text))
  | .quote => .ok (.add (.list [.identifier "quote"]))
  | .deref => .ok (.add (.list [.identifier "deref"]))
  | .keyword =>
      match before with
      | .metadata =>
          .ok
            (.add (.withMetadata
                (.map [.keyword text, .literal (.boolean true)])))
      | _ => .ok (.add (.keyword text))
  | .string =>
      match before with
      | .dispatch => .ok (.add (.regexp ⟨text⟩))
      | _ => .ok (.add (.string text))
  | .symbol => builder.symbolAction? text
  | .openParen => .ok (.enter (.ofParen before) token.position)
  | .openBracket => .ok (.enter .vector token.position)
  | .openBrace => .ok (.enter (.ofBrace before) token.position)
  | .closeDelimiter => builder.closeAction? text token.position

/-- The action for a token. After an ampersand only a symbol will do, and it is
a name whatever it looks like. -/
def action? (builder : Builder) (token : Token) : Except ReadError Action :=
  match builder.expects with
  | .value before => builder.valueAction? before token
  | .name ampersand =>
      match token.kind, token.text with
      | .symbol, some name => .ok (.add (.rest (Name.normalize name)))
      | _, _ => .error (.invalidCharacter '&' .expression ampersand)

/-- Attaches a value to the innermost open collection, or outside every
collection. -/
def add (builder : Builder) (value : Node) : Builder :=
  match builder.frames with
  | [] =>
      { builder with expects := .value .plain, top := value.attach builder.top }
  | frame :: outer =>
      { builder with
        expects := .value .plain
        frames :=
          { frame with reversed := value.attach frame.reversed } :: outer }

/-- Notes a placeholder for the innermost anonymous function. -/
def note (placeholder : Placeholder) : List (List Placeholder) →
    List (List Placeholder)
  | [] => []
  | innermost :: outer => (placeholder :: innermost) :: outer

def perform (builder : Builder) : Action → Builder
  | .expect expectation => { builder with expects := expectation }
  | .add value => builder.add value
  | .use placeholder =>
      add { builder with scopes := note placeholder builder.scopes }
        (.identifier (Name.normalize placeholder.text))
  | .enter enclosure position =>
      { builder with
        expects := .value .plain
        frames := ⟨enclosure, position, []⟩ :: builder.frames
        scopes :=
          if enclosure = .anonymousFunction then [] :: builder.scopes
            else builder.scopes }
  | .leave frame =>
      let used := builder.scopes.headD []
      let scopes :=
        if frame.enclosure = .anonymousFunction then builder.scopes.tail
          else builder.scopes
      add { builder with frames := builder.frames.tail, scopes := scopes }
        (frame.enclosure.node used frame.reversed.reverse)

def read (builder : Builder) (token : Token) : Except ReadError Builder :=
  match builder.action? token with
  | .ok action => .ok (builder.perform action)
  | .error refused => .error refused

/-- The nodes read, if the tokens may end here. -/
def finish (builder : Builder) : Except ReadError (List Node) :=
  match builder.expects with
  | .name ampersand => .error (.invalidCharacter '&' .expression ampersand)
  | .value _ =>
      match builder.frames with
      | frame :: _ => .error (.unclosed frame.enclosure.opener frame.position)
      | [] => .ok builder.top.reverse

end Builder

end LispReader
