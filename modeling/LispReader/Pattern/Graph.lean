import Std.Data.HashSet
import LispReader.Pattern.Expression
import LispReader.Pattern.Place

/-!
# Graphs of regular expressions

A regular expression neither refers back to groups nor looks around: it reads
characters, and knows the ends of the text. `Expression.regular?` finds out
whether an expression is one of them.

A regular expression is matched by walking through a graph of steps, in which a
fork lists its ways on by preference: the earlier branch of a choice comes
first, another round of a greedy repetition, the end of a lazy one.
`Graph.firstEnd?` tries these ways in order. It never comes to a step twice at
the same offset, because what could not be reached from there before cannot be
reached now. This also ends the rounds of a repetition that match nothing.
-/

namespace LispReader

/-- A regular expression that looks at nothing but the characters it matches
and the ends of the text. -/
inductive Regular where
  | empty
  | character (set : CharacterSet)
  | startOfText
  | endOfText
  | sequence (first second : Regular)
  | either (first second : Regular)
  | repeated (body : Regular) (least : Nat) (most? : Option Nat) (greedy : Bool)
  | group (number : Nat) (body : Regular)
deriving DecidableEq, Repr

namespace Regular

def groups : Regular → List Nat
  | .empty | .character _ | .startOfText | .endOfText => []
  | .sequence first second | .either first second =>
      first.groups ++ second.groups
  | .repeated body _ _ _ => body.groups
  | .group number body => number :: body.groups

/-- A number of characters that an expression matches at least. -/
def leastWidth : Regular → Nat
  | .empty | .startOfText | .endOfText => 0
  | .character _ => 1
  | .sequence first second => first.leastWidth + second.leastWidth
  | .either first second => min first.leastWidth second.leastWidth
  | .repeated body least _ _ => body.leastWidth * least
  | .group _ body => body.leastWidth

end Regular

mutual

/-- An expression without word boundaries, references and conditions on what
lies before or after. -/
def Expression.regular? : Expression → Option Regular
  | .empty => some .empty
  | .character set => some (.character set)
  | .startOfText => some .startOfText
  | .endOfText => some .endOfText
  | .sequence parts => regularSequence? parts
  | .choice branches => regularChoice? branches
  | .repeated body least most? greedy _ =>
      body.regular?.map fun body => .repeated body least most? greedy
  | .group number body => body.regular?.map fun body => .group number body
  | .wordBoundary _ | .reference _ | .ahead _ _ | .behind _ _ => none

def regularSequence? : List Expression → Option Regular
  | [] => some .empty
  | first :: others =>
      match first.regular?, regularSequence? others with
      | some first, some others => some (.sequence first others)
      | _, _ => none

/-- A choice between such expressions. Without any there is nothing to match. -/
def regularChoice? : List Expression → Option Regular
  | [] => some (.character .empty)
  | first :: others =>
      match first.regular?, regularChoice? others with
      | some first, some others => some (.either first others)
      | _, _ => none

end

/-- One step of a match. It names the steps that can follow it by their
numbers. -/
inductive Step where
  | take (set : CharacterSet) (next : Nat)
  | startOfText (next : Nat)
  | endOfText (next : Nat)
  | openGroup (number next : Nat)
  | closeGroup (number next : Nat)
  /-- Goes on with one of these, of which an earlier one is preferred. -/
  | fork (nexts : List Nat)
  | accept
deriving DecidableEq, Repr

/-- The steps of an expression, the number of the first one, and the groups of
the expression. -/
structure Graph where
  steps : Array Step
  entry : Nat
  groups : List Nat
deriving DecidableEq, Repr

namespace Regular

def repeatOrLeave (greedy : Bool) (round leave : Nat) : Step :=
  .fork (if greedy then [round, leave] else [leave, round])

/-- Adds to `steps` those that match an expression and then go on with the step
`next`. The number of the first of them comes with the result. A repetition
without limit whose body can match nothing has one fork at its start and
another one behind each round, so that a first round that matches nothing is
kept. -/
def addSteps : Regular → Nat → Array Step → Nat × Array Step
  | .empty, next, steps => (next, steps)
  | .character set, next, steps => (steps.size, steps.push (.take set next))
  | .startOfText, next, steps => (steps.size, steps.push (.startOfText next))
  | .endOfText, next, steps => (steps.size, steps.push (.endOfText next))
  | .sequence first second, next, steps =>
      let (entry, steps) := second.addSteps next steps
      first.addSteps entry steps
  | .either first second, next, steps =>
      let (left, steps) := first.addSteps next steps
      let (right, steps) := second.addSteps next steps
      (steps.size, steps.push (.fork [left, right]))
  | .repeated body least (some most) greedy, next, steps =>
      let optional := fun (entry, steps) =>
        let (round, steps) := body.addSteps entry steps
        (steps.size, steps.push (repeatOrLeave greedy round next))
      let required := fun (entry, steps) => body.addSteps entry steps
      Nat.repeat required least
        (Nat.repeat optional (most - least) (next, steps))
  | .repeated body least none greedy, next, steps =>
      let loop := steps.size
      let (round, steps) := body.addSteps loop (steps.push .accept)
      let fork := repeatOrLeave greedy round next
      let steps := steps.setIfInBounds loop fork
      match least with
      | 0 =>
          if body.leastWidth = 0 then (steps.size, steps.push fork)
            else (loop, steps)
      | least + 1 =>
          Nat.repeat (fun (entry, steps) => body.addSteps entry steps) least
            (round, steps)
  | .group number body, next, steps =>
      let (entry, steps) :=
        body.addSteps steps.size (steps.push (.closeGroup number next))
      (steps.size, steps.push (.openGroup number entry))

def graph (expression : Regular) : Graph :=
  let (entry, steps) := expression.addSteps 0 #[.accept]
  ⟨steps, entry, expression.groups⟩

end Regular

/-- The steps that follow a step taken at a place, each with the place where it
is taken. -/
def Step.nexts (text : Array Char) (place : Place) : Step → List (Nat × Place)
  | .take set next =>
      if (place.next? text).any set.contains then [(next, place.advance 1)]
        else []
  | .startOfText next => if place.offset = 0 then [(next, place)] else []
  | .endOfText next => if place.offset = text.size then [(next, place)] else []
  | .openGroup number next => [(next, place.openGroup number)]
  | .closeGroup number next => [(next, place.closeGroup number)]
  | .fork nexts => nexts.map fun next => (next, place)
  | .accept => []

namespace Graph

/-- Where the preferred way through the steps ends that begins at one of the
`pending` places, each of which comes with its next step. The steps that were
visited before are known by their numbers and offsets. -/
def walk (steps : Array Step) (text : Array Char) :
    Nat → List (Nat × Place) → Std.HashSet (Nat × Nat) → Option Place
  | 0, _, _ => none
  | _ + 1, [], _ => none
  | fuel + 1, (number, place) :: pending, visited =>
      if visited.contains (number, place.offset) then
        walk steps text fuel pending visited
      else
        match steps[number]? with
        | none => walk steps text fuel pending visited
        | some .accept => some place
        | some step =>
            walk steps text fuel (step.nexts text place ++ pending)
              (visited.insert (number, place.offset))

/-- Where the preferred match ends that begins at one of these places, of which
an earlier one is preferred. Every step is taken at most once at each offset,
and has at most two steps that follow it. -/
def firstEnd? (graph : Graph) (text : Array Char) (places : List Place) :
    Option Place :=
  let fuel := places.length + 2 * graph.steps.size * (text.size + 1) + 1
  walk graph.steps text fuel (places.map fun place => (graph.entry, place)) ∅

/-- Where the preferred match ends that begins at a place, if there is any
match. What groups of the expression captured earlier is forgotten, also if the
match leaves them out. -/
def prefer? (graph : Graph) (text : Array Char) (place : Place) :
    Option Place :=
  graph.firstEnd? text [place.forget graph.groups]

end Graph

end LispReader
