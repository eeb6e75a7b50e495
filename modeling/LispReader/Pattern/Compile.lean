import LispReader.Pattern.Graph
import LispReader.Pattern.Parse

/-!
# Compiling patterns

A pattern is read as an expression, which is then planned.  A regular
expression is one unit.  Parts of other expressions refer back to groups or
look around; only their regular parts are matched as units.  A unit takes its
preferred match and no other one, even if what follows would need another.
Everything else is tried in all ways.  `Expression.plan?` says which parts of an
expression are units.
-/

namespace LispReader

inductive Plan where
  /-- The preferred match of a regular expression, and no other one. -/
  | unit (graph : Graph)
  | wordBoundary (wanted : Bool)
  | reference (number : Nat)
  | sequence (first second : Plan)
  | either (first second : Plan)
  /-- Rounds of the body, which may match nothing if there is an upper limit. -/
  | counted (body : Plan) (least : Nat) (most? : Option Nat)
  /-- Any number of rounds of a body that may match nothing. A round that
  begins where the repetition could last stop is not tried. -/
  | marked (body : Plan) (least mark : Nat)
  | group (number : Nat) (body : Plan)
  | ahead (wanted : Bool) (body : Plan)
  /-- The body begins so many characters before. -/
  | behind (wanted : Bool) (width : Nat) (body : Plan)
deriving DecidableEq, Repr

namespace Plan

def ofRegular (expression : Regular) : Plan :=
  .unit expression.graph

def ofSequence (plans : List Plan) : Plan :=
  plans.foldr .sequence (.ofRegular .empty)

/-- Plans of which one is carried out. Without any there is nothing to match. -/
def ofChoice (plans : List Plan) : Plan :=
  plans.foldr .either (.ofRegular (.character .empty))

end Plan

namespace Expression

/-- Whether an expression is regular and always matches the same number of
characters. -/
def isFixed (expression : Expression) : Bool :=
  expression.width?.isSome && expression.regular?.isSome

def unitPlan (parts : List Expression) : List Plan :=
  if parts.isEmpty then []
    else ((regularSequence? parts).map Plan.ofRegular).toList

/-- The plan for a sequence, each part of which is given with a plan of its
own. The fixed parts at its start are a unit, and so are those at its end. If
nothing follows that could ask for another match then the parts of the last
unit need only be regular. -/
def sequencePlan (isFollowed : Bool) (parts : List (Expression × Plan)) :
    Plan :=
  let front := parts.takeWhile (·.1.isFixed)
  let others := parts.dropWhile (·.1.isFixed)
  let joins := fun part : Expression × Plan =>
    if isFollowed then part.1.isFixed else part.1.regular?.isSome
  let middle := (others.reverse.dropWhile joins).reverse
  let back := (others.reverse.takeWhile joins).reverse
  .ofSequence (unitPlan (front.map (·.1)) ++ middle.map (·.2) ++
      unitPlan (back.map (·.1)))

/-- The plan for one or more conditions on what lies before, of which each has
its width: one of them is wanted, or none. -/
def behindPlan (wanted : Bool) (bodies : List (Nat × Plan)) : Plan :=
  let conditions := bodies.map fun body => Plan.behind wanted body.1 body.2
  if wanted then .ofChoice conditions else .ofSequence conditions

mutual

/-- The plan for an expression. A regular one is a unit unless something may
follow that asks for another match. What looks back must have a fixed width, or
be a choice between such expressions. -/
def plan? (isFollowed : Bool) (expression : Expression) : Option Plan :=
  match if isFollowed then none else expression.regular? with
  | some regular => some (.ofRegular regular)
  | none =>
      match expression with
      | .empty => some (.ofRegular .empty)
      | .character set => some (.ofRegular (.character set))
      | .startOfText => some (.ofRegular .startOfText)
      | .endOfText => some (.ofRegular .endOfText)
      | .wordBoundary wanted => some (.wordBoundary wanted)
      | .sequence parts =>
          (plans? true parts).map fun plans =>
            sequencePlan isFollowed (parts.zip plans)
      | .choice branches => (plans? isFollowed branches).map .ofChoice
      | .repeated body 0 (some 1) _ _ =>
          (body.plan? isFollowed).map fun plan =>
            .either plan (.ofRegular .empty)
      | .repeated body least most? _ mark =>
          (body.plan? true).map fun plan =>
            if most?.isNone && body.leastWidth = 0 then .marked plan least mark
            else .counted plan least most?
      | .group number body => (body.plan? isFollowed).map (.group number)
      | .reference number => some (.reference number)
      | .ahead wanted body => (body.plan? false).map (.ahead wanted)
      | .behind wanted body =>
          match body.width? with
          | some width =>
              (body.plan? false).map fun plan =>
                behindPlan wanted [(width, plan)]
          | none =>
              match body with
              | .choice branches =>
                  match widths? branches, plans? false branches with
                  | some widths, some plans =>
                      some (behindPlan wanted (widths.zip plans))
                  | _, _ => none
              | _ => none

def plans? (isFollowed : Bool) : List Expression → Option (List Plan)
  | [] => some []
  | first :: others =>
      match first.plan? isFollowed, plans? isFollowed others with
      | some plan, some plans => some (plan :: plans)
      | _, _ => none

end

end Expression

def Pattern.compile (pattern : Pattern) : Except PatternError Plan :=
  match pattern.expression with
  | .error error => .error error
  | .ok expression =>
      match expression.regular? with
      | some regular => .ok (.ofRegular regular)
      | none =>
          match expression.plan? true with
          | some plan => .ok plan
          | none => .error .unboundedBehind

end LispReader
