import LispReader.Pattern.Compile
import LispReader.Text.Characters

/-!
# Matching

A plan is carried out from several places at once. `Plan.run` gives all places
where it can end, in no particular order: only whether there is one decides
about a match, and each place remembers what its way there captured.
-/

namespace LispReader.Plan

def stepUpTo (step : List Place → List Place) : Nat → List Place → List Place
  | 0, places => places
  | count + 1, places =>
      if places.isEmpty then [] else places ++ stepUpTo step count (step places)

/-- The places where a marked repetition can stop after further rounds, when
`done` rounds are behind it. -/
def stopsOf (step : List Place → List Place) (least mark : Nat) :
    Nat → Nat → List Place → List Place
  | 0, _, _ => []
  | fuel + 1, done, places =>
      let active := places.filter fun place => done = 0 || !place.isStalled mark
      if active.isEmpty then
        []
      else if done < least then
        stopsOf step least mark fuel (done + 1) (step active)
      else
        let stops := active.map (·.markStop mark)
        stops ++ stopsOf step least mark fuel (done + 1) (step stops)

/-- The places that a plan reaches from these. A wanted condition keeps what
its match captured, and it may hold in several ways. -/
def run (text : Array Char) : Plan → List Place → List Place
  | .unit graph, places => (places.filterMap (graph.prefer? text)).eraseDups
  | .wordBoundary wanted, places =>
      places.filter fun place =>
        ((place.previous? text).any Text.isWordCharacter
          != (place.next? text).any Text.isWordCharacter) = wanted
  | .reference number, places =>
      (places.filterMap (·.repeatGroup? text number)).eraseDups
  | .sequence first second, places => second.run text (first.run text places)
  | .either first second, places =>
      (first.run text places ++ second.run text places).eraseDups
  | .counted body least most?, places =>
      let required := Nat.repeat (body.run text) least places
      (stepUpTo (body.run text) ((most?.getD (least + text.size)) - least)
          required).eraseDups
  | .marked body least mark, places =>
      (stopsOf (body.run text) least mark (least + text.size + 2) 0
          places).eraseDups
  | .group number body, places =>
      ((body.run text (places.map (·.openGroup number))).map
          (·.closeGroup number)).eraseDups
  | .ahead wanted body, places =>
      (places.flatMap fun place =>
        let reached := body.run text [place]
        if wanted then reached.map place.remembering
        else if reached.isEmpty then [place] else []).eraseDups
  | .behind wanted width body, places =>
      (places.flatMap fun place =>
        let reached := body.run text (place.retreat? width).toList
        if wanted then reached.map place.remembering
        else if reached.isEmpty then [place] else []).eraseDups

/-- Whether a plan can be carried out somewhere in a text. A single unit is
tried from all places together. -/
def matchesIn (plan : Plan) (text : String) : Bool :=
  let characters := text.toList.toArray
  let starts := (List.range (characters.size + 1)).map Place.start
  match plan with
  | .unit graph => (graph.firstEnd? characters starts).isSome
  | _ => starts.any fun start => !(plan.run characters [start]).isEmpty

end LispReader.Plan
