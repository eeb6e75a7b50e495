import LispReader.Session

/-!
# Sessions as divisions of their lines

A session divides its lines, in order, into groups. A group ends with the first
line that, joined to the lines of the group before it, makes something else
than an incomplete text, and the lines behind the last group are pending. No
other division of the lines is like this, and it tells what the session answers
to each line and which lines are pending after it. Main statement:
`exists_unique_division`.
-/

namespace LispReader

/-- Whether lines, joined, cannot be read for want of more text. -/
def IsIncomplete (lines : List String) : Prop :=
  ∃ error, parse (Text.joinLines lines) = .error error ∧
    error.isIncomplete = true

/-- Whether all these lines have to wait for more: from the first of them up to
any other they are an incomplete text. -/
def Waits (lines : List String) : Prop :=
  ∀ front, front <+: lines → front ≠ [] → IsIncomplete front

/-- Whether lines wait for more up to the last one and no longer behind it. -/
structure IsGroup (group : List String) : Prop where
  nonempty : group ≠ []
  complete : ¬ IsIncomplete group
  shortest : ∀ front, front <+: group → front ≠ [] → front ≠ group →
    IsIncomplete front

theorem waits_nil : Waits [] := by
  intro front isFront nonempty
  exact absurd (List.prefix_nil.mp isFront) nonempty

theorem Waits.concat {lines : List String} {line : String}
    (waits : Waits lines) (incomplete : IsIncomplete (lines ++ [line])) :
    Waits (lines ++ [line]) := by
  intro front isFront nonempty
  rcases List.prefix_concat_iff.mp isFront with rfl | shorter
  · exact incomplete
  · exact waits front shorter nonempty

theorem Waits.isGroup_concat {lines : List String} {line : String}
    (waits : Waits lines) (complete : ¬ IsIncomplete (lines ++ [line])) :
    IsGroup (lines ++ [line]) where
  nonempty := by simp
  complete := complete
  shortest front isFront nonempty unequal := by
    rcases List.prefix_concat_iff.mp isFront with whole | shorter
    · exact absurd whole unequal
    · exact waits front shorter nonempty

theorem IsGroup.eq_of_prefix {group other : List String}
    (isGroup : IsGroup group) (isOther : IsGroup other)
    (isFront : group <+: other) : group = other := by
  by_cases same : group = other
  · exact same
  · have incomplete := isOther.shortest group isFront isGroup.nonempty same
    exact absurd incomplete isGroup.complete

theorem Waits.ne_of_group_in_front {lines group : List String}
    (waits : Waits lines) (isGroup : IsGroup group)
    (rest : List (List String)) (pending : List String) :
    lines ≠ (group :: rest).flatten ++ pending := by
  rintro rfl
  have isFront : group <+: (group :: rest).flatten ++ pending := by
    rw [List.flatten_cons, List.append_assoc]
    exact List.prefix_append _ _
  exact isGroup.complete (waits group isFront isGroup.nonempty)

/-! ## Divisions -/

/-- Lines divided into groups, with the lines that are left behind the last
group. -/
structure Division where
  groups : List (List String)
  pending : List String

namespace Division

def lines (division : Division) : List String :=
  division.groups.flatten ++ division.pending

/-- Whether every group is as short as it can be and no group is left. -/
structure Greedy (division : Division) : Prop where
  isGroup : ∀ group ∈ division.groups, IsGroup group
  waits : Waits division.pending

/-- Lines fall into groups in one way only: of the groups in front one begins
the other, so they are equal. -/
theorem eq_of_flatten_eq {groups otherGroups : List (List String)}
    {pending otherPending : List String}
    (isGroup : ∀ group ∈ groups, IsGroup group)
    (isOtherGroup : ∀ group ∈ otherGroups, IsGroup group)
    (waits : Waits pending) (otherWaits : Waits otherPending)
    (same : groups.flatten ++ pending = otherGroups.flatten ++ otherPending) :
    groups = otherGroups ∧ pending = otherPending := by
  induction groups generalizing otherGroups with
  | nil =>
      cases otherGroups with
      | nil => exact ⟨rfl, same⟩
      | cons group rest =>
          have first := isOtherGroup group List.mem_cons_self
          exact absurd same (waits.ne_of_group_in_front first rest otherPending)
  | cons group rest inductionHypothesis =>
      have first := isGroup group List.mem_cons_self
      cases otherGroups with
      | nil =>
          exact absurd same.symm
            (otherWaits.ne_of_group_in_front first rest pending)
      | cons otherGroup otherRest =>
          have otherFirst := isOtherGroup otherGroup List.mem_cons_self
          simp only [List.flatten_cons, List.append_assoc] at same
          have equal : group = otherGroup := by
            rcases List.append_eq_append_iff.mp same with
              ⟨more, whole, -⟩ | ⟨more, whole, -⟩
            · exact first.eq_of_prefix otherFirst
                (whole ▸ List.prefix_append _ _)
            · exact (otherFirst.eq_of_prefix first
                (whole ▸ List.prefix_append _ _)).symm
          subst equal
          obtain ⟨sameGroups, samePending⟩ := inductionHypothesis
            (fun later member => isGroup later (List.mem_cons_of_mem _ member))
            (fun later member =>
                isOtherGroup later (List.mem_cons_of_mem _ member))
            (List.append_cancel_left same)
          exact ⟨congrArg (group :: ·) sameGroups, samePending⟩

/-- Lines can be divided in one way only. -/
theorem Greedy.eq_of_lines_eq {division other : Division}
    (greedy : division.Greedy) (otherGreedy : other.Greedy)
    (same : division.lines = other.lines) : division = other := by
  obtain ⟨sameGroups, samePending⟩ :=
    eq_of_flatten_eq greedy.isGroup otherGreedy.isGroup greedy.waits
      otherGreedy.waits same
  cases division
  cases other
  rw [Division.mk.injEq]
  exact ⟨sameGroups, samePending⟩

end Division

/-- The answer to lines that, joined, are this text, when they need not wait
for more. -/
def Reply.ofText (source : String) : Reply :=
  match parse source with
  | .ok nodes => .completed source nodes
  | .error error => .failed error

namespace Session

/-- What happens at lines that wait: each of them is pending with those before
it. -/
def waitingSteps (lines : List String) : List (Session × Reply) :=
  (List.range lines.length).map fun count =>
    (⟨lines.take (count + 1)⟩, .incomplete)

/-- What happens at the lines of a group: all but the last of them wait, and at
the last one the whole group is read and nothing is pending any longer. -/
def groupSteps (group : List String) : List (Session × Reply) :=
  waitingSteps group.dropLast ++ [(start, .ofText (Text.joinLines group))]

theorem waitingSteps_concat (lines : List String) (line : String) :
    waitingSteps (lines ++ [line]) =
      waitingSteps lines ++ [(⟨lines ++ [line]⟩, .incomplete)] := by
  have earlier : ∀ count ∈ List.range lines.length,
      ((⟨(lines ++ [line]).take (count + 1)⟩, .incomplete) : Session × Reply) =
        (⟨lines.take (count + 1)⟩, .incomplete) := by
    intro count bounded
    rw [List.take_append_of_le_length (List.mem_range.mp bounded)]
  simp only [waitingSteps, List.length_append, List.length_singleton,
    List.range_succ, List.map_append, List.map_singleton]
  rw [List.map_congr_left earlier, List.take_of_length_le (by simp)]

theorem groupSteps_concat (lines : List String) (line : String) :
    groupSteps (lines ++ [line]) =
      waitingSteps lines ++
        [(start, .ofText (Text.joinLines (lines ++ [line])))] := by
  rw [groupSteps, List.dropLast_concat]

def steps (division : Division) : List (Session × Reply) :=
  division.groups.flatMap groupSteps ++ waitingSteps division.pending

theorem read_of_isIncomplete {session : Session} {line : String}
    (incomplete : IsIncomplete (session.pending ++ [line])) :
    session.read line = (⟨session.pending ++ [line]⟩, .incomplete) := by
  obtain ⟨error, failed, more⟩ := incomplete
  exact read_of_incomplete failed more

theorem read_of_not_isIncomplete {session : Session} {line : String}
    (complete : ¬ IsIncomplete (session.pending ++ [line])) :
    session.read line =
      (start, .ofText (Text.joinLines (session.pending ++ [line]))) := by
  cases outcome : parse (Text.joinLines (session.pending ++ [line])) with
  | ok nodes => rw [read_of_ok outcome, Reply.ofText, outcome]
  | error error =>
      have final : error.isIncomplete = false := by
        rw [Bool.eq_false_iff]
        exact fun more => complete ⟨error, outcome, more⟩
      rw [read_of_error outcome final, Reply.ofText, outcome]

theorem readAll_concat (session : Session) (lines : List String)
    (line : String) :
    session.readAll (lines ++ [line]) =
      session.readAll lines ++ [(session.reached lines).read line] := by
  induction lines generalizing session with
  | nil => rfl
  | cons first rest inductionHypothesis =>
      rw [List.cons_append, readAll, inductionHypothesis]
      rfl

theorem reached_concat (session : Session) (lines : List String)
    (line : String) :
    session.reached (lines ++ [line]) = ((session.reached lines).read line).1 :=
  List.foldl_append

/-- Whether a session that begins with these lines divides them in this way. -/
structure Follows (division : Division) (lines : List String) : Prop where
  whole : division.lines = lines
  greedy : division.Greedy
  steps : start.readAll lines = steps division
  pending : start.reached lines = ⟨division.pending⟩

theorem follows_nil : Follows ⟨[], []⟩ [] where
  whole := rfl
  greedy := ⟨by simp, waits_nil⟩
  steps := rfl
  pending := rfl

variable {division : Division} {lines : List String} {line : String}

theorem Follows.wait (follows : Follows division lines)
    (incomplete : IsIncomplete (division.pending ++ [line])) :
    Follows ⟨division.groups, division.pending ++ [line]⟩
      (lines ++ [line]) := by
  have answered : (start.reached lines).read line =
      (⟨division.pending ++ [line]⟩, .incomplete) := by
    rw [follows.pending]
    exact read_of_isIncomplete incomplete
  constructor
  · rw [← follows.whole, Division.lines, Division.lines, List.append_assoc]
  · exact ⟨follows.greedy.isGroup, follows.greedy.waits.concat incomplete⟩
  · rw [readAll_concat, follows.steps, answered, Session.steps, Session.steps,
      waitingSteps_concat, List.append_assoc]
  · rw [reached_concat, answered]

/-- A line with which the text is complete ends a group. -/
theorem Follows.close (follows : Follows division lines)
    (complete : ¬ IsIncomplete (division.pending ++ [line])) :
    Follows ⟨division.groups ++ [division.pending ++ [line]], []⟩
      (lines ++ [line]) := by
  have answered : (start.reached lines).read line =
      (start, .ofText (Text.joinLines (division.pending ++ [line]))) := by
    rw [follows.pending]
    exact read_of_not_isIncomplete complete
  constructor
  · rw [← follows.whole, Division.lines, Division.lines]
    simp
  · refine ⟨?_, waits_nil⟩
    intro group member
    rcases List.mem_append.mp member with earlier | last
    · exact follows.greedy.isGroup group earlier
    · rw [List.mem_singleton.mp last]
      exact follows.greedy.waits.isGroup_concat complete
  · rw [readAll_concat, follows.steps, answered, Session.steps, Session.steps,
      List.flatMap_append, List.flatMap_singleton, groupSteps_concat]
    simp [waitingSteps]
  · rw [reached_concat, answered]
    rfl

/-- A session that has divided some lines divides the lines that come next
too. -/
theorem Follows.run (follows : Follows division lines) (later : List String) :
    ∃ next, Follows next (lines ++ later) := by
  induction later generalizing division lines with
  | nil => exact ⟨division, by rwa [List.append_nil]⟩
  | cons line rest inductionHypothesis =>
      have regrouped :
          lines ++ line :: rest = (lines ++ [line]) ++ rest := by simp
      rw [regrouped]
      by_cases incomplete : IsIncomplete (division.pending ++ [line])
      · exact inductionHypothesis (follows.wait incomplete)
      · exact inductionHypothesis (follows.close incomplete)

end Session

/-- The lines given to a new session can be divided in exactly one way into
groups, each of which ends with the first line behind which it is no longer an
incomplete text, and lines that are left and still wait. At every line of a
group but the last, and at every line that is left, the session answers that
the text is incomplete and keeps the lines from the beginning of the group on;
at the last line of a group it answers what reading the group has come to and
keeps nothing. -/
theorem exists_unique_division (lines : List String) :
    ∃ division : Division,
      (division.lines = lines ∧ division.Greedy) ∧
      (∀ other : Division, other.lines = lines → other.Greedy →
          other = division) ∧
      Session.start.readAll lines = Session.steps division ∧
      Session.start.reached lines = ⟨division.pending⟩ := by
  obtain ⟨division, follows⟩ := Session.follows_nil.run lines
  refine ⟨division, ⟨follows.whole, follows.greedy⟩, ?_, follows.steps,
    follows.pending⟩
  intro other whole greedy
  exact greedy.eq_of_lines_eq follows.greedy (whole.trans follows.whole.symm)

end LispReader
