/-!
# Feeding a list to a step that may refuse

The scanner and the tree builder are both machines that take one item at a time
and may refuse it. `feed` runs such a machine and keeps the last state reached,
so that what was done before a refusal can still be told.
-/

namespace LispReader

universe u v w

variable {state : Type u} {item : Type v} {refusal : Type w}

/-- Feeds the items to `step` in order until one is refused. The result is the
last state reached together with the refusal, if there was one. -/
def feed (step : state → item → Except refusal state) (current : state) :
    List item → state × Option refusal
  | [] => (current, none)
  | first :: rest =>
      match step current first with
      | .ok next => feed step next rest
      | .error refused => (current, some refused)

@[simp]
theorem feed_nil (step : state → item → Except refusal state)
    (current : state) :
    feed step current [] = (current, none) := rfl

theorem feed_cons_of_ok {step : state → item → Except refusal state}
    {current next : state} {first : item}
    (accepted : step current first = .ok next) (rest : List item) :
    feed step current (first :: rest) = feed step next rest := by
  simp only [feed, accepted]

theorem feed_cons_of_error {step : state → item → Except refusal state}
    {current : state} {first : item} {refused : refusal}
    (rejected : step current first = .error refused) (rest : List item) :
    feed step current (first :: rest) = (current, some refused) := by
  simp only [feed, rejected]

/-- Feeding two lists in a row is feeding the second from where the first
ended, unless the first was already refused. -/
theorem feed_append (step : state → item → Except refusal state)
    (current : state) (left right : List item) :
    feed step current (left ++ right) =
      match feed step current left with
      | (reached, none) => feed step reached right
      | (reached, some refused) => (reached, some refused) := by
  induction left generalizing current with
  | nil => rfl
  | cons first rest inductionHypothesis =>
      cases outcome : step current first with
      | ok next =>
          rw [List.cons_append, feed_cons_of_ok outcome,
            feed_cons_of_ok outcome, inductionHypothesis]
      | error refused =>
          rw [List.cons_append, feed_cons_of_error outcome,
            feed_cons_of_error outcome]

/-- Two lists in a row are taken whole exactly when each of them is. -/
theorem feed_append_eq_none_iff {step : state → item → Except refusal state}
    {current next : state} {left right : List item} :
    feed step current (left ++ right) = (next, none) ↔
      ∃ reached, feed step current left = (reached, none) ∧
        feed step reached right = (next, none) := by
  rw [feed_append]
  rcases feed step current left with ⟨reached, _ | refused⟩
  · simp
  · simp

theorem feed_singleton_eq_none_iff {step : state → item → Except refusal state}
    {current next : state} {only : item} :
    feed step current [only] = (next, none) ↔ step current only = .ok next := by
  cases outcome : step current only with
  | ok reached => simp [feed_cons_of_ok outcome]
  | error refused => simp [feed_cons_of_error outcome]

/-- Where a machine stops, it took all the items before and refused this one. -/
theorem exists_of_feed_eq_some {step : state → item → Except refusal state}
    {current reached : state} {items : List item} {refused : refusal}
    (stopped : feed step current items = (reached, some refused)) :
    ∃ before last after, items = before ++ last :: after ∧
      feed step current before = (reached, none) ∧
        step reached last = .error refused := by
  induction items generalizing current with
  | nil => cases stopped
  | cons first rest inductionHypothesis =>
      cases outcome : step current first with
      | ok next =>
          rw [feed_cons_of_ok outcome] at stopped
          obtain ⟨before, last, after, rfl, accepted, rejected⟩ :=
            inductionHypothesis stopped
          exact ⟨first :: before, last, after, rfl,
            (feed_cons_of_ok outcome before).trans accepted, rejected⟩
      | error rejected =>
          rw [feed_cons_of_error outcome] at stopped
          cases stopped
          exact ⟨[], first, rest, rfl, rfl, outcome⟩

/-- What every step keeps holds of the last state reached, whether an item was
refused there or not. -/
theorem feed_invariant {step : state → item → Except refusal state}
    {invariant : state → Prop}
    (kept : ∀ reached only next, invariant reached →
      step reached only = .ok next → invariant next)
    {current : state} (holds : invariant current) (items : List item) :
    invariant (feed step current items).1 := by
  induction items generalizing current with
  | nil => exact holds
  | cons first rest inductionHypothesis =>
      cases outcome : step current first with
      | ok next =>
          rw [feed_cons_of_ok outcome]
          exact inductionHypothesis (kept current first next holds outcome)
      | error refused =>
          rw [feed_cons_of_error outcome]
          exact holds

/-- What holds before the first item and is kept by every step from a state
that is reached holds behind all the items taken. -/
theorem feed_induction {step : state → item → Except refusal state}
    {current : state} {motive : List item → state → Prop}
    (empty : motive [] current)
    (taken : ∀ earlier reached last next,
      feed step current earlier = (reached, none) → motive earlier reached →
        step reached last = .ok next → motive (earlier ++ [last]) next)
    {items : List item} {final : state}
    (accepted : feed step current items = (final, none)) :
    motive items final := by
  induction size : items.length generalizing items final with
  | zero =>
      rw [List.length_eq_zero_iff.mp size] at accepted ⊢
      cases accepted
      exact empty
  | succ count inductionHypothesis =>
      rcases List.eq_nil_or_concat items with rfl | ⟨earlier, last, rfl⟩
      · cases size
      · rw [List.concat_eq_append] at accepted size ⊢
        rcases feed_append_eq_none_iff.mp accepted with
          ⟨reached, before, behind⟩
        have shorter : earlier.length = count := by simpa using size
        have kept : motive earlier reached := inductionHypothesis before shorter
        exact taken earlier reached last final before kept
          (feed_singleton_eq_none_iff.mp behind)

end LispReader
