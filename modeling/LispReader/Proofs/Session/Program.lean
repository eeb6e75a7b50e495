import LispReader.Proofs.Joining
import LispReader.Session

/-!
# Sessions and whole programs

A session that reads a program line by line brings the nodes that the whole
program has, as long as each text it completes leaves nothing behind that
concerns the next one. Main statement: `parse_joinLines_of_session`.
-/

namespace LispReader

namespace Session

/-- Whether every line is taken, and what is read at each leaves the next to be
read by itself. -/
structure Accepts (session : Session) (lines : List String) : Prop where
  taken : ∀ step ∈ session.readAll lines, ∀ error, step.2 ≠ .failed error
  contained : ∀ step ∈ session.readAll lines, ∀ source nodes tokens,
    step.2 = .completed source nodes → tokenize source = .ok tokens →
      SelfContained tokens nodes

theorem Accepts.tail {session : Session} {line : String} {rest : List String}
    (accepts : session.Accepts (line :: rest)) :
    (session.read line).1.Accepts rest where
  taken step member := accepts.taken step (List.mem_cons_of_mem _ member)
  contained step member :=
    accepts.contained step (List.mem_cons_of_mem _ member)

/-- A session that accepts all its lines has read what they are read as
together, behind the lines that were pending. -/
theorem parse_of_accepts {session : Session} {lines : List String}
    (accepts : session.Accepts lines)
    (complete : (session.reached lines).pending = []) :
    parse (Text.joinLines (session.pending ++ lines)) =
      .ok ((session.readAll lines).flatMap fun step => step.2.nodes) := by
  induction lines generalizing session with
  | nil =>
      have nothing : session.pending = [] := complete
      rw [nothing]
      rfl
  | cons line rest inductionHypothesis =>
      have later := inductionHypothesis accepts.tail complete
      have first : session.read line ∈ session.readAll (line :: rest) :=
        List.mem_cons_self
      have front : session.pending ++ line :: rest =
          (session.pending ++ [line]) ++ rest := by simp
      rw [readAll, List.flatMap_cons]
      cases outcome : parse (Text.joinLines (session.pending ++ [line])) with
      | error error =>
          by_cases incomplete : error.isIncomplete = true
          · rw [read_of_incomplete outcome incomplete] at later ⊢
            rw [front]
            exact later
          · have failed :=
              read_of_error outcome (Bool.not_eq_true _ ▸ incomplete)
            exact absurd (congrArg Prod.snd failed)
              (accepts.taken _ first error)
      | ok nodes =>
          have completed := read_of_ok outcome
          rw [completed] at later ⊢
          cases rest with
          | nil =>
              rw [front, List.append_nil, outcome]
              simp [readAll, Reply.nodes]
          | cons next others =>
              have alone : parse (Text.joinLines (next :: others)) =
                  .ok ((start.readAll (next :: others)).flatMap fun step =>
                      step.2.nodes) := later
              rcases (parse_eq_ok_iff _ _).mp outcome with ⟨tokens, cut, built⟩
              have contained := accepts.contained _ first _ nodes tokens
                (congrArg Prod.snd completed) cut
              have together :=
                parse_join cut built contained (Text.joinLines (next :: others))
              rw [alone] at together
              rw [front, Text.joinLines_append (by simp) (by simp), together]
              rfl

end Session

/-- A session that takes every line and has nothing pending in the end brings
in all the nodes of the lines as one text. -/
theorem parse_joinLines_of_session {lines : List String}
    (taken : ∀ step ∈ Session.start.readAll lines, ∀ error,
      step.2 ≠ .failed error)
    (complete : (Session.start.reached lines).pending = [])
    (contained : ∀ step ∈ Session.start.readAll lines, ∀ source nodes tokens,
      step.2 = .completed source nodes → tokenize source = .ok tokens →
        SelfContained tokens nodes) :
    parse (Text.joinLines lines) =
      .ok ((Session.start.readAll lines).flatMap fun step => step.2.nodes) := by
  have accepts : Session.start.Accepts lines := ⟨taken, contained⟩
  have whole := Session.parse_of_accepts accepts complete
  have nothing : Session.start.pending ++ lines = lines := List.nil_append lines
  rwa [nothing] at whole

/-- What happens at three lines, of which the first two are one list. -/
def brokenListSteps : List (Session × Reply) :=
  [(⟨["(a"]⟩, .incomplete),
    (.start, .completed "(a\nb) ; c"
      [.list [.identifier "a", .identifier "b"], .comment " c"]),
    (.start, .completed "@x" [.list [.identifier "deref", .identifier "x"]])]

theorem parse_joinLines_of_broken_list :
    Session.start.readAll ["(a", "b) ; c", "@x"] = brokenListSteps ∧
    parse (Text.joinLines ["(a", "b) ; c", "@x"]) =
      .ok [.list [.identifier "a", .identifier "b"], .comment " c",
        .list [.identifier "deref", .identifier "x"]] := by
  have replies :
      Session.start.readAll ["(a", "b) ; c", "@x"] = brokenListSteps := rfl
  have firstTokens : tokenize "(a\nb) ; c" =
      .ok [⟨.openParen, none, ⟨1, 1⟩⟩, ⟨.symbol, some "a", ⟨1, 2⟩⟩,
        ⟨.symbol, some "b", ⟨2, 1⟩⟩, .closer ')' ⟨2, 2⟩,
        ⟨.comment, some " c", ⟨2, 4⟩⟩] := rfl
  have secondTokens : tokenize "@x" =
      .ok [⟨.deref, none, ⟨1, 1⟩⟩, ⟨.symbol, some "x", ⟨1, 2⟩⟩] := rfl
  refine ⟨replies, parse_joinLines_of_session ?_ rfl ?_⟩
  · simp [replies, brokenListSteps]
  · rw [replies]
    simp only [brokenListSteps, List.forall_mem_cons]
    refine ⟨nofun, ?_, ?_, by simp⟩
    · rintro source nodes tokens ⟨⟩ cut
      rw [firstTokens] at cut
      cases cut
      exact ⟨by simp, by simp [Node.isWaiting]⟩
    · rintro source nodes tokens ⟨⟩ cut
      rw [secondTokens] at cut
      cases cut
      exact ⟨by simp, by simp [Node.isWaiting]⟩

end LispReader
