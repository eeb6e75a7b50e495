import LispReader.Proofs.Building.Comments

/-!
# Signs that do not apply

A sign `#` or `^` bears on the token directly behind it, and only on some kinds
of token. Where the token heeds neither this sign nor what stands before the
sign, it does not matter whether the sign is there. Main statement:
`read_of_inert_sign`.
-/

namespace LispReader

theorem Expectation.behind_eq_value {tokens : List Token}
    (noName : ∀ last ∈ tokens.getLast?, last.kind ≠ .rest) :
    Expectation.behind tokens = .value (.behind tokens) := by
  unfold behind Lookback.behind
  cases ending : tokens.getLast? with
  | none => rfl
  | some last => simp [noName last ending]

namespace Builder

/-- Builders that differ only in the sign just read read on alike if the next
token heeds neither sign. -/
theorem run_of_not_heeds {builder : Builder} {token : Token} {sign : Lookback}
    (ignores : token.heeds sign = false) (after : List Token) :
    run { builder with expects := .value sign } (token :: after) =
      run { builder with expects := .value .plain } (token :: after) := by
  have same := @action?_of_not_heeds builder token sign ignores
  cases called : action? { builder with expects := .value .plain } token with
  | ok action =>
      rw [run_cons_of_ok (same.trans called), run_cons_of_ok called,
        perform_expects builder (.value sign),
        perform_expects builder (.value .plain)]
  | error refused =>
      rw [run_cons_of_error (same.trans called), run_cons_of_error called]

theorem action?_of_sign {builder : Builder} {before : Lookback} {sign : Token}
    (waits : builder.expects = .value before)
    (isSign : sign.kind = .dispatch ∨ sign.kind = .metadata) :
    builder.action? sign = .ok (.expect (.value (.ofKind sign.kind))) := by
  rcases isSign with kind | kind <;>
    simp only [action?, waits, valueAction?, kind, Lookback.ofKind]

/-- A sign in front of a token that heeds neither the sign nor what was before
it is passed over. -/
theorem run_of_inert_sign {builder : Builder} {before : Lookback}
    {sign token : Token} (waits : builder.expects = .value before)
    (isSign : sign.kind = .dispatch ∨ sign.kind = .metadata)
    (ignores : token.heeds (.ofKind sign.kind) = false)
    (ignoresBefore : token.heeds before = false) (after : List Token) :
    builder.run (sign :: token :: after) = builder.run (token :: after) := by
  have unchanged : builder = { builder with expects := .value before } := by
    rw [← waits]
  calc builder.run (sign :: token :: after)
    _ = run { builder with expects := .value (.ofKind sign.kind) }
      (token :: after) :=
        run_cons_of_ok (action?_of_sign waits isSign) _
    _ = run { builder with expects := .value .plain } (token :: after) :=
        run_of_not_heeds ignores after
    _ = run { builder with expects := .value before } (token :: after) :=
        (run_of_not_heeds ignoresBefore after).symm
    _ = builder.run (token :: after) := by rw [← unchanged]

end Builder

/-- A sign can be left out of the tokens when the token behind it heeds neither
the sign nor the token before the sign, and the sign does not stand where a
name must. -/
theorem read_append_sign {before : List Token} {sign token : Token}
    (noName : ∀ last ∈ before.getLast?, last.kind ≠ .rest)
    (isSign : sign.kind = .dispatch ∨ sign.kind = .metadata)
    (ignores : token.heeds (.ofKind sign.kind) = false)
    (ignoresBefore : token.heeds (.behind before) = false)
    (after : List Token) :
    read (before ++ sign :: token :: after) =
      read (before ++ token :: after) := by
  refine read_append_congr fun reached accepted => ?_
  have waits : reached.expects = .value (.behind before) :=
    (Builder.follows_of_feed accepted).expects.trans
      (Expectation.behind_eq_value noName)
  exact Builder.run_of_inert_sign waits isSign ignores ignoresBefore after

/-- A sign `^` in front of a token that is neither a brace nor a keyword makes
no difference, to the trees or to the error, unless a sign `#` or an ampersand
stands before it. A sign `#` makes none in front of a token that is no
parenthesis, brace, string or keyword, unless an ampersand stands before it. -/
theorem read_of_inert_sign (before after : List Token) (sign token : Token) :
    (sign.kind = .metadata → token.kind ∉ [.openBrace, .keyword] →
      (∀ last ∈ before.getLast?, last.kind ∉ [.dispatch, .rest]) →
        read (before ++ [sign, token] ++ after) =
          read (before ++ [token] ++ after)) ∧
    (sign.kind = .dispatch →
        token.kind ∉ [.openParen, .openBrace, .string, .keyword] →
      (∀ last ∈ before.getLast?, last.kind ≠ .rest) →
        read (before ++ [sign, token] ++ after) =
          read (before ++ [token] ++ after)) := by
  simp only [List.append_assoc, List.cons_append, List.nil_append,
    List.mem_cons, List.not_mem_nil, or_false, not_or]
  constructor
  · rintro isSign ⟨noBrace, noKeyword⟩ apart
    have noName : ∀ last ∈ before.getLast?, last.kind ≠ .rest :=
      fun last isLast => (apart last isLast).2
    have noDispatch : Lookback.behind before ≠ .dispatch := by
      intro dispatch
      obtain ⟨last, isLast, kind⟩ :=
        Option.map_eq_some_iff.mp
          ((Lookback.behind_eq_dispatch_iff before).mp dispatch)
      exact (apart last isLast).1 kind
    have ignores : ∀ other, other ≠ .dispatch → token.heeds other = false := by
      intro other noDispatch
      cases other with
      | plain => rfl
      | dispatch => exact absurd rfl noDispatch
      | metadata => simp [Token.heeds, noBrace, noKeyword]
    exact read_append_sign noName (.inr isSign)
      (ignores _ (by simp [isSign, Lookback.ofKind]))
      (ignores _ noDispatch) after
  · rintro isSign ⟨noParen, noBrace, noString, noKeyword⟩ noName
    have ignores : ∀ other, token.heeds other = false := by
      intro other
      cases other <;> simp [Token.heeds, noParen, noBrace, noString, noKeyword]
    exact read_append_sign noName (.inl isSign) (ignores _) (ignores _) after

/-- A metadata sign before a symbol in a list, and a sign `#` before an
ampersand without a name. -/
theorem read_of_inert_sign_before_symbol :
    read ([⟨.openParen, none, ⟨1, 1⟩⟩] ++
        [⟨.metadata, none, ⟨1, 2⟩⟩, ⟨.symbol, some "x", ⟨1, 3⟩⟩] ++
          [.closer ')' ⟨1, 4⟩]) =
      .ok [.list [.identifier "x"]] ∧
    read ([⟨.metadata, none, ⟨1, 1⟩⟩] ++
        [⟨.dispatch, none, ⟨1, 2⟩⟩, ⟨.rest, none, ⟨1, 3⟩⟩] ++ []) =
      .error (.invalidCharacter '&' .expression ⟨1, 3⟩) := by
  constructor
  · exact ((read_of_inert_sign _ _ _ _).1 rfl (by decide) (by decide)).trans rfl
  · exact ((read_of_inert_sign _ _ _ _).2 rfl (by decide) (by decide)).trans rfl

/-- Without the conditions on the token before it a sign does make a
difference. -/
example :
    read [⟨.dispatch, none, ⟨1, 1⟩⟩, ⟨.metadata, none, ⟨1, 2⟩⟩,
        ⟨.openParen, none, ⟨1, 3⟩⟩, .closer ')' ⟨1, 4⟩] = .ok [.list []] ∧
      read [⟨.dispatch, none, ⟨1, 1⟩⟩, ⟨.openParen, none, ⟨1, 3⟩⟩,
          .closer ')' ⟨1, 4⟩] =
        .ok [.list [.identifier "fn", .vector [], .list []]] :=
  ⟨rfl, rfl⟩

end LispReader
