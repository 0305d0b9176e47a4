import StatementLang.Proofs.Resumption

/-!
# What Is Blamed

The rule of a statement checks once more the keyword that it is chosen by, and where no token is
found or passed the line to blame is a constant.  Neither shows: a rule starts at its keyword only,
and a call that is rejected at the end of the tokens has passed one of them.  Which faults arise is
said without the rules, and all of these do arise.
-/

namespace StatementLang

/-- The faults that tokens are rejected for: a token that starts no statement, a token behind the
end of the program, and what is missing behind a keyword. -/
inductive Fault.Arises : Fault → Prop where
  | unexpected {kind : Kind} (headless : kind.isKeyword = false) : Arises (.unexpected kind)
  | unreachable (kind : Kind) : Arises (.unreachable kind)
  | missing {keyword : Keyword} {kind : Kind} {fault : Fault}
      (listed : (kind, fault) ∈ keyword.expectations) : Arises fault

namespace Fault

theorem not_arises_callKeyword (keyword : Keyword) : ¬ (callKeyword keyword).Arises := by
  intro h
  cases h with
  | missing listed => exact (Keyword.fault_ne_of_mem listed).2.1 keyword rfl

theorem not_arises_declaredKeyword : ¬ declaredKeyword.Arises := by
  intro h
  cases h with
  | missing listed => exact (Keyword.fault_ne_of_mem listed).2.2 rfl

/-- A fault that arises does not have the text of one that does not. -/
theorem Arises.message_ne {fault other : Fault} (h : fault.Arises) (never : ¬ other.Arises) :
    fault.message ≠ other.message := by
  intro hmessage
  rw [message_injective hmessage] at h
  exact never h

end Fault

/-- Where the tokens end too early, anything expected can be what is missing. -/
theorem exists_departs_of_mem {expectations : List (Kind × Fault)} {kind : Kind} {fault : Fault}
    (h : (kind, fault) ∈ expectations) : ∃ part, Departs expectations part [] fault := by
  induction expectations with
  | nil => cases h
  | cons first expectations ih =>
    cases h with
    | head => exact ⟨[], .here (by simp)⟩
    | tail _ h =>
      obtain ⟨part, departs⟩ := ih h
      exact ⟨{ kind := first.1, line := 1 } :: part, .there rfl departs⟩

theorem Step.arises {passed rest : List Token} {rejection : Rejection} {after : Cursor}
    (step : Step passed rest (.error rejection) after) : rejection.fault.Arises := by
  cases step with
  | unexpected headless => exact .unexpected headless
  | unreachable => exact .unreachable _
  | departed _ departs =>
    obtain ⟨kind, listed⟩ := departs.exists_mem
    exact .missing listed

/-- The faults that arise are exactly those for which some call is rejected. -/
theorem arises_iff_exists_rejected_call {fault : Fault} :
    fault.Arises ↔ ∃ tokens calls rejection,
      (Cursor.parse ((Cursor.ofTokens tokens).resumed calls)).1 = .error rejection ∧
        rejection.fault = fault := by
  constructor
  · -- One step from the first token on, in the first call, is enough for each of them.
    have rejected {tokens : List Token} {rejection : Rejection} {after : Cursor}
        (step : Step [] tokens (.error rejection) after) :
        (Cursor.parse ((Cursor.ofTokens tokens).resumed 0)).1 = .error rejection :=
      congrArg Prod.fst (Cursor.parse_ofTokens_of_stopped .nil continues_nil step)
    intro h
    cases h with
    | @unexpected kind headless =>
      have step : Step [] [⟨kind, 1, none⟩] _ _ := .unexpected headless
      exact ⟨_, 0, _, rejected step, rfl⟩
    | unreachable kind =>
      have begun : (⟨.keyword .quit, 1, none⟩ : Token).kind = .keyword .quit := rfl
      have met : [⟨.openParen, 1, none⟩, ⟨.integer, 1, none⟩, ⟨.closeParen, 1, none⟩,
          ⟨.semicolon, 1, none⟩].map Token.kind = Keyword.quit.expectations.map Prod.fst := rfl
      obtain ⟨ending, derived, ended⟩ := exists_derives begun met
      have step : Step [] (_ ++ [⟨kind, 1, none⟩]) _ _ := .unreachable derived ended
      exact ⟨_, 0, _, rejected step, rfl⟩
    | @missing keyword kind _ listed =>
      obtain ⟨part, departs⟩ := exists_departs_of_mem listed
      have begun : (⟨.keyword keyword, 1, none⟩ : Token).kind = .keyword keyword := rfl
      exact ⟨_, 0, _, rejected (.departed begun departs rfl), rfl⟩
  · rintro ⟨tokens, calls, rejection, failed, rfl⟩
    obtain ⟨_, _, _, -, -, -, step⟩ := Cursor.exists_step_of_error failed
    exact step.arises

/-- A rejection blames the token found or, at the end, the last one that the step has passed. -/
theorem Step.exists_blamed {passed rest : List Token} {rejection : Rejection} {after : Cursor}
    (step : Step passed rest (.error rejection) after) :
    (∃ found later, after.rest = found :: later ∧ rejection.line = found.line) ∨
    after.rest = [] ∧ ∃ last others, after.passed = last :: others ∧
      passed.length ≤ others.length ∧ rejection.line = last.line := by
  cases step with
  | unexpected => exact Or.inl ⟨_, _, rfl, rfl⟩
  | unreachable => exact Or.inl ⟨_, _, rfl, rfl⟩
  | @departed head keyword part later fault after begun departs place =>
    subst place
    cases later with
    | cons found later => exact Or.inl ⟨found, later, rfl, rfl⟩
    | nil =>
      -- The keyword at least is passed in this step, so that the last token is one of its own.
      obtain ⟨last, others, hlast⟩ : ∃ last others, part.reverse ++ head :: passed = last :: others :=
        List.exists_cons_of_ne_nil (by simp)
      have hlength := congrArg List.length hlast
      simp only [List.length_append, List.length_reverse, List.length_cons] at hlength
      refine Or.inr ⟨rfl, last, others, hlast, by omega, ?_⟩
      simp only [Cursor.blamedLine, hlast]

namespace Cursor

/-- What a call blames stands at or behind the place where the call has started. -/
theorem exists_blamed_of_error {tokens : List Token} {cursor : Cursor}
    (begun : (ofTokens tokens).Precedes cursor) {rejection : Rejection}
    (failed : (parse cursor).1 = .error rejection) :
    ∃ place blamed, cursor.position ≤ place ∧ tokens[place]? = some blamed ∧
      rejection.line = blamed.line ∧
      (place = (parse cursor).2.position ∨
        place + 1 = (parse cursor).2.position ∧ (parse cursor).2.position = tokens.length) := by
  have hafter := begun.trans (precedes_parse cursor)
  obtain ⟨hpassed, hrest, -⟩ := split_of_precedes hafter
  obtain ⟨_, _, _, -, -, -, step⟩ := exists_step_of_error failed
  rcases step.exists_blamed with
    ⟨found, later, hfound, hline⟩ | ⟨hend, last, others, hlast, hlength, hline⟩
  · refine ⟨_, found, position_le_of_precedes (precedes_parse cursor), ?_, hline, Or.inl rfl⟩
    rw [← List.head?_drop, ← hrest, hfound]
    rfl
  · have hposition : (parse cursor).2.position = others.length + 1 := congrArg List.length hlast
    have htokens : tokens = others.reverse ++ [last] := by
      calc
        tokens = tokens.take tokens.length := List.take_length.symm
        _ = (parse cursor).2.passed.reverse := by rw [hpassed, (rest_eq_nil_iff hafter).mp hend]
        _ = others.reverse ++ [last] := by rw [hlast, List.reverse_cons]
    refine ⟨others.length, last, ?_, ?_, hline,
      Or.inr ⟨hposition.symm, (rest_eq_nil_iff hafter).mp hend⟩⟩
    · rw [List.length_append] at hlength
      exact Nat.le_of_add_left_le hlength
    · rw [htokens, ← List.length_reverse, List.getElem?_concat_length]

end Cursor

/-- However often building goes on, no rule misses the keyword that it starts with, and the constant
line is not blamed.  A rejection blames the token at the place where its call stops or, at the end,
the last one, and the call has not started behind that token. -/
theorem rejected_call_blames_its_own_token {tokens : List Token} {calls : Nat}
    {rejection : Rejection}
    (failed : (Cursor.parse ((Cursor.ofTokens tokens).resumed calls)).1 = .error rejection) :
    let cursor := (Cursor.ofTokens tokens).resumed calls
    let after := (Cursor.parse cursor).2
    (rejection.fault.message ≠ "expected 'quit'" ∧ rejection.fault.message ≠ "expected 'log'" ∧
      rejection.fault.message ≠ "expected 'let' or 'const'") ∧
    (rejection.line = after.blamedLine ∧ ¬ (after.passed = [] ∧ after.rest = [])) ∧
    ∃ place blamed, cursor.position ≤ place ∧ tokens[place]? = some blamed ∧
      rejection.line = blamed.line ∧
      (place = after.position ∨
        place + 1 = after.position ∧ after.position = tokens.length) := by
  intro cursor after
  have harises : rejection.fault.Arises :=
    arises_iff_exists_rejected_call.mpr ⟨tokens, calls, rejection, failed, rfl⟩
  obtain ⟨_, _, _, -, -, -, step⟩ := Cursor.exists_step_of_error failed
  refine ⟨⟨?_, ?_, ?_⟩, ⟨step.line_eq, ?_⟩, ?_⟩
  · exact harises.message_ne (Fault.not_arises_callKeyword .quit)
  · exact harises.message_ne (Fault.not_arises_callKeyword .log)
  · exact harises.message_ne Fault.not_arises_declaredKeyword
  · rintro ⟨hpassed, hrest⟩
    exact step.passed_ne_nil hrest hpassed
  · exact Cursor.exists_blamed_of_error ((Cursor.ofTokens tokens).precedes_resumed calls) failed

/-- Two keywords that lack what must follow them: the first call stops before the second keyword,
the second one at the end, behind the keyword that it has passed. -/
theorem rejected_calls_of_two_keywords :
    let tokens : List Token := [⟨.keyword .constBinder, 4, none⟩, ⟨.keyword .quit, 7, none⟩]
    let cursor := (Cursor.ofTokens tokens).resumed
    (Cursor.parse (cursor 0)).1 = .error { fault := .declaredName, line := 7 } ∧
      (cursor 1).position = 1 ∧
      (Cursor.parse (cursor 1)).1 = .error { fault := .callOpening .quit, line := 7 } ∧
      Fault.declaredName.message ≠ "expected 'let' or 'const'" ∧
      (Fault.callOpening .quit).message ≠ "expected 'quit'" ∧
      ∃ place blamed, 1 ≤ place ∧ tokens[place]? = some blamed ∧ 7 = blamed.line ∧
        (place = 2 ∨ place + 1 = 2 ∧ 2 = tokens.length) := by
  intro tokens cursor
  have hfirst : (Cursor.parse (cursor 0)).1 = .error { fault := .declaredName, line := 7 } := by
    decide +kernel
  have hsecond :
      (Cursor.parse (cursor 1)).1 = .error { fault := .callOpening .quit, line := 7 } := by
    decide +kernel
  have hposition : (cursor 1).position = 1 := by decide +kernel
  have hstop : (Cursor.parse (cursor 1)).2.position = 2 := by decide +kernel
  obtain ⟨⟨-, -, hdeclared⟩, -, -⟩ := rejected_call_blames_its_own_token hfirst
  obtain ⟨⟨hquit, -, -⟩, -, hblamed⟩ := rejected_call_blames_its_own_token hsecond
  rw [hposition, hstop] at hblamed
  exact ⟨hfirst, hposition, hsecond, hdeclared, hquit, hblamed⟩

end StatementLang
