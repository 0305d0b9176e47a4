import StatementLang.Proofs.ViablePrefix

/-!
# Building Statements Again

Building statements can go on from where it stopped.  The tokens passed before never matter: what is
built, and the line that is blamed, are those of building from the tokens left alone.  The cursor
only moves forward, so that no token is used for two statements.
-/

namespace StatementLang

namespace Cursor

/-- A cursor with more tokens passed before all others. -/
def behind (passed : List Token) (cursor : Cursor) : Cursor :=
  { passed := cursor.passed ++ passed, rest := cursor.rest }

theorem position_behind (passed : List Token) (cursor : Cursor) :
    (cursor.behind passed).position = passed.length + cursor.position := by
  rw [position, behind, List.length_append, Nat.add_comm]
  rfl

/-- A cursor stands behind the tokens it has passed and before the first of those left. -/
theorem behind_ofTokens_rest (cursor : Cursor) :
    (ofTokens cursor.rest).behind cursor.passed = cursor := rfl

/-- Only the last token passed can be blamed. -/
theorem blamedLine_behind {cursor : Cursor} (h : cursor.passed ≠ []) (passed : List Token) :
    (cursor.behind passed).blamedLine = cursor.blamedLine := by
  obtain ⟨inner, rest⟩ := cursor
  obtain ⟨last, others, rfl⟩ := List.exists_cons_of_ne_nil h
  cases rest <;> rfl

end Cursor

/-- A step does not look behind the place where it starts. -/
theorem Step.behind {inner rest : List Token} {result : Except Rejection (Option Statement)}
    {after : Cursor} (step : Step inner rest result after) (passed : List Token) :
    Step (inner ++ passed) rest result (after.behind passed) := by
  cases step with
  | finished => exact .finished
  | completed derived last =>
    simp only [Cursor.behind, List.append_assoc]
    exact .completed derived last
  | unexpected headless => exact .unexpected headless
  | unreachable derived ended =>
    simp only [Cursor.behind, List.append_assoc]
    exact .unreachable derived ended
  | @departed head keyword part later fault after begun departs place =>
    -- The keyword is passed in this step, so that no token from before it is blamed.
    have hpassed : after.passed ≠ [] := by simp [place]
    rw [← Cursor.blamedLine_behind hpassed passed]
    refine .departed begun departs ?_
    rw [place, Cursor.behind, List.append_assoc, List.cons_append]

namespace Cursor

/-- Neither does a run. -/
theorem run_behind (cursor : Cursor) (passed : List Token) :
    (cursor.behind passed).run = { cursor.run with cursor := cursor.run.cursor.behind passed } := by
  obtain ⟨inner, rest⟩ := cursor
  rcases run_outcome inner rest with
    ⟨statements, derivation⟩ |
    ⟨read, later, statements, rejection, after, rfl, derivation, continues, step⟩
  · rw [run_of_derivesProgram derivation, behind, run_of_derivesProgram derivation, behind,
      List.append_assoc]
  · have hstep := step.behind passed
    rw [List.append_assoc] at hstep
    rw [run_of_stopped derivation continues step, behind,
      run_of_stopped derivation continues hstep]

theorem parse_behind (cursor : Cursor) (passed : List Token) :
    parse (cursor.behind passed) = ((parse cursor).1, (parse cursor).2.behind passed) := by
  simp only [parse, run_behind]
  cases cursor.run.rejection <;> rfl

/-- What is built from a cursor on is built from the tokens left. -/
theorem parse_eq_fresh (cursor : Cursor) :
    parse cursor =
      ((parse (ofTokens cursor.rest)).1, (parse (ofTokens cursor.rest)).2.behind cursor.passed) :=
  parse_behind (ofTokens cursor.rest) cursor.passed

theorem position_le_of_precedes {earlier later : Cursor} (h : earlier.Precedes later) :
    earlier.position ≤ later.position := by
  obtain ⟨between, -, hpassed⟩ := h
  rw [position, position, hpassed, List.length_append]
  exact Nat.le_add_left _ _

/-- A cursor over some tokens is given by its position. -/
theorem split_of_precedes {tokens : List Token} {cursor : Cursor}
    (h : (ofTokens tokens).Precedes cursor) :
    cursor.passed.reverse = tokens.take cursor.position ∧
      cursor.rest = tokens.drop cursor.position ∧ cursor.position ≤ tokens.length := by
  obtain ⟨between, hrest, hpassed⟩ := h
  have htokens : tokens = between ++ cursor.rest := hrest
  have hposition : cursor.position = between.length := by
    rw [position, hpassed, List.length_append, List.length_reverse]
    rfl
  refine ⟨?_, ?_, ?_⟩
  · rw [hposition, htokens, List.take_left, hpassed, ofTokens, List.append_nil,
      List.reverse_reverse]
  · conv_rhs => rw [hposition, htokens, List.drop_left]
  · rw [hposition, htokens, List.length_append]
    exact Nat.le_add_right _ _

/-- A cursor leaves no tokens exactly if it has reached the end of them. -/
theorem rest_eq_nil_iff {tokens : List Token} {cursor : Cursor}
    (h : (ofTokens tokens).Precedes cursor) :
    cursor.rest = [] ↔ cursor.position = tokens.length := by
  obtain ⟨-, hrest, hle⟩ := split_of_precedes h
  rw [hrest, List.drop_eq_nil_iff]
  exact ⟨Nat.le_antisymm hle, Nat.le_of_eq ∘ Eq.symm⟩

/-- A run passes the groups of the statements it completes, and maybe a part of one more. -/
theorem exists_completed_of_error {cursor : Cursor} {rejection : Rejection}
    (failed : (parse cursor).1 = .error rejection) :
    ∃ completed between, cursor.rest = completed ++ (between ++ (parse cursor).2.rest) ∧
      (parse cursor).2.passed = (completed ++ between).reverse ++ cursor.passed ∧
      DerivesProgram completed cursor.run.statements := by
  obtain ⟨completed, later, statements, hrest, derivation, continues, step⟩ :=
    exists_step_of_error failed
  obtain ⟨between, hlater, hpassed⟩ := step.exists_passed
  refine ⟨completed, between, by rw [hrest, ← hlater], ?_, ?_⟩
  · rw [hpassed, List.reverse_append, List.append_assoc]
  · obtain ⟨passed, rest⟩ := cursor
    obtain rfl : rest = completed ++ later := hrest
    rw [run_of_stopped derivation continues step]
    exact derivation

/-- What is accepted is passed as a whole. -/
theorem derivesProgram_of_ok {cursor : Cursor} {statements : List Statement}
    (accepted : (parse cursor).1 = .ok statements) :
    DerivesProgram cursor.rest statements ∧
      (parse cursor).2 = { passed := cursor.rest.reverse ++ cursor.passed, rest := [] } := by
  rw [parse_eq_fresh] at accepted
  have derivation := parse_eq_ok_iff.mp accepted
  exact ⟨derivation, congrArg Prod.snd (parse_of_derivesProgram derivation cursor.passed)⟩

/-- Building only moves the cursor forward. -/
theorem precedes_parse (cursor : Cursor) : cursor.Precedes (parse cursor).2 := by
  cases hresult : (parse cursor).1 with
  | ok statements =>
    rw [(derivesProgram_of_ok hresult).2]
    exact ⟨cursor.rest, (List.append_nil _).symm, rfl⟩
  | error rejection =>
    obtain ⟨completed, between, hrest, hpassed, -⟩ := exists_completed_of_error hresult
    exact ⟨completed ++ between, by rw [hrest, List.append_assoc], hpassed⟩

/-- The cursor after some calls, each of which goes on where the one before stopped. -/
def resumed (cursor : Cursor) : Nat → Cursor
  | 0 => cursor
  | calls + 1 => (parse (cursor.resumed calls)).2

theorem precedes_resumed_add (cursor : Cursor) (calls more : Nat) :
    (cursor.resumed calls).Precedes (cursor.resumed (calls + more)) := by
  induction more with
  | zero => exact Precedes.refl _
  | succ more ih => exact ih.trans (precedes_parse _)

theorem precedes_resumed (cursor : Cursor) (calls : Nat) :
    cursor.Precedes (cursor.resumed calls) := by
  have h := cursor.precedes_resumed_add 0 calls
  rwa [Nat.zero_add] at h

end Cursor

/-- Building fails before the first token that no program can have there, and behind the tokens of
all statements completed. -/
theorem stop_of_parse_error {tokens : List Token} {rejection : Rejection}
    (failed : parse tokens = .error rejection) :
    let stopped := (Cursor.parse (.ofTokens tokens)).2.position
    Viable (tokens.take stopped) ∧
    (∀ found, tokens[stopped]? = some found →
      ¬ Viable (tokens.take (stopped + 1)) ∧ rejection.line = found.line) ∧
    ∃ completed later, tokens = completed ++ later ∧ completed.length ≤ stopped ∧
      DerivesProgram completed (Cursor.ofTokens tokens).run.statements := by
  intro stopped
  obtain ⟨before, rest, htokens, hposition, viable, hfound, -, -⟩ :=
    exists_place_of_parse_error failed
  have hstopped : stopped = before.length := hposition
  refine ⟨?_, ?_, ?_⟩
  · rw [hstopped, htokens, List.take_left]
    exact viable
  · intro found atFound
    rw [hstopped, htokens, List.getElem?_append_right (Nat.le_refl _), Nat.sub_self,
      ← List.head?_eq_getElem?] at atFound
    obtain ⟨later, rfl⟩ := List.head?_eq_some_iff.mp atFound
    have hpart : tokens.take (stopped + 1) = before ++ [found] := by
      rw [hstopped, htokens]
      exact List.take_length_add_append 1
    rw [hpart]
    exact hfound found later rfl
  · have hfailed : (Cursor.parse (.ofTokens tokens)).1 = .error rejection := failed
    obtain ⟨completed, between, hsplit, hpassed, derivation⟩ :=
      Cursor.exists_completed_of_error hfailed
    refine ⟨completed, _, hsplit, ?_, derivation⟩
    have hlength : stopped = ((completed ++ between).reverse ++ []).length :=
      congrArg List.length hpassed
    rw [hlength, List.append_nil, List.length_reverse, List.length_append]
    exact Nat.le_add_right _ _

/-- Building again gives what building from the tokens left gives, and stops at the same one of
them.  The position never goes back, and the statements given later are built of later tokens than
those completed before a failure. -/
theorem parse_resumed_eq_fresh (tokens : List Token) (calls : Nat) :
    let cursor := (Cursor.ofTokens tokens).resumed calls
    let start := cursor.position
    let fresh := Cursor.parse (.ofTokens (tokens.drop start))
    let stop := start + fresh.2.position
    (cursor.passed.reverse = tokens.take start ∧ cursor.rest = tokens.drop start) ∧
    ((Cursor.parse cursor).1 = fresh.1 ∧ (Cursor.parse cursor).2.position = stop) ∧
    (start ≤ stop ∧ stop ≤ tokens.length) ∧
    (∀ statements, fresh.1 = .ok statements → fresh.2.position = tokens.length - start) ∧
    (∀ rejection, fresh.1 = .error rejection →
      Viable ((tokens.drop start).take fresh.2.position) ∧
      (∀ found, tokens[stop]? = some found →
        ¬ Viable ((tokens.drop start).take (fresh.2.position + 1)) ∧
          rejection.line = found.line) ∧
      ∃ completed later, tokens.drop start = completed ++ later ∧
        completed.length ≤ fresh.2.position ∧
        DerivesProgram completed cursor.run.statements) ∧
    ∀ more,
      let later := (Cursor.ofTokens tokens).resumed (calls + 1 + more)
      stop ≤ later.position ∧ later.position ≤ tokens.length ∧
        ∀ statements, (Cursor.parse later).1 = .ok statements →
          DerivesProgram (tokens.drop later.position) statements := by
  intro cursor start fresh stop
  obtain ⟨hpassed, hrest, hstart⟩ :=
    Cursor.split_of_precedes ((Cursor.ofTokens tokens).precedes_resumed calls)
  have hparse : Cursor.parse cursor = (fresh.1, fresh.2.behind cursor.passed) := by
    rw [Cursor.parse_eq_fresh, hrest]
  have hstop : (Cursor.parse cursor).2.position = stop := by
    rw [hparse, Cursor.position_behind]
    rfl
  have hrun : cursor.run.statements = (Cursor.ofTokens (tokens.drop start)).run.statements := by
    rw [← hrest, ← Cursor.behind_ofTokens_rest cursor, Cursor.run_behind]
  refine ⟨⟨hpassed, hrest⟩, ⟨by rw [hparse], hstop⟩, ⟨Nat.le_add_right _ _, ?_⟩, ?_, ?_, ?_⟩
  · rw [← hstop]
    exact (Cursor.split_of_precedes ((Cursor.ofTokens tokens).precedes_resumed (calls + 1))).2.2
  · intro statements accepted
    rw [(Cursor.derivesProgram_of_ok accepted).2, Cursor.position, Cursor.ofTokens,
      List.append_nil, List.length_reverse, List.length_drop]
  · intro rejection failed
    obtain ⟨viable, hfound, hcompleted⟩ := stop_of_parse_error failed
    rw [hrun]
    refine ⟨viable, fun found atFound ↦ hfound found ?_, hcompleted⟩
    rw [List.getElem?_drop]
    exact atFound
  · intro more later
    obtain ⟨-, hlater, hend⟩ :=
      Cursor.split_of_precedes ((Cursor.ofTokens tokens).precedes_resumed (calls + 1 + more))
    refine ⟨?_, hend, fun statements accepted ↦ ?_⟩
    · rw [← hstop]
      exact Cursor.position_le_of_precedes
        ((Cursor.ofTokens tokens).precedes_resumed_add (calls + 1) more)
    · rw [← hlater]
      exact (Cursor.derivesProgram_of_ok accepted).1

/-- The first call completes one statement and fails behind the next keyword; the second one builds
only what comes after that. -/
theorem parse_resumed_behind_lone_keyword :
    let tokens : List Token :=
      [⟨.keyword .log, 1, none⟩, ⟨.openParen, 1, none⟩, ⟨.integer, 1, some "1"⟩,
        ⟨.closeParen, 1, none⟩, ⟨.semicolon, 1, none⟩, ⟨.keyword .letBinder, 1, none⟩,
        ⟨.keyword .log, 2, none⟩, ⟨.openParen, 2, none⟩, ⟨.integer, 2, some "2"⟩,
        ⟨.closeParen, 2, none⟩, ⟨.semicolon, 2, none⟩]
    let second := (Cursor.ofTokens tokens).resumed 1
    parse tokens = .error { fault := .declaredName, line := 2 } ∧
      second.position = 6 ∧ parse (tokens.drop 6) = .ok [.log ⟨.integer, 2, some "2"⟩ 2] ∧
      (Cursor.parse second).1 = parse (tokens.drop 6) ∧ (Cursor.parse second).2.position = 11 := by
  intro tokens second
  have hposition : ((Cursor.ofTokens tokens).resumed 1).position = 6 := by decide +kernel
  have hparse : parse (tokens.drop 6) = .ok [.log ⟨.integer, 2, some "2"⟩ 2] := by decide +kernel
  obtain ⟨-, ⟨hresult, hstop⟩, -, haccepted, -⟩ := parse_resumed_eq_fresh tokens 1
  rw [hposition] at hresult hstop haccepted
  have hlength : (Cursor.parse (.ofTokens (tokens.drop 6))).2.position = 5 := haccepted _ hparse
  exact ⟨by decide +kernel, hposition, hparse, hresult, by rw [hstop, hlength]⟩

end StatementLang
