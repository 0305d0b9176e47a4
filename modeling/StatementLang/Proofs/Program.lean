import StatementLang.Proofs.Step

/-!
# Building Programs

Building statements from tokens accepts exactly the programs of the grammar.  A run that does not
reach the end of the tokens has completed a program without an ending, and stops in one step behind
it.
-/

namespace StatementLang

/-- None of the statements ends the program. -/
def Continues (statements : List Statement) : Prop :=
  ∀ statement ∈ statements, statement.keyword ≠ .quit

theorem continues_nil : Continues [] := by
  intro statement hmem
  cases hmem

theorem continues_cons {statement : Statement} {statements : List Statement} :
    Continues (statement :: statements) ↔
      statement.keyword ≠ .quit ∧ Continues statements :=
  List.forall_mem_cons

/-- A program is a list of groups, and only the last of them may end it. -/
theorem derivesProgram_iff_groups {tokens : List Token} {statements : List Statement} :
    DerivesProgram tokens statements ↔
      ∃ groups : List (List Token), tokens = groups.flatten ∧
        List.Forall₂ Derives groups statements ∧
        ∀ statement ∈ statements.dropLast, statement.keyword ≠ .quit := by
  constructor
  · intro h
    induction h with
    | nil => exact ⟨[], rfl, .nil, by simp⟩
    | @ending group statement derived =>
      exact ⟨[group], by simp, .cons derived .nil, by simp⟩
    | @cons group tokens statement statements derived continues _ ih =>
      obtain ⟨groups, rfl, derivations, ends⟩ := ih
      refine ⟨group :: groups, by simp, .cons derived derivations, ?_⟩
      cases statements with
      | nil => simp
      | cons next statements =>
        rw [List.dropLast_cons_cons]
        exact List.forall_mem_cons.mpr ⟨continues, ends⟩
  · rintro ⟨groups, rfl, derivations, ends⟩
    induction derivations with
    | nil => exact .nil
    | @cons group statement groups statements derived derivations ih =>
      cases derivations with
      | nil =>
        simp only [List.flatten_cons, List.flatten_nil, List.append_nil]
        exact .ending derived
      | cons next derivations =>
        rw [List.dropLast_cons_cons] at ends
        obtain ⟨continues, ends⟩ := List.forall_mem_cons.mp ends
        exact .cons derived continues (ih ends)

/-- A program without an ending can be continued by any other. -/
theorem DerivesProgram.append {first second : List Token} {before after : List Statement}
    (h : DerivesProgram first before) (continues : Continues before)
    (later : DerivesProgram second after) :
    DerivesProgram (first ++ second) (before ++ after) := by
  induction h with
  | nil => exact later
  | ending derived =>
    exact .cons derived (continues_cons.mp continues).1 later
  | cons derived hcontinues _ ih =>
    rw [List.append_assoc]
    exact .cons derived hcontinues (ih (continues_cons.mp continues).2)

/-! ## Runs -/

/-- What a run tells behind a number of statements read before. -/
def Parse.trace (parse : Parse) (count : Nat) : List LogRecord :=
  parse.statements.map Statement.record ++
    match parse.rejection with
    | none => [statementsRecord (count + parse.statements.length)]
    | some _ => []

namespace Cursor

/-- What holds where building stops, and in front of a statement if it holds behind it, holds of
every cursor. -/
@[elab_as_elim]
theorem induction_on_next {motive : Cursor → Prop} (cursor : Cursor)
    (statement : ∀ cursor statement after, next cursor = (.ok (some statement), after) →
      motive after → motive cursor)
    (ending : ∀ cursor after, next cursor = (.ok none, after) → motive cursor)
    (failure : ∀ cursor rejection after, next cursor = (.error rejection, after) → motive cursor) :
    motive cursor := by
  induction hlength : cursor.rest.length using Nat.strongRecOn generalizing cursor with
  | _ length ih =>
    rcases hnext : next cursor with ⟨rejection | _ | built, after⟩
    · exact failure cursor rejection after hnext
    · exact ending cursor after hnext
    · have hshorter := length_rest_lt_of_next hnext
      exact statement cursor built after hnext (ih _ (hlength ▸ hshorter) after rfl)

section

variable {cursor after : Cursor}

theorem run_step_of_finished (h : next cursor = (.ok none, after)) (limit : LogLimit)
    (count : Nat) :
    cursor.run limit count =
      { statements := [], rejection := none, cursor := after,
        records := limit.retain (statementsRecord count) } := by
  rw [run]
  split <;> simp_all

theorem run_step_of_completed {statement : Statement}
    (h : next cursor = (.ok (some statement), after)) (limit : LogLimit) (count : Nat) :
    cursor.run limit count =
      { after.run limit (count + 1) with
        statements := statement :: (after.run limit (count + 1)).statements
        records := limit.retain statement.record ++ (after.run limit (count + 1)).records } := by
  rw [run]
  split <;> simp_all

theorem run_step_of_error {rejection : Rejection} (h : next cursor = (.error rejection, after))
    (limit : LogLimit) (count : Nat) :
    cursor.run limit count =
      { statements := [], rejection := some rejection, cursor := after } := by
  rw [run]
  split <;> simp_all

/-- Where nothing is logged, the statements read before do not matter. -/
theorem run_none (cursor : Cursor) (count : Nat) : cursor.run none count = cursor.run := by
  induction cursor using induction_on_next generalizing count with
  | statement cursor statement after step ih =>
    rw [run_step_of_completed step, run_step_of_completed step, ih (count + 1), ih (0 + 1)]
  | ending cursor after step =>
    rw [run_step_of_finished step, run_step_of_finished step]
    rfl
  | failure cursor rejection after step => rw [run_step_of_error step, run_step_of_error step]

theorem run_of_finished (h : next cursor = (.ok none, after)) :
    cursor.run = { statements := [], rejection := none, cursor := after } :=
  run_step_of_finished h none 0

theorem run_of_completed {statement : Statement}
    (h : next cursor = (.ok (some statement), after)) :
    cursor.run = { after.run with statements := statement :: after.run.statements } := by
  rw [run_step_of_completed h, run_none]
  rfl

theorem run_of_error {rejection : Rejection} (h : next cursor = (.error rejection, after)) :
    cursor.run = { statements := [], rejection := some rejection, cursor := after } :=
  run_step_of_error h none 0

end

/-- A log changes nothing of a run.  It tells each statement completed and, at the end of the
tokens, how many they are, as far as its limit keeps that. -/
theorem run_logged (cursor : Cursor) (limit : LogLimit) (count : Nat) :
    cursor.run limit count =
      { cursor.run with
        records := (cursor.run.trace count).filter fun record ↦ limit.keeps record.level } := by
  induction cursor using induction_on_next generalizing count with
  | statement cursor statement after step ih =>
    have hcount (length : Nat) : count + 1 + length = count + (length + 1) := by omega
    rw [run_step_of_completed step, ih, run_of_completed step]
    simp only [Parse.trace, List.map_cons, List.cons_append, List.length_cons,
      LogLimit.filter_cons, hcount]
  | ending cursor after step =>
    rw [run_step_of_finished step, run_of_finished step]
    simp only [Parse.trace, List.map_nil, List.nil_append, List.length_nil, Nat.add_zero,
      LogLimit.filter_cons, List.filter_nil, List.append_nil]
  | failure cursor rejection after step =>
    rw [run_step_of_error step, run_of_error step]
    rfl

/-- A program without an ending is passed statement by statement, whatever follows. -/
theorem run_append {read : List Token} {statements : List Statement}
    (h : DerivesProgram read statements) (continues : Continues statements)
    (passed rest : List Token) :
    run { passed, rest := read ++ rest } =
      { run { passed := read.reverse ++ passed, rest } with
        statements := statements ++
          (run { passed := read.reverse ++ passed, rest }).statements } := by
  induction h generalizing passed with
  | nil => rfl
  | ending derived =>
    exact run_of_completed
      (next_of_derives passed derived fun ended ↦ absurd ended (continues_cons.mp continues).1)
  | @cons group tokens statement statements derived hcontinues _ ih =>
    have hnext : next { passed, rest := group ++ (tokens ++ rest) } = _ :=
      next_of_derives passed derived fun ended ↦ absurd ended hcontinues
    rw [List.append_assoc, run_of_completed hnext, ih (continues_cons.mp continues).2,
      List.reverse_append, List.append_assoc, List.cons_append]

/-- A program is passed as a whole. -/
theorem run_of_derivesProgram {tokens : List Token} {statements : List Statement}
    (h : DerivesProgram tokens statements) (passed : List Token) :
    run { passed, rest := tokens } =
      { statements, rejection := none,
        cursor := { passed := tokens.reverse ++ passed, rest := [] } } := by
  induction h generalizing passed with
  | nil => exact run_of_finished rfl
  | @ending group statement derived =>
    have hnext := next_of_derives passed derived fun _ ↦ rfl
    rw [List.append_nil] at hnext
    rw [run_of_completed hnext, run_of_finished rfl]
  | @cons group tokens statement statements derived continues _ ih =>
    have hnext : next { passed, rest := group ++ tokens } = _ :=
      next_of_derives passed derived fun ended ↦ absurd ended continues
    rw [run_of_completed hnext, ih, List.reverse_append, List.append_assoc]

/-- A run passes a whole program, or it passes a program without an ending and then stops. -/
theorem run_outcome (passed rest : List Token) :
    (∃ statements, DerivesProgram rest statements) ∨
    ∃ read later statements rejection after,
      rest = read ++ later ∧ DerivesProgram read statements ∧ Continues statements ∧
      Step (read.reverse ++ passed) later (.error rejection) after := by
  -- By the number of tokens left: a statement that does not end the program leaves fewer.
  induction hlength : rest.length using Nat.strongRecOn generalizing passed rest with
  | _ length ih =>
    obtain ⟨result, after, step⟩ := exists_step passed rest
    cases step with
    | finished => exact Or.inl ⟨[], .nil⟩
    | @completed group later statement derived last =>
      by_cases ended : statement.keyword = .quit
      · obtain rfl := last ended
        rw [List.append_nil]
        exact Or.inl ⟨[statement], .ending derived⟩
      · have hshorter : later.length < length := by
          rw [← hlength, List.length_append, derived.length_eq]
          omega
        rcases ih later.length hshorter (group.reverse ++ passed) later rfl with
          ⟨statements, derivation⟩ |
          ⟨read, later, statements, rejection, after, rfl, derivation, continues, step⟩
        · exact Or.inl ⟨statement :: statements, .cons derived ended derivation⟩
        · refine Or.inr ⟨group ++ read, later, statement :: statements, rejection, after, ?_,
            .cons derived ended derivation, continues_cons.mpr ⟨ended, continues⟩, ?_⟩
          · rw [List.append_assoc]
          · rw [List.reverse_append, List.append_assoc]
            exact step
    | unexpected headless =>
      exact Or.inr ⟨[], _, [], _, _, rfl, .nil, continues_nil, .unexpected headless⟩
    | unreachable derived ended =>
      exact Or.inr ⟨[], _, [], _, _, rfl, .nil, continues_nil, .unreachable derived ended⟩
    | departed begun departs place =>
      exact Or.inr ⟨[], _, [], _, _, rfl, .nil, continues_nil, .departed begun departs place⟩

/-- A step that stops behind a program without an ending is where the run stops. -/
theorem run_of_stopped {passed read later : List Token} {statements : List Statement}
    {rejection : Rejection} {after : Cursor} (h : DerivesProgram read statements)
    (continues : Continues statements)
    (step : Step (read.reverse ++ passed) later (.error rejection) after) :
    run { passed, rest := read ++ later } =
      { statements, rejection := some rejection, cursor := after } := by
  rw [run_append h continues, run_of_error (next_of_step step), List.append_nil]

theorem parse_of_derivesProgram {tokens : List Token} {statements : List Statement}
    (h : DerivesProgram tokens statements) (passed : List Token) :
    parse { passed, rest := tokens } =
      (.ok statements, { passed := tokens.reverse ++ passed, rest := [] }) := by
  simp only [parse, run_of_derivesProgram h]

theorem parse_of_stopped {passed read later : List Token} {statements : List Statement}
    {rejection : Rejection} {after : Cursor} (h : DerivesProgram read statements)
    (continues : Continues statements)
    (step : Step (read.reverse ++ passed) later (.error rejection) after) :
    parse { passed, rest := read ++ later } = (.error rejection, after) := by
  simp only [parse, run_of_stopped h continues step]

/-- A rejection comes from one step behind a program without an ending. -/
theorem exists_step_of_error {cursor : Cursor} {rejection : Rejection}
    (failed : (parse cursor).1 = .error rejection) :
    ∃ read later statements, cursor.rest = read ++ later ∧ DerivesProgram read statements ∧
      Continues statements ∧
      Step (read.reverse ++ cursor.passed) later (.error rejection) (parse cursor).2 := by
  obtain ⟨passed, rest⟩ := cursor
  rcases run_outcome passed rest with
    ⟨statements, derivation⟩ |
    ⟨read, later, statements, rejection', after, rfl, derivation, continues, step⟩
  · rw [parse_of_derivesProgram derivation] at failed
    cases failed
  · have hparse := parse_of_stopped derivation continues step
    obtain rfl := Except.error.inj ((congrArg Prod.fst hparse).symm.trans failed)
    rw [hparse]
    exact ⟨read, later, statements, rfl, derivation, continues, step⟩

/-- From the first token on, a step that stops behind a program decides the result. -/
theorem parse_ofTokens_of_stopped {read later : List Token} {statements : List Statement}
    {rejection : Rejection} {after : Cursor} (h : DerivesProgram read statements)
    (continues : Continues statements) (step : Step read.reverse later (.error rejection) after) :
    parse (ofTokens (read ++ later)) = (.error rejection, after) := by
  apply parse_of_stopped h continues
  rw [List.append_nil]
  exact step

end Cursor

theorem parse_eq_ok_iff {tokens : List Token} {statements : List Statement} :
    parse tokens = .ok statements ↔ DerivesProgram tokens statements := by
  constructor
  · intro h
    rcases Cursor.run_outcome [] tokens with
      ⟨derived, derivation⟩ | ⟨read, later, _, rejection, after, rfl, derivation, continues, step⟩
    · have hparse := congrArg Prod.fst (Cursor.parse_of_derivesProgram derivation [])
      obtain rfl := Except.ok.inj (hparse.symm.trans h)
      exact derivation
    · have hparse := congrArg Prod.fst (Cursor.parse_of_stopped derivation continues step)
      cases hparse.symm.trans h
  · intro h
    exact congrArg Prod.fst (Cursor.parse_of_derivesProgram h [])

/-- Building statements accepts exactly the programs of the grammar, one group of five tokens for a
statement, and passes every token of what it accepts. -/
theorem parse_eq_ok_iff_groups (tokens : List Token) (statements : List Statement) :
    (parse tokens = .ok statements ↔
      ∃ groups : List (List Token), tokens = groups.flatten ∧
        List.Forall₂ Derives groups statements ∧
        ∀ statement ∈ statements.dropLast, statement.keyword ≠ .quit) ∧
    (parse tokens = .ok statements →
      (Cursor.parse (.ofTokens tokens)).2 = { passed := tokens.reverse, rest := [] } ∧
        tokens.length = 5 * statements.length) := by
  refine ⟨parse_eq_ok_iff.trans derivesProgram_iff_groups, ?_⟩
  intro h
  have hderived := parse_eq_ok_iff.mp h
  have hparse := Cursor.parse_of_derivesProgram hderived []
  rw [List.append_nil] at hparse
  exact ⟨congrArg Prod.snd hparse, hderived.length_eq⟩

/-- A declaration spread over two lines, and the call that ends the program. -/
theorem parse_declaration_before_quit :
    let tokens : List Token :=
      [⟨.keyword .constBinder, 1, none⟩, ⟨.identifier, 1, some "x"⟩, ⟨.equal, 1, some "="⟩,
        ⟨.integer, 2, none⟩, ⟨.semicolon, 2, none⟩, ⟨.keyword .quit, 2, none⟩,
        ⟨.openParen, 2, none⟩, ⟨.integer, 3, some "0"⟩, ⟨.closeParen, 3, none⟩,
        ⟨.semicolon, 3, none⟩]
    let statements : List Statement :=
      [.declaration ⟨.identifier, 1, some "x"⟩ ⟨.integer, 2, none⟩ true 1,
        .quit ⟨.integer, 3, some "0"⟩ 2]
    parse tokens = .ok statements ∧
      (Cursor.parse (.ofTokens tokens)).2 = { passed := tokens.reverse, rest := [] } ∧
        tokens.length = 5 * statements.length := by
  intro tokens statements
  have hparse : parse tokens = .ok statements := by decide +kernel
  exact ⟨hparse, (parse_eq_ok_iff_groups tokens statements).2 hparse⟩

end StatementLang
