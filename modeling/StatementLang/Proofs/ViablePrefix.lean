import StatementLang.Proofs.Program

/-!
# Where Building Statements Fails

A rejected list of tokens is blamed on its first token that no program can have there.  The tokens
before it can be continued to a program, and the text of the fault says how far the statement
reached that could not be completed.
-/

namespace StatementLang

/-- The tokens are those of a program. -/
def Accepted (tokens : List Token) : Prop := ∃ statements, parse tokens = .ok statements

/-- The tokens can be continued to those of a program. -/
def Viable (tokens : List Token) : Prop := ∃ later, Accepted (tokens ++ later)

/-- The last of the statements ends the program. -/
def Ended (statements : List Statement) : Prop :=
  ∃ last, statements.getLast? = some last ∧ last.keyword = .quit

theorem Accepted.viable {tokens : List Token} (h : Accepted tokens) : Viable tokens :=
  ⟨[], by rwa [List.append_nil]⟩

theorem accepted_of_derivesProgram {tokens : List Token} {statements : List Statement}
    (h : DerivesProgram tokens statements) : Accepted tokens :=
  ⟨statements, parse_eq_ok_iff.mpr h⟩

theorem Continues.not_ended {statements : List Statement} (h : Continues statements) :
    ¬ Ended statements := by
  rintro ⟨last, hlast, ended⟩
  exact h last (List.mem_of_getLast? hlast) ended

/-- The number of tokens of a program is a multiple of five. -/
theorem not_accepted_of_length_mod {tokens : List Token} (h : tokens.length % 5 ≠ 0) :
    ¬ Accepted tokens := by
  rintro ⟨statements, accepted⟩
  have hlength := (parse_eq_ok_iff.mp accepted).length_eq
  omega

/-- A rejection comes from one step behind a program without an ending. -/
theorem exists_step_of_parse_error {tokens : List Token} {rejection : Rejection}
    (failed : parse tokens = .error rejection) :
    ∃ read later statements after, tokens = read ++ later ∧ DerivesProgram read statements ∧
      Continues statements ∧ Step read.reverse later (.error rejection) after ∧
      (Cursor.parse (.ofTokens tokens)).2 = after := by
  obtain ⟨read, later, statements, htokens, derivation, continues, step⟩ :=
    Cursor.exists_step_of_error failed
  rw [Cursor.ofTokens, List.append_nil] at step
  exact ⟨read, later, statements, _, htokens, derivation, continues, step, rfl⟩

section

variable {read later : List Token} {statements : List Statement} {rejection : Rejection}
  {after : Cursor}

/-- Behind a program without an ending, the tokens up to the place of a rejection are viable. -/
theorem viable_of_step (derivation : DerivesProgram read statements)
    (continues : Continues statements)
    (step : Step read.reverse later (.error rejection) after) : Viable after.passed.reverse := by
  cases step with
  | unexpected =>
    rw [List.reverse_reverse]
    exact (accepted_of_derivesProgram derivation).viable
  | unreachable derived =>
    have hprogram := derivation.append continues (.ending derived)
    rw [List.reverse_append, List.reverse_reverse, List.reverse_reverse]
    exact (accepted_of_derivesProgram hprogram).viable
  | @departed head keyword part _ _ _ begun departs place =>
    subst place
    obtain ⟨missing, met⟩ := departs.exists_completion
    obtain ⟨statement, derived, -⟩ := exists_derives begun met
    have hprogram := derivation.append continues (.ending derived)
    refine ⟨missing, ?_⟩
    simpa using accepted_of_derivesProgram hprogram

/-- The tokens up to the place of a rejection and the token found there are rejected with whatever
follows. -/
theorem parse_of_step_at_token (derivation : DerivesProgram read statements)
    (continues : Continues statements)
    (step : Step read.reverse later (.error rejection) after) {found : Token} {rest : List Token}
    (atFound : after.rest = found :: rest) (other : List Token) :
    parse (after.passed.reverse ++ found :: other) = .error rejection := by
  -- The step looks no further than the token found, so it is taken in every continuation.
  obtain ⟨between, -, hpassed, hstep⟩ := step.replace_later atFound other
  have htokens : after.passed.reverse ++ found :: other = read ++ (between ++ found :: other) := by
    simp [hpassed]
  rw [htokens]
  exact congrArg Prod.fst (Cursor.parse_ofTokens_of_stopped derivation continues hstep)

/-- No program has the tokens up to the place of a rejection and then the token found there. -/
theorem not_viable_of_step (derivation : DerivesProgram read statements)
    (continues : Continues statements)
    (step : Step read.reverse later (.error rejection) after) {found : Token} {rest : List Token}
    (atFound : after.rest = found :: rest) : ¬ Viable (after.passed.reverse ++ [found]) := by
  rintro ⟨other, accepted, haccepted⟩
  rw [List.append_assoc, List.singleton_append,
    parse_of_step_at_token derivation continues step atFound other] at haccepted
  cases haccepted

end

/-- What a fault says about the tokens before its place and the token found there. -/
inductive Reason (before : List Token) (next : Option Token) (fault : Fault) : Prop where
  /-- The tokens before are a program without an ending. -/
  | boundary {statements : List Statement} {found : Token} (accepted : parse before = .ok statements)
      (continues : ¬ Ended statements) (atFound : next = some found)
      (blamed : fault = .unexpected found.kind)
  /-- The tokens before are a program with an ending. -/
  | ended {statements : List Statement} {found : Token} (accepted : parse before = .ok statements)
      (ended : Ended statements) (atFound : next = some found)
      (blamed : fault = .unreachable found.kind)
  /-- The tokens before end within a statement. -/
  | unfinished {complete part : List Token} {statements : List Statement} {head : Token}
      {keyword : Keyword} (split : before = complete ++ head :: part)
      (accepted : parse complete = .ok statements) (continues : ¬ Ended statements)
      (begun : head.kind = .keyword keyword) (short : part.length < 4)
      (blamed : keyword.expectations[part.length]?.map Prod.snd = some fault)

theorem Keyword.length_expectations (keyword : Keyword) : keyword.expectations.length = 4 := by
  cases keyword <;> rfl

theorem Departs.length_lt {expectations : List (Kind × Fault)} {part later : List Token}
    {fault : Fault} (h : Departs expectations part later fault) :
    part.length < expectations.length := by
  by_contra hlong
  have hlisted := h.fault_eq
  rw [List.getElem?_eq_none (Nat.le_of_not_lt hlong)] at hlisted
  cases hlisted

theorem reason_of_step {read later : List Token} {statements : List Statement}
    {rejection : Rejection} {after : Cursor} (derivation : DerivesProgram read statements)
    (continues : Continues statements)
    (step : Step read.reverse later (.error rejection) after) :
    Reason after.passed.reverse after.rest.head? rejection.fault := by
  cases step with
  | unexpected =>
    rw [List.reverse_reverse]
    exact .boundary (parse_eq_ok_iff.mpr derivation) continues.not_ended rfl rfl
  | @unreachable group later statement found derived ended =>
    have hprogram := derivation.append continues (.ending derived)
    rw [List.reverse_append, List.reverse_reverse, List.reverse_reverse]
    refine .ended (parse_eq_ok_iff.mpr hprogram) ⟨statement, ?_, ended⟩ rfl rfl
    exact List.getLast?_concat
  | @departed head keyword part _ _ _ begun departs place =>
    subst place
    refine .unfinished ?_ (parse_eq_ok_iff.mpr derivation) continues.not_ended begun ?_
      departs.fault_eq
    · simp
    · rw [← keyword.length_expectations]
      exact departs.length_lt

/-- Tokens that end within a statement are no program. -/
theorem not_accepted_of_unfinished {complete part : List Token} {statements : List Statement}
    (head : Token) (accepted : parse complete = .ok statements) (short : part.length < 4) :
    ¬ Accepted (complete ++ head :: part) := by
  have hlength := (parse_eq_ok_iff.mp accepted).length_eq
  apply not_accepted_of_length_mod
  rw [List.length_append, List.length_cons]
  omega

/-- What a keyword requires is no fault of a statement's beginning, nor the lack of a keyword. -/
theorem Keyword.fault_ne_of_mem {keyword : Keyword} {kind : Kind} {fault : Fault}
    (h : (kind, fault) ∈ keyword.expectations) :
    (∀ other, fault ≠ .unexpected other ∧ fault ≠ .unreachable other) ∧
      (∀ other, fault ≠ .callKeyword other) ∧ fault ≠ .declaredKeyword := by
  cases keyword <;>
    simp only [expectations, callExpectations, declarationExpectations, List.mem_cons,
      List.not_mem_nil, Prod.mk.injEq, or_false] at h <;>
    rcases h with ⟨-, rfl⟩ | ⟨-, rfl⟩ | ⟨-, rfl⟩ | ⟨-, rfl⟩ <;> simp

theorem Keyword.fault_ne_of_listed {keyword : Keyword} {count : Nat} {fault : Fault}
    (h : keyword.expectations[count]?.map Prod.snd = some fault) (kind : Kind) :
    fault ≠ .unexpected kind ∧ fault ≠ .unreachable kind := by
  obtain ⟨expected, hexpected, rfl⟩ := Option.map_eq_some_iff.mp h
  exact (fault_ne_of_mem (List.mem_of_getElem? hexpected)).1 kind

section

variable {before : List Token} {next : Option Token} {fault : Fault}

theorem Reason.message_unexpected_iff (h : Reason before next fault) :
    (∃ found, next = some found ∧
      fault.message = "unexpected token '" ++ found.kind.label ++ "'") ↔
    ∃ statements, parse before = .ok statements ∧ ¬ Ended statements := by
  constructor
  · rintro ⟨found, -, hmessage⟩
    have hfault : fault = .unexpected found.kind := Fault.message_injective hmessage
    cases h with
    | boundary accepted continues => exact ⟨_, accepted, continues⟩
    | ended _ _ _ blamed => cases hfault.symm.trans blamed
    | unfinished _ _ _ _ _ blamed => exact absurd hfault (Keyword.fault_ne_of_listed blamed _).1
  · rintro ⟨statements, accepted, continues⟩
    cases h with
    | boundary _ _ atFound blamed => exact ⟨_, atFound, congrArg Fault.message blamed⟩
    | ended accepted' ended =>
      obtain rfl := Except.ok.inj (accepted.symm.trans accepted')
      exact absurd ended continues
    | unfinished split accepted' _ _ short =>
      subst split
      exact absurd ⟨_, accepted⟩ (not_accepted_of_unfinished _ accepted' short)

theorem Reason.message_unreachable_iff (h : Reason before next fault) :
    (∃ found, next = some found ∧ fault.message =
      "token '" ++ found.kind.label ++ "' is unreachable -> expected end of file or scope") ↔
    ∃ statements, parse before = .ok statements ∧ Ended statements := by
  constructor
  · rintro ⟨found, -, hmessage⟩
    have hfault : fault = .unreachable found.kind := Fault.message_injective hmessage
    cases h with
    | boundary _ _ _ blamed => cases hfault.symm.trans blamed
    | ended accepted ended => exact ⟨_, accepted, ended⟩
    | unfinished _ _ _ _ _ blamed => exact absurd hfault (Keyword.fault_ne_of_listed blamed _).2
  · rintro ⟨statements, accepted, ended⟩
    cases h with
    | boundary accepted' continues =>
      obtain rfl := Except.ok.inj (accepted.symm.trans accepted')
      exact absurd ended continues
    | ended _ _ atFound blamed => exact ⟨_, atFound, congrArg Fault.message blamed⟩
    | unfinished split accepted' _ _ short =>
      subst split
      exact absurd ⟨_, accepted⟩ (not_accepted_of_unfinished _ accepted' short)

theorem Reason.exists_unfinished (h : Reason before next fault) (hbefore : ¬ Accepted before) :
    ∃ complete head part statements keyword, before = complete ++ head :: part ∧
      parse complete = .ok statements ∧ ¬ Ended statements ∧ head.kind = .keyword keyword ∧
      (head :: part).length ≤ 4 ∧
      (keyword.expectations[part.length]?.map fun expected ↦ expected.2.message) =
        some fault.message := by
  cases h with
  | boundary accepted => exact absurd ⟨_, accepted⟩ hbefore
  | ended accepted => exact absurd ⟨_, accepted⟩ hbefore
  | @unfinished complete part statements head keyword split accepted continues begun short blamed =>
    refine ⟨complete, head, part, statements, keyword, split, accepted, continues, begun, short, ?_⟩
    obtain ⟨expected, hexpected, rfl⟩ := Option.map_eq_some_iff.mp blamed
    rw [hexpected]
    rfl

end

/-! ## The first offending token -/

/-- A rejection divides the tokens into those before its place and those from it on. -/
theorem exists_place_of_parse_error {tokens : List Token} {rejection : Rejection}
    (failed : parse tokens = .error rejection) :
    ∃ before rest, tokens = before ++ rest ∧
      (Cursor.parse (.ofTokens tokens)).2.position = before.length ∧ Viable before ∧
      (∀ found later, rest = found :: later →
        ¬ Viable (before ++ [found]) ∧ rejection.line = found.line) ∧
      (rest = [] → ∃ others last, before = others ++ [last] ∧ rejection.line = last.line) ∧
      Reason before rest.head? rejection.fault := by
  obtain ⟨read, later, statements, after, htokens, derivation, continues, step, hafter⟩ :=
    exists_step_of_parse_error failed
  obtain ⟨between, hlater, hpassed⟩ := step.exists_passed
  refine ⟨after.passed.reverse, after.rest, ?_, ?_, viable_of_step derivation continues step,
    ?_, ?_, reason_of_step derivation continues step⟩
  · calc
      tokens = read ++ (between ++ after.rest) := by rw [htokens, hlater]
      _ = (between.reverse ++ read.reverse).reverse ++ after.rest := by
        rw [List.reverse_append, List.reverse_reverse, List.reverse_reverse, List.append_assoc]
      _ = after.passed.reverse ++ after.rest := by rw [hpassed]
  · rw [hafter, List.length_reverse]
    rfl
  · intro found others atFound
    refine ⟨not_viable_of_step derivation continues step atFound, ?_⟩
    rw [step.line_eq]
    unfold Cursor.blamedLine
    rw [atFound]
  · intro atEnd
    obtain ⟨last, others, hlast⟩ := List.exists_cons_of_ne_nil (step.passed_ne_nil atEnd)
    refine ⟨others.reverse, last, ?_, ?_⟩
    · rw [hlast, List.reverse_cons]
    · rw [step.line_eq]
      unfold Cursor.blamedLine
      rw [atEnd, hlast]

/-- A list of tokens is rejected at its first token that no program can have there, or behind its
last token if more is missing.  The text names the token found where a statement ends, and what is
missing where a statement is unfinished. -/
theorem parse_error_at_first_offending_token {tokens : List Token} {rejection : Rejection}
    (failed : parse tokens = .error rejection) :
    let stopped := (Cursor.parse (.ofTokens tokens)).2.position
    (stopped ≤ tokens.length ∧ Viable (tokens.take stopped)) ∧
    (∀ found, tokens[stopped]? = some found →
      ¬ Viable (tokens.take (stopped + 1)) ∧ rejection.line = found.line) ∧
    (stopped = tokens.length →
      ¬ Accepted tokens ∧ 0 < stopped ∧
        ∃ last, tokens[stopped - 1]? = some last ∧ rejection.line = last.line) ∧
    ((∃ found, tokens[stopped]? = some found ∧
        rejection.fault.message = "unexpected token '" ++ found.kind.label ++ "'") ↔
      ∃ statements, parse (tokens.take stopped) = .ok statements ∧ ¬ Ended statements) ∧
    ((∃ found, tokens[stopped]? = some found ∧ rejection.fault.message =
        "token '" ++ found.kind.label ++ "' is unreachable -> expected end of file or scope") ↔
      ∃ statements, parse (tokens.take stopped) = .ok statements ∧ Ended statements) ∧
    (¬ Accepted (tokens.take stopped) →
      ∃ complete head part statements keyword, tokens.take stopped = complete ++ head :: part ∧
        parse complete = .ok statements ∧ ¬ Ended statements ∧ head.kind = .keyword keyword ∧
        (head :: part).length ≤ 4 ∧
        (keyword.expectations[part.length]?.map fun expected ↦ expected.2.message) =
          some rejection.fault.message) := by
  obtain ⟨before, rest, rfl, hposition, viable, hfound, hlast, hreason⟩ :=
    exists_place_of_parse_error failed
  have htake : (before ++ rest).take before.length = before := List.take_left
  have hnext : (before ++ rest)[before.length]? = rest.head? := by
    rw [List.getElem?_append_right (Nat.le_refl _), Nat.sub_self, List.head?_eq_getElem?]
  intro stopped
  simp only [stopped, hposition, htake, hnext]
  refine ⟨⟨?_, viable⟩, ?_, ?_, hreason.message_unexpected_iff, hreason.message_unreachable_iff,
    hreason.exists_unfinished⟩
  · rw [List.length_append]
    exact Nat.le_add_right _ _
  · intro found atFound
    obtain ⟨later, rfl⟩ := List.head?_eq_some_iff.mp atFound
    have hpart : (before ++ found :: later).take (before.length + 1) = before ++ [found] :=
      List.take_length_add_append 1
    rw [hpart]
    exact hfound found later rfl
  · intro atEnd
    have hrest : rest = [] := by
      rw [List.length_append] at atEnd
      exact List.length_eq_zero_iff.mp (by omega)
    obtain ⟨others, last, rfl, hline⟩ := hlast hrest
    refine ⟨?_, ?_, last, ?_, hline⟩
    · rintro ⟨accepted, haccepted⟩
      cases failed.symm.trans haccepted
    · rw [List.length_append]
      exact Nat.succ_pos _
    · simp

/-- A declaration that stops before its integer, on the line of the semicolon found instead. -/
theorem parse_declaration_without_integer :
    let tokens : List Token :=
      [⟨.keyword .log, 1, none⟩, ⟨.openParen, 1, none⟩, ⟨.integer, 1, some "1"⟩,
        ⟨.closeParen, 1, none⟩, ⟨.semicolon, 1, none⟩, ⟨.keyword .letBinder, 2, none⟩,
        ⟨.identifier, 2, some "x"⟩, ⟨.equal, 2, none⟩, ⟨.semicolon, 3, none⟩]
    parse tokens = .error { fault := .declaredInteger, line := 3 } ∧
      Viable (tokens.take 8) ∧ ¬ Viable (tokens.take 9) := by
  intro tokens
  have hparse : parse tokens = .error { fault := .declaredInteger, line := 3 } := by
    decide +kernel
  have hposition : (Cursor.parse (.ofTokens tokens)).2.position = 8 := by decide +kernel
  have hplace := parse_error_at_first_offending_token hparse
  rw [hposition] at hplace
  exact ⟨hparse, hplace.1.2, (hplace.2.1 _ rfl).1⟩

end StatementLang
