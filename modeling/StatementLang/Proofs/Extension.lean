import StatementLang.Proofs.Concatenation

/-!
# More Tokens

What is built of some tokens stays when more tokens follow.  A program without an ending is
continued, and a rejection at a token is kept, since nothing behind that token was looked at.  Only
a rejection at the end of the tokens is open: there a last statement is unfinished, and what follows
decides whether it is completed.
-/

namespace StatementLang

/-- Tokens with which a statement begins, and which are not all of it. -/
def Unfinished (part : List Token) : Prop :=
  part ≠ [] ∧ ∃ missing statement, missing ≠ [] ∧ Derives (part ++ missing) statement

/-- An unfinished statement has less than the five tokens of a statement. -/
theorem Unfinished.length_lt {part : List Token} (h : Unfinished part) : part.length < 5 := by
  obtain ⟨-, missing, statement, hmissing, derived⟩ := h
  have hlength := derived.length_eq
  have hpositive := List.length_pos_of_ne_nil hmissing
  rw [List.length_append] at hlength
  omega

/-- A keyword and a part of what it requires are an unfinished statement. -/
theorem Departs.unfinished {head : Token} {keyword : Keyword} {part later : List Token}
    {fault : Fault} (begun : head.kind = .keyword keyword)
    (departs : Departs keyword.expectations part later fault) : Unfinished (head :: part) := by
  obtain ⟨missing, met⟩ := departs.exists_completion
  obtain ⟨statement, derived, -⟩ := exists_derives begun met
  refine ⟨List.cons_ne_nil head part, missing, statement, ?_, derived⟩
  rintro rfl
  have hlength := congrArg List.length met
  rw [List.append_nil, List.length_map, List.length_map] at hlength
  exact Nat.ne_of_lt departs.length_lt hlength

section

variable {first : List Token} {rejection : Rejection}

/-- A rejection at a token is kept, whatever follows. -/
theorem parse_append_of_stopped (failed : parse first = .error rejection)
    (stopped : (Cursor.parse (.ofTokens first)).2.position < first.length)
    (second : List Token) : parse (first ++ second) = .error rejection := by
  have hleft := mt (Cursor.rest_eq_nil_iff (Cursor.precedes_parse _)).mp (Nat.ne_of_lt stopped)
  obtain ⟨found, rest, atFound⟩ := List.exists_cons_of_ne_nil hleft
  obtain ⟨hpassed, hrest, -⟩ := Cursor.split_of_precedes (Cursor.precedes_parse (.ofTokens first))
  obtain ⟨read, later, statements, after, -, derivation, continues, step, rfl⟩ :=
    exists_step_of_parse_error failed
  calc
    _ = parse ((Cursor.parse (.ofTokens first)).2.passed.reverse ++ found :: (rest ++ second)) := by
      rw [hpassed, ← List.cons_append, ← atFound, hrest, ← List.append_assoc,
        List.take_append_drop]
    _ = .error rejection := parse_of_step_at_token derivation continues step atFound _

/-- A rejection at the end of the tokens comes within a statement, behind a program. -/
theorem exists_unfinished_of_exhausted (failed : parse first = .error rejection)
    (exhausted : (Cursor.parse (.ofTokens first)).2.position = first.length) :
    ∃ complete part statements, first = complete ++ part ∧ parse complete = .ok statements ∧
      Continues statements ∧ Unfinished part := by
  have hrest := (Cursor.rest_eq_nil_iff (Cursor.precedes_parse _)).mpr exhausted
  obtain ⟨read, later, statements, after, rfl, derivation, continues, step, hafter⟩ :=
    exists_step_of_parse_error failed
  rw [hafter] at hrest
  have accepted := parse_eq_ok_iff.mpr derivation
  cases step with
  | unexpected => cases hrest
  | unreachable => cases hrest
  | @departed head keyword part later fault _ begun departs place =>
    subst place
    obtain rfl : later = [] := hrest
    exact ⟨read, head :: part, statements, by rw [List.append_nil], accepted, continues,
      departs.unfinished begun⟩

end

/-- More tokens continue a program without an ending and are refused behind an ending.  They do not
change a rejection at a token; behind a rejection at the end they are read together with the
unfinished statement that stands there. -/
theorem parse_append (first : List Token) :
    (∀ before, parse first = .ok before →
      (¬ Ended before → ∀ second, parse (first ++ second) = (parse second).map (before ++ ·)) ∧
      (Ended before → ∀ found later, parse (first ++ found :: later) =
        .error { fault := .unreachable found.kind, line := found.line })) ∧
    ∀ rejection, parse first = .error rejection →
      let stopped := (Cursor.parse (.ofTokens first)).2.position
      stopped ≤ first.length ∧
      (stopped < first.length → ∀ second, parse (first ++ second) = .error rejection) ∧
      (stopped = first.length →
        ∃ complete part statements, first = complete ++ part ∧
          parse complete = .ok statements ∧ Continues statements ∧ Unfinished part ∧
          ∀ second, parse (first ++ second) = (parse (part ++ second)).map (statements ++ ·)) := by
  refine ⟨fun before accepted ↦ ⟨fun continues second ↦ ?_, fun ended ↦ ?_⟩,
    fun rejection failed ↦ ⟨?_, parse_append_of_stopped failed, fun exhausted ↦ ?_⟩⟩
  · exact parse_append_of_not_ended accepted continues
  · exact parse_append_of_ended accepted ended
  · exact (Cursor.split_of_precedes (Cursor.precedes_parse (.ofTokens first))).2.2
  · obtain ⟨complete, part, statements, rfl, accepted, continues, unfinished⟩ :=
      exists_unfinished_of_exhausted failed exhausted
    refine ⟨complete, part, statements, rfl, accepted, continues, unfinished, fun second ↦ ?_⟩
    rw [List.append_assoc]
    exact parse_append_of_not_ended accepted continues.not_ended

/-- The same three tokens complete a declaration, and are refused behind a program, behind an
ending and before anything else. -/
theorem parse_append_to_cut_declaration :
    let program : List Token :=
      [⟨.keyword .log, 1, none⟩, ⟨.openParen, 1, none⟩, ⟨.integer, 1, some "1"⟩,
        ⟨.closeParen, 1, none⟩, ⟨.semicolon, 1, none⟩]
    let ending : List Token :=
      [⟨.keyword .quit, 1, none⟩, ⟨.openParen, 1, none⟩, ⟨.integer, 1, some "0"⟩,
        ⟨.closeParen, 1, none⟩, ⟨.semicolon, 1, none⟩]
    let begun : List Token := [⟨.keyword .letBinder, 2, none⟩, ⟨.identifier, 2, some "x"⟩]
    let rest : List Token :=
      [⟨.equal, 3, none⟩, ⟨.integer, 3, some "5"⟩, ⟨.semicolon, 3, none⟩]
    parse (program ++ begun) = .error { fault := .declaredEqual, line := 2 } ∧
      parse (program ++ begun ++ rest) =
        .ok [.log ⟨.integer, 1, some "1"⟩ 1,
          .declaration ⟨.identifier, 2, some "x"⟩ ⟨.integer, 3, some "5"⟩ false 2] ∧
      parse (program ++ rest) = .error { fault := .unexpected .equal, line := 3 } ∧
      parse (ending ++ rest) = .error { fault := .unreachable .equal, line := 3 } ∧
      parse (rest ++ program) = .error { fault := .unexpected .equal, line := 3 } := by
  intro program ending begun rest
  have hprogram : parse program = .ok [.log ⟨.integer, 1, some "1"⟩ 1] := by decide +kernel
  have hending : parse ending = .ok [.quit ⟨.integer, 1, some "0"⟩ 1] := by decide +kernel
  have hcut : parse (program ++ begun) = .error { fault := .declaredEqual, line := 2 } := by
    decide +kernel
  have hrest : parse rest = .error { fault := .unexpected .equal, line := 3 } := by decide +kernel
  have hcontinues : ¬ Ended [.log ⟨.integer, 1, some "1"⟩ 1] := by
    rintro ⟨last, hlast, ended⟩
    obtain rfl := Option.some.inj hlast
    cases ended
  refine ⟨hcut, ?_, ?_, ?_, ?_⟩
  · obtain ⟨complete, part, statements, hsplit, accepted, -, unfinished, happend⟩ :=
      ((parse_append (program ++ begun)).2 _ hcut).2.2 (by decide +kernel)
    -- The program is complete, as five tokens are a statement and what is unfinished has less.
    have hcomplete := (parse_eq_ok_iff.mp accepted).length_eq
    have hlength : 7 = complete.length + part.length :=
      (congrArg List.length hsplit).trans List.length_append
    have hpart := unfinished.length_lt
    have hpositive := List.length_pos_of_ne_nil unfinished.1
    obtain ⟨rfl, rfl⟩ := List.append_inj hsplit (show 5 = complete.length by omega)
    obtain rfl := Except.ok.inj (accepted.symm.trans hprogram)
    exact (happend rest).trans (by decide +kernel)
  · rw [((parse_append program).1 _ hprogram).1 hcontinues rest, hrest]
    rfl
  · exact ((parse_append ending).1 _ hending).2 ⟨_, rfl, rfl⟩ _ _
  · exact ((parse_append rest).2 _ hrest).2.1 (by decide +kernel) program

end StatementLang
