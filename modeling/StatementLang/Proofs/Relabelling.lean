import StatementLang.Proofs.Program
import StatementLang.Source

/-!
# Lines and Values Are Only Carried Along

Building statements looks at the kinds of tokens.  If the lines and values of the tokens are changed
one by one, the same statements are built of the changed tokens, or building fails for the same
fault on the changed line.
-/

namespace StatementLang

def Token.relabel (onLine : Nat → Nat) (onValue : Option String → Option String) (token : Token) :
    Token where
  kind := token.kind
  line := onLine token.line
  value := onValue token.value

/-- A statement with all its lines and the values of its tokens changed. -/
def Statement.relabel (onLine : Nat → Nat) (onValue : Option String → Option String) :
    Statement → Statement
  | .quit value line => .quit (value.relabel onLine onValue) (onLine line)
  | .log value line => .log (value.relabel onLine onValue) (onLine line)
  | .declaration identifier value constant line =>
    .declaration (identifier.relabel onLine onValue) (value.relabel onLine onValue) constant
      (onLine line)

def Rejection.relabel (onLine : Nat → Nat) (rejection : Rejection) : Rejection where
  fault := rejection.fault
  line := onLine rejection.line

def LexicalError.relabel (onLine : Nat → Nat) (error : LexicalError) : LexicalError where
  character := error.character
  line := onLine error.line

def Failure.relabel (onLine : Nat → Nat) : Failure → Failure
  | .lexical error => .lexical (error.relabel onLine)
  | .grammatical detail line => .grammatical detail (onLine line)

def relabelResult {α : Type} (onLine : Nat → Nat) (change : α → α) :
    Except Rejection α → Except Rejection α
  | .ok value => .ok (change value)
  | .error rejection => .error (rejection.relabel onLine)

section

variable (onLine : Nat → Nat) (onValue : Option String → Option String)

theorem map_kind_relabel (tokens : List Token) :
    (tokens.map (Token.relabel onLine onValue)).map Token.kind = tokens.map Token.kind := by
  rw [List.map_map]
  rfl

@[simp]
theorem Statement.keyword_relabel (statement : Statement) :
    (statement.relabel onLine onValue).keyword = statement.keyword := by
  cases statement <;> rfl

theorem continues_relabel {statements : List Statement} (h : Continues statements) :
    Continues (statements.map (Statement.relabel onLine onValue)) := by
  intro statement hmem
  obtain ⟨other, hother, rfl⟩ := List.mem_map.mp hmem
  rw [Statement.keyword_relabel]
  exact h other hother

theorem Derives.relabel {group : List Token} {statement : Statement}
    (h : Derives group statement) :
    Derives (group.map (Token.relabel onLine onValue)) (statement.relabel onLine onValue) := by
  have hkinds := map_kind_relabel onLine onValue group
  cases h with
  | quit shape => exact .quit (hkinds.trans shape)
  | log shape => exact .log (hkinds.trans shape)
  | letBinder shape => exact .letBinder (hkinds.trans shape)
  | constBinder shape => exact .constBinder (hkinds.trans shape)

theorem DerivesProgram.relabel {tokens : List Token} {statements : List Statement}
    (h : DerivesProgram tokens statements) :
    DerivesProgram (tokens.map (Token.relabel onLine onValue))
      (statements.map (Statement.relabel onLine onValue)) := by
  induction h with
  | nil => exact .nil
  | ending derived => exact .ending (derived.relabel onLine onValue)
  | cons derived continues _ ih =>
    rw [List.map_append, List.map_cons]
    refine .cons (derived.relabel onLine onValue) ?_ ih
    rwa [Statement.keyword_relabel]

theorem Departs.relabel {expectations : List (Kind × Fault)} {part later : List Token}
    {fault : Fault} (h : Departs expectations part later fault) :
    Departs expectations (part.map (Token.relabel onLine onValue))
      (later.map (Token.relabel onLine onValue)) fault := by
  induction h with
  | @here kind _ _ later absent =>
    refine .here fun found hhead ↦ ?_
    rw [List.head?_map] at hhead
    obtain ⟨other, hother, rfl⟩ := Option.map_eq_some_iff.mp hhead
    exact absent other hother
  | there present _ ih => exact .there present ih

namespace Cursor

def relabel (cursor : Cursor) : Cursor where
  passed := cursor.passed.map (Token.relabel onLine onValue)
  rest := cursor.rest.map (Token.relabel onLine onValue)

theorem blamedLine_relabel {cursor : Cursor} (h : cursor.passed ≠ []) :
    (cursor.relabel onLine onValue).blamedLine = onLine cursor.blamedLine := by
  obtain ⟨passed, rest⟩ := cursor
  obtain ⟨last, others, rfl⟩ := List.exists_cons_of_ne_nil h
  cases rest <;> rfl

end Cursor

theorem Step.relabel {passed rest : List Token} {result : Except Rejection (Option Statement)}
    {after : Cursor} (step : Step passed rest result after) :
    Step (passed.map (Token.relabel onLine onValue)) (rest.map (Token.relabel onLine onValue))
      (relabelResult onLine (Option.map (Statement.relabel onLine onValue)) result)
      (after.relabel onLine onValue) := by
  cases step with
  | finished => exact .finished
  | completed derived last =>
    simp only [Cursor.relabel, List.map_append, List.map_reverse]
    refine .completed (derived.relabel onLine onValue) fun ended ↦ ?_
    rw [Statement.keyword_relabel] at ended
    rw [last ended, List.map_nil]
  | @unexpected found later headless =>
    have hheadless : (found.relabel onLine onValue).kind.isKeyword = false := headless
    exact .unexpected hheadless
  | @unreachable group later statement found derived ended =>
    simp only [Cursor.relabel, List.map_append, List.map_reverse, List.map_cons]
    have hended : (statement.relabel onLine onValue).keyword = .quit := by
      rwa [Statement.keyword_relabel]
    exact .unreachable (derived.relabel onLine onValue) hended
  | @departed head keyword part later fault after begun departs place =>
    -- The keyword is passed in this step, so that the line to blame is always one of a token.
    have hpassed : after.passed ≠ [] := by simp [place]
    have hline := Cursor.blamedLine_relabel onLine onValue hpassed
    simp only [relabelResult, Rejection.relabel, ← hline, List.map_cons, List.map_append]
    refine .departed begun (departs.relabel onLine onValue) ?_
    simp only [place, Cursor.relabel, List.map_append, List.map_reverse, List.map_cons]

theorem Cursor.run_relabel (cursor : Cursor) :
    (cursor.relabel onLine onValue).run =
      { statements := cursor.run.statements.map (Statement.relabel onLine onValue)
        rejection := cursor.run.rejection.map (Rejection.relabel onLine)
        cursor := cursor.run.cursor.relabel onLine onValue } := by
  obtain ⟨passed, rest⟩ := cursor
  rcases run_outcome passed rest with
    ⟨statements, derivation⟩ |
    ⟨read, later, statements, rejection, after, rfl, derivation, continues, step⟩
  · have hrun := run_of_derivesProgram (derivation.relabel onLine onValue)
    rw [Cursor.relabel, hrun, run_of_derivesProgram derivation]
    simp only [Cursor.relabel, List.map_append, List.map_reverse, List.map_nil, Option.map_none]
  · have hstep := step.relabel onLine onValue
    rw [List.map_append, List.map_reverse] at hstep
    have hrun := run_of_stopped (derivation.relabel onLine onValue)
      (continues_relabel onLine onValue continues) hstep
    rw [Cursor.relabel, List.map_append, hrun, run_of_stopped derivation continues step]
    rfl

theorem Cursor.parse_relabel (cursor : Cursor) :
    parse (cursor.relabel onLine onValue) =
      (relabelResult onLine (List.map (Statement.relabel onLine onValue)) (parse cursor).1,
        (parse cursor).2.relabel onLine onValue) := by
  simp only [parse, run_relabel]
  cases cursor.run.rejection <;> rfl

/-- The statements of changed tokens are the changed statements. -/
theorem parse_relabel (tokens : List Token) :
    parse (tokens.map (Token.relabel onLine onValue)) =
      relabelResult onLine (List.map (Statement.relabel onLine onValue)) (parse tokens) :=
  congrArg Prod.fst ((Cursor.ofTokens tokens).parse_relabel onLine onValue)

/-- Building stops at the same place of changed tokens. -/
theorem position_parse_relabel (tokens : List Token) :
    (Cursor.parse (.ofTokens (tokens.map (Token.relabel onLine onValue)))).2.position =
      (Cursor.parse (.ofTokens tokens)).2.position :=
  calc
    _ = ((Cursor.parse (.ofTokens tokens)).2.relabel onLine onValue).position :=
      congrArg (fun result ↦ result.2.position)
        ((Cursor.ofTokens tokens).parse_relabel onLine onValue)
    _ = _ := List.length_map _

end

section

variable {onLine : Nat → Nat} {onValue : Option String → Option String}
  {tokens others : List Token}

/-- Tokens that differ only in what a change takes away make statements that differ only in that, or
are rejected for the same fault at the same place. -/
theorem parse_of_relabel_eq
    (h : tokens.map (Token.relabel onLine onValue) = others.map (Token.relabel onLine onValue)) :
    (∃ before after, parse tokens = .ok before ∧ parse others = .ok after ∧
      before.map (Statement.relabel onLine onValue) =
        after.map (Statement.relabel onLine onValue)) ∨
    ∃ rejection rejection', parse tokens = .error rejection ∧ parse others = .error rejection' ∧
      rejection.fault = rejection'.fault ∧
      (Cursor.parse (.ofTokens tokens)).2.position =
        (Cursor.parse (.ofTokens others)).2.position := by
  have hparse := congrArg parse h
  rw [parse_relabel, parse_relabel] at hparse
  have hposition :=
    congrArg (fun changed ↦ (Cursor.parse (.ofTokens changed)).2.position) h
  simp only [position_parse_relabel] at hposition
  cases htokens : parse tokens with
  | ok before =>
    cases hothers : parse others with
    | ok after =>
      rw [htokens, hothers] at hparse
      exact Or.inl ⟨before, after, rfl, rfl, Except.ok.inj hparse⟩
    | error rejection' =>
      rw [htokens, hothers] at hparse
      cases hparse
  | error rejection =>
    cases hothers : parse others with
    | ok after =>
      rw [htokens, hothers] at hparse
      cases hparse
    | error rejection' =>
      rw [htokens, hothers] at hparse
      have hfault := congrArg Rejection.fault (Except.error.inj hparse)
      exact Or.inr ⟨rejection, rejection', rfl, rfl, hfault, hposition⟩

end

end StatementLang
