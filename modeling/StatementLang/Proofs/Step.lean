import Mathlib.Data.List.Basic
import StatementLang.Statement.Cursor
import StatementLang.Statement.Grammar

/-!
# What Reading One Statement Comes To

A step either finds no token, completes a statement derived from a group of five tokens, or stops at
the first token that departs from what the keyword before it requires.  The relation says so without
the rules, and reading the next statement is exactly this relation.
-/

namespace StatementLang

/-- A keyword and what it requires make a statement. -/
theorem exists_derives {head : Token} {group : List Token} {keyword : Keyword}
    (begun : head.kind = .keyword keyword)
    (met : group.map Token.kind = keyword.expectations.map Prod.fst) :
    ∃ statement, Derives (head :: group) statement ∧ statement.keyword = keyword := by
  have hshape : (head :: group).map Token.kind =
      .keyword keyword :: keyword.expectations.map Prod.fst := by
    rw [List.map_cons, begun, met]
  have hlength : group.length = 4 := by
    rw [← List.length_map Token.kind, met, List.length_map]
    cases keyword <;> rfl
  obtain ⟨second, third, fourth, fifth, rfl⟩ := List.length_eq_four.mp hlength
  cases keyword with
  | quit => exact ⟨_, .quit hshape, rfl⟩
  | log => exact ⟨_, .log hshape, rfl⟩
  | letBinder => exact ⟨_, .letBinder hshape, rfl⟩
  | constBinder => exact ⟨_, .constBinder hshape, rfl⟩

/-- After a part of what is expected, the next token is not there; the fault is that of its
absence. -/
inductive Departs : List (Kind × Fault) → List Token → List Token → Fault → Prop where
  | here {kind : Kind} {fault : Fault} {expectations : List (Kind × Fault)} {later : List Token}
      (absent : ∀ found ∈ later.head?, found.kind ≠ kind) :
      Departs ((kind, fault) :: expectations) [] later fault
  | there {token : Token} {first : Kind × Fault} {expectations : List (Kind × Fault)}
      {part later : List Token} {fault : Fault} (present : token.kind = first.1)
      (departs : Departs expectations part later fault) :
      Departs (first :: expectations) (token :: part) later fault

/-- Tokens meet all that is expected, or some token is the first that does not. -/
theorem meets_or_departs (expectations : List (Kind × Fault)) (tokens : List Token) :
    (∃ group later, tokens = group ++ later ∧
      group.map Token.kind = expectations.map Prod.fst) ∨
    ∃ part later fault, tokens = part ++ later ∧ Departs expectations part later fault := by
  induction expectations generalizing tokens with
  | nil => exact Or.inl ⟨[], tokens, rfl, rfl⟩
  | cons first expectations ih =>
    cases tokens with
    | nil =>
      refine Or.inr ⟨[], [], first.2, rfl, Departs.here ?_⟩
      intro found atHead
      simp at atHead
    | cons token tokens =>
      by_cases present : token.kind = first.1
      · rcases ih tokens with ⟨group, later, rfl, met⟩ | ⟨part, later, fault, rfl, departs⟩
        · refine Or.inl ⟨token :: group, later, rfl, ?_⟩
          rw [List.map_cons, List.map_cons, present, met]
        · exact Or.inr ⟨token :: part, later, fault, rfl, Departs.there present departs⟩
      · refine Or.inr ⟨[], token :: tokens, first.2, rfl, Departs.here ?_⟩
        intro found atHead
        rwa [← Option.some.inj atHead]

/-- The fault is the one listed for the number of tokens that met what is expected. -/
theorem Departs.fault_eq {expectations : List (Kind × Fault)} {part later : List Token}
    {fault : Fault} (h : Departs expectations part later fault) :
    expectations[part.length]?.map Prod.snd = some fault := by
  induction h with
  | here => rfl
  | there _ _ ih => exact ih

theorem Departs.exists_mem {expectations : List (Kind × Fault)} {part later : List Token}
    {fault : Fault} (h : Departs expectations part later fault) :
    ∃ kind, (kind, fault) ∈ expectations := by
  obtain ⟨expected, hexpected, rfl⟩ := Option.map_eq_some_iff.mp h.fault_eq
  exact ⟨expected.1, List.mem_of_getElem? hexpected⟩

/-- What follows the token that departs does not matter. -/
theorem Departs.replace_later {expectations : List (Kind × Fault)} {part later other : List Token}
    {fault : Fault} (h : Departs expectations part later fault)
    (hhead : other.head? = later.head?) : Departs expectations part other fault := by
  induction h with
  | here absent =>
    rw [← hhead] at absent
    exact .here absent
  | there present _ ih => exact .there present (ih hhead)

/-- The part before can be completed. -/
theorem Departs.exists_completion {expectations : List (Kind × Fault)} {part later : List Token}
    {fault : Fault} (h : Departs expectations part later fault) :
    ∃ missing : List Token, (part ++ missing).map Token.kind = expectations.map Prod.fst := by
  induction h with
  | @here kind fault expectations later absent =>
    refine ⟨((kind, fault) :: expectations).map fun first ↦ { kind := first.1, line := 1 }, ?_⟩
    rw [List.nil_append, List.map_map]
    rfl
  | there present _ ih =>
    obtain ⟨missing, hmissing⟩ := ih
    refine ⟨missing, ?_⟩
    rw [List.cons_append, List.map_cons, List.map_cons, present, hmissing]

namespace Rule

theorem bind_of_ok {α β : Type} {rule : Rule α} {next : α → Rule β} {cursor after : Cursor}
    {value : α} (h : rule cursor = (.ok value, after)) :
    (rule >>= next) cursor = next value after := by
  simp only [bind, h]

theorem bind_of_error {α β : Type} {rule : Rule α} {next : α → Rule β} {cursor after : Cursor}
    {rejection : Rejection} (h : rule cursor = (.error rejection, after)) :
    (rule >>= next) cursor = (.error rejection, after) := by
  simp only [bind, h]

theorem expect_of_kind_eq {kind : Kind} {fault : Fault} {passed rest : List Token}
    {found : Token} (h : found.kind = kind) :
    expect kind fault { passed, rest := found :: rest } =
      (.ok found, { passed := found :: passed, rest }) := by
  simp only [expect, h, if_true]

def stopped {α : Type} (fault : Fault) (cursor : Cursor) : Except Rejection α × Cursor :=
  (.error { fault, line := cursor.blamedLine }, cursor)

theorem expect_of_absent {kind : Kind} {fault : Fault} {cursor : Cursor}
    (absent : ∀ found ∈ cursor.rest.head?, found.kind ≠ kind) :
    expect kind fault cursor = stopped fault cursor := by
  unfold expect
  split
  · rfl
  · rename_i found rest atHead
    have hkind : found.kind ≠ kind := absent found (by rw [atHead]; rfl)
    rw [if_neg hkind]
    rfl

/-- The rule stops right before the token that departs from what is expected. -/
def Requires {α : Type} (rule : Rule α) (expectations : List (Kind × Fault)) : Prop :=
  ∀ {part later : List Token} {fault : Fault} (passed : List Token),
    Departs expectations part later fault →
      rule { passed, rest := part ++ later } =
        stopped fault { passed := part.reverse ++ passed, rest := later }

theorem requires_pure {α : Type} (value : α) : (pure value : Rule α).Requires [] := by
  intro part later fault passed departs
  cases departs

theorem requires_expect_bind {α : Type} {kind : Kind} {fault : Fault} {next : Token → Rule α}
    {expectations : List (Kind × Fault)} (h : ∀ token, (next token).Requires expectations) :
    (expect kind fault >>= next).Requires ((kind, fault) :: expectations) := by
  intro part later blamed passed departs
  cases departs with
  | here absent => exact bind_of_error (expect_of_absent absent)
  | @there token _ _ part _ _ present departs =>
    calc
      _ = next token { passed := token :: passed, rest := part ++ later } :=
        bind_of_ok (expect_of_kind_eq present)
      _ = stopped blamed { passed := part.reverse ++ token :: passed, rest := later } :=
        h token (token :: passed) departs
      _ = _ := by rw [List.reverse_cons, List.append_assoc, List.singleton_append]

theorem requires_bind {α β : Type} {rule : Rule α} {expectations : List (Kind × Fault)}
    (h : rule.Requires expectations) (next : α → Rule β) :
    (rule >>= next).Requires expectations := by
  intro part later fault passed departs
  exact bind_of_error (h passed departs)

theorem requires_call (keyword : Keyword) : (call keyword).Requires (callExpectations keyword) :=
  requires_expect_bind fun _ ↦ requires_expect_bind fun value ↦
    requires_expect_bind fun _ ↦ requires_expect_bind fun _ ↦ requires_pure value

theorem requires_declared (keyword : Token) : (declared keyword).Requires declarationExpectations :=
  requires_expect_bind fun _ ↦ requires_expect_bind fun _ ↦
    requires_expect_bind fun _ ↦ requires_expect_bind fun _ ↦ requires_pure _

theorem declarationKeyword_of_kind_eq {passed rest : List Token} {head : Token}
    (h : head.kind = .keyword .letBinder ∨ head.kind = .keyword .constBinder) :
    declarationKeyword { passed, rest := head :: rest } =
      (.ok head, { passed := head :: passed, rest }) := by
  simp only [declarationKeyword, h, if_true]

/-- Behind its keyword, a statement requires what the keyword requires. -/
theorem statement_of_departs {keyword : Keyword} {head : Token} {part later : List Token}
    {fault : Fault} (passed : List Token) (begun : head.kind = .keyword keyword)
    (departs : Departs keyword.expectations part later fault) :
    statement keyword { passed, rest := head :: (part ++ later) } =
      stopped fault { passed := part.reverse ++ head :: passed, rest := later } := by
  cases keyword with
  | quit =>
    have hquit : quit { passed, rest := head :: (part ++ later) } =
        stopped fault { passed := part.reverse ++ head :: passed, rest := later } :=
      (bind_of_ok (expect_of_kind_eq begun)).trans
        (requires_bind (requires_call .quit) _ (head :: passed) departs)
    exact bind_of_error hquit
  | log =>
    exact (bind_of_ok (expect_of_kind_eq begun)).trans
      (requires_bind (requires_call .log) _ (head :: passed) departs)
  | letBinder =>
    exact (bind_of_ok (declarationKeyword_of_kind_eq (Or.inl begun))).trans
      (requires_declared head (head :: passed) departs)
  | constBinder =>
    exact (bind_of_ok (declarationKeyword_of_kind_eq (Or.inr begun))).trans
      (requires_declared head (head :: passed) departs)

theorem call_of_kinds {keyword : Keyword} {opening value closing ending : Token}
    (passed later : List Token) (hopening : opening.kind = .openParen)
    (hvalue : value.kind = .integer) (hclosing : closing.kind = .closeParen)
    (hending : ending.kind = .semicolon) :
    call keyword { passed, rest := opening :: value :: closing :: ending :: later } =
      (.ok value, { passed := ending :: closing :: value :: opening :: passed, rest := later }) := by
  simp only [call, bind_of_ok (expect_of_kind_eq hopening), bind_of_ok (expect_of_kind_eq hvalue),
    bind_of_ok (expect_of_kind_eq hclosing), bind_of_ok (expect_of_kind_eq hending)]
  rfl

theorem declared_of_kinds {keyword identifier equal value ending : Token} {constant : Bool}
    (passed later : List Token)
    (hconstant : decide (keyword.kind = .keyword .constBinder) = constant)
    (hidentifier : identifier.kind = .identifier) (hequal : equal.kind = .equal)
    (hvalue : value.kind = .integer) (hending : ending.kind = .semicolon) :
    declared keyword { passed, rest := identifier :: equal :: value :: ending :: later } =
      (.ok (.declaration identifier value constant keyword.line),
        { passed := ending :: value :: equal :: identifier :: passed, rest := later }) := by
  subst hconstant
  simp only [declared, bind_of_ok (expect_of_kind_eq hidentifier),
    bind_of_ok (expect_of_kind_eq hequal), bind_of_ok (expect_of_kind_eq hvalue),
    bind_of_ok (expect_of_kind_eq hending)]
  rfl

/-- The rule for the end of a program passes the whole call, whatever follows. -/
theorem quit_of_derives {group : List Token} {statement : Statement} (passed later : List Token)
    (derived : Derives group statement) (ended : statement.keyword = .quit) :
    quit { passed, rest := group ++ later } =
      (.ok statement, { passed := group.reverse ++ passed, rest := later }) := by
  cases derived with
  | quit shape =>
    obtain ⟨hkeyword, hopening, hvalue, hclosing, hending⟩ :=
      map_kind_eq_callShape_iff.mp shape
    apply (bind_of_ok (expect_of_kind_eq hkeyword)).trans
    exact bind_of_ok (call_of_kinds _ later hopening hvalue hclosing hending)
  | log => cases ended
  | letBinder => cases ended
  | constBinder => cases ended

/-- The other rules pass exactly the group that a statement is derived from. -/
theorem statement_of_derives {group : List Token} {made : Statement} (passed later : List Token)
    (derived : Derives group made) (continues : made.keyword ≠ .quit) :
    statement made.keyword { passed, rest := group ++ later } =
      (.ok made, { passed := group.reverse ++ passed, rest := later }) := by
  cases derived with
  | quit => exact absurd rfl continues
  | log shape =>
    obtain ⟨hkeyword, hopening, hvalue, hclosing, hending⟩ :=
      map_kind_eq_callShape_iff.mp shape
    apply (bind_of_ok (expect_of_kind_eq hkeyword)).trans
    exact bind_of_ok (call_of_kinds _ later hopening hvalue hclosing hending)
  | letBinder shape =>
    obtain ⟨hkeyword, hidentifier, hequal, hvalue, hending⟩ :=
      map_kind_eq_declarationShape_iff.mp shape
    apply (bind_of_ok (declarationKeyword_of_kind_eq (Or.inl hkeyword))).trans
    exact declared_of_kinds _ later (by rw [hkeyword]; rfl) hidentifier hequal hvalue hending
  | constBinder shape =>
    obtain ⟨hkeyword, hidentifier, hequal, hvalue, hending⟩ :=
      map_kind_eq_declarationShape_iff.mp shape
    apply (bind_of_ok (declarationKeyword_of_kind_eq (Or.inr hkeyword))).trans
    exact declared_of_kinds _ later (by rw [hkeyword]; rfl) hidentifier hequal hvalue hending

end Rule

/-! ## Steps -/

/-- What reading the next statement can come to, behind the tokens passed and before the rest. -/
inductive Step (passed : List Token) :
    List Token → Except Rejection (Option Statement) → Cursor → Prop where
  | finished : Step passed [] (.ok none) { passed, rest := [] }
  | completed {group later : List Token} {statement : Statement}
      (derived : Derives group statement) (last : statement.keyword = .quit → later = []) :
      Step passed (group ++ later) (.ok (some statement))
        { passed := group.reverse ++ passed, rest := later }
  | unexpected {found : Token} {later : List Token} (headless : found.kind.isKeyword = false) :
      Step passed (found :: later)
        (.error { fault := .unexpected found.kind, line := found.line })
        { passed, rest := found :: later }
  | unreachable {group later : List Token} {statement : Statement} {found : Token}
      (derived : Derives group statement) (ended : statement.keyword = .quit) :
      Step passed (group ++ found :: later)
        (.error { fault := .unreachable found.kind, line := found.line })
        { passed := group.reverse ++ passed, rest := found :: later }
  | departed {head : Token} {keyword : Keyword} {part later : List Token} {fault : Fault}
      {after : Cursor} (begun : head.kind = .keyword keyword)
      (departs : Departs keyword.expectations part later fault)
      (place : after = { passed := part.reverse ++ head :: passed, rest := later }) :
      Step passed (head :: (part ++ later)) (.error { fault, line := after.blamedLine }) after

/-- Whatever tokens are left, there is something that a step comes to. -/
theorem exists_step (passed rest : List Token) : ∃ result after, Step passed rest result after := by
  cases rest with
  | nil => exact ⟨_, _, .finished⟩
  | cons head rest =>
    cases hhead : head.kind with
    | keyword keyword =>
      rcases meets_or_departs keyword.expectations rest with
        ⟨group, later, rfl, met⟩ | ⟨part, later, fault, rfl, departs⟩
      · obtain ⟨statement, derived, rfl⟩ := exists_derives hhead met
        by_cases ended : statement.keyword = .quit
        · cases later with
          | nil => exact ⟨_, _, .completed derived fun _ ↦ rfl⟩
          | cons found later => exact ⟨_, _, .unreachable derived ended⟩
        · exact ⟨_, _, .completed derived fun h ↦ absurd h ended⟩
      · exact ⟨_, _, .departed hhead departs rfl⟩
    | _ => exact ⟨_, _, .unexpected (by rw [hhead]; rfl)⟩

/-- A step only passes tokens. -/
theorem Step.exists_passed {passed rest : List Token}
    {result : Except Rejection (Option Statement)} {after : Cursor}
    (step : Step passed rest result after) :
    ∃ between, rest = between ++ after.rest ∧ after.passed = between.reverse ++ passed := by
  cases step with
  | finished => exact ⟨[], rfl, rfl⟩
  | completed => exact ⟨_, rfl, rfl⟩
  | unexpected => exact ⟨[], rfl, rfl⟩
  | unreachable => exact ⟨_, rfl, rfl⟩
  | @departed head keyword part later fault after begun departs place =>
    subst place
    refine ⟨head :: part, rfl, ?_⟩
    rw [List.reverse_cons, List.append_assoc, List.singleton_append]

/-- A rejection blames the line of the place where the step stops. -/
theorem Step.line_eq {passed rest : List Token} {rejection : Rejection} {after : Cursor}
    (step : Step passed rest (.error rejection) after) : rejection.line = after.blamedLine := by
  cases step <;> rfl

/-- A rejection at the end of the tokens comes behind a keyword. -/
theorem Step.passed_ne_nil {passed rest : List Token} {rejection : Rejection} {after : Cursor}
    (step : Step passed rest (.error rejection) after) (atEnd : after.rest = []) :
    after.passed ≠ [] := by
  cases step with
  | unexpected => cases atEnd
  | unreachable => cases atEnd
  | departed begun departs place =>
    subst place
    simp

/-- Of the tokens left at the place of a rejection only the first one matters. -/
theorem Step.replace_later {passed rest later : List Token} {found : Token}
    {rejection : Rejection} {after : Cursor} (step : Step passed rest (.error rejection) after)
    (atFound : after.rest = found :: later) (other : List Token) :
    ∃ between, rest = between ++ found :: later ∧ after.passed = between.reverse ++ passed ∧
      Step passed (between ++ found :: other) (.error rejection)
        { passed := after.passed, rest := found :: other } := by
  cases step with
  | unexpected headless =>
    cases atFound
    exact ⟨[], rfl, rfl, .unexpected headless⟩
  | unreachable derived ended =>
    cases atFound
    exact ⟨_, rfl, rfl, .unreachable derived ended⟩
  | @departed head keyword part _ fault _ begun departs place =>
    subst place
    cases atFound
    have hdeparts : Departs keyword.expectations part (found :: other) fault :=
      departs.replace_later rfl
    refine ⟨head :: part, rfl, ?_, .departed begun hdeparts rfl⟩
    rw [List.reverse_cons, List.append_assoc, List.singleton_append]

namespace Cursor

theorem next_of_statement_ok {passed rest : List Token} {head : Token} {keyword : Keyword}
    {statement : Statement} {after : Cursor} (begun : head.kind = .keyword keyword)
    (h : Rule.statement keyword { passed, rest := head :: rest } = (.ok statement, after)) :
    next { passed, rest := head :: rest } = (.ok (some statement), after) := by
  simp only [next, begun, h]

theorem next_of_statement_error {passed rest : List Token} {head : Token} {keyword : Keyword}
    {rejection : Rejection} {after : Cursor} (begun : head.kind = .keyword keyword)
    (h : Rule.statement keyword { passed, rest := head :: rest } = (.error rejection, after)) :
    next { passed, rest := head :: rest } = (.error rejection, after) := by
  simp only [next, begun, h]

/-- A group that is a statement is completed, unless it ends the program and something follows. -/
theorem next_of_derives {group later : List Token} {statement : Statement} (passed : List Token)
    (derived : Derives group statement) (last : statement.keyword = .quit → later = []) :
    next { passed, rest := group ++ later } =
      (.ok (some statement), { passed := group.reverse ++ passed, rest := later }) := by
  obtain ⟨head, tail, rfl, begun⟩ := derived.exists_head
  apply next_of_statement_ok begun
  by_cases ended : statement.keyword = .quit
  · obtain rfl := last ended
    rw [ended]
    exact Rule.bind_of_ok (Rule.quit_of_derives passed [] derived ended)
  · exact Rule.statement_of_derives passed later derived ended

theorem next_of_unreachable {group later : List Token} {statement : Statement} {found : Token}
    (passed : List Token) (derived : Derives group statement) (ended : statement.keyword = .quit) :
    next { passed, rest := group ++ found :: later } =
      (.error { fault := .unreachable found.kind, line := found.line },
        { passed := group.reverse ++ passed, rest := found :: later }) := by
  obtain ⟨head, tail, rfl, begun⟩ := derived.exists_head
  apply next_of_statement_error begun
  rw [ended]
  exact Rule.bind_of_ok (Rule.quit_of_derives passed (found :: later) derived ended)

/-- Reading the next statement does what a step does. -/
theorem next_of_step {passed rest : List Token} {result : Except Rejection (Option Statement)}
    {after : Cursor} (step : Step passed rest result after) :
    next { passed, rest } = (result, after) := by
  cases step with
  | finished => rfl
  | completed derived last => exact next_of_derives passed derived last
  | @unexpected found later headless =>
    cases hfound : found.kind with
    | keyword keyword =>
      rw [hfound] at headless
      cases headless
    | _ => simp only [next, hfound]
  | unreachable derived ended => exact next_of_unreachable passed derived ended
  | departed begun departs place =>
    subst place
    exact next_of_statement_error begun (Rule.statement_of_departs passed begun departs)

/-- Reading the next statement is exactly a step. -/
theorem next_eq_iff_step {passed rest : List Token}
    {result : Except Rejection (Option Statement)} {after : Cursor} :
    next { passed, rest } = (result, after) ↔ Step passed rest result after := by
  constructor
  · intro h
    obtain ⟨result', after', step⟩ := exists_step passed rest
    have hsame := (next_of_step step).symm.trans h
    obtain ⟨rfl, rfl⟩ := Prod.mk.inj hsame
    exact step
  · exact next_of_step

end Cursor

end StatementLang
