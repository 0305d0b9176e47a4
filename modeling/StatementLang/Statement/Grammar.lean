import StatementLang.Statement
import StatementLang.Statement.Fault

/-!
# The Grammar of Programs

A program is derived from groups of five tokens, one for each statement.  The kinds of a group say
which statement it is, and the statement carries tokens of its group.  Nothing follows the statement
that ends the program.
-/

namespace StatementLang

def callShape (keyword : Keyword) : List Kind :=
  [.keyword keyword, .openParen, .integer, .closeParen, .semicolon]

def declarationShape (keyword : Keyword) : List Kind :=
  [.keyword keyword, .identifier, .equal, .integer, .semicolon]

theorem map_kind_eq_callShape_iff {keyword : Keyword} {head opening value closing ending : Token} :
    [head, opening, value, closing, ending].map Token.kind = callShape keyword ↔
      head.kind = .keyword keyword ∧ opening.kind = .openParen ∧ value.kind = .integer ∧
        closing.kind = .closeParen ∧ ending.kind = .semicolon := by
  simp only [callShape, List.map_cons, List.map_nil, List.cons.injEq, and_true]

theorem map_kind_eq_declarationShape_iff {keyword : Keyword}
    {head identifier equal value ending : Token} :
    [head, identifier, equal, value, ending].map Token.kind = declarationShape keyword ↔
      head.kind = .keyword keyword ∧ identifier.kind = .identifier ∧ equal.kind = .equal ∧
        value.kind = .integer ∧ ending.kind = .semicolon := by
  simp only [declarationShape, List.map_cons, List.map_nil, List.cons.injEq, and_true]

/-- What follows the keyword of a call: the kinds of four tokens, each with the fault of its
absence. -/
def callExpectations (keyword : Keyword) : List (Kind × Fault) :=
  [(.openParen, .callOpening keyword), (.integer, .callInteger keyword),
    (.closeParen, .callClosing keyword), (.semicolon, .callEnd keyword)]

/-- What follows the keyword of a declaration: the kinds of four tokens, each with the fault of its
absence. -/
def declarationExpectations : List (Kind × Fault) :=
  [(.identifier, .declaredName), (.equal, .declaredEqual), (.integer, .declaredInteger),
    (.semicolon, .declaredEnd)]

def Keyword.expectations : Keyword → List (Kind × Fault)
  | .quit => callExpectations .quit
  | .log => callExpectations .log
  | .letBinder => declarationExpectations
  | .constBinder => declarationExpectations

/-- What is said to be missing behind a keyword, at each of the four places. -/
theorem Keyword.messages_of_expectations (keyword : Keyword) :
    (keyword.expectations.map fun expected ↦ expected.2.message) =
      match keyword with
      | .quit =>
        ["expected '(' after 'quit' statement",
          "expected integer literal after '(' in 'quit' statement",
          "expected ')' after integer literal in 'quit' statement",
          "expected ';' after 'quit' statement"]
      | .log =>
        ["expected '(' after 'log' statement",
          "expected integer literal after '(' in 'log' statement",
          "expected ')' after integer literal in 'log' statement",
          "expected ';' after 'log' statement"]
      | .letBinder | .constBinder =>
        ["expected variable name after 'let' or 'const' keyword",
          "expected '=' after variable name",
          "expected integer literal after '=' -> For now, only integer literals are supported",
          "expected ';' after integer literal"] := by
  cases keyword <;> decide

/-- A group of tokens is a statement. -/
inductive Derives : List Token → Statement → Prop where
  | quit {keyword opening value closing ending : Token}
      (shape : [keyword, opening, value, closing, ending].map Token.kind = callShape .quit) :
      Derives [keyword, opening, value, closing, ending] (.quit value keyword.line)
  | log {keyword opening value closing ending : Token}
      (shape : [keyword, opening, value, closing, ending].map Token.kind = callShape .log) :
      Derives [keyword, opening, value, closing, ending] (.log value keyword.line)
  | letBinder {keyword identifier equal value ending : Token}
      (shape : [keyword, identifier, equal, value, ending].map Token.kind =
        declarationShape .letBinder) :
      Derives [keyword, identifier, equal, value, ending]
        (.declaration identifier value false keyword.line)
  | constBinder {keyword identifier equal value ending : Token}
      (shape : [keyword, identifier, equal, value, ending].map Token.kind =
        declarationShape .constBinder) :
      Derives [keyword, identifier, equal, value, ending]
        (.declaration identifier value true keyword.line)

/-- A list of tokens is a program. -/
inductive DerivesProgram : List Token → List Statement → Prop where
  | nil : DerivesProgram [] []
  | ending {group : List Token} {statement : Statement} (derived : Derives group statement) :
      DerivesProgram group [statement]
  | cons {group tokens : List Token} {statement : Statement} {statements : List Statement}
      (derived : Derives group statement) (continues : statement.keyword ≠ .quit)
      (later : DerivesProgram tokens statements) :
      DerivesProgram (group ++ tokens) (statement :: statements)

/-- A statement begins with its keyword, and what the keyword requires follows. -/
theorem Derives.map_kind {group : List Token} {statement : Statement}
    (h : Derives group statement) :
    group.map Token.kind =
      .keyword statement.keyword :: statement.keyword.expectations.map Prod.fst := by
  cases h <;> assumption

theorem Derives.exists_head {group : List Token} {statement : Statement}
    (h : Derives group statement) :
    ∃ head tail, group = head :: tail ∧ head.kind = .keyword statement.keyword := by
  have hkinds := h.map_kind
  cases h <;> exact ⟨_, _, rfl, (List.cons.inj hkinds).1⟩

/-- Every statement is derived from five tokens. -/
theorem Derives.length_eq {group : List Token} {statement : Statement}
    (h : Derives group statement) : group.length = 5 := by
  cases h <;> rfl

/-- A program has five times as many tokens as statements. -/
theorem DerivesProgram.length_eq {tokens : List Token} {statements : List Statement}
    (h : DerivesProgram tokens statements) : tokens.length = 5 * statements.length := by
  induction h with
  | nil => rfl
  | ending derived => exact derived.length_eq
  | @cons group tokens statement statements derived _ _ ih =>
    calc
      (group ++ tokens).length = group.length + tokens.length := List.length_append
      _ = 5 * statements.length + 5 := by rw [derived.length_eq, ih, Nat.add_comm]
      _ = 5 * (statement :: statements).length := (Nat.mul_succ 5 statements.length).symm

end StatementLang
