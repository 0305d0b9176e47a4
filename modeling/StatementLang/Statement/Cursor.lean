import StatementLang.Log
import StatementLang.Statement
import StatementLang.Statement.Fault

/-!
# Building Statements from Tokens

A cursor stands between the tokens it has passed and those left.  Rules read from it: a rule passes
the tokens it matches one by one and stops before the first that does not match, so that the cursor
shows where a rejected statement went wrong.  Only the kinds of tokens are looked at.
-/

namespace StatementLang

/-- A position in a list of tokens: those passed, the latest first, and those left. -/
structure Cursor where
  passed : List Token
  rest : List Token
deriving DecidableEq, Repr

namespace Cursor

def ofTokens (tokens : List Token) : Cursor := { passed := [], rest := tokens }

def position (cursor : Cursor) : Nat := cursor.passed.length

/-- The line to blame here: that of the next token or, at the end, of the last one passed. -/
def blamedLine (cursor : Cursor) : Nat :=
  match cursor.rest, cursor.passed with
  | found :: _, _ => found.line
  | [], last :: _ => last.line
  | [], [] => 1

/-- A later cursor over the same tokens: some of the tokens left have been passed since. -/
def Precedes (earlier later : Cursor) : Prop :=
  ∃ between, earlier.rest = between ++ later.rest ∧
    later.passed = between.reverse ++ earlier.passed

theorem Precedes.refl (cursor : Cursor) : cursor.Precedes cursor := ⟨[], rfl, rfl⟩

theorem Precedes.trans {first second third : Cursor} (h : first.Precedes second)
    (later : second.Precedes third) : first.Precedes third := by
  obtain ⟨between, rest_eq, passed_eq⟩ := h
  obtain ⟨further, rest_eq', passed_eq'⟩ := later
  refine ⟨between ++ further, ?_, ?_⟩
  · rw [rest_eq, rest_eq', List.append_assoc]
  · rw [passed_eq', passed_eq, List.reverse_append, List.append_assoc]

theorem Precedes.length_rest_le {earlier later : Cursor} (h : earlier.Precedes later) :
    later.rest.length ≤ earlier.rest.length := by
  obtain ⟨between, rest_eq, -⟩ := h
  rw [rest_eq, List.length_append]
  omega

end Cursor

/-- A rule of the grammar reads from a cursor and leaves it where it stopped. -/
def Rule (α : Type) : Type := Cursor → Except Rejection α × Cursor

namespace Rule

instance : Monad Rule where
  pure value := fun cursor ↦ (.ok value, cursor)
  bind rule next := fun cursor ↦
    match rule cursor with
    | (.ok value, after) => next value after
    | (.error rejection, after) => (.error rejection, after)

/-- Pass a token of the given kind, or stop before the token found instead. -/
def expect (kind : Kind) (fault : Fault) : Rule Token := fun cursor ↦
  match cursor.rest with
  | [] => (.error { fault, line := cursor.blamedLine }, cursor)
  | found :: rest =>
    if found.kind = kind then (.ok found, { passed := found :: cursor.passed, rest })
    else (.error { fault, line := cursor.blamedLine }, cursor)

/-- Nothing may follow the statement that ends the program. -/
def expectEnd : Rule Unit := fun cursor ↦
  match cursor.rest with
  | [] => (.ok (), cursor)
  | found :: _ => (.error { fault := .unreachable found.kind, line := found.line }, cursor)

/-- What follows the keyword of a call: an integer in parentheses, and a semicolon. -/
def call (keyword : Keyword) : Rule Token := do
  let _ ← expect .openParen (.callOpening keyword)
  let value ← expect .integer (.callInteger keyword)
  let _ ← expect .closeParen (.callClosing keyword)
  let _ ← expect .semicolon (.callEnd keyword)
  return value

/-- The call that ends the program. -/
def quit : Rule Statement := do
  let keyword ← expect (.keyword .quit) (.callKeyword .quit)
  let value ← call .quit
  return .quit value keyword.line

/-- The call that prints. -/
def log : Rule Statement := do
  let keyword ← expect (.keyword .log) (.callKeyword .log)
  let value ← call .log
  return .log value keyword.line

/-- Pass the keyword of a declaration.  A token found instead is passed as well. -/
def declarationKeyword : Rule Token := fun cursor ↦
  match cursor.rest with
  | [] => (.error { fault := .declaredKeyword, line := cursor.blamedLine }, cursor)
  | found :: rest =>
    let after : Cursor := { passed := found :: cursor.passed, rest }
    if found.kind = .keyword .letBinder ∨ found.kind = .keyword .constBinder then
      (.ok found, after)
    else (.error { fault := .declaredKeyword, line := after.blamedLine }, after)

/-- What follows the keyword of a declaration: a name, an equals sign, an integer, and a
semicolon. -/
def declared (keyword : Token) : Rule Statement := do
  let identifier ← expect .identifier .declaredName
  let _ ← expect .equal .declaredEqual
  let value ← expect .integer .declaredInteger
  let _ ← expect .semicolon .declaredEnd
  return .declaration identifier value (keyword.kind = .keyword .constBinder) keyword.line

def declaration : Rule Statement := declarationKeyword >>= declared

/-- The statement that a keyword starts. -/
def statement : Keyword → Rule Statement
  | .quit => do
    let ending ← quit
    expectEnd
    return ending
  | .log => log
  | .letBinder => declaration
  | .constBinder => declaration

/-- A rule that only moves the cursor forward. -/
def Advances {α : Type} (rule : Rule α) : Prop :=
  ∀ cursor : Cursor, cursor.Precedes (rule cursor).2

theorem advances_pure {α : Type} (value : α) : (pure value : Rule α).Advances :=
  fun cursor ↦ Cursor.Precedes.refl cursor

theorem advances_bind {α β : Type} {rule : Rule α} {next : α → Rule β} (h : rule.Advances)
    (later : ∀ value, (next value).Advances) : (rule >>= next).Advances := by
  intro cursor
  have first := h cursor
  simp only [bind]
  split
  · rename_i value after stepped
    rw [stepped] at first
    exact first.trans (later value after)
  · rename_i rejection after stepped
    rw [stepped] at first
    exact first

theorem advances_expect (kind : Kind) (fault : Fault) : (expect kind fault).Advances := by
  intro cursor
  unfold expect
  split
  · exact Cursor.Precedes.refl cursor
  · rename_i found rest atHead
    split
    · exact ⟨[found], by simp only [atHead, List.singleton_append], rfl⟩
    · exact Cursor.Precedes.refl cursor

theorem advances_expectEnd : expectEnd.Advances := by
  intro cursor
  unfold expectEnd
  split <;> exact Cursor.Precedes.refl cursor

theorem advances_call (keyword : Keyword) : (call keyword).Advances :=
  advances_bind (advances_expect _ _) fun _ ↦
    advances_bind (advances_expect _ _) fun value ↦
      advances_bind (advances_expect _ _) fun _ ↦
        advances_bind (advances_expect _ _) fun _ ↦ advances_pure value

theorem advances_declared (keyword : Token) : (declared keyword).Advances :=
  advances_bind (advances_expect _ _) fun _ ↦
    advances_bind (advances_expect _ _) fun _ ↦
      advances_bind (advances_expect _ _) fun _ ↦
        advances_bind (advances_expect _ _) fun _ ↦ advances_pure _

/-- A rule that passes a token before it gives a result. -/
def Consumes {α : Type} (rule : Rule α) : Prop :=
  ∀ (cursor : Cursor) (value : α) (after : Cursor),
    rule cursor = (.ok value, after) → after.rest.length < cursor.rest.length

theorem consumes_expect (kind : Kind) (fault : Fault) : (expect kind fault).Consumes := by
  intro cursor value after h
  unfold expect at h
  split at h
  · simp at h
  · rename_i found rest atHead
    split at h
    · rw [← (Prod.mk.inj h).2, atHead]
      exact Nat.lt_succ_self rest.length
    · simp at h

theorem consumes_declarationKeyword : declarationKeyword.Consumes := by
  intro cursor value after h
  unfold declarationKeyword at h
  split at h
  · simp at h
  · rename_i found rest atHead
    dsimp only at h
    split at h
    · rw [← (Prod.mk.inj h).2, atHead]
      exact Nat.lt_succ_self rest.length
    · simp at h

theorem consumes_bind {α β : Type} {rule : Rule α} {next : α → Rule β} (h : rule.Consumes)
    (later : ∀ value, (next value).Advances) : (rule >>= next).Consumes := by
  intro cursor value after read
  simp only [bind] at read
  split at read
  · rename_i first between stepped
    have further := (later first between).length_rest_le
    rw [read] at further
    exact Nat.lt_of_le_of_lt further (h cursor first between stepped)
  · simp at read

theorem consumes_quit : quit.Consumes :=
  consumes_bind (consumes_expect _ _) fun _ ↦
    advances_bind (advances_call _) fun _ ↦ advances_pure _

theorem consumes_log : log.Consumes :=
  consumes_bind (consumes_expect _ _) fun _ ↦
    advances_bind (advances_call _) fun _ ↦ advances_pure _

theorem consumes_declaration : declaration.Consumes :=
  consumes_bind consumes_declarationKeyword advances_declared

theorem consumes_statement (keyword : Keyword) : (statement keyword).Consumes := by
  cases keyword with
  | quit =>
    exact consumes_bind consumes_quit fun _ ↦
      advances_bind advances_expectEnd fun _ ↦ advances_pure _
  | log => exact consumes_log
  | letBinder => exact consumes_declaration
  | constBinder => exact consumes_declaration

end Rule

def parsingTarget : String := "radium::frontend::parser"

def Statement.record (statement : Statement) : LogRecord where
  level := .trace
  target := parsingTarget
  message :=
    "parsed " ++ statement.keyword.text ++ " statement on line " ++ toString statement.line

def statementsRecord (statementCount : Nat) : LogRecord where
  level := .debug
  target := parsingTarget
  message := "parsed " ++ toString statementCount ++ " statements"

/-- What building statements comes to: the statements completed, the rejection that stopped it if
there was one, where the cursor stands after it, and the records that were written on the way. -/
structure Parse where
  statements : List Statement
  rejection : Option Rejection
  cursor : Cursor
  records : List LogRecord := []

namespace Cursor

/-- Read the next statement.  There is none at the end of the tokens, and a token that starts no
statement is not passed. -/
def next : Rule (Option Statement) := fun cursor ↦
  match cursor.rest with
  | [] => (.ok none, cursor)
  | head :: _ =>
    match head.kind with
    | .keyword keyword =>
      match Rule.statement keyword cursor with
      | (.ok statement, after) => (.ok (some statement), after)
      | (.error rejection, after) => (.error rejection, after)
    | kind => (.error { fault := .unexpected kind, line := head.line }, cursor)

/-- Every statement read leaves fewer tokens. -/
theorem length_rest_lt_of_next {cursor after : Cursor} {statement : Statement}
    (h : next cursor = (.ok (some statement), after)) :
    after.rest.length < cursor.rest.length := by
  unfold next at h
  split at h
  · simp at h
  · split at h
    · rename_i keyword _
      split at h
      · rename_i built last stepped
        rw [← (Prod.mk.inj h).2]
        exact Rule.consumes_statement keyword cursor built last stepped
      · simp at h
    · simp at h

/-- Read statements until the end of the tokens or a rejection, behind a number of statements read
before.  Every statement is written to the log, and so is the number of them at the end of the
tokens; a limit says what is kept of that, which is nothing unless there is one. -/
def run (cursor : Cursor) (limit : LogLimit := none) (count : Nat := 0) : Parse :=
  match _step : next cursor with
  | (.ok (some statement), after) =>
    let later := after.run limit (count + 1)
    { later with
      statements := statement :: later.statements
      records := limit.retain statement.record ++ later.records }
  | (.ok none, after) =>
    { statements := []
      rejection := none
      cursor := after
      records := limit.retain (statementsRecord count) }
  | (.error rejection, after) => { statements := [], rejection := some rejection, cursor := after }
termination_by cursor.rest.length
decreasing_by exact length_rest_lt_of_next _step

/-- Read all statements that are left.  A rejection loses the statements read before it. -/
def parse : Rule (List Statement) := fun cursor ↦
  let outcome := cursor.run
  match outcome.rejection with
  | none => (.ok outcome.statements, outcome.cursor)
  | some rejection => (.error rejection, outcome.cursor)

end Cursor

def parse (tokens : List Token) : Except Rejection (List Statement) :=
  (Cursor.parse (.ofTokens tokens)).1

end StatementLang
