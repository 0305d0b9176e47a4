import StatementLang.Source
import StatementLang.Json.Document

/-!
# Reports

A report tells how reading one source file went: whether it succeeded, how much of it was read, and
what was wrong with it.
-/

namespace StatementLang

open Json

/-- The stage that found something wrong. -/
inductive Stage where
  | lexing
  | parsing
deriving DecidableEq, Repr

namespace Stage

def label : Stage → String
  | lexing => "lex"
  | parsing => "parse"

def ofLabel? (label : String) : Option Stage :=
  [lexing, parsing].find? fun stage ↦ stage.label == label

theorem ofLabel?_label (stage : Stage) : ofLabel? stage.label = some stage := by
  cases stage <;> decide

end Stage

structure Diagnostic where
  stage : Stage
  message : String
  line : Nat
deriving DecidableEq, Repr

namespace Diagnostic

/-- The diagnostic of a failure, whose message leaves the line out. -/
def ofFailure (failure : Failure) : Diagnostic :=
  match failure with
  | .lexical error =>
    { stage := .lexing
      message := "unexpected character '" ++ error.character.toString ++ "'"
      line := error.line }
  | .grammatical detail line => { stage := .parsing, message := detail, line }

def document (diagnostic : Diagnostic) : Document :=
  .object [
    ("stage", .string diagnostic.stage.label),
    ("message", .string diagnostic.message),
    ("line", .number diagnostic.line)]

end Diagnostic

/-- How reading one source file went. -/
structure Report where
  success : Bool
  sourceFile : String
  tokenCount : Nat
  statementCount : Nat
  diagnostics : List Diagnostic
deriving DecidableEq, Repr

namespace Report

def ofSuccess (sourceFile : String) (tokenCount statementCount : Nat) : Report :=
  { success := true, sourceFile, tokenCount, statementCount, diagnostics := [] }

/-- The report on a failure, with the number of tokens read by a stage that finished. -/
def ofFailure (sourceFile : String) (failure : Failure) (tokenCount : Nat) : Report where
  success := false
  sourceFile := sourceFile
  tokenCount := tokenCount
  statementCount := 0
  diagnostics := [.ofFailure failure]

def document (report : Report) : Document :=
  .object [
    ("success", .bool report.success),
    ("source_file", .string report.sourceFile),
    ("token_count", .number report.tokenCount),
    ("statement_count", .number report.statementCount),
    ("diagnostics", .array (report.diagnostics.map Diagnostic.document))]

end Report

end StatementLang
