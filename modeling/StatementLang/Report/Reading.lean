import StatementLang.Json.Record
import StatementLang.Report

/-!
# Reading Reports

A report is read back from its JSON text, in any spacing and with its fields in any order.
-/

namespace StatementLang

open Json

def Stage.reader : Reader Stage := .choice Stage.ofLabel?

namespace Diagnostic

structure Draft where
  stage : Option Stage := none
  message : Option String := none
  line : Option Nat := none
deriving DecidableEq, Repr

def Draft.finish? (draft : Draft) : Option Diagnostic := do
  return { stage := ← draft.stage, message := ← draft.message, line := ← draft.line }

def schema : Schema Draft Diagnostic where
  fields := [
    .of "stage" Stage.reader Draft.stage fun stage draft ↦ { draft with stage := some stage },
    .of "message" .string Draft.message fun message draft ↦ { draft with message := some message },
    .of "line" .count Draft.line fun line draft ↦ { draft with line := some line }]
  start := {}
  finish? := Draft.finish?

def reader : Reader Diagnostic := schema.reader

def ofText (text : String) : Except ReadError Diagnostic := reader.readText text

end Diagnostic

namespace Report

structure Draft where
  success : Option Bool := none
  sourceFile : Option String := none
  tokenCount : Option Nat := none
  statementCount : Option Nat := none
  diagnostics : Option (List Diagnostic) := none
deriving DecidableEq, Repr

def Draft.finish? (draft : Draft) : Option Report := do
  return {
    success := ← draft.success
    sourceFile := ← draft.sourceFile
    tokenCount := ← draft.tokenCount
    statementCount := ← draft.statementCount
    diagnostics := ← draft.diagnostics }

def schema : Schema Draft Report where
  fields := [
    .of "success" .bool Draft.success fun success draft ↦ { draft with success := some success },
    .of "source_file" .string Draft.sourceFile fun sourceFile draft ↦
      { draft with sourceFile := some sourceFile },
    .of "token_count" .count Draft.tokenCount fun tokenCount draft ↦
      { draft with tokenCount := some tokenCount },
    .of "statement_count" .count Draft.statementCount fun statementCount draft ↦
      { draft with statementCount := some statementCount },
    .of "diagnostics" (.list Diagnostic.reader) Draft.diagnostics fun diagnostics draft ↦
      { draft with diagnostics := some diagnostics }]
  start := {}
  finish? := Draft.finish?

def reader : Reader Report := schema.reader

def ofText (text : String) : Except ReadError Report := reader.readText text

end Report

end StatementLang
