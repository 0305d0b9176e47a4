import StatementLang.Proofs.Json.Writing
import StatementLang.Proofs.ReportReading

/-!
# Reports Are Read Back from Their Texts

The text of a report denotes the report, on one line and on indented lines, so that reading gives it
back whatever characters its strings have.  Counts and lines must fit in 64 bits.
-/

namespace StatementLang

open Json

theorem Stage.ofValue?_toValue (stage : Stage) :
    Stage.ofValue? (Document.string stage.label).toValue = some stage := by
  have hlabel := Document.text?_toValue stage.label
  rw [Document.toValue] at hlabel
  rw [Document.toValue, Stage.ofValue?, Value.choice?, hlabel]
  exact Stage.ofLabel?_label stage

/-- A written diagnostic denotes itself. -/
theorem Diagnostic.ofValue?_toValue {diagnostic : Diagnostic}
    (line : diagnostic.line < Nat.pow 2 64) :
    Diagnostic.ofValue? diagnostic.document.toValue = some diagnostic := by
  have hfields : diagnostic.document.toValue.fields? ["stage", "message", "line"] =
      some [(Document.string diagnostic.stage.label).toValue,
        (Document.string diagnostic.message).toValue,
        (Document.number diagnostic.line).toValue] :=
    Document.fields?_toValue (by simp)
  simp [Diagnostic.ofValue?, hfields, Stage.ofValue?_toValue, Document.text?_toValue,
    Document.count?_toValue line]

namespace Report

/-- The counts and lines of a report fit in 64 bits. -/
structure Fits (report : Report) : Prop where
  tokenCount : report.tokenCount < Nat.pow 2 64
  statementCount : report.statementCount < Nat.pow 2 64
  lines : ∀ diagnostic ∈ report.diagnostics, diagnostic.line < Nat.pow 2 64

/-- A written report denotes itself. -/
theorem ofValue?_toValue {report : Report} (fits : report.Fits) :
    ofValue? report.document.toValue = some report := by
  have hfields : report.document.toValue.fields?
        ["success", "source_file", "token_count", "statement_count", "diagnostics"] =
      some [(Document.bool report.success).toValue, (Document.string report.sourceFile).toValue,
        (Document.number report.tokenCount).toValue,
        (Document.number report.statementCount).toValue,
        (Document.array (report.diagnostics.map Diagnostic.document)).toValue] :=
    Document.fields?_toValue (by simp)
  have hsuccess : (Document.bool report.success).toValue.bool? = some report.success := rfl
  have hdiagnostics :=
    Document.list?_toValue fun diagnostic hmem ↦
      Diagnostic.ofValue?_toValue (fits.lines diagnostic hmem)
  simp [ofValue?, hfields, hsuccess, Document.text?_toValue,
    Document.count?_toValue fits.tokenCount, Document.count?_toValue fits.statementCount,
    hdiagnostics]

/-- Reading the text of a report gives the report back, in either layout. -/
theorem ofText_document {report : Report} (fits : report.Fits) :
    ofText report.document.toPrettyString = .ok report ∧
      ofText report.document.toCompactString = .ok report := by
  have encoded := Document.isEncoded_toValue report.document
  have denoted := ofValue?_toValue fits
  constructor
  · exact reads_reader.readText_of_isJson (Document.isJson_toPrettyString _) encoded denoted
  · exact reads_reader.readText_of_isJson (Document.isJson_toCompactString _) encoded denoted

/-- A report with every class of character in its strings and with the largest counts. -/
theorem ofText_document_of_extremes :
    ∃ report : Report, report.Fits ∧ report.sourceFile = "\x00\x08\n\x1f\"\\é😀" ∧
      report.tokenCount = Nat.pow 2 64 - 1 ∧
      report.diagnostics.map Diagnostic.stage = [.lexing, .parsing] ∧
      ofText report.document.toPrettyString = .ok report ∧
      ofText report.document.toCompactString = .ok report :=
  ⟨{ success := false
     sourceFile := "\x00\x08\n\x1f\"\\é😀"
     tokenCount := Nat.pow 2 64 - 1
     statementCount := 0
     diagnostics := [{ stage := .lexing, message := "'\x7f'", line := Nat.pow 2 64 - 1 },
       { stage := .parsing, message := "", line := 0 }] },
    ⟨by decide, by decide, by decide⟩, rfl, rfl, rfl,
    ofText_document ⟨by decide, by decide, by decide⟩⟩

end Report

end StatementLang
