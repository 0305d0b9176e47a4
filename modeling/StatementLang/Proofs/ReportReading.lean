import StatementLang.Proofs.Json.Records
import StatementLang.Report.Reading

/-!
# Which Texts Are Read as Reports

A report is read from exactly the JSON texts that denote one, in any spacing, with any spelling of
the keys, in either form of the record, and with anything under keys it does not know.
-/

namespace StatementLang

open Json

def Stage.ofValue? (value : Value) : Option Stage := value.choice? Stage.ofLabel?

def Diagnostic.ofValue? (value : Value) : Option Diagnostic := do
  match ← value.fields? ["stage", "message", "line"] with
  | [stage, message, line] =>
    return { stage := ← Stage.ofValue? stage, message := ← message.text?, line := ← line.count? }
  | _ => none

def Report.ofValue? (value : Value) : Option Report := do
  match ← value.fields?
    ["success", "source_file", "token_count", "statement_count", "diagnostics"] with
  | [success, sourceFile, tokenCount, statementCount, diagnostics] =>
    return {
      success := ← success.bool?
      sourceFile := ← sourceFile.text?
      tokenCount := ← tokenCount.count?
      statementCount := ← statementCount.count?
      diagnostics := ← diagnostics.list? Diagnostic.ofValue? }
  | _ => none

namespace Diagnostic

def slots : List (Slot Draft) := [
  { Part := Stage
    key := "stage"
    reader := Stage.reader
    meaning := Stage.ofValue?
    reads := Reader.reads_choice
    part := Draft.stage
    setPart stage draft := { draft with stage := some stage }
    part_setPart _ _ := rfl },
  { Part := String
    key := "message"
    reader := .string
    meaning := Value.text?
    reads := Reader.reads_string
    part := Draft.message
    setPart message draft := { draft with message := some message }
    part_setPart _ _ := rfl },
  { Part := Nat
    key := "line"
    reader := .count
    meaning := Value.count?
    reads := Reader.reads_count
    part := Draft.line
    setPart line draft := { draft with line := some line }
    part_setPart _ _ := rfl }]

theorem independent_slots : Independent slots where
  keys_nodup := by decide
  frame := by simp [slots]
  ext := by
    rintro ⟨stage, message, line⟩ ⟨stage', message', line'⟩ h
    simpa [slots] using h

theorem laidOut : schema.LaidOut slots where
  fields_eq := rfl
  independent := independent_slots
  start_empty := by simp [slots, schema]
  finish_full := by
    intro draft record h
    simp only [schema, Draft.finish?, Option.bind_eq_bind, Option.bind_eq_some_iff] at h
    obtain ⟨stage, hstage, message, hmessage, line, hline, -⟩ := h
    simp [slots, hstage, hmessage, hline]

theorem meaning?_eq_ofValue? (value : Value) : schema.meaning? slots value = ofValue? value := by
  unfold Schema.meaning? ofValue?
  cases hvalues : value.fields? ["stage", "message", "line"] with
  | none => simp [slots, hvalues]
  | some values =>
    rcases values with _ | ⟨stage, _ | ⟨message, _ | ⟨line, _ | ⟨other, values⟩⟩⟩⟩ <;>
      simp [slots, hvalues, fillItems?, schema, Draft.finish?, Option.bind_assoc]

/-- A diagnostic is read from the values that denote one. -/
theorem reads_reader : reader.Reads ofValue? := by
  have hreads := laidOut.reads
  rwa [funext meaning?_eq_ofValue?] at hreads

end Diagnostic

namespace Report

def slots : List (Slot Draft) := [
  { Part := Bool
    key := "success"
    reader := .bool
    meaning := Value.bool?
    reads := Reader.reads_bool
    part := Draft.success
    setPart success draft := { draft with success := some success }
    part_setPart _ _ := rfl },
  { Part := String
    key := "source_file"
    reader := .string
    meaning := Value.text?
    reads := Reader.reads_string
    part := Draft.sourceFile
    setPart sourceFile draft := { draft with sourceFile := some sourceFile }
    part_setPart _ _ := rfl },
  { Part := Nat
    key := "token_count"
    reader := .count
    meaning := Value.count?
    reads := Reader.reads_count
    part := Draft.tokenCount
    setPart tokenCount draft := { draft with tokenCount := some tokenCount }
    part_setPart _ _ := rfl },
  { Part := Nat
    key := "statement_count"
    reader := .count
    meaning := Value.count?
    reads := Reader.reads_count
    part := Draft.statementCount
    setPart statementCount draft := { draft with statementCount := some statementCount }
    part_setPart _ _ := rfl },
  { Part := List Diagnostic
    key := "diagnostics"
    reader := .list Diagnostic.reader
    meaning := Value.list? Diagnostic.ofValue?
    reads := Reader.reads_list Diagnostic.reads_reader
    part := Draft.diagnostics
    setPart diagnostics draft := { draft with diagnostics := some diagnostics }
    part_setPart _ _ := rfl }]

theorem independent_slots : Independent slots where
  keys_nodup := by decide
  frame := by simp [slots]
  ext := by
    rintro ⟨success, sourceFile, tokenCount, statementCount, diagnostics⟩
      ⟨success', sourceFile', tokenCount', statementCount', diagnostics'⟩ h
    simpa [slots] using h

theorem laidOut : schema.LaidOut slots where
  fields_eq := rfl
  independent := independent_slots
  start_empty := by simp [slots, schema]
  finish_full := by
    intro draft record h
    simp only [schema, Draft.finish?, Option.bind_eq_bind, Option.bind_eq_some_iff] at h
    obtain ⟨success, hsuccess, sourceFile, hsourceFile, tokenCount, htokenCount,
      statementCount, hstatementCount, diagnostics, hdiagnostics, -⟩ := h
    simp [slots, hsuccess, hsourceFile, htokenCount, hstatementCount, hdiagnostics]

theorem meaning?_eq_ofValue? (value : Value) : schema.meaning? slots value = ofValue? value := by
  unfold Schema.meaning? ofValue?
  cases hvalues : value.fields?
      ["success", "source_file", "token_count", "statement_count", "diagnostics"] with
  | none => simp [slots, hvalues]
  | some values =>
    rcases values with _ | ⟨success, _ | ⟨sourceFile, _ | ⟨tokenCount, _ | ⟨statementCount,
        _ | ⟨diagnostics, _ | ⟨other, values⟩⟩⟩⟩⟩⟩ <;>
      simp [slots, hvalues, fillItems?, schema, Draft.finish?, Option.bind_assoc]

/-- A report is read from the values that denote one. -/
theorem reads_reader : reader.Reads ofValue? := by
  have hreads := laidOut.reads
  rwa [funext meaning?_eq_ofValue?] at hreads

end Report

/-- What is read as a report is one JSON text whose value denotes it, and every JSON text without
unpaired surrogates whose value denotes a report is read as that report; the same holds of
diagnostics. -/
theorem ofText_reads_what_is_denoted :
    (∀ text report, Report.ofText text = .ok report →
      ∃ value, IsJson text.toList value ∧ (∀ other, IsJson text.toList other → other = value) ∧
        Report.ofValue? value = some report) ∧
    (∀ text value report, IsJson text.toList value → value.IsEncoded →
      Report.ofValue? value = some report → Report.ofText text = .ok report) ∧
    (∀ text diagnostic, Diagnostic.ofText text = .ok diagnostic →
      ∃ value, IsJson text.toList value ∧ (∀ other, IsJson text.toList other → other = value) ∧
        Diagnostic.ofValue? value = some diagnostic) ∧
    (∀ text value diagnostic, IsJson text.toList value → value.IsEncoded →
      Diagnostic.ofValue? value = some diagnostic → Diagnostic.ofText text = .ok diagnostic) :=
  ⟨fun _ _ ↦ Report.reads_reader.isJson_of_readText,
    fun _ _ _ ↦ Report.reads_reader.readText_of_isJson,
    fun _ _ ↦ Diagnostic.reads_reader.isJson_of_readText,
    fun _ _ _ ↦ Diagnostic.reads_reader.readText_of_isJson⟩

/-- A report with an unknown key and an escaped one, an array with blanks and an escape in it, and
the two spellings of a stage. -/
theorem denoted_of_escaped_key_and_read_in_order :
    (∃ text, text = "\x7b\"x\":[\x7b\"y\":-1e5\x7d] , \"\\u0073uccess\":true,\"token_count\":5," ++
          "\"source_file\":\"a\",\"statement_count\":1,\"diagnostics\":[[\"lex\",\"\",7]]\x7d" ∧
      ∃ value, IsJson text.toList value ∧ (∀ other, IsJson text.toList other → other = value) ∧
        Report.ofValue? value = some
          { success := true, sourceFile := "a", tokenCount := 5, statementCount := 1
            diagnostics := [{ stage := .lexing, message := "", line := 7 }] }) ∧
    Report.ofText "[true, \"\\u0061\",0\n,1,[]]" = .ok
      { success := true, sourceFile := "a", tokenCount := 0, statementCount := 1
        diagnostics := [] } ∧
    (∃ text, text = "\x7b\"line\":7,\"message\":\"\",\"stage\":\x7b\"lex\":null\x7d\x7d" ∧
      ∃ value, IsJson text.toList value ∧ (∀ other, IsJson text.toList other → other = value) ∧
        Diagnostic.ofValue? value = some { stage := .lexing, message := "", line := 7 }) ∧
    Diagnostic.ofText "[\"lex\",\"\",7]" = .ok { stage := .lexing, message := "", line := 7 } := by
  have zero : SpellsNumeral ['0'] _ := .of_isWhole (isWhole_singleton rfl)
  have one : SpellsNumeral ['1'] _ := .of_isWhole (isWhole_singleton rfl)
  have seven : SpellsNumeral ['7'] _ := .of_isWhole (isWhole_singleton rfl)
  have report : IsJson "[true, \"\\u0061\",0\n,1,[]]".toList
      (.array [.bool true, .string [.unit 0x61], .number _, .number _, .array []]) :=
    ⟨_, [], blanks_refl _,
      .array (.item (blanks_refl _) (.bool true)
        (.item ⟨_, blanks_refl _, blanks_cons rfl _⟩ (.string (.numeric rfl .closed))
        (.item ⟨_, blanks_refl _, blanks_refl _⟩ (.number zero)
        (.item ⟨_, blanks_cons rfl _, blanks_refl _⟩ (.number one)
        (.item ⟨_, blanks_refl _, blanks_refl _⟩ (.array (.noItem (blanks_refl _)))
        (.noItem (blanks_refl _))))))),
      blanks_refl _⟩
  have diagnostic : IsJson "[\"lex\",\"\",7]".toList
      (.array [.string [.char 'l', .char 'e', .char 'x'], .string [], .number _]) :=
    ⟨_, [], blanks_refl _,
      .array (.item (blanks_refl _) (.string (.plain (by decide) (by decide) (by decide)
          (.plain (by decide) (by decide) (by decide)
          (.plain (by decide) (by decide) (by decide) .closed))))
        (.item ⟨_, blanks_refl _, blanks_refl _⟩ (.string .closed)
        (.item ⟨_, blanks_refl _, blanks_refl _⟩ (.number seven)
        (.noItem (blanks_refl _))))),
      blanks_refl _⟩
  refine ⟨⟨_, rfl, ofText_reads_what_is_denoted.1 _ _ (by decide +kernel)⟩,
    ofText_reads_what_is_denoted.2.1 _ _ _ report ?_ (by decide),
    ⟨_, rfl, ofText_reads_what_is_denoted.2.2.1 _ _ (by decide +kernel)⟩,
    ofText_reads_what_is_denoted.2.2.2 _ _ _ diagnostic ?_ (by decide)⟩
  · refine .array fun item hmem ↦ ?_
    simp only [List.mem_cons, List.not_mem_nil, or_false] at hmem
    rcases hmem with rfl | rfl | rfl | rfl | rfl
    · exact .bool true
    · exact .string rfl
    · exact .number _
    · exact .number _
    · exact .array (by simp)
  · refine .array fun item hmem ↦ ?_
    simp only [List.mem_cons, List.not_mem_nil, or_false] at hmem
    rcases hmem with rfl | rfl | rfl
    · exact .string rfl
    · exact .string rfl
    · exact .number _

end StatementLang
