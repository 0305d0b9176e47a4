import StatementLang.Proofs.Json.Truncation
import StatementLang.Proofs.ReportRoundTrip

/-!
# Truncated and Extended Reports

The text of a report is not a report any more when its end is missing or when something but blanks
stands behind it.  Reading tells the two apart.
-/

namespace StatementLang

open Json

section

variable {Draft : Type} {slots chosen : List (Slot Draft)} {fields : List (String × Document)}

/-- Each slot has the key of a field, and its reader waits on the value of the field. -/
def WaitOn (slots : List (Slot Draft)) (fields : List (String × Document)) : Prop :=
  List.Forall₂ (fun slot field ↦
    slot.key = field.1 ∧ slot.reader.Waits slot.meaning field.2.toValue) slots fields

theorem waitsUnderKey_of_chosen (independent : Independent slots)
    (hchosen : ∀ slot ∈ chosen, slot ∈ slots) (h : WaitOn chosen fields) :
    ∀ entry ∈ Document.fieldEntries fields, WaitsUnderKey slots entry := by
  induction h with
  | nil => simp [Document.fieldEntries]
  | @cons slot field chosen fields hfield _ ih =>
    obtain ⟨hslot, hothers⟩ := List.forall_mem_cons.mp hchosen
    obtain ⟨hkey, hwaits⟩ := hfield
    refine List.forall_mem_cons.mpr ⟨⟨slot, slotOf?_of_named independent hslot ?_, hwaits⟩,
      ih hothers⟩
    rw [decode_pieces, hkey]

end

/-- The reader of diagnostics waits on a written diagnostic. -/
theorem Diagnostic.waits_reader (diagnostic : Diagnostic) :
    Diagnostic.reader.Waits Diagnostic.ofValue? diagnostic.document.toValue := by
  have slots : WaitOn Diagnostic.slots [("stage", .string diagnostic.stage.label),
      ("message", .string diagnostic.message), ("line", .number diagnostic.line)] :=
    .cons ⟨rfl, Reader.waits_choice _⟩ <| .cons ⟨rfl, Reader.waits_string _⟩ <|
      .cons ⟨rfl, Reader.waits_count _⟩ .nil
  have hwaits := laidOut.waits (waitsUnderKey_of_chosen independent_slots (fun _ h ↦ h) slots)
  rwa [funext meaning?_eq_ofValue?] at hwaits

namespace Report

variable {report : Report}

theorem waitOn_slots (report : Report) : WaitOn slots [("success", .bool report.success),
    ("source_file", .string report.sourceFile), ("token_count", .number report.tokenCount),
    ("statement_count", .number report.statementCount),
    ("diagnostics", .array (report.diagnostics.map Diagnostic.document))] := by
  refine .cons ⟨rfl, Reader.waits_bool _⟩ <| .cons ⟨rfl, Reader.waits_string _⟩ <|
    .cons ⟨rfl, Reader.waits_count _⟩ <| .cons ⟨rfl, Reader.waits_count _⟩ <|
    .cons ⟨rfl, Reader.waits_list ?_⟩ .nil
  intro value hmem
  rw [Document.itemValues_eq_map, List.map_map] at hmem
  obtain ⟨diagnostic, -, rfl⟩ := List.mem_map.mp hmem
  exact diagnostic.waits_reader

section

variable {text start rest more : List Char} (fits : report.Fits)

include fits

/-- Reading the front of a written report comes to its end. -/
theorem awaits_reader_document
    (spelled : Json.Spells (text ++ more) (.value report.document.toValue) rest) :
    Awaits (appendRest more) (reader.read text) (report, rest) := by
  have encoded := Document.isEncoded_toValue report.document
  have meant := ofValue?_toValue fits
  rw [← meaning?_eq_ofValue?] at meant
  exact laidOut.awaits (blanks_refl _) spelled encoded
    (waitsUnderKey_of_chosen independent_slots (fun _ h ↦ h) report.waitOn_slots) meant

theorem read_of_spells_document (spelled : Json.Spells text (.value report.document.toValue) rest) :
    reader.read text = .ok (report, rest) := by
  have meant := ofValue?_toValue fits
  rw [← meaning?_eq_ofValue?] at meant
  exact laidOut.read_of_spells (blanks_refl _) spelled (Document.isEncoded_toValue _) meant

end

/-- A written report without its end is unfinished.  With more text behind it it is the report if
that text is blank, and malformed else. -/
theorem ofText_of_cut_or_extended (fits : report.Fits) {text : String}
    (written : text = report.document.toPrettyString ∨ text = report.document.toCompactString) :
    (∀ cut rest, text = cut ++ rest → rest ≠ "" → ofText cut = .error .unfinished) ∧
    ∀ behind : String,
      ((∀ c ∈ behind.toList, c ∈ [' ', '\t', '\n', '\r']) →
        ofText (text ++ behind) = .ok report) ∧
      ((¬ ∀ c ∈ behind.toList, c ∈ [' ', '\t', '\n', '\r']) →
        ofText (text ++ behind) = .error .malformed) := by
  have spelled (rest : List Char) :
      Json.Spells (text.toList ++ rest) (.value report.document.toValue) rest := by
    obtain rfl | rfl := written
    · rw [Document.toPrettyString, String.toList_ofList]
      exact Document.spells_pretty 0 _ rest
    · rw [Document.toCompactString, String.toList_ofList]
      exact Document.spells_compact _ rest
  constructor
  · intro cut rest hsplit hrest
    have hfront := spelled []
    rw [hsplit, List.append_nil, String.toList_append] at hfront
    exact readText_of_front (awaits_reader_document fits hfront) hrest
  · intro behind
    have hread := read_of_spells_document fits (spelled behind.toList)
    rw [← String.toList_append] at hread
    have hblank (c : Char) : c ∈ [' ', '\t', '\n', '\r'] ↔ isBlank c = true := by
      simp only [List.mem_cons, List.not_mem_nil, or_false, isBlank, Bool.or_eq_true, beq_iff_eq]
      tauto
    simp only [hblank]
    exact readText_of_read hread

/-- A report that is cut inside of an escape and inside of a number, and one with a line feed and
with a bracket behind it. -/
theorem ofText_of_cut_escape_and_cut_number :
    let report : Report :=
      { success := false, sourceFile := "a\\b", tokenCount := 12, statementCount := 0,
        diagnostics := [{ stage := .parsing, message := "\n", line := 3 }] }
    ofText "\x7b\"success\":false,\"source_file\":\"a\\" = .error .unfinished ∧
      ofText "\x7b\"success\":false,\"source_file\":\"a\\\\b\",\"token_count\":1" =
        .error .unfinished ∧
      ofText (report.document.toPrettyString ++ "\n") = .ok report ∧
      ofText (report.document.toPrettyString ++ "\x7d") = .error .malformed := by
  intro report
  have fits : report.Fits := ⟨by decide, by decide, by decide⟩
  have escape : report.document.toCompactString =
      "\x7b\"success\":false,\"source_file\":\"a\\" ++
        ("\\b\",\"token_count\":12,\"statement_count\":0,\"diagnostics\":[" ++
          "\x7b\"stage\":\"parse\",\"message\":\"\\n\",\"line\":3\x7d]\x7d") := by
    decide +kernel
  have number : report.document.toCompactString =
      "\x7b\"success\":false,\"source_file\":\"a\\\\b\",\"token_count\":1" ++
        ("2,\"statement_count\":0,\"diagnostics\":[" ++
          "\x7b\"stage\":\"parse\",\"message\":\"\\n\",\"line\":3\x7d]\x7d") := by
    decide +kernel
  obtain ⟨hcut, -⟩ := ofText_of_cut_or_extended fits (Or.inr rfl)
  obtain ⟨-, hbehind⟩ := ofText_of_cut_or_extended fits (Or.inl rfl)
  exact ⟨hcut _ _ escape (by simp), hcut _ _ number (by simp),
    (hbehind "\n").1 (by simp), (hbehind "\x7d").2 (by simp)⟩

end Report

end StatementLang
