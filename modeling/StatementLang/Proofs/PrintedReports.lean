import StatementLang.Proofs.ReportRoundTrip
import StatementLang.Proofs.Verdict
import StatementLang.Proofs.Blame

/-!
# Printed Reports

Every task that reports on a file in JSON prints the same report, and it is read back as what
reading the content of the file as a source text comes to.

The counts and the lines in a report are read back as numbers of 64 bits.  None of them is greater
than the number of characters of the text, so that they fit for every text that fits in a memory.
-/

namespace StatementLang

namespace Lexes

variable {line : Nat} {text : List Char} {tokens : List Token} {token : Token}

theorem length_le (h : Lexes line text tokens) : tokens.length ≤ text.length := by
  induction h with
  | blank => exact Nat.zero_le _
  | token blank spelled apart rest ih =>
    have hpos := List.length_pos_iff.mpr spelled.ne_nil
    simp only [List.length_append, List.length_cons]
    omega

theorem line_lt (h : Lexes line text tokens) (hmem : token ∈ tokens) :
    token.line < line + text.length := by
  induction h with
  | blank => cases hmem
  | @token line blanks text later first tokens blank spelled apart rest ih =>
    have hpos := List.length_pos_iff.mpr spelled.ne_nil
    have hcount : blanks.count '\n' ≤ blanks.length := List.count_le_length
    simp only [List.length_append]
    obtain rfl | hlater := List.mem_cons.mp hmem
    · rw [spelled.line_eq]
      omega
    · have hline := ih hlater
      omega

end Lexes

/-- Tokens are rejected on the line of one of them. -/
theorem exists_token_of_rejection {tokens : List Token} {rejection : Rejection}
    (failed : parse tokens = .error rejection) :
    ∃ token ∈ tokens, rejection.line = token.line := by
  obtain ⟨_, token, -, htoken, hline, -⟩ :=
    Cursor.exists_blamed_of_error (Cursor.Precedes.refl (.ofTokens tokens)) failed
  exact ⟨token, List.mem_of_getElem? htoken, hline⟩

section

variable {source : String}

theorem length_le_of_tokenize {tokens : List Token} (h : tokenize source = .ok tokens) :
    tokens.length ≤ source.length := by
  rw [← String.length_toList]
  exact (tokenize_eq_ok_iff_lexes.mp h).length_le

/-- No failure is on a line beyond the number of characters. -/
theorem line_le_of_parseSource {failure : Failure} (h : parseSource source = .error failure) :
    failure.line ≤ source.length := by
  rw [← String.length_toList]
  cases failure with
  | lexical error =>
    obtain ⟨before, c, later, hsplit, -, -, rfl⟩ :=
      tokenize_eq_error_iff.mp (parseSource_eq_lexical_iff.mp h)
    have hcount : before.count '\n' ≤ before.length := List.count_le_length
    simp only [Failure.line, hsplit, List.length_append, List.length_cons]
    omega
  | grammatical detail line =>
    obtain ⟨tokens, rejection, htokens, failed, -, rfl⟩ := parseSource_eq_grammatical_iff.mp h
    obtain ⟨token, hmem, hline⟩ := exists_token_of_rejection failed
    have hlt := (tokenize_eq_ok_iff_lexes.mp htokens).line_lt hmem
    simp only [Failure.line, hline]
    omega

end

theorem Diagnostic.line_ofFailure (failure : Failure) :
    (Diagnostic.ofFailure failure).line = failure.line := by
  cases failure <;> rfl

namespace CommandLine

def reportOn (path source : String) : Report :=
  match parseSource source with
  | .ok statements => .ofSuccess path (reportedTokens source) statements.length
  | .error failure => .ofFailure path failure (reportedTokens source)

section

variable {path source : String}

theorem reportedTokens_of_ok {tokens : List Token} (h : tokenize source = .ok tokens) :
    reportedTokens source = tokens.length := by
  rw [reportedTokens, h]

theorem reportedTokens_le (source : String) : reportedTokens source ≤ source.length := by
  unfold reportedTokens
  split
  · rename_i tokens htokens
    exact length_le_of_tokenize htokens
  · exact Nat.zero_le _

theorem fits_reportOn (fits : source.length < Nat.pow 2 64) : (reportOn path source).Fits := by
  have hcount := Nat.lt_of_le_of_lt (reportedTokens_le source) fits
  unfold reportOn
  split
  · rename_i statements hstatements
    obtain ⟨tokens, htokens, hparse⟩ := parseSource_eq_ok_iff.mp hstatements
    have hlength := (parse_eq_ok_iff.mp hparse).length_eq
    rw [reportedTokens_of_ok htokens] at hcount ⊢
    exact ⟨hcount, by simp only [Report.ofSuccess]; omega, by simp [Report.ofSuccess]⟩
  · rename_i failure hfailure
    have hline := line_le_of_parseSource hfailure
    refine ⟨hcount, by simp [Report.ofFailure], fun diagnostic hmem ↦ ?_⟩
    obtain rfl := List.mem_singleton.mp hmem
    rw [Diagnostic.line_ofFailure]
    exact Nat.lt_of_le_of_lt hline fits

theorem reportOn_of_ok {tokens : List Token} {statements : List Statement}
    (htokens : tokenize source = .ok tokens) (hstatements : parseSource source = .ok statements) :
    reportOn path source = .ofSuccess path tokens.length statements.length := by
  simp only [reportOn, hstatements, reportedTokens_of_ok htokens]

theorem reportOn_of_error {failure : Failure} (h : parseSource source = .error failure) :
    reportOn path source = .ofFailure path failure (reportedTokens source) := by
  simp only [reportOn, h]

theorem sourceFile_reportOn (path source : String) : (reportOn path source).sourceFile = path := by
  unfold reportOn
  split <;> rfl

/-- A task prints the report on a text that does not pass its stages. -/
theorem output_of_not_accepts {task : Task} (h : ¬ task.Accepts source) :
    (task.perform true path source).output = documentText (reportOn path source).document := by
  obtain ⟨haccepts, -⟩ | ⟨-, failure, records, hfailure, hperform⟩ :=
    task.perform_cases true path source
  · exact absurd haccepts h
  · rw [hperform, reportOn_of_error hfailure]
    rfl

/-- A task that builds the statements and does not list them prints the report on every text. -/
theorem output_of_reporting {task : Task} (h : task = .parse ∨ task = .check) :
    (task.perform true path source).output = documentText (reportOn path source).document := by
  by_cases haccepts : task.Accepts source
  · have htask : task ≠ .tokens := by
      rintro rfl
      simp at h
    obtain ⟨statements, hstatements⟩ := (Task.accepts_iff_of_ne_tokens htask).mp haccepts
    obtain ⟨tokens, htokens, hparse⟩ := parseSource_eq_ok_iff.mp hstatements
    rw [reportOn_of_ok htokens hstatements]
    simp only [Task.perform, htokens, hparse, if_neg htask]
    obtain rfl | rfl := h <;> rfl
  · exact output_of_not_accepts haccepts

/-- A printed report is read back with the end of its last line. -/
theorem ofText_documentText {report : Report} (fits : report.Fits) :
    Report.ofText (documentText report.document) = .ok report := by
  have json : Json.IsJson (documentText report.document).toList report.document.toValue := by
    rw [documentText, Json.Document.toPrettyString, String.toList_append, String.toList_ofList]
    exact ⟨_, ['\n'], Json.blanks_refl _, Json.Document.spells_pretty 0 _ _,
      Json.blanks_cons rfl []⟩
  exact Report.reads_reader.readText_of_isJson json (Json.Document.isEncoded_toValue _)
    (Report.ofValue?_toValue fits)

end

section

variable {path source : String} {readText : String → Except FileError String}
  {arguments : Task → List String}

/-- With an answer in JSON, parsing and checking a readable file print one report on the file, and
it tells the outcome of reading the content as a source text.  Showing the statements prints the
same report if that fails, and listing the tokens if already the tokens cannot be read. -/
theorem printed_reports_are_read_back
    (given : ∀ task, Invocation.ofArguments (arguments task) =
      .ok { command := task.command path, json := true })
    (hread : readText path = .ok source) (fits : source.length < Nat.pow 2 64)
    (log : Option String) :
    let printed (task : Task) : String := (run readText log (arguments task)).output
    printed .parse = printed .check ∧
    ∃ report, Report.ofText (printed .check) = .ok report ∧ report.sourceFile = path ∧
      (∀ statements, parseSource source = .ok statements →
        ∃ tokens, tokenize source = .ok tokens ∧ tokens.length = 5 * statements.length ∧
          report =
            { success := true, sourceFile := path, tokenCount := tokens.length,
              statementCount := statements.length, diagnostics := [] }) ∧
      (∀ error, tokenize source = .error error →
        report =
          { success := false, sourceFile := path, tokenCount := 0, statementCount := 0,
            diagnostics := [
              { stage := .lexing
                message := "unexpected character '" ++ error.character.toString ++ "'"
                line := error.line }] } ∧
        printed .tokens = printed .check) ∧
      (∀ tokens detail line, tokenize source = .ok tokens →
        parseSource source = .error (.grammatical detail line) →
        report =
          { success := false, sourceFile := path, tokenCount := tokens.length, statementCount := 0,
            diagnostics := [{ stage := .parsing, message := detail, line }] }) ∧
      (∀ failure, parseSource source = .error failure → printed .ast = printed .check) := by
  intro printed
  have hprinted (task : Task) : printed task = (task.perform true path source).output :=
    output_run_of_readable log (given task) hread
  have hcheck : printed .check = documentText (reportOn path source).document := by
    rw [hprinted, output_of_reporting (Or.inr rfl)]
  refine ⟨?_, reportOn path source, ?_, sourceFile_reportOn path source, ?_, ?_, ?_, ?_⟩
  · rw [hcheck, hprinted, output_of_reporting (Or.inl rfl)]
  · rw [hcheck]
    exact ofText_documentText (fits_reportOn fits)
  · intro statements hstatements
    obtain ⟨tokens, htokens, hparse⟩ := parseSource_eq_ok_iff.mp hstatements
    exact ⟨tokens, htokens, (parse_eq_ok_iff.mp hparse).length_eq,
      reportOn_of_ok htokens hstatements⟩
  · intro error herror
    constructor
    · rw [reportOn_of_error (parseSource_eq_lexical_iff.mpr herror), reportedTokens, herror]
      rfl
    · rw [hcheck, hprinted, output_of_not_accepts (Task.not_accepts_of_lexical herror)]
  · intro tokens detail line htokens hfailure
    rw [reportOn_of_error hfailure, reportedTokens_of_ok htokens]
    rfl
  · intro failure hfailure
    have hrejects : ¬ Task.ast.Accepts source := by
      rintro ⟨statements, hstatements⟩
      cases hfailure.symm.trans hstatements
    rw [hcheck, hprinted, output_of_not_accepts hrejects]

/-- A program, and a character that is escaped in the report. -/
theorem printed_reports_of_two_files :
    Report.ofText (run (fun _ ↦ .ok "quit(1);") none ["--json", "check", "main.rad"]).output =
        .ok
          { success := true, sourceFile := "main.rad", tokenCount := 5, statementCount := 1,
            diagnostics := [] } ∧
      Report.ofText
          (run (fun _ ↦ .ok "quit(1)\n\x01") (some "info") ["--json", "check", "main.rad"]).output =
        .ok
          { success := false, sourceFile := "main.rad", tokenCount := 0, statementCount := 0,
            diagnostics := [
              { stage := .lexing, message := "unexpected character '\x01'", line := 2 }] } := by
  have given (task : Task) :
      Invocation.ofArguments ("--json" :: (task.level.words ++ ["main.rad"])) =
        .ok { command := task.command "main.rad", json := true } :=
    ofArguments_of_file (by decide) (by decide) task true (by decide)
  have program : parseSource "quit(1);" = .ok [.quit (.ofDigits "1" 1) 1] := by
    decide +kernel
  have tokens : reportedTokens "quit(1);" = 5 := by
    decide +kernel
  have foreign : tokenize "quit(1)\n\x01" = .error { character := '\x01', line := 2 } := by
    decide +kernel
  obtain ⟨-, report, hread, -, hok, -⟩ :=
    @printed_reports_are_read_back "main.rad" "quit(1);" (fun _ ↦ .ok "quit(1);") _ given rfl
      (by decide) none
  obtain ⟨-, report', hread', -, -, hlexical, -⟩ :=
    @printed_reports_are_read_back "main.rad" "quit(1)\n\x01" (fun _ ↦ .ok "quit(1)\n\x01") _
      given rfl (by decide) (some "info")
  obtain ⟨found, hfound, -, rfl⟩ := hok _ program
  obtain ⟨rfl, -⟩ := hlexical _ foreign
  rw [reportedTokens_of_ok hfound] at tokens
  rw [tokens] at hread
  exact ⟨hread, hread'⟩

end

end CommandLine

end StatementLang
