import StatementLang.Proofs.Arguments
import StatementLang.Proofs.Trace

/-!
# The Verdict of the Command Line

Whatever is done with a file, the exit code and the error text say what reading its content as a
source text comes to, and nothing else is printed about a file that is no program.
-/

namespace StatementLang.CommandLine

theorem limitOf_plain (target : String) : LogFilter.plain.limitOf target = some .error := by
  simp [LogFilter.limitOf, LogFilter.plain, LogDirective.applies]

/-- Without a specification no record below an error is kept. -/
theorem logText_none {records : List LogRecord} (h : ∀ record ∈ records, record.level ≠ .error) :
    logText none records = "" := by
  have hdropped : ∀ record ∈ records, ¬ LogFilter.plain.keeps record = true := by
    intro record hmem hkept
    rw [LogFilter.keeps, limitOf_plain, Bool.and_eq_true] at hkept
    have herror := h record hmem
    cases hlevel : record.level <;> simp_all [LogLimit.keeps, LogLevel.rank]
  rw [logText, List.filter_eq_nil_iff.mpr hdropped]
  rfl

theorem level_of_mem_lexingRecords {limit : LogLimit} {source : String} {record : LogRecord}
    (h : record ∈ lexingRecords limit source) : record.level ≠ .error := by
  rw [lexingRecords_eq_filter, List.mem_filter] at h
  obtain htoken | hend := List.mem_append.mp h.1
  · obtain ⟨token, -, rfl⟩ := List.mem_map.mp htoken
    exact LogLevel.noConfusion
  · split at hend
    · rw [List.mem_singleton.mp hend]
      exact LogLevel.noConfusion
    · cases hend

theorem level_of_mem_parsingRecords {limit : LogLimit} {tokens : List Token} {record : LogRecord}
    (h : record ∈ parsingRecords limit tokens) : record.level ≠ .error := by
  rw [parsingRecords_eq_filter, List.mem_filter] at h
  obtain hstatement | hend := List.mem_append.mp h.1
  · obtain ⟨statement, -, rfl⟩ := List.mem_map.mp hstatement
    exact LogLevel.noConfusion
  · split at hend
    · rw [List.mem_singleton.mp hend]
      exact LogLevel.noConfusion
    · cases hend

/-- The number of tokens that a report on a failure tells: those of a text that was cut to its
end. -/
def reportedTokens (source : String) : Nat :=
  match tokenize source with
  | .ok tokens => tokens.length
  | .error _ => 0

namespace Task

/-- A source text passes the stages that a task goes through: all of them, or only the first one for
a list of tokens. -/
def Accepts (task : Task) (source : String) : Prop :=
  match task with
  | .tokens => ∃ tokens, tokenize source = .ok tokens
  | .parse | .check | .ast => ∃ statements, parseSource source = .ok statements

variable {task : Task} {json : Bool} {path source : String}

theorem accepts_iff_of_ne_tokens (h : task ≠ .tokens) :
    task.Accepts source ↔ ∃ statements, parseSource source = .ok statements := by
  cases task with
  | tokens => exact absurd rfl h
  | parse | check | ast => exact Iff.rfl

theorem not_accepts_of_lexical {error : LexicalError} (h : tokenize source = .error error) :
    ¬ task.Accepts source := by
  by_cases htask : task = .tokens
  · subst htask
    rintro ⟨tokens, htokens⟩
    cases h.symm.trans htokens
  · rw [accepts_iff_of_ne_tokens htask]
    rintro ⟨statements, hstatements⟩
    cases (parseSource_eq_lexical_iff.mpr h).symm.trans hstatements

/-- Carrying out a task fails with the failure of the source text, if a stage that the task goes
through does. -/
theorem perform_cases (task : Task) (json : Bool) (path source : String) :
    (task.Accepts source ∧ (task.perform json path source).failure = none) ∨
      (¬ task.Accepts source ∧ ∃ failure records, parseSource source = .error failure ∧
        task.perform json path source =
          failed json path failure (reportedTokens source) records) := by
  cases htokens : tokenize source with
  | error error =>
    refine Or.inr ⟨not_accepts_of_lexical htokens, .lexical error,
      lexingRecords (some .trace) source, parseSource_eq_lexical_iff.mpr htokens, ?_⟩
    simp only [perform, reportedTokens, htokens]
  | ok found =>
    by_cases htask : task = .tokens
    · subst htask
      refine Or.inl ⟨⟨found, htokens⟩, ?_⟩
      simp only [perform, htokens, if_true]
    · rw [accepts_iff_of_ne_tokens htask]
      cases hparse : StatementLang.parse found with
      | error rejection =>
        have hfailure : parseSource source = .error (.ofRejection rejection) := by
          simp only [parseSource, htokens, hparse, Except.mapError]
        refine Or.inr ⟨?_, .ofRejection rejection,
          lexingRecords (some .trace) source ++ parsingRecords (some .trace) found, hfailure, ?_⟩
        · rintro ⟨statements, hstatements⟩
          cases hfailure.symm.trans hstatements
        · simp only [perform, reportedTokens, htokens, hparse, if_neg htask]
      | ok statements =>
        refine Or.inl ⟨⟨statements, parseSource_eq_ok_iff.mpr ⟨found, htokens, hparse⟩⟩, ?_⟩
        simp only [perform, htokens, hparse, if_neg htask]

theorem level_of_mem_perform {record : LogRecord}
    (h : record ∈ (task.perform json path source).records) : record.level ≠ .error := by
  unfold perform at h
  split at h
  · exact level_of_mem_lexingRecords h
  · split at h
    · exact level_of_mem_lexingRecords h
    · have hmem {tokens : List Token} (h : record ∈ lexingRecords (some .trace) source ++
          parsingRecords (some .trace) tokens) : record.level ≠ .error :=
        (List.mem_append.mp h).elim level_of_mem_lexingRecords level_of_mem_parsingRecords
      dsimp only at h
      split at h
      · exact hmem h
      · exact hmem h

end Task

section

variable {arguments : List String} {task : Task} {path : String} {json : Bool}

theorem run_of_given (readText : String → Except FileError String) (log : Option String)
    (given : Invocation.ofArguments arguments = .ok { command := task.command path, json }) :
    run readText log arguments = (task.performOn readText json path).outcome log := by
  rw [run, given]
  cases task <;> rfl

theorem performOn_of_readable {readText : String → Except FileError String} {source : String}
    (h : readText path = .ok source) :
    task.performOn readText json path =
      { task.perform json path source with
        records := readingRecord path :: (task.perform json path source).records } := by
  rw [Task.performOn, h]

theorem output_run_of_readable {readText : String → Except FileError String} {source : String}
    (log : Option String)
    (given : Invocation.ofArguments arguments = .ok { command := task.command path, json })
    (hread : readText path = .ok source) :
    (run readText log arguments).output = (task.perform json path source).output := by
  rw [run_of_given readText log given, performOn_of_readable hread]
  rfl

/-- Whatever the command, a run on a file with a readable content succeeds exactly if the stages it
goes through accept the content.  Else the error text is the failure of the content as a source
text, behind the log records that are kept, and the output is one report in JSON or nothing.  A file
that is not readable as text fails without a report. -/
theorem run_verdict (task : Task) (path : String) (json : Bool)
    (given : Invocation.ofArguments arguments = .ok { command := task.command path, json })
    (readText : String → Except FileError String) (log : Option String) :
    (∀ source, readText path = .ok source →
      ((run readText log arguments).code = 0 ↔ task.Accepts source) ∧
      (¬ task.Accepts source → ∃ failure, parseSource source = .error failure ∧
        (run readText log arguments).code = 1 ∧
        (run readText log arguments).errors =
          logText log (task.performOn readText json path).records ++
            ("Error: " ++ failure.message ++ "\n") ∧
        (run readText none arguments).errors = "Error: " ++ failure.message ++ "\n" ∧
        (run readText log arguments).output =
          if json then
            (Report.ofFailure path failure (reportedTokens source)).document.toPrettyString ++ "\n"
          else "")) ∧
    (∀ reason, readText path = .error reason →
      (run readText log arguments).code = 1 ∧ (run readText log arguments).output = "") := by
  rw [run_of_given readText log given, run_of_given readText none given]
  constructor
  · intro source hread
    rw [performOn_of_readable hread]
    obtain ⟨haccepts, hnone⟩ | ⟨hrejects, failure, records, hfailure, hperform⟩ :=
      task.perform_cases json path source
    · refine ⟨iff_of_true ?_ haccepts, fun hrejects ↦ absurd haccepts hrejects⟩
      simp only [Performance.outcome, hnone]
      rfl
    · have hlevels : ∀ record ∈ readingRecord path :: records, record.level ≠ .error := by
        intro record hmem
        obtain rfl | hlater := List.mem_cons.mp hmem
        · exact LogLevel.noConfusion
        · have hrecord : record ∈ (task.perform json path source).records := by
            rwa [hperform]
          exact Task.level_of_mem_perform hrecord
      rw [hperform]
      refine ⟨iff_of_false (by simp [Performance.outcome, failed]) hrejects, fun _ ↦
        ⟨failure, hfailure, rfl, rfl, ?_, rfl⟩⟩
      simp only [Performance.outcome, failed, logText_none hlevels, String.empty_append,
        Option.map_some, Option.getD_some]
  · intro reason hread
    rw [Task.performOn, hread]
    exact ⟨rfl, rfl⟩

/-- A list of tokens of a text with a foreign character, a program that is checked, and a missing
file. -/
theorem run_verdict_of_three_files :
    (∃ failure, parseSource "quit(1);\n@" = .error failure ∧
      (run (fun _ ↦ .ok "quit(1);\n@") none ["--json", "tokens", "main.rad"]).errors =
        "Error: " ++ failure.message ++ "\n") ∧
    (run (fun _ ↦ .ok "quit(1);") (some "info") ["check", "main.rad"]).code = 0 ∧
    (run (fun _ ↦ .error .missing) none ["ast", "main.rad", "--json"]).output = "" := by
  have listing : Invocation.ofArguments ["--json", "tokens", "main.rad"] =
      .ok { command := Task.tokens.command "main.rad", json := true } :=
    ofArguments_of_file (by decide) (by decide) .tokens true (by decide)
  have checking : Invocation.ofArguments ["check", "main.rad"] =
      .ok { command := Task.check.command "main.rad", json := false } :=
    ofArguments_of_file (by decide) (by decide) .check false (by decide)
  have showing : Invocation.ofArguments ["ast", "main.rad", "--json"] =
      .ok { command := Task.ast.command "main.rad", json := true } := rfl
  have foreign : tokenize "quit(1);\n@" = .error { character := '@', line := 2 } := by
    decide +kernel
  have program : parseSource "quit(1);" = .ok [.quit (.ofDigits "1" 1) 1] := by
    decide +kernel
  have rejected := (run_verdict .tokens "main.rad" true listing
    (fun _ ↦ .ok "quit(1);\n@") none).1 _ rfl
  obtain ⟨failure, hfailure, -, -, herrors, -⟩ := rejected.2 (Task.not_accepts_of_lexical foreign)
  have accepted := (run_verdict .check "main.rad" false checking
    (fun _ ↦ .ok "quit(1);") (some "info")).1 _ rfl
  have unread := (run_verdict .ast "main.rad" true showing (fun _ ↦ .error .missing) none).2 _ rfl
  exact ⟨⟨failure, hfailure, herrors⟩, accepted.1.mpr ⟨_, program⟩, unread.2⟩

end

end StatementLang.CommandLine
