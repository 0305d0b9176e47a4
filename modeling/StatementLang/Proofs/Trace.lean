import StatementLang.Log.Trace
import StatementLang.Proofs.Session
import StatementLang.Proofs.ViablePrefix

/-!
# What the Trace Tells

The trace of reading a source text lists the tokens before its first foreign character and the
statements before the one that cannot be built.  A stage that comes to its end adds one record.
-/

namespace StatementLang

/-- What is written of the tokens of a text is what the limit keeps of its scan. -/
theorem lexingRecords_eq_filter (limit : LogLimit) (source : String) :
    lexingRecords limit source =
      ((Scanner.ofSource source).scan.trace 0).filter fun record ↦ limit.keeps record.level := by
  rw [lexingRecords, Scanner.scan_logged]

/-- What is written of the statements of a program is what the limit keeps of its run. -/
theorem parsingRecords_eq_filter (limit : LogLimit) (tokens : List Token) :
    parsingRecords limit tokens =
      ((Cursor.ofTokens tokens).run.trace 0).filter fun record ↦ limit.keeps record.level := by
  rw [parsingRecords, Cursor.run_logged]

theorem filter_keeps_trace (records : List LogRecord) :
    (records.filter fun record ↦ LogLimit.keeps (some .trace) record.level) = records := by
  rw [List.filter_eq_self]
  intro record _
  cases hlevel : record.level <;> rfl

theorem lexingRecords_trace (source : String) :
    lexingRecords (some .trace) source = (Scanner.ofSource source).scan.trace 0 := by
  rw [lexingRecords_eq_filter, filter_keeps_trace]

theorem parsingRecords_trace (tokens : List Token) :
    parsingRecords (some .trace) tokens = (Cursor.ofTokens tokens).run.trace 0 := by
  rw [parsingRecords_eq_filter, filter_keeps_trace]

/-- A limit on the whole trace is a limit on what each stage writes. -/
theorem keptRecords_eq_filter (limit : LogLimit) (source : String) :
    keptRecords limit source =
      (keptRecords (some .trace) source).filter fun record ↦ limit.keeps record.level := by
  simp only [keptRecords, List.filter_append, lexingRecords_trace,
    ← lexingRecords_eq_filter limit source]
  congr 1
  cases tokenize source with
  | error error => rfl
  | ok tokens => simp only [parsingRecords_trace, parsingRecords_eq_filter limit tokens]

/-- Cutting a text into tokens leaves a record for each token before the first foreign character,
and one more if there is no such character. -/
theorem lexingRecords_outcome (source : String) :
    ∃ read, tokenize (String.ofList (readablePart source.toList)) = .ok read ∧
      (tokenize source = .ok read ∧
          lexingRecords (some .trace) source =
            read.map Token.record ++ [tokensRecord read.length (1 + source.toList.count '\n')] ∨
        ∃ error, tokenize source = .error error ∧
          lexingRecords (some .trace) source = read.map Token.record) := by
  rw [lexingRecords_trace]
  obtain ⟨stream, hread, herror, hstands⟩ := exists_standsAt_start source
  have htokens : (Scanner.ofSource source).scan.tokens = stream.tokens := hstands.tokens
  have hlast := hstands.error
  refine ⟨stream.tokens, hread, ?_⟩
  cases hstream : stream.error with
  | none =>
    have htokenize : tokenize source = .ok stream.tokens := by
      simp only [tokenize, Scanner.tokenize, hlast, hstream, htokens]
    have hscan := Scanner.scan_of_lexes (tokenize_eq_ok_iff_lexes.mp htokenize) 0
    refine Or.inl ⟨htokenize, ?_⟩
    simp only [Scanner.ofSource, hscan, Scan.trace, Nat.zero_add]
  | some error =>
    refine Or.inr ⟨error, (herror error).mp hstream, ?_⟩
    simp only [Scan.trace, hlast, hstream, htokens, List.append_nil]

/-- Why the statement behind the first `start` tokens cannot be built, and where building stops. -/
inductive FailsFrom (tokens : List Token) (start : Nat) : Nat → Fault → Prop where
  /-- No statement starts with the token there. -/
  | headless {found : Token} (atStart : tokens[start]? = some found)
      (noKeyword : found.kind.isKeyword = false) :
      FailsFrom tokens start start (.unexpected found.kind)
  /-- The statement ends the program, and a token stands behind it. -/
  | followed {group later : List Token} {statement : Statement} {found : Token}
      (split : tokens.drop start = group ++ found :: later) (derived : Derives group statement)
      (ends : statement.keyword = .quit) :
      FailsFrom tokens start (start + group.length) (.unreachable found.kind)
  /-- The statement lacks something that its keyword requires. -/
  | unfinished {head : Token} {keyword : Keyword} {part later : List Token} {fault : Fault}
      (split : tokens.drop start = head :: (part ++ later)) (begun : head.kind = .keyword keyword)
      (departs : Departs keyword.expectations part later fault) :
      FailsFrom tokens start (start + (head :: part).length) fault

/-- A token is unreachable behind the five tokens of the statement that ends the program. -/
theorem FailsFrom.stop_eq {tokens : List Token} {start stop : Nat} {kind : Kind}
    (h : FailsFrom tokens start stop (.unreachable kind)) : stop = start + 5 := by
  generalize hfault : Fault.unreachable kind = fault at h
  cases h with
  | headless => cases hfault
  | followed _ derived _ => rw [derived.length_eq]
  | @unfinished _ keyword _ _ _ _ _ departs =>
    subst hfault
    obtain ⟨kind, hmem⟩ := departs.exists_mem
    cases keyword <;>
      simp [Keyword.expectations, callExpectations, declarationExpectations] at hmem

/-- A step that is rejected behind some tokens fails from there. -/
theorem failsFrom_of_step {read later : List Token} {rejection : Rejection} {after : Cursor}
    (step : Step read.reverse later (.error rejection) after) :
    FailsFrom (read ++ later) read.length after.position rejection.fault := by
  have hposition (group rest : List Token) :
      Cursor.position { passed := group.reverse ++ read.reverse, rest } =
        read.length + group.length := by
    rw [Cursor.position, List.length_append, List.length_reverse, List.length_reverse,
      Nat.add_comm]
  cases step with
  | @unexpected found rest noKeyword =>
    rw [Cursor.position, List.length_reverse]
    refine .headless ?_ noKeyword
    rw [List.getElem?_append_right (Nat.le_refl _), Nat.sub_self]
    rfl
  | unreachable derived ended =>
    rw [hposition]
    exact .followed List.drop_left derived ended
  | @departed head keyword part rest fault after begun departs place =>
    have hpassed : part.reverse ++ head :: read.reverse =
        (head :: part).reverse ++ read.reverse := by
      rw [List.reverse_cons, List.append_assoc, List.singleton_append]
    rw [place, hpassed, hposition]
    exact .unfinished List.drop_left begun departs

section

variable {tokens : List Token} {statements : List Statement} {rejection : Rejection}

/-- A program leaves a record for each of its statements and one for itself. -/
theorem parsingRecords_of_ok (accepted : parse tokens = .ok statements) :
    parsingRecords (some .trace) tokens =
      statements.map Statement.record ++ [statementsRecord statements.length] := by
  have hrun := Cursor.run_of_derivesProgram (parse_eq_ok_iff.mp accepted) []
  rw [parsingRecords_trace, Cursor.ofTokens, hrun, Parse.trace, Nat.zero_add]

/-- Tokens that are no program leave a record for each statement before the one that cannot be
built. -/
theorem parsingRecords_of_error (failed : parse tokens = .error rejection) :
    ∃ start completed, parse (tokens.take start) = .ok completed ∧ ¬ Ended completed ∧
      FailsFrom tokens start (Cursor.parse (.ofTokens tokens)).2.position rejection.fault ∧
      parsingRecords (some .trace) tokens = completed.map Statement.record := by
  obtain ⟨read, later, completed, after, rfl, derivation, continues, step, hafter⟩ :=
    exists_step_of_parse_error failed
  have hstep : Step (read.reverse ++ []) later (.error rejection) after := by
    rwa [List.append_nil]
  have hrun := Cursor.run_of_stopped derivation continues hstep
  refine ⟨read.length, completed, ?_, continues.not_ended, ?_, ?_⟩
  · rw [List.take_left]
    exact parse_eq_ok_iff.mpr derivation
  · rw [hafter]
    exact failsFrom_of_step step
  · rw [parsingRecords_trace, Cursor.ofTokens, hrun]
    exact List.append_nil _

end

theorem keptRecords_of_error {limit : LogLimit} {source : String} {error : LexicalError}
    (h : tokenize source = .error error) :
    keptRecords limit source = lexingRecords limit source := by
  rw [keptRecords, h, List.append_nil]

theorem keptRecords_of_ok {limit : LogLimit} {source : String} {tokens : List Token}
    (h : tokenize source = .ok tokens) :
    keptRecords limit source = lexingRecords limit source ++ parsingRecords limit tokens := by
  rw [keptRecords, h]

/-- A limit keeps the records of the trace at its levels.  The trace tells the kind and the line of
each token before the first foreign character and, if there is none, how many tokens and lines there
are; then the keyword and the line of each statement of a program and how many they are or, if the
tokens are no program, the statements before the one that cannot be built. -/
theorem trace_tells_what_was_read (source : String) :
    let tokenRecord (token : Token) : LogRecord :=
      { level := .trace
        target := "radium::frontend::lexer"
        message := "token " ++ token.kind.title ++ " on line " ++ toString token.line }
    let lexedRecord (tokenCount lineCount : Nat) : LogRecord :=
      { level := .debug
        target := "radium::frontend::lexer"
        message :=
          "lexed " ++ toString tokenCount ++ " tokens over " ++ toString lineCount ++ " lines" }
    let statementRecord (statement : Statement) : LogRecord :=
      { level := .trace
        target := "radium::frontend::parser"
        message :=
          "parsed " ++ statement.keyword.text ++ " statement on line " ++ toString statement.line }
    let parsedRecord (statementCount : Nat) : LogRecord :=
      { level := .debug
        target := "radium::frontend::parser"
        message := "parsed " ++ toString statementCount ++ " statements" }
    (∀ limit : LogLimit, keptRecords limit source =
      (keptRecords (some .trace) source).filter fun record ↦
        limit.any fun least ↦ decide (record.level.rank ≤ least.rank)) ∧
    ∃ read, tokenize (String.ofList (readablePart source.toList)) = .ok read ∧
      (∀ error, tokenize source = .error error →
        keptRecords (some .trace) source = read.map tokenRecord) ∧
      ∀ tokens, tokenize source = .ok tokens →
        let lexed :=
          tokens.map tokenRecord ++ [lexedRecord tokens.length (1 + source.toList.count '\n')]
        tokens = read ∧
        (∀ statements, parse tokens = .ok statements →
          keptRecords (some .trace) source =
            lexed ++ (statements.map statementRecord ++ [parsedRecord statements.length])) ∧
        ∀ rejection, parse tokens = .error rejection →
          ∃ start completed, parse (tokens.take start) = .ok completed ∧ ¬ Ended completed ∧
            FailsFrom tokens start (Cursor.parse (.ofTokens tokens)).2.position rejection.fault ∧
            keptRecords (some .trace) source = lexed ++ completed.map statementRecord := by
  refine ⟨fun limit ↦ ?_, ?_⟩
  · rw [keptRecords_eq_filter]
    cases limit <;> rfl
  obtain ⟨read, hread, ⟨htokenize, hrecords⟩ | ⟨error, herror, hrecords⟩⟩ :=
    lexingRecords_outcome source
  · refine ⟨read, hread, fun error herror ↦ ?_, fun tokens htokens ↦ ?_⟩
    · cases htokenize.symm.trans herror
    obtain rfl := Except.ok.inj (htokenize.symm.trans htokens)
    rw [keptRecords_of_ok htokenize, hrecords]
    refine ⟨rfl, fun statements accepted ↦ ?_, fun rejection failed ↦ ?_⟩
    · rw [parsingRecords_of_ok accepted]
      rfl
    · obtain ⟨start, completed, accepted, continues, fails, hcompleted⟩ :=
        parsingRecords_of_error failed
      refine ⟨start, completed, accepted, continues, fails, ?_⟩
      rw [hcompleted]
      rfl
  · refine ⟨read, hread, fun _ _ ↦ ?_, fun tokens htokens ↦ ?_⟩
    · rw [keptRecords_of_error herror, hrecords]
      rfl
    · cases herror.symm.trans htokens

/-- The call that ends a program is not recorded if a token follows it, and a foreign character
leaves only the tokens before it. -/
theorem trace_of_token_behind_quit :
    let source := "let a = 1;\nquit(2);\nlog"
    let tokens : List Token :=
      [⟨.keyword .letBinder, 1, none⟩, ⟨.identifier, 1, some "a"⟩, ⟨.equal, 1, none⟩,
        ⟨.integer, 1, some "1"⟩, ⟨.semicolon, 1, none⟩, ⟨.keyword .quit, 2, none⟩,
        ⟨.openParen, 2, none⟩, ⟨.integer, 2, some "2"⟩, ⟨.closeParen, 2, none⟩,
        ⟨.semicolon, 2, none⟩, ⟨.keyword .log, 3, none⟩]
    let lexing (level : LogLevel) (message : String) : LogRecord :=
      { level, target := "radium::frontend::lexer", message }
    let parsing (level : LogLevel) (message : String) : LogRecord :=
      { level, target := "radium::frontend::parser", message }
    tokenize source = .ok tokens ∧
      FailsFrom tokens 5 10 (.unreachable (.keyword .log)) ∧
      keptRecords (some .trace) source =
        [lexing .trace "token Let on line 1", lexing .trace "token AlphaNumeric on line 1",
          lexing .trace "token Equal on line 1", lexing .trace "token IntLiteral on line 1",
          lexing .trace "token SemiColon on line 1", lexing .trace "token Quit on line 2",
          lexing .trace "token OpenParen on line 2", lexing .trace "token IntLiteral on line 2",
          lexing .trace "token CloseParen on line 2", lexing .trace "token SemiColon on line 2",
          lexing .trace "token Log on line 3", lexing .debug "lexed 11 tokens over 3 lines",
          parsing .trace "parsed let statement on line 1"] ∧
      keptRecords (some .debug) source = [lexing .debug "lexed 11 tokens over 3 lines"] ∧
      keptRecords (some .info) source = [] ∧
      keptRecords (some .trace) "const é" = [lexing .trace "token Const on line 1"] ∧
      keptRecords (some .debug) "log(7);\n" =
        [lexing .debug "lexed 5 tokens over 2 lines", parsing .debug "parsed 1 statements"] := by
  intro source tokens lexing parsing
  have htokens : tokenize source = .ok tokens := by decide +kernel
  have failed : parse tokens = .error { fault := .unreachable (.keyword .log), line := 3 } := by
    decide +kernel
  have hstopped : (Cursor.parse (.ofTokens tokens)).2.position = 10 := by decide +kernel
  obtain ⟨hlimit, _, -, -, htrace⟩ := trace_tells_what_was_read source
  obtain ⟨-, -, hfailed⟩ := htrace tokens htokens
  obtain ⟨start, completed, accepted, -, fails, hkept⟩ := hfailed _ failed
  rw [hstopped] at fails
  -- The call that cannot be built stands behind the first five tokens.
  obtain rfl : start = 5 := by
    have hstop := fails.stop_eq
    omega
  obtain rfl : completed =
      [.declaration ⟨.identifier, 1, some "a"⟩ ⟨.integer, 1, some "1"⟩ false 1] :=
    Except.ok.inj (accepted.symm.trans (by decide +kernel))
  have foreign : tokenize "const é" = .error { character := 'é', line := 1 } := by decide +kernel
  obtain ⟨-, read, hread, hrecords, -⟩ := trace_tells_what_was_read "const é"
  obtain rfl : read = [⟨.keyword .constBinder, 1, none⟩] :=
    Except.ok.inj (hread.symm.trans (by decide +kernel))
  have program : tokenize "log(7);\n" =
      .ok [⟨.keyword .log, 1, none⟩, ⟨.openParen, 1, none⟩, ⟨.integer, 1, some "7"⟩,
        ⟨.closeParen, 1, none⟩, ⟨.semicolon, 1, none⟩] := by
    decide +kernel
  obtain ⟨hlimit', _, -, -, htrace'⟩ := trace_tells_what_was_read "log(7);\n"
  obtain ⟨-, hprogram, -⟩ := htrace' _ program
  have hkept' := hprogram [.log ⟨.integer, 1, some "7"⟩ 1] (by decide +kernel)
  refine ⟨htokens, fails, ?_, ?_, ?_, ?_, ?_⟩
  · rw [hkept]
    decide +kernel
  · rw [hlimit, hkept]
    decide +kernel
  · rw [hlimit, hkept]
    decide +kernel
  · rw [hrecords _ foreign]
    decide +kernel
  · rw [hlimit', hkept']
    decide +kernel

end StatementLang
