import StatementLang.Proofs.Verdict

/-!
# Options Do Not Change the Verdict

Neither the flag for JSON nor the specification of the log has a say in the exit code and in what is
wrong.  The flag may be put wherever an option can stand.

What has been read of a command line can be read on from in three ways only, which `Gives` lists:
after the escape, after the flag for JSON, and after a positional argument.  The flag does not touch
what the other two look at, so that they do the same before it and after it.
-/

namespace StatementLang.CommandLine

section

variable {progress next : Progress} {argument : String}

/-- A flag that can be read on from is the flag for JSON. -/
theorem eq_json_of_giveFlag {flag : Flag} (h : progress.giveFlag flag = .ok next) :
    flag = .json := by
  unfold Progress.giveFlag at h
  cases hsettle : progress.settle with
  | error interruption =>
    rw [hsettle] at h
    cases h
  | ok settled =>
    rw [hsettle] at h
    cases flag with
    | json => rfl
    | help => cases h
    | version => cases h

/-- No short flag can be read on from. -/
theorem giveShort_ne_ok {letter : Char} {letters : List Char} :
    progress.giveShort (letter :: letters) ≠ .ok next := by
  intro h
  unfold Progress.giveShort at h
  split at h
  · rename_i flag hflag
    cases hgive : progress.giveFlag flag with
    | error interruption =>
      rw [hgive] at h
      cases h
    | ok given =>
      obtain rfl := eq_json_of_giveFlag hgive
      have hletter := List.find?_some hflag
      cases hletter
  · cases h

/-- A long flag that can be read on from is the flag for JSON without a value. -/
theorem name_of_giveLong {name : String} {value : Option String}
    (h : progress.giveLong name value = .ok next) : name = "json" ∧ value = none := by
  unfold Progress.giveLong at h
  split at h
  · rename_i flag hflag
    obtain rfl := eq_json_of_giveFlag h
    have hname := List.find?_some hflag
    exact ⟨(beq_iff_eq.mp hname).symm, rfl⟩
  · cases h
  · cases h

/-- An argument with a dash and more that can be read on from is the escape or the flag for JSON. -/
theorem eq_of_give_dash (unescaped : progress.escaped = false) {c : Char} {rest : List Char}
    (hdash : argument.toList = '-' :: c :: rest) (h : progress.give argument = .ok next) :
    argument = "--" ∨ argument = "--json" := by
  rw [Progress.give, unescaped, if_neg Bool.false_ne_true] at h
  split at h
  · rename_i htext
    exact Or.inl (String.toList_injective htext)
  · rename_i long _ htext
    split at h
    · cases (name_of_giveLong h).2
    · have hname := congrArg String.toList (name_of_giveLong h).1
      rw [String.toList_ofList] at hname
      exact Or.inr (String.toList_injective (by rw [htext, hname]; rfl))
  · exact absurd h giveShort_ne_ok
  · rename_i hother
    exact absurd hdash (hother c rest)

theorem give_of_no_dash (h : ∀ c rest, argument.toList ≠ '-' :: c :: rest) :
    progress.give argument = progress.givePositional argument := by
  unfold Progress.give
  split
  · rfl
  · split
    · rename_i htext
      exact absurd htext (h '-' [])
    · rename_i long _ htext
      exact absurd htext (h '-' long)
    · rename_i letter letters _ _ htext
      exact absurd htext (h letter letters)
    · rfl

theorem give_of_escaped (escaped : progress.escaped = true) :
    progress.give argument = progress.givePositional argument := by
  rw [Progress.give, if_pos escaped]

theorem give_escape (unescaped : progress.escaped = false) :
    progress.give "--" = .ok { progress with escaped := true } := by
  rw [Progress.give, unescaped]
  rfl

theorem give_json (unescaped : progress.escaped = false) :
    progress.give "--json" = progress.giveFlag .json := by
  have hlong : progress.giveLong "json" none = progress.giveFlag .json := by
    unfold Progress.giveLong
    cases progress.level <;> rfl
  rw [Progress.give, unescaped, ← hlong]
  rfl

theorem giveFlag_json_eq_ok_iff :
    progress.giveFlag .json = .ok next ↔
      progress.settle = .ok () ∧ progress.json = false ∧ { progress with json := true } = next := by
  unfold Progress.giveFlag
  cases hsettle : progress.settle with
  | error interruption => simp [bind, Except.bind]
  | ok settled =>
    cases hjson : progress.json with
    | true => simp [bind, Except.bind, throw, throwThe, MonadExceptOf.throw]
    | false => simp [bind, Except.bind, pure, Except.pure]

theorem givePositional_eq_ok_iff :
    progress.givePositional argument = .ok next ↔
      progress.positional = none ∧ progress.level.positional?.isSome = true ∧
        { progress with positional := some argument } = next := by
  unfold Progress.givePositional
  split <;> simp_all [Option.isSome_iff_exists]

/-- An argument can be read on from: it is the escape, the flag for JSON, or positional. -/
inductive Gives (progress : Progress) (argument : String) : Progress → Prop where
  | escape (unescaped : progress.escaped = false) (isEscape : argument = "--") :
      Gives progress argument { progress with escaped := true }
  | json (unescaped : progress.escaped = false) (isFlag : argument = "--json")
      (settled : progress.settle = .ok ()) (fresh : progress.json = false) :
      Gives progress argument { progress with json := true }
  | positional
      (stands : progress.escaped = true ∨ ∀ c rest, argument.toList ≠ '-' :: c :: rest)
      (free : progress.positional = none) (place : progress.level.positional?.isSome = true) :
      Gives progress argument { progress with positional := some argument }

theorem give_eq_ok_iff : progress.give argument = .ok next ↔ Gives progress argument next := by
  constructor
  · intro h
    have hpositional (stands : progress.escaped = true ∨
        ∀ c rest, argument.toList ≠ '-' :: c :: rest)
        (hgive : progress.givePositional argument = .ok next) : Gives progress argument next := by
      obtain ⟨free, place, rfl⟩ := givePositional_eq_ok_iff.mp hgive
      exact .positional stands free place
    cases hescaped : progress.escaped with
    | true =>
      rw [give_of_escaped hescaped] at h
      exact hpositional (Or.inl hescaped) h
    | false =>
      by_cases hdash : ∀ c rest, argument.toList ≠ '-' :: c :: rest
      · rw [give_of_no_dash hdash] at h
        exact hpositional (Or.inr hdash) h
      · simp only [not_forall, not_not] at hdash
        obtain ⟨c, rest, hdash⟩ := hdash
        obtain rfl | rfl := eq_of_give_dash hescaped hdash h
        · rw [give_escape hescaped] at h
          obtain rfl := Except.ok.inj h
          exact .escape hescaped rfl
        · rw [give_json hescaped] at h
          obtain ⟨settled, fresh, rfl⟩ := giveFlag_json_eq_ok_iff.mp h
          exact .json hescaped rfl settled fresh
  · intro h
    cases h with
    | escape unescaped isEscape =>
      rw [isEscape]
      exact give_escape unescaped
    | json unescaped isFlag settled fresh =>
      rw [isFlag, give_json unescaped]
      exact giveFlag_json_eq_ok_iff.mpr ⟨settled, fresh, rfl⟩
    | positional stands free place =>
      have hgive : progress.give argument = progress.givePositional argument :=
        stands.elim give_of_escaped give_of_no_dash
      rw [hgive]
      exact givePositional_eq_ok_iff.mpr ⟨free, place, rfl⟩

namespace Gives

theorem json_eq_false (h : Gives progress argument next) (hnext : next.json = false) :
    progress.json = false := by
  cases h with
  | json => cases hnext
  | escape | positional => exact hnext

/-- A positional argument that has been looked at is in order before as well. -/
theorem settle_eq (h : Gives progress argument next) (hnext : next.settle = .ok ()) :
    progress.settle = .ok () := by
  cases h with
  | escape => exact hnext
  | json unescaped isFlag settled => exact settled
  | positional stands free =>
    unfold Progress.settle
    rw [free]

/-- What is no flag does the same after the flag for JSON. -/
theorem withJson (h : Gives progress argument next) (hjson : next.json = false) :
    Gives { progress with json := true } argument { next with json := true } := by
  cases h with
  | json => cases hjson
  | escape unescaped isEscape => exact .escape unescaped isEscape
  | positional stands free place => exact .positional stands free place

end Gives

end

/-! ## All arguments -/

section

variable {progress next : Progress} {argument : String} {arguments : List String}
  {invocation : Invocation}

theorem finish_of_ok (h : progress.finish = .ok invocation) :
    progress.settle = .ok () ∧ invocation.json = progress.json ∧
      Progress.finish { progress with json := true } = .ok { invocation with json := true } := by
  have hsame : Progress.settle { progress with json := true } = progress.settle := rfl
  unfold Progress.finish at h ⊢
  rw [hsame]
  cases hsettle : progress.settle with
  | error interruption =>
    rw [hsettle] at h
    cases h
  | ok settled =>
    rw [hsettle] at h
    simp only [bind, Except.bind] at h ⊢
    refine ⟨trivial, ?_⟩
    split at h <;> cases h <;> exact ⟨rfl, rfl⟩

/-- One argument that is left is read as a subcommand or before all others. -/
theorem readArguments_cons_eq_ok_iff :
    readArguments progress (argument :: arguments) = .ok invocation ↔
      (∃ command inner, progress.subcommand? argument = some command ∧
        readArguments { level := .within command } arguments = .ok inner ∧
        progress.settle = .ok () ∧
        { inner with json := progress.json || inner.json } = invocation) ∨
      ∃ next, progress.subcommand? argument = none ∧ progress.asksForHelp argument = false ∧
        Gives progress argument next ∧ readArguments next arguments = .ok invocation := by
  rw [readArguments]
  cases hcommand : progress.subcommand? argument with
  | some command =>
    cases hinner : readArguments { level := .within command } arguments with
    | error interruption => simp [bind, Except.bind, hinner]
    | ok inner =>
      cases hsettle : progress.settle with
      | error interruption => simp [bind, Except.bind, hinner]
      | ok settled => simp [bind, Except.bind, hinner, pure, Except.pure]
  | none =>
    cases hhelp : progress.asksForHelp argument with
    | true => simp
    | false =>
      simp only [← give_eq_ok_iff]
      cases hgive : progress.give argument with
      | error interruption => simp [bind, Except.bind]
      | ok next => simp [bind, Except.bind]

/-- Arguments that are read leave the positional argument before them in order. -/
theorem settle_of_readArguments (h : readArguments progress arguments = .ok invocation) :
    progress.settle = .ok () := by
  induction arguments generalizing progress with
  | nil => exact (finish_of_ok h).1
  | cons argument arguments ih =>
    obtain ⟨command, inner, -, -, settled, -⟩ | ⟨next, -, -, gives, hnext⟩ :=
      readArguments_cons_eq_ok_iff.mp h
    · exact settled
    · exact gives.settle_eq (ih hnext)

/-- The flag for JSON is not lost on the way. -/
theorem json_of_readArguments (h : readArguments progress arguments = .ok invocation)
    (hjson : invocation.json = false) : progress.json = false := by
  induction arguments generalizing progress with
  | nil => rw [← (finish_of_ok h).2.1, hjson]
  | cons argument arguments ih =>
    obtain ⟨command, inner, -, -, -, rfl⟩ | ⟨next, -, -, gives, hnext⟩ :=
      readArguments_cons_eq_ok_iff.mp h
    · exact (Bool.or_eq_false_iff.mp hjson).1
    · exact gives.json_eq_false (ih hnext)

/-- Arguments without the flag for JSON are read in the same way after it. -/
theorem readArguments_withJson (h : readArguments progress arguments = .ok invocation)
    (hjson : invocation.json = false) :
    readArguments { progress with json := true } arguments =
      .ok { invocation with json := true } := by
  induction arguments generalizing progress with
  | nil => exact (finish_of_ok h).2.2
  | cons argument arguments ih =>
    rw [readArguments_cons_eq_ok_iff] at h ⊢
    obtain ⟨command, inner, hcommand, hinner, settled, rfl⟩ |
      ⟨next, hcommand, hhelp, gives, hnext⟩ := h
    · exact Or.inl ⟨command, inner, hcommand, hinner, settled, rfl⟩
    · have fresh := json_of_readArguments hnext hjson
      exact Or.inr ⟨_, hcommand, hhelp, gives.withJson fresh, ih hnext⟩

/-- The flag for JSON can be put anywhere before the escape, if it is not given already. -/
theorem readArguments_insert_json {before after : List String}
    (h : readArguments progress (before ++ after) = .ok invocation)
    (hjson : invocation.json = false) (unescaped : progress.escaped = false)
    (hposition : "--" ∉ before) :
    readArguments progress (before ++ "--json" :: after) =
      .ok { invocation with json := true } := by
  induction before generalizing progress invocation with
  | nil =>
    have fresh := json_of_readArguments h hjson
    have noCommand : progress.subcommand? "--json" = none :=
      subcommand?_of_not_mem fun _ ↦ by decide
    have noHelp : progress.asksForHelp "--json" = false :=
      asksForHelp_of_not_mem fun _ ↦ by decide
    exact readArguments_cons_eq_ok_iff.mpr (Or.inr ⟨_, noCommand, noHelp,
      .json unescaped rfl (settle_of_readArguments h) fresh, readArguments_withJson h hjson⟩)
  | cons argument before ih =>
    rw [List.mem_cons, not_or] at hposition
    rw [List.cons_append, readArguments_cons_eq_ok_iff] at h ⊢
    obtain ⟨command, inner, hcommand, hinner, settled, rfl⟩ |
      ⟨next, hcommand, hhelp, gives, hnext⟩ := h
    · obtain ⟨hlevel, hinnerJson⟩ := Bool.or_eq_false_iff.mp hjson
      -- The flag stands behind the subcommand and is read with its arguments.
      refine Or.inl ⟨command, _, hcommand, ih hinner hinnerJson rfl hposition.2, settled, ?_⟩
      simp
    · have hescaped : next.escaped = false := by
        cases gives with
        | escape _ isEscape => exact absurd isEscape.symm hposition.1
        | json | positional => exact unescaped
      exact Or.inr ⟨next, hcommand, hhelp, gives, ih hnext hjson hescaped hposition.2⟩

end

section

variable (readText : String → Except FileError String) (json : Bool)

theorem perform_json (task : Task) (path source : String) :
    (task.perform json path source).records = (task.perform false path source).records ∧
      (task.perform json path source).failure = (task.perform false path source).failure := by
  unfold Task.perform
  split
  · exact ⟨rfl, rfl⟩
  · split
    · exact ⟨rfl, rfl⟩
    · dsimp only
      split <;> exact ⟨rfl, rfl⟩

theorem performOn_json (task : Task) (path : String) :
    (task.performOn readText json path).records = (task.performOn readText false path).records ∧
      (task.performOn readText json path).failure =
        (task.performOn readText false path).failure := by
  unfold Task.performOn
  split
  · exact ⟨rfl, rfl⟩
  · rename_i source _
    obtain ⟨hrecords, hfailure⟩ := perform_json json task path source
    exact ⟨congrArg (readingRecord path :: ·) hrecords, hfailure⟩

/-- The answer in JSON and the plain one come with the same records and the same failure. -/
theorem invocation_perform_json (command : Command) :
    (Invocation.perform readText { command, json }).records =
        (Invocation.perform readText { command, json := false }).records ∧
      (Invocation.perform readText { command, json }).failure =
        (Invocation.perform readText { command, json := false }).failure := by
  cases command with
  | version => exact ⟨rfl, rfl⟩
  | check path => exact performOn_json readText json .check path
  | tokens path => exact performOn_json readText json .tokens path
  | ast path => exact performOn_json readText json .ast path
  | parse file =>
    cases file with
    | none => exact ⟨rfl, rfl⟩
    | some path => exact performOn_json readText json .parse path

theorem level_of_mem_performOn {task : Task} {path : String} {record : LogRecord}
    (h : record ∈ (task.performOn readText json path).records) : record.level ≠ .error := by
  unfold Task.performOn at h
  split at h
  · rw [List.mem_singleton.mp h]
    exact LogLevel.noConfusion
  · obtain rfl | hlater := List.mem_cons.mp h
    · exact LogLevel.noConfusion
    · exact Task.level_of_mem_perform hlater

theorem level_of_mem_invocation_perform {invocation : Invocation} {record : LogRecord}
    (h : record ∈ (invocation.perform readText).records) : record.level ≠ .error := by
  obtain ⟨command, json⟩ := invocation
  cases command with
  | version => cases h
  | check | tokens | ast => exact level_of_mem_performOn readText json h
  | parse file =>
    cases file with
    | none => cases h
    | some path => exact level_of_mem_performOn readText json h

end

/-! ## Whole runs -/

section

variable (readText : String → Except FileError String) (log : Option String)

/-- The log goes to the error text alone. -/
theorem code_output_run (arguments : List String) :
    (run readText log arguments).code = (run readText none arguments).code ∧
      (run readText log arguments).output = (run readText none arguments).output := by
  unfold run
  cases Invocation.ofArguments arguments with
  | ok invocation => exact ⟨rfl, rfl⟩
  | error interruption => cases interruption <;> exact ⟨rfl, rfl⟩

/-- The log is all that a specification adds, in front of the error text. -/
theorem errors_run (arguments : List String) :
    ∃ added, (run readText log arguments).errors =
      added ++ (run readText none arguments).errors := by
  cases hread : Invocation.ofArguments arguments with
  | error interruption =>
    have hnone : logText none [] = "" := logText_none (by simp)
    refine ⟨logText log [], ?_⟩
    simp only [run, hread]
    cases interruption <;> simp [Interruption.outcome, hnone]
  | ok invocation =>
    have hnone : logText none (invocation.perform readText).records = "" :=
      logText_none fun _ ↦ level_of_mem_invocation_perform readText
    refine ⟨logText log (invocation.perform readText).records, ?_⟩
    simp only [run, hread, Performance.outcome, hnone, String.empty_append]

/-- One flag for JSON at any place for an option leaves the exit code and the error text of a valid
command line as they are.  A specification of the log changes neither the exit code nor the output
of any command line, and only adds to the front of the error text. -/
theorem presentation_changes_no_verdict :
    (∀ before after invocation, Invocation.ofArguments (before ++ after) = .ok invocation →
      invocation.json = false → "--" ∉ before →
      Invocation.ofArguments (before ++ "--json" :: after) = .ok { invocation with json := true } ∧
      (run readText log (before ++ "--json" :: after)).code =
        (run readText log (before ++ after)).code ∧
      (run readText log (before ++ "--json" :: after)).errors =
        (run readText log (before ++ after)).errors) ∧
    ∀ arguments,
      (run readText log arguments).code = (run readText none arguments).code ∧
      (run readText log arguments).output = (run readText none arguments).output ∧
      ∃ added, (run readText log arguments).errors =
        added ++ (run readText none arguments).errors := by
  constructor
  · intro before after invocation valid hjson hposition
    have hgiven := readArguments_insert_json valid hjson rfl hposition
    obtain ⟨command, json⟩ := invocation
    obtain rfl : json = false := hjson
    obtain ⟨hrecords, hfailure⟩ := invocation_perform_json readText true command
    refine ⟨hgiven, ?_⟩
    have hrun : run readText log (before ++ "--json" :: after) =
        (Invocation.perform readText { command, json := true }).outcome log := by
      rw [run, Invocation.ofArguments, hgiven]
    rw [hrun, run, valid]
    simp only [Performance.outcome, hrecords, hfailure, and_self]
  · intro arguments
    obtain ⟨hcode, houtput⟩ := code_output_run readText log arguments
    exact ⟨hcode, houtput, errors_run readText log arguments⟩

/-- A file with a foreign character, with the flag before the subcommand, behind it and behind the
file, and with a log. -/
theorem presentation_of_foreign_character :
    let readText : String → Except FileError String := fun _ ↦ .ok "quit(1);\n@"
    let outcome := run readText none ["ast", "main.rad"]
    outcome.code = 1 ∧
      (run readText none ["--json", "ast", "main.rad"]).errors = outcome.errors ∧
      (run readText none ["ast", "--json", "main.rad"]).errors = outcome.errors ∧
      (run readText none ["ast", "main.rad", "--json"]).errors = outcome.errors ∧
      (run readText (some "info") ["ast", "main.rad"]).code = 1 := by
  intro readText outcome
  have plain : Invocation.ofArguments ["ast", "main.rad"] =
      .ok { command := .ast "main.rad", json := false } := rfl
  have fails : outcome.code = 1 := by
    decide +kernel
  obtain ⟨hflag, -⟩ := presentation_changes_no_verdict readText none
  obtain ⟨-, hlog⟩ := presentation_changes_no_verdict readText (some "info")
  exact ⟨fails, (hflag [] ["ast", "main.rad"] _ plain rfl (by decide)).2.2,
    (hflag ["ast"] ["main.rad"] _ plain rfl (by decide)).2.2,
    (hflag ["ast", "main.rad"] [] _ plain rfl (by decide)).2.2,
    (hlog ["ast", "main.rad"]).1.trans fails⟩

end

end StatementLang.CommandLine
