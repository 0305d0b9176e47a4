import StatementLang.CommandLine.Run

/-!
# Arguments That Give a File

A path is taken as the file of a task when it is the last argument, unless it looks like a flag or,
without a subcommand before it, names one.
-/

namespace StatementLang.CommandLine

def Task.command (task : Task) (path : String) : Command :=
  match task with
  | .parse => .parse (some path)
  | .check => .check path
  | .tokens => .tokens path
  | .ast => .ast path

def Task.level : Task → Level
  | parse => .top
  | check => .within .check
  | tokens => .within .tokens
  | ast => .within .ast

def Level.words : Level → List String
  | top => []
  | within command => [command.name]

/-- An argument without a dash in front is a positional one. -/
theorem give_of_file {progress : Progress} {path : String} (hdash : path.toList.head? ≠ some '-') :
    progress.give path = progress.givePositional path := by
  unfold Progress.give
  split
  · rfl
  · split <;> simp_all

theorem subcommand?_of_not_mem {progress : Progress} {argument : String}
    (h : progress.level = .top → argument ∉ subcommandNames) :
    progress.subcommand? argument = none := by
  unfold Progress.subcommand?
  split
  · rename_i htop
    have hname := h htop.1
    rw [Subcommand.ofName?, List.find?_eq_none]
    intro command hmem hsame
    apply hname
    rw [← beq_iff_eq.mp hsame]
    exact List.mem_append_left _ (List.mem_map_of_mem hmem)
  · rfl

theorem asksForHelp_of_not_mem {progress : Progress} {argument : String}
    (h : progress.level = .top → argument ∉ subcommandNames) :
    progress.asksForHelp argument = false := by
  rw [← Bool.not_eq_true]
  intro hasks
  simp only [Progress.asksForHelp, Bool.and_eq_true, beq_iff_eq] at hasks
  obtain ⟨⟨htop, -⟩, rfl⟩ := hasks
  exact h htop (by decide)

theorem readArguments_of_subcommand {command : Subcommand} {arguments : List String}
    {invocation : Invocation} (json : Bool)
    (h : readArguments { level := .within command } arguments = .ok invocation) :
    readArguments { level := .top, json } (command.name :: arguments) =
      .ok { invocation with json := json || invocation.json } := by
  have hcommand : Progress.subcommand? { level := .top, json } command.name = some command := by
    cases command <;> rfl
  rw [readArguments, hcommand]
  simp only [h]
  rfl

theorem settle_of_file {progress : Progress} {path : String} (hpath : path ≠ "")
    (h : progress.positional = some path) : progress.settle = .ok () := by
  unfold Progress.settle
  split <;> simp_all

section

variable {path : String} (hpath : path ≠ "") (hdash : path.toList.head? ≠ some '-')

include hpath hdash

/-- The file is the last argument of its level. -/
theorem readArguments_of_file (task : Task) (json : Bool)
    (hname : task.level = .top → path ∉ subcommandNames) :
    readArguments { level := task.level, json } [path] =
      .ok { command := task.command path, json } := by
  have hhelp : Progress.asksForHelp { level := task.level, json } path = false :=
    asksForHelp_of_not_mem hname
  have hgive : Progress.give { level := task.level, json } path =
      .ok { level := task.level, json, positional := some path } := by
    rw [give_of_file hdash]
    cases task <;> rfl
  have hfinish : Progress.finish { level := task.level, json, positional := some path } =
      .ok { command := task.command path, json } := by
    rw [Progress.finish, settle_of_file hpath rfl]
    cases task <;> rfl
  rw [readArguments, subcommand?_of_not_mem hname]
  simp only [hhelp, hgive]
  exact hfinish

/-- A file is given by its path alone, unless that looks like a flag or names a subcommand. -/
theorem ofArguments_of_file (task : Task) (json : Bool) (hname : path ∉ subcommandNames) :
    Invocation.ofArguments ((if json then ["--json"] else []) ++ (task.level.words ++ [path])) =
      .ok { command := task.command path, json } := by
  have hflag (arguments : List String) :
      Invocation.ofArguments ((if json then ["--json"] else []) ++ arguments) =
        readArguments { level := .top, json } arguments := by
    cases json <;> rfl
  rw [hflag]
  cases hlevel : task.level with
  | top =>
    have hfile := readArguments_of_file hpath hdash task json fun _ ↦ hname
    rwa [hlevel] at hfile
  | within command =>
    have hfile := readArguments_of_file hpath hdash task false (by simp [hlevel])
    rw [hlevel] at hfile
    have hread := readArguments_of_subcommand json hfile
    rwa [Bool.or_false] at hread

end

end StatementLang.CommandLine
