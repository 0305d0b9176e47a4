import StatementLang.CommandLine.Level
import StatementLang.Text.Plain

/-!
# Misuse of the Command Line

A command line that cannot be read is answered with what is wrong, advice if there is any, and how
the command is used.  Arguments are quoted in their plain form.
-/

namespace StatementLang.CommandLine

inductive Complaint where
  | unexpectedArgument (argument : String)
  | unexpectedValue (value : String) (flag : Flag)
  | repeatedFlag (flag : Flag)
  | emptyValue (positional : String)
  | missingPositional (positional : String)
  | unknownSubcommand (name : String)
deriving DecidableEq, Repr

def Complaint.message : Complaint → String
  | unexpectedArgument argument => "unexpected argument '" ++ Text.plain argument ++ "' found"
  | unexpectedValue value flag =>
    "unexpected value '" ++ Text.plain value ++ "' for '--" ++ flag.name ++
      "' found; no more were expected"
  | repeatedFlag flag => "the argument '--" ++ flag.name ++ "' cannot be used multiple times"
  | emptyValue positional =>
    "a value is required for '" ++ positional ++ "' but none was supplied"
  | missingPositional positional =>
    "the following required arguments were not provided:\n  " ++ positional
  | unknownSubcommand name => "unrecognized subcommand '" ++ Text.plain name ++ "'"

/-- How a command line might be meant. -/
inductive Advice where
  | passAsValue (argument : String)
  | similarFlag (flag : Flag)
  | similarSubcommands (names : List String)
  | leaveOutEscape (name : String)
deriving DecidableEq, Repr

def Advice.message : Advice → String
  | passAsValue argument =>
    let shown := Text.plain argument
    "to pass '" ++ shown ++ "' as a value, use '-- " ++ shown ++ "'"
  | similarFlag flag => "a similar argument exists: '--" ++ flag.name ++ "'"
  | similarSubcommands [name] => "a similar subcommand exists: '" ++ name ++ "'"
  | similarSubcommands names =>
    "some similar subcommands exist: " ++
      String.intercalate ", " (names.map fun name ↦ "'" ++ name ++ "'")
  | leaveOutEscape name =>
    "subcommand '" ++ name ++ "' exists; to use it, remove the '--' before it"

/-- A command line that cannot be read. -/
structure Misuse where
  complaint : Complaint
  advice : Option Advice := none
  usage : Option String := none
  /-- Whether there is help to refer to. -/
  hasHelp : Bool := true
deriving DecidableEq, Repr

def Misuse.text (misuse : Misuse) : String :=
  let advice := (misuse.advice.map fun advice ↦ "\n\n  tip: " ++ advice.message).getD ""
  let usage := (misuse.usage.map fun usage ↦ "\n\nUsage: " ++ usage).getD ""
  let reference := if misuse.hasHelp then "\n\nFor more information, try '--help'.\n" else "\n"
  "error: " ++ misuse.complaint.message ++ advice ++ usage ++ reference

end StatementLang.CommandLine
