import StatementLang.CommandLine.Misuse
import StatementLang.Text.Similarity

/-!
# Reading the Command Line

Arguments are read from left to right.  A flag acts at once, a subcommand takes all arguments after
it, and after an escape every argument is positional.  A positional argument is only looked at when
a flag follows it or when the arguments of its level end, so that other faults come before an empty
one.
-/

namespace StatementLang.CommandLine

inductive Command where
  /-- Without a subcommand a file is parsed, and it may be left out. -/
  | parse (file : Option String)
  | check (file : String)
  | tokens (file : String)
  | ast (file : String)
  | version
deriving DecidableEq, Repr

/-- What is to be done, and whether to answer with JSON. -/
structure Invocation where
  command : Command
  json : Bool
deriving DecidableEq, Repr

/-- Why the arguments are not read to the end. -/
inductive Interruption where
  | help (topic : Topic)
  | version
  | misuse (misuse : Misuse)
deriving DecidableEq, Repr

/-- What has been read at one level. -/
structure Progress where
  level : Level
  json : Bool := false
  positional : Option String := none
  /-- Whether every argument from here on is positional. -/
  escaped : Bool := false
deriving DecidableEq, Repr

namespace Progress

/-- Look at the positional argument, which must not be empty. -/
def settle (progress : Progress) : Except Interruption Unit :=
  match progress.positional, progress.level.positional? with
  | some "", some name => .error (.misuse { complaint := .emptyValue name })
  | _, _ => .ok ()

def misuse (progress : Progress) (complaint : Complaint) (advice : Option Advice := none) :
    Interruption :=
  .misuse { complaint, advice, usage := some progress.level.usage }

/-- The flags that have been given, apart from those that are acted on at once. -/
def givenFlags (progress : Progress) : List Flag := if progress.json then [.json] else []

/-- The usage that shows what has been given at the level, and one more flag. -/
def usageWith (progress : Progress) (flag : Flag) : String :=
  progress.level.usageWith (progress.givenFlags ++ [flag]) progress.positional.isSome

/-- The usage that shows what has been given at the level, or the general one if that is nothing. -/
def usageSoFar (progress : Progress) : String :=
  if progress.json || progress.positional.isSome then
    progress.level.usageWith progress.givenFlags progress.positional.isSome
  else progress.level.usage

/-- The usage after a flag with a value.  At the top level the file and the flag that has been given
are shown as alternatives; a positional argument that has not been looked at is not shown. -/
def usageWithValue (progress : Progress) (flag : Flag) : String :=
  if progress.level = .top ∧ progress.json then
    Level.topUsageWithAlternatives (if flag = .json then [] else [flag])
  else progress.level.usageWith (progress.givenFlags ++ [flag]) false

/-- Advice to pass an argument as a value, if the level takes any. -/
def adviceToEscape (progress : Progress) (argument : String) : Option Advice :=
  progress.level.positional?.map fun _ ↦ .passAsValue argument

def giveFlag (progress : Progress) (flag : Flag) : Except Interruption Progress := do
  progress.settle
  match flag with
  | .help => throw (.help (.ofLevel progress.level))
  | .version => throw .version
  | .json =>
    if progress.json then throw (progress.misuse (.repeatedFlag .json))
    else return { progress with json := true }

/-- Act on a flag that is given by its long name, and perhaps with a value, which no flag takes. -/
def giveLong (progress : Progress) (name : String) (value : Option String) :
    Except Interruption Progress :=
  match progress.level.flag? name, value with
  | some flag, none => progress.giveFlag flag
  | some flag, some value =>
    .error <| .misuse {
      complaint := .unexpectedValue value flag
      usage := some (progress.usageWithValue flag) }
  | none, _ =>
    let argument := "--" ++ name
    let similar := (Text.similarNames name (progress.level.flags.map Flag.name)).getLast?
    .error <| .misuse <|
      match similar.bind progress.level.flag? with
      | some flag =>
        { complaint := .unexpectedArgument argument
          advice := some (.similarFlag flag)
          usage := some (progress.usageWith flag) }
      | none =>
        { complaint := .unexpectedArgument argument
          advice := progress.adviceToEscape argument
          usage := some progress.usageSoFar }

def giveShort (progress : Progress) : List Char → Except Interruption Progress
  | [] => .ok progress
  | letter :: letters =>
    match progress.level.shortFlag? letter with
    | some flag => do (← progress.giveFlag flag).giveShort letters
    | none =>
      let argument := String.ofList ['-', letter]
      .error (progress.misuse (.unexpectedArgument argument) (progress.adviceToEscape argument))

/-- What is wrong with a positional argument for which there is no place. -/
def surplus (progress : Progress) (argument : String) : Interruption :=
  if progress.level = .top then
    if progress.escaped ∧ argument ∈ subcommandNames then
      progress.misuse (.unexpectedArgument argument) (some (.leaveOutEscape argument))
    else
      match Text.similarNames argument subcommandNames with
      | [] => progress.misuse (.unexpectedArgument argument)
      | names =>
        progress.misuse (.unknownSubcommand argument) (some (.similarSubcommands names))
  else progress.misuse (.unexpectedArgument argument)

def givePositional (progress : Progress) (argument : String) : Except Interruption Progress :=
  match progress.positional, progress.level.positional? with
  | none, some _ => .ok { progress with positional := some argument }
  | _, _ => .error (progress.surplus argument)

def finish (progress : Progress) : Except Interruption Invocation := do
  progress.settle
  let invocation (command : Command) : Invocation := { command, json := progress.json }
  match progress.level, progress.positional with
  | .top, file => return invocation (.parse file)
  | .within .version, _ => return invocation .version
  | .within .check, some file => return invocation (.check file)
  | .within .tokens, some file => return invocation (.tokens file)
  | .within .ast, some file => return invocation (.ast file)
  | .within command, none =>
    let level := Level.within command
    throw <| .misuse {
      complaint := .missingPositional (level.positional?.getD "")
      usage := some (level.usageWith progress.givenFlags true) }

def subcommand? (progress : Progress) (argument : String) : Option Subcommand :=
  if progress.level = .top ∧ !progress.escaped then Subcommand.ofName? argument else none

def asksForHelp (progress : Progress) (argument : String) : Bool :=
  progress.level == .top && !progress.escaped && argument == helpName

/-- Act on an argument that is no subcommand. -/
def give (progress : Progress) (argument : String) : Except Interruption Progress :=
  if progress.escaped then progress.givePositional argument
  else
    match argument.toList with
    | ['-', '-'] => .ok { progress with escaped := true }
    | '-' :: '-' :: long =>
      match long.dropWhile fun c ↦ c != '=' with
      | '=' :: value =>
        progress.giveLong (String.ofList (long.takeWhile fun c ↦ c != '='))
          (some (String.ofList value))
      | _ => progress.giveLong (String.ofList long) none
    | '-' :: letter :: letters => progress.giveShort (letter :: letters)
    | _ => progress.givePositional argument

end Progress

def helpTopic (topic : Topic) : List String → Interruption
  | [] => .help topic
  | name :: names =>
    match topic.below? name with
    | some below => helpTopic below names
    | none =>
      .misuse {
        complaint := .unknownSubcommand name
        usage := some topic.usage
        hasHelp := topic != .help }

def readArguments (progress : Progress) : List String → Except Interruption Invocation
  | [] => progress.finish
  | argument :: arguments =>
    match progress.subcommand? argument with
    | some command => do
      let invocation ← readArguments { level := .within command } arguments
      progress.settle
      return { invocation with json := progress.json || invocation.json }
    | none =>
      if progress.asksForHelp argument then .error (helpTopic (.ofLevel .top) arguments)
      else do readArguments (← progress.give argument) arguments

def Invocation.ofArguments (arguments : List String) : Except Interruption Invocation :=
  readArguments { level := .top } arguments

end StatementLang.CommandLine
