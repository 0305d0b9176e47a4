/-!
# Levels of the Command Line

Arguments are read at the top level until a subcommand is named, and at the level of that subcommand
from there on.  Each level has its own flags, at most one positional argument, and a help text.
-/

namespace StatementLang.CommandLine

inductive Subcommand where
  | check
  | tokens
  | ast
  | version
deriving DecidableEq, Repr

namespace Subcommand

def all : List Subcommand := [check, tokens, ast, version]

def name : Subcommand → String
  | check => "check"
  | tokens => "tokens"
  | ast => "ast"
  | version => "version"

def ofName? (name : String) : Option Subcommand := all.find? fun command ↦ command.name == name

def summary : Subcommand → String
  | check => "Check a source file for errors"
  | tokens => "Print the token stream of a source file"
  | ast => "Print the parsed statements of a source file"
  | version => "Print version information"

end Subcommand

/-- The name under which help is asked for like a subcommand. -/
def helpName : String := "help"

def subcommandNames : List String := Subcommand.all.map Subcommand.name ++ [helpName]

inductive Flag where
  | json
  | help
  | version
deriving DecidableEq, Repr

def Flag.name : Flag → String
  | json => "json"
  | help => "help"
  | version => "version"

def Flag.letter? : Flag → Option Char
  | json => none
  | help => some 'h'
  | version => some 'V'

/-- Where an argument is read. -/
inductive Level where
  | top
  | within (command : Subcommand)
deriving DecidableEq, Repr

namespace Level

def flags : Level → List Flag
  | top => [.json, .help, .version]
  | within _ => [.json, .help]

def flag? (level : Level) (name : String) : Option Flag :=
  level.flags.find? fun flag ↦ flag.name == name

def shortFlag? (level : Level) (letter : Char) : Option Flag :=
  level.flags.find? fun flag ↦ flag.letter? == some letter

/-- The positional argument of a level as it is written when it need not be given, if the level has
one. -/
def positional? : Level → Option String
  | top => some "[FILE]"
  | within .version => none
  | within _ => some "<INPUT>"

/-- The positional argument of a level as it is written when it is given. -/
def givenPositional? : Level → Option String
  | top => some "<FILE>"
  | within .version => none
  | within _ => some "<INPUT>"

/-- The words that lead to a level. -/
def path : Level → String
  | top => "radc"
  | within command => "radc " ++ command.name

def usage : Level → String
  | top => "radc [OPTIONS] [FILE] [COMMAND]"
  | within command =>
    String.intercalate " " <|
      ["radc", command.name, "[OPTIONS]"] ++ (positional? (within command)).toList

/-- The usage of a level with some flags, each shown once, and with its positional argument. -/
def usageWith (level : Level) (flags : List Flag) (positionalGiven : Bool) : String :=
  let shown := flags.eraseDups.map fun flag ↦ "--" ++ flag.name
  let positional := if positionalGiven then level.givenPositional? else level.positional?
  String.intercalate " " ([level.path] ++ shown ++ positional.toList)

/-- The usage of the top level with some flags, and with the file and the flag for JSON as
alternatives. -/
def topUsageWithAlternatives (flags : List Flag) : String :=
  let shown := flags.map fun flag ↦ "--" ++ flag.name
  String.intercalate " " ([top.path] ++ shown ++ ["<FILE|--json>"])

end Level

/-- A text of several lines, each with its end. -/
def unlines (lines : List String) : String := String.join (lines.map fun line ↦ line ++ "\n")

/-- Something that help can be asked about. -/
inductive Topic where
  | ofLevel (level : Level)
  | help
deriving DecidableEq, Repr

namespace Topic

def usage : Topic → String
  | .ofLevel level => level.usage
  | help => "radc help [COMMAND]..."

def below? (topic : Topic) (name : String) : Option Topic :=
  if topic = .ofLevel .top then
    if name = helpName then some help
    else (Subcommand.ofName? name).map fun command ↦ .ofLevel (.within command)
  else none

def topText : String :=
  unlines [
    "Radium compiler front end - lexer and parser",
    "",
    "Usage: " ++ Level.top.usage,
    "",
    "Commands:",
    "  check    " ++ Subcommand.check.summary,
    "  tokens   " ++ Subcommand.tokens.summary,
    "  ast      " ++ Subcommand.ast.summary,
    "  version  " ++ Subcommand.version.summary,
    "  help     Print this message or the help of the given subcommand(s)",
    "",
    "Arguments:",
    "  [FILE]  Input source file",
    "",
    "Options:",
    "      --json     Emit JSON instead of text",
    "  -h, --help     Print help",
    "  -V, --version  Print version"]

def subcommandText (command : Subcommand) : String :=
  let arguments :=
    match (Level.within command).positional? with
    | some positional => ["Arguments:", "  " ++ positional ++ "  Input source file", ""]
    | none => []
  unlines <|
    [command.summary, "", "Usage: " ++ (Level.within command).usage, ""] ++ arguments ++
      ["Options:", "      --json  Emit JSON instead of text", "  -h, --help  Print help"]

def helpText : String :=
  unlines [
    "Print this message or the help of the given subcommand(s)",
    "",
    "Usage: " ++ help.usage,
    "",
    "Arguments:",
    "  [COMMAND]...  Print help for the subcommand(s)"]

def text : Topic → String
  | .ofLevel .top => topText
  | .ofLevel (.within command) => subcommandText command
  | help => helpText

end Topic

end StatementLang.CommandLine
