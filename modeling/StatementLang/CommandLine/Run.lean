import StatementLang.CommandLine.Invocation
import StatementLang.Directory
import StatementLang.Log.Filter
import StatementLang.Log.Trace
import StatementLang.Outline
import StatementLang.Report
import StatementLang.Statement.Document

/-!
# Running the Command Line

An invocation reads a file, prints its answer, and may fail.  The answer goes to the output and the
failure to the error text, after the log records that are kept.  The exit code tells success,
failure and misuse apart.
-/

namespace StatementLang.CommandLine

/-- What a run leaves behind. -/
structure Outcome where
  code : Nat
  output : String
  errors : String
deriving DecidableEq, Repr

/-- What carrying out an invocation comes to, before the log is filtered. -/
structure Performance where
  output : String
  records : List LogRecord
  failure : Option String
deriving DecidableEq, Repr

def readingRecord (path : String) : LogRecord :=
  { level := .info, target := "radc", message := "reading " ++ path }

/-- A document on indented lines, with the end of its last line. -/
def documentText (document : Json.Document) : String := document.toPrettyString ++ "\n"

def tokenLine (token : Token) : String :=
  toString token.line ++ ": " ++ token.kind.label ++
    (token.value.map fun value ↦ " " ++ value).getD "" ++ "\n"

def tokenListing (tokens : List Token) : String := String.join (tokens.map tokenLine)

def tokensDocument (tokens : List Token) : Json.Document := .array (tokens.map Token.document)

def statementListing (statements : List Statement) : String :=
  String.ofList (Outline.indentedList (statements.map Statement.outline)) ++ "\n"

def statementsDocument (statements : List Statement) : Json.Document :=
  .array (statements.map Statement.document)

def versionText : String := "radc 0.1.0\nRadium Compiler front end\nLicense: Apache-2.0\n"

inductive Task where
  | parse
  | check
  | tokens
  | ast
deriving DecidableEq, Repr

/-- The answer about a file that was cut into tokens and read as statements. -/
def Task.answer (task : Task) (json : Bool) (path : String) (tokens : List Token)
    (statements : List Statement) : String :=
  let report := Report.ofSuccess path tokens.length statements.length
  match task, json with
  | .parse, false =>
    "  [✓] Parsed " ++ toString statements.length ++ " statements (" ++ toString tokens.length ++
      " tokens) from " ++ path ++ "\n"
  | .check, false => "✅ No errors found\n"
  | .parse, true | .check, true => documentText report.document
  | .tokens, false => tokenListing tokens
  | .tokens, true => documentText (tokensDocument tokens)
  | .ast, false => statementListing statements
  | .ast, true => documentText (statementsDocument statements)

/-- A file that is no program.  Only an answer in JSON reports it. -/
def failed (json : Bool) (path : String) (failure : Failure) (tokenCount : Nat)
    (records : List LogRecord) : Performance where
  output := if json then documentText (Report.ofFailure path failure tokenCount).document else ""
  records := records
  failure := some failure.message

def Task.perform (task : Task) (json : Bool) (path source : String) : Performance :=
  match tokenize source with
  | .error error => failed json path (.lexical error) 0 (lexingRecords (some .trace) source)
  | .ok found =>
    if task = .tokens then
      { output := task.answer json path found []
        records := lexingRecords (some .trace) source
        failure := none }
    else
      let records := lexingRecords (some .trace) source ++ parsingRecords (some .trace) found
      match StatementLang.parse found with
      | .error rejection => failed json path (.ofRejection rejection) found.length records
      | .ok statements =>
        { output := task.answer json path found statements, records, failure := none }

def Task.performOn (task : Task) (readText : String → Except FileError String) (json : Bool)
    (path : String) : Performance :=
  match readText path with
  | .error reason =>
    { output := ""
      records := [readingRecord path]
      failure := some ("Error reading file " ++ path ++ ": " ++ reason.message) }
  | .ok source =>
    let performance := task.perform json path source
    { performance with records := readingRecord path :: performance.records }

def Invocation.perform (readText : String → Except FileError String) (invocation : Invocation) :
    Performance :=
  match invocation.command with
  | .version => { output := versionText, records := [], failure := none }
  | .parse none =>
    { output := ""
      records := []
      failure :=
        some "No input file specified\nUsage: radc <FILE> or radc check <FILE>" }
  | .parse (some path) => Task.parse.performOn readText invocation.json path
  | .check path => Task.check.performOn readText invocation.json path
  | .tokens path => Task.tokens.performOn readText invocation.json path
  | .ast path => Task.ast.performOn readText invocation.json path

def Performance.outcome (performance : Performance) (log : Option String) : Outcome where
  code := if performance.failure.isSome then 1 else 0
  output := performance.output
  errors :=
    logText log performance.records ++
      (performance.failure.map fun message ↦ "Error: " ++ message ++ "\n").getD ""

def Interruption.outcome (interruption : Interruption) (log : Option String) : Outcome :=
  match interruption with
  | .help topic => { code := 0, output := topic.text, errors := logText log [] }
  | .version => { code := 0, output := "radc 0.1.0\n", errors := logText log [] }
  | .misuse reason => { code := 2, output := "", errors := logText log [] ++ reason.text }

/-- Run the command line with a way of reading files, the specification of the log if there is one,
and the arguments.  All of these are texts, paths as well, so that the name of a file is always one
in UTF-8. -/
def run (readText : String → Except FileError String) (log : Option String)
    (arguments : List String) : Outcome :=
  match Invocation.ofArguments arguments with
  | .ok invocation => (invocation.perform readText).outcome log
  | .error interruption => interruption.outcome log

end StatementLang.CommandLine
