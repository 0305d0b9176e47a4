import StatementLang.Log
import StatementLang.Pattern
import StatementLang.Text.Blank

/-!
# Choosing Which Records to Keep

A specification lists directives, separated by commas.  Each sets the limit of the targets that
start with a given name, or of all targets; of several that apply, the longest name decides.  After
a slash stands a pattern that must occur in a message for it to be kept.  What cannot be read is
left out with a warning.
-/

namespace StatementLang

/-- The limit of the targets that start with a name, or of all targets. -/
structure LogDirective where
  target : Option String
  limit : LogLimit
deriving DecidableEq, Repr

structure LogFilter where
  directives : List LogDirective
  required : Option Pattern
deriving Repr

namespace LogDirective

/-- The length of the name that a target must start with. -/
def length (directive : LogDirective) : Nat :=
  match directive.target with
  | none => 0
  | some name => name.utf8ByteSize

def applies (directive : LogDirective) (target : String) : Bool :=
  match directive.target with
  | none => true
  | some name => name.toList.isPrefixOf target.toList

/-- Add a directive; it takes the place of an earlier one for the same name. -/
def insert (directive : LogDirective) : List LogDirective → List LogDirective
  | [] => [directive]
  | earlier :: directives =>
    if earlier.target = directive.target then directive :: directives
    else earlier :: directive.insert directives

def trim (text : String) : String :=
  String.ofList
    ((text.toList.dropWhile Text.isBlank).reverse.dropWhile Text.isBlank).reverse

/-- Read one directive: a limit, a name, or both with an equals sign between them.  What is wrong is
given back. -/
def ofText (text : String) : Except String LogDirective :=
  match text.splitOn "=" with
  | [only] =>
    match LogLimit.ofText? only with
    | some limit => .ok { target := none, limit }
    | none => .ok { target := some only, limit := some .trace }
  | [name, limit] =>
    if trim limit = "" then .ok { target := some name, limit := some .trace }
    else
      match LogLimit.ofText? (trim limit) with
      | some limit => .ok { target := some name, limit }
      | none => .error (trim limit)
  | _ => .error text

end LogDirective

namespace LogFilter

/-- Without directives only errors are kept. -/
def plain : LogFilter :=
  { directives := [{ target := none, limit := some .error }], required := none }

def warning (reason : String) : String :=
  "warning: invalid logging spec " ++ reason ++ ", ignoring it\n"

def patternWarning (reason : String) : String :=
  "warning: invalid regex filter - " ++ reason ++ ", ignoring it\n"

/-- Read a list of directives, with a warning for each that cannot be read. -/
def readDirectives (text : String) : List LogDirective × List String :=
  let directives := ((text.splitOn ",").map LogDirective.trim).filter fun directive ↦ directive ≠ ""
  directives.foldl
    (fun (read, warnings) directive ↦
      match LogDirective.ofText directive with
      | .ok directive => (directive.insert read, warnings)
      | .error wrong => (read, warnings ++ [warning ("'" ++ wrong ++ "'")]))
    ([], [])

/-- A filter from its directives; if there are none, only errors are kept. -/
def ofDirectives (directives : List LogDirective) (required : Option Pattern) : LogFilter :=
  if directives.isEmpty then { plain with required } else { directives, required }

/-- Read the pattern of a specification, with a warning if it cannot be read. -/
def readPattern (text : String) : Option Pattern × List String :=
  match Pattern.ofText text with
  | .ok pattern => (some pattern, [])
  | .error refusal => (none, [patternWarning (refusal.message text)])

/-- Read a specification, with the warnings about it. -/
def ofText (text : String) : LogFilter × List String :=
  match text.splitOn "/" with
  | [directives] =>
    let (directives, warnings) := readDirectives directives
    (ofDirectives directives none, warnings)
  | [directives, required] =>
    let (directives, warnings) := readDirectives directives
    let (required, more) := readPattern required
    (ofDirectives directives required, warnings ++ more)
  | _ => (plain, [warning ("'" ++ text ++ "' (too many '/'s)")])

/-- The limit of a target: that of the longest name it starts with, the latest of several. -/
def limitOf (filter : LogFilter) (target : String) : LogLimit :=
  let byLength := filter.directives.mergeSort fun first second ↦ first.length ≤ second.length
  ((byLength.filter fun directive ↦ directive.applies target).getLast?.map
    LogDirective.limit).getD none

def keeps (filter : LogFilter) (record : LogRecord) : Bool :=
  (filter.limitOf record.target).keeps record.level &&
    filter.required.all fun pattern ↦ pattern.occursIn record.message

end LogFilter

/-- What is kept of some records, as text, after the warnings about the specification. -/
def logText (specification : Option String) (records : List LogRecord) : String :=
  let (filter, warnings) :=
    match specification with
    | none => (LogFilter.plain, [])
    | some text => LogFilter.ofText text
  String.join (warnings ++ (records.filter filter.keeps).map LogRecord.text)

end StatementLang
