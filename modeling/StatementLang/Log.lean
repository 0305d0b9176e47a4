import StatementLang.Text.Plain

/-!
# Log Records

A record tells one thing that was done, how much it matters and who did it.
-/

namespace StatementLang

/-- How much a record matters, the most first. -/
inductive LogLevel where
  | error
  | warn
  | info
  | debug
  | trace
deriving DecidableEq, Repr

namespace LogLevel

def all : List LogLevel := [error, warn, info, debug, trace]

def rank : LogLevel → Nat
  | error => 1
  | warn => 2
  | info => 3
  | debug => 4
  | trace => 5

def label : LogLevel → String
  | error => "ERROR"
  | warn => "WARN"
  | info => "INFO"
  | debug => "DEBUG"
  | trace => "TRACE"

end LogLevel

/-- The least important level that is still kept; without one nothing is kept. -/
abbrev LogLimit := Option LogLevel

namespace LogLimit

def keeps (limit : LogLimit) (level : LogLevel) : Bool :=
  match limit with
  | none => false
  | some least => decide (level.rank ≤ least.rank)

def ofText? (text : String) : Option LogLimit :=
  let wanted := text.toList.map Char.toUpper
  if wanted = "OFF".toList then some none
  else (LogLevel.all.find? fun level ↦ level.label.toList == wanted).map some

end LogLimit

structure LogRecord where
  level : LogLevel
  target : String
  message : String
deriving DecidableEq, Repr

/-- What a limit lets through of a record that is written. -/
def LogLimit.retain (limit : LogLimit) (record : LogRecord) : List LogRecord :=
  if limit.keeps record.level then [record] else []

/-- Writing under a limit keeps what the limit keeps of all that is written. -/
theorem LogLimit.filter_cons (limit : LogLimit) (record : LogRecord) (records : List LogRecord) :
    ((record :: records).filter fun written ↦ limit.keeps written.level) =
      limit.retain record ++ records.filter fun written ↦ limit.keeps written.level := by
  rw [retain, List.filter_cons]
  split <;> rfl

namespace LogRecord

/-- The first column of a record: the level, in five places. -/
def levelColumn (level : LogLevel) : List Char :=
  level.label.toList ++ List.replicate (5 - level.label.length) ' '

/-- The further lines of a message are indented by four places. -/
def indentLine (c : Char) : List Char :=
  if c = '\n' then '\n' :: List.replicate 4 ' ' else [c]

/-- The line of a record, with its end, in plain form.  The time that stands at the front of a line
is left out. -/
def text (record : LogRecord) : String :=
  Text.plain <| String.ofList <|
    '[' :: levelColumn record.level ++ ' ' :: record.target.toList ++ ']' :: ' ' ::
      record.message.toList.flatMap indentLine ++ ['\n']

end LogRecord

end StatementLang
