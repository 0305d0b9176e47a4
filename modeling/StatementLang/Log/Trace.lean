import StatementLang.Source

/-!
# The Trace of Reading a Source Text

Every token and every statement leaves a record, and each stage leaves one more when it comes to its
end.  A statement that ends the program too early is not recorded, since it is not completed.
-/

namespace StatementLang

/-- The records of cutting a source text into tokens that a limit keeps. -/
def lexingRecords (limit : LogLimit) (source : String) : List LogRecord :=
  ((Scanner.ofSource source).scan limit).records

/-- The records of building statements from a list of tokens that a limit keeps. -/
def parsingRecords (limit : LogLimit) (tokens : List Token) : List LogRecord :=
  ((Cursor.ofTokens tokens).run limit).records

/-- The records of reading a source text that a limit keeps. -/
def keptRecords (limit : LogLimit) (source : String) : List LogRecord :=
  lexingRecords limit source ++
    match tokenize source with
    | .ok tokens => parsingRecords limit tokens
    | .error _ => []

end StatementLang
