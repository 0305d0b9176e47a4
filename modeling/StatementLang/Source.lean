import StatementLang.Statement.Cursor
import StatementLang.Token.Scanner

/-!
# Reading a Source Text

A source text is cut into tokens first, all of it, and then read as a program.  It fails with the
error of the stage that stopped, so that a lexical error anywhere hides every error of grammar.
-/

namespace StatementLang

/-- Why a source text is no program, with the line to look at. -/
inductive Failure where
  | lexical (error : LexicalError)
  | grammatical (detail : String) (line : Nat)
deriving DecidableEq, Repr

namespace Failure

def ofRejection (rejection : Rejection) : Failure :=
  .grammatical rejection.fault.message rejection.line

def line : Failure → Nat
  | lexical error => error.line
  | grammatical _ line => line

def message : Failure → String
  | lexical error => error.message
  | grammatical detail line => "On line " ++ toString line ++ " -> " ++ detail

end Failure

/-- The statements of a source text. -/
def parseSource (source : String) : Except Failure (List Statement) :=
  match tokenize source with
  | .error error => .error (.lexical error)
  | .ok tokens => (parse tokens).mapError Failure.ofRejection

end StatementLang
