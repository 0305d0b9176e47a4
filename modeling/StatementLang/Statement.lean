import StatementLang.Token

/-!
# Statements

A program is a list of statements.  A call prints an integer or ends the program with it; a
declaration gives an integer a name.  Statements keep the tokens they are made of, and the line of
the keyword that starts them.
-/

namespace StatementLang

/-- A statement, with the tokens it carries and the line of its keyword. -/
inductive Statement where
  | quit (value : Token) (line : Nat)
  | log (value : Token) (line : Nat)
  | declaration (identifier value : Token) (constant : Bool) (line : Nat)
deriving DecidableEq, Repr

namespace Statement

def line : Statement → Nat
  | quit _ line => line
  | log _ line => line
  | declaration _ _ _ line => line

def keyword : Statement → Keyword
  | quit _ _ => .quit
  | log _ _ => .log
  | declaration _ _ constant _ => if constant then .constBinder else .letBinder

/-- The name that a declaration introduces.  It is empty if the identifier carries no text. -/
def name? : Statement → Option String
  | declaration identifier _ _ _ => some (identifier.value.getD "")
  | _ => none

end Statement

end StatementLang
