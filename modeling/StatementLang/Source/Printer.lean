import StatementLang.Statement

/-!
# Printing Source Texts

Statements are printed token by token, with a blank between two tokens of one line and as many line
feeds as the lines of the tokens call for.  The lines of punctuation are not kept by statements;
they are those of the tokens before.
-/

namespace StatementLang

namespace Statement

def callTokens (keyword : Keyword) (value : Token) (line : Nat) : List Token :=
  [{ kind := .keyword keyword, line }, { kind := .openParen, line }, value,
    { kind := .closeParen, line := value.line }, { kind := .semicolon, line := value.line }]

def declarationTokens (keyword : Keyword) (identifier value : Token) (line : Nat) : List Token :=
  [{ kind := .keyword keyword, line }, identifier, { kind := .equal, line := identifier.line },
    value, { kind := .semicolon, line := value.line }]

def tokens : Statement → List Token
  | quit value line => callTokens .quit value line
  | log value line => callTokens .log value line
  | declaration identifier value false line => declarationTokens .letBinder identifier value line
  | declaration identifier value true line => declarationTokens .constBinder identifier value line

/-- The lines of a statement and of the tokens it carries, in reading order. -/
def lines : Statement → List Nat
  | quit value line => [line, value.line]
  | log value line => [line, value.line]
  | declaration identifier value _ line => [line, identifier.line, value.line]

end Statement

namespace Token

def IsInteger (token : Token) : Prop :=
  token.kind = .integer ∧
    ∃ digits, token.value = some digits ∧ digits ≠ "" ∧ ∀ c ∈ digits.toList, c.isDigit = true

def IsIdentifier (token : Token) : Prop :=
  token.kind = .identifier ∧
    ∃ word, token.value = some word ∧ word ≠ "" ∧ (∀ c ∈ word.toList, c.isAlpha = true) ∧
      ∀ keyword : Keyword, word ≠ keyword.text

end Token

/-- The tokens that a statement carries have the spelling of their kinds. -/
def Statement.IsSpelled : Statement → Prop
  | .quit value _ => value.IsInteger
  | .log value _ => value.IsInteger
  | .declaration identifier value _ _ => identifier.IsIdentifier ∧ value.IsInteger

/-- Statements that a source text can have: their tokens are spelled, their lines count from one and
never go back, and none follows the one that ends the program. -/
structure WellFormed (statements : List Statement) : Prop where
  spelled : ∀ statement ∈ statements, statement.IsSpelled
  ordered : (1 :: statements.flatMap Statement.lines).Pairwise (· ≤ ·)
  ends : ∀ statement ∈ statements.dropLast, statement.keyword ≠ .quit

def gap (line next : Nat) : List Char :=
  if line < next then List.replicate (next - line) '\n' else [' ']

def printTokens (line : Nat) : List Token → List Char
  | [] => []
  | token :: tokens =>
    gap line token.line ++ token.lexeme.toList ++ printTokens token.line tokens

def printSource (statements : List Statement) : String :=
  String.ofList (printTokens 1 (statements.flatMap Statement.tokens))

end StatementLang
