import StatementLang.Token

/-!
# Faults

The ways in which a list of tokens can fail to be a program.  Each statement is a keyword and four
more tokens, so that a fault is either a token that cannot stand where a statement starts, or the
absence of one of those five.
-/

namespace StatementLang

/-- Why a list of tokens is no program. -/
inductive Fault where
  /-- A statement cannot start with a token of this kind. -/
  | unexpected (kind : Kind)
  /-- A token of this kind stands after the statement that ends the program. -/
  | unreachable (kind : Kind)
  /-- A call lacks its keyword. -/
  | callKeyword (keyword : Keyword)
  /-- A call lacks its opening parenthesis. -/
  | callOpening (keyword : Keyword)
  /-- A call lacks its integer. -/
  | callInteger (keyword : Keyword)
  /-- A call lacks its closing parenthesis. -/
  | callClosing (keyword : Keyword)
  /-- A call lacks its semicolon. -/
  | callEnd (keyword : Keyword)
  /-- A declaration lacks its keyword. -/
  | declaredKeyword
  /-- A declaration lacks its identifier. -/
  | declaredName
  /-- A declaration lacks its equals sign. -/
  | declaredEqual
  /-- A declaration lacks its integer. -/
  | declaredInteger
  /-- A declaration lacks its semicolon. -/
  | declaredEnd
deriving DecidableEq, Repr

namespace Fault

def message : Fault → String
  | unexpected kind => "unexpected token '" ++ kind.label ++ "'"
  | unreachable kind =>
    "token '" ++ kind.label ++ "' is unreachable -> expected end of file or scope"
  | callKeyword keyword => "expected '" ++ keyword.text ++ "'"
  | callOpening keyword => "expected '(' after '" ++ keyword.text ++ "' statement"
  | callInteger keyword =>
    "expected integer literal after '(' in '" ++ keyword.text ++ "' statement"
  | callClosing keyword =>
    "expected ')' after integer literal in '" ++ keyword.text ++ "' statement"
  | callEnd keyword => "expected ';' after '" ++ keyword.text ++ "' statement"
  | declaredKeyword => "expected 'let' or 'const'"
  | declaredName => "expected variable name after 'let' or 'const' keyword"
  | declaredEqual => "expected '=' after variable name"
  | declaredInteger =>
    "expected integer literal after '=' -> For now, only integer literals are supported"
  | declaredEnd => "expected ';' after integer literal"

def all : List Fault :=
  Kind.all.map unexpected ++ Kind.all.map unreachable ++ Keyword.all.map callKeyword ++
    Keyword.all.map callOpening ++ Keyword.all.map callInteger ++ Keyword.all.map callClosing ++
      Keyword.all.map callEnd ++
        [declaredKeyword, declaredName, declaredEqual, declaredInteger, declaredEnd]

def ofMessage? (text : String) : Option Fault := all.find? fun fault ↦ fault.message == text

theorem ofMessage?_message (fault : Fault) : ofMessage? fault.message = some fault := by
  have hall : ∀ fault ∈ all, ofMessage? fault.message = some fault := by decide +kernel
  apply hall
  unfold all
  cases fault with
  | unexpected kind => simp [Kind.mem_all]
  | unreachable kind => simp [Kind.mem_all]
  | callKeyword keyword => simp [Keyword.mem_all]
  | callOpening keyword => simp [Keyword.mem_all]
  | callInteger keyword => simp [Keyword.mem_all]
  | callClosing keyword => simp [Keyword.mem_all]
  | callEnd keyword => simp [Keyword.mem_all]
  | _ => simp

/-- A fault can be told from its text. -/
theorem message_injective {first second : Fault} (h : first.message = second.message) :
    first = second := by
  have found := ofMessage?_message first
  rw [h, ofMessage?_message second] at found
  exact (Option.some.inj found).symm

end Fault

/-- A fault and the line it is blamed on. -/
structure Rejection where
  fault : Fault
  line : Nat
deriving DecidableEq, Repr

end StatementLang
