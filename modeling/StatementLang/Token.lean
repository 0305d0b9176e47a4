/-!
# Tokens

A token has a kind, the line it starts on and, for identifiers and integers, its text.  Every other
kind is spelled in one way only, so that a token's lexeme can always be told from the token.
-/

namespace StatementLang

/-- The words that start a statement and are no identifiers. -/
inductive Keyword where
  | quit
  | log
  | letBinder
  | constBinder
deriving DecidableEq, Repr

namespace Keyword

def all : List Keyword := [quit, log, letBinder, constBinder]

def text : Keyword → String
  | quit => "quit"
  | log => "log"
  | letBinder => "let"
  | constBinder => "const"

/-- The keyword spelled by a word, if it is one; case matters. -/
def ofText? (word : String) : Option Keyword := all.find? fun keyword ↦ keyword.text == word

theorem mem_all (keyword : Keyword) : keyword ∈ all := by cases keyword <;> decide

theorem ofText?_text (keyword : Keyword) : ofText? keyword.text = some keyword := by
  cases keyword <;> decide

theorem ofText?_eq_some_iff {word : String} {keyword : Keyword} :
    ofText? word = some keyword ↔ word = keyword.text := by
  constructor
  · intro h
    have spelled := List.find?_some h
    exact (eq_of_beq spelled).symm
  · rintro rfl
    exact ofText?_text keyword

end Keyword

inductive Kind where
  | keyword (word : Keyword)
  | identifier
  | integer
  | equal
  | openParen
  | closeParen
  | semicolon
deriving DecidableEq, Repr

namespace Kind

def all : List Kind :=
  Keyword.all.map keyword ++ [identifier, integer, equal, openParen, closeParen, semicolon]

theorem mem_all (kind : Kind) : kind ∈ all := by
  cases kind with
  | keyword word => exact List.mem_append_left _ (List.mem_map_of_mem (Keyword.mem_all word))
  | _ => decide

def isKeyword : Kind → Bool
  | keyword _ => true
  | _ => false

/-- The name of a kind in messages and in documents. -/
def label : Kind → String
  | keyword word => word.text
  | identifier => "alpha_numeric"
  | integer => "int_literal"
  | equal => "equal"
  | openParen => "open_paren"
  | closeParen => "close_paren"
  | semicolon => "semi_colon"

/-- The name of a kind in outlines and in log records. -/
def title : Kind → String
  | keyword .quit => "Quit"
  | keyword .log => "Log"
  | keyword .letBinder => "Let"
  | keyword .constBinder => "Const"
  | identifier => "AlphaNumeric"
  | integer => "IntLiteral"
  | equal => "Equal"
  | openParen => "OpenParen"
  | closeParen => "CloseParen"
  | semicolon => "SemiColon"

/-- The source text of a kind; the two kinds without a fixed text are given by their label. -/
def spelling : Kind → String
  | equal => "="
  | openParen => "("
  | closeParen => ")"
  | semicolon => ";"
  | kind => kind.label

def ofLabel? (label : String) : Option Kind := all.find? fun kind ↦ kind.label == label

def ofMark? : Char → Option Kind
  | '=' => some equal
  | '(' => some openParen
  | ')' => some closeParen
  | ';' => some semicolon
  | _ => none

theorem ofLabel?_label (kind : Kind) : ofLabel? kind.label = some kind := by
  cases kind with
  | keyword word => cases word <;> decide
  | _ => decide

theorem label_injective {first second : Kind} (h : first.label = second.label) :
    first = second := by
  have found := ofLabel?_label first
  rw [h, ofLabel?_label second] at found
  exact (Option.some.inj found).symm

theorem spelling_of_ofMark? {c : Char} {kind : Kind} (h : ofMark? c = some kind) :
    kind.spelling = String.singleton c := by
  unfold ofMark? at h
  split at h <;> simp_all <;> subst h <;> decide

end Kind

/-- A token: its kind, the line it starts on, and its text if the kind does not fix it. -/
structure Token where
  kind : Kind
  line : Nat
  value : Option String := none
deriving DecidableEq, Repr

namespace Token

def lexeme (token : Token) : String := token.value.getD token.kind.spelling

/-- The token of a run of letters: a keyword or an identifier. -/
def ofWord (word : String) (line : Nat) : Token :=
  match Keyword.ofText? word with
  | some keyword => { kind := .keyword keyword, line }
  | none => { kind := .identifier, line, value := some word }

/-- The token of a run of digits, whose text is kept as it is. -/
def ofDigits (digits : String) (line : Nat) : Token :=
  { kind := .integer, line, value := some digits }

@[simp]
theorem lexeme_ofWord (word : String) (line : Nat) : (ofWord word line).lexeme = word := by
  unfold ofWord
  split
  · rename_i found
    exact (Keyword.ofText?_eq_some_iff.mp found).symm
  · rfl

@[simp]
theorem lexeme_ofDigits (digits : String) (line : Nat) : (ofDigits digits line).lexeme = digits :=
  rfl

end Token

end StatementLang
