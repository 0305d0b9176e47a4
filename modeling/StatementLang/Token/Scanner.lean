import StatementLang.Log
import StatementLang.Text.Blank
import StatementLang.Token

/-!
# Scanning Tokens

A scanner stands at a position of a source text and knows the line of that position.  It passes
blanks and reads the longest run of letters or of digits, or a single mark.  A character of no class
is a lexical error; the scanner stays on it, so that reading again reports it again.
-/

namespace StatementLang

/-- A character that belongs to no token, and the line it stands on. -/
structure LexicalError where
  character : Char
  line : Nat
deriving DecidableEq, Repr

namespace LexicalError

def message (error : LexicalError) : String :=
  "Unexpected character '" ++ error.character.toString ++ "' on line " ++ toString error.line

end LexicalError

/-- What a character can begin. -/
inductive CharacterClass where
  | letter
  | digit
  | mark (kind : Kind)
  | blank
  | foreign
deriving DecidableEq, Repr

/-- The class of a character.  Letters and digits are those of ASCII. -/
def CharacterClass.of (c : Char) : CharacterClass :=
  if c.isAlpha then .letter
  else if c.isDigit then .digit
  else match Kind.ofMark? c with
    | some kind => .mark kind
    | none => if Text.isBlank c then .blank else .foreign

theorem isAlpha_of_class_eq_letter {c : Char} (h : CharacterClass.of c = .letter) :
    c.isAlpha = true := by
  unfold CharacterClass.of at h
  grind

theorem isDigit_of_class_eq_digit {c : Char} (h : CharacterClass.of c = .digit) :
    c.isDigit = true := by
  unfold CharacterClass.of at h
  grind

/-- A position in a source text, with what is left to read and the line reached. -/
structure Scanner where
  rest : List Char
  position : Nat
  line : Nat
deriving DecidableEq, Repr

namespace Scanner

/-- A scanner at the start of a source text.  Lines count from one. -/
def ofSource (source : String) : Scanner := { rest := source.toList, position := 0, line := 1 }

/-- Move past the next `count` characters of the line. -/
def advance (count : Nat) (scanner : Scanner) : Scanner where
  rest := scanner.rest.drop count
  position := scanner.position + (scanner.rest.take count).length
  line := scanner.line

/-- The longest run of characters in a class at the scanner. -/
def run (belongs : Char → Bool) (scanner : Scanner) : List Char := scanner.rest.takeWhile belongs

/-- The scanner behind the blanks that a text at the given place starts with.  A line feed is the
only blank that starts a line. -/
def behindBlanks (position line : Nat) : List Char → Scanner
  | [] => { rest := [], position, line }
  | c :: rest =>
    if c = '\n' then behindBlanks (position + 1) (line + 1) rest
    else if Text.isBlank c then behindBlanks (position + 1) line rest
    else { rest := c :: rest, position, line }

def skipBlanks (scanner : Scanner) : Scanner :=
  behindBlanks scanner.position scanner.line scanner.rest

def readRun (belongs : Char → Bool) (token : String → Nat → Token) (scanner : Scanner) :
    Token × Scanner :=
  (token (String.ofList (scanner.run belongs)) scanner.line,
    scanner.advance (scanner.run belongs).length)

/-- Read the next token.  There is none at the end of the text. -/
def next (scanner : Scanner) : Except LexicalError (Option Token) × Scanner :=
  let here := scanner.skipBlanks
  match here.rest with
  | [] => (.ok none, here)
  | c :: _ =>
    match CharacterClass.of c with
    | .letter =>
      let (token, after) := here.readRun Char.isAlpha Token.ofWord
      (.ok (some token), after)
    | .digit =>
      let (token, after) := here.readRun Char.isDigit Token.ofDigits
      (.ok (some token), after)
    | .mark kind => (.ok (some { kind, line := here.line }), here.advance 1)
    | .blank | .foreign => (.error { character := c, line := here.line }, here)

theorem length_rest_advance (count : Nat) (scanner : Scanner) :
    (scanner.advance count).rest.length = scanner.rest.length - count := by
  simp only [advance, List.length_drop]

theorem length_rest_behindBlanks_le (position line : Nat) (text : List Char) :
    (behindBlanks position line text).rest.length ≤ text.length := by
  induction text generalizing position line with
  | nil => exact Nat.le_refl 0
  | cons c rest ih =>
    unfold behindBlanks
    split
    · exact Nat.le_succ_of_le (ih _ _)
    · split
      · exact Nat.le_succ_of_le (ih _ _)
      · exact Nat.le_refl _

theorem length_rest_skipBlanks_le (scanner : Scanner) :
    scanner.skipBlanks.rest.length ≤ scanner.rest.length :=
  length_rest_behindBlanks_le _ _ _

/-- A run that takes the first character moves the scanner on. -/
theorem length_rest_advance_run_lt {scanner : Scanner} {belongs : Char → Bool} {c : Char}
    {later : List Char} (h : scanner.rest = c :: later) (first : belongs c = true) :
    (scanner.advance (scanner.run belongs).length).rest.length < scanner.rest.length := by
  simp only [length_rest_advance, run, h, List.takeWhile_cons, first, if_true, List.length_cons]
  omega

/-- Every token read leaves less to read. -/
theorem length_rest_lt_of_next {scanner after : Scanner} {token : Token}
    (h : scanner.next = (.ok (some token), after)) :
    after.rest.length < scanner.rest.length := by
  have skipped := length_rest_skipBlanks_le scanner
  simp only [next] at h
  split at h
  · simp at h
  · rename_i c later atHead
    refine Nat.lt_of_lt_of_le ?_ skipped
    split at h
    · rename_i isLetter
      rw [← (Prod.mk.inj h).2]
      exact length_rest_advance_run_lt atHead (isAlpha_of_class_eq_letter isLetter)
    · rename_i isDigit
      rw [← (Prod.mk.inj h).2]
      exact length_rest_advance_run_lt atHead (isDigit_of_class_eq_digit isDigit)
    · rw [← (Prod.mk.inj h).2, length_rest_advance, atHead, List.length_cons]
      omega
    · simp at h
    · simp at h

end Scanner

def lexingTarget : String := "radium::frontend::lexer"

def Token.record (token : Token) : LogRecord where
  level := .trace
  target := lexingTarget
  message := "token " ++ token.kind.title ++ " on line " ++ toString token.line

/-- The record of a text that was cut into tokens to its end. -/
def tokensRecord (tokenCount lineCount : Nat) : LogRecord where
  level := .debug
  target := lexingTarget
  message :=
    "lexed " ++ toString tokenCount ++ " tokens over " ++ toString lineCount ++ " lines"

/-- What reading to the end comes to: the tokens read, the error that stopped it if there was one,
where the scanner stands after it, and the records that were written on the way. -/
structure Scan where
  tokens : List Token
  error : Option LexicalError
  scanner : Scanner
  records : List LogRecord := []

namespace Scanner

/-- Read tokens until the end of the text or an error, behind a number of tokens read before.  Every
token is written to the log, and so is the number of them at the end of the text; a limit says what
is kept of that, which is nothing unless there is one. -/
def scan (scanner : Scanner) (limit : LogLimit := none) (count : Nat := 0) : Scan :=
  match _step : scanner.next with
  | (.ok (some token), after) =>
    let later := after.scan limit (count + 1)
    { later with
      tokens := token :: later.tokens
      records := limit.retain token.record ++ later.records }
  | (.ok none, after) =>
    { tokens := []
      error := none
      scanner := after
      records := limit.retain (tokensRecord count after.line) }
  | (.error error, after) => { tokens := [], error := some error, scanner := after }
termination_by scanner.rest.length
decreasing_by exact length_rest_lt_of_next _step

/-- Read all tokens that are left.  An error loses the tokens read before it. -/
def tokenize (scanner : Scanner) : Except LexicalError (List Token) × Scanner :=
  let scan := scanner.scan
  match scan.error with
  | none => (.ok scan.tokens, scan.scanner)
  | some error => (.error error, scan.scanner)

end Scanner

def tokenize (source : String) : Except LexicalError (List Token) :=
  (Scanner.ofSource source).tokenize.1

end StatementLang
