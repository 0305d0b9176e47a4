import Mathlib.Data.List.Basic
import StatementLang.Token.Scanner

/-!
# Lexemes

A lexeme is a run of letters, a run of digits or a single mark, and says which token it spells.  Two
texts are apart if no run goes on across the place where they meet.  Blanks belong to no lexeme.
-/

namespace StatementLang

theorem isAlpha_iff_toNat {c : Char} :
    c.isAlpha = true ↔ (65 ≤ c.toNat ∧ c.toNat ≤ 90) ∨ (97 ≤ c.toNat ∧ c.toNat ≤ 122) := by
  have hletter : c.isAlpha = (c.isUpper || c.isLower) := rfl
  have hupper : c.isUpper = decide (65 ≤ c.toNat ∧ c.toNat ≤ 90) := rfl
  have hlower : c.isLower = (decide (97 ≤ c.toNat) && decide (c.toNat ≤ 122)) := rfl
  simp only [hletter, hupper, hlower, Bool.or_eq_true, Bool.and_eq_true, decide_eq_true_eq]

theorem isDigit_iff_toNat {c : Char} : c.isDigit = true ↔ 48 ≤ c.toNat ∧ c.toNat ≤ 57 := by
  simp [Char.isDigit, UInt32.le_iff_toNat_le]

theorem isAlpha_of_isDigit {c : Char} (h : c.isDigit = true) : c.isAlpha = false := by
  rw [isDigit_iff_toNat] at h
  rw [← Bool.not_eq_true, isAlpha_iff_toNat]
  omega

/-- No blank is a letter or a digit. -/
theorem not_isAlpha_isDigit_of_isBlank {c : Char} (h : Text.isBlank c = true) :
    c.isAlpha = false ∧ c.isDigit = false := by
  simp only [Text.isBlank, Text.blankRanges, List.any_cons, List.any_nil, Bool.or_eq_true,
    Bool.and_eq_true, decide_eq_true_eq, Bool.false_eq_true, or_false] at h
  simp only [← Bool.not_eq_true, isAlpha_iff_toNat, isDigit_iff_toNat]
  omega

theorem eq_of_ofMark? {c : Char} {kind : Kind} (h : Kind.ofMark? c = some kind) :
    c = '=' ∧ kind = .equal ∨ c = '(' ∧ kind = .openParen ∨
      c = ')' ∧ kind = .closeParen ∨ c = ';' ∧ kind = .semicolon := by
  unfold Kind.ofMark? at h
  split at h <;> simp_all

/-- No mark is a letter, a digit or a blank. -/
theorem classes_of_ofMark? {c : Char} {kind : Kind} (h : Kind.ofMark? c = some kind) :
    c.isAlpha = false ∧ c.isDigit = false ∧ Text.isBlank c = false := by
  rcases eq_of_ofMark? h with ⟨rfl, -⟩ | ⟨rfl, -⟩ | ⟨rfl, -⟩ | ⟨rfl, -⟩ <;> decide

theorem class_of_isAlpha {c : Char} (h : c.isAlpha = true) : CharacterClass.of c = .letter := by
  simp only [CharacterClass.of, h, if_true]

theorem class_of_isDigit {c : Char} (h : c.isDigit = true) : CharacterClass.of c = .digit := by
  simp only [CharacterClass.of, isAlpha_of_isDigit h, h, if_true, Bool.false_eq_true, if_false]

theorem class_of_ofMark? {c : Char} {kind : Kind} (h : Kind.ofMark? c = some kind) :
    CharacterClass.of c = .mark kind := by
  obtain ⟨hletter, hdigit, -⟩ := classes_of_ofMark? h
  simp only [CharacterClass.of, hletter, hdigit, h, Bool.false_eq_true, if_false]

theorem class_eq_mark {c : Char} {kind : Kind} (h : CharacterClass.of c = .mark kind) :
    Kind.ofMark? c = some kind := by
  unfold CharacterClass.of at h
  grind

theorem class_eq_blank {c : Char} (h : CharacterClass.of c = .blank) :
    Text.isBlank c = true := by
  unfold CharacterClass.of at h
  grind

theorem class_eq_foreign {c : Char} (h : CharacterClass.of c = .foreign) :
    Text.isBlank c = false := by
  unfold CharacterClass.of at h
  grind

/-- The two classes of characters whose runs are lexemes. -/
inductive RunClass where
  | letters
  | digits
deriving DecidableEq, Repr

namespace RunClass

def belongs : RunClass → Char → Bool
  | letters => Char.isAlpha
  | digits => Char.isDigit

def token : RunClass → String → Nat → Token
  | letters => Token.ofWord
  | digits => Token.ofDigits

@[simp]
theorem lexeme_token (run : RunClass) (text : String) (line : Nat) :
    (run.token text line).lexeme = text := by
  cases run with
  | letters => exact Token.lexeme_ofWord text line
  | digits => exact Token.lexeme_ofDigits text line

/-- No character is of both classes. -/
theorem eq_of_belongs {run other : RunClass} {c : Char} (h : run.belongs c = true)
    (h' : other.belongs c = true) : run = other := by
  cases run <;> cases other
  · rfl
  · cases (isAlpha_of_isDigit h').symm.trans h
  · cases (isAlpha_of_isDigit h).symm.trans h'
  · rfl

theorem not_isBlank {run : RunClass} {c : Char} (h : run.belongs c = true) :
    Text.isBlank c = false := by
  rw [← Bool.not_eq_true]
  intro hblank
  obtain ⟨hletter, hdigit⟩ := not_isAlpha_isDigit_of_isBlank hblank
  cases run with
  | letters => cases hletter.symm.trans h
  | digits => cases hdigit.symm.trans h

theorem ofMark?_eq_none {run : RunClass} {c : Char} (h : run.belongs c = true) :
    Kind.ofMark? c = none := by
  rw [Option.eq_none_iff_forall_ne_some]
  intro kind hmark
  obtain ⟨hletter, hdigit, -⟩ := classes_of_ofMark? hmark
  cases run with
  | letters => cases hletter.symm.trans h
  | digits => cases hdigit.symm.trans h

end RunClass

/-- A text spells a token on a line. -/
inductive Spells (line : Nat) : List Char → Token → Prop where
  | keyword (keyword : Keyword) :
      Spells line keyword.text.toList { kind := .keyword keyword, line }
  | identifier {word : List Char} (nonempty : word ≠ []) (letters : ∀ c ∈ word, c.isAlpha = true)
      (free : ∀ keyword : Keyword, word ≠ keyword.text.toList) :
      Spells line word { kind := .identifier, line, value := some (String.ofList word) }
  | integer {digits : List Char} (nonempty : digits ≠ [])
      (decimal : ∀ c ∈ digits, c.isDigit = true) :
      Spells line digits { kind := .integer, line, value := some (String.ofList digits) }
  | equal : Spells line ['='] { kind := .equal, line }
  | openParen : Spells line ['('] { kind := .openParen, line }
  | closeParen : Spells line [')'] { kind := .closeParen, line }
  | semicolon : Spells line [';'] { kind := .semicolon, line }

theorem Keyword.isAlpha_of_mem_text {keyword : Keyword} {c : Char}
    (h : c ∈ keyword.text.toList) : c.isAlpha = true := by
  have hall : keyword.text.toList.all Char.isAlpha = true := by cases keyword <;> decide
  exact List.all_eq_true.mp hall c h

theorem Keyword.text_ne_nil (keyword : Keyword) : keyword.text.toList ≠ [] := by
  cases keyword <;> decide

theorem Token.ofWord_text (keyword : Keyword) (line : Nat) :
    Token.ofWord keyword.text line = { kind := .keyword keyword, line } := by
  simp only [Token.ofWord, Keyword.ofText?_text]

theorem Token.ofWord_of_free {word : List Char} (line : Nat)
    (h : ∀ keyword : Keyword, word ≠ keyword.text.toList) :
    Token.ofWord (String.ofList word) line =
      { kind := .identifier, line, value := some (String.ofList word) } := by
  unfold Token.ofWord
  split
  · rename_i keyword found
    have hword := congrArg String.toList (Keyword.ofText?_eq_some_iff.mp found)
    rw [String.toList_ofList] at hword
    exact absurd hword (h keyword)
  · rfl

/-- A run of letters spells the keyword of that text, or else an identifier. -/
theorem spells_ofWord {word : List Char} (line : Nat) (nonempty : word ≠ [])
    (letters : ∀ c ∈ word, c.isAlpha = true) :
    Spells line word (.ofWord (String.ofList word) line) := by
  by_cases h : ∃ keyword : Keyword, word = keyword.text.toList
  · obtain ⟨keyword, rfl⟩ := h
    rw [String.ofList_toList, Token.ofWord_text]
    exact .keyword keyword
  · have free : ∀ keyword : Keyword, word ≠ keyword.text.toList := fun keyword same ↦
      h ⟨keyword, same⟩
    rw [Token.ofWord_of_free line free]
    exact .identifier nonempty letters free

theorem spells_run {run : RunClass} {text : List Char} (line : Nat) (nonempty : text ≠ [])
    (hrun : ∀ c ∈ text, run.belongs c = true) :
    Spells line text (run.token (String.ofList text) line) := by
  cases run with
  | letters => exact spells_ofWord line nonempty hrun
  | digits => exact .integer nonempty hrun

theorem spells_mark {c : Char} {kind : Kind} (line : Nat) (h : Kind.ofMark? c = some kind) :
    Spells line [c] { kind, line } := by
  rcases eq_of_ofMark? h with ⟨rfl, rfl⟩ | ⟨rfl, rfl⟩ | ⟨rfl, rfl⟩ | ⟨rfl, rfl⟩
  · exact .equal
  · exact .openParen
  · exact .closeParen
  · exact .semicolon

/-- A lexeme is a run of letters, a run of digits or a mark. -/
theorem Spells.form {line : Nat} {text : List Char} {token : Token} (h : Spells line text token) :
    (∃ run : RunClass, text ≠ [] ∧ (∀ c ∈ text, run.belongs c = true) ∧
      token = run.token (String.ofList text) line) ∨
    ∃ c kind, text = [c] ∧ Kind.ofMark? c = some kind ∧ token = { kind, line } := by
  cases h with
  | keyword keyword =>
    refine Or.inl ⟨.letters, keyword.text_ne_nil, fun c ↦ Keyword.isAlpha_of_mem_text, ?_⟩
    rw [String.ofList_toList, RunClass.token, Token.ofWord_text]
  | identifier nonempty letters free =>
    exact Or.inl ⟨.letters, nonempty, letters, (Token.ofWord_of_free line free).symm⟩
  | integer nonempty decimal => exact Or.inl ⟨.digits, nonempty, decimal, rfl⟩
  | equal => exact Or.inr ⟨'=', .equal, rfl, rfl, rfl⟩
  | openParen => exact Or.inr ⟨'(', .openParen, rfl, rfl, rfl⟩
  | closeParen => exact Or.inr ⟨')', .closeParen, rfl, rfl, rfl⟩
  | semicolon => exact Or.inr ⟨';', .semicolon, rfl, rfl, rfl⟩

section

variable {line : Nat} {text : List Char} {token : Token}

theorem Spells.line_eq (h : Spells line text token) : token.line = line := by
  cases h <;> rfl

theorem Spells.lexeme_eq (h : Spells line text token) : token.lexeme = String.ofList text := by
  rcases h.form with ⟨run, -, -, rfl⟩ | ⟨c, kind, rfl, hmark, rfl⟩
  · exact run.lexeme_token _ _
  · exact (Kind.spelling_of_ofMark? hmark).trans String.singleton_eq_ofList

theorem Spells.ne_nil (h : Spells line text token) : text ≠ [] := by
  rcases h.form with ⟨run, nonempty, -⟩ | ⟨c, kind, rfl, -⟩
  · exact nonempty
  · exact List.cons_ne_nil c []

theorem Spells.not_isBlank (h : Spells line text token) {c : Char} (hmem : c ∈ text) :
    Text.isBlank c = false := by
  rcases h.form with ⟨run, -, hrun, -⟩ | ⟨mark, kind, rfl, hmark, -⟩
  · exact RunClass.not_isBlank (hrun c hmem)
  · obtain rfl := List.mem_singleton.mp hmem
    exact (classes_of_ofMark? hmark).2.2

/-- A lexeme with one character of a class is a run of this class. -/
theorem Spells.run_of_mem (h : Spells line text token) {run : RunClass} {c : Char}
    (hmem : c ∈ text) (hc : run.belongs c = true) : ∀ d ∈ text, run.belongs d = true := by
  rcases h.form with ⟨other, -, hother, -⟩ | ⟨mark, kind, rfl, hmark, -⟩
  · obtain rfl := RunClass.eq_of_belongs (hother c hmem) hc
    exact hother
  · obtain rfl := List.mem_singleton.mp hmem
    cases (RunClass.ofMark?_eq_none hc).symm.trans hmark

/-- A lexeme stands on one line. -/
theorem Spells.count_lineFeed (h : Spells line text token) : text.count '\n' = 0 := by
  apply List.count_eq_zero_of_not_mem
  intro hmem
  cases h.not_isBlank hmem

end

end StatementLang
