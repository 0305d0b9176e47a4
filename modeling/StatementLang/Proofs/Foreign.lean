import StatementLang.Proofs.Lexing
import StatementLang.Source

/-!
# Characters of No Token

A source text with a character of no class is refused for the first such character, on the line
reached there.  Statements are built only after the whole text is cut into tokens, so that no error
of grammar is reported for such a text.
-/

namespace StatementLang

/-- A character is foreign if it is no letter or digit of ASCII, no mark, and no blank. -/
def isForeign (c : Char) : Bool :=
  !(c.isAlpha || c.isDigit || ['=', '(', ')', ';'].contains c || Text.isBlank c)

theorem isForeign_eq_false_iff {c : Char} :
    isForeign c = false ↔
      c.isAlpha = true ∨ c.isDigit = true ∨ c ∈ ['=', '(', ')', ';'] ∨
        Text.isBlank c = true := by
  simp only [isForeign, Bool.not_eq_false', Bool.or_eq_true, List.contains_iff_mem, or_assoc]

theorem mem_marks_iff {c : Char} :
    c ∈ ['=', '(', ')', ';'] ↔ ∃ kind, Kind.ofMark? c = some kind := by
  constructor
  · simp only [List.mem_cons, List.not_mem_nil, or_false]
    rintro (rfl | rfl | rfl | rfl) <;> exact ⟨_, rfl⟩
  · rintro ⟨kind, h⟩
    rcases eq_of_ofMark? h with ⟨rfl, -⟩ | ⟨rfl, -⟩ | ⟨rfl, -⟩ | ⟨rfl, -⟩ <;> decide

theorem class_eq_foreign_iff {c : Char} : CharacterClass.of c = .foreign ↔ isForeign c = true := by
  rw [← not_iff_not, Bool.not_eq_true, isForeign_eq_false_iff, mem_marks_iff]
  unfold CharacterClass.of
  grind

theorem isForeign_of_isBlank {c : Char} (h : Text.isBlank c = true) : isForeign c = false :=
  isForeign_eq_false_iff.mpr (Or.inr (Or.inr (Or.inr h)))

/-- No character of a lexeme is foreign. -/
theorem Spells.not_isForeign {line : Nat} {text : List Char} {token : Token}
    (h : Spells line text token) {c : Char} (hmem : c ∈ text) : isForeign c = false := by
  rw [isForeign_eq_false_iff]
  rcases h.form with ⟨run, -, hrun, -⟩ | ⟨mark, kind, rfl, hmark, -⟩
  · cases run with
    | letters => exact Or.inl (hrun c hmem)
    | digits => exact Or.inr (Or.inl (hrun c hmem))
  · obtain rfl := List.mem_singleton.mp hmem
    exact Or.inr (Or.inr (Or.inl (mem_marks_iff.mpr ⟨kind, hmark⟩)))

/-- No character of a text that is cut into tokens is foreign. -/
theorem Lexes.not_isForeign {line : Nat} {text : List Char} {tokens : List Token}
    (h : Lexes line text tokens) : ∀ c ∈ text, isForeign c = false := by
  induction h with
  | blank blank => exact fun c hmem ↦ isForeign_of_isBlank (blank c hmem)
  | token blank spelled _ _ ih =>
    rw [List.forall_mem_append, List.forall_mem_append]
    exact ⟨fun c hmem ↦ isForeign_of_isBlank (blank c hmem), fun c ↦ spelled.not_isForeign, ih⟩

/-- The longest part of a text from its start that has no foreign character. -/
def readablePart (text : List Char) : List Char := text.takeWhile fun c ↦ !isForeign c

theorem readablePart_eq_self {text : List Char} (h : ∀ c ∈ text, isForeign c = false) :
    readablePart text = text := by
  rw [readablePart, List.takeWhile_eq_self_iff]
  intro c hmem
  rw [h c hmem, Bool.not_false]

theorem readablePart_append {before later : List Char} {c : Char}
    (h : ∀ d ∈ before, isForeign d = false) (foreign : isForeign c = true) :
    readablePart (before ++ c :: later) = before := by
  apply takeWhile_of_run
  · intro d hmem
    rw [h d hmem, Bool.not_false]
  · intro d hhead
    obtain rfl := Option.some.inj hhead
    rw [foreign, Bool.not_true]

/-- A text is cut into tokens, or it is read up to its first foreign character. -/
theorem tokenize_outcome (source : String) :
    (∃ tokens, tokenize source = .ok tokens ∧ ∀ c ∈ source.toList, isForeign c = false) ∨
    ∃ before c later, source.toList = before ++ c :: later ∧
      (∀ d ∈ before, isForeign d = false) ∧ isForeign c = true ∧
      tokenize source = .error { character := c, line := 1 + before.count '\n' } := by
  rcases Scanner.scan_outcome (.ofSource source) with
    ⟨tokens, lexes⟩ | ⟨tokens, before, c, later, split, foreign, lexes, hscan⟩
  · exact Or.inl ⟨tokens, tokenize_eq_ok_iff_lexes.mpr lexes, lexes.not_isForeign⟩
  · refine Or.inr ⟨before, c, later, split, lexes.not_isForeign,
      class_eq_foreign_iff.mp foreign, ?_⟩
    simp only [tokenize, Scanner.tokenize, hscan]
    rfl

/-- The error of a text is that of its first foreign character. -/
theorem tokenize_eq_error_iff {source : String} {error : LexicalError} :
    tokenize source = .error error ↔
      ∃ before c later, source.toList = before ++ c :: later ∧
        (∀ d ∈ before, isForeign d = false) ∧ isForeign c = true ∧
        error = { character := c, line := 1 + before.count '\n' } := by
  constructor
  · intro h
    rcases tokenize_outcome source with
      ⟨tokens, hok, -⟩ | ⟨before, c, later, split, hbefore, foreign, herror⟩
    · cases hok.symm.trans h
    · exact ⟨before, c, later, split, hbefore, foreign,
        Except.error.inj (h.symm.trans herror)⟩
  · rintro ⟨before, c, later, split, hbefore, foreign, rfl⟩
    rcases tokenize_outcome source with
      ⟨tokens, -, hnone⟩ | ⟨before', c', later', split', hbefore', foreign', herror⟩
    · have hfalse := hnone c (by simp [split])
      cases hfalse.symm.trans foreign
    · obtain ⟨rfl, rfl, -⟩ :=
        split_unique (split.symm.trans split') hbefore foreign hbefore' foreign'
      exact herror

theorem exists_tokenize_error_iff {source : String} :
    (∃ error, tokenize source = .error error) ↔ ∃ c ∈ source.toList, isForeign c = true := by
  rcases tokenize_outcome source with
    ⟨tokens, hok, hnone⟩ | ⟨before, c, later, split, -, foreign, herror⟩
  · constructor
    · rintro ⟨error, herror⟩
      cases hok.symm.trans herror
    · rintro ⟨c, hmem, foreign⟩
      cases (hnone c hmem).symm.trans foreign
  · exact iff_of_true ⟨_, herror⟩ ⟨c, by simp [split], foreign⟩

theorem exists_tokenize_ok_iff {source : String} :
    (∃ tokens, tokenize source = .ok tokens) ↔ ∀ c ∈ source.toList, isForeign c = false := by
  rcases tokenize_outcome source with
    ⟨tokens, hok, hnone⟩ | ⟨before, c, later, split, -, foreign, herror⟩
  · exact iff_of_true ⟨tokens, hok⟩ hnone
  · constructor
    · rintro ⟨tokens, hok⟩
      cases hok.symm.trans herror
    · intro hnone
      cases (hnone c (by simp [split])).symm.trans foreign

section

variable {source : String}

theorem parseSource_eq_ok_iff {statements : List Statement} :
    parseSource source = .ok statements ↔
      ∃ tokens, tokenize source = .ok tokens ∧ parse tokens = .ok statements := by
  unfold parseSource
  cases htokens : tokenize source with
  | error error => simp
  | ok tokens => cases hparse : parse tokens <;> simp [hparse, Except.mapError]

theorem parseSource_eq_lexical_iff {error : LexicalError} :
    parseSource source = .error (.lexical error) ↔ tokenize source = .error error := by
  unfold parseSource
  cases htokens : tokenize source with
  | error other => simp
  | ok tokens =>
    cases hparse : parse tokens <;> simp [hparse, Except.mapError, Failure.ofRejection]

theorem parseSource_eq_grammatical_iff {detail : String} {line : Nat} :
    parseSource source = .error (.grammatical detail line) ↔
      ∃ tokens rejection, tokenize source = .ok tokens ∧ parse tokens = .error rejection ∧
        rejection.fault.message = detail ∧ rejection.line = line := by
  unfold parseSource
  cases htokens : tokenize source with
  | error other => simp
  | ok tokens =>
    cases hparse : parse tokens <;> simp [hparse, Except.mapError, Failure.ofRejection]

/-- The text of a failure names the first character that belongs to no token, or else the fault of
grammar, and the line of either. -/
theorem message_of_parseSource_error {failure : Failure}
    (failed : parseSource source = .error failure) :
    (∃ before c later, source.toList = before ++ c :: later ∧
      (∀ d ∈ before, isForeign d = false) ∧ isForeign c = true ∧
      failure.message =
        "Unexpected character '" ++ c.toString ++ "' on line " ++
          toString (1 + before.count '\n')) ∨
    ∃ tokens rejection, tokenize source = .ok tokens ∧ parse tokens = .error rejection ∧
      failure.message =
        "On line " ++ toString rejection.line ++ " -> " ++ rejection.fault.message := by
  cases failure with
  | lexical error =>
    obtain ⟨before, c, later, split, hbefore, foreign, rfl⟩ :=
      tokenize_eq_error_iff.mp (parseSource_eq_lexical_iff.mp failed)
    exact Or.inl ⟨before, c, later, split, hbefore, foreign, rfl⟩
  | grammatical detail line =>
    obtain ⟨tokens, rejection, htokens, hrejection, rfl, rfl⟩ :=
      parseSource_eq_grammatical_iff.mp failed
    exact Or.inr ⟨tokens, rejection, htokens, hrejection, rfl⟩

end

/-- A text is refused for its first foreign character, whatever its tokens are.  An error of grammar
is one of all the tokens of a text without foreign characters. -/
theorem lexical_error_at_first_foreign_character (source : String) :
    ((∃ error, tokenize source = .error error) ↔ ∃ c ∈ source.toList, isForeign c = true) ∧
    (∀ error, tokenize source = .error error ↔
      ∃ before c later, source.toList = before ++ c :: later ∧
        (∀ d ∈ before, isForeign d = false) ∧ isForeign c = true ∧
        error = { character := c, line := 1 + before.count '\n' }) ∧
    (∀ error, parseSource source = .error (.lexical error) ↔ tokenize source = .error error) ∧
    (∀ detail line, parseSource source = .error (.grammatical detail line) ↔
      (∀ c ∈ source.toList, isForeign c = false) ∧
        ∃ tokens rejection, tokenize source = .ok tokens ∧ parse tokens = .error rejection ∧
          rejection.fault.message = detail ∧ rejection.line = line) := by
  refine ⟨exists_tokenize_error_iff, fun error ↦ tokenize_eq_error_iff,
    fun error ↦ parseSource_eq_lexical_iff, fun detail line ↦ ?_⟩
  rw [parseSource_eq_grammatical_iff]
  constructor
  · rintro ⟨tokens, rejection, htokens, rest⟩
    exact ⟨exists_tokenize_ok_iff.mp ⟨tokens, htokens⟩, tokens, rejection, htokens, rest⟩
  · exact And.right

/-- The second line holds two characters of no token, and a statement before them is unfinished. -/
theorem lexical_error_behind_unfinished_statement :
    let source := "quit 0)\nlet é = 2*3;"
    tokenize source = .error { character := 'é', line := 2 } ∧
      parseSource source = .error (.lexical { character := 'é', line := 2 }) := by
  intro source
  obtain ⟨-, herror, hlexical, -⟩ := lexical_error_at_first_foreign_character source
  have hall : ("quit 0)\nlet ".toList.all fun d ↦ !isForeign d) = true := by decide
  have hbefore : ∀ d ∈ "quit 0)\nlet ".toList, isForeign d = false := by
    intro d hmem
    simpa using List.all_eq_true.mp hall d hmem
  have htokenize : tokenize source = .error { character := 'é', line := 2 } :=
    (herror _).mpr ⟨_, 'é', " = 2*3;".toList, by decide, hbefore, by decide, by decide⟩
  exact ⟨htokenize, (hlexical _).mpr htokenize⟩

end StatementLang
