import Mathlib.Data.List.Forall2
import StatementLang.Proofs.Foreign
import StatementLang.Proofs.Program
import StatementLang.Source.Printer

/-!
# Source Texts and Well-Formed Programs

The statements read from a source text are well formed, and well-formed statements are read back
from their printed text.  In both directions the lines matter: a statement keeps the lines of its
keyword, its identifier and its integer, and the punctuation may stand on any line in between.
-/

namespace StatementLang

/-- A token is what its own lexeme spells on its line. -/
def Token.IsSpelled (token : Token) : Prop :=
  Spells token.line token.lexeme.toList token

section

variable {line : Nat} {text : List Char} {token : Token}

theorem Spells.isSpelled (h : Spells line text token) : token.IsSpelled := by
  rw [Token.IsSpelled, h.line_eq, h.lexeme_eq, String.toList_ofList]
  exact h

theorem Spells.isInteger (h : Spells line text token) (hkind : token.kind = .integer) :
    token.IsInteger := by
  cases h with
  | integer nonempty decimal =>
    refine ⟨rfl, String.ofList text, rfl, mt String.ofList_eq_empty_iff.mp nonempty, ?_⟩
    rw [String.toList_ofList]
    exact decimal
  | _ => cases hkind

theorem Spells.isIdentifier (h : Spells line text token) (hkind : token.kind = .identifier) :
    token.IsIdentifier := by
  cases h with
  | identifier nonempty letters free =>
    refine ⟨rfl, String.ofList text, rfl, mt String.ofList_eq_empty_iff.mp nonempty, ?_, ?_⟩
    · rw [String.toList_ofList]
      exact letters
    · intro keyword same
      apply free keyword
      rw [← same, String.toList_ofList]
  | _ => cases hkind

theorem Token.IsInteger.isSpelled (h : token.IsInteger) : token.IsSpelled := by
  obtain ⟨kind, line, value⟩ := token
  obtain ⟨rfl, digits, rfl, nonempty, decimal⟩ := h
  have hspells : Spells line digits.toList _ :=
    .integer (mt String.toList_eq_nil_iff.mp nonempty) decimal
  rw [String.ofList_toList] at hspells
  exact hspells

theorem Token.IsIdentifier.isSpelled (h : token.IsIdentifier) : token.IsSpelled := by
  obtain ⟨kind, line, value⟩ := token
  obtain ⟨rfl, word, rfl, nonempty, letters, free⟩ := h
  have hspells : Spells line word.toList _ :=
    .identifier (mt String.toList_eq_nil_iff.mp nonempty) letters
      fun keyword same ↦ free keyword (String.toList_inj.mp same)
  rw [String.ofList_toList] at hspells
  exact hspells

end

/-- The tokens of a text are spelled. -/
theorem Lexes.isSpelled {line : Nat} {text : List Char} {tokens : List Token}
    (h : Lexes line text tokens) : ∀ token ∈ tokens, token.IsSpelled := by
  induction h with
  | blank => simp
  | token _ spelled _ _ ih => exact List.forall_mem_cons.mpr ⟨spelled.isSpelled, ih⟩

/-- A statement derived from spelled tokens is spelled. -/
theorem Derives.isSpelled {group : List Token} {statement : Statement}
    (h : Derives group statement) (spelled : ∀ token ∈ group, token.IsSpelled) :
    statement.IsSpelled := by
  cases h with
  | quit shape =>
    obtain ⟨-, -, hvalue, -, -⟩ := map_kind_eq_callShape_iff.mp shape
    exact (spelled _ (by simp)).isInteger hvalue
  | log shape =>
    obtain ⟨-, -, hvalue, -, -⟩ := map_kind_eq_callShape_iff.mp shape
    exact (spelled _ (by simp)).isInteger hvalue
  | letBinder shape =>
    obtain ⟨-, hidentifier, -, hvalue, -⟩ := map_kind_eq_declarationShape_iff.mp shape
    exact ⟨(spelled _ (by simp)).isIdentifier hidentifier, (spelled _ (by simp)).isInteger hvalue⟩
  | constBinder shape =>
    obtain ⟨-, hidentifier, -, hvalue, -⟩ := map_kind_eq_declarationShape_iff.mp shape
    exact ⟨(spelled _ (by simp)).isIdentifier hidentifier, (spelled _ (by simp)).isInteger hvalue⟩

/-- A statement keeps some lines of its tokens, in their order. -/
theorem Derives.lines_sublist {group : List Token} {statement : Statement}
    (h : Derives group statement) : statement.lines.Sublist (group.map Token.line) := by
  cases h <;> simp [Statement.lines]

namespace DerivesProgram

variable {tokens : List Token} {statements : List Statement}

theorem isSpelled (h : DerivesProgram tokens statements)
    (spelled : ∀ token ∈ tokens, token.IsSpelled) :
    ∀ statement ∈ statements, statement.IsSpelled := by
  induction h with
  | nil => simp
  | ending derived => simpa using derived.isSpelled spelled
  | cons derived _ _ ih =>
    obtain ⟨hgroup, hlater⟩ := List.forall_mem_append.mp spelled
    exact List.forall_mem_cons.mpr ⟨derived.isSpelled hgroup, ih hlater⟩

theorem lines_sublist (h : DerivesProgram tokens statements) :
    (statements.flatMap Statement.lines).Sublist (tokens.map Token.line) := by
  induction h with
  | nil => exact List.Sublist.refl []
  | ending derived => simpa using derived.lines_sublist
  | cons derived _ _ ih =>
    rw [List.flatMap_cons, List.map_append]
    exact derived.lines_sublist.append ih

/-- A program whose tokens are those of a text is well formed. -/
theorem wellFormed {text : List Char} (h : DerivesProgram tokens statements)
    (lexes : Lexes 1 text tokens) : WellFormed statements where
  spelled := h.isSpelled lexes.isSpelled
  ordered := lexes.lines_ordered.sublist (h.lines_sublist.cons_cons 1)
  ends := by
    obtain ⟨groups, -, -, ends⟩ := derivesProgram_iff_groups.mp h
    exact ends

end DerivesProgram

/-! ## From statements to their source text -/

/-- Between two tokens stand blanks, with a line feed for every line from one to the other. -/
theorem isBlank_of_mem_gap {line next : Nat} : ∀ c ∈ gap line next, Text.isBlank c = true := by
  intro c hmem
  unfold gap at hmem
  split at hmem
  · rw [List.eq_of_mem_replicate hmem]
    decide
  · rw [List.mem_singleton.mp hmem]
    decide

theorem count_gap {line next : Nat} (h : line ≤ next) :
    line + (gap line next).count '\n' = next := by
  unfold gap
  split
  · rw [List.count_replicate_self]
    omega
  · have hnone : [' '].count '\n' = 0 := by decide
    omega

theorem gap_ne_nil (line next : Nat) : gap line next ≠ [] := by
  unfold gap
  split
  · rw [ne_eq, List.replicate_eq_nil_iff]
    omega
  · exact List.cons_ne_nil _ _

theorem apart_printTokens (text : List Char) (line : Nat) (tokens : List Token) :
    Apart text (printTokens line tokens) := by
  cases tokens with
  | nil => exact apart_nil_right text
  | cons token tokens =>
    rw [printTokens, List.append_assoc]
    exact apart_blanks_right (gap_ne_nil _ _) isBlank_of_mem_gap

/-- Spelled tokens whose lines never go back are read from their printed text. -/
theorem lexes_printTokens {line : Nat} {tokens : List Token}
    (spelled : ∀ token ∈ tokens, token.IsSpelled)
    (ordered : (line :: tokens.map Token.line).IsChain (· ≤ ·)) :
    Lexes line (printTokens line tokens) tokens := by
  induction tokens generalizing line with
  | nil => exact .blank (by simp [printTokens])
  | cons token tokens ih =>
    obtain ⟨hspelled, hlater⟩ := List.forall_mem_cons.mp spelled
    obtain ⟨hline, hordered⟩ := List.isChain_cons_cons.mp ordered
    have hcount := count_gap hline
    rw [printTokens, List.append_assoc]
    apply Lexes.token isBlank_of_mem_gap
    · rw [hcount]
      exact hspelled
    · exact apart_printTokens _ _ _
    · rw [hcount]
      exact ih hlater hordered

namespace Statement

theorem isSpelled_of_mem_callTokens (keyword : Keyword) {value : Token} (h : value.IsInteger)
    (line : Nat) : ∀ token ∈ callTokens keyword value line, token.IsSpelled := by
  simp only [callTokens, List.forall_mem_cons]
  exact ⟨(Spells.keyword keyword).isSpelled, Spells.openParen.isSpelled, h.isSpelled,
    Spells.closeParen.isSpelled, Spells.semicolon.isSpelled, List.forall_mem_nil _⟩

theorem isSpelled_of_mem_declarationTokens (keyword : Keyword) {identifier value : Token}
    (hidentifier : identifier.IsIdentifier) (hvalue : value.IsInteger) (line : Nat) :
    ∀ token ∈ declarationTokens keyword identifier value line, token.IsSpelled := by
  simp only [declarationTokens, List.forall_mem_cons]
  exact ⟨(Spells.keyword keyword).isSpelled, hidentifier.isSpelled, Spells.equal.isSpelled,
    hvalue.isSpelled, Spells.semicolon.isSpelled, List.forall_mem_nil _⟩

/-- A spelled statement is printed with spelled tokens. -/
theorem isSpelled_of_mem_tokens {statement : Statement} (h : statement.IsSpelled) :
    ∀ token ∈ statement.tokens, token.IsSpelled := by
  cases statement with
  | quit value line => exact isSpelled_of_mem_callTokens .quit h line
  | log value line => exact isSpelled_of_mem_callTokens .log h line
  | declaration identifier value constant line =>
    cases constant
    · exact isSpelled_of_mem_declarationTokens .letBinder h.1 h.2 line
    · exact isSpelled_of_mem_declarationTokens .constBinder h.1 h.2 line

/-- The tokens that a spelled statement is printed with are a group of that statement. -/
theorem derives_tokens {statement : Statement} (h : statement.IsSpelled) :
    Derives statement.tokens statement := by
  cases statement with
  | quit value line => exact .quit (map_kind_eq_callShape_iff.mpr ⟨rfl, rfl, h.1, rfl, rfl⟩)
  | log value line => exact .log (map_kind_eq_callShape_iff.mpr ⟨rfl, rfl, h.1, rfl, rfl⟩)
  | declaration identifier value constant line =>
    obtain ⟨hidentifier, hvalue⟩ := h
    cases constant
    · exact .letBinder
        (map_kind_eq_declarationShape_iff.mpr ⟨rfl, hidentifier.1, rfl, hvalue.1, rfl⟩)
    · exact .constBinder
        (map_kind_eq_declarationShape_iff.mpr ⟨rfl, hidentifier.1, rfl, hvalue.1, rfl⟩)

/-- The lines of punctuation are those of the tokens before, so that no line goes back. -/
theorem isChain_append_lines_tokens (statement : Statement) {line : Nat} {lines others : List Nat}
    (h : ∀ {last : Nat}, (last :: lines).IsChain (· ≤ ·) → (last :: others).IsChain (· ≤ ·))
    (ordered : (line :: (statement.lines ++ lines)).IsChain (· ≤ ·)) :
    (line :: (statement.tokens.map Token.line ++ others)).IsChain (· ≤ ·) := by
  -- Punctuation only repeats a line that is there already.
  rcases statement with ⟨value, first⟩ | ⟨value, first⟩ | ⟨identifier, value, _ | _, first⟩
  all_goals
    simp only [Statement.lines, tokens, callTokens, declarationTokens, List.map_cons,
      List.map_nil, List.cons_append, List.nil_append, List.isChain_cons_cons, Nat.le_refl,
      true_and] at ordered ⊢
  · exact ⟨ordered.1, ordered.2.1, h ordered.2.2⟩
  · exact ⟨ordered.1, ordered.2.1, h ordered.2.2⟩
  · exact ⟨ordered.1, ordered.2.1, ordered.2.2.1, h ordered.2.2.2⟩
  · exact ⟨ordered.1, ordered.2.1, ordered.2.2.1, h ordered.2.2.2⟩

end Statement

theorem isChain_lines_tokens {line : Nat} {statements : List Statement}
    (ordered : (line :: statements.flatMap Statement.lines).IsChain (· ≤ ·)) :
    (line :: (statements.flatMap Statement.tokens).map Token.line).IsChain (· ≤ ·) := by
  induction statements generalizing line with
  | nil => exact .singleton line
  | cons statement statements ih =>
    rw [List.flatMap_cons, List.map_append]
    exact statement.isChain_append_lines_tokens ih ordered

namespace WellFormed

variable {statements : List Statement}

theorem isSpelled_of_mem_tokens (h : WellFormed statements) :
    ∀ token ∈ statements.flatMap Statement.tokens, token.IsSpelled := by
  intro token hmem
  obtain ⟨statement, hstatement, htoken⟩ := List.mem_flatMap.mp hmem
  exact Statement.isSpelled_of_mem_tokens (h.spelled statement hstatement) token htoken

theorem derivesProgram (h : WellFormed statements) :
    DerivesProgram (statements.flatMap Statement.tokens) statements := by
  rw [derivesProgram_iff_groups]
  refine ⟨statements.map Statement.tokens, List.flatMap_def, ?_, h.ends⟩
  rw [List.forall₂_map_left_iff, List.forall₂_same]
  intro statement hmem
  exact Statement.derives_tokens (h.spelled statement hmem)

/-- Exactly the tokens that are printed are read. -/
theorem tokenize_printSource (h : WellFormed statements) :
    tokenize (printSource statements) = .ok (statements.flatMap Statement.tokens) := by
  rw [tokenize_eq_ok_iff_lexes, printSource, String.toList_ofList]
  exact lexes_printTokens h.isSpelled_of_mem_tokens
    (isChain_lines_tokens (List.isChain_iff_pairwise.mpr h.ordered))

theorem parseSource_printSource (h : WellFormed statements) :
    parseSource (printSource statements) = .ok statements :=
  parseSource_eq_ok_iff.mpr
    ⟨_, h.tokenize_printSource, parse_eq_ok_iff.mpr h.derivesProgram⟩

end WellFormed

/-- Exactly the well-formed programs are read from source texts.  Printing such a program gives a
text of the printed tokens, and from it the program is read again. -/
theorem exists_source_iff_wellFormed (statements : List Statement) :
    ((∃ source, parseSource source = .ok statements) ↔ WellFormed statements) ∧
    (WellFormed statements →
      tokenize (printSource statements) = .ok (statements.flatMap Statement.tokens) ∧
        parseSource (printSource statements) = .ok statements) := by
  constructor
  · constructor
    · rintro ⟨source, hsource⟩
      obtain ⟨tokens, htokens, hparse⟩ := parseSource_eq_ok_iff.mp hsource
      exact (parse_eq_ok_iff.mp hparse).wellFormed (tokenize_eq_ok_iff_lexes.mp htokens)
    · intro h
      exact ⟨printSource statements, h.parseSource_printSource⟩
  · intro h
    exact ⟨h.tokenize_printSource, h.parseSource_printSource⟩

/-- A declaration whose integer stands two lines below its identifier, and the call that ends the
program. -/
theorem print_declaration_before_quit :
    let statements : List Statement :=
      [.declaration ⟨.identifier, 2, some "lets"⟩ ⟨.integer, 4, some "007"⟩ false 2,
        .quit ⟨.integer, 4, some "0"⟩ 4]
    WellFormed statements ∧
      printSource statements = "\nlet lets =\n\n007 ; quit ( 0 ) ;" ∧
      parseSource (printSource statements) = .ok statements := by
  intro statements
  have hname : Token.IsIdentifier ⟨.identifier, 2, some "lets"⟩ := by
    refine ⟨rfl, "lets", rfl, by decide, by simp, ?_⟩
    intro keyword
    cases keyword <;> decide
  have hvalue : Token.IsInteger ⟨.integer, 4, some "007"⟩ :=
    ⟨rfl, "007", rfl, by decide, by simp⟩
  have hstatus : Token.IsInteger ⟨.integer, 4, some "0"⟩ :=
    ⟨rfl, "0", rfl, by decide, by simp⟩
  have h : WellFormed statements :=
    { spelled := by
        simp only [statements, List.forall_mem_cons]
        exact ⟨⟨hname, hvalue⟩, hstatus, List.forall_mem_nil _⟩
      ordered := by decide
      ends := by simp [statements, Statement.keyword] }
  exact ⟨h, by decide, ((exists_source_iff_wellFormed statements).2 h).2⟩

end StatementLang
