import StatementLang.Proofs.Concatenation
import StatementLang.Proofs.RoundTrip

/-!
# Layout

The lexemes of a source text decide what is built of it.  Where they stand on their lines does not
matter at all, and which lines they stand on matters only for the lines that statements and failures
carry.
-/

namespace StatementLang

def Token.withoutLine (token : Token) : Token := token.relabel (fun _ ↦ 0) id

def Statement.withoutLines (statement : Statement) : Statement :=
  statement.relabel (fun _ ↦ 0) id

theorem Token.lexeme_withoutLine (token : Token) : token.withoutLine.lexeme = token.lexeme := rfl

theorem Token.line_withoutLine (token : Token) : token.withoutLine.line = 0 := rfl

theorem Token.IsSpelled.withoutLine {token : Token} (h : token.IsSpelled) :
    token.withoutLine.IsSpelled :=
  Spells.relabel h fun _ ↦ 0

/-- A text spells one token only, since that is the token read from it. -/
theorem Spells.token_unique {line : Nat} {text : List Char} {token other : Token}
    (h : Spells line text token) (h' : Spells line text other) : token = other := by
  have hread {found : Token} (spelled : Spells line text found) :
      ∃ after, Scanner.next { rest := text, position := 0, line } = (.ok (some found), after) := by
    have hsplit : text = [] ++ (text ++ []) := by simp
    exact ⟨_, Scanner.next_of_spells hsplit (by simp) spelled (apart_nil_right text)⟩
  obtain ⟨after, hnext⟩ := hread h
  obtain ⟨after', hnext'⟩ := hread h'
  have hresult := congrArg Prod.fst (hnext.symm.trans hnext')
  exact Option.some.inj (Except.ok.inj hresult)

section

variable {tokens others : List Token} (spelled : ∀ token ∈ tokens, token.IsSpelled)
  (spelled' : ∀ token ∈ others, token.IsSpelled)
  (lexemes : tokens.map Token.lexeme = others.map Token.lexeme)

include spelled spelled' lexemes

/-- Spelled tokens are known from their lexemes and their lines. -/
theorem tokens_eq_of_lexemes_of_lines (lines : tokens.map Token.line = others.map Token.line) :
    tokens = others := by
  induction tokens generalizing others with
  | nil => exact (List.map_eq_nil_iff.mp lexemes.symm).symm
  | cons token tokens ih =>
    cases others with
    | nil => cases lexemes
    | cons other others =>
      obtain ⟨hspelled, hrest⟩ := List.forall_mem_cons.mp spelled
      obtain ⟨hspelled', hrest'⟩ := List.forall_mem_cons.mp spelled'
      obtain ⟨hlexeme, hlexemes⟩ := List.cons.inj lexemes
      obtain ⟨hline, hlines⟩ := List.cons.inj lines
      rw [Token.IsSpelled, ← hlexeme, ← hline] at hspelled'
      rw [Spells.token_unique hspelled hspelled', ih hrest hrest' hlexemes hlines]

/-- Up to their lines, spelled tokens are known from their lexemes. -/
theorem withoutLine_eq_of_lexemes :
    tokens.map Token.withoutLine = others.map Token.withoutLine := by
  have hlength : tokens.length = others.length := by
    rw [← List.length_map Token.lexeme, lexemes, List.length_map]
  apply tokens_eq_of_lexemes_of_lines
  · exact List.forall_mem_map.mpr fun token hmem ↦ (spelled token hmem).withoutLine
  · exact List.forall_mem_map.mpr fun token hmem ↦ (spelled' token hmem).withoutLine
  · simpa only [List.map_map, Function.comp_def, Token.lexeme_withoutLine] using lexemes
  · simp only [List.map_map, Function.comp_def, Token.line_withoutLine, List.map_const', hlength]

end

/-- Tokens that differ in their lines only make statements that differ in their lines only, or are
rejected for the same fault. -/
theorem parse_of_withoutLine_eq {tokens others : List Token}
    (h : tokens.map Token.withoutLine = others.map Token.withoutLine) :
    (∃ before after, parse tokens = .ok before ∧ parse others = .ok after ∧
      before.map Statement.withoutLines = after.map Statement.withoutLines) ∨
    ∃ rejection rejection', parse tokens = .error rejection ∧ parse others = .error rejection' ∧
      rejection.fault = rejection'.fault := by
  have hrelabel : tokens.map (Token.relabel (fun _ ↦ 0) id) =
      others.map (Token.relabel (fun _ ↦ 0) id) := h
  rcases parse_of_relabel_eq hrelabel with
    accepted | ⟨rejection, rejection', htokens, hothers, hfault, -⟩
  · exact Or.inl accepted
  · exact Or.inr ⟨rejection, rejection', htokens, hothers, hfault⟩

/-- Two texts with the same lexemes are read alike: as the same statements up to their lines, or as
failures of the same grammatical detail.  If the lexemes stand on the same lines, nothing at all
tells the results apart. -/
theorem parseSource_of_lexemes_eq {first second : String} {tokens others : List Token}
    (htokens : tokenize first = .ok tokens) (hothers : tokenize second = .ok others)
    (lexemes : tokens.map Token.lexeme = others.map Token.lexeme) :
    ((∃ before after, parseSource first = .ok before ∧ parseSource second = .ok after ∧
        before.map Statement.withoutLines = after.map Statement.withoutLines) ∨
      ∃ detail line line', parseSource first = .error (.grammatical detail line) ∧
        parseSource second = .error (.grammatical detail line')) ∧
    (tokens.map Token.line = others.map Token.line →
      parseSource first = parseSource second) := by
  have spelled := (tokenize_eq_ok_iff_lexes.mp htokens).isSpelled
  have spelled' := (tokenize_eq_ok_iff_lexes.mp hothers).isSpelled
  constructor
  · rcases parse_of_withoutLine_eq (withoutLine_eq_of_lexemes spelled spelled' lexemes) with
      ⟨before, after, hfirst, hsecond, same⟩ | ⟨rejection, rejection', hfirst, hsecond, same⟩
    · exact Or.inl ⟨before, after, parseSource_eq_ok_iff.mpr ⟨tokens, htokens, hfirst⟩,
        parseSource_eq_ok_iff.mpr ⟨others, hothers, hsecond⟩, same⟩
    · refine Or.inr ⟨rejection.fault.message, rejection.line, rejection'.line, ?_, ?_⟩
      · exact parseSource_eq_grammatical_iff.mpr ⟨tokens, rejection, htokens, hfirst, rfl, rfl⟩
      · rw [same]
        exact parseSource_eq_grammatical_iff.mpr ⟨others, rejection', hothers, hsecond, rfl, rfl⟩
  · intro lines
    have hsame := tokens_eq_of_lexemes_of_lines spelled spelled' lexemes lines
    unfold parseSource
    rw [htokens, hothers, hsame]

/-- A program without any blank that can be left out, and the same program over five lines; and a
rejected statement whose blanks are changed on its line. -/
theorem parseSource_of_two_layouts :
    (∃ before after, parseSource "let equal=05;quit(0);" = .ok before ∧
      parseSource "let\nequal =\t05\n;\r quit\n(0 );\n" = .ok after ∧
      before.map Statement.withoutLines = after.map Statement.withoutLines) ∧
    parseSource "log 1;" = parseSource "\x0clog\t1  ;\n" := by
  have htokens (source : String) (h : (tokenize source).isOk = true) :
      tokenize source = .ok ((tokenize source).toOption.getD []) := by
    cases hsource : tokenize source with
    | ok tokens => rfl
    | error error =>
      rw [hsource] at h
      cases h
  constructor
  · have hread := parseSource_of_lexemes_eq (htokens "let equal=05;quit(0);" (by decide +kernel))
      (htokens "let\nequal =\t05\n;\r quit\n(0 );\n" (by decide +kernel)) (by decide +kernel)
    rcases hread.1 with haccepted | ⟨detail, line, line', hfirst, -⟩
    · exact haccepted
    · have hok : (parseSource "let equal=05;quit(0);").isOk = true := by decide +kernel
      rw [hfirst] at hok
      cases hok
  · exact (parseSource_of_lexemes_eq (htokens "log 1;" (by decide +kernel))
      (htokens "\x0clog\t1  ;\n" (by decide +kernel)) (by decide +kernel)).2 (by decide +kernel)

end StatementLang
