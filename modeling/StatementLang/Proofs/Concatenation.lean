import StatementLang.Proofs.Foreign
import StatementLang.Proofs.Relabelling
import StatementLang.Proofs.Resumption

/-!
# Texts Put Together

A text that is a program can stand before any other text, since it ends with a mark or a blank.  The
tokens of the other text then stand on later lines, and nothing else about them changes: what is
built of them, and why building fails, is the same as for the other text alone.  Behind a statement
that ends the program, the first token of the other text is refused.
-/

namespace StatementLang

theorem Apart.append_right {first second : List Char} (h : Apart first second)
    (nonempty : second ≠ []) (third : List Char) : Apart first (second ++ third) := by
  unfold Apart
  rw [List.head?_append_of_ne_nil second nonempty]
  exact h

/-- A text spells the same token on every line. -/
theorem Spells.relabel {line : Nat} {text : List Char} {token : Token}
    (h : Spells line text token) (onLine : Nat → Nat) :
    Spells (onLine line) text (token.relabel onLine id) := by
  cases h with
  | keyword keyword => exact .keyword keyword
  | identifier nonempty letters free => exact .identifier nonempty letters free
  | integer nonempty decimal => exact .integer nonempty decimal
  | equal => exact .equal
  | openParen => exact .openParen
  | closeParen => exact .closeParen
  | semicolon => exact .semicolon

namespace Lexes

variable {line : Nat} {text : List Char} {tokens : List Token}

/-- On a later line, the same text has the same tokens on later lines. -/
theorem raise (h : Lexes line text tokens) (count : Nat) :
    Lexes (line + count) text (tokens.map (Token.relabel (· + count) id)) := by
  induction h with
  | blank blank => exact .blank blank
  | @token line blanks text later token tokens blank spelled apart _ ih =>
    rw [Nat.add_right_comm] at ih
    refine .token blank ?_ apart ih
    rw [Nat.add_right_comm]
    exact spelled.relabel (· + count)

/-- Blanks before a text belong to no token. -/
theorem append_blanks {blanks : List Char} (hblanks : ∀ c ∈ blanks, Text.isBlank c = true)
    (h : Lexes (line + blanks.count '\n') text tokens) : Lexes line (blanks ++ text) tokens := by
  cases h with
  | blank blank => exact .blank (List.forall_mem_append.mpr ⟨hblanks, blank⟩)
  | @token _ others lexeme later token tokens blank spelled apart rest =>
    rw [← List.append_assoc]
    have hcount : line + blanks.count '\n' + others.count '\n' =
        line + (blanks ++ others).count '\n' := by
      rw [List.count_append, Nat.add_assoc]
    rw [hcount] at spelled rest
    exact .token (List.forall_mem_append.mpr ⟨hblanks, blank⟩) spelled apart rest

/-- Texts that are apart have their tokens one after the other. -/
theorem append (h : Lexes line text tokens) {second : List Char} {others : List Token}
    (hapart : Apart text second) (later : Lexes (line + text.count '\n') second others) :
    Lexes line (text ++ second) (tokens ++ others) := by
  induction h with
  | blank blank => exact later.append_blanks blank
  | @token line blanks text rest token tokens blank spelled apart _ ih =>
    simp only [List.count_append, spelled.count_lineFeed, Nat.zero_add, ← Nat.add_assoc] at later
    rw [List.append_assoc, List.append_assoc, List.cons_append]
    -- The lexeme is followed by what is left of the first text, or else by the second one.
    by_cases hrest : rest = []
    · subst hrest
      rw [List.append_nil, apart_append_left spelled.ne_nil] at hapart
      exact .token blank spelled hapart (ih (apart_nil_left second) later)
    · rw [← List.append_assoc, apart_append_left hrest] at hapart
      exact .token blank spelled (apart.append_right hrest second) (ih hapart later)

/-- No run goes on behind a text whose last token is a semicolon. -/
theorem apart_of_semicolon (h : Lexes line text tokens)
    (hlast : ∀ token ∈ tokens.getLast?, token.kind = .semicolon) (second : List Char) :
    Apart text second := by
  cases hc : text.getLast? with
  | none =>
    rw [List.getLast?_eq_none_iff.mp hc]
    exact apart_nil_left second
  | some c =>
    cases hblank : Text.isBlank c with
    | true => exact apart_of_isBlank hc hblank
    | false =>
      obtain ⟨before, lexeme, others, token, rfl, rfl, -, -, spelled⟩ := h.exists_last hc hblank
      have hkind : token.kind = .semicolon := hlast token List.getLast?_concat
      rw [apart_append_left spelled.ne_nil]
      cases spelled with
      | semicolon => exact apart_of_mark rfl second
      | _ => cases hkind

end Lexes

section

variable {first second : String} {tokens : List Token}

theorem tokenize_append_of_ok {others : List Token} (h : tokenize first = .ok tokens)
    (later : tokenize second = .ok others) (hapart : Apart first.toList second.toList) :
    tokenize (first ++ second) =
      .ok (tokens ++ others.map (Token.relabel (· + first.toList.count '\n') id)) := by
  rw [tokenize_eq_ok_iff_lexes] at h later ⊢
  rw [String.toList_append]
  exact h.append hapart (later.raise _)

/-- An error of the second text stays the first one. -/
theorem tokenize_append_of_error {error : LexicalError} (h : tokenize first = .ok tokens)
    (later : tokenize second = .error error) :
    tokenize (first ++ second) = .error (error.relabel (· + first.toList.count '\n')) := by
  have hfirst := exists_tokenize_ok_iff.mp ⟨tokens, h⟩
  obtain ⟨before, c, rest, split, hbefore, foreign, rfl⟩ := tokenize_eq_error_iff.mp later
  refine tokenize_eq_error_iff.mpr ⟨first.toList ++ before, c, rest, ?_,
    List.forall_mem_append.mpr ⟨hfirst, hbefore⟩, foreign, ?_⟩
  · rw [String.toList_append, split, List.append_assoc]
  · rw [List.count_append]
    simp only [LexicalError.relabel, LexicalError.mk.injEq, true_and]
    omega

/-- Exactly the texts of blanks have no tokens. -/
theorem tokenize_eq_nil_iff :
    tokenize second = .ok [] ↔ ∀ c ∈ second.toList, Text.isBlank c = true := by
  rw [tokenize_eq_ok_iff_lexes]
  generalize second.toList = text
  constructor
  · intro h
    cases h with
    | blank blank => exact blank
  · exact .blank

end

theorem Derives.getLast_kind {group : List Token} {statement : Statement}
    (h : Derives group statement) : ∀ token ∈ group.getLast?, token.kind = .semicolon := by
  have hlast : (group.map Token.kind).getLast? = some .semicolon := by
    rw [h.map_kind]
    cases statement.keyword <;> rfl
  rw [List.getLast?_map] at hlast
  intro token hmem
  rw [Option.mem_def.mp hmem] at hlast
  exact Option.some.inj hlast

namespace DerivesProgram

variable {tokens : List Token} {statements : List Statement}

/-- The last token of a program is a semicolon. -/
theorem getLast_kind (h : DerivesProgram tokens statements) :
    ∀ token ∈ tokens.getLast?, token.kind = .semicolon := by
  induction h with
  | nil => simp
  | ending derived => exact derived.getLast_kind
  | @cons group tokens _ _ derived _ _ ih =>
    intro token hmem
    rw [List.getLast?_append] at hmem
    rcases Option.or_eq_some_iff.mp hmem with hlater | ⟨-, hgroup⟩
    · exact ih token hlater
    · exact derived.getLast_kind token hgroup

/-- The statements of a program are without an ending, or the last one of them is the ending. -/
theorem continues_or_ended (h : DerivesProgram tokens statements) :
    Continues statements ∨
    ∃ read group others last, tokens = read ++ group ∧ statements = others ++ [last] ∧
      DerivesProgram read others ∧ Continues others ∧ Derives group last ∧
        last.keyword = .quit := by
  induction h with
  | nil => exact Or.inl continues_nil
  | @ending group statement derived =>
    by_cases ended : statement.keyword = .quit
    · exact Or.inr ⟨[], group, [], statement, rfl, rfl, .nil, continues_nil, derived, ended⟩
    · exact Or.inl (continues_cons.mpr ⟨ended, continues_nil⟩)
  | @cons group tokens statement statements derived continues _ ih =>
    rcases ih with hcontinues | ⟨read, ending, others, last, rfl, rfl, derivation, hcontinues, rest⟩
    · exact Or.inl (continues_cons.mpr ⟨continues, hcontinues⟩)
    · refine Or.inr ⟨group ++ read, ending, statement :: others, last, ?_, rfl,
        .cons derived continues derivation, continues_cons.mpr ⟨continues, hcontinues⟩, rest⟩
      rw [List.append_assoc]

end DerivesProgram

section

variable {first second : List Token} {before : List Statement}

/-- Behind a program without an ending, other tokens make what they make alone. -/
theorem parse_append_of_not_ended (accepted : parse first = .ok before)
    (continues : ¬ Ended before) :
    parse (first ++ second) = (parse second).map (before ++ ·) := by
  have derivation := parse_eq_ok_iff.mp accepted
  have hcontinues : Continues before := by
    rcases derivation.continues_or_ended with
      h | ⟨read, group, others, last, -, rfl, -, -, -, ended⟩
    · exact h
    · exact absurd ⟨last, List.getLast?_concat, ended⟩ continues
  cases hsecond : parse second with
  | ok after =>
    exact parse_eq_ok_iff.mpr (derivation.append hcontinues (parse_eq_ok_iff.mp hsecond))
  | error rejection =>
    -- The step that fails looks at no token before it, and stands behind the longer program too.
    obtain ⟨read, later, statements, after, rfl, hread, hstatements, step, -⟩ :=
      exists_step_of_parse_error hsecond
    have hstep := step.behind first.reverse
    rw [← List.reverse_append] at hstep
    rw [← List.append_assoc]
    exact congrArg Prod.fst (Cursor.parse_ofTokens_of_stopped (derivation.append hcontinues hread)
      (List.forall_mem_append.mpr ⟨hcontinues, hstatements⟩) hstep)

/-- Behind a program with an ending, the next token is refused. -/
theorem parse_append_of_ended (accepted : parse first = .ok before) (ended : Ended before)
    (found : Token) (later : List Token) :
    parse (first ++ found :: later) =
      .error { fault := .unreachable found.kind, line := found.line } := by
  rcases (parse_eq_ok_iff.mp accepted).continues_or_ended with
    continues | ⟨read, group, others, last, rfl, rfl, derivation, continues, derived, hquit⟩
  · exact absurd ended continues.not_ended
  · rw [List.append_assoc]
    exact congrArg Prod.fst
      (Cursor.parse_ofTokens_of_stopped derivation continues (.unreachable derived hquit))

end

/-! ## Programs of texts put together -/

section

variable {first : String} {tokens : List Token} {before : List Statement} (second : String)

/-- A program is apart from whatever follows it. -/
theorem apart_of_program (htokens : tokenize first = .ok tokens)
    (accepted : parse tokens = .ok before) : Apart first.toList second.toList :=
  (tokenize_eq_ok_iff_lexes.mp htokens).apart_of_semicolon
    (parse_eq_ok_iff.mp accepted).getLast_kind _

theorem parseSource_append_of_not_ended (accepted : parseSource first = .ok before)
    (continues : ¬ Ended before) :
    let raise := (· + first.toList.count '\n')
    (∀ after, parseSource second = .ok after →
      parseSource (first ++ second) = .ok (before ++ after.map (Statement.relabel raise id))) ∧
    ∀ failure, parseSource second = .error failure →
      parseSource (first ++ second) = .error (failure.relabel raise) := by
  intro raise
  obtain ⟨tokens, htokens, hfirst⟩ := parseSource_eq_ok_iff.mp accepted
  have hparse (others : List Token) :
      parse (tokens ++ others.map (Token.relabel raise id)) =
        (relabelResult raise (List.map (Statement.relabel raise id)) (parse others)).map
          (before ++ ·) := by
    rw [parse_append_of_not_ended hfirst continues, parse_relabel]
  constructor
  · intro after hafter
    obtain ⟨others, hothers, hsecond⟩ := parseSource_eq_ok_iff.mp hafter
    have happend := tokenize_append_of_ok htokens hothers (apart_of_program second htokens hfirst)
    refine parseSource_eq_ok_iff.mpr ⟨_, happend, ?_⟩
    rw [hparse, hsecond]
    rfl
  · intro failure hfailure
    cases failure with
    | lexical error =>
      have herror := parseSource_eq_lexical_iff.mp hfailure
      exact parseSource_eq_lexical_iff.mpr (tokenize_append_of_error htokens herror)
    | grammatical detail line =>
      obtain ⟨others, rejection, hothers, hsecond, rfl, rfl⟩ :=
        parseSource_eq_grammatical_iff.mp hfailure
      have happend := tokenize_append_of_ok htokens hothers (apart_of_program second htokens hfirst)
      refine parseSource_eq_grammatical_iff.mpr
        ⟨_, rejection.relabel raise, happend, ?_, rfl, rfl⟩
      rw [hparse, hsecond]
      rfl

theorem parseSource_append_of_ended (accepted : parseSource first = .ok before)
    (ended : Ended before) :
    let raise := (· + first.toList.count '\n')
    ((∀ c ∈ second.toList, Text.isBlank c = true) →
      parseSource (first ++ second) = .ok before) ∧
    (∀ error, tokenize second = .error error →
      parseSource (first ++ second) = .error (.lexical (error.relabel raise))) ∧
    ∀ token others, tokenize second = .ok (token :: others) →
      parseSource (first ++ second) =
        .error (.grammatical (Fault.unreachable token.kind).message (raise token.line)) := by
  intro raise
  obtain ⟨tokens, htokens, hfirst⟩ := parseSource_eq_ok_iff.mp accepted
  refine ⟨fun hblank ↦ ?_, fun error herror ↦ ?_, fun token others hothers ↦ ?_⟩
  · have happend := tokenize_append_of_ok htokens (tokenize_eq_nil_iff.mpr hblank)
      (apart_of_program second htokens hfirst)
    rw [List.map_nil, List.append_nil] at happend
    exact parseSource_eq_ok_iff.mpr ⟨tokens, happend, hfirst⟩
  · exact parseSource_eq_lexical_iff.mpr (tokenize_append_of_error htokens herror)
  · have happend := tokenize_append_of_ok htokens hothers (apart_of_program second htokens hfirst)
    exact parseSource_eq_grammatical_iff.mpr
      ⟨_, _, happend, parse_append_of_ended hfirst ended _ _, rfl, rfl⟩

end

/-- A program without an ending is continued by any other text, whose statements or whose failure
only move to later lines.  Behind an ending only blanks can stand; otherwise the failure is that of
the first foreign character or, without one, that of the first token. -/
theorem parseSource_append {first : String} {before : List Statement}
    (accepted : parseSource first = .ok before) (second : String) :
    let raise := (· + first.toList.count '\n')
    (¬ Ended before →
      (∀ after, parseSource second = .ok after →
        parseSource (first ++ second) = .ok (before ++ after.map (Statement.relabel raise id))) ∧
      ∀ failure, parseSource second = .error failure →
        parseSource (first ++ second) = .error (failure.relabel raise)) ∧
    (Ended before →
      ((∀ c ∈ second.toList, Text.isBlank c = true) →
        parseSource (first ++ second) = .ok before) ∧
      ((∃ c ∈ second.toList, isForeign c = true) →
        ∃ error, tokenize second = .error error ∧
          parseSource (first ++ second) = .error (.lexical (error.relabel raise))) ∧
      ((∃ c ∈ second.toList, Text.isBlank c = false) →
        (∀ c ∈ second.toList, isForeign c = false) →
          ∃ token others, tokenize second = .ok (token :: others) ∧
            parseSource (first ++ second) = .error (.grammatical
              ("token '" ++ token.kind.label ++
                "' is unreachable -> expected end of file or scope")
              (raise token.line)))) := by
  intro raise
  refine ⟨fun continues ↦ parseSource_append_of_not_ended second accepted continues, fun ended ↦ ?_⟩
  obtain ⟨hblank, herror, htoken⟩ := parseSource_append_of_ended second accepted ended
  refine ⟨hblank, fun foreign ↦ ?_, ?_⟩
  · obtain ⟨error, hsecond⟩ := exists_tokenize_error_iff.mpr foreign
    exact ⟨error, hsecond, herror error hsecond⟩
  · rintro ⟨c, hmem, hc⟩ hnone
    obtain ⟨others, hsecond⟩ := exists_tokenize_ok_iff.mpr hnone
    cases others with
    | nil => cases hc.symm.trans (tokenize_eq_nil_iff.mp hsecond c hmem)
    | cons token others => exact ⟨token, others, hsecond, htoken token others hsecond⟩

/-- The second text begins in the middle of a line, and its failure is two lines further down than
it is for the second text alone; behind an ending its first token is refused. -/
theorem parseSource_append_of_two_lines :
    let first := "log(\n1)\n;"
    let ending := "quit(\n1)\n;"
    let second := "let x\n3;"
    parseSource second = .error (.grammatical "expected '=' after variable name" 2) ∧
      parseSource (first ++ second) =
        .error (.grammatical "expected '=' after variable name" 4) ∧
      parseSource (ending ++ second) = .error
        (.grammatical "token 'let' is unreachable -> expected end of file or scope" 3) := by
  intro first ending second
  have hfirst : parseSource first = .ok [.log ⟨.integer, 2, some "1"⟩ 1] := by decide +kernel
  have hending : parseSource ending = .ok [.quit ⟨.integer, 2, some "1"⟩ 1] := by decide +kernel
  have hsecond : parseSource second =
      .error (.grammatical "expected '=' after variable name" 2) := by decide +kernel
  have hcontinues : ¬ Ended [.log ⟨.integer, 2, some "1"⟩ 1] := by
    rintro ⟨last, hlast, ended⟩
    obtain rfl := Option.some.inj hlast
    cases ended
  have happend := ((parseSource_append hfirst second).1 hcontinues).2 _ hsecond
  refine ⟨hsecond, happend.trans (congrArg Except.error (by decide)), ?_⟩
  have htoken : tokenize second = .ok
      [⟨.keyword .letBinder, 1, none⟩, ⟨.identifier, 1, some "x"⟩, ⟨.integer, 2, some "3"⟩,
        ⟨.semicolon, 2, none⟩] := by decide +kernel
  obtain ⟨token, others, htokens, hfailure⟩ :=
    ((parseSource_append hending second).2 ⟨_, rfl, rfl⟩).2.2 ⟨'l', by decide, by decide⟩
      (exists_tokenize_ok_iff.mp ⟨_, htoken⟩)
  obtain ⟨rfl, -⟩ := List.cons.inj (Except.ok.inj (htoken.symm.trans htokens))
  exact hfailure.trans (congrArg Except.error (by decide))

end StatementLang
