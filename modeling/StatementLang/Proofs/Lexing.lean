import StatementLang.Proofs.Scanning

/-!
# Cutting a Text into Tokens

A text is cut into tokens when it is made of lexemes that are apart from what follows, with blanks
between them.  Reading to the end does exactly this, up to the first character that belongs to no
token.
-/

namespace StatementLang

/-- A text that starts on a line is made of the lexemes of some tokens, with blanks around them. -/
inductive Lexes : Nat → List Char → List Token → Prop where
  | blank {line : Nat} {blanks : List Char} (blank : ∀ c ∈ blanks, Text.isBlank c = true) :
      Lexes line blanks []
  | token {line : Nat} {blanks text later : List Char} {token : Token} {tokens : List Token}
      (blank : ∀ c ∈ blanks, Text.isBlank c = true)
      (spelled : Spells (line + blanks.count '\n') text token) (apart : Apart text later)
      (rest : Lexes (line + blanks.count '\n') later tokens) :
      Lexes line (blanks ++ (text ++ later)) (token :: tokens)

namespace Lexes

variable {line : Nat} {text : List Char} {tokens : List Token}

/-- The lexemes of a text are all of it but the blanks. -/
theorem lexemes_eq (h : Lexes line text tokens) :
    (tokens.flatMap fun token ↦ token.lexeme.toList) =
      text.filter fun c ↦ !Text.isBlank c := by
  induction h with
  | blank blank =>
    symm
    rw [List.flatMap_nil, List.filter_eq_nil_iff]
    intro c hc
    simp [blank c hc]
  | @token line blanks text later token tokens blank spelled apart rest ih =>
    have hblanks : (blanks.filter fun c ↦ !Text.isBlank c) = [] := by
      rw [List.filter_eq_nil_iff]
      intro c hc
      simp [blank c hc]
    have htext : (text.filter fun c ↦ !Text.isBlank c) = text := by
      rw [List.filter_eq_self]
      intro c hc
      simp [spelled.not_isBlank hc]
    calc
      _ = token.lexeme.toList ++ tokens.flatMap fun token ↦ token.lexeme.toList :=
        List.flatMap_cons
      _ = text ++ later.filter fun c ↦ !Text.isBlank c := by
        rw [spelled.lexeme_eq, String.toList_ofList, ih]
      _ = _ := by
        rw [List.filter_append, List.filter_append, hblanks, htext, List.nil_append]

/-- The lines of the tokens start from the line of the text and never go back. -/
theorem lines_ordered (h : Lexes line text tokens) :
    (line :: tokens.map Token.line).Pairwise (· ≤ ·) := by
  induction h with
  | blank => exact List.pairwise_singleton _ _
  | @token line blanks text later token tokens blank spelled apart rest ih =>
    rw [List.map_cons, spelled.line_eq]
    refine List.pairwise_cons.mpr ⟨fun other hother ↦ ?_, ih⟩
    rcases List.mem_cons.mp hother with rfl | hother
    · exact Nat.le_add_right _ _
    · exact Nat.le_trans (Nat.le_add_right _ _) ((List.pairwise_cons.mp ih).1 other hother)

theorem tokens_eq_nil (h : Lexes line [] tokens) : tokens = [] := by
  generalize htext : [] = text at h
  cases h with
  | blank => rfl
  | token _ spelled => simp [spelled.ne_nil] at htext

/-- A text can begin with its first lexeme. -/
theorem cons {lexeme : List Char} {token : Token} (spelled : Spells line lexeme token)
    (apart : Apart lexeme text) (rest : Lexes line text tokens) :
    Lexes line (lexeme ++ text) (token :: tokens) := by
  have h : Lexes line ([] ++ (lexeme ++ text)) (token :: tokens) :=
    .token (List.forall_mem_nil _) spelled apart rest
  exact h

/-- A text that does not start with a blank starts with its first lexeme. -/
theorem exists_first (h : Lexes line text tokens) {c : Char} (hhead : text.head? = some c)
    (hc : Text.isBlank c = false) :
    ∃ lexeme later token others, text = lexeme ++ later ∧ tokens = token :: others ∧
      Spells line lexeme token ∧ Apart lexeme later ∧ Lexes line later others := by
  cases h with
  | blank blank => cases hc.symm.trans (blank c (List.mem_of_mem_head? hhead))
  | @token _ blanks lexeme later token others blank spelled apart rest =>
    obtain rfl : blanks = [] := by
      by_contra nonempty
      rw [List.head?_append_of_ne_nil blanks nonempty] at hhead
      cases hc.symm.trans (blank c (List.mem_of_mem_head? hhead))
    exact ⟨lexeme, later, token, others, rfl, rfl, spelled, apart, rest⟩

/-- A text that does not end with a blank ends with its last lexeme. -/
theorem exists_last (h : Lexes line text tokens) {c : Char} (hlast : text.getLast? = some c)
    (hc : Text.isBlank c = false) :
    ∃ before lexeme others token, text = before ++ lexeme ∧ tokens = others ++ [token] ∧
      Lexes line before others ∧ Apart before lexeme ∧
      Spells (line + before.count '\n') lexeme token := by
  induction h with
  | blank blank => cases hc.symm.trans (blank c (List.mem_of_getLast? hlast))
  | @token line blanks lexeme later token others blank spelled apart rest ih =>
    by_cases hlater : later = []
    · subst hlater
      obtain rfl := rest.tokens_eq_nil
      have hapart : Apart ([] ++ blanks) lexeme :=
        apart_blanks_left blank fun _ ↦ apart_nil_left lexeme
      exact ⟨blanks, lexeme, [], token, by rw [List.append_nil], rfl, .blank blank, hapart, spelled⟩
    · rw [← List.append_assoc, List.getLast?_append_of_ne_nil _ hlater] at hlast
      obtain ⟨before, last, others, final, rfl, rfl, lexes, hapart, hspelled⟩ := ih hlast
      refine ⟨blanks ++ (lexeme ++ before), last, token :: others, final, ?_, rfl,
        .token blank spelled apart.of_append_right lexes, ?_, ?_⟩
      · simp only [List.append_assoc]
      · by_cases hbefore : before = []
        · subst hbefore
          rw [List.append_nil, apart_append_left spelled.ne_nil]
          exact apart
        · rwa [← List.append_assoc, apart_append_left hbefore]
      · simpa only [List.count_append, spelled.count_lineFeed, Nat.zero_add, Nat.add_assoc]
          using hspelled

end Lexes

/-- What reading to the end tells behind a number of tokens read before. -/
def Scan.trace (scan : Scan) (count : Nat) : List LogRecord :=
  scan.tokens.map Token.record ++
    match scan.error with
    | none => [tokensRecord (count + scan.tokens.length) scan.scanner.line]
    | some _ => []

namespace Scanner

/-- What holds where reading stops, and in front of a token if it holds behind it, holds of every
scanner. -/
@[elab_as_elim]
theorem induction_on_next {motive : Scanner → Prop} (scanner : Scanner)
    (token : ∀ scanner token after, scanner.next = (.ok (some token), after) →
      motive after → motive scanner)
    (ending : ∀ scanner after, scanner.next = (.ok none, after) → motive scanner)
    (failure : ∀ scanner error after, scanner.next = (.error error, after) → motive scanner) :
    motive scanner := by
  induction hlength : scanner.rest.length using Nat.strongRecOn generalizing scanner with
  | _ length ih =>
    rcases hnext : scanner.next with ⟨error | _ | read, after⟩
    · exact failure scanner error after hnext
    · exact ending scanner after hnext
    · have hshorter := length_rest_lt_of_next hnext
      exact token scanner read after hnext (ih _ (hlength ▸ hshorter) after rfl)

section

variable {scanner after : Scanner}

theorem scan_step_of_end (h : scanner.next = (.ok none, after)) (limit : LogLimit) (count : Nat) :
    scanner.scan limit count =
      { tokens := [], error := none, scanner := after,
        records := limit.retain (tokensRecord count after.line) } := by
  rw [scan]
  split <;> simp_all

theorem scan_step_of_token {token : Token} (h : scanner.next = (.ok (some token), after))
    (limit : LogLimit) (count : Nat) :
    scanner.scan limit count =
      { after.scan limit (count + 1) with
        tokens := token :: (after.scan limit (count + 1)).tokens
        records := limit.retain token.record ++ (after.scan limit (count + 1)).records } := by
  rw [scan]
  split <;> simp_all

theorem scan_step_of_error {error : LexicalError} (h : scanner.next = (.error error, after))
    (limit : LogLimit) (count : Nat) :
    scanner.scan limit count = { tokens := [], error := some error, scanner := after } := by
  rw [scan]
  split <;> simp_all

/-- Where nothing is logged, the tokens read before do not matter. -/
theorem scan_none (scanner : Scanner) (count : Nat) : scanner.scan none count = scanner.scan := by
  induction scanner using induction_on_next generalizing count with
  | token scanner token after step ih =>
    rw [scan_step_of_token step, scan_step_of_token step, ih (count + 1), ih (0 + 1)]
  | ending scanner after step =>
    rw [scan_step_of_end step, scan_step_of_end step]
    rfl
  | failure scanner error after step => rw [scan_step_of_error step, scan_step_of_error step]

theorem scan_of_end (h : scanner.next = (.ok none, after)) :
    scanner.scan = { tokens := [], error := none, scanner := after } :=
  scan_step_of_end h none 0

theorem scan_of_token {token : Token} (h : scanner.next = (.ok (some token), after)) :
    scanner.scan = { after.scan with tokens := token :: after.scan.tokens } := by
  rw [scan_step_of_token h, scan_none]
  rfl

theorem scan_of_error {error : LexicalError} (h : scanner.next = (.error error, after)) :
    scanner.scan = { tokens := [], error := some error, scanner := after } :=
  scan_step_of_error h none 0

end

/-- A log changes nothing of what is read.  It tells each token and, at the end of the text, how
many they are, as far as its limit keeps that. -/
theorem scan_logged (scanner : Scanner) (limit : LogLimit) (count : Nat) :
    scanner.scan limit count =
      { scanner.scan with
        records := (scanner.scan.trace count).filter fun record ↦ limit.keeps record.level } := by
  induction scanner using induction_on_next generalizing count with
  | token scanner token after step ih =>
    have hcount (length : Nat) : count + 1 + length = count + (length + 1) := by omega
    rw [scan_step_of_token step, ih, scan_of_token step]
    simp only [Scan.trace, List.map_cons, List.cons_append, List.length_cons,
      LogLimit.filter_cons, hcount]
  | ending scanner after step =>
    rw [scan_step_of_end step, scan_of_end step]
    simp only [Scan.trace, List.map_nil, List.nil_append, List.length_nil, Nat.add_zero,
      LogLimit.filter_cons, List.filter_nil, List.append_nil]
  | failure scanner error after step =>
    rw [scan_step_of_error step, scan_of_error step]
    rfl

/-- A text that is cut into tokens is read to its end. -/
theorem scan_of_lexes {line : Nat} {text : List Char} {tokens : List Token}
    (h : Lexes line text tokens) (position : Nat) :
    scan { rest := text, position, line } =
      { tokens, error := none,
        scanner :=
          { rest := [], position := position + text.length, line := line + text.count '\n' } } := by
  induction h generalizing position with
  | blank blank => exact scan_of_end (next_of_reads (.finished blank))
  | @token line blanks text later token tokens blank spelled apart rest ih =>
    have hreads : Reads { rest := blanks ++ (text ++ later), position, line } _ _ :=
      .token rfl blank spelled apart
    rw [scan_of_token (next_of_reads hreads), ih]
    simp only [List.length_append, List.count_append, spelled.count_lineFeed, Nat.zero_add,
      Nat.add_assoc]

/-- Reading cuts the whole text, or the part of it before the first character of no token. -/
theorem scan_outcome (scanner : Scanner) :
    (∃ tokens, Lexes scanner.line scanner.rest tokens) ∨
    ∃ tokens read c later, scanner.rest = read ++ c :: later ∧
      CharacterClass.of c = .foreign ∧ Lexes scanner.line read tokens ∧
      scanner.scan =
        { tokens, error := some { character := c, line := scanner.line + read.count '\n' },
          scanner :=
            { rest := c :: later, position := scanner.position + read.length,
              line := scanner.line + read.count '\n' } } := by
  induction hlength : scanner.rest.length using Nat.strongRecOn generalizing scanner with
  | _ length ih =>
    obtain ⟨result, after, reads⟩ := exists_reads scanner
    cases reads with
    | finished blank => exact Or.inl ⟨[], .blank blank⟩
    | @token blanks text later token split blank spelled apart =>
      have hnext := next_of_reads (.token split blank spelled apart)
      have hshorter := length_rest_lt_of_next hnext
      rcases ih _ (hlength ▸ hshorter) _ rfl with
        ⟨tokens, lexes⟩ | ⟨tokens, read, c, later', hlater, foreign, lexes, hscan⟩
      · left
        rw [split]
        exact ⟨token :: tokens, .token blank spelled apart lexes⟩
      · right
        dsimp only at hlater lexes hscan
        rw [hlater] at apart
        refine ⟨token :: tokens, blanks ++ (text ++ read), c, later', ?_, foreign,
          .token blank spelled apart.of_append_right lexes, ?_⟩
        · rw [split, hlater, List.append_assoc, List.append_assoc]
        · rw [scan_of_token hnext, hscan]
          simp only [List.length_append, List.count_append, spelled.count_lineFeed, Nat.zero_add,
            Nat.add_assoc]
    | @foreign blanks later c split blank foreign =>
      right
      refine ⟨[], blanks, c, later, split, foreign, .blank blank, ?_⟩
      exact scan_of_error (next_of_reads (.foreign split blank foreign))

end Scanner

/-- The tokens of a text are those it is cut into. -/
theorem tokenize_eq_ok_iff_lexes {source : String} {tokens : List Token} :
    tokenize source = .ok tokens ↔ Lexes 1 source.toList tokens := by
  constructor
  · intro h
    rcases Scanner.scan_outcome (.ofSource source) with
      ⟨tokens', lexes⟩ | ⟨tokens', read, c, later, -, -, -, hscan⟩
    · have hscan := Scanner.scan_of_lexes lexes 0
      have htokenize : tokenize source = .ok tokens' := by
        simp only [tokenize, Scanner.tokenize, Scanner.ofSource] at hscan ⊢
        rw [hscan]
      obtain rfl := Except.ok.inj (htokenize.symm.trans h)
      exact lexes
    · simp only [tokenize, Scanner.tokenize, hscan] at h
      cases h
  · intro h
    have hscan := Scanner.scan_of_lexes h 0
    simp only [tokenize, Scanner.tokenize, Scanner.ofSource, hscan]

end StatementLang
