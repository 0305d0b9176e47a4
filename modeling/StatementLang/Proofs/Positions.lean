import StatementLang.Proofs.Session

/-!
# Positions and Lines

A scanner keeps the number of characters it has passed, and one more than the number of line feeds
among them.  Whatever it is asked for, it passes the next characters of its text and counts them.
Every token takes some of them, so that there are no more tokens than characters.
-/

namespace StatementLang

namespace Scanner

/-- From one scanner to another some characters are passed and counted. -/
structure Passes (scanner : Scanner) (passed : List Char) (after : Scanner) : Prop where
  rest : scanner.rest = passed ++ after.rest
  position : after.position = scanner.position + passed.length
  line : after.line = scanner.line + passed.count '\n'

namespace Passes

variable {scanner middle after : Scanner} {passed first second : List Char}

theorem refl (scanner : Scanner) : scanner.Passes [] scanner := ⟨rfl, rfl, rfl⟩

theorem trans (h : scanner.Passes first middle) (h' : middle.Passes second after) :
    scanner.Passes (first ++ second) after where
  rest := by rw [h.rest, h'.rest, List.append_assoc]
  position := by rw [h'.position, h.position, List.length_append, Nat.add_assoc]
  line := by rw [h'.line, h.line, List.count_append, Nat.add_assoc]

/-- Neither count goes back. -/
theorem le (h : scanner.Passes passed after) :
    scanner.position ≤ after.position ∧ scanner.line ≤ after.line := by
  rw [h.position, h.line]
  exact ⟨Nat.le_add_right _ _, Nat.le_add_right _ _⟩

section

variable {source : String} (h : (ofSource source).Passes passed scanner)

include h

theorem toList_eq : source.toList = passed ++ scanner.rest := h.rest

theorem position_eq : scanner.position = passed.length := h.position.trans (Nat.zero_add _)

theorem take_position : source.toList.take scanner.position = passed := by
  rw [h.toList_eq, h.position_eq, List.take_left]

theorem length_eq : source.length = scanner.position + scanner.rest.length := by
  rw [← String.length_toList, h.toList_eq, List.length_append, h.position_eq]

theorem line_eq : scanner.line = 1 + (source.toList.take scanner.position).count '\n' := by
  rw [h.take_position]
  exact h.line

/-- The line is bounded by the position. -/
theorem line_le : scanner.line ≤ scanner.position + 1 := by
  have hcount : passed.count '\n' ≤ passed.length := List.count_le_length
  rw [h.line_eq, h.take_position, h.position_eq]
  omega

theorem getElem?_position : source.toList[scanner.position]? = scanner.rest.head? := by
  rw [h.toList_eq, h.position_eq, List.getElem?_append_right (Nat.le_refl _), Nat.sub_self,
    List.head?_eq_getElem?]

/-- What stands between two positions is what is passed from one to the other. -/
theorem drop_take_position (h' : scanner.Passes second after) :
    (source.toList.take after.position).drop scanner.position = second := by
  rw [(h.trans h').take_position, h.position_eq, List.drop_left]

end

end Passes

section

variable {scanner after : Scanner}

/-- The lexeme of a token is passed, and it is not empty. -/
theorem exists_passes_of_token {token : Token} (h : scanner.next = (.ok (some token), after)) :
    ∃ passed, scanner.Passes passed after ∧ 0 < token.lexeme.length ∧
      token.lexeme.length ≤ passed.length := by
  cases next_eq_iff_reads.mp h with
  | @token blanks text later _ split blank spelled apart =>
    have hlexeme : token.lexeme.length = text.length := by
      rw [spelled.lexeme_eq, String.length_ofList]
    refine ⟨blanks ++ text, ⟨?_, ?_, ?_⟩, ?_, ?_⟩
    · rw [split, List.append_assoc]
    · rw [List.length_append, Nat.add_assoc]
    · rw [List.count_append, spelled.count_lineFeed, Nat.add_zero]
    · rw [hlexeme]
      exact List.length_pos_of_ne_nil spelled.ne_nil
    · rw [hlexeme, List.length_append]
      exact Nat.le_add_left _ _

theorem exists_passes_of_end (h : scanner.next = (.ok none, after)) :
    ∃ passed, scanner.Passes passed after ∧ after.rest = [] := by
  cases next_eq_iff_reads.mp h with
  | finished blank =>
    exact ⟨scanner.rest, ⟨(List.append_nil scanner.rest).symm, rfl, rfl⟩, rfl⟩

/-- An error passes only the blanks before its character. -/
theorem exists_passes_of_error {error : LexicalError} (h : scanner.next = (.error error, after)) :
    ∃ blanks, scanner.Passes blanks after ∧ (∀ c ∈ blanks, Text.isBlank c = true) ∧
      after.rest.head? = some error.character ∧ error.line = after.line := by
  cases next_eq_iff_reads.mp h with
  | @foreign blanks later c split blank foreign =>
    exact ⟨blanks, ⟨split, rfl, rfl⟩, blank, rfl, rfl⟩

theorem exists_passes_next (scanner : Scanner) :
    ∃ passed, scanner.Passes passed scanner.next.2 := by
  rcases hnext : scanner.next with ⟨error | _ | token, after⟩
  · obtain ⟨blanks, h, -⟩ := exists_passes_of_error hnext
    exact ⟨blanks, h⟩
  · obtain ⟨passed, h, -⟩ := exists_passes_of_end hnext
    exact ⟨passed, h⟩
  · obtain ⟨passed, h, -⟩ := exists_passes_of_token hnext
    exact ⟨passed, h⟩

end

/-- Reading to the end passes at least one character for each token. -/
theorem exists_passes_scan (scanner : Scanner) :
    ∃ passed, scanner.Passes passed scanner.scan.scanner ∧
      scanner.scan.tokens.length ≤ passed.length := by
  induction scanner using induction_on_next with
  | token scanner token after step ih =>
    obtain ⟨first, hfirst, hpos, hlexeme⟩ := exists_passes_of_token step
    obtain ⟨later, hlater, hcount⟩ := ih
    rw [scan_of_token step]
    refine ⟨first ++ later, hfirst.trans hlater, ?_⟩
    rw [List.length_cons, List.length_append]
    omega
  | ending scanner after step =>
    obtain ⟨passed, h, -⟩ := exists_passes_of_end step
    rw [scan_of_end step]
    exact ⟨passed, h, Nat.zero_le _⟩
  | failure scanner error after step =>
    obtain ⟨passed, h, -⟩ := exists_passes_of_error step
    rw [scan_of_error step]
    exact ⟨passed, h, Nat.zero_le _⟩

theorem exists_passes_answer (scanner : Scanner) (request : Request) :
    ∃ passed, scanner.Passes passed (scanner.answer request).2 := by
  cases request with
  | next => exact exists_passes_next scanner
  | all =>
    obtain ⟨passed, h, -⟩ := exists_passes_scan scanner
    have htokenize : scanner.tokenize.2 = scanner.scan.scanner := by
      rw [tokenize]
      cases scanner.scan.error <;> rfl
    exact ⟨passed, htokenize ▸ h⟩

theorem exists_passes_session (scanner : Scanner) (requests : List Request) :
    ∃ passed, scanner.Passes passed (session answer scanner requests).2 := by
  induction requests generalizing scanner with
  | nil => exact ⟨[], .refl scanner⟩
  | cons request requests ih =>
    obtain ⟨first, hfirst⟩ := exists_passes_answer scanner request
    obtain ⟨later, hlater⟩ := ih (scanner.answer request).2
    exact ⟨first ++ later, hfirst.trans hlater⟩

end Scanner

/-- After any requests, the position is within the source text, and the line counts the line feeds
before it.  Neither of them is greater than a limit above the length of the text, and neither goes
back.  A token moves the position by its lexeme or more, so that there are no more tokens than
characters left.  At the end the position is the length of the text.  An error stands at the
position of its character, and only blanks are passed to get there. -/
theorem positions_and_lines (source : String) (requests : List Request) :
    let scanner := (session Scanner.answer (.ofSource source) requests).2
    (scanner.position ≤ source.length ∧
      scanner.line = 1 + (source.toList.take scanner.position).count '\n') ∧
    (1 ≤ scanner.line ∧ scanner.line ≤ scanner.position + 1 ∧
      scanner.position + 1 ≤ source.length + 1) ∧
    (∀ limit, source.length < limit → scanner.position ≤ limit ∧ scanner.line ≤ limit) ∧
    (∀ request, scanner.position ≤ (scanner.answer request).2.position ∧
      scanner.line ≤ (scanner.answer request).2.line) ∧
    (∀ token after, scanner.next = (.ok (some token), after) →
      0 < token.lexeme.length ∧ scanner.position + token.lexeme.length ≤ after.position) ∧
    scanner.position + scanner.scan.tokens.length ≤ source.length ∧
    (∀ after, scanner.next = (.ok none, after) → after.position = source.length) ∧
    ∀ error after, scanner.next = (.error error, after) →
      after.position < source.length ∧
        source.toList[after.position]? = some error.character ∧ error.line = after.line ∧
        ∀ c ∈ (source.toList.take after.position).drop scanner.position,
          Text.isBlank c = true := by
  intro scanner
  obtain ⟨passed, h⟩ : ∃ passed, (Scanner.ofSource source).Passes passed scanner :=
    Scanner.exists_passes_session _ requests
  have hlength := h.length_eq
  have hline := h.line_le
  have hposition : scanner.position ≤ source.length := by omega
  refine ⟨⟨hposition, h.line_eq⟩, ⟨?_, hline, Nat.succ_le_succ hposition⟩, ?_, ?_, ?_, ?_, ?_, ?_⟩
  · rw [h.line_eq]
    exact Nat.le_add_right _ _
  · intro limit hlimit
    omega
  · intro request
    obtain ⟨later, hlater⟩ := scanner.exists_passes_answer request
    exact hlater.le
  · intro token after hnext
    obtain ⟨later, hlater, hpos, hlexeme⟩ := Scanner.exists_passes_of_token hnext
    rw [hlater.position]
    exact ⟨hpos, Nat.add_le_add_left hlexeme _⟩
  · obtain ⟨later, hlater, hcount⟩ := scanner.exists_passes_scan
    have hend := (h.trans hlater).length_eq
    have hmoved := hlater.position
    omega
  · intro after hnext
    obtain ⟨later, hlater, hend⟩ := Scanner.exists_passes_of_end hnext
    rw [(h.trans hlater).length_eq, hend, List.length_nil, Nat.add_zero]
  · intro error after hnext
    obtain ⟨blanks, hblanks, blank, hhead, herror⟩ := Scanner.exists_passes_of_error hnext
    have hplace := (h.trans hblanks).getElem?_position
    rw [hhead] at hplace
    refine ⟨?_, hplace, herror, ?_⟩
    · rw [← String.length_toList]
      exact (List.getElem?_eq_some_iff.mp hplace).1
    · rw [h.drop_take_position hblanks]
      exact blank

/-- A digit on the second line, a character of no token behind it, and the end of a line. -/
theorem positions_in_short_texts :
    let reached (source : String) (requests : List Request) : Scanner :=
      (session Scanner.answer (.ofSource source) requests).2
    (∃ after, (reached "x\n 7\n é" [.next]).next = (.ok (some ⟨.integer, 2, some "7"⟩), after) ∧
      (reached "x\n 7\n é" [.next]).position + 1 ≤ after.position) ∧
    (∃ after, (reached "x\n 7\n é" [.next, .all]).next =
        (.error { character := 'é', line := 3 }, after) ∧
      "x\n 7\n é".toList[after.position]? = some 'é') ∧
    (∃ after, (reached "x\n" [.next]).next = (.ok none, after) ∧ after.position = 2) ∧
    (reached "x\n" [.all]).line ≤ 3 := by
  intro reached
  have token : (reached "x\n 7\n é" [.next]).next =
      (.ok (some ⟨.integer, 2, some "7"⟩),
        { rest := ['\n', ' ', 'é'], position := 4, line := 2 }) := by
    decide +kernel
  have foreign : (reached "x\n 7\n é" [.next, .all]).next =
      (.error { character := 'é', line := 3 }, { rest := ['é'], position := 6, line := 3 }) := by
    decide +kernel
  have ending : (reached "x\n" [.next]).next =
      (.ok none, { rest := [], position := 2, line := 2 }) := by
    decide +kernel
  obtain ⟨-, -, -, -, htoken, -, -, -⟩ := positions_and_lines "x\n 7\n é" [.next]
  obtain ⟨-, -, -, -, -, -, -, herror⟩ := positions_and_lines "x\n 7\n é" [.next, .all]
  obtain ⟨-, -, -, -, -, -, hend, -⟩ := positions_and_lines "x\n" [.next]
  obtain ⟨-, -, hlimit, -, -, -, -, -⟩ := positions_and_lines "x\n" [.all]
  exact ⟨⟨_, token, (htoken _ _ token).2⟩, ⟨_, foreign, (herror _ _ foreign).2.1⟩,
    ⟨_, ending, hend _ ending⟩, (hlimit 3 (by decide)).2⟩

end StatementLang
