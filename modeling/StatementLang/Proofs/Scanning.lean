import StatementLang.Proofs.Lexeme
import StatementLang.Proofs.Runs

/-!
# What Reading One Token Comes To

Behind some blanks stands the end of the text, the longest lexeme of its class, or a character that
belongs to no token.  The relation says so without the loops, and reading the next token is exactly
this relation.
-/

namespace StatementLang

/-- No run of letters and no run of digits goes on from one text to the next. -/
def Apart (first second : List Char) : Prop :=
  ∀ c ∈ first.getLast?, ∀ d ∈ second.head?,
    ¬ (c.isAlpha = true ∧ d.isAlpha = true) ∧ ¬ (c.isDigit = true ∧ d.isDigit = true)

theorem apart_nil_left (second : List Char) : Apart [] second := by
  intro c hlast
  cases hlast

theorem apart_nil_right (first : List Char) : Apart first [] := by
  intro c _ d hhead
  cases hhead

/-- What stands before the last characters does not matter. -/
theorem apart_append_left {first middle second : List Char} (h : middle ≠ []) :
    Apart (first ++ middle) second ↔ Apart middle second := by
  unfold Apart
  rw [List.getLast?_append_of_ne_nil first h]

/-- What stands behind the first characters does not matter. -/
theorem Apart.of_append_right {first second third : List Char} (h : Apart first (second ++ third)) :
    Apart first second := by
  cases second with
  | nil => exact apart_nil_right first
  | cons d second => exact h

/-- A blank keeps texts apart. -/
theorem apart_of_isBlank {first second : List Char} {c : Char} (hlast : first.getLast? = some c)
    (hblank : Text.isBlank c = true) : Apart first second := by
  intro c' hlast' d _
  obtain rfl := Option.some.inj (hlast.symm.trans hlast')
  obtain ⟨hletter, hdigit⟩ := not_isAlpha_isDigit_of_isBlank hblank
  simp [hletter, hdigit]

theorem apart_blanks_left {first blanks second : List Char}
    (hblank : ∀ c ∈ blanks, Text.isBlank c = true) (h : blanks = [] → Apart first second) :
    Apart (first ++ blanks) second := by
  rcases List.eq_nil_or_concat blanks with rfl | ⟨others, last, rfl⟩
  · rw [List.append_nil]
    exact h rfl
  · apply apart_of_isBlank (c := last) ?_ (hblank last (by simp))
    simp

theorem apart_blanks_right {first blanks second : List Char} (nonempty : blanks ≠ [])
    (hblank : ∀ c ∈ blanks, Text.isBlank c = true) : Apart first (blanks ++ second) := by
  intro c _ d hhead
  rw [List.head?_append_of_ne_nil blanks nonempty] at hhead
  obtain ⟨hletter, hdigit⟩ :=
    not_isAlpha_isDigit_of_isBlank (hblank d (List.mem_of_mem_head? hhead))
  simp [hletter, hdigit]

/-- A run of a class goes on from one text to the next. -/
def RunClass.Crosses (run : RunClass) (first second : List Char) : Prop :=
  (∃ c ∈ first.getLast?, run.belongs c = true) ∧ ∃ d ∈ second.head?, run.belongs d = true

/-- Texts are apart exactly if no run goes on from one to the other. -/
theorem apart_iff_forall_not_crosses {first second : List Char} :
    Apart first second ↔ ∀ run : RunClass, ¬ run.Crosses first second := by
  constructor
  · rintro hapart run ⟨⟨c, hlast, hc⟩, d, hhead, hd⟩
    obtain ⟨hletters, hdigits⟩ := hapart c hlast d hhead
    cases run with
    | letters => exact hletters ⟨hc, hd⟩
    | digits => exact hdigits ⟨hc, hd⟩
  · intro hnone c hlast d hhead
    exact ⟨fun ⟨hc, hd⟩ ↦ hnone .letters ⟨⟨c, hlast, hc⟩, d, hhead, hd⟩,
      fun ⟨hc, hd⟩ ↦ hnone .digits ⟨⟨c, hlast, hc⟩, d, hhead, hd⟩⟩

/-- Two texts are apart at a run exactly if no character of its class follows it. -/
theorem apart_of_run {run : RunClass} {text later : List Char} (nonempty : text ≠ [])
    (hrun : ∀ c ∈ text, run.belongs c = true) :
    Apart text later ↔ ∀ d ∈ later.head?, run.belongs d = false := by
  have hlast := List.getLast?_eq_some_getLast nonempty
  have hc := hrun _ (List.getLast_mem nonempty)
  rw [apart_iff_forall_not_crosses]
  constructor
  · intro h d hhead
    rw [← Bool.not_eq_true]
    intro hd
    exact h run ⟨⟨_, hlast, hc⟩, d, hhead, hd⟩
  · rintro h other ⟨⟨c, hlast', hc'⟩, d, hhead, hd⟩
    obtain rfl := Option.some.inj (hlast.symm.trans hlast')
    obtain rfl := RunClass.eq_of_belongs hc hc'
    cases (h d hhead).symm.trans hd

theorem apart_of_mark {c : Char} {kind : Kind} (h : Kind.ofMark? c = some kind)
    (later : List Char) : Apart [c] later := by
  intro c' hlast d _
  obtain rfl := Option.some.inj hlast
  obtain ⟨hletter, hdigit, -⟩ := classes_of_ofMark? h
  simp [hletter, hdigit]

namespace Scanner

/-- What reading the next token can come to. -/
inductive Reads (scanner : Scanner) : Except LexicalError (Option Token) → Scanner → Prop where
  | finished (blank : ∀ c ∈ scanner.rest, Text.isBlank c = true) :
      Reads scanner (.ok none)
        { rest := [], position := scanner.position + scanner.rest.length,
          line := scanner.line + scanner.rest.count '\n' }
  | token {blanks text later : List Char} {token : Token}
      (split : scanner.rest = blanks ++ (text ++ later))
      (blank : ∀ c ∈ blanks, Text.isBlank c = true)
      (spelled : Spells (scanner.line + blanks.count '\n') text token)
      (apart : Apart text later) :
      Reads scanner (.ok (some token))
        { rest := later, position := scanner.position + blanks.length + text.length,
          line := scanner.line + blanks.count '\n' }
  | foreign {blanks later : List Char} {c : Char} (split : scanner.rest = blanks ++ c :: later)
      (blank : ∀ c ∈ blanks, Text.isBlank c = true) (foreign : CharacterClass.of c = .foreign) :
      Reads scanner (.error { character := c, line := scanner.line + blanks.count '\n' })
        { rest := c :: later, position := scanner.position + blanks.length,
          line := scanner.line + blanks.count '\n' }

/-- Exactly the blanks are passed, and their line feeds are counted. -/
theorem behindBlanks_append {blanks rest : List Char} (position line : Nat)
    (hblank : ∀ c ∈ blanks, Text.isBlank c = true)
    (hrest : ∀ c ∈ rest.head?, Text.isBlank c = false) :
    behindBlanks position line (blanks ++ rest) =
      { rest, position := position + blanks.length, line := line + blanks.count '\n' } := by
  induction blanks generalizing position line with
  | nil =>
    cases rest with
    | nil => rfl
    | cons c rest =>
      have hc := hrest c rfl
      have hfeed : c ≠ '\n' := by
        rintro rfl
        cases hc
      simp only [List.nil_append, behindBlanks, hfeed, hc, Bool.false_eq_true, if_false]
      rfl
  | cons c blanks ih =>
    obtain ⟨hc, hblanks⟩ := List.forall_mem_cons.mp hblank
    by_cases hfeed : c = '\n'
    · subst hfeed
      simp only [List.cons_append, behindBlanks, if_true, ih _ _ hblanks, List.length_cons,
        List.count_cons_self]
      congr 1 <;> omega
    · simp only [List.cons_append, behindBlanks, hfeed, hc, if_true, if_false, ih _ _ hblanks,
        List.length_cons, List.count_cons_of_ne hfeed]
      congr 1
      omega

/-- A run is read as one token and passed. -/
theorem readRun_of_run {belongs : Char → Bool} {token : String → Nat → Token} {scanner : Scanner}
    {text later : List Char} (split : scanner.rest = text ++ later)
    (hrun : ∀ c ∈ text, belongs c = true) (hlater : ∀ c ∈ later.head?, belongs c = false) :
    scanner.readRun belongs token =
      (token (String.ofList text) scanner.line,
        { rest := later, position := scanner.position + text.length, line := scanner.line }) := by
  simp only [readRun, run, advance, split, takeWhile_of_run hrun hlater, List.drop_left,
    List.take_left]

theorem skipBlanks_of_split {scanner : Scanner} {blanks rest : List Char}
    (split : scanner.rest = blanks ++ rest) (hblank : ∀ c ∈ blanks, Text.isBlank c = true)
    (hrest : ∀ c ∈ rest.head?, Text.isBlank c = false) :
    scanner.skipBlanks =
      { rest, position := scanner.position + blanks.length,
        line := scanner.line + blanks.count '\n' } := by
  rw [skipBlanks, split]
  exact behindBlanks_append _ _ hblank hrest

section

variable {scanner : Scanner} {c : Char} {rest : List Char}

theorem next_of_run {run : RunClass} (hrest : scanner.skipBlanks.rest = c :: rest)
    (h : run.belongs c = true) :
    scanner.next =
      (.ok (some (scanner.skipBlanks.readRun run.belongs run.token).1),
        (scanner.skipBlanks.readRun run.belongs run.token).2) := by
  cases run with
  | letters =>
    simp only [next, hrest, class_of_isAlpha h]
    rfl
  | digits =>
    simp only [next, hrest, class_of_isDigit h]
    rfl

theorem next_of_mark {kind : Kind} (hrest : scanner.skipBlanks.rest = c :: rest)
    (h : Kind.ofMark? c = some kind) :
    scanner.next =
      (.ok (some { kind, line := scanner.skipBlanks.line }),
        { rest, position := scanner.skipBlanks.position + 1,
          line := scanner.skipBlanks.line }) := by
  simp only [next, advance, hrest, class_of_ofMark? h]
  rfl

end

/-- At a lexeme, reading gives its token and passes it. -/
theorem next_of_spells {scanner : Scanner} {blanks text later : List Char} {token : Token}
    (split : scanner.rest = blanks ++ (text ++ later))
    (hblank : ∀ c ∈ blanks, Text.isBlank c = true)
    (spelled : Spells (scanner.line + blanks.count '\n') text token) (apart : Apart text later) :
    scanner.next =
      (.ok (some token),
        { rest := later, position := scanner.position + blanks.length + text.length,
          line := scanner.line + blanks.count '\n' }) := by
  have hfirst : ∀ c ∈ (text ++ later).head?, Text.isBlank c = false := by
    intro c hhead
    rw [List.head?_append_of_ne_nil text spelled.ne_nil] at hhead
    exact spelled.not_isBlank (List.mem_of_mem_head? hhead)
  have hskip := skipBlanks_of_split split hblank hfirst
  obtain ⟨c, rest, hhead⟩ := List.exists_cons_of_ne_nil spelled.ne_nil
  have hmem : c ∈ text := by
    rw [hhead]
    exact List.mem_cons_self
  have hrest : scanner.skipBlanks.rest = c :: (rest ++ later) := by
    rw [hskip, hhead]
    rfl
  rcases spelled.form with ⟨run, nonempty, hrun, rfl⟩ | ⟨mark, kind, rfl, hkind, rfl⟩
  · have hread : scanner.skipBlanks.readRun run.belongs run.token = _ :=
      readRun_of_run (congrArg Scanner.rest hskip) hrun ((apart_of_run nonempty hrun).mp apart)
    rw [next_of_run hrest (hrun c hmem), hread, hskip]
  · obtain ⟨rfl, rfl⟩ := List.cons.inj hhead
    rw [next_of_mark hrest hkind, hskip]
    rfl

/-- Reading the next token does what the relation says. -/
theorem next_of_reads {scanner after : Scanner} {result : Except LexicalError (Option Token)}
    (h : Reads scanner result after) : scanner.next = (result, after) := by
  cases h with
  | finished blank =>
    have hskip := skipBlanks_of_split (List.append_nil scanner.rest).symm blank (by simp)
    simp only [next, hskip]
  | token split blank spelled apart => exact next_of_spells split blank spelled apart
  | @foreign blanks later c split blank foreign =>
    have hskip := skipBlanks_of_split split blank (by
      intro d hhead
      obtain rfl := Option.some.inj hhead
      exact class_eq_foreign foreign)
    simp only [next, hskip, foreign]

/-- Behind the blanks, a character of a class begins the longest run of it. -/
theorem exists_reads_of_run (run : RunClass) {scanner : Scanner} {blanks rest : List Char}
    {c : Char} (split : scanner.rest = blanks ++ c :: rest)
    (hblank : ∀ c ∈ blanks, Text.isBlank c = true) (hc : run.belongs c = true) :
    ∃ result after, Reads scanner result after := by
  obtain ⟨text, later, htext, nonempty, hrun, hlater⟩ := exists_run_cons hc rest
  rw [htext] at split
  exact ⟨_, _, .token split hblank (spells_run _ nonempty hrun)
    ((apart_of_run nonempty hrun).mpr hlater)⟩

/-- Whatever is left, there is something that reading comes to. -/
theorem exists_reads (scanner : Scanner) : ∃ result after, Reads scanner result after := by
  -- The first character behind the blanks decides by its class.
  obtain ⟨blanks, rest, split, hblank, hrest⟩ := exists_run Text.isBlank scanner.rest
  cases rest with
  | nil =>
    rw [List.append_nil] at split
    rw [← split] at hblank
    exact ⟨_, _, .finished hblank⟩
  | cons c rest =>
    cases hclass : CharacterClass.of c with
    | letter =>
      exact exists_reads_of_run .letters split hblank (isAlpha_of_class_eq_letter hclass)
    | digit => exact exists_reads_of_run .digits split hblank (isDigit_of_class_eq_digit hclass)
    | mark kind =>
      have hmark := class_eq_mark hclass
      have hsplit : scanner.rest = blanks ++ ([c] ++ rest) := split
      exact ⟨_, _, .token hsplit hblank (spells_mark _ hmark) (apart_of_mark hmark rest)⟩
    | blank => cases (hrest c rfl).symm.trans (class_eq_blank hclass)
    | foreign => exact ⟨_, _, .foreign split hblank hclass⟩

/-- Reading the next token is exactly the relation. -/
theorem next_eq_iff_reads {scanner after : Scanner}
    {result : Except LexicalError (Option Token)} :
    scanner.next = (result, after) ↔ Reads scanner result after := by
  constructor
  · intro h
    obtain ⟨result', after', hreads⟩ := exists_reads scanner
    obtain ⟨rfl, rfl⟩ := Prod.mk.inj ((next_of_reads hreads).symm.trans h)
    exact hreads
  · exact next_of_reads

end Scanner

end StatementLang
