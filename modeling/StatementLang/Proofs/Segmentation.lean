import Mathlib.Data.List.Forall2
import StatementLang.Proofs.Lexing

/-!
# Spans of Tokens

The tokens of a text stand on spans of it.  Outside of them there are only blanks, every span is a
lexeme that no neighbour prolongs, and the line of a token counts the line feeds before its span.
There is only one such division of a text, and it is the one that cutting it into tokens follows.
-/

namespace StatementLang

/-- A part of a text: the places from its start to before its stop. -/
structure Span where
  start : Nat
  stop : Nat
deriving DecidableEq, Repr

namespace Span

def before (span : Span) (text : List Char) : List Char := text.take span.start

def within (span : Span) (text : List Char) : List Char := (text.take span.stop).drop span.start

def after (span : Span) (text : List Char) : List Char := text.drop span.stop

/-- A place lies on a span. -/
def Covers (span : Span) (place : Nat) : Prop := span.start ≤ place ∧ place < span.stop

end Span

/-- From a place on, a text is divided into the spans of some tokens. -/
structure Segments (text : List Char) (start : Nat) (spans : List Span) (tokens : List Token) :
    Prop where
  inside : ∀ span ∈ spans, start ≤ span.start ∧ span.start < span.stop ∧ span.stop ≤ text.length
  ordered : spans.Pairwise fun earlier later ↦ earlier.stop ≤ later.start
  blank : ∀ place c, start ≤ place → text[place]? = some c →
    (∀ span ∈ spans, ¬ span.Covers place) → Text.isBlank c = true
  spelled : List.Forall₂ (fun span token ↦
    token.lexeme = String.ofList (span.within text) ∧
      Spells (1 + (span.before text).count '\n') (span.within text) token) spans tokens
  apart : ∀ span ∈ spans,
    Apart (span.before text) (span.within text) ∧ Apart (span.within text) (span.after text)

theorem mem_drop_iff {text : List Char} {start : Nat} {c : Char} :
    c ∈ text.drop start ↔ ∃ place, start ≤ place ∧ text[place]? = some c := by
  simp only [List.mem_iff_getElem?, List.getElem?_drop]
  constructor
  · rintro ⟨index, hindex⟩
    exact ⟨start + index, Nat.le_add_right _ _, hindex⟩
  · rintro ⟨place, hplace, hc⟩
    refine ⟨place - start, ?_⟩
    rwa [Nat.add_sub_cancel' hplace]

theorem mem_drop_take_iff {text : List Char} {start stop : Nat} {c : Char} :
    c ∈ (text.take stop).drop start ↔
      ∃ place, start ≤ place ∧ place < stop ∧ text[place]? = some c := by
  simp only [mem_drop_iff, List.getElem?_take, Option.ite_none_right_eq_some]

theorem drop_eq_append {text : List Char} {start stop : Nat} (h : start ≤ stop)
    (hstop : stop ≤ text.length) :
    text.drop start = (text.take stop).drop start ++ text.drop stop := by
  conv_lhs => rw [← List.take_append_drop stop text]
  apply List.drop_append_of_le_length
  rw [List.length_take]
  omega

theorem take_eq_append {text : List Char} {start stop : Nat} (h : start ≤ stop) :
    text.take stop = text.take start ++ (text.take stop).drop start := by
  conv_lhs => rw [← List.take_append_drop start (text.take stop)]
  rw [List.take_take, Nat.min_eq_left h]

theorem segments_nil_iff {text : List Char} {start : Nat} {tokens : List Token} :
    Segments text start [] tokens ↔
      tokens = [] ∧ ∀ c ∈ text.drop start, Text.isBlank c = true := by
  constructor
  · intro h
    refine ⟨List.forall₂_nil_left_iff.mp h.spelled, fun c hc ↦ ?_⟩
    obtain ⟨place, hstart, hplace⟩ := mem_drop_iff.mp hc
    exact h.blank place c hstart hplace (by simp)
  · rintro ⟨rfl, hblank⟩
    refine ⟨by simp, .nil, fun place c hstart hplace _ ↦ ?_, .nil, by simp⟩
    exact hblank c (mem_drop_iff.mpr ⟨place, hstart, hplace⟩)

/-- A division begins with blanks and a span, and goes on behind the span. -/
theorem segments_cons_iff {text : List Char} {start : Nat} {span : Span} {spans : List Span}
    {token : Token} {tokens : List Token} :
    Segments text start (span :: spans) (token :: tokens) ↔
      (start ≤ span.start ∧ span.start < span.stop ∧ span.stop ≤ text.length) ∧
      (∀ c ∈ (text.take span.start).drop start, Text.isBlank c = true) ∧
      (token.lexeme = String.ofList (span.within text) ∧
        Spells (1 + (span.before text).count '\n') (span.within text) token) ∧
      (Apart (span.before text) (span.within text) ∧
        Apart (span.within text) (span.after text)) ∧
      Segments text span.stop spans tokens := by
  constructor
  · rintro ⟨inside, ordered, blank, spelled, apart⟩
    obtain ⟨hinside, hinsides⟩ := List.forall_mem_cons.mp inside
    obtain ⟨hordered, hordereds⟩ := List.pairwise_cons.mp ordered
    obtain ⟨hspelled, hspelleds⟩ := List.forall₂_cons.mp spelled
    obtain ⟨hapart, haparts⟩ := List.forall_mem_cons.mp apart
    refine ⟨hinside, fun c hc ↦ ?_, hspelled, hapart, ?_, hordereds, ?_, hspelleds, haparts⟩
    · obtain ⟨place, hstart, hbefore, hplace⟩ := mem_drop_take_iff.mp hc
      apply blank place c hstart hplace
      intro other hother hcovers
      rcases List.mem_cons.mp hother with rfl | hlater
      · exact Nat.not_le_of_lt hbefore hcovers.1
      · have := hordered other hlater
        have := hcovers.1
        omega
    · intro other hother
      exact ⟨hordered other hother, (hinsides other hother).2⟩
    · intro place c hstop hplace hfree
      apply blank place c (by omega) hplace
      intro other hother hcovers
      rcases List.mem_cons.mp hother with rfl | hlater
      · exact Nat.not_le_of_lt hcovers.2 hstop
      · exact hfree other hlater hcovers
  · rintro ⟨hinside, hblank, hspelled, hapart, rest⟩
    refine ⟨?_, ?_, ?_, .cons hspelled rest.spelled, ?_⟩
    · refine List.forall_mem_cons.mpr ⟨hinside, fun other hother ↦ ?_⟩
      have hlater := rest.inside other hother
      exact ⟨by omega, hlater.2⟩
    · exact List.pairwise_cons.mpr ⟨fun other hother ↦ (rest.inside other hother).1, rest.ordered⟩
    · intro place c hstart hplace hfree
      obtain ⟨hnot, hnots⟩ := List.forall_mem_cons.mp hfree
      by_cases hbefore : place < span.start
      · exact hblank c (mem_drop_take_iff.mpr ⟨place, hstart, hbefore, hplace⟩)
      · refine rest.blank place c ?_ hplace hnots
        by_contra hstop
        exact hnot ⟨Nat.le_of_not_lt hbefore, Nat.lt_of_not_le hstop⟩
    · exact List.forall_mem_cons.mpr ⟨hapart, rest.apart⟩

/-! ## Divisions and lexemes -/

/-- A text behind another is divided as it is made of lexemes. -/
theorem exists_segments_of_lexes {line : Nat} {rest : List Char} {tokens : List Token}
    (h : Lexes line rest tokens) (before : List Char) (hline : line = 1 + before.count '\n')
    (hapart : Apart before rest) :
    ∃ spans, Segments (before ++ rest) before.length spans tokens := by
  induction h generalizing before with
  | blank blank =>
    refine ⟨[], segments_nil_iff.mpr ⟨rfl, ?_⟩⟩
    rw [List.drop_left]
    exact blank
  | @token line blanks text later token tokens blank spelled apart rest ih =>
    have hbefore : Apart (before ++ blanks) (text ++ later) := by
      apply apart_blanks_left blank
      rintro rfl
      exact hapart
    have happart : Apart (before ++ blanks ++ text) later :=
      (apart_append_left spelled.ne_nil).mpr apart
    have hcount : line + blanks.count '\n' = 1 + (before ++ blanks ++ text).count '\n' := by
      rw [List.count_append, List.count_append, spelled.count_lineFeed, hline, Nat.add_zero,
        Nat.add_assoc]
    obtain ⟨spans, hspans⟩ := ih (before ++ blanks ++ text) hcount happart
    let span : Span :=
      { start := (before ++ blanks).length, stop := (before ++ blanks ++ text).length }
    have hsplit : before ++ (blanks ++ (text ++ later)) = before ++ blanks ++ text ++ later := by
      simp only [List.append_assoc]
    have htake : (before ++ blanks ++ text ++ later).take (before ++ blanks).length =
        before ++ blanks := by
      rw [List.append_assoc _ text, List.take_left]
    have hwithin : span.within (before ++ blanks ++ text ++ later) = text := by
      simp only [Span.within, span, List.take_left, List.drop_left]
    refine ⟨span :: spans, ?_⟩
    rw [hsplit, segments_cons_iff, hwithin]
    refine ⟨⟨?_, ?_, ?_⟩, ?_, ⟨spelled.lexeme_eq, ?_⟩, ⟨?_, ?_⟩, hspans⟩
    · simp only [span, List.length_append, Nat.le_add_right]
    · have hpositive := List.length_pos_of_ne_nil spelled.ne_nil
      simp only [span, List.length_append]
      omega
    · simp only [span, List.length_append, Nat.le_add_right]
    · rw [htake, List.drop_left]
      exact blank
    · rw [Span.before, htake, List.count_append, ← Nat.add_assoc, ← hline]
      exact spelled
    · rw [Span.before, htake]
      exact hbefore.of_append_right
    · simp only [Span.after, span, List.drop_left]
      exact apart

/-- What a division says about the text before the stop of its first span. -/
theorem exists_blanks_of_segments {text : List Char} {start : Nat} {span : Span}
    {spans : List Span} {token : Token} {tokens : List Token}
    (h : Segments text start (span :: spans) (token :: tokens)) :
    ∃ blanks, text.drop start = blanks ++ (span.within text ++ span.after text) ∧
      (∀ c ∈ blanks, Text.isBlank c = true) ∧
      Spells (1 + (text.take start).count '\n' + blanks.count '\n') (span.within text) token ∧
      (text.take span.stop).count '\n' = (text.take start).count '\n' + blanks.count '\n' ∧
      span.start = start + blanks.length ∧
      span.stop = start + blanks.length + (span.within text).length := by
  obtain ⟨⟨hstart, hspan, hstop⟩, blank, ⟨-, spelled⟩, -, -⟩ := segments_cons_iff.mp h
  have hgap : ((text.take span.start).drop start).length = span.start - start := by
    rw [List.length_drop, List.length_take]
    omega
  have hwithin : (span.within text).length = span.stop - span.start := by
    rw [Span.within, List.length_drop, List.length_take]
    omega
  have hbefore : (span.before text).count '\n' =
      (text.take start).count '\n' + ((text.take span.start).drop start).count '\n' := by
    rw [← List.count_append, ← take_eq_append hstart]
    rfl
  refine ⟨(text.take span.start).drop start, ?_, blank, ?_, ?_, ?_, ?_⟩
  · rw [drop_eq_append hstart (by omega), drop_eq_append (Nat.le_of_lt hspan) hstop]
    rfl
  · rw [Nat.add_assoc, ← hbefore]
    exact spelled
  · rw [take_eq_append (Nat.le_of_lt hspan), List.count_append, ← hbefore]
    exact (congrArg _ spelled.count_lineFeed).trans (Nat.add_zero _)
  · omega
  · omega

/-- A divided text is made of the lexemes on its spans. -/
theorem lexes_of_segments {text : List Char} {start : Nat} {spans : List Span}
    {tokens : List Token} (h : Segments text start spans tokens) :
    Lexes (1 + (text.take start).count '\n') (text.drop start) tokens := by
  induction spans generalizing start tokens with
  | nil =>
    obtain ⟨rfl, blank⟩ := segments_nil_iff.mp h
    exact .blank blank
  | cons span spans ih =>
    cases tokens with
    | nil => cases h.spelled
    | cons token tokens =>
      obtain ⟨blanks, hsplit, blank, spelled, hline, -, -⟩ := exists_blanks_of_segments h
      obtain ⟨-, -, -, ⟨-, apart⟩, rest⟩ := segments_cons_iff.mp h
      have hrest := ih rest
      rw [hline, ← Nat.add_assoc] at hrest
      rw [hsplit]
      exact .token blank spelled apart hrest

/-- The tokens of a text can stand on one choice of spans only. -/
theorem spans_unique {text : List Char} {start : Nat} {first second : List Span}
    {tokens : List Token} (h : Segments text start first tokens)
    (h' : Segments text start second tokens) : first = second := by
  induction tokens generalizing start first second with
  | nil => rw [List.forall₂_nil_right_iff.mp h.spelled, List.forall₂_nil_right_iff.mp h'.spelled]
  | cons token tokens ih =>
    cases first with
    | nil => cases h.spelled
    | cons span spans =>
      cases second with
      | nil => cases h'.spelled
      | cons other others =>
        obtain ⟨blanks, hsplit, blank, spelled, -, hstart, hstop⟩ := exists_blanks_of_segments h
        obtain ⟨blanks', hsplit', blank', spelled', -, hstart', hstop'⟩ :=
          exists_blanks_of_segments h'
        obtain ⟨-, -, -, ⟨-, apart⟩, rest⟩ := segments_cons_iff.mp h
        obtain ⟨-, -, -, ⟨-, apart'⟩, rest'⟩ := segments_cons_iff.mp h'
        -- Both first spans are what one scanner reads next, so they stop at the same place.
        let scanner : Scanner :=
          { rest := text.drop start, position := start, line := 1 + (text.take start).count '\n' }
        have hnext : scanner.next = _ := Scanner.next_of_spells hsplit blank spelled apart
        have hnext' : scanner.next = _ := Scanner.next_of_spells hsplit' blank' spelled' apart'
        have hposition : start + blanks.length + (span.within text).length =
            start + blanks'.length + (other.within text).length :=
          congrArg (fun result ↦ result.2.position) (hnext.symm.trans hnext')
        have hwithin : span.within text = other.within text :=
          String.ofList_injective (spelled.lexeme_eq.symm.trans spelled'.lexeme_eq)
        have hspan : span = other := by
          rw [hwithin] at hposition hstop
          cases span
          cases other
          simp only [Span.mk.injEq]
          simp only at hstart hstart' hstop hstop'
          omega
        subst hspan
        rw [ih rest rest']

/-- The tokens of a source text are those of its only division into spans.  Their lexemes are the
text without its blanks, and their lines never go back. -/
theorem tokenize_eq_ok_iff_segments (source : String) (tokens : List Token) :
    (tokenize source = .ok tokens ↔ ∃ spans, Segments source.toList 0 spans tokens) ∧
    (∀ first second others, Segments source.toList 0 first tokens →
      Segments source.toList 0 second others → first = second ∧ tokens = others) ∧
    (tokenize source = .ok tokens →
      (tokens.flatMap fun token ↦ token.lexeme.toList) =
          (source.toList.filter fun c ↦ !Text.isBlank c) ∧
        (1 :: tokens.map Token.line).Pairwise (· ≤ ·)) := by
  have hsound {spans : List Span} {others : List Token}
      (h : Segments source.toList 0 spans others) : tokenize source = .ok others :=
    tokenize_eq_ok_iff_lexes.mpr (lexes_of_segments h)
  refine ⟨⟨fun h ↦ ?_, fun ⟨spans, h⟩ ↦ hsound h⟩, fun first second others h h' ↦ ?_, fun h ↦ ?_⟩
  · have hlexes := tokenize_eq_ok_iff_lexes.mp h
    exact exists_segments_of_lexes hlexes [] rfl (apart_nil_left _)
  · obtain rfl := Except.ok.inj ((hsound h).symm.trans (hsound h'))
    exact ⟨spans_unique h h', rfl⟩
  · have hlexes := tokenize_eq_ok_iff_lexes.mp h
    exact ⟨hlexes.lexemes_eq, hlexes.lines_ordered⟩

/-- Letters and digits need no blank between them, and a carriage return starts no line. -/
theorem segments_adjacent_runs :
    let source := "logs07\rlet\n="
    let tokens : List Token :=
      [⟨.identifier, 1, some "logs"⟩, ⟨.integer, 1, some "07"⟩, ⟨.keyword .letBinder, 1, none⟩,
        ⟨.equal, 2, none⟩]
    tokenize source = .ok tokens ∧
      (∃ spans, Segments source.toList 0 spans tokens ∧
        ∀ others, Segments source.toList 0 others tokens → spans = others) ∧
      (tokens.flatMap fun token ↦ token.lexeme.toList) = "logs07let=".toList := by
  intro source tokens
  have htokenize : tokenize source = .ok tokens := by decide +kernel
  obtain ⟨hdivided, hunique, hlexemes⟩ := tokenize_eq_ok_iff_segments source tokens
  obtain ⟨spans, h⟩ := hdivided.mp htokenize
  refine ⟨htokenize, ⟨spans, h, fun others h' ↦ (hunique spans others tokens h h').1⟩, ?_⟩
  exact (hlexemes htokenize).1.trans (by decide)

end StatementLang
