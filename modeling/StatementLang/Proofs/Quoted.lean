import Mathlib.Data.List.Basic
import StatementLang.Proofs.Digits
import StatementLang.Proofs.Runs
import StatementLang.Text.Quoted

/-!
# Quoted Texts

No form of a character inside quotes is the start of another one, so that a text is known from what
it is between quotes.  It breaks no line there.
-/

namespace StatementLang.Text

/-- The characters with a short form inside quotes, each behind the letter of its form. -/
def quotedMarks : List (Char × Char) :=
  [('"', '"'), ('\\', '\\'), ('n', '\n'), ('r', '\r'), ('t', '\t'), ('0', '\x00')]

/-- Inside quotes stand short forms, forms by the code point, and characters themselves. -/
theorem quotedChar_cases (c : Char) :
    (∃ mark, (mark, c) ∈ quotedMarks ∧ quotedChar c = ['\\', mark]) ∨
    quotedChar c = '\\' :: 'u' :: '\x7b' :: (hexadecimal c.toNat ++ ['\x7d']) ∨
    (c ∉ quotedMarks.map Prod.snd ∧ quotedChar c = [c]) := by
  by_cases hmark : c ∈ ['"', '\\', '\n', '\r', '\t', '\x00']
  · left
    simp only [List.mem_cons, List.not_mem_nil, or_false] at hmark
    rcases hmark with rfl | rfl | rfl | rfl | rfl | rfl <;> exact ⟨_, by decide, rfl⟩
  · right
    have hunmarked : c ∉ quotedMarks.map Prod.snd := hmark
    simp only [List.mem_cons, List.not_mem_nil, or_false, not_or] at hmark
    obtain ⟨hquote, hbackslash, hline, hreturn, htab, hnull⟩ := hmark
    have hquoted : quotedChar c =
        if isHidden c then ['\\', 'u', '\x7b'] ++ hexadecimal c.toNat ++ ['\x7d'] else [c] := by
      rw [quotedChar, if_neg hquote, if_neg hbackslash, if_neg hline, if_neg hreturn, if_neg htab,
        if_neg hnull]
    by_cases hhidden : isHidden c = true
    · left
      rw [hquoted, if_pos hhidden]
      rfl
    · right
      exact ⟨hunmarked, by rw [hquoted, if_neg hhidden]⟩

theorem eq_of_quotedMarks {mark c d : Char} (h : (mark, c) ∈ quotedMarks)
    (h' : (mark, d) ∈ quotedMarks) : c = d := by
  have all : ∀ first ∈ quotedMarks, ∀ second ∈ quotedMarks,
      first.1 = second.1 → first.2 = second.2 := by decide
  exact all _ h _ h' rfl

theorem ne_u_of_quotedMarks {mark c : Char} (h : (mark, c) ∈ quotedMarks) : mark ≠ 'u' := by
  have all : ∀ entry ∈ quotedMarks, entry.1 ≠ 'u' := by decide
  exact all _ h

theorem ne_backslash_of_unmarked {c : Char} (h : c ∉ quotedMarks.map Prod.snd) : c ≠ '\\' := by
  rintro rfl
  exact h (by decide)

/-- A character is known from its form inside quotes, whatever follows. -/
theorem quotedChar_append_inj {c d : Char} {text text' : List Char}
    (h : quotedChar c ++ text = quotedChar d ++ text') : c = d ∧ text = text' := by
  -- The first character tells whether the form is the character itself, the second one which other.
  obtain ⟨mark, known, hc⟩ | hc | ⟨unmarked, hc⟩ := quotedChar_cases c <;>
    obtain ⟨mark', known', hd⟩ | hd | ⟨unmarked', hd⟩ := quotedChar_cases d <;>
    simp only [hc, hd, List.cons_append, List.nil_append, List.append_assoc, List.cons.injEq,
      true_and] at h
  · obtain ⟨rfl, htext⟩ := h
    exact ⟨eq_of_quotedMarks known known', htext⟩
  · exact absurd h.1 (ne_u_of_quotedMarks known)
  · exact absurd h.1.symm (ne_backslash_of_unmarked unmarked')
  · exact absurd h.1.symm (ne_u_of_quotedMarks known')
  · have hfree {number : Nat} : '\x7d' ∉ hexadecimal number := fun hmem ↦
      (ne_of_mem_hexadecimal hmem).1 rfl
    obtain ⟨hdigits, htext⟩ := split_at_unique h hfree hfree
    exact ⟨Char.toNat_inj.mp (hexadecimal_injective hdigits), htext⟩
  · exact absurd h.1.symm (ne_backslash_of_unmarked unmarked')
  · exact absurd h.1 (ne_backslash_of_unmarked unmarked)
  · exact absurd h.1 (ne_backslash_of_unmarked unmarked)
  · exact h

theorem quotedChar_ne_nil (c : Char) : quotedChar c ≠ [] := by
  obtain ⟨mark, -, h⟩ | h | ⟨-, h⟩ := quotedChar_cases c <;> simp [h]

theorem flatMap_quotedChar_injective {cs ds : List Char}
    (h : cs.flatMap quotedChar = ds.flatMap quotedChar) : cs = ds := by
  induction cs generalizing ds with
  | nil =>
    cases ds with
    | nil => rfl
    | cons d ds => simp [quotedChar_ne_nil] at h
  | cons c cs ih =>
    cases ds with
    | nil => simp [quotedChar_ne_nil] at h
    | cons d ds =>
      obtain ⟨rfl, hrest⟩ := quotedChar_append_inj h
      rw [ih hrest]

theorem quote_injective : Function.Injective quote := by
  intro text other h
  have hbody := List.append_cancel_right (List.cons.inj h).2
  exact String.toList_injective (flatMap_quotedChar_injective hbody)

theorem newLine_not_mem_quotedChar (c : Char) : '\n' ∉ quotedChar c := by
  obtain ⟨mark, known, h⟩ | h | ⟨unmarked, h⟩ := quotedChar_cases c
  · have all : ∀ entry ∈ quotedMarks, '\n' ∉ ['\\', entry.1] := by decide
    rw [h]
    exact all _ known
  · intro hmem
    rw [h] at hmem
    simp only [List.mem_cons, List.mem_append, List.not_mem_nil, or_false, Char.reduceEq,
      false_or] at hmem
    exact (ne_of_mem_hexadecimal hmem).2 rfl
  · rw [h, List.mem_singleton]
    rintro rfl
    exact unmarked (by decide)

/-- A quoted text stands on one line. -/
theorem newLine_not_mem_quote (text : String) : '\n' ∉ quote text := by
  simp [quote, newLine_not_mem_quotedChar]

end StatementLang.Text
