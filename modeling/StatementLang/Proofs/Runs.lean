import Mathlib.Data.List.TakeWhile

/-!
# Runs of Characters

A run is the longest part of a text from its start whose characters all belong to a class.  It ends
before the first character that does not.
-/

namespace StatementLang

section

variable {belongs : Char → Bool} {text later : List Char}
  (hrun : ∀ c ∈ text, belongs c = true) (hlater : ∀ c ∈ later.head?, belongs c = false)

include hrun hlater

theorem takeWhile_of_run : (text ++ later).takeWhile belongs = text := by
  rw [List.takeWhile_append_of_pos hrun]
  cases later with
  | nil => simp
  | cons c later =>
    rw [List.takeWhile_cons, hlater c rfl]
    simp

theorem dropWhile_of_run : (text ++ later).dropWhile belongs = later := by
  rw [List.dropWhile_append_of_pos hrun]
  cases later with
  | nil => rfl
  | cons c later =>
    rw [List.dropWhile_cons, hlater c rfl]
    simp

end

/-- The first character of a class divides a text in one way only. -/
theorem split_unique {belongs : Char → Bool} {before before' later later' : List Char} {c c' : Char}
    (split : before ++ c :: later = before' ++ c' :: later')
    (h : ∀ d ∈ before, belongs d = false) (hc : belongs c = true)
    (h' : ∀ d ∈ before', belongs d = false) (hc' : belongs c' = true) :
    before = before' ∧ c = c' ∧ later = later' := by
  have hrun {first rest : List Char} {d : Char} (hfirst : ∀ e ∈ first, belongs e = false)
      (hd : belongs d = true) : (first ++ d :: rest).takeWhile (fun e ↦ !belongs e) = first :=
    takeWhile_of_run (fun e hmem ↦ by rw [hfirst e hmem, Bool.not_false])
      (fun e hhead ↦ by rw [← Option.some.inj hhead, hd, Bool.not_true])
  have hbefore : before = before' :=
    calc
      before = (before ++ c :: later).takeWhile (fun e ↦ !belongs e) := (hrun h hc).symm
      _ = (before' ++ c' :: later').takeWhile (fun e ↦ !belongs e) := by rw [split]
      _ = before' := hrun h' hc'
  subst hbefore
  obtain ⟨hfirst, hlater⟩ := List.cons.inj (List.append_cancel_left split)
  exact ⟨rfl, hfirst, hlater⟩

/-- So does the first place of a character. -/
theorem split_at_unique {c : Char} {before before' later later' : List Char}
    (split : before ++ c :: later = before' ++ c :: later') (h : c ∉ before) (h' : c ∉ before') :
    before = before' ∧ later = later' := by
  have hnot {first : List Char} (hfirst : c ∉ first) : ∀ d ∈ first, (d == c) = false := by
    intro d hmem
    rw [beq_eq_false_iff_ne]
    rintro rfl
    exact hfirst hmem
  obtain ⟨hbefore, -, hlater⟩ :=
    split_unique split (hnot h) (beq_self_eq_true c) (hnot h') (beq_self_eq_true c)
  exact ⟨hbefore, hlater⟩

/-- The character behind a run does not belong to its class. -/
theorem head?_dropWhile {belongs : Char → Bool} {text : List Char} :
    ∀ c ∈ (text.dropWhile belongs).head?, belongs c = false := by
  intro c hhead
  have hnot := List.head?_dropWhile_not belongs text
  rw [hhead] at hnot
  simpa using hnot

/-- The characters of a class at the front of a text, and what follows them. -/
theorem exists_run (belongs : Char → Bool) (text : List Char) :
    ∃ first later, text = first ++ later ∧ (∀ c ∈ first, belongs c = true) ∧
      ∀ c ∈ later.head?, belongs c = false :=
  ⟨text.takeWhile belongs, text.dropWhile belongs,
    List.takeWhile_append_dropWhile.symm, fun _ ↦ List.mem_takeWhile_imp, head?_dropWhile⟩

theorem exists_run_cons {belongs : Char → Bool} {c : Char} (h : belongs c = true)
    (text : List Char) :
    ∃ first later, c :: text = first ++ later ∧ first ≠ [] ∧ (∀ c ∈ first, belongs c = true) ∧
      ∀ c ∈ later.head?, belongs c = false := by
  obtain ⟨first, later, rfl, hfirst, hlater⟩ := exists_run belongs text
  exact ⟨c :: first, later, rfl, List.cons_ne_nil c first,
    List.forall_mem_cons.mpr ⟨h, hfirst⟩, hlater⟩

end StatementLang
