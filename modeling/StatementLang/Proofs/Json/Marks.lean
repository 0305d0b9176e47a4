import StatementLang.Json.Reader
import StatementLang.Proofs.Json.Numerals

/-!
# Blanks and Marks between Values

The blanks, commas, colons and closing brackets that the grammar allows between values are exactly
those that are passed in reading.
-/

namespace StatementLang.Json

section

variable {text rest : List Char}

theorem blanks_refl (text : List Char) : Blanks text text := ⟨[], rfl, by simp⟩

theorem blanks_cons {c : Char} (h : isBlank c = true) (text : List Char) :
    Blanks (c :: text) text :=
  ⟨[c], rfl, by simp [h]⟩

theorem blanks_skipBlanks (text : List Char) : Blanks text (skipBlanks text) :=
  ⟨text.takeWhile isBlank, List.takeWhile_append_dropWhile.symm, fun _ ↦ List.mem_takeWhile_imp⟩

theorem Blanks.trans {middle : List Char} (h : Blanks text middle)
    (later : Blanks middle rest) : Blanks text rest := by
  obtain ⟨blanks, rfl, hblanks⟩ := h
  obtain ⟨more, rfl, hmore⟩ := later
  refine ⟨blanks ++ more, (List.append_assoc ..).symm, fun c hmem ↦ ?_⟩
  exact (List.mem_append.mp hmem).elim (hblanks c) (hmore c)

/-- Blanks are passed up to a character that is none. -/
theorem skipBlanks_of_blanks (h : Blanks text rest) (hrest : ∀ c ∈ rest.head?, isBlank c = false) :
    skipBlanks text = rest := by
  obtain ⟨blanks, rfl, hblanks⟩ := h
  exact dropWhile_of_run hblanks hrest

theorem skipBlanks_eq_cons_iff {c : Char} (hc : isBlank c = false) :
    skipBlanks text = c :: rest ↔ Blanks text (c :: rest) := by
  constructor
  · intro h
    rw [← h]
    exact blanks_skipBlanks text
  · intro h
    apply skipBlanks_of_blanks h
    intro d hhead
    rwa [← Option.some.inj hhead]

theorem skipBlanks_eq_nil_iff : skipBlanks text = [] ↔ Blanks text [] := by
  constructor
  · intro h
    rw [← h]
    exact blanks_skipBlanks text
  · intro h
    exact skipBlanks_of_blanks h (by simp)

theorem follows_of_blanks {c : Char} (h : Blanks text (c :: rest))
    (hc : c = ',' ∨ c = ']' ∨ c = '\x7d') : Follows text := by
  obtain ⟨blanks, rfl, hblanks⟩ := h
  intro d hhead
  cases blanks with
  | nil =>
    obtain rfl := Option.some.inj hhead
    exact Or.inr hc
  | cons blank blanks =>
    obtain rfl := Option.some.inj hhead
    exact Or.inl (hblanks _ List.mem_cons_self)

theorem follows_of_blanks_nil (h : Blanks text []) : Follows text := by
  obtain ⟨blanks, rfl, hblanks⟩ := h
  intro c hhead
  rw [List.append_nil] at hhead
  exact Or.inl (hblanks c (List.mem_of_mem_head? hhead))

end

/-- The characters that a value of some kind can begin with. -/
def Value.Opens : Value → Char → Prop
  | null, c => c = 'n'
  | bool _, c => c = 't' ∨ c = 'f'
  | number _, c => c = '-' ∨ c.isDigit = true
  | string _, c => c = '"'
  | array _, c => c = '['
  | object _, c => c = '\x7b'

theorem Value.Opens.not_blank {value : Value} {c : Char} (h : value.Opens c) :
    isBlank c = false ∧ c ≠ ']' := by
  cases value with
  | null | string | array | object =>
    obtain rfl := h
    decide
  | bool =>
    obtain rfl | rfl := h <;> decide
  | number =>
    obtain rfl | hdigit := h
    · decide
    · refine ⟨?_, by rintro rfl; cases hdigit⟩
      rw [← Bool.not_eq_true]
      intro hblank
      simp only [isBlank, Bool.or_eq_true, beq_iff_eq] at hblank
      rcases hblank with ((rfl | rfl) | rfl) | rfl <;> cases hdigit

/-- A value begins with a character of its kind. -/
theorem Spells.opens {start rest : List Char} {value : Value}
    (h : Spells start (.value value) rest) :
    ∃ c others, start = c :: others ∧ value.Opens c := by
  cases h with
  | null => exact ⟨_, _, rfl, rfl⟩
  | bool flag =>
    cases flag with
    | true => exact ⟨'t', _, rfl, Or.inl rfl⟩
    | false => exact ⟨'f', _, rfl, Or.inr rfl⟩
  | number spelled =>
    obtain ⟨c, others, rfl, hc⟩ := spelled.exists_cons
    exact ⟨c, _, rfl, hc⟩
  | string | array | object => exact ⟨_, _, rfl, rfl⟩

theorem Spells.skipBlanks_eq {text start rest : List Char} {value : Value}
    (h : Spells start (.value value) rest) (hblank : Blanks text start) :
    skipBlanks text = start := by
  obtain ⟨c, others, rfl, hopens⟩ := h.opens
  exact (skipBlanks_eq_cons_iff hopens.not_blank.1).mpr hblank

/-- Behind a value come the members left, so that no numeral goes on there. -/
theorem Spells.follows_items {text rest : List Char} {items : List Value}
    (h : Spells text (.items false items) rest) : Follows text := by
  cases h with
  | noItem closing => exact follows_of_blanks closing (by simp)
  | item separated =>
    obtain ⟨behind, hcomma, -⟩ := separated
    exact follows_of_blanks hcomma (by simp)

theorem Spells.follows_entries {text rest : List Char} {entries : List Entry}
    (h : Spells text (.entries false entries) rest) : Follows text := by
  cases h with
  | noEntry closing => exact follows_of_blanks closing (by simp)
  | entry separated =>
    obtain ⟨behind, hcomma, -⟩ := separated
    exact follows_of_blanks hcomma (by simp)

section

variable {first : Bool} {text rest start : List Char}

theorem Separates.trans (separated : Separates first text start) (blank : Blanks start rest) :
    Separates first text rest := by
  cases first with
  | true => exact Blanks.trans separated blank
  | false =>
    obtain ⟨behind, hcomma, hbehind⟩ := separated
    exact ⟨behind, hcomma, hbehind.trans blank⟩

theorem colon_eq_ok_iff : colon text = .ok rest ↔ Blanks text (':' :: rest) := by
  rw [← skipBlanks_eq_cons_iff (by decide)]
  unfold colon
  split <;> simp_all

theorem nextItem_eq_closed_iff :
    nextItem first text = .ok (.closed rest) ↔ Blanks text (']' :: rest) := by
  rw [← skipBlanks_eq_cons_iff (by decide)]
  unfold nextItem
  split
  · simp_all
  · simp_all
  · rename_i c later hclosed htext
    constructor
    · intro h
      split at h
      · cases h
      · split at h
        · split at h <;> cases h
        · cases h
    · intro h
      exact absurd (htext.symm.trans h) (by simpa using fun hc ↦ absurd hc hclosed)

theorem separates_of_nextItem (h : nextItem first text = .ok (.starts start)) :
    Separates first text start := by
  unfold nextItem at h
  split at h
  · cases h
  · cases h
  · rename_i c later _ htext
    have hblanks := blanks_skipBlanks text
    rw [htext] at hblanks
    cases first with
    | true =>
      obtain rfl := Member.starts.inj (Except.ok.inj h)
      exact hblanks
    | false =>
      simp only [Bool.false_eq_true, if_false] at h
      split at h
      · rename_i hcomma
        subst hcomma
        split at h
        · cases h
        · cases h
        · obtain rfl := Member.starts.inj (Except.ok.inj h)
          exact ⟨later, hblanks, blanks_skipBlanks later⟩
      · cases h

/-- Behind a comma the next item is whatever comes, but no closing bracket. -/
theorem nextItem_of_comma {behind : List Char} {c : Char} (hcomma : Blanks text (',' :: behind))
    (hbehind : Blanks behind (c :: rest)) (hblank : isBlank c = false) (hbracket : c ≠ ']') :
    nextItem false text = .ok (.starts (c :: rest)) := by
  have atComma := (skipBlanks_eq_cons_iff (by decide)).mpr hcomma
  have atItem := (skipBlanks_eq_cons_iff hblank).mpr hbehind
  unfold nextItem
  split
  · rename_i htext
    cases atComma.symm.trans htext
  · rename_i htext
    cases atComma.symm.trans htext
  · rename_i d later _ htext
    obtain ⟨rfl, rfl⟩ := List.cons.inj (atComma.symm.trans htext)
    rw [if_neg Bool.false_ne_true, if_pos rfl]
    split
    · rename_i hlater
      cases atItem.symm.trans hlater
    · rename_i hlater
      exact absurd (List.cons.inj (atItem.symm.trans hlater)).1 hbracket
    · rw [atItem]

/-- A separated value is the next item. -/
theorem nextItem_of_separates {next : List Char} {value : Value}
    (separated : Separates first text start) (spelled : Spells start (.value value) next) :
    nextItem first text = .ok (.starts start) := by
  obtain ⟨c, others, rfl, hopens⟩ := spelled.opens
  obtain ⟨hblank, hbracket⟩ := hopens.not_blank
  cases first with
  | true =>
    have atItem := (skipBlanks_eq_cons_iff hblank).mpr separated
    unfold nextItem
    split
    · rename_i htext
      cases atItem.symm.trans htext
    · rename_i htext
      exact absurd (List.cons.inj (atItem.symm.trans htext)).1 hbracket
    · rename_i htext
      rw [← htext, atItem]
      rfl
  | false =>
    obtain ⟨behind, hcomma, hbehind⟩ := separated
    exact nextItem_of_comma hcomma hbehind hblank hbracket

theorem nextField_eq_closed_iff :
    nextField first text = .ok (.closed rest) ↔ Blanks text ('\x7d' :: rest) := by
  rw [← skipBlanks_eq_cons_iff (by decide)]
  unfold nextField
  split
  · simp_all
  · simp_all
  · rename_i c later hclosed htext
    constructor
    · intro h
      split at h
      · split at h <;> cases h
      · split at h
        · split at h <;> cases h
        · cases h
    · intro h
      exact absurd (htext.symm.trans h) (by simpa using fun hc ↦ absurd hc hclosed)

theorem separates_of_nextField (h : nextField first text = .ok (.starts start)) :
    Separates first text ('"' :: start) := by
  unfold nextField at h
  split at h
  · cases h
  · cases h
  · rename_i c later _ htext
    have hblanks := blanks_skipBlanks text
    rw [htext] at hblanks
    cases first with
    | true =>
      simp only [if_true] at h
      split at h
      · rename_i hquote
        obtain rfl := Member.starts.inj (Except.ok.inj h)
        rw [← hquote]
        exact hblanks
      · cases h
    | false =>
      simp only [Bool.false_eq_true, if_false] at h
      split at h
      · rename_i hcomma
        subst hcomma
        split at h
        · cases h
        · rename_i hquote
          obtain rfl := Member.starts.inj (Except.ok.inj h)
          exact ⟨later, hblanks, (skipBlanks_eq_cons_iff (by decide)).mp hquote⟩
        · cases h
      · cases h

/-- A separated key is the next field. -/
theorem nextField_of_separates (separated : Separates first text ('"' :: start)) :
    nextField first text = .ok (.starts start) := by
  cases first with
  | true =>
    unfold nextField
    rw [(skipBlanks_eq_cons_iff (by decide)).mpr separated]
    rfl
  | false =>
    obtain ⟨behind, hcomma, hbehind⟩ := separated
    have atComma := (skipBlanks_eq_cons_iff (by decide)).mpr hcomma
    have atKey := (skipBlanks_eq_cons_iff (by decide)).mpr hbehind
    unfold nextField
    split
    · rename_i htext
      cases atComma.symm.trans htext
    · rename_i htext
      cases atComma.symm.trans htext
    · rename_i d later _ htext
      obtain ⟨rfl, rfl⟩ := List.cons.inj (atComma.symm.trans htext)
      rw [if_neg Bool.false_ne_true, if_pos rfl, atKey]
      rfl

theorem readClosing_eq_ok_iff {bracket : Char} (hbracket : isBlank bracket = false) :
    Reader.readClosing bracket text = .ok rest ↔ Blanks text (bracket :: rest) := by
  rw [← skipBlanks_eq_cons_iff hbracket]
  unfold Reader.readClosing
  split
  · simp_all
  · rename_i c later htext
    rw [htext]
    by_cases hc : c = bracket <;> simp [hc]

end

end StatementLang.Json
