import StatementLang.Proofs.Json.Readers

/-!
# Fronts of Texts

What a reader does on the front of a text, compared with what it does on the whole text.

A front may end anywhere: between two marks, inside of a literal, of an escape or of the digits of a
number.  `Awaits` says that reading it then asks for more and finds nothing else wrong, or that it
has come to what the whole text comes to, with the missing part at the end of what is left.  Readers
are put together by `bind`, and `Awaits.bind` puts together what is known about their parts.
-/

namespace StatementLang.Json

section

variable {β γ : Type} {grow : β → β} {growNext : γ → γ} {front : Except ReadError β} {whole : β}
  {result : γ}

/-- Reading the front of a text asks for more, or it comes to what reading the whole text comes to
once the missing part grows back. -/
def Awaits (grow : β → β) (front : Except ReadError β) (whole : β) : Prop :=
  front = .error .unfinished ∨ ∃ cut, front = .ok cut ∧ grow cut = whole

theorem awaits_unfinished : Awaits grow (.error .unfinished) whole := Or.inl rfl

theorem awaits_ok {cut : β} (h : grow cut = whole) : Awaits grow (.ok cut) whole :=
  Or.inr ⟨cut, rfl, h⟩

theorem Awaits.bind {next : β → Except ReadError γ} (h : Awaits grow front whole)
    (hnext : ∀ cut, grow cut = whole → Awaits growNext (next cut) result) :
    Awaits growNext (front >>= next) result := by
  obtain rfl | ⟨cut, rfl, hcut⟩ := h
  · exact awaits_unfinished
  · exact hnext cut hcut

theorem Awaits.map {f : β → γ} (h : Awaits grow front whole)
    (hf : ∀ cut, grow cut = whole → growNext (f cut) = result) :
    Awaits growNext (front.map f) result := by
  obtain rfl | ⟨cut, rfl, hcut⟩ := h
  · exact awaits_unfinished
  · exact awaits_ok (hf cut hcut)

end

section

variable {α β γ : Type} {more : List Char}

/-- More text behind what a reading leaves. -/
def appendRest (more : List Char) (reading : α × List Char) : α × List Char :=
  (reading.1, reading.2 ++ more)

theorem awaits_rest {value : α} {cut : List Char} :
    Awaits (appendRest more) (.ok (value, cut)) (value, cut ++ more) := awaits_ok rfl

theorem Awaits.bind_rest {growNext : γ → γ} {front : Reading α} {value : α} {rest : List Char}
    {next : α × List Char → Except ReadError γ} {result : γ}
    (h : Awaits (appendRest more) front (value, rest))
    (hnext : ∀ cut, cut ++ more = rest → Awaits growNext (next (value, cut)) result) :
    Awaits growNext (front >>= next) result := by
  apply h.bind
  rintro ⟨found, cut⟩ hcut
  obtain ⟨rfl, hrest⟩ := Prod.mk.inj hcut
  exact hnext cut hrest

theorem Awaits.map_value {f : α → β} {front : Reading α} {value : α} {rest : List Char}
    (h : Awaits (appendRest more) front (value, rest)) :
    Awaits (appendRest more) (front.map fun (value, rest) ↦ (f value, rest)) (f value, rest) := by
  apply h.map
  intro cut hcut
  obtain ⟨rfl, rfl⟩ := Prod.mk.inj hcut
  rfl

/-- Reading the front of a text asks for more or comes to the same, or the front ends inside of a
numeral that is a value without its end. -/
def AwaitsOrEnds (more : List Char) (front : Except ReadError (α × List Char))
    (whole : α × List Char) : Prop :=
  Awaits (appendRest more) front whole ∨ ∃ other, front = .ok (other, [])

theorem Awaits.bind_orEnds {grow : β → β} {front : Except ReadError β} {whole : β}
    {next : β → Except ReadError (α × List Char)} {result : α × List Char}
    (h : Awaits grow front whole)
    (hnext : ∀ cut, grow cut = whole → AwaitsOrEnds more (next cut) result) :
    AwaitsOrEnds more (front >>= next) result := by
  obtain rfl | ⟨cut, rfl, hcut⟩ := h
  · exact Or.inl awaits_unfinished
  · exact hnext cut hcut

theorem AwaitsOrEnds.bind_rest {growNext : γ → γ} {front : Reading α} {value : α}
    {rest : List Char} {next : α × List Char → Except ReadError γ} {result : γ}
    (h : AwaitsOrEnds more front (value, rest))
    (hnext : ∀ cut, cut ++ more = rest → Awaits growNext (next (value, cut)) result)
    (hend : ∀ other, next (other, []) = .error .unfinished) :
    Awaits growNext (front >>= next) result := by
  obtain hfront | ⟨other, rfl⟩ := h
  · exact hfront.bind_rest hnext
  · exact Or.inl (hend other)

theorem AwaitsOrEnds.map_value {f : α → β} {front : Except ReadError (α × List Char)} {value : α}
    {rest : List Char} (h : AwaitsOrEnds more front (value, rest)) :
    AwaitsOrEnds more (front.map fun (value, rest) ↦ (f value, rest)) (f value, rest) := by
  obtain hfront | ⟨other, rfl⟩ := h
  · exact Or.inl hfront.map_value
  · exact Or.inr ⟨f other, rfl⟩

theorem AwaitsOrEnds.bind_pure {front : Except ReadError (α × List Char)} {value : α}
    {rest : List Char} (h : AwaitsOrEnds more front (value, rest)) (f : α → β) :
    AwaitsOrEnds more (front >>= fun reading ↦ pure (f reading.1, reading.2)) (f value, rest) := by
  have hmap : (front >>= fun reading ↦ pure (f reading.1, reading.2)) =
      front.map fun (value, rest) ↦ (f value, rest) := by
    cases front <;> rfl
  rw [hmap]
  exact h.map_value

end

section

variable {text more rest : List Char}

/-- Behind its blanks the front of a text goes on like the whole text, unless it is blank. -/
theorem Blanks.front {c : Char} (h : Blanks (text ++ more) (c :: rest)) (hc : isBlank c = false) :
    skipBlanks text = [] ∨ ∃ later, skipBlanks text = c :: later ∧ later ++ more = rest := by
  have hskip := (skipBlanks_eq_cons_iff hc).mpr h
  rw [skipBlanks, List.dropWhile_append] at hskip
  split at hskip
  · rename_i hempty
    exact Or.inl (List.isEmpty_iff.mp hempty)
  · cases hfront : text.dropWhile isBlank with
    | nil => exact Or.inl hfront
    | cons d later =>
      rw [hfront, List.cons_append] at hskip
      obtain ⟨rfl, hlater⟩ := List.cons.inj hskip
      exact Or.inr ⟨later, hfront, hlater⟩

theorem Blanks.awaits {β : Type} {grow : β → β} {front : Except ReadError β} {whole : β} {c : Char}
    (h : Blanks (text ++ more) (c :: rest)) (hc : isBlank c = false)
    (hend : skipBlanks text = [] → front = .error .unfinished)
    (hnext : ∀ later, skipBlanks text = c :: later → later ++ more = rest →
      Awaits grow front whole) : Awaits grow front whole := by
  obtain hnil | ⟨later, hlater, hrest⟩ := h.front hc
  · exact Or.inl (hend hnil)
  · exact hnext later hlater hrest

theorem awaits_literal {name : List Char} (h : literal name (text ++ more) = .ok rest) :
    Awaits (· ++ more) (literal name text) rest := by
  induction name generalizing text with
  | nil =>
    obtain rfl := Except.ok.inj h
    exact awaits_ok rfl
  | cons wanted name ih =>
    cases text with
    | nil => exact awaits_unfinished
    | cons found text =>
      by_cases same : wanted = found
      · simp only [literal, List.cons_append, if_pos same] at h ⊢
        exact ih h
      · simp only [literal, List.cons_append, if_neg same] at h
        cases h

theorem awaits_colon (h : Blanks (text ++ more) (':' :: rest)) :
    Awaits (· ++ more) (colon text) rest := by
  apply h.awaits (by decide)
  · intro hend
    rw [colon, hend]
  · intro later hcolon hrest
    rw [colon, hcolon]
    exact awaits_ok hrest

def Member.append (more : List Char) : Member → Member
  | .closed rest => .closed (rest ++ more)
  | .starts start => .starts (start ++ more)

variable {first : Bool} {start : List Char}

theorem nextItem_of_blank (h : skipBlanks text = []) :
    nextItem first text = .error .unfinished := by
  rw [nextItem, h]

theorem nextField_of_blank (h : skipBlanks text = []) :
    nextField first text = .error .unfinished := by
  rw [nextField, h]

theorem awaits_noItem (closing : Blanks (text ++ more) (']' :: rest)) :
    Awaits (Member.append more) (nextItem first text) (.closed rest) := by
  apply closing.awaits (by decide) nextItem_of_blank
  intro later hclosing hrest
  rw [nextItem, hclosing]
  exact awaits_ok (congrArg Member.closed hrest)

theorem awaits_noField (closing : Blanks (text ++ more) ('\x7d' :: rest)) :
    Awaits (Member.append more) (nextField first text) (.closed rest) := by
  apply closing.awaits (by decide) nextField_of_blank
  intro later hclosing hrest
  rw [nextField, hclosing]
  exact awaits_ok (congrArg Member.closed hrest)

theorem awaits_item {value : Value} (separated : Separates first (text ++ more) start)
    (spelled : Spells start (.value value) rest) :
    Awaits (Member.append more) (nextItem first text) (.starts start) := by
  obtain ⟨c, others, rfl, hopens⟩ := spelled.opens
  obtain ⟨hblank, hbracket⟩ := hopens.not_blank
  cases first with
  | true =>
    apply Blanks.awaits separated hblank nextItem_of_blank
    intro later hitem hrest
    have hnext : nextItem true text = .ok (.starts (c :: later)) := by
      simp [nextItem, hitem]
    rw [hnext, ← hrest]
    exact awaits_ok rfl
  | false =>
    obtain ⟨behind, hcomma, hbehind⟩ := separated
    apply hcomma.awaits (by decide) nextItem_of_blank
    intro later atComma hlater
    subst hlater
    -- The front has the comma, and may still end before the item.
    apply hbehind.awaits hblank
    · intro hend
      simp [nextItem, atComma, hend]
    · intro item hitem hrest
      rw [nextItem_of_comma ((skipBlanks_eq_cons_iff (by decide)).mp atComma)
        ((skipBlanks_eq_cons_iff hblank).mp hitem) hblank hbracket, ← hrest]
      exact awaits_ok rfl

theorem awaits_field (separated : Separates first (text ++ more) ('"' :: start)) :
    Awaits (Member.append more) (nextField first text) (.starts start) := by
  cases first with
  | true =>
    apply Blanks.awaits separated (by decide) nextField_of_blank
    intro later hkey hrest
    rw [nextField, hkey]
    exact awaits_ok (congrArg Member.starts hrest)
  | false =>
    obtain ⟨behind, hcomma, hbehind⟩ := separated
    apply hcomma.awaits (by decide) nextField_of_blank
    intro later atComma hlater
    subst hlater
    apply hbehind.awaits (by decide)
    · intro hend
      simp [nextField, atComma, hend]
    · intro key hkey hrest
      have hnext : nextField false text = .ok (.starts key) := by
        simp [nextField, atComma, hkey]
      rw [hnext, ← hrest]
      exact awaits_ok rfl

end

/-! ## Strings -/

section

variable {text more rest : List Char}

theorem utf8Size_of_hexadecimalValue? {c : Char} {value : Nat}
    (h : Text.hexadecimalValue? c = some value) : c.utf8Size = 1 := by
  have hcode : c.toNat ≤ 127 := by
    unfold Text.hexadecimalValue? at h
    split at h
    · rename_i hdigit
      simp only [Char.isDigit, Bool.and_eq_true, decide_eq_true_eq] at hdigit
      exact Nat.le_trans hdigit.2 (by decide)
    · split at h
      · rename_i hlower
        exact Nat.le_trans hlower.2 (by decide)
      · split at h
        · rename_i hupper
          exact Nat.le_trans hupper.2 (by decide)
        · cases h
  exact Char.utf8Size_eq_one_iff.mpr hcode

/-- Less than four digits are less than four bytes, so that more is asked for. -/
theorem awaits_codeUnit {number : Nat} (h : codeUnit (text ++ more) = .ok (number, rest)) :
    Awaits (appendRest more) (codeUnit text) (number, rest) := by
  obtain ⟨first, second, third, fourth, htext, hfound⟩ := codeUnit_eq_ok_iff.mp h
  have hdigits := hfound
  simp only [Text.ofFourHexadecimal?, Option.bind_eq_bind, Option.bind_eq_some_iff] at hdigits
  obtain ⟨_, hfirst, _, hsecond, _, hthird, -⟩ := hdigits
  have hfirst := utf8Size_of_hexadecimalValue? hfirst
  have hsecond := utf8Size_of_hexadecimalValue? hsecond
  have hthird := utf8Size_of_hexadecimalValue? hthird
  rcases text with _ | ⟨a, _ | ⟨b, _ | ⟨c, _ | ⟨d, later⟩⟩⟩⟩ <;>
    simp only [List.cons_append, List.nil_append, List.cons.injEq] at htext
  · exact awaits_unfinished
  · obtain ⟨rfl, -⟩ := htext
    refine Or.inl ?_
    simp [codeUnit, hfirst]
  · obtain ⟨rfl, rfl, -⟩ := htext
    refine Or.inl ?_
    simp [codeUnit, hfirst, hsecond]
  · obtain ⟨rfl, rfl, rfl, -⟩ := htext
    refine Or.inl ?_
    simp [codeUnit, hfirst, hsecond, hthird]
  · obtain ⟨rfl, rfl, rfl, rfl, rfl⟩ := htext
    rw [codeUnit_of_digits hfound]
    exact awaits_rest

theorem awaits_numericEscape {c : Char} (h : numericEscape (text ++ more) = .ok (c, rest)) :
    Awaits (appendRest more) (numericEscape text) (c, rest) := by
  unfold numericEscape at h ⊢
  obtain ⟨⟨number, behind⟩, hunit, h⟩ := bind_eq_ok_iff.mp h
  apply (awaits_codeUnit hunit).bind_rest
  intro cut hcut
  subst hcut
  simp only at h ⊢
  split
  · rename_i htrailing
    rw [if_pos htrailing] at h
    cases h
  · rename_i htrailing
    rw [if_neg htrailing] at h
    split
    · rename_i hplain
      rw [if_pos hplain] at h
      obtain ⟨rfl, rfl⟩ := Prod.mk.inj (Except.ok.inj h)
      exact awaits_ok rfl
    · rename_i hleading
      rw [if_neg hleading] at h
      -- The unit behind a leading one is part of the same character.
      obtain ⟨start, hstart, h⟩ := bind_eq_ok_iff.mp h
      apply (awaits_literal hstart).bind
      rintro start rfl
      obtain ⟨⟨trailing, behind⟩, htrail, h⟩ := bind_eq_ok_iff.mp h
      apply (awaits_codeUnit htrail).bind_rest
      intro cut hcut
      subst hcut
      simp only at h ⊢
      split
      · rename_i hpair
        rw [if_pos hpair] at h
        obtain ⟨rfl, rfl⟩ := Prod.mk.inj (Except.ok.inj h)
        exact awaits_rest
      · rename_i hpair
        rw [if_neg hpair] at h
        cases h

theorem awaits_escapeSequence {c : Char} (h : escapeSequence (text ++ more) = .ok (c, rest)) :
    Awaits (appendRest more) (escapeSequence text) (c, rest) := by
  cases text with
  | nil => exact awaits_unfinished
  | cons letter text =>
    rw [List.cons_append] at h
    unfold escapeSequence at h
    split at h
    · cases h
    · rename_i heq
      obtain ⟨rfl, rfl⟩ := List.cons.inj heq
      exact awaits_numericEscape h
    · rename_i heq
      obtain ⟨rfl, rfl⟩ := List.cons.inj heq
      split at h
      · rename_i meant hmeant
        obtain ⟨rfl, rfl⟩ := Prod.mk.inj (Except.ok.inj h)
        rw [escapeSequence_of_short (shortEscape?_eq_some_iff.mp hmeant)]
        exact awaits_rest
      · cases h

theorem exists_escape_of_stringTail {cs : List Char}
    (h : stringTail ('\\' :: text) = .ok (cs, rest)) :
    ∃ c behind, escapeSequence text = .ok (c, behind) ∧
      (stringTail behind).map (fun (tail, rest) ↦ (c :: tail, rest)) = .ok (cs, rest) := by
  rw [stringTail] at h
  split at h
  · rename_i c behind hescape
    exact ⟨c, behind, hescape, h⟩
  · cases h

/-- A string is read up to where the text ends. -/
theorem awaits_stringTail {cs : List Char} (h : stringTail (text ++ more) = .ok (cs, rest)) :
    Awaits (appendRest more) (stringTail text) (cs, rest) := by
  fun_induction stringTail text generalizing cs rest with
  | case1 => exact awaits_unfinished
  | case2 later =>
    rw [List.cons_append, stringTail] at h
    obtain ⟨rfl, rfl⟩ := Prod.mk.inj (Except.ok.inj h)
    exact awaits_rest
  | case3 later c behind escape_eq ih =>
    -- The escape is complete in the front, and so it is the one of the whole text.
    obtain ⟨c', behind', hescape, h⟩ := exists_escape_of_stringTail h
    obtain ⟨⟨tail, afterTail⟩, htail, hpair⟩ := map_eq_ok_iff.mp h
    obtain ⟨rfl, rfl⟩ := Prod.mk.inj hpair
    obtain hend | ⟨cut, hcut, hwhole⟩ := awaits_escapeSequence hescape
    · cases escape_eq.symm.trans hend
    · obtain rfl := Except.ok.inj (hcut.symm.trans escape_eq)
      obtain ⟨rfl, rfl⟩ := Prod.mk.inj hwhole
      exact (ih htail).map_value
  | case4 later error escape_eq =>
    obtain ⟨c, behind, hescape, -⟩ := exists_escape_of_stringTail h
    obtain hend | ⟨cut, hcut, -⟩ := awaits_escapeSequence hescape
    · rw [Except.error.inj (escape_eq.symm.trans hend)]
      exact awaits_unfinished
    · cases hcut.symm.trans escape_eq
  | case5 c later notQuote notEscape control =>
    rw [List.cons_append, stringTail, if_pos control] at h
    · cases h
    · exact notQuote
    · exact notEscape
  | case6 c later notQuote notEscape notControl ih =>
    rw [List.cons_append,
      stringTail_of_plain notQuote notEscape (Nat.not_lt.mp notControl)] at h
    obtain ⟨⟨tail, afterTail⟩, htail, hpair⟩ := map_eq_ok_iff.mp h
    obtain ⟨rfl, rfl⟩ := Prod.mk.inj hpair
    exact (ih htail).map_value

end

/-- The front of the digits of a count are digits of a count. -/
theorem isWhole_of_append {digits others : List Char} (h : IsWhole (digits ++ others))
    (nonempty : digits ≠ []) : IsWhole digits := by
  obtain ⟨c, later, rfl⟩ := List.exists_cons_of_ne_nil nonempty
  refine ⟨⟨nonempty, fun d hmem ↦ h.1.2 d (List.mem_append_left _ hmem)⟩, fun hzero ↦ ?_⟩
  have hwhole := h.2 hzero
  simp_all

/-- Without its last digits a count is no greater. -/
theorem ofDigits_le_append (digits others : List Char) :
    ofDigits digits ≤ ofDigits (digits ++ others) := by
  rw [ofDigits, ofDigits, List.foldl_append]
  exact Numeral.le_foldl_ofDigits others _

theorem Follows.of_append {cut more : List Char} (h : Follows (cut ++ more)) :
    Follows cut := by
  cases cut with
  | nil => exact follows_of_blanks_nil (blanks_refl _)
  | cons c cut => exact h

/-- A numeral of digits alone is spelled by its digits. -/
theorem isWhole_of_spellsNumeral {body whole : List Char}
    (h : SpellsNumeral body { negative := false, whole, fraction := none, exponent := none }) :
    body = whole ∧ IsWhole whole := by
  cases h with
  | parts integral fractional scaled =>
    cases scaled
    exact ⟨by simp [signText, fractionText], integral⟩

end StatementLang.Json
