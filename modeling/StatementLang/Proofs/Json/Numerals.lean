import StatementLang.Proofs.Json.Grammar
import StatementLang.Proofs.Runs

/-!
# Numerals Are Read by the Grammar

Reading a numeral takes a numeral of the grammar, and it takes all of one that is followed by a
character that can stand behind a value.  A numeral of digits alone that fits in 64 bits is a count,
and it is far from too large for binary64.
-/

namespace StatementLang.Json

/-- A rest that can stand behind a value: it is empty, or begins with a blank or with a mark that
goes on with what encloses the value. -/
def Follows (rest : List Char) : Prop :=
  ∀ c ∈ rest.head?, isBlank c = true ∨ c = ',' ∨ c = ']' ∨ c = '\x7d'

/-- No numeral goes on behind a value. -/
theorem Follows.not_numeral {rest : List Char} (h : Follows rest) {c : Char}
    (hhead : c ∈ rest.head?) : c.isDigit = false ∧ c ≠ '.' ∧ c ≠ 'e' ∧ c ≠ 'E' := by
  rcases h c hhead with hblank | rfl | rfl | rfl
  · simp only [isBlank, Bool.or_eq_true, beq_iff_eq] at hblank
    rcases hblank with ((rfl | rfl) | rfl) | rfl <;> decide
  all_goals decide

theorem IsDigits.exists_cons {digits : List Char} (h : IsDigits digits) :
    ∃ c others, digits = c :: others ∧ c.isDigit = true := by
  obtain ⟨c, others, rfl⟩ := List.exists_cons_of_ne_nil h.1
  exact ⟨c, others, rfl, h.2 c List.mem_cons_self⟩

theorem someDigits_append {digits rest : List Char} (h : IsDigits digits)
    (hrest : ∀ c ∈ rest.head?, c.isDigit = false) :
    someDigits (digits ++ rest) = .ok (digits, rest) := by
  obtain ⟨c, others, rfl, hdigit⟩ := h.exists_cons
  have htake := takeWhile_of_run h.2 hrest
  have hdrop := dropWhile_of_run h.2 hrest
  rw [List.cons_append] at htake hdrop ⊢
  rw [someDigits, if_pos hdigit, htake, hdrop]

theorem isDigits_of_someDigits {text digits rest : List Char}
    (h : someDigits text = .ok (digits, rest)) : text = digits ++ rest ∧ IsDigits digits := by
  unfold someDigits at h
  split at h
  · cases h
  · rename_i c later
    split at h
    · rename_i hdigit
      obtain ⟨rfl, rfl⟩ := Prod.mk.inj (Except.ok.inj h)
      refine ⟨List.takeWhile_append_dropWhile.symm, ?_, fun _ ↦ List.mem_takeWhile_imp⟩
      rw [List.takeWhile_cons, if_pos hdigit]
      exact List.cons_ne_nil _ _
    · cases h

theorem wholePart_append {whole rest : List Char} (h : IsWhole whole)
    (hrest : ∀ c ∈ rest.head?, c.isDigit = false) :
    wholePart (whole ++ rest) = .ok (whole, rest) := by
  have hdigits := someDigits_append h.1 hrest
  unfold wholePart
  split
  · rename_i c later htext
    -- A zero in front is the whole integer part, and the character behind it is no digit.
    obtain ⟨first, others, rfl, -⟩ := h.1.exists_cons
    obtain ⟨rfl, hlater⟩ := List.cons.inj htext
    obtain rfl : others = [] := (List.cons.inj (h.2 rfl)).2
    have hlater : rest = c :: later := hlater
    rw [hrest c (by rw [hlater]; rfl), hlater]
    rfl
  · exact hdigits

theorem isWhole_of_wholePart {text whole rest : List Char}
    (h : wholePart text = .ok (whole, rest)) : text = whole ++ rest ∧ IsWhole whole := by
  unfold wholePart at h
  split at h
  · split at h
    · cases h
    · obtain ⟨rfl, rfl⟩ := Prod.mk.inj (Except.ok.inj h)
      refine ⟨rfl, ⟨List.cons_ne_nil _ _, ?_⟩, fun _ ↦ rfl⟩
      simp
  · rename_i notZero
    obtain ⟨rfl, hdigits⟩ := isDigits_of_someDigits h
    refine ⟨rfl, hdigits, fun hzero ↦ ?_⟩
    obtain ⟨first, others, rfl, -⟩ := hdigits.exists_cons
    obtain rfl := Option.some.inj hzero
    cases others with
    | nil => rfl
    | cons c others => exact absurd rfl (notZero c (others ++ rest))

theorem fractionPart_append {fraction : Option (List Char)} {rest : List Char}
    (h : ∀ digits ∈ fraction, IsDigits digits)
    (hrest : ∀ c ∈ rest.head?, c.isDigit = false ∧ c ≠ '.') :
    fractionPart (fractionText fraction ++ rest) = .ok (fraction, rest) := by
  cases fraction with
  | none =>
    unfold fractionPart
    split
    · rename_i later htext
      have htext : rest = '.' :: later := htext
      exact absurd rfl (hrest '.' (by rw [htext]; rfl)).2
    · rfl
  | some digits =>
    have hdigits := someDigits_append (h digits rfl) fun c hhead ↦ (hrest c hhead).1
    simp only [fractionText, List.cons_append, fractionPart, hdigits]
    rfl

theorem isDigits_of_fractionPart {text rest : List Char} {fraction : Option (List Char)}
    (h : fractionPart text = .ok (fraction, rest)) :
    text = fractionText fraction ++ rest ∧ ∀ digits ∈ fraction, IsDigits digits := by
  unfold fractionPart at h
  split at h
  · obtain ⟨⟨digits, behind⟩, hdigits, hpair⟩ := map_eq_ok_iff.mp h
    obtain ⟨rfl, rfl⟩ := Prod.mk.inj hpair
    obtain ⟨rfl, decimal⟩ := isDigits_of_someDigits hdigits
    refine ⟨rfl, fun found hfound ↦ ?_⟩
    rwa [← Option.some.inj hfound]
  · obtain ⟨rfl, rfl⟩ := Prod.mk.inj (Except.ok.inj h)
    exact ⟨rfl, by simp⟩

theorem exponentPart_append {text rest : List Char} {exponent : Option (Bool × List Char)}
    (h : SpellsExponent text exponent)
    (hrest : ∀ c ∈ rest.head?, c.isDigit = false ∧ c ≠ 'e' ∧ c ≠ 'E') :
    exponentPart (text ++ rest) = .ok (exponent, rest) := by
  have hdigits {digits : List Char} (decimal : IsDigits digits) :=
    someDigits_append decimal fun c hhead ↦ (hrest c hhead).1
  cases h with
  | absent =>
    cases rest with
    | nil => rfl
    | cons c rest =>
      obtain ⟨-, hlower, hupper⟩ := hrest c rfl
      rw [List.nil_append, exponentPart, if_neg (not_or.mpr ⟨hlower, hupper⟩)]
  | @unsigned mark digits marked decimal =>
    have hsign : exponentSign (digits ++ rest) = (false, digits ++ rest) := by
      obtain ⟨c, others, rfl, hdigit⟩ := decimal.exists_cons
      unfold exponentSign
      split <;> simp_all
    simp only [List.cons_append, exponentPart, if_pos marked, hsign, hdigits decimal]
    rfl
  | positive marked decimal =>
    simp only [List.cons_append, exponentPart, if_pos marked, exponentSign, hdigits decimal]
    rfl
  | negative marked decimal =>
    simp only [List.cons_append, exponentPart, if_pos marked, exponentSign, hdigits decimal]
    rfl

theorem spellsExponent_of_exponentPart {text rest : List Char}
    {exponent : Option (Bool × List Char)} (h : exponentPart text = .ok (exponent, rest)) :
    ∃ body, text = body ++ rest ∧ SpellsExponent body exponent := by
  unfold exponentPart at h
  split at h
  · obtain ⟨rfl, rfl⟩ := Prod.mk.inj (Except.ok.inj h)
    exact ⟨[], rfl, .absent⟩
  · rename_i mark later
    split at h
    · rename_i marked
      obtain ⟨⟨digits, behind⟩, hdigits, hpair⟩ := map_eq_ok_iff.mp h
      obtain ⟨rfl, rfl⟩ := Prod.mk.inj hpair
      obtain ⟨hsigned, decimal⟩ := isDigits_of_someDigits hdigits
      unfold exponentSign at hsigned ⊢
      split at hsigned
      · obtain rfl : _ = digits ++ behind := hsigned
        exact ⟨_, rfl, .positive marked decimal⟩
      · obtain rfl : _ = digits ++ behind := hsigned
        exact ⟨_, rfl, .negative marked decimal⟩
      · obtain rfl : _ = digits ++ behind := hsigned
        exact ⟨mark :: digits, rfl, .unsigned marked decimal⟩
    · obtain ⟨rfl, rfl⟩ := Prod.mk.inj (Except.ok.inj h)
      exact ⟨[], rfl, .absent⟩

theorem numeralSign_append {negative : Bool} {whole rest : List Char} (h : IsWhole whole) :
    numeralSign (signText negative ++ (whole ++ rest)) = (negative, whole ++ rest) := by
  obtain ⟨c, others, rfl, hdigit⟩ := h.1.exists_cons
  cases negative with
  | false =>
    have hminus : c ≠ '-' := by
      rintro rfl
      cases hdigit
    unfold numeralSign
    split
    · rename_i later htext
      exact absurd (List.cons.inj htext).1 hminus
    · rfl
  | true => rfl

theorem signText_numeralSign (text : List Char) :
    text = signText (numeralSign text).1 ++ (numeralSign text).2 := by
  unfold numeralSign
  split <;> rfl

/-- Neither a digit nor a point stands where an exponent may begin. -/
theorem head?_exponent {text rest : List Char} {exponent : Option (Bool × List Char)}
    (scaled : SpellsExponent text exponent) (hrest : Follows rest) :
    ∀ c ∈ (text ++ rest).head?, c.isDigit = false ∧ c ≠ '.' := by
  intro c hhead
  cases scaled with
  | absent =>
    obtain ⟨hdigit, hpoint, -⟩ := hrest.not_numeral hhead
    exact ⟨hdigit, hpoint⟩
  | unsigned marked | positive marked | negative marked =>
    obtain rfl := Option.some.inj hhead
    rcases marked with rfl | rfl <;> decide

/-- A numeral before a rest that can stand behind a value is read as a whole. -/
theorem numeral_append {text rest : List Char} {value : Numeral} (h : SpellsNumeral text value)
    (hrest : Follows rest) : numeral (text ++ rest) = .ok (value, rest) := by
  cases h with
  | @parts negative whole exponentText fraction exponent integral fractional scaled =>
    have hfraction := fractionPart_append fractional (head?_exponent scaled hrest)
    have hexponent := exponentPart_append scaled fun c hhead ↦
      ⟨(hrest.not_numeral hhead).1, (hrest.not_numeral hhead).2.2⟩
    have hbehind : ∀ c ∈ (fractionText fraction ++ (exponentText ++ rest)).head?,
        c.isDigit = false := by
      intro c hhead
      cases fraction with
      | none => exact (head?_exponent scaled hrest c hhead).1
      | some digits =>
        obtain rfl := Option.some.inj hhead
        rfl
    simp only [List.append_assoc, numeral, numeralSign_append integral,
      wholePart_append integral hbehind, hfraction, hexponent, bind, Except.bind]
    rfl

/-- What is read as a numeral is one. -/
theorem spellsNumeral_of_numeral {text rest : List Char} {value : Numeral}
    (h : numeral text = .ok (value, rest)) :
    ∃ body, text = body ++ rest ∧ SpellsNumeral body value := by
  unfold numeral at h
  obtain ⟨⟨whole, afterWhole⟩, hwhole, h⟩ := bind_eq_ok_iff.mp h
  obtain ⟨⟨fraction, afterFraction⟩, hfraction, h⟩ := bind_eq_ok_iff.mp h
  obtain ⟨⟨exponent, afterExponent⟩, hexponent, h⟩ := bind_eq_ok_iff.mp h
  obtain ⟨rfl, rfl⟩ := Prod.mk.inj (Except.ok.inj h)
  obtain ⟨hsign, integral⟩ := isWhole_of_wholePart hwhole
  obtain ⟨rfl, fractional⟩ := isDigits_of_fractionPart hfraction
  obtain ⟨exponentText, rfl, scaled⟩ := spellsExponent_of_exponentPart hexponent
  refine ⟨_, ?_, .parts integral fractional scaled⟩
  calc
    text = signText (numeralSign text).1 ++ (numeralSign text).2 := signText_numeralSign text
    _ = _ := by simp only [hsign, List.append_assoc]

/-- A numeral begins with a minus sign or a digit. -/
theorem SpellsNumeral.exists_cons {text : List Char} {value : Numeral}
    (h : SpellsNumeral text value) :
    ∃ c others, text = c :: others ∧ (c = '-' ∨ c.isDigit = true) := by
  cases h with
  | @parts negative whole exponentText fraction exponent integral fractional scaled =>
    obtain ⟨c, others, rfl, hdigit⟩ := integral.1.exists_cons
    cases negative with
    | false => exact ⟨c, _, rfl, Or.inr hdigit⟩
    | true => exact ⟨'-', _, rfl, Or.inl rfl⟩

theorem isWhole_singleton {c : Char} (h : c.isDigit = true) : IsWhole [c] := by
  simp [IsWhole, IsDigits, h]

/-- Digits alone spell a numeral. -/
theorem SpellsNumeral.of_isWhole {whole : List Char} (h : IsWhole whole) :
    SpellsNumeral whole { negative := false, whole, fraction := none, exponent := none } := by
  have spelled : SpellsNumeral (signText false ++ (whole ++ (fractionText none ++ [])))
      { negative := false, whole, fraction := none, exponent := none } :=
    .parts h (by simp) .absent
  simpa [signText, fractionText] using spelled

/-! ## Counts -/

namespace Numeral

theorem le_foldl_ofDigits (digits : List Char) (start : Nat) :
    start ≤ digits.foldl (fun value c ↦ 10 * value + digitValue c) start := by
  induction digits generalizing start with
  | nil => exact Nat.le_refl start
  | cons c digits ih =>
    have hstep : start ≤ 10 * start + digitValue c := by omega
    exact Nat.le_trans hstep (ih _)

/-- As long as the digits fit, all of them are kept. -/
theorem foldl_addWhole {digits : List Char} {start : Nat}
    (h : digits.foldl (fun value c ↦ 10 * value + digitValue c) start ≤ maxCount) :
    digits.foldl Significand.addWhole { value := start, exponent := 0, full := false } =
      { value := digits.foldl (fun value c ↦ 10 * value + digitValue c) start, exponent := 0,
        full := false } := by
  induction digits generalizing start with
  | nil => rfl
  | cons c digits ih =>
    rw [List.foldl_cons] at h
    have hstep : ¬ (false = true ∨ maxCount < 10 * start + digitValue c) := by
      have hle := le_foldl_ofDigits digits (10 * start + digitValue c)
      simp only [Bool.false_eq_true, false_or]
      omega
    rw [List.foldl_cons, List.foldl_cons, Significand.addWhole]
    simp only [if_neg hstep]
    exact ih h

/-- Rounding at most doubles a number. -/
theorem nearestBinary_le (number : Nat) : nearestBinary number ≤ 2 * number := by
  by_cases hzero : number = 0
  · subst hzero
    decide
  · have hunit : Nat.pow 2 (number.log2 - 52) ≤ number :=
      calc
        Nat.pow 2 (number.log2 - 52) ≤ Nat.pow 2 number.log2 :=
          Nat.pow_le_pow_right (by decide) (Nat.sub_le _ _)
        _ ≤ number := Nat.log2_self_le hzero
    have hdiv := Nat.div_mul_le_self number (Nat.pow 2 (number.log2 - 52))
    unfold nearestBinary
    dsimp only
    split
    · rw [Nat.succ_mul]
      omega
    · omega

/-- A numeral that fits in 64 bits is not too large for binary64. -/
theorem isTooLarge_of_le_maxCount {whole : List Char} (h : ofDigits whole ≤ maxCount) :
    isTooLarge { negative := false, whole, fraction := none, exponent := none } = false := by
  have hsignificand : significand { negative := false, whole, fraction := none, exponent := none } =
      { value := ofDigits whole, exponent := 0, full := false } := by
    simp only [significand, foldl_addWhole h, Option.getD_none, List.foldl_nil]
    rfl
  have hpower :
      powerOfTen { negative := false, whole, fraction := none, exponent := none } = 0 := by
    simp only [powerOfTen, hsignificand]
    rfl
  have hproduct : nearestBinary (ofDigits whole) * nearestBinary (Nat.pow 10 0) < leastTooLarge :=
    calc
      _ ≤ 2 * maxCount * (2 * Nat.pow 10 0) :=
        Nat.mul_le_mul (Nat.le_trans (nearestBinary_le _) (Nat.mul_le_mul_left 2 h))
          (nearestBinary_le _)
      _ < leastTooLarge := by decide +kernel
  have hsmall : ¬ leastTooLarge ≤
      nearestBinary (ofDigits whole) * nearestBinary (Nat.pow 10 (0 : Int).toNat) :=
    Nat.not_le.mpr hproduct
  simp only [isTooLarge, hsignificand, hpower, decide_eq_false hsmall]
  split <;> rfl

end Numeral

/-- A plain numeral of a count. -/
theorem count?_eq_some_iff {value : Value} {count : Nat} :
    value.count? = some count ↔
      ∃ whole, value = .number { negative := false, whole, fraction := none, exponent := none } ∧
        ofDigits whole = count ∧ count ≤ maxCount := by
  have hmax : maxCount + 1 = Nat.pow 2 64 := maxCount_succ
  constructor
  · intro h
    unfold Value.count? at h
    split at h
    · rename_i whole
      split at h
      · rename_i hfits
        obtain rfl := Option.some.inj h
        exact ⟨whole, rfl, rfl, by omega⟩
      · cases h
    · cases h
  · rintro ⟨whole, rfl, rfl, hfits⟩
    have hlt : ofDigits whole < Nat.pow 2 64 := by omega
    simp only [Value.count?, if_pos hlt]

/-- What a numeral counts is what the value counts. -/
theorem count?_number (numeral : Numeral) : (Value.number numeral).count? = numeral.count? := by
  have hmax : maxCount + 1 = Nat.pow 2 64 := maxCount_succ
  obtain ⟨negative, whole, fraction, exponent⟩ := numeral
  cases negative with
  | true => rfl
  | false =>
    cases fraction with
    | some digits => rfl
    | none =>
      cases exponent with
      | some exponent => rfl
      | none =>
        by_cases hfits : ofDigits whole ≤ maxCount
        · have hlt : ofDigits whole < Nat.pow 2 64 := by omega
          simp [Value.count?, Numeral.count?, hlt, Nat.not_lt.mpr hfits]
        · have hlt : ¬ ofDigits whole < Nat.pow 2 64 := by omega
          simp [Value.count?, Numeral.count?, hlt, Nat.not_le.mp hfits]

/-- A count before a rest that can stand behind a value is read. -/
theorem count?_append {text rest : List Char} {value : Numeral} {count : Nat}
    (spelled : SpellsNumeral text value) (hcount : (Value.number value).count? = some count)
    (hrest : Follows rest) : count? (text ++ rest) = .ok (some count, rest) := by
  have hfound := hcount
  rw [count?_number] at hfound
  obtain ⟨whole, hvalue, rfl, hfits⟩ := count?_eq_some_iff.mp hcount
  obtain rfl := Value.number.inj hvalue
  simp only [count?, numeral_append spelled hrest, Numeral.isTooLarge_of_le_maxCount hfits, hfound,
    Bool.false_eq_true, if_false]

/-- What is read as a count is a numeral of one. -/
theorem spellsNumeral_of_count? {text rest : List Char} {count : Nat}
    (h : count? text = .ok (some count, rest)) :
    ∃ body value, text = body ++ rest ∧ SpellsNumeral body value ∧
      (Value.number value).count? = some count := by
  unfold count? at h
  split at h
  · cases h
  · rename_i value later hnumeral
    split at h
    · cases h
    · obtain ⟨hcount, rfl⟩ := Prod.mk.inj (Except.ok.inj h)
      obtain ⟨body, rfl, spelled⟩ := spellsNumeral_of_numeral hnumeral
      exact ⟨body, value, rfl, spelled, (count?_number value).trans hcount⟩

end StatementLang.Json
