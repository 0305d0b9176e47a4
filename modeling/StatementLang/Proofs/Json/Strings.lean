import StatementLang.Json.Skip
import StatementLang.Proofs.Json.Grammar

/-!
# Strings Are Read by the Grammar

Reading a string takes the pieces that the grammar finds up to the closing quote and gives the text
they decode to.  Passing a string takes the same pieces and does not decode them.
-/

namespace StatementLang.Json

section

variable {number second : Nat} {pieces : List Piece}

theorem decode_unit_of_plain (h : number < 0xD800 ∨ 0xDFFF < number) :
    decode (.unit number :: pieces) = (decode pieces).map (Char.ofNat number :: ·) := by
  rw [decode.eq_def]
  exact if_pos h

theorem decode_unit_of_pair (leading : isLeading number = true)
    (trailing : isTrailing second = true) :
    decode (.unit number :: .unit second :: pieces) =
      (decode pieces).map (paired number second :: ·) := by
  simp only [isLeading, isTrailing, Bool.and_eq_true, decide_eq_true_eq] at leading trailing
  have hsurrogate : ¬ (number < 0xD800 ∨ 0xDFFF < number) := by omega
  have hpair : number < 0xDC00 ∧ 0xDC00 ≤ second ∧ second ≤ 0xDFFF := by omega
  rw [decode.eq_def]
  simp only [if_neg hsurrogate, if_pos hpair, paired, Nat.mul_comm]

end

theorem shortEscape?_eq_some_iff {letter c : Char} :
    shortEscape? letter = some c ↔ (letter, c) ∈ shortEscapes := by
  constructor
  · intro h
    unfold shortEscape? at h
    split at h <;> cases h <;> decide
  · intro h
    simp only [shortEscapes, List.mem_cons, Prod.mk.injEq, List.not_mem_nil, or_false] at h
    rcases h with ⟨rfl, rfl⟩ | ⟨rfl, rfl⟩ | ⟨rfl, rfl⟩ | ⟨rfl, rfl⟩ | ⟨rfl, rfl⟩ | ⟨rfl, rfl⟩ |
      ⟨rfl, rfl⟩ | ⟨rfl, rfl⟩ <;> rfl

theorem ne_u_of_shortEscape? {letter c : Char} (h : shortEscape? letter = some c) :
    letter ≠ 'u' := by
  rintro rfl
  cases h

theorem codeUnit_eq_ok_iff {text rest : List Char} {number : Nat} :
    codeUnit text = .ok (number, rest) ↔
      ∃ first second third fourth, text = first :: second :: third :: fourth :: rest ∧
        Text.ofFourHexadecimal? first second third fourth = some number := by
  constructor
  · intro h
    unfold codeUnit at h
    split at h
    · rename_i first second third fourth later
      split at h
      · rename_i found hfound
        obtain ⟨rfl, rfl⟩ := Prod.mk.inj (Except.ok.inj h)
        exact ⟨first, second, third, fourth, rfl, hfound⟩
      · cases h
    · cases h
  · rintro ⟨first, second, third, fourth, rfl, hfound⟩
    simp only [codeUnit, hfound]

/-- A character is spelled by these pieces after a backslash, whatever follows. -/
def SpellsEscape (text : List Char) (c : Char) (rest : List Char) : Prop :=
  ∃ pieces, (∀ later behind, SpellsString rest later behind →
      SpellsString ('\\' :: text) (pieces ++ later) behind) ∧
    ∀ later, decode (pieces ++ later) = (decode later).map (c :: ·)

theorem spellsEscape_of_numericEscape {text rest : List Char} {c : Char}
    (h : numericEscape text = .ok (c, rest)) : SpellsEscape ('u' :: text) c rest := by
  unfold numericEscape at h
  obtain ⟨⟨number, behind⟩, hunit, hread⟩ := bind_eq_ok_iff.mp h
  obtain ⟨first, second, third, fourth, rfl, hfound⟩ := codeUnit_eq_ok_iff.mp hunit
  simp only at hread
  split at hread
  · cases hread
  · rename_i htrailing
    split at hread
    · rename_i hleading
      obtain ⟨rfl, rfl⟩ := Prod.mk.inj (Except.ok.inj hread)
      have hplain : number < 0xD800 ∨ 0xDFFF < number := by
        simp only [isTrailing, isLeading, Bool.and_eq_true, Bool.not_eq_true', decide_eq_true_eq,
          Bool.and_eq_false_iff, decide_eq_false_iff_not] at htrailing hleading
        omega
      exact ⟨[.unit number], fun later behind spelled ↦ .numeric hfound spelled,
        fun later ↦ decode_unit_of_plain hplain⟩
    · rename_i hleading
      obtain ⟨start, hstart, hpair⟩ := bind_eq_ok_iff.mp hread
      obtain rfl := literal_eq_ok_iff.mp hstart
      obtain ⟨⟨trailing, behind⟩, htrail, hdecoded⟩ := bind_eq_ok_iff.mp hpair
      obtain ⟨first', second', third', fourth', rfl, hfound'⟩ := codeUnit_eq_ok_iff.mp htrail
      simp only at hdecoded
      split at hdecoded
      · rename_i htrailing'
        obtain ⟨rfl, rfl⟩ := Prod.mk.inj (Except.ok.inj hdecoded)
        have hlead : isLeading number = true := by simpa using hleading
        exact ⟨[.unit number, .unit trailing],
          fun later behind spelled ↦ .numeric hfound (.numeric hfound' spelled),
          fun later ↦ decode_unit_of_pair hlead htrailing'⟩
      · cases hdecoded

theorem spellsEscape_of_escapeSequence {text rest : List Char} {c : Char}
    (h : escapeSequence text = .ok (c, rest)) : SpellsEscape text c rest := by
  unfold escapeSequence at h
  split at h
  · cases h
  · exact spellsEscape_of_numericEscape h
  · split at h
    · rename_i meant hmeant
      obtain ⟨rfl, rfl⟩ := Prod.mk.inj (Except.ok.inj h)
      have known := shortEscape?_eq_some_iff.mp hmeant
      exact ⟨[.char _], fun later behind spelled ↦ .short known spelled,
        fun later ↦ by rw [List.singleton_append, decode]⟩
    · cases h

theorem escapeSequence_of_short {letter c : Char} (h : (letter, c) ∈ shortEscapes)
    (text : List Char) : escapeSequence (letter :: text) = .ok (c, text) := by
  have hmeant := shortEscape?_eq_some_iff.mpr h
  unfold escapeSequence
  split
  · rename_i heq
    cases heq
  · rename_i later heq
    exact absurd (List.cons.inj heq).1 (ne_u_of_shortEscape? hmeant)
  · rename_i other later _ heq
    obtain ⟨rfl, rfl⟩ := List.cons.inj heq
    rw [hmeant]

section

variable {first second third fourth : Char} {number : Nat}
  (hexadecimal : Text.ofFourHexadecimal? first second third fourth = some number)

include hexadecimal

theorem codeUnit_of_digits (text : List Char) :
    codeUnit (first :: second :: third :: fourth :: text) = .ok (number, text) :=
  codeUnit_eq_ok_iff.mpr ⟨_, _, _, _, rfl, hexadecimal⟩

theorem escapeSequence_of_plain (h : number < 0xD800 ∨ 0xDFFF < number) (text : List Char) :
    escapeSequence ('u' :: first :: second :: third :: fourth :: text) =
      .ok (Char.ofNat number, text) := by
  have htrailing : isTrailing number = false := by
    simp only [isTrailing, Bool.and_eq_false_iff, decide_eq_false_iff_not]
    omega
  have hleading : isLeading number = false := by
    simp only [isLeading, Bool.and_eq_false_iff, decide_eq_false_iff_not]
    omega
  simp only [escapeSequence, numericEscape, codeUnit_of_digits hexadecimal, htrailing, hleading,
    bind, Except.bind]
  rfl

theorem escapeSequence_of_pair {first' second' third' fourth' : Char} {trailing : Nat}
    (hexadecimal' : Text.ofFourHexadecimal? first' second' third' fourth' = some trailing)
    (hleading : isLeading number = true) (htrailing : isTrailing trailing = true)
    (text : List Char) :
    escapeSequence ('u' :: first :: second :: third :: fourth :: '\\' :: 'u' :: first' ::
        second' :: third' :: fourth' :: text) =
      .ok (paired number trailing, text) := by
  have hlead : isTrailing number = false := by
    simp only [isLeading, isTrailing, Bool.and_eq_true, Bool.and_eq_false_iff, decide_eq_true_eq,
      decide_eq_false_iff_not] at hleading ⊢
    omega
  simp only [escapeSequence, numericEscape, codeUnit_of_digits hexadecimal,
    codeUnit_of_digits hexadecimal', hlead, hleading, htrailing, bind, Except.bind, literal,
    if_true, Bool.not_true, Bool.false_eq_true, if_false]
  rfl

end

/-! ## Whole strings -/

theorem stringTail_of_escape {text rest : List Char} {c : Char}
    (h : escapeSequence text = .ok (c, rest)) :
    stringTail ('\\' :: text) =
      (stringTail rest).map fun (cs, rest) ↦ (c :: cs, rest) := by
  rw [stringTail]
  split <;> simp_all

theorem stringTail_of_plain {c : Char} (notQuote : c ≠ '"') (notEscape : c ≠ '\\')
    (notControl : 0x20 ≤ c.toNat) (text : List Char) :
    stringTail (c :: text) = (stringTail text).map fun (cs, rest) ↦ (c :: cs, rest) := by
  rw [stringTail, if_neg (Nat.not_lt.mpr notControl)]
  · exact notQuote
  · exact notEscape

/-- What is read up to the closing quote decodes to the text that is given. -/
theorem exists_spellsString_of_stringTail {text cs rest : List Char}
    (h : stringTail text = .ok (cs, rest)) :
    ∃ pieces, SpellsString text pieces rest ∧ decode pieces = some cs := by
  fun_induction stringTail text generalizing cs rest with
  | case1 => cases h
  | case2 later =>
    obtain ⟨rfl, rfl⟩ := Prod.mk.inj (Except.ok.inj h)
    exact ⟨[], .closed, rfl⟩
  | case3 later c afterEscape escape_eq ih =>
    obtain ⟨⟨tail, afterTail⟩, tail_eq, pair_eq⟩ := map_eq_ok_iff.mp h
    obtain ⟨rfl, rfl⟩ := Prod.mk.inj pair_eq
    obtain ⟨pieces, spelled, decoded⟩ := ih tail_eq
    obtain ⟨escaped, hspells, hdecode⟩ := spellsEscape_of_escapeSequence escape_eq
    refine ⟨escaped ++ pieces, hspells _ _ spelled, ?_⟩
    rw [hdecode, decoded, Option.map_some]
  | case4 => cases h
  | case5 => cases h
  | case6 c later notQuote notEscape notControl ih =>
    obtain ⟨⟨tail, afterTail⟩, tail_eq, pair_eq⟩ := map_eq_ok_iff.mp h
    obtain ⟨rfl, rfl⟩ := Prod.mk.inj pair_eq
    obtain ⟨pieces, spelled, decoded⟩ := ih tail_eq
    refine ⟨.char c :: pieces,
      .plain notQuote notEscape (Nat.not_lt.mp notControl) spelled, ?_⟩
    rw [decode, decoded, Option.map_some]

/-- A string that has a text is read as that text. -/
theorem stringTail_of_spellsString {text rest cs : List Char} {pieces : List Piece}
    (spelled : SpellsString text pieces rest) (decoded : decode pieces = some cs) :
    stringTail text = .ok (cs, rest) := by
  -- By the pieces in the order of decoding, which takes the two halves of a pair at once.
  fun_induction decode pieces generalizing text cs with
  | case1 =>
    cases spelled
    obtain rfl := Option.some.inj decoded
    rw [stringTail]
  | case2 c pieces ih =>
    obtain ⟨tail, htail, rfl⟩ := Option.map_eq_some_iff.mp decoded
    cases spelled with
    | plain notQuote notEscape notControl later =>
      rw [stringTail_of_plain notQuote notEscape notControl, ih later htail]
      rfl
    | short known later =>
      rw [stringTail_of_escape (escapeSequence_of_short known _), ih later htail]
      rfl
  | case3 number pieces plain ih =>
    obtain ⟨tail, htail, rfl⟩ := Option.map_eq_some_iff.mp decoded
    cases spelled with
    | numeric hexadecimal later =>
      rw [stringTail_of_escape (escapeSequence_of_plain hexadecimal plain _), ih later htail]
      rfl
  | case4 number surrogate second pieces pair ih =>
    obtain ⟨tail, htail, rfl⟩ := Option.map_eq_some_iff.mp decoded
    have hleading : isLeading number = true := by
      simp only [isLeading, Bool.and_eq_true, decide_eq_true_eq]
      omega
    have htrailing : isTrailing second = true := by
      simp only [isTrailing, Bool.and_eq_true, decide_eq_true_eq]
      omega
    cases spelled with
    | numeric hexadecimal spelled =>
      cases spelled with
      | numeric hexadecimal' later =>
        rw [stringTail_of_escape
          (escapeSequence_of_pair hexadecimal hexadecimal' hleading htrailing _), ih later htail]
        simp only [Except.map, paired, Nat.mul_comm]
  | case5 => cases decoded
  | case6 => cases decoded

theorem skipEscape_eq_ok_iff {text rest : List Char} :
    skipEscape text = .ok rest ↔
      (∃ letter c, text = letter :: rest ∧ (letter, c) ∈ shortEscapes) ∨
      ∃ first second third fourth number, text = 'u' :: first :: second :: third :: fourth :: rest ∧
        Text.ofFourHexadecimal? first second third fourth = some number := by
  constructor
  · intro h
    unfold skipEscape at h
    split at h
    · cases h
    · obtain ⟨⟨number, behind⟩, hunit, rfl⟩ := map_eq_ok_iff.mp h
      obtain ⟨first, second, third, fourth, rfl, hfound⟩ := codeUnit_eq_ok_iff.mp hunit
      exact Or.inr ⟨first, second, third, fourth, number, rfl, hfound⟩
    · split at h
      · rename_i letter later _ hknown
        obtain rfl := Except.ok.inj h
        obtain ⟨c, hc⟩ := Option.isSome_iff_exists.mp hknown
        exact Or.inl ⟨letter, c, rfl, shortEscape?_eq_some_iff.mp hc⟩
      · cases h
  · rintro (⟨letter, c, rfl, known⟩ | ⟨first, second, third, fourth, number, rfl, hfound⟩)
    · have hmeant := shortEscape?_eq_some_iff.mpr known
      have hletter := ne_u_of_shortEscape? hmeant
      unfold skipEscape
      split <;> simp_all
    · simp only [skipEscape, codeUnit_of_digits hfound, Except.map]

theorem skipStringTail_of_escape {text rest : List Char} (h : skipEscape text = .ok rest) :
    skipStringTail ('\\' :: text) = skipStringTail rest := by
  rw [skipStringTail]
  split <;> simp_all

theorem skipStringTail_of_plain {c : Char} (notQuote : c ≠ '"') (notEscape : c ≠ '\\')
    (notControl : 0x20 ≤ c.toNat) (text : List Char) :
    skipStringTail (c :: text) = skipStringTail text := by
  rw [skipStringTail, if_neg (Nat.not_lt.mpr notControl)]
  · exact notQuote
  · exact notEscape

theorem exists_spellsString_of_skipStringTail {text rest : List Char}
    (h : skipStringTail text = .ok rest) : ∃ pieces, SpellsString text pieces rest := by
  fun_induction skipStringTail text generalizing rest with
  | case1 => cases h
  | case2 later =>
    obtain rfl := Except.ok.inj h
    exact ⟨[], .closed⟩
  | case3 later afterEscape escape_eq ih =>
    obtain ⟨pieces, spelled⟩ := ih h
    rcases skipEscape_eq_ok_iff.mp escape_eq with
      ⟨letter, c, rfl, known⟩ | ⟨first, second, third, fourth, number, rfl, hfound⟩
    · exact ⟨.char c :: pieces, .short known spelled⟩
    · exact ⟨.unit number :: pieces, .numeric hfound spelled⟩
  | case4 => cases h
  | case5 => cases h
  | case6 c later notQuote notEscape notControl ih =>
    obtain ⟨pieces, spelled⟩ := ih h
    exact ⟨.char c :: pieces, .plain notQuote notEscape (Nat.not_lt.mp notControl) spelled⟩

theorem skipStringTail_of_spellsString {text rest : List Char} {pieces : List Piece}
    (spelled : SpellsString text pieces rest) : skipStringTail text = .ok rest := by
  induction spelled with
  | closed => rw [skipStringTail]
  | plain notQuote notEscape notControl _ ih =>
    rw [skipStringTail_of_plain notQuote notEscape notControl, ih]
  | short known _ ih =>
    rw [skipStringTail_of_escape (skipEscape_eq_ok_iff.mpr (Or.inl ⟨_, _, rfl, known⟩)), ih]
  | numeric hexadecimal _ ih =>
    rw [skipStringTail_of_escape
      (skipEscape_eq_ok_iff.mpr (Or.inr ⟨_, _, _, _, _, rfl, hexadecimal⟩)), ih]

end StatementLang.Json
