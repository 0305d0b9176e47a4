import Mathlib.Logic.Function.Basic
import StatementLang.Text.Hexadecimal

/-!
# Rows of Digits

A number is known from its digits, in base ten and in base sixteen, because they are read back.
-/

namespace StatementLang

theorem decimal_injective : Function.Injective (Nat.toDigits 10) := by
  intro number other h
  calc
    number = Nat.ofDigitChars 10 (Nat.toDigits 10 number) 0 := Nat.ofDigitChars_ten_toDigits.symm
    _ = Nat.ofDigitChars 10 (Nat.toDigits 10 other) 0 := by rw [h]
    _ = other := Nat.ofDigitChars_ten_toDigits

theorem not_mem_decimal {c : Char} (h : c.isDigit = false) (number : Nat) :
    c ∉ Nat.toDigits 10 number := by
  intro hmem
  cases h.symm.trans (Nat.isDigit_of_mem_toDigits (by decide) (by decide) hmem)

namespace Text

def ofHexadecimal (digits : List Char) : Nat :=
  digits.foldl (fun value c ↦ 16 * value + (hexadecimalValue? c).getD 0) 0

/-- A number has one digit, or its last digit stands behind those of a sixteenth of it. -/
theorem hexadecimal_cases (number : Nat) :
    (number < 16 ∧ hexadecimal number = [number.digitChar]) ∨
    (16 ≤ number ∧
      hexadecimal number = hexadecimal (number / 16) ++ [(number % 16).digitChar]) := by
  obtain hsmall | hlarge := Nat.lt_or_ge number 16
  · exact Or.inl ⟨hsmall, Nat.toDigits_of_lt_base hsmall⟩
  · exact Or.inr ⟨hlarge, Nat.toDigits_of_base_le (by decide) hlarge⟩

theorem ofHexadecimal_hexadecimal (number : Nat) : ofHexadecimal (hexadecimal number) = number := by
  induction number using Nat.strongRecOn with
  | ind number ih =>
    obtain ⟨hsmall, h⟩ | ⟨hlarge, h⟩ := hexadecimal_cases number
    · simp [h, ofHexadecimal, hexadecimalValue?_digitChar hsmall]
    · have hlast : number % 16 < 16 := Nat.mod_lt _ (by decide)
      have hsixteenth := ih (number / 16) (by omega)
      rw [ofHexadecimal] at hsixteenth
      simp only [h, ofHexadecimal, List.foldl_append, hsixteenth, List.foldl_cons, List.foldl_nil,
        hexadecimalValue?_digitChar hlast, Option.getD_some]
      omega

theorem hexadecimal_injective : Function.Injective hexadecimal := by
  intro number other h
  calc
    number = ofHexadecimal (hexadecimal number) := (ofHexadecimal_hexadecimal number).symm
    _ = ofHexadecimal (hexadecimal other) := congrArg ofHexadecimal h
    _ = other := ofHexadecimal_hexadecimal other

theorem exists_digit_of_mem_hexadecimal {number : Nat} {c : Char} (h : c ∈ hexadecimal number) :
    ∃ digit < 16, c = digit.digitChar := by
  induction number using Nat.strongRecOn with
  | ind number ih =>
    obtain ⟨hsmall, hdigits⟩ | ⟨hlarge, hdigits⟩ := hexadecimal_cases number
    · rw [hdigits] at h
      exact ⟨number, hsmall, List.mem_singleton.mp h⟩
    · rw [hdigits] at h
      obtain hfirst | hlast := List.mem_append.mp h
      · exact ih (number / 16) (by omega) hfirst
      · exact ⟨number % 16, Nat.mod_lt _ (by decide), List.mem_singleton.mp hlast⟩

/-- No hexadecimal digit is a brace or breaks a line. -/
theorem ne_of_mem_hexadecimal {number : Nat} {c : Char} (h : c ∈ hexadecimal number) :
    c ≠ '\x7d' ∧ c ≠ '\n' := by
  have all : ∀ digit : Fin 16, digit.val.digitChar ≠ '\x7d' ∧ digit.val.digitChar ≠ '\n' := by
    decide
  obtain ⟨digit, hlt, rfl⟩ := exists_digit_of_mem_hexadecimal h
  exact all ⟨digit, hlt⟩

end Text

end StatementLang
