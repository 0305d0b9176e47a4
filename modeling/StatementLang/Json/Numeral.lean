import StatementLang.Json.Lexical

/-!
# Reading Numerals

A numeral has an integer part without leading zeros, and may have a sign, a fraction and an
exponent.  Only a plain integer that fits in 64 bits is a count.  Every other numeral must still
denote a number of binary64, which stands for the rounded product of two rounded factors: the digits
that fit in 64 bits, and a power of ten for the rest.
-/

namespace StatementLang.Json

def maxCount : Nat := 18446744073709551615

/-- The largest count fills 64 bits. -/
theorem maxCount_succ : maxCount + 1 = Nat.pow 2 64 := by decide

/-- The parts of a numeral as they are written. -/
structure Numeral where
  negative : Bool
  whole : List Char
  fraction : Option (List Char)
  /-- Whether the exponent is negative, and its digits. -/
  exponent : Option (Bool × List Char)
deriving DecidableEq, Repr

def digitValue (c : Char) : Nat := c.toNat - '0'.toNat

def ofDigits (digits : List Char) : Nat := digits.foldl (fun value c ↦ 10 * value + digitValue c) 0

def someDigits (text : List Char) : Reading (List Char) :=
  match text with
  | [] => .error .unfinished
  | c :: _ =>
    if c.isDigit then .ok (text.takeWhile Char.isDigit, text.dropWhile Char.isDigit)
    else .error .malformed

/-- Read the integer part, in which a zero stands alone. -/
def wholePart (text : List Char) : Reading (List Char) :=
  match text with
  | '0' :: c :: rest => if c.isDigit then .error .malformed else .ok (['0'], c :: rest)
  | _ => someDigits text

def fractionPart (text : List Char) : Reading (Option (List Char)) :=
  match text with
  | '.' :: rest => (someDigits rest).map fun (digits, rest) ↦ (some digits, rest)
  | _ => .ok (none, text)

def exponentSign : List Char → Bool × List Char
  | '+' :: rest => (false, rest)
  | '-' :: rest => (true, rest)
  | text => (false, text)

def exponentPart (text : List Char) : Reading (Option (Bool × List Char)) :=
  match text with
  | [] => .ok (none, [])
  | c :: rest =>
    if c = 'e' ∨ c = 'E' then
      (someDigits (exponentSign rest).2).map fun (digits, after) ↦
        (some ((exponentSign rest).1, digits), after)
    else .ok (none, c :: rest)

def numeralSign : List Char → Bool × List Char
  | '-' :: rest => (true, rest)
  | text => (false, text)

def numeral (text : List Char) : Except ReadError (Numeral × List Char) := do
  let (whole, rest) ← wholePart (numeralSign text).2
  let (fraction, rest) ← fractionPart rest
  let (exponent, rest) ← exponentPart rest
  return ({ negative := (numeralSign text).1, whole, fraction, exponent }, rest)

namespace Numeral

/-- The digits of a significand that fit in 64 bits, and the power of ten of the last of them. -/
structure Significand where
  value : Nat
  exponent : Int
  full : Bool

/-- Add a digit of the integer part.  Once a digit does not fit, all further ones only raise the
power of ten. -/
def Significand.addWhole (part : Significand) (c : Char) : Significand :=
  let value := 10 * part.value + digitValue c
  if part.full ∨ maxCount < value then { part with exponent := part.exponent + 1, full := true }
  else { part with value }

/-- Add a digit of the fraction.  Once a digit does not fit, all further ones are ignored. -/
def Significand.addFraction (part : Significand) (c : Char) : Significand :=
  let value := 10 * part.value + digitValue c
  if part.full ∨ maxCount < value then { part with full := true }
  else { part with value, exponent := part.exponent - 1 }

/-- The significand of a numeral, without its exponent.  The fraction begins anew to test whether a
digit fits. -/
def significand (numeral : Numeral) : Significand :=
  let whole := numeral.whole.foldl Significand.addWhole { value := 0, exponent := 0, full := false }
  (numeral.fraction.getD []).foldl Significand.addFraction { whole with full := false }

/-- The power of ten of the last digit of the significand. -/
def powerOfTen (numeral : Numeral) : Int :=
  let exponent : Int := match numeral.exponent with
    | none => 0
    | some (true, digits) => -(ofDigits digits : Int)
    | some (false, digits) => ofDigits digits
  numeral.significand.exponent + exponent

/-- The number of 53 significant bits nearest to a number; a tie goes to the even one. -/
def nearestBinary (number : Nat) : Nat :=
  let unit := Nat.pow 2 (number.log2 - 52)
  let units := number / unit
  let spare := number % unit
  if unit < 2 * spare ∨ (unit = 2 * spare ∧ units % 2 = 1) then (units + 1) * unit
  else units * unit

/-- The least number that is rounded up beyond the largest of binary64. -/
def leastTooLarge : Nat := Nat.pow 2 1024 - Nat.pow 2 970

def isTooLarge (numeral : Numeral) : Bool :=
  let value := numeral.significand.value
  if value = 0 ∨ numeral.powerOfTen < 0 then false
  else if 308 < numeral.powerOfTen then true
  else
    decide (leastTooLarge ≤
      nearestBinary value * nearestBinary (Nat.pow 10 numeral.powerOfTen.toNat))

def count? (numeral : Numeral) : Option Nat :=
  if numeral.negative ∨ numeral.fraction.isSome ∨ numeral.exponent.isSome ∨
      maxCount < ofDigits numeral.whole then none
  else some (ofDigits numeral.whole)

end Numeral

theorem length_someDigits {text digits rest : List Char}
    (h : someDigits text = .ok (digits, rest)) : rest.length < text.length := by
  unfold someDigits at h
  split at h
  · cases h
  · rename_i c later
    split at h
    · rename_i isDigit
      rw [← (Prod.mk.inj (Except.ok.inj h)).2, List.dropWhile_cons, if_pos isDigit]
      exact Nat.lt_succ_of_le (List.dropWhile_sublist Char.isDigit).length_le
    · cases h

theorem length_wholePart {text digits rest : List Char} (h : wholePart text = .ok (digits, rest)) :
    rest.length < text.length := by
  unfold wholePart at h
  split at h
  · split at h
    · cases h
    · rw [← (Prod.mk.inj (Except.ok.inj h)).2]
      simp only [List.length_cons]
      omega
  · exact length_someDigits h

theorem length_fractionPart {text rest : List Char} {fraction : Option (List Char)}
    (h : fractionPart text = .ok (fraction, rest)) : rest.length ≤ text.length := by
  unfold fractionPart at h
  split at h
  · obtain ⟨⟨digits, afterDigits⟩, digits_eq, pair_eq⟩ := map_eq_ok_iff.mp h
    have shorter := length_someDigits digits_eq
    rw [← (Prod.mk.inj pair_eq).2, List.length_cons]
    omega
  · exact Nat.le_of_eq (congrArg List.length (Prod.mk.inj (Except.ok.inj h)).2.symm)

theorem length_exponentSign_le (text : List Char) : (exponentSign text).2.length ≤ text.length := by
  unfold exponentSign
  split <;> simp

theorem length_exponentPart {text rest : List Char} {exponent : Option (Bool × List Char)}
    (h : exponentPart text = .ok (exponent, rest)) : rest.length ≤ text.length := by
  unfold exponentPart at h
  split at h
  · exact Nat.le_of_eq (congrArg List.length (Prod.mk.inj (Except.ok.inj h)).2.symm)
  · rename_i c later
    split at h
    · obtain ⟨⟨digits, afterDigits⟩, digits_eq, pair_eq⟩ := map_eq_ok_iff.mp h
      have shorter := length_someDigits digits_eq
      have signed := length_exponentSign_le later
      rw [← (Prod.mk.inj pair_eq).2, List.length_cons]
      omega
    · exact Nat.le_of_eq (congrArg List.length (Prod.mk.inj (Except.ok.inj h)).2.symm)

theorem length_numeralSign_le (text : List Char) : (numeralSign text).2.length ≤ text.length := by
  unfold numeralSign
  split <;> simp

theorem length_numeral {text rest : List Char} {value : Numeral}
    (h : numeral text = .ok (value, rest)) : rest.length < text.length := by
  unfold numeral at h
  have signed := length_numeralSign_le text
  obtain ⟨⟨whole, afterWhole⟩, whole_eq, h⟩ := bind_eq_ok_iff.mp h
  obtain ⟨⟨fraction, afterFraction⟩, fraction_eq, h⟩ := bind_eq_ok_iff.mp h
  obtain ⟨⟨exponent, afterExponent⟩, exponent_eq, h⟩ := bind_eq_ok_iff.mp h
  have first := length_wholePart whole_eq
  have second := length_fractionPart fraction_eq
  have third := length_exponentPart exponent_eq
  rw [← (Prod.mk.inj (Except.ok.inj h)).2]
  omega

def count? (text : List Char) : Reading (Option Nat) :=
  match numeral text with
  | .error error => .error error
  | .ok (numeral, rest) =>
    if numeral.isTooLarge then .error .malformed else .ok (numeral.count?, rest)

theorem length_count? {text rest : List Char} {count : Option Nat}
    (h : count? text = .ok (count, rest)) : rest.length < text.length := by
  unfold count? at h
  split at h
  · cases h
  · rename_i value later read
    split at h
    · cases h
    · rw [← (Prod.mk.inj (Except.ok.inj h)).2]
      exact length_numeral read

end StatementLang.Json
