/-!
# Hexadecimal Digits

Code points are written and read in base sixteen.  Writing uses lower case; reading takes both.
-/

namespace StatementLang.Text

def hexadecimalValue? (c : Char) : Option Nat :=
  if c.isDigit then some (c.toNat - '0'.toNat)
  else if 'a' ≤ c ∧ c ≤ 'f' then some (c.toNat - 'a'.toNat + 10)
  else if 'A' ≤ c ∧ c ≤ 'F' then some (c.toNat - 'A'.toNat + 10)
  else none

/-- The digits of a number in base sixteen, in lower case and without leading zeros. -/
def hexadecimal (number : Nat) : List Char := Nat.toDigits 16 number

/-- The four digits of a number below 65536. -/
def fourHexadecimal (number : Nat) : List Char :=
  [number / 4096 % 16, number / 256 % 16, number / 16 % 16, number % 16].map Nat.digitChar

def ofFourHexadecimal? (first second third fourth : Char) : Option Nat := do
  let high ← hexadecimalValue? first
  let upper ← hexadecimalValue? second
  let lower ← hexadecimalValue? third
  let low ← hexadecimalValue? fourth
  return ((high * 16 + upper) * 16 + lower) * 16 + low

theorem hexadecimalValue?_digitChar {digit : Nat} (h : digit < 16) :
    hexadecimalValue? digit.digitChar = some digit := by
  have all : ∀ digit : Fin 16, hexadecimalValue? digit.val.digitChar = some digit.val := by decide
  exact all ⟨digit, h⟩

/-- Four written digits read back as the number. -/
theorem ofFourHexadecimal?_fourHexadecimal {number : Nat} (h : number < 65536) :
    (match fourHexadecimal number with
      | [first, second, third, fourth] => ofFourHexadecimal? first second third fourth
      | _ => none) = some number := by
  simp only [fourHexadecimal, List.map_cons, List.map_nil, ofFourHexadecimal?, Option.bind_eq_bind,
    hexadecimalValue?_digitChar (Nat.mod_lt _ (by decide : 0 < 16)), Option.bind_some,
    Option.pure_def, Option.some.injEq]
  omega

end StatementLang.Text
