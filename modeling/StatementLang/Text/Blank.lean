/-!
# Blank Characters

The characters that separate tokens are the code points with the Unicode property White_Space.
A line feed is one of them, and the only one that ends a line.
-/

namespace StatementLang.Text

/-- The code points with the Unicode property White_Space, as closed ranges in increasing order. -/
def blankRanges : List (Nat × Nat) :=
  [(0x09, 0x0D), (0x20, 0x20), (0x85, 0x85), (0xA0, 0xA0), (0x1680, 0x1680), (0x2000, 0x200A),
    (0x2028, 0x2029), (0x202F, 0x202F), (0x205F, 0x205F), (0x3000, 0x3000)]

/-- A character is blank when its code point lies in one of the ranges. -/
def isBlank (c : Char) : Bool :=
  blankRanges.any fun range ↦ decide (range.1 ≤ c.toNat) && decide (c.toNat ≤ range.2)

/-- Twenty-five code points are blank. -/
example : (blankRanges.map fun range ↦ range.2 + 1 - range.1).sum = 25 := by decide

/-- No blank is a letter, a digit or one of the four marks of the language. -/
example : ("azAZ09=();".toList.all fun c ↦ !isBlank c) = true := by decide

end StatementLang.Text
