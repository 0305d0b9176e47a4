import StatementLang.Json.Numeral
import StatementLang.Json.StringLiteral

/-!
# Skipping JSON Values

A value that nobody asked for is passed without being kept.  Its grammar is checked, but neither
whether its escapes form characters nor how large its numbers are.  The brackets still open around
the place reached are all that has to be remembered.
-/

namespace StatementLang.Json

/-- A bracket that is still open. -/
inductive Bracket where
  | array
  | object
deriving DecidableEq, Repr

def skipEscape (text : List Char) : Except ReadError (List Char) :=
  match text with
  | [] => .error .unfinished
  | 'u' :: rest => (codeUnit rest).map Prod.snd
  | c :: rest => if (shortEscape? c).isSome then .ok rest else .error .malformed

theorem length_skipEscape {text rest : List Char} (h : skipEscape text = .ok rest) :
    rest.length < text.length := by
  unfold skipEscape at h
  split at h
  · cases h
  · obtain ⟨⟨unit, afterUnit⟩, unit_eq, rest_eq⟩ := map_eq_ok_iff.mp h
    have shorter := length_codeUnit unit_eq
    rw [← rest_eq]
    exact Nat.lt_succ_of_lt shorter
  · split at h
    · rw [← Except.ok.inj h]
      exact Nat.lt_succ_self _
    · cases h

def skipStringTail (text : List Char) : Except ReadError (List Char) :=
  match text with
  | [] => .error .unfinished
  | '"' :: rest => .ok rest
  | '\\' :: rest =>
    match _escape : skipEscape rest with
    | .ok rest => skipStringTail rest
    | .error error => .error error
  | c :: rest => if c.toNat < 0x20 then .error .malformed else skipStringTail rest
termination_by text.length
decreasing_by
  · have shorter := length_skipEscape _escape
    simp only [List.length_cons]
    omega
  · simp only [List.length_cons]
    omega

theorem length_skipStringTail {text rest : List Char} (h : skipStringTail text = .ok rest) :
    rest.length < text.length := by
  fun_induction skipStringTail text generalizing rest with
  | case1 => cases h
  | case2 later =>
    rw [← Except.ok.inj h]
    exact Nat.lt_succ_self _
  | case3 later afterEscape escape_eq ih =>
    have shorter := ih h
    have escaped := length_skipEscape escape_eq
    simp only [List.length_cons]
    omega
  | case4 => cases h
  | case5 => cases h
  | case6 c later _ _ _ ih => exact Nat.lt_succ_of_lt (ih h)

/-- Pass a numeral.  One that breaks off is malformed here. -/
def skipNumeral (text : List Char) : Except ReadError (List Char) :=
  match numeral text with
  | .ok (_, rest) => .ok rest
  | .error _ => .error .malformed

theorem length_skipNumeral {text rest : List Char} (h : skipNumeral text = .ok rest) :
    rest.length < text.length := by
  unfold skipNumeral at h
  split at h
  · rename_i read
    rw [← Except.ok.inj h]
    exact length_numeral read
  · cases h

def skipScalar (text : List Char) : Except ReadError (List Char) :=
  match text with
  | [] => .error .unfinished
  | '"' :: rest => skipStringTail rest
  | 'n' :: rest => literal ['u', 'l', 'l'] rest
  | 't' :: rest => literal ['r', 'u', 'e'] rest
  | 'f' :: rest => literal ['a', 'l', 's', 'e'] rest
  | c :: rest => if c = '-' ∨ c.isDigit then skipNumeral (c :: rest) else .error .malformed

theorem length_skipScalar {text rest : List Char} (h : skipScalar text = .ok rest) :
    rest.length < text.length := by
  unfold skipScalar at h
  split at h
  · cases h
  · exact Nat.lt_succ_of_lt (length_skipStringTail h)
  · exact Nat.lt_succ_of_le (length_literal h)
  · exact Nat.lt_succ_of_le (length_literal h)
  · exact Nat.lt_succ_of_le (length_literal h)
  · split at h
    · exact length_skipNumeral h
    · cases h

def skipKey (text : List Char) : Except ReadError (List Char) := do
  colon (← skipStringTail text)

theorem length_skipKey {text rest : List Char} (h : skipKey text = .ok rest) :
    rest.length < text.length := by
  obtain ⟨afterKey, key_eq, h⟩ := bind_eq_ok_iff.mp h
  exact Nat.lt_trans (length_colon h) (length_skipStringTail key_eq)

mutual

/-- Pass a value and all that follows it up to the end of the outermost open bracket. -/
def skipValueIn (enclosing : List Bracket) (text : List Char) : Except ReadError (List Char) :=
  match _start : skipBlanks text with
  | '[' :: rest => skipMembersIn (.array :: enclosing) true rest
  | '\x7b' :: rest => skipMembersIn (.object :: enclosing) true rest
  | start =>
    match _scalar : skipScalar start with
    | .ok rest => skipMembersIn enclosing false rest
    | .error error => .error error
termination_by 2 * text.length
decreasing_by
  · have skipped := length_skipBlanks_le text
    rw [_start, List.length_cons] at skipped
    omega
  · have skipped := length_skipBlanks_le text
    rw [_start, List.length_cons] at skipped
    omega
  · have skipped := length_skipBlanks_le text
    have shorter := length_skipScalar _scalar
    rw [_start] at skipped
    omega

/-- Pass the members left in the open brackets, the innermost first. -/
def skipMembersIn (enclosing : List Bracket) (first : Bool) (text : List Char) :
    Except ReadError (List Char) :=
  match enclosing with
  | [] => .ok text
  | .array :: outer =>
    match _item : nextItem first text with
    | .ok (.closed rest) => skipMembersIn outer false rest
    | .ok (.starts start) => skipValueIn (.array :: outer) start
    | .error error => .error error
  | .object :: outer =>
    match _field : nextField first text with
    | .ok (.closed rest) => skipMembersIn outer false rest
    | .ok (.starts start) =>
      match _key : skipKey start with
      | .ok rest => skipValueIn (.object :: outer) rest
      | .error error => .error error
    | .error error => .error error
termination_by 2 * text.length + 1
decreasing_by
  · have shorter := length_nextItem_closed _item
    omega
  · have shorter := length_nextItem_starts _item
    omega
  · have shorter := length_nextField_closed _field
    omega
  · have shorter := length_nextField_starts _field
    have keyed := length_skipKey _key
    omega

end

def skipValue (text : List Char) : Except ReadError (List Char) := skipValueIn [] text

/-- Passing a value takes a character at least, and passing members may take none. -/
theorem length_skip :
    (∀ enclosing text, ∀ rest, skipValueIn enclosing text = .ok rest →
      rest.length < text.length) ∧
    (∀ enclosing first text, ∀ rest, skipMembersIn enclosing first text = .ok rest →
      rest.length ≤ text.length) := by
  apply skipValueIn.mutual_induct
  · intro enclosing text later atHead ih rest h
    have skipped := length_skipBlanks_le text
    rw [skipValueIn, atHead] at h
    have shorter := ih rest h
    rw [atHead, List.length_cons] at skipped
    omega
  · intro enclosing text later atHead ih rest h
    have skipped := length_skipBlanks_le text
    rw [skipValueIn, atHead] at h
    have shorter := ih rest h
    rw [atHead, List.length_cons] at skipped
    omega
  · intro enclosing text later notArray notObject scalar_eq ih rest h
    have skipped := length_skipBlanks_le text
    have passed := length_skipScalar scalar_eq
    have shorter := ih rest (by rw [skipValueIn] at h; grind)
    omega
  · intro enclosing text error notArray notObject scalar_eq rest h
    rw [skipValueIn] at h
    grind
  · intro first text rest h
    rw [skipMembersIn] at h
    exact Nat.le_of_eq (congrArg List.length (Except.ok.inj h).symm)
  · intro first text outer later closed_eq ih rest h
    have closed := length_nextItem_closed closed_eq
    rw [skipMembersIn] at h
    have shorter := ih rest (by grind)
    omega
  · intro first text outer start starts_eq ih rest h
    have started := length_nextItem_starts starts_eq
    rw [skipMembersIn] at h
    have shorter := ih rest (by grind)
    omega
  · intro first text outer error error_eq rest h
    rw [skipMembersIn] at h
    grind
  · intro first text outer later closed_eq ih rest h
    have closed := length_nextField_closed closed_eq
    rw [skipMembersIn] at h
    have shorter := ih rest (by grind)
    omega
  · intro first text outer start starts_eq later key_eq ih rest h
    have started := length_nextField_starts starts_eq
    have keyed := length_skipKey key_eq
    rw [skipMembersIn] at h
    have shorter := ih rest (by grind)
    omega
  · intro first text outer start starts_eq error key_eq rest h
    rw [skipMembersIn] at h
    grind
  · intro first text outer error error_eq rest h
    rw [skipMembersIn] at h
    grind

theorem length_skipValue {text rest : List Char} (h : skipValue text = .ok rest) :
    rest.length < text.length :=
  length_skip.1 [] text rest h

end StatementLang.Json
