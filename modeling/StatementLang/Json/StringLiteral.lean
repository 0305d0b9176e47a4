import StatementLang.Json.Lexical
import StatementLang.Text.Hexadecimal

/-!
# Reading JSON Strings

A string stands between quotes.  Its escapes are short ones, of a backslash and a letter, or numeric
ones, of four digits for a code unit; a character beyond sixteen bits is escaped as a pair of code
units, and half of a pair is no character.
-/

namespace StatementLang.Json

/-- Read the four digits after the start of a numeric escape. -/
def codeUnit (text : List Char) : Reading Nat :=
  match text with
  | first :: second :: third :: fourth :: rest =>
    match Text.ofFourHexadecimal? first second third fourth with
    | some unit => .ok (unit, rest)
    | none => .error .malformed
  | _ => .error (if (String.ofList text).utf8ByteSize < 4 then .unfinished else .malformed)

theorem length_codeUnit {text rest : List Char} {unit : Nat}
    (h : codeUnit text = .ok (unit, rest)) : rest.length < text.length := by
  unfold codeUnit at h
  split at h
  · split at h
    · rw [← (Prod.mk.inj (Except.ok.inj h)).2]
      simp only [List.length_cons]
      omega
    · cases h
  · cases h

def isLeading (unit : Nat) : Bool := decide (0xD800 ≤ unit) && decide (unit ≤ 0xDBFF)

def isTrailing (unit : Nat) : Bool := decide (0xDC00 ≤ unit) && decide (unit ≤ 0xDFFF)

def paired (leading trailing : Nat) : Char :=
  Char.ofNat (0x10000 + (leading - 0xD800) * 0x400 + (trailing - 0xDC00))

/-- Read a numeric escape after its first two characters.  The halves of a pair must come
together. -/
def numericEscape (text : List Char) : Except ReadError (Char × List Char) := do
  let (unit, rest) ← codeUnit text
  if isTrailing unit then throw .malformed
  if !isLeading unit then return (Char.ofNat unit, rest)
  let start ← literal ['\\', 'u'] rest
  let (trailing, rest) ← codeUnit start
  if isTrailing trailing then return (paired unit trailing, rest)
  throw .malformed

def shortEscape? : Char → Option Char
  | '"' => some '"'
  | '\\' => some '\\'
  | '/' => some '/'
  | 'b' => some '\x08'
  | 'f' => some '\x0c'
  | 'n' => some '\n'
  | 'r' => some '\r'
  | 't' => some '\t'
  | _ => none

def escapeSequence : List Char → Reading Char
  | [] => .error .unfinished
  | 'u' :: rest => numericEscape rest
  | c :: rest =>
    match shortEscape? c with
    | some meant => .ok (meant, rest)
    | none => .error .malformed

theorem length_numericEscape {text rest : List Char} {c : Char}
    (h : numericEscape text = .ok (c, rest)) : rest.length < text.length := by
  unfold numericEscape at h
  obtain ⟨⟨unit, afterUnit⟩, unit_eq, h⟩ := bind_eq_ok_iff.mp h
  have shorter := length_codeUnit unit_eq
  simp only at h
  split at h
  · cases h
  · split at h
    · rw [← (Prod.mk.inj (Except.ok.inj h)).2]
      exact shorter
    · obtain ⟨start, start_eq, h⟩ := bind_eq_ok_iff.mp h
      have started := length_literal start_eq
      obtain ⟨⟨trailing, afterTrailing⟩, trailing_eq, h⟩ := bind_eq_ok_iff.mp h
      have ended := length_codeUnit trailing_eq
      simp only at h
      split at h
      · rw [← (Prod.mk.inj (Except.ok.inj h)).2]
        omega
      · cases h

theorem length_escapeSequence {text rest : List Char} {c : Char}
    (h : escapeSequence text = .ok (c, rest)) : rest.length < text.length := by
  unfold escapeSequence at h
  split at h
  · cases h
  · exact Nat.lt_succ_of_lt (length_numericEscape h)
  · split at h
    · rw [← (Prod.mk.inj (Except.ok.inj h)).2]
      exact Nat.lt_succ_self _
    · cases h

def stringTail (text : List Char) : Reading (List Char) :=
  match text with
  | [] => .error .unfinished
  | '"' :: rest => .ok ([], rest)
  | '\\' :: rest =>
    match _escape : escapeSequence rest with
    | .ok (c, rest) => (stringTail rest).map fun (cs, rest) ↦ (c :: cs, rest)
    | .error error => .error error
  | c :: rest =>
    if c.toNat < 0x20 then .error .malformed
    else (stringTail rest).map fun (cs, rest) ↦ (c :: cs, rest)
termination_by text.length
decreasing_by
  · have shorter := length_escapeSequence _escape
    simp only [List.length_cons]
    omega
  · simp only [List.length_cons]
    omega

theorem length_stringTail {text rest cs : List Char} (h : stringTail text = .ok (cs, rest)) :
    rest.length < text.length := by
  fun_induction stringTail text generalizing cs rest with
  | case1 => cases h
  | case2 later =>
    rw [← (Prod.mk.inj (Except.ok.inj h)).2]
    exact Nat.lt_succ_self _
  | case3 later c afterEscape escape_eq ih =>
    obtain ⟨⟨tail, afterTail⟩, tail_eq, pair_eq⟩ := map_eq_ok_iff.mp h
    have shorter := ih tail_eq
    have escaped := length_escapeSequence escape_eq
    rw [← (Prod.mk.inj pair_eq).2]
    simp only [List.length_cons]
    omega
  | case4 => cases h
  | case5 => cases h
  | case6 c later _ _ _ ih =>
    obtain ⟨⟨tail, afterTail⟩, tail_eq, pair_eq⟩ := map_eq_ok_iff.mp h
    have shorter := ih tail_eq
    rw [← (Prod.mk.inj pair_eq).2]
    exact Nat.lt_succ_of_lt shorter

end StatementLang.Json
