/-!
# Reading between JSON Values

Blanks, literal names and the marks between values are read from the front of a text.  A text that
ends too early and a character that cannot follow are told apart; whichever comes first decides.
-/

namespace StatementLang.Json

/-- Why a text cannot be read as a value of the wanted kind. -/
inductive ReadError where
  /-- The text ends inside a value. -/
  | unfinished
  /-- No JSON text has this character here. -/
  | malformed
  /-- The value is JSON, but not of the wanted kind. -/
  | mismatched
deriving DecidableEq, Repr

/-- What is read from the front of a text, and the text after it. -/
abbrev Reading (α : Type) := Except ReadError (α × List Char)

/-- A sequence of two readings succeeds through both. -/
theorem bind_eq_ok_iff {α β : Type} {first : Except ReadError α} {next : α → Except ReadError β}
    {result : β} :
    (first >>= next) = .ok result ↔ ∃ value, first = .ok value ∧ next value = .ok result := by
  cases first <;> simp [bind, Except.bind]

/-- A reading that is converted succeeds through the reading itself. -/
theorem map_eq_ok_iff {α β : Type} {reading : Except ReadError α} {f : α → β} {result : β} :
    reading.map f = .ok result ↔ ∃ value, reading = .ok value ∧ f value = result := by
  cases reading <;> simp [Except.map]

/-- Whether a character may stand between two values or marks. -/
def isBlank (c : Char) : Bool := c == ' ' || c == '\n' || c == '\t' || c == '\r'

def skipBlanks (text : List Char) : List Char := text.dropWhile isBlank

theorem length_skipBlanks_le (text : List Char) : (skipBlanks text).length ≤ text.length :=
  (List.dropWhile_sublist isBlank).length_le

/-- Read the remaining characters of a literal name. -/
def literal : List Char → List Char → Except ReadError (List Char)
  | [], text => .ok text
  | _ :: _, [] => .error .unfinished
  | wanted :: name, found :: text =>
    if wanted = found then literal name text else .error .malformed

theorem literal_eq_ok_iff {name text rest : List Char} :
    literal name text = .ok rest ↔ text = name ++ rest := by
  induction name generalizing text with
  | nil => simp [literal, eq_comm]
  | cons wanted name ih =>
    cases text with
    | nil => simp [literal]
    | cons found text =>
      by_cases same : wanted = found
      · simp [literal, same, ih]
      · simp [literal, same, Ne.symm same]

theorem length_literal {name text rest : List Char} (h : literal name text = .ok rest) :
    rest.length ≤ text.length := by
  rw [literal_eq_ok_iff.mp h, List.length_append]
  omega

def colon (text : List Char) : Except ReadError (List Char) :=
  match skipBlanks text with
  | [] => .error .unfinished
  | ':' :: rest => .ok rest
  | _ => .error .malformed

theorem length_colon {text rest : List Char} (h : colon text = .ok rest) :
    rest.length < text.length := by
  have skipped := length_skipBlanks_le text
  unfold colon at h
  split at h
  · cases h
  · rename_i later atHead
    rw [← Except.ok.inj h]
    rw [atHead] at skipped
    exact skipped
  · cases h

/-- What stands at the place of the next member of an array or an object: the closing bracket, with
the text after it, or a member, with the text it begins. -/
inductive Member where
  | closed (rest : List Char)
  | starts (start : List Char)

/-- Find the next item of an array.  Every item but the first has a comma before it. -/
def nextItem (first : Bool) (text : List Char) : Except ReadError Member :=
  match skipBlanks text with
  | [] => .error .unfinished
  | ']' :: rest => .ok (.closed rest)
  | c :: rest =>
    if first then .ok (.starts (c :: rest))
    else if c = ',' then
      match skipBlanks rest with
      | [] => .error .unfinished
      | ']' :: _ => .error .malformed
      | start => .ok (.starts start)
    else .error .malformed

/-- Find the next field of an object; it starts after the opening quote of its key.  Every field but
the first has a comma before it. -/
def nextField (first : Bool) (text : List Char) : Except ReadError Member :=
  match skipBlanks text with
  | [] => .error .unfinished
  | '\x7d' :: rest => .ok (.closed rest)
  | c :: rest =>
    if first then
      if c = '"' then .ok (.starts rest) else .error .malformed
    else if c = ',' then
      match skipBlanks rest with
      | [] => .error .unfinished
      | '"' :: start => .ok (.starts start)
      | _ => .error .malformed
    else .error .malformed

theorem length_nextItem_starts {first : Bool} {text start : List Char}
    (h : nextItem first text = .ok (.starts start)) : start.length ≤ text.length := by
  have skipped := length_skipBlanks_le text
  unfold nextItem at h
  split at h
  · cases h
  · cases h
  · rename_i c rest _ atHead
    rw [atHead] at skipped
    split at h
    · cases h
      exact skipped
    · split at h
      · have again := length_skipBlanks_le rest
        split at h
        · cases h
        · cases h
        · cases h
          simp only [List.length_cons] at skipped
          omega
      · cases h

theorem length_nextItem_closed {first : Bool} {text rest : List Char}
    (h : nextItem first text = .ok (.closed rest)) : rest.length < text.length := by
  have skipped := length_skipBlanks_le text
  unfold nextItem at h
  split at h
  · cases h
  · rename_i later atHead
    cases h
    rw [atHead] at skipped
    exact skipped
  · split at h
    · cases h
    · split at h
      · split at h <;> cases h
      · cases h

theorem length_nextField_starts {first : Bool} {text start : List Char}
    (h : nextField first text = .ok (.starts start)) : start.length < text.length := by
  have skipped := length_skipBlanks_le text
  unfold nextField at h
  split at h
  · cases h
  · cases h
  · rename_i c rest _ atHead
    rw [atHead] at skipped
    split at h
    · split at h
      · cases h
        exact skipped
      · cases h
    · split at h
      · have again := length_skipBlanks_le rest
        split at h
        · cases h
        · rename_i atQuote
          cases h
          rw [atQuote] at again
          simp only [List.length_cons] at again skipped
          omega
        · cases h
      · cases h

theorem length_nextField_closed {first : Bool} {text rest : List Char}
    (h : nextField first text = .ok (.closed rest)) : rest.length < text.length := by
  have skipped := length_skipBlanks_le text
  unfold nextField at h
  split at h
  · cases h
  · rename_i later atHead
    cases h
    rw [atHead] at skipped
    exact skipped
  · split at h
    · split at h <;> cases h
    · split at h
      · split at h <;> cases h
      · cases h

end StatementLang.Json
