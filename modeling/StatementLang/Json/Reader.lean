import StatementLang.Json.Skip

/-!
# Reading Typed JSON Values

A reader takes a value of one kind from the front of a text.  Where a value of another kind stands,
that value is read as far as its first character promises before it is called mismatched, so that a
fault inside it comes first.
-/

namespace StatementLang.Json

/-- A way of reading a value, which always takes a part of the text. -/
structure Reader (α : Type) where
  read : List Char → Reading α
  shortens : ∀ {text value rest}, read text = .ok (value, rest) → rest.length < text.length

/-- The error of a value that was read although another kind was wanted. -/
def mismatch {α : Type} : Except ReadError α → ReadError
  | .ok _ => .mismatched
  | .error error => error

/-- The error of a text whose next value is not of the wanted kind. -/
def misfit (text : List Char) : ReadError :=
  match text with
  | [] => .unfinished
  | 'n' :: rest => mismatch (literal ['u', 'l', 'l'] rest)
  | 't' :: rest => mismatch (literal ['r', 'u', 'e'] rest)
  | 'f' :: rest => mismatch (literal ['a', 'l', 's', 'e'] rest)
  | '"' :: rest => mismatch (stringTail rest)
  | '[' :: _ => .mismatched
  | '\x7b' :: _ => .mismatched
  | c :: rest => if c = '-' ∨ c.isDigit then mismatch (count? (c :: rest)) else .malformed

namespace Reader

def map {α β : Type} (f : α → β) (reader : Reader α) : Reader β where
  read text := (reader.read text).map fun (value, rest) ↦ (f value, rest)
  shortens := by
    intro text value rest h
    obtain ⟨⟨inner, afterInner⟩, inner_eq, pair_eq⟩ := map_eq_ok_iff.mp h
    rw [← (Prod.mk.inj pair_eq).2]
    exact reader.shortens inner_eq

def readBool (text : List Char) : Reading Bool :=
  match skipBlanks text with
  | 't' :: rest => (literal ['r', 'u', 'e'] rest).map fun rest ↦ (true, rest)
  | 'f' :: rest => (literal ['a', 'l', 's', 'e'] rest).map fun rest ↦ (false, rest)
  | other => .error (misfit other)

theorem length_readBool {text rest : List Char} {value : Bool}
    (h : readBool text = .ok (value, rest)) : rest.length < text.length := by
  have skipped := length_skipBlanks_le text
  unfold readBool at h
  split at h
  · rename_i later atHead
    obtain ⟨after, after_eq, pair_eq⟩ := map_eq_ok_iff.mp h
    have shorter := length_literal after_eq
    rw [atHead, List.length_cons] at skipped
    rw [← (Prod.mk.inj pair_eq).2]
    omega
  · rename_i later atHead
    obtain ⟨after, after_eq, pair_eq⟩ := map_eq_ok_iff.mp h
    have shorter := length_literal after_eq
    rw [atHead, List.length_cons] at skipped
    rw [← (Prod.mk.inj pair_eq).2]
    omega
  · cases h

def bool : Reader Bool := { read := readBool, shortens := length_readBool }

def readCount (text : List Char) : Reading Nat :=
  match skipBlanks text with
  | [] => .error .unfinished
  | c :: rest =>
    if c = '-' ∨ c.isDigit then
      match count? (c :: rest) with
      | .ok (some count, rest) => .ok (count, rest)
      | .ok (none, _) => .error .mismatched
      | .error error => .error error
    else .error (misfit (c :: rest))

theorem length_readCount {text rest : List Char} {value : Nat}
    (h : readCount text = .ok (value, rest)) : rest.length < text.length := by
  have skipped := length_skipBlanks_le text
  unfold readCount at h
  split at h
  · cases h
  · rename_i c later atHead
    rw [atHead] at skipped
    split at h
    · split at h
      · rename_i count after count_eq
        have shorter := length_count? count_eq
        rw [← (Prod.mk.inj (Except.ok.inj h)).2]
        omega
      · cases h
      · cases h
    · cases h

def count : Reader Nat := { read := readCount, shortens := length_readCount }

def readString (text : List Char) : Reading String :=
  match skipBlanks text with
  | '"' :: rest => (stringTail rest).map fun (cs, rest) ↦ (String.ofList cs, rest)
  | other => .error (misfit other)

theorem length_readString {text rest : List Char} {value : String}
    (h : readString text = .ok (value, rest)) : rest.length < text.length := by
  have skipped := length_skipBlanks_le text
  unfold readString at h
  split at h
  · rename_i later atHead
    obtain ⟨⟨cs, after⟩, after_eq, pair_eq⟩ := map_eq_ok_iff.mp h
    have shorter := length_stringTail after_eq
    rw [atHead, List.length_cons] at skipped
    rw [← (Prod.mk.inj pair_eq).2]
    omega
  · cases h

def string : Reader String := { read := readString, shortens := length_readString }

def readNull (text : List Char) : Except ReadError (List Char) :=
  match skipBlanks text with
  | 'n' :: rest => literal ['u', 'l', 'l'] rest
  | other => .error (misfit other)

theorem length_readNull {text rest : List Char} (h : readNull text = .ok rest) :
    rest.length < text.length := by
  have skipped := length_skipBlanks_le text
  unfold readNull at h
  split at h
  · rename_i later atHead
    have shorter := length_literal h
    rw [atHead, List.length_cons] at skipped
    omega
  · cases h

/-- Read the end of an array or an object that must not hold any more. -/
def readClosing (bracket : Char) (text : List Char) : Except ReadError (List Char) :=
  match skipBlanks text with
  | [] => .error .unfinished
  | c :: rest => if c = bracket then .ok rest else .error .malformed

theorem length_readClosing {bracket : Char} {text rest : List Char}
    (h : readClosing bracket text = .ok rest) : rest.length < text.length := by
  have skipped := length_skipBlanks_le text
  unfold readClosing at h
  split at h
  · cases h
  · rename_i c later atHead
    split at h
    · rw [atHead, List.length_cons] at skipped
      rw [← Except.ok.inj h]
      omega
    · cases h

/-- Read a string where no other value may stand. -/
def readLabel (text : List Char) : Reading String :=
  match skipBlanks text with
  | [] => .error .unfinished
  | '"' :: rest => (stringTail rest).map fun (cs, rest) ↦ (String.ofList cs, rest)
  | _ => .error .malformed

theorem length_readLabel {text rest : List Char} {label : String}
    (h : readLabel text = .ok (label, rest)) : rest.length < text.length := by
  have skipped := length_skipBlanks_le text
  unfold readLabel at h
  split at h
  · cases h
  · rename_i later atHead
    obtain ⟨⟨cs, after⟩, after_eq, pair_eq⟩ := map_eq_ok_iff.mp h
    have shorter := length_stringTail after_eq
    rw [atHead, List.length_cons] at skipped
    rw [← (Prod.mk.inj pair_eq).2]
    omega
  · cases h

def knownLabel {α : Type} (ofLabel? : String → Option α) (label : String) : Except ReadError α :=
  match ofLabel? label with
  | some value => .ok value
  | none => .error .mismatched

/-- Read one of several labels: a string, or an object whose only key is the label and whose content
is null.  As the key of any object, the label must be a string: a key of another kind is malformed
at its first character, even if it is cut short. -/
def readChoice {α : Type} (ofLabel? : String → Option α) (text : List Char) :
    Except ReadError (α × List Char) :=
  match skipBlanks text with
  | '\x7b' :: rest => do
    let (label, rest) ← readLabel rest
    let value ← knownLabel ofLabel? label
    let rest ← colon rest
    let rest ← readNull rest
    let rest ← readClosing '\x7d' rest
    return (value, rest)
  | other => do
    let (label, rest) ← readLabel other
    let value ← knownLabel ofLabel? label
    return (value, rest)

theorem length_readChoice {α : Type} {ofLabel? : String → Option α} {text rest : List Char}
    {value : α} (h : readChoice ofLabel? text = .ok (value, rest)) : rest.length < text.length := by
  have skipped := length_skipBlanks_le text
  unfold readChoice at h
  split at h
  · rename_i later atHead
    rw [atHead, List.length_cons] at skipped
    obtain ⟨⟨label, afterLabel⟩, label_eq, h⟩ := bind_eq_ok_iff.mp h
    obtain ⟨known, -, h⟩ := bind_eq_ok_iff.mp h
    obtain ⟨afterColon, colon_eq, h⟩ := bind_eq_ok_iff.mp h
    obtain ⟨afterNull, null_eq, h⟩ := bind_eq_ok_iff.mp h
    obtain ⟨afterClosing, closing_eq, h⟩ := bind_eq_ok_iff.mp h
    have first := length_readLabel label_eq
    have second := length_colon colon_eq
    have third := length_readNull null_eq
    have fourth := length_readClosing closing_eq
    rw [← (Prod.mk.inj (Except.ok.inj h)).2]
    omega
  · obtain ⟨⟨label, afterLabel⟩, label_eq, h⟩ := bind_eq_ok_iff.mp h
    obtain ⟨known, -, h⟩ := bind_eq_ok_iff.mp h
    have shorter := length_readLabel label_eq
    rw [← (Prod.mk.inj (Except.ok.inj h)).2]
    omega

def choice {α : Type} (ofLabel? : String → Option α) : Reader α :=
  { read := readChoice ofLabel?, shortens := length_readChoice }

def readItems {α : Type} (item : Reader α) (first : Bool) (text : List Char) : Reading (List α) :=
  match _next : nextItem first text with
  | .error error => .error error
  | .ok (.closed rest) => .ok ([], rest)
  | .ok (.starts start) =>
    match _item : item.read start with
    | .error error => .error error
    | .ok (value, rest) =>
      (readItems item false rest).map fun (values, rest) ↦ (value :: values, rest)
termination_by text.length
decreasing_by exact Nat.lt_of_lt_of_le (item.shortens _item) (length_nextItem_starts _next)

theorem length_readItems {α : Type} {item : Reader α} {first : Bool} {text rest : List Char}
    {values : List α} (h : readItems item first text = .ok (values, rest)) :
    rest.length < text.length := by
  fun_induction readItems item first text generalizing values rest with
  | case1 => cases h
  | case2 first text later next_eq =>
    rw [← (Prod.mk.inj (Except.ok.inj h)).2]
    exact length_nextItem_closed next_eq
  | case3 => cases h
  | case4 first text start next_eq value later item_eq ih =>
    obtain ⟨⟨others, afterOthers⟩, others_eq, pair_eq⟩ := map_eq_ok_iff.mp h
    have shorter := ih others_eq
    have started := length_nextItem_starts next_eq
    have taken := item.shortens item_eq
    rw [← (Prod.mk.inj pair_eq).2]
    omega

def readList {α : Type} (item : Reader α) (text : List Char) : Reading (List α) :=
  match skipBlanks text with
  | '[' :: rest => readItems item true rest
  | other => .error (misfit other)

theorem length_readList {α : Type} {item : Reader α} {text rest : List Char} {values : List α}
    (h : readList item text = .ok (values, rest)) : rest.length < text.length := by
  have skipped := length_skipBlanks_le text
  unfold readList at h
  split at h
  · rename_i later atHead
    have shorter := length_readItems h
    rw [atHead, List.length_cons] at skipped
    omega
  · cases h

def list {α : Type} (item : Reader α) : Reader (List α) :=
  { read := readList item, shortens := length_readList }

/-- Read a whole text as one value; only blanks may follow it. -/
def readText {α : Type} (reader : Reader α) (text : String) : Except ReadError α := do
  let (value, rest) ← reader.read text.toList
  match skipBlanks rest with
  | [] => return value
  | _ => throw .malformed

end Reader

end StatementLang.Json
