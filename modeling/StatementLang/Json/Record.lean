import StatementLang.Json.Reader

/-!
# Reading JSON Records

A record is an object with known fields in any order, among which unknown ones are skipped, or an
array of the values of its fields in their order.  Reading fills a draft field by field.  A known
field may come once only, and the draft must be complete at the end.
-/

namespace StatementLang.Json

/-- A field of a record that is read into a draft. -/
structure Field (Draft : Type) where
  key : String
  isFilled : Draft → Bool
  fill : Reader (Draft → Draft)

/-- A field whose value is kept in an optional part of the draft. -/
def Field.of {Draft α : Type} (key : String) (reader : Reader α) (part : Draft → Option α)
    (setPart : α → Draft → Draft) : Field Draft where
  key := key
  isFilled draft := (part draft).isSome
  fill := reader.map setPart

/-- The fields of a record, the draft to start from, and how a complete draft makes the record. -/
structure Schema (Draft α : Type) where
  fields : List (Field Draft)
  start : Draft
  finish? : Draft → Option α

namespace Schema

variable {Draft α : Type}

def field? (schema : Schema Draft α) (key : String) : Option (Field Draft) :=
  schema.fields.find? fun field ↦ field.key == key

/-- Read the value of the field with the given key into the draft. -/
def readValue (schema : Schema Draft α) (draft : Draft) (key : String) (text : List Char) :
    Except ReadError (Draft × List Char) :=
  match schema.field? key with
  | none => do
    let rest ← skipValue (← colon text)
    return (draft, rest)
  | some field =>
    if field.isFilled draft then .error .mismatched
    else do
      let (update, rest) ← field.fill.read (← colon text)
      return (update draft, rest)

theorem length_readValue {schema : Schema Draft α} {draft filled : Draft} {key : String}
    {text rest : List Char} (h : schema.readValue draft key text = .ok (filled, rest)) :
    rest.length < text.length := by
  unfold readValue at h
  split at h
  · obtain ⟨afterColon, colon_eq, h⟩ := bind_eq_ok_iff.mp h
    obtain ⟨afterValue, value_eq, h⟩ := bind_eq_ok_iff.mp h
    have first := length_colon colon_eq
    have second := length_skipValue value_eq
    rw [← (Prod.mk.inj (Except.ok.inj h)).2]
    omega
  · rename_i field _
    split at h
    · cases h
    · obtain ⟨afterColon, colon_eq, h⟩ := bind_eq_ok_iff.mp h
      obtain ⟨⟨update, afterValue⟩, value_eq, h⟩ := bind_eq_ok_iff.mp h
      have first := length_colon colon_eq
      have second := field.fill.shortens value_eq
      rw [← (Prod.mk.inj (Except.ok.inj h)).2]
      omega

def readFields (schema : Schema Draft α) (first : Bool) (draft : Draft) (text : List Char) :
    Reading Draft :=
  match _next : nextField first text with
  | .error error => .error error
  | .ok (.closed rest) => .ok (draft, rest)
  | .ok (.starts start) =>
    match _key : stringTail start with
    | .error error => .error error
    | .ok (key, afterKey) =>
      match _value : schema.readValue draft (String.ofList key) afterKey with
      | .error error => .error error
      | .ok (filled, rest) => readFields schema false filled rest
termination_by text.length
decreasing_by
  have started := length_nextField_starts _next
  have keyed := length_stringTail _key
  have valued := length_readValue _value
  omega

theorem length_readFields {schema : Schema Draft α} {first : Bool} {draft filled : Draft}
    {text rest : List Char} (h : schema.readFields first draft text = .ok (filled, rest)) :
    rest.length < text.length := by
  fun_induction readFields schema first draft text generalizing filled rest with
  | case1 => cases h
  | case2 first draft text later next_eq =>
    rw [← (Prod.mk.inj (Except.ok.inj h)).2]
    exact length_nextField_closed next_eq
  | case3 => cases h
  | case4 => cases h
  | case5 first draft text start next_eq key afterKey key_eq draft later value_eq ih =>
    have shorter := ih h
    have started := length_nextField_starts next_eq
    have keyed := length_stringTail key_eq
    have valued := length_readValue value_eq
    omega

/-- Read the values of the given fields from an array, up to its end. -/
def readInOrder (first : Bool) (draft : Draft) (fields : List (Field Draft)) (text : List Char) :
    Except ReadError (Draft × List Char) :=
  match fields with
  | [] => (Reader.readClosing ']' text).map fun rest ↦ (draft, rest)
  | field :: fields => do
    match ← nextItem first text with
    | .closed _ => throw .mismatched
    | .starts start =>
      let (update, rest) ← field.fill.read start
      readInOrder false (update draft) fields rest

theorem length_readInOrder {first : Bool} {draft filled : Draft} {fields : List (Field Draft)}
    {text rest : List Char} (h : readInOrder first draft fields text = .ok (filled, rest)) :
    rest.length < text.length := by
  induction fields generalizing first draft text with
  | nil =>
    obtain ⟨afterClosing, closing_eq, pair_eq⟩ := map_eq_ok_iff.mp h
    have shorter := Reader.length_readClosing closing_eq
    rw [← (Prod.mk.inj pair_eq).2]
    exact shorter
  | cons field fields ih =>
    rw [readInOrder] at h
    obtain ⟨member, next_eq, h⟩ := bind_eq_ok_iff.mp h
    cases member with
    | closed later => cases h
    | starts start =>
      obtain ⟨⟨update, afterValue⟩, value_eq, h⟩ := bind_eq_ok_iff.mp h
      have started := length_nextItem_starts next_eq
      have valued := field.fill.shortens value_eq
      have shorter := ih h
      omega

/-- Read the fields of a record in either form. -/
def readDraft (schema : Schema Draft α) (text : List Char) : Reading Draft :=
  match skipBlanks text with
  | '[' :: rest => readInOrder true schema.start schema.fields rest
  | '\x7b' :: rest => schema.readFields true schema.start rest
  | other => .error (misfit other)

theorem length_readDraft {schema : Schema Draft α} {text rest : List Char} {draft : Draft}
    (h : schema.readDraft text = .ok (draft, rest)) : rest.length < text.length := by
  have skipped := length_skipBlanks_le text
  unfold readDraft at h
  split at h
  · rename_i later atHead
    have shorter := length_readInOrder h
    rw [atHead, List.length_cons] at skipped
    omega
  · rename_i later atHead
    have shorter := length_readFields h
    rw [atHead, List.length_cons] at skipped
    omega
  · cases h

/-- The record that a draft makes; a draft that lacks a field is no record. -/
def finish (schema : Schema Draft α) (draft : Draft) : Except ReadError α :=
  match schema.finish? draft with
  | some record => .ok record
  | none => .error .mismatched

def reader (schema : Schema Draft α) : Reader α where
  read text :=
    match schema.readDraft text with
    | .error error => .error error
    | .ok (draft, rest) => (schema.finish draft).map fun record ↦ (record, rest)
  shortens := by
    intro text record rest h
    split at h
    · cases h
    · rename_i draft later draft_eq
      obtain ⟨finished, -, pair_eq⟩ := map_eq_ok_iff.mp h
      rw [← (Prod.mk.inj pair_eq).2]
      exact length_readDraft draft_eq

end Schema

end StatementLang.Json
