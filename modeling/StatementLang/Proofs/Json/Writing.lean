import StatementLang.Proofs.Json.Slots

/-!
# Written Documents Follow the Grammar

The text of a document, on one line or on indented lines, is JSON, and its value is the document.
-/

namespace StatementLang.Json

theorem head?_digits_ne_zero {number : Nat} (h : 0 < number) :
    (digits number).head? ≠ some '0' := by
  induction number using Nat.strongRecOn with
  | ind number ih =>
    unfold digits at ih ⊢
    by_cases hsmall : number < 10
    · rw [Nat.toDigits_of_lt_base hsmall]
      have all : ∀ digit : Fin 10, 0 < digit.val → digit.val.digitChar ≠ '0' := by decide
      exact fun hhead ↦ all ⟨number, hsmall⟩ h (Option.some.inj hhead)
    · have hshorter := ih (number / 10) (Nat.div_lt_self h (by decide)) (by omega)
      obtain ⟨c, others, hcons⟩ :=
        List.exists_cons_of_ne_nil (Nat.toDigits_ne_nil : Nat.toDigits 10 (number / 10) ≠ [])
      rw [hcons] at hshorter
      rw [Nat.toDigits_of_base_le (by decide) (Nat.not_lt.mp hsmall), hcons]
      exact hshorter

theorem isWhole_digits (number : Nat) : IsWhole (digits number) := by
  refine ⟨⟨Nat.toDigits_ne_nil, fun c ↦ Nat.isDigit_of_mem_toDigits (by decide) (by decide)⟩, ?_⟩
  intro hhead
  obtain rfl | hpos := Nat.eq_zero_or_pos number
  · rfl
  · exact absurd hhead (head?_digits_ne_zero hpos)

theorem ofDigits_digits (number : Nat) : ofDigits (digits number) = number :=
  Nat.ofDigitChars_ten_toDigits

def writtenPiece (c : Char) : Piece :=
  if c ∈ shortEscapes.map Prod.snd ∨ 0x20 ≤ c.toNat then .char c else .unit c.toNat

def pieces (text : String) : List Piece := text.toList.map writtenPiece

theorem decode_writtenPiece (c : Char) (later : List Piece) :
    decode (writtenPiece c :: later) = (decode later).map (c :: ·) := by
  unfold writtenPiece
  split
  · rfl
  · rename_i hcontrol
    have hsmall : c.toNat < 0xD800 := by
      rw [not_or, Nat.not_le] at hcontrol
      omega
    rw [decode_unit_of_plain (Or.inl hsmall), Char.ofNat_toNat]

theorem decode_map_writtenPiece (cs : List Char) : decode (cs.map writtenPiece) = some cs := by
  induction cs with
  | nil => rfl
  | cons c cs ih =>
    rw [List.map_cons, decode_writtenPiece, ih]
    rfl

theorem decode_pieces (text : String) : decode (pieces text) = some text.toList :=
  decode_map_writtenPiece text.toList

/-- A character is written by its short escape, by a numeric one, or as it is. -/
theorem escape_cases (c : Char) :
    (∃ letter, (letter, c) ∈ shortEscapes ∧ escape c = ['\\', letter]) ∨
    (c ∉ shortEscapes.map Prod.snd ∧ c.toNat < 0x20 ∧
      escape c = '\\' :: 'u' :: Text.fourHexadecimal c.toNat) ∨
    (c ≠ '"' ∧ c ≠ '\\' ∧ 0x20 ≤ c.toNat ∧ escape c = [c]) := by
  by_cases hshort : c ∈ ['"', '\\', '\x08', '\x0c', '\n', '\r', '\t']
  · left
    simp only [List.mem_cons, List.not_mem_nil, or_false] at hshort
    rcases hshort with rfl | rfl | rfl | rfl | rfl | rfl | rfl <;> exact ⟨_, by decide, rfl⟩
  · right
    simp only [List.mem_cons, List.not_mem_nil, or_false, not_or] at hshort
    obtain ⟨hquote, hbackslash, hbackspace, hfeed, hline, hreturn, htab⟩ := hshort
    have hescape : escape c =
        if c.toNat < 0x20 then '\\' :: 'u' :: Text.fourHexadecimal c.toNat else [c] := by
      rw [escape, if_neg hquote, if_neg hbackslash, if_neg hbackspace, if_neg hfeed, if_neg hline,
        if_neg hreturn, if_neg htab]
    by_cases hcontrol : c.toNat < 0x20
    · have hslash : c ≠ '/' := by
        rintro rfl
        exact absurd hcontrol (by decide)
      left
      exact ⟨by simp [shortEscapes, *], hcontrol, by rw [hescape, if_pos hcontrol]⟩
    · right
      exact ⟨hquote, hbackslash, Nat.not_lt.mp hcontrol, by rw [hescape, if_neg hcontrol]⟩

/-- The escape of a character is read back as the character. -/
theorem spellsString_escape {c : Char} {text rest : List Char} {later : List Piece}
    (h : SpellsString text later rest) :
    SpellsString (escape c ++ text) (writtenPiece c :: later) rest := by
  obtain ⟨letter, known, hescape⟩ | ⟨unknown, control, hescape⟩ |
    ⟨notQuote, notEscape, notControl, hescape⟩ := escape_cases c
  · have hpiece : writtenPiece c = .char c := if_pos (Or.inl (List.mem_map_of_mem known))
    rw [hescape, hpiece]
    exact .short known h
  · have hpiece : writtenPiece c = .unit c.toNat :=
      if_neg (not_or.mpr ⟨unknown, Nat.not_le.mpr control⟩)
    have hsmall : c.toNat < 65536 := by omega
    rw [hescape, hpiece]
    exact .numeric (Text.ofFourHexadecimal?_fourHexadecimal hsmall) h
  · have hpiece : writtenPiece c = .char c := if_pos (Or.inr notControl)
    rw [hescape, hpiece]
    exact .plain notQuote notEscape notControl h

theorem spellsString_flatMap_escape (cs rest : List Char) :
    SpellsString (cs.flatMap escape ++ '"' :: rest) (cs.map writtenPiece) rest := by
  induction cs with
  | nil => exact .closed
  | cons c cs ih =>
    rw [List.flatMap_cons, List.append_assoc]
    exact spellsString_escape ih

theorem spellsString_quoted (text : String) (rest : List Char) :
    ∃ tail, quoted text ++ rest = '"' :: tail ∧ SpellsString tail (pieces text) rest := by
  refine ⟨text.toList.flatMap escape ++ '"' :: rest, ?_, spellsString_flatMap_escape _ rest⟩
  simp [quoted]

namespace Document

mutual

/-- The value that a document is. -/
def toValue : Document → Value
  | bool flag => .bool flag
  | number count =>
    .number { negative := false, whole := digits count, fraction := none, exponent := none }
  | string text => .string (pieces text)
  | array items => .array (itemValues items)
  | object fields => .object (fieldEntries fields)

def itemValues : List Document → List Value
  | [] => []
  | item :: items => item.toValue :: itemValues items

def fieldEntries : List (String × Document) → List Entry
  | [] => []
  | (key, value) :: fields => (pieces key, value.toValue) :: fieldEntries fields

end

theorem isSome_decode_fieldEntries : ∀ fields : List (String × Document),
    ∀ entry ∈ fieldEntries fields, (decode entry.1).isSome = true
  | [] => by simp [fieldEntries]
  | (key, _) :: fields =>
    List.forall_mem_cons.mpr ⟨by rw [decode_pieces]; rfl, isSome_decode_fieldEntries fields⟩

mutual

theorem isEncoded_toValue : ∀ document : Document, document.toValue.IsEncoded
  | bool flag => .bool flag
  | number _ => .number _
  | string text => .string (by rw [decode_pieces]; rfl)
  | array items => .array (isEncoded_itemValues items)
  | object fields => .object (isSome_decode_fieldEntries fields) (isEncoded_fieldEntries fields)

theorem isEncoded_itemValues : ∀ items : List Document, ∀ value ∈ itemValues items, value.IsEncoded
  | [] => by simp [itemValues]
  | item :: items => List.forall_mem_cons.mpr ⟨isEncoded_toValue item, isEncoded_itemValues items⟩

theorem isEncoded_fieldEntries :
    ∀ fields : List (String × Document), ∀ entry ∈ fieldEntries fields, entry.2.IsEncoded
  | [] => by simp [fieldEntries]
  | (_, value) :: fields =>
    List.forall_mem_cons.mpr ⟨isEncoded_toValue value, isEncoded_fieldEntries fields⟩

end

/-! ## Written documents -/

section

variable {text rest : List Char}

theorem spells_items_behind_comma {value : Value} {items : List Value}
    (h : Spells text (.items true (value :: items)) rest) :
    Spells (',' :: text) (.items false (value :: items)) rest := by
  cases h with
  | item separated spelled later => exact .item ⟨text, blanks_refl _, separated⟩ spelled later

theorem spells_entries_behind_comma {entry : Entry} {entries : List Entry}
    (h : Spells text (.entries true (entry :: entries)) rest) :
    Spells (',' :: text) (.entries false (entry :: entries)) rest := by
  cases h with
  | entry separated named colon blank spelled later =>
    exact .entry ⟨text, blanks_refl _, separated⟩ named colon blank spelled later

/-- A written key and a value behind its colon are an entry. -/
theorem spells_entry_of_quoted {key : String} {afterColon start next : List Char} {value : Value}
    {entries : List Entry} (separated : Blanks text (quoted key ++ ':' :: afterColon))
    (blank : Blanks afterColon start) (spelled : Spells start (.value value) next)
    (later : Spells next (.entries false entries) rest) :
    Spells text (.entries true ((pieces key, value) :: entries)) rest := by
  obtain ⟨tail, htext, named⟩ := spellsString_quoted key (':' :: afterColon)
  rw [htext] at separated
  exact .entry separated named (blanks_refl _) blank spelled later

theorem blanks_newLine (depth : Nat) (text : List Char) : Blanks (newLine depth ++ text) text := by
  refine ⟨newLine depth, rfl, fun c hmem ↦ ?_⟩
  obtain rfl | hspace := List.mem_cons.mp hmem
  · rfl
  · rw [(List.mem_replicate.mp hspace).2]
    rfl

theorem spells_string (text : String) (rest : List Char) :
    Spells (quoted text ++ rest) (.value (.string (pieces text))) rest := by
  obtain ⟨tail, htext, spelled⟩ := spellsString_quoted text rest
  rw [htext]
  exact .string spelled

theorem spells_number (count : Nat) (rest : List Char) :
    Spells (digits count ++ rest) (.value (number count).toValue) rest :=
  .number (.of_isWhole (isWhole_digits count))

end

mutual

/-- A document on one line is written as its value. -/
theorem spells_compact : ∀ (document : Document) (rest : List Char),
    Spells (document.compact ++ rest) (.value document.toValue) rest
  | bool flag, _ => .bool flag
  | number count, rest => spells_number count rest
  | string text, rest => spells_string text rest
  | array items, rest => by
    have spelled := spells_compactItems items rest
    rw [compact, List.cons_append, List.cons_append, List.append_assoc]
    exact .array spelled
  | object fields, rest => by
    have spelled := spells_compactFields fields rest
    rw [compact, List.cons_append, List.cons_append, List.append_assoc]
    exact .object spelled

theorem spells_compactItems : ∀ (items : List Document) (rest : List Char),
    Spells (compactItems items ++ ']' :: rest) (.items true (itemValues items)) rest
  | [], _ => .noItem (blanks_refl _)
  | [item], _ => .item (blanks_refl _) (spells_compact item _) (.noItem (blanks_refl _))
  | item :: next :: items, rest => by
    have later := spells_items_behind_comma (spells_compactItems (next :: items) rest)
    rw [compactItems, List.append_assoc]
    · exact .item (blanks_refl _) (spells_compact item _) later
    · simp

theorem spells_compactFields : ∀ (fields : List (String × Document)) (rest : List Char),
    Spells (compactFields fields ++ '\x7d' :: rest) (.entries true (fieldEntries fields)) rest
  | [], _ => .noEntry (blanks_refl _)
  | [(key, value)], rest => by
    rw [compactFields, List.append_assoc]
    exact spells_entry_of_quoted (blanks_refl _) (blanks_refl _) (spells_compact value _)
      (.noEntry (blanks_refl _))
  | (key, value) :: field :: fields, rest => by
    have later := spells_entries_behind_comma (spells_compactFields (field :: fields) rest)
    rw [compactFields, List.append_assoc, List.append_assoc]
    · exact spells_entry_of_quoted (blanks_refl _) (blanks_refl _) (spells_compact value _) later
    · simp

end

mutual

/-- A document on indented lines is written as its value. -/
theorem spells_pretty : ∀ (depth : Nat) (document : Document) (rest : List Char),
    Spells (document.pretty depth ++ rest) (.value document.toValue) rest
  | _, bool flag, _ => .bool flag
  | _, number count, rest => spells_number count rest
  | _, string text, rest => spells_string text rest
  | _, array [], _ => .array (.noItem (blanks_refl _))
  | depth, array (item :: items), rest => by
    have spelled := spells_prettyItems (depth + 1) (item :: items)
      (blanks_newLine depth (']' :: rest))
    rw [pretty, List.cons_append, List.cons_append, List.cons_append, List.append_assoc,
      List.append_assoc]
    exact .array spelled
  | _, object [], _ => .object (.noEntry (blanks_refl _))
  | depth, object (field :: fields), rest => by
    have spelled := spells_prettyFields (depth + 1) (field :: fields)
      (blanks_newLine depth ('\x7d' :: rest))
    rw [pretty, List.cons_append, List.cons_append, List.cons_append, List.append_assoc,
      List.append_assoc]
    exact .object spelled

theorem spells_prettyItems : ∀ (depth : Nat) (items : List Document) {closing rest : List Char},
    Blanks closing (']' :: rest) →
      Spells (prettyItems depth items ++ closing) (.items true (itemValues items)) rest
  | _, [], _, _, hclosing => .noItem hclosing
  | depth, [item], closing, _, hclosing => by
    rw [prettyItems, List.append_assoc]
    exact .item (blanks_newLine depth _) (spells_pretty depth item closing) (.noItem hclosing)
  | depth, item :: next :: items, closing, _, hclosing => by
    have later := spells_items_behind_comma (spells_prettyItems depth (next :: items) hclosing)
    rw [prettyItems, List.append_assoc, List.append_assoc]
    · exact .item (blanks_newLine depth _) (spells_pretty depth item _) later
    · simp

theorem spells_prettyFields : ∀ (depth : Nat) (fields : List (String × Document))
    {closing rest : List Char}, Blanks closing ('\x7d' :: rest) →
      Spells (prettyFields depth fields ++ closing) (.entries true (fieldEntries fields)) rest
  | _, [], _, _, hclosing => .noEntry hclosing
  | depth, [(key, value)], closing, _, hclosing => by
    rw [prettyFields, List.append_assoc, List.append_assoc]
    exact spells_entry_of_quoted (blanks_newLine depth _) (blanks_cons rfl _)
      (spells_pretty depth value closing) (.noEntry hclosing)
  | depth, (key, value) :: field :: fields, closing, _, hclosing => by
    have later := spells_entries_behind_comma
      (spells_prettyFields depth (field :: fields) hclosing)
    rw [prettyFields, List.append_assoc, List.append_assoc, List.append_assoc]
    · exact spells_entry_of_quoted (blanks_newLine depth _) (blanks_cons rfl _)
        (spells_pretty depth value _) later
    · simp

end

/-- The text of a document on one line is JSON. -/
theorem isJson_toCompactString (document : Document) :
    IsJson document.toCompactString.toList document.toValue := by
  have spelled := spells_compact document []
  rw [List.append_nil] at spelled
  rw [toCompactString, String.toList_ofList]
  exact ⟨_, [], blanks_refl _, spelled, blanks_refl _⟩

/-- The text of a document on indented lines is JSON. -/
theorem isJson_toPrettyString (document : Document) :
    IsJson document.toPrettyString.toList document.toValue := by
  have spelled := spells_pretty 0 document []
  rw [List.append_nil] at spelled
  rw [toPrettyString, String.toList_ofList]
  exact ⟨_, [], blanks_refl _, spelled, blanks_refl _⟩

theorem itemValues_eq_map (items : List Document) : itemValues items = items.map toValue := by
  induction items with
  | nil => rfl
  | cons item items ih => rw [itemValues, ih, List.map_cons]

theorem text?_toValue (text : String) : (string text).toValue.text? = some text := by
  rw [toValue, Value.text?, decode_pieces, Option.map_some, String.ofList_toList]

theorem count?_toValue {count : Nat} (h : count < Nat.pow 2 64) :
    (number count).toValue.count? = some count := by
  have hfits : count ≤ maxCount := Nat.le_of_lt_succ (by rwa [Nat.succ_eq_add_one, maxCount_succ])
  exact count?_eq_some_iff.mpr ⟨digits count, rfl, ofDigits_digits count, hfits⟩

theorem mapM_map_eq_some {α β γ : Type} {f : α → Option β} {g : γ → α} {h : γ → β} {items : List γ}
    (heach : ∀ item ∈ items, f (g item) = some (h item)) :
    (items.map g).mapM f = some (items.map h) := by
  induction items with
  | nil => rfl
  | cons item items ih =>
    obtain ⟨hitem, hitems⟩ := List.forall_mem_cons.mp heach
    exact mapM_cons_eq_some_iff.mpr ⟨_, _, hitem, ih hitems, rfl⟩

theorem under_fieldEntries_of_not_mem {fields : List (String × Document)} {key : String}
    (h : key ∉ fields.map Prod.fst) : Value.under (fieldEntries fields) key = [] := by
  induction fields with
  | nil => rfl
  | cons field fields ih =>
    rw [List.map_cons, List.mem_cons, not_or] at h
    have hother : decode (pieces field.1) ≠ some key.toList := by
      rw [decode_pieces]
      exact fun hsame ↦ h.1 (String.toList_injective (Option.some.inj hsame)).symm
    rw [fieldEntries, under_cons_of_other hother]
    exact ih h.2

/-- Under the name of a field stands its value alone. -/
theorem under_fieldEntries_of_mem {fields : List (String × Document)}
    (hnodup : (fields.map Prod.fst).Nodup) {field : String × Document} (h : field ∈ fields) :
    Value.under (fieldEntries fields) field.1 = [field.2.toValue] := by
  induction fields with
  | nil => cases h
  | cons head fields ih =>
    obtain ⟨hfresh, hnodup⟩ := List.nodup_cons.mp hnodup
    obtain rfl | hmem := List.mem_cons.mp h
    · rw [fieldEntries, under_cons_of_named (decode_pieces field.1),
        under_fieldEntries_of_not_mem hfresh]
    · have hother : decode (pieces head.1) ≠ some field.1.toList := by
        rw [decode_pieces]
        intro hsame
        rw [String.toList_injective (Option.some.inj hsame)] at hfresh
        exact hfresh (List.mem_map_of_mem hmem)
      rw [fieldEntries, under_cons_of_other hother]
      exact ih hnodup hmem

theorem fields?_toValue {fields : List (String × Document)}
    (hnodup : (fields.map Prod.fst).Nodup) :
    (object fields).toValue.fields? (fields.map Prod.fst) =
      some (fields.map fun field ↦ field.2.toValue) :=
  mapM_map_eq_some fun _ hmem ↦ only?_eq_some_iff.mpr (under_fieldEntries_of_mem hnodup hmem)

theorem list?_toValue {α : Type} {ofValue? : Value → Option α} {document : α → Document}
    {items : List α} (h : ∀ item ∈ items, ofValue? (document item).toValue = some item) :
    (array (items.map document)).toValue.list? ofValue? = some items := by
  have hitems : ((items.map document).map toValue).mapM ofValue? = some (items.map id) := by
    rw [List.map_map]
    exact mapM_map_eq_some h
  rw [toValue, Value.list?, itemValues_eq_map, hitems, List.map_id]

end Document

end StatementLang.Json
