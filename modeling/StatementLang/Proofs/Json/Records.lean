import StatementLang.Proofs.Json.Skipping
import StatementLang.Proofs.Json.Slots

/-!
# Records Follow the Grammar

A record is read from the texts of an object or an array exactly when the entries or the items fill
a complete draft.  Spacing, the spelling of keys, the order of the entries and what stands under
unknown keys do not matter.
-/

namespace StatementLang.Json

variable {Draft α : Type} {schema : Schema Draft α} {slots : List (Slot Draft)}

/-- The fields of a record are the slots of its draft, which starts empty and is complete at the
end. -/
structure Schema.LaidOut (schema : Schema Draft α) (slots : List (Slot Draft)) : Prop where
  fields_eq : schema.fields = slots.map Slot.field
  independent : Independent slots
  start_empty : ∀ slot ∈ slots, slot.part schema.start = none
  finish_full : ∀ draft record, schema.finish? draft = some record →
    ∀ slot ∈ slots, (slot.part draft).isSome = true

def Schema.meaning? (schema : Schema Draft α) (slots : List (Slot Draft)) (value : Value) :
    Option α := do
  let values ← value.fields? (slots.map Slot.key)
  let draft ← fillItems? schema.start slots values
  schema.finish? draft

theorem Slot.read_field_eq_ok_iff {slot : Slot Draft} {text rest : List Char}
    {update : Draft → Draft} :
    slot.field.fill.read text = .ok (update, rest) ↔
      ∃ found, slot.reader.read text = .ok (found, rest) ∧ slot.setPart found = update := by
  change (slot.reader.read text).map (fun (found, rest) ↦ (slot.setPart found, rest)) = _ ↔ _
  rw [map_eq_ok_iff]
  constructor
  · rintro ⟨⟨found, later⟩, hread, hpair⟩
    obtain ⟨rfl, rfl⟩ := Prod.mk.inj hpair
    exact ⟨found, hread, rfl⟩
  · rintro ⟨found, hread, rfl⟩
    exact ⟨(found, rest), hread, rfl⟩

section

variable {draft filled : Draft} {key : List Piece} {cs text rest : List Char}

theorem field?_eq_map_slotOf? (laid : schema.LaidOut slots) (decoded : decode key = some cs) :
    schema.field? (String.ofList cs) = (slotOf? slots key).map Slot.field := by
  have hnames : (fun slot : Slot Draft ↦ slot.field.key == String.ofList cs) =
      fun slot ↦ decode key == some slot.key.toList := by
    funext slot
    rw [decoded, Bool.eq_iff_iff, beq_iff_eq, beq_iff_eq]
    constructor
    · intro h
      rw [show slot.key = String.ofList cs from h, String.toList_ofList]
    · intro h
      rw [Option.some.inj h, String.ofList_toList]
      rfl
  rw [Schema.field?, laid.fields_eq, List.find?_map, slotOf?, ← hnames]
  rfl

/-- What is read under a key is a value that fills the draft. -/
theorem fillOne?_of_readValue (laid : schema.LaidOut slots) (decoded : decode key = some cs)
    (h : schema.readValue draft (String.ofList cs) text = .ok (filled, rest)) :
    ∃ afterColon start value, Blanks text (':' :: afterColon) ∧ Blanks afterColon start ∧
      Spells start (.value value) rest ∧ fillOne? slots draft (key, value) = some filled := by
  unfold Schema.readValue at h
  rw [field?_eq_map_slotOf? laid decoded] at h
  cases hnamed : slotOf? slots key with
  | none =>
    simp only [hnamed, Option.map_none] at h
    obtain ⟨afterColon, hcolon, h⟩ := bind_eq_ok_iff.mp h
    obtain ⟨afterValue, hvalue, hpair⟩ := bind_eq_ok_iff.mp h
    obtain ⟨rfl, rfl⟩ := Prod.mk.inj (Except.ok.inj hpair)
    obtain ⟨start, value, blank, spelled⟩ := exists_spells_of_skipValue hvalue
    refine ⟨afterColon, start, value, colon_eq_ok_iff.mp hcolon, blank, spelled, ?_⟩
    rw [fillOne?, hnamed]
  | some slot =>
    simp only [hnamed, Option.map_some] at h
    split at h
    · cases h
    · rename_i hempty
      obtain ⟨afterColon, hcolon, h⟩ := bind_eq_ok_iff.mp h
      obtain ⟨⟨update, afterValue⟩, hvalue, hpair⟩ := bind_eq_ok_iff.mp h
      obtain ⟨rfl, rfl⟩ := Prod.mk.inj (Except.ok.inj hpair)
      obtain ⟨found, hfound, rfl⟩ := Slot.read_field_eq_ok_iff.mp hvalue
      obtain ⟨start, value, blank, spelled, meant⟩ := slot.reads.sound hfound
      refine ⟨afterColon, start, value, colon_eq_ok_iff.mp hcolon, blank, spelled, ?_⟩
      simp only [fillOne?, hnamed, Slot.fill?, meant]
      exact if_neg hempty

/-- A value that fills the draft is read under its key. -/
theorem readValue_of_fillOne? (laid : schema.LaidOut slots) (decoded : decode key = some cs)
    {afterColon start : List Char} {value : Value} (hcolon : Blanks text (':' :: afterColon))
    (blank : Blanks afterColon start) (spelled : Spells start (.value value) rest)
    (encoded : value.IsEncoded) (hrest : Follows rest)
    (h : fillOne? slots draft (key, value) = some filled) :
    schema.readValue draft (String.ofList cs) text = .ok (filled, rest) := by
  have hread := colon_eq_ok_iff.mpr hcolon
  unfold fillOne? at h
  unfold Schema.readValue
  rw [field?_eq_map_slotOf? laid decoded]
  cases hnamed : slotOf? slots key with
  | none =>
    simp only [hnamed] at h
    obtain rfl := Option.some.inj h
    exact bind_eq_ok_iff.mpr ⟨afterColon, hread,
      bind_eq_ok_iff.mpr ⟨rest, skipValue_of_spells blank spelled hrest, rfl⟩⟩
  | some slot =>
    simp only [hnamed, Slot.fill?] at h
    split at h
    · cases h
    · rename_i hempty
      obtain ⟨found, meant, rfl⟩ := Option.map_eq_some_iff.mp h
      have hvalue := slot.reads.complete blank spelled encoded meant hrest
      have hfill := Slot.read_field_eq_ok_iff.mpr ⟨found, hvalue, rfl⟩
      simp only [Option.map_some]
      rw [if_neg (show ¬ slot.field.isFilled draft = true from hempty)]
      exact bind_eq_ok_iff.mpr ⟨afterColon, hread,
        bind_eq_ok_iff.mpr ⟨(slot.setPart found, rest), hfill, rfl⟩⟩

end

section

variable {first : Bool} {draft filled : Draft} {text rest : List Char}

/-- Fields are read one after the other up to the end of the object. -/
theorem readFields_eq (first : Bool) (draft : Draft) (text : List Char) :
    schema.readFields first draft text = nextField first text >>= fun member ↦
      match member with
      | .closed rest => .ok (draft, rest)
      | .starts start => stringTail start >>= fun (key, afterKey) ↦
        schema.readValue draft (String.ofList key) afterKey >>= fun (filled, rest) ↦
          schema.readFields false filled rest := by
  rw [Schema.readFields]
  split
  · simp_all [bind, Except.bind]
  · simp_all [bind, Except.bind]
  · rename_i hnext
    simp only [hnext, bind, Except.bind]
    split
    · simp_all
    · rename_i hkey
      simp only [hkey]
      split <;> simp_all

theorem readFields_of_closed (h : nextField first text = .ok (.closed rest)) :
    schema.readFields first draft text = .ok (draft, rest) := by
  rw [readFields_eq, h]
  rfl

theorem readFields_of_starts {middle : Draft} {start key afterKey next : List Char}
    (hnext : nextField first text = .ok (.starts start))
    (hkey : stringTail start = .ok (key, afterKey))
    (hvalue : schema.readValue draft (String.ofList key) afterKey = .ok (middle, next)) :
    schema.readFields first draft text = schema.readFields false middle next := by
  rw [readFields_eq, hnext]
  simp only [bind, Except.bind, hkey, hvalue]

/-- The fields that are read are entries of the grammar that fill the draft. -/
theorem exists_spells_of_readFields (laid : schema.LaidOut slots)
    (h : schema.readFields first draft text = .ok (filled, rest)) :
    ∃ entries, Spells text (.entries first entries) rest ∧
      fillEntries? slots draft entries = some filled := by
  fun_induction Schema.readFields schema first draft text generalizing filled rest with
  | case1 => cases h
  | case2 first draft text later next_eq =>
    obtain ⟨rfl, rfl⟩ := Prod.mk.inj (Except.ok.inj h)
    exact ⟨[], .noEntry (nextField_eq_closed_iff.mp next_eq), rfl⟩
  | case3 => cases h
  | case4 => cases h
  | case5 first draft text start next_eq key afterKey key_eq middle later value_eq ih =>
    obtain ⟨entries, others, hothers⟩ := ih h
    obtain ⟨pieces, named, decoded⟩ := exists_spellsString_of_stringTail key_eq
    obtain ⟨afterColon, valueStart, value, hcolon, blank, spelled, hmiddle⟩ :=
      fillOne?_of_readValue laid decoded value_eq
    exact ⟨(pieces, value) :: entries,
      .entry (separates_of_nextField next_eq) named hcolon blank spelled others,
      Option.bind_eq_some_iff.mpr ⟨middle, hmiddle, hothers⟩⟩

/-- Entries of the grammar that fill the draft are read. -/
theorem readFields_of_spells (laid : schema.LaidOut slots) {entries : List Entry}
    (spelled : Spells text (.entries first entries) rest)
    (keys : ∀ entry ∈ entries, (decode entry.1).isSome = true)
    (encoded : ∀ entry ∈ entries, entry.2.IsEncoded)
    (h : fillEntries? slots draft entries = some filled) :
    schema.readFields first draft text = .ok (filled, rest) := by
  induction entries generalizing first draft text with
  | nil =>
    obtain rfl := Option.some.inj h
    cases spelled with
    | noEntry closing => exact readFields_of_closed (nextField_eq_closed_iff.mpr closing)
  | cons entry entries ih =>
    obtain ⟨middle, hmiddle, hlater⟩ := Option.bind_eq_some_iff.mp h
    obtain ⟨hkey, hkeys⟩ := List.forall_mem_cons.mp keys
    obtain ⟨hvalue, hvalues⟩ := List.forall_mem_cons.mp encoded
    obtain ⟨cs, decoded⟩ := Option.isSome_iff_exists.mp hkey
    cases spelled with
    | entry separated named hcolon blank spelled later =>
      have hread := readValue_of_fillOne? laid decoded hcolon blank spelled hvalue
        later.follows_entries hmiddle
      rw [readFields_of_starts (nextField_of_separates separated)
        (stringTail_of_spellsString named decoded) hread]
      exact ih later hkeys hvalues hlater

/-- The items that are read fill the draft in the order of the slots. -/
theorem exists_spells_of_readInOrder {chosen : List (Slot Draft)}
    (h : Schema.readInOrder first draft (chosen.map Slot.field) text = .ok (filled, rest)) :
    ∃ items, Spells text (.items first items) rest ∧ items.length = chosen.length ∧
      fillItems? draft chosen items = some filled := by
  induction chosen generalizing first draft text with
  | nil =>
    obtain ⟨later, hclosing, hpair⟩ := map_eq_ok_iff.mp h
    obtain ⟨rfl, rfl⟩ := Prod.mk.inj hpair
    exact ⟨[], .noItem ((readClosing_eq_ok_iff (by decide)).mp hclosing), rfl, rfl⟩
  | cons slot chosen ih =>
    rw [List.map_cons, Schema.readInOrder] at h
    obtain ⟨member, hnext, h⟩ := bind_eq_ok_iff.mp h
    cases member with
    | closed later => cases h
    | starts start =>
      obtain ⟨⟨update, afterValue⟩, hvalue, hlater⟩ := bind_eq_ok_iff.mp h
      obtain ⟨found, hfound, rfl⟩ := Slot.read_field_eq_ok_iff.mp hvalue
      obtain ⟨valueStart, value, blank, spelled, meant⟩ := slot.reads.sound hfound
      obtain ⟨items, others, hlength, hitems⟩ := ih hlater
      exact ⟨value :: items,
        .item ((separates_of_nextItem hnext).trans blank) spelled others,
        congrArg Nat.succ hlength, Option.bind_eq_some_iff.mpr ⟨found, meant, hitems⟩⟩

/-- Items that fill the draft in the order of the slots are read. -/
theorem readInOrder_of_spells {chosen : List (Slot Draft)} {items : List Value}
    (spelled : Spells text (.items first items) rest) (encoded : ∀ item ∈ items, item.IsEncoded)
    (h : fillItems? draft chosen items = some filled) :
    Schema.readInOrder first draft (chosen.map Slot.field) text = .ok (filled, rest) := by
  induction chosen generalizing first draft text items with
  | nil =>
    cases items with
    | nil =>
      obtain rfl := Option.some.inj h
      cases spelled with
      | noItem closing =>
        exact map_eq_ok_iff.mpr ⟨rest, (readClosing_eq_ok_iff (by decide)).mpr closing, rfl⟩
    | cons item items => cases h
  | cons slot chosen ih =>
    cases items with
    | nil => cases h
    | cons item items =>
      obtain ⟨found, meant, hlater⟩ := Option.bind_eq_some_iff.mp h
      obtain ⟨hitem, hitems⟩ := List.forall_mem_cons.mp encoded
      cases spelled with
      | item separated spelled later =>
        have hread := slot.reads.complete (blanks_refl _) spelled hitem meant later.follows_items
        have hfill := Slot.read_field_eq_ok_iff.mpr ⟨found, hread, rfl⟩
        rw [List.map_cons, Schema.readInOrder]
        exact bind_eq_ok_iff.mpr ⟨_, nextItem_of_separates separated spelled,
          bind_eq_ok_iff.mpr ⟨_, hfill, ih later hitems hlater⟩⟩

end

/-! ## Records -/

theorem meaning?_eq_some_iff {value : Value} {record : α} :
    schema.meaning? slots value = some record ↔
      ∃ values draft, value.fields? (slots.map Slot.key) = some values ∧
        fillItems? schema.start slots values = some draft ∧
        schema.finish? draft = some record := by
  simp [Schema.meaning?, Option.bind_eq_some_iff]

theorem fields?_array_eq_some_iff {keys : List String} {items values : List Value} :
    (Value.array items).fields? keys = some values ↔
      items.length = keys.length ∧ items = values := by
  simp [Value.fields?]

theorem read_reader_eq_ok_iff {text rest : List Char} {record : α} :
    schema.reader.read text = .ok (record, rest) ↔
      ∃ draft, schema.readDraft text = .ok (draft, rest) ∧ schema.finish? draft = some record := by
  simp only [Schema.reader]
  constructor
  · intro h
    split at h
    · cases h
    · rename_i draft later hdraft
      obtain ⟨finished, hfinish, hpair⟩ := map_eq_ok_iff.mp h
      obtain ⟨rfl, rfl⟩ := Prod.mk.inj hpair
      unfold Schema.finish at hfinish
      split at hfinish
      · rename_i record hrecord
        obtain rfl := Except.ok.inj hfinish
        exact ⟨draft, hdraft, hrecord⟩
      · cases hfinish
  · rintro ⟨draft, hdraft, hrecord⟩
    simp only [hdraft, Schema.finish, hrecord]
    rfl

/-- The entries of an object that means a record fill its draft. -/
theorem Schema.LaidOut.fillEntries?_of_meaning? (laid : schema.LaidOut slots)
    {entries : List Entry} {record : α}
    (meant : schema.meaning? slots (.object entries) = some record) :
    ∃ draft, fillEntries? slots schema.start entries = some draft ∧
      schema.finish? draft = some record := by
  obtain ⟨values, draft, hvalues, hfill, hrecord⟩ := meaning?_eq_some_iff.mp meant
  have hfound := (exists_fillItems?_iff laid.independent).mp ⟨values, hvalues, hfill⟩
  obtain ⟨hentries, -⟩ :=
    (fillEntries?_complete_iff laid.independent laid.start_empty).mpr hfound
  exact ⟨draft, hentries, hrecord⟩

/-- A record is read from a value that means one, whatever stands behind it. -/
theorem Schema.LaidOut.read_of_spells (laid : schema.LaidOut slots) {text start rest : List Char}
    {value : Value} {record : α} (blank : Blanks text start)
    (spelled : Spells start (.value value) rest) (encoded : value.IsEncoded)
    (meant : schema.meaning? slots value = some record) :
    schema.reader.read text = .ok (record, rest) := by
  have hskip := spelled.skipBlanks_eq blank
  rw [read_reader_eq_ok_iff, Schema.readDraft, hskip]
  cases spelled with
  | array spelled =>
    obtain ⟨values, draft, hvalues, hfill, hrecord⟩ := meaning?_eq_some_iff.mp meant
    obtain ⟨-, rfl⟩ := fields?_array_eq_some_iff.mp hvalues
    cases encoded with
    | array all =>
      refine ⟨draft, ?_, hrecord⟩
      change Schema.readInOrder true schema.start schema.fields _ = _
      rw [laid.fields_eq]
      exact readInOrder_of_spells spelled all hfill
  | object spelled =>
    obtain ⟨draft, hentries, hrecord⟩ := laid.fillEntries?_of_meaning? meant
    cases encoded with
    | object keys all =>
      exact ⟨draft, readFields_of_spells laid spelled keys all hentries, hrecord⟩
  | null | bool | number | string =>
    obtain ⟨values, draft, hvalues, -⟩ := meaning?_eq_some_iff.mp meant
    cases hvalues

/-- A record is read from the values that mean one. -/
theorem Schema.LaidOut.reads (laid : schema.LaidOut slots) :
    schema.reader.Reads (schema.meaning? slots) where
  sound {text rest record} h := by
    have hblank := blanks_skipBlanks text
    obtain ⟨draft, hdraft, hrecord⟩ := read_reader_eq_ok_iff.mp h
    unfold Schema.readDraft at hdraft
    split at hdraft
    · rename_i later htext
      rw [laid.fields_eq] at hdraft
      obtain ⟨items, spelled, hlength, hitems⟩ := exists_spells_of_readInOrder hdraft
      rw [htext] at hblank
      refine ⟨_, .array items, hblank, .array spelled,
        meaning?_eq_some_iff.mpr ⟨items, draft, ?_, hitems, hrecord⟩⟩
      exact fields?_array_eq_some_iff.mpr ⟨by rw [hlength, List.length_map], rfl⟩
    · rename_i later htext
      obtain ⟨entries, spelled, hentries⟩ := exists_spells_of_readFields laid hdraft
      have hfound := (fillEntries?_complete_iff laid.independent laid.start_empty).mp
        ⟨hentries, laid.finish_full draft record hrecord⟩
      obtain ⟨values, hvalues, hfill⟩ := (exists_fillItems?_iff laid.independent).mpr hfound
      rw [htext] at hblank
      exact ⟨_, .object entries, hblank, .object spelled,
        meaning?_eq_some_iff.mpr ⟨values, draft, hvalues, hfill, hrecord⟩⟩
    · cases hdraft
  complete blank spelled encoded meant _ := laid.read_of_spells blank spelled encoded meant

end StatementLang.Json
