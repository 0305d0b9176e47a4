import StatementLang.Proofs.Json.Fronts
import StatementLang.Proofs.Json.Records

/-!
# Reading the Front of a Text

A text that ends too early is read like the whole text up to its end, so that nothing but the end is
found wrong with it.

A numeral is the only value whose front can be a value: reading `1` of `12` succeeds and leaves
nothing behind.  This is why `Reader.Waits` also allows a reader to be left without any text.  Inside
of an array or an object the next mark is missing then, and so a front of a value in brackets is
never read to the end.
-/

namespace StatementLang.Json

/-- On the front of a text that begins with a value, a reader asks for more, reads the value, or is
left without any text. -/
def Reader.Waits {α : Type} (reader : Reader α) (meaning : Value → Option α) (value : Value) :
    Prop :=
  ∀ ⦃text more start rest : List Char⦄ ⦃result : α⦄, Blanks (text ++ more) start →
    Spells start (.value value) rest → value.IsEncoded → meaning value = some result →
    Follows rest → AwaitsOrEnds more (reader.read text) (result, rest)

namespace Reader

theorem waits_bool (value : Value) : bool.Waits Value.bool? value := by
  intro text more start rest result blank spelled _ meant _
  change AwaitsOrEnds more (readBool text) (result, rest)
  have hend (h : skipBlanks text = []) : readBool text = .error .unfinished := by
    rw [readBool, h]
    rfl
  cases value with
  | bool truth =>
    obtain rfl := Option.some.inj meant
    cases spelled
    cases truth with
    | true =>
      have hflag : flag true ++ rest = 't' :: (['r', 'u', 'e'] ++ rest) := rfl
      rw [hflag] at blank
      apply Or.inl
      apply blank.awaits (by decide) hend
      intro later hletter hrest
      rw [readBool, hletter]
      exact (awaits_literal (literal_eq_ok_iff.mpr hrest)).map fun cut hcut ↦ by rw [← hcut]; rfl
    | false =>
      have hflag : flag false ++ rest = 'f' :: (['a', 'l', 's', 'e'] ++ rest) := rfl
      rw [hflag] at blank
      apply Or.inl
      apply blank.awaits (by decide) hend
      intro later hletter hrest
      rw [readBool, hletter]
      exact (awaits_literal (literal_eq_ok_iff.mpr hrest)).map fun cut hcut ↦ by rw [← hcut]; rfl
  | null | number | string | array | object => cases meant

theorem waits_string (value : Value) : string.Waits Value.text? value := by
  intro text more start rest result blank spelled _ meant _
  change AwaitsOrEnds more (readString text) (result, rest)
  cases value with
  | string pieces =>
    obtain ⟨cs, decoded, rfl⟩ := Option.map_eq_some_iff.mp meant
    cases spelled with
    | string spelled =>
      apply Or.inl
      apply blank.awaits (by decide)
      · intro hend
        rw [readString, hend]
        rfl
      · intro later hquote hrest
        subst hrest
        rw [readString, hquote]
        exact (awaits_stringTail (stringTail_of_spellsString spelled decoded)).map_value
  | null | bool | number | array | object => cases meant

theorem waits_count (value : Value) : count.Waits Value.count? value := by
  intro text more start rest result blank spelled _ meant hrest
  obtain ⟨whole, rfl, rfl, hfits⟩ := count?_eq_some_iff.mp meant
  cases spelled with
  | number spelled =>
    obtain ⟨rfl, hwhole⟩ := isWhole_of_spellsNumeral spelled
    obtain ⟨c, others, rfl⟩ := List.exists_cons_of_ne_nil hwhole.1.1
    have hcount {digits behind : List Char} (hdigits : IsWhole digits)
        (hskip : skipBlanks text = digits ++ behind) (hle : ofDigits digits ≤ maxCount)
        (hbehind : Follows behind) : count.read text = .ok (ofDigits digits, behind) := by
      have hblank := blanks_skipBlanks text
      rw [hskip] at hblank
      exact reads_count.complete hblank (.number (.of_isWhole hdigits)) (.number _)
        (count?_eq_some_iff.mpr ⟨digits, rfl, rfl, hle⟩) hbehind
    have hopens : (Value.number ⟨false, c :: others, none, none⟩).Opens c :=
      Or.inr (hwhole.1.2 c List.mem_cons_self)
    obtain hnil | ⟨later, hskip, hlater⟩ := blank.front hopens.not_blank.1
    · apply Or.inl
      apply Or.inl
      change readCount text = _
      rw [readCount, hnil]
    have hsplit : (c :: later) ++ more = (c :: others) ++ rest := congrArg (c :: ·) hlater
    obtain ⟨missing, hdigits, -⟩ | ⟨cut, hdigits, rfl⟩ := List.append_eq_append_iff.mp hsplit
    · -- The front ends inside of the digits.
      rw [hdigits] at hwhole hfits
      have hle := Nat.le_trans (ofDigits_le_append _ _) hfits
      exact Or.inr ⟨_, hcount (isWhole_of_append hwhole (List.cons_ne_nil _ _))
        (by rw [hskip, List.append_nil]) hle (follows_of_blanks_nil (blanks_refl _))⟩
    · rw [hcount hwhole (hskip.trans hdigits) hfits hrest.of_append]
      exact Or.inl awaits_rest

theorem awaits_readLabel {later more rest : List Char} {pieces : List Piece} {label : String}
    (spelled : SpellsString (later ++ more) pieces rest)
    (meant : (Value.string pieces).text? = some label) :
    Awaits (appendRest more) (readLabel ('"' :: later)) (label, rest) := by
  obtain ⟨cs, decoded, rfl⟩ := Option.map_eq_some_iff.mp meant
  exact (awaits_stringTail (stringTail_of_spellsString spelled decoded)).map_value

theorem waits_choice {α : Type} {ofLabel? : String → Option α} (pieces : List Piece) :
    (choice ofLabel?).Waits (Value.choice? ofLabel?) (.string pieces) := by
  intro text more start rest result blank spelled _ meant _
  obtain ⟨label, htext, hlabel⟩ := Option.bind_eq_some_iff.mp meant
  cases spelled with
  | string spelled =>
    change AwaitsOrEnds more (readChoice ofLabel? text) (result, rest)
    apply Or.inl
    apply blank.awaits (by decide)
    · intro hend
      rw [readChoice, hend]
      rfl
    · intro later hquote hrest
      subst hrest
      rw [readChoice, hquote]
      apply (awaits_readLabel spelled htext).bind_rest
      intro cut hcut
      simp only [knownLabel_eq_ok_iff.mpr hlabel, ← hcut]
      exact awaits_rest

section

variable {α : Type} {item : Reader α} {meaning : Value → Option α} {more : List Char}

theorem readItems_nil : readItems item false [] = .error .unfinished := by
  rw [readItems_eq, nextItem_of_blank rfl]
  rfl

theorem awaits_readItems {first : Bool} {text rest : List Char}
    {items : List Value} {results : List α}
    (spelled : Spells (text ++ more) (.items first items) rest)
    (encoded : ∀ value ∈ items, value.IsEncoded) (waits : ∀ value ∈ items, item.Waits meaning value)
    (meant : items.mapM meaning = some results) :
    Awaits (appendRest more) (readItems item first text) (results, rest) := by
  induction items generalizing first text results with
  | nil =>
    obtain rfl := Option.some.inj meant
    generalize hwhole : text ++ more = whole at spelled
    cases spelled with
    | noItem closing =>
      subst hwhole
      rw [readItems_eq]
      apply (awaits_noItem closing).bind
      rintro (later | later) hlater
      · rw [← Member.closed.inj hlater]
        exact awaits_rest
      · cases hlater
  | cons value items ih =>
    obtain ⟨result, others, hvalue, hothers, rfl⟩ := mapM_cons_eq_some_iff.mp meant
    obtain ⟨hencoded, hencodeds⟩ := List.forall_mem_cons.mp encoded
    obtain ⟨hwaits, hwaitss⟩ := List.forall_mem_cons.mp waits
    generalize hwhole : text ++ more = whole at spelled
    cases spelled with
    | item separated spelled later =>
      subst hwhole
      rw [readItems_eq]
      apply (awaits_item separated spelled).bind
      rintro (cut | cut) hcut
      · cases hcut
      · obtain rfl := Member.starts.inj hcut
        have hfront := hwaits (blanks_refl _) spelled hencoded hvalue later.follows_items
        apply hfront.bind_rest
        · intro cut hcut
          subst hcut
          exact (ih later hencodeds hwaitss hothers).map_value
        · -- A front that ends in the item has no mark behind it.
          intro other
          simp only [readItems_nil]
          rfl

theorem awaits_list {text start rest : List Char} {items : List Value} {results : List α}
    (blank : Blanks (text ++ more) start) (spelled : Spells start (.value (.array items)) rest)
    (encoded : (Value.array items).IsEncoded) (waits : ∀ value ∈ items, item.Waits meaning value)
    (meant : Value.list? meaning (.array items) = some results) :
    Awaits (appendRest more) ((list item).read text) (results, rest) := by
  cases spelled with
  | array spelled =>
    cases encoded with
    | array all =>
      change Awaits _ (readList item text) _
      apply blank.awaits (by decide)
      · intro hend
        rw [readList, hend]
        rfl
      · intro later hbracket hlater
        subst hlater
        rw [readList, hbracket]
        exact awaits_readItems spelled all waits meant

theorem waits_list {items : List Value} (waits : ∀ value ∈ items, item.Waits meaning value) :
    (list item).Waits (Value.list? meaning) (.array items) :=
  fun _ _ _ _ _ blank spelled encoded meant _ ↦
    Or.inl (awaits_list blank spelled encoded waits meant)

end

end Reader

/-! ## Records -/

section

variable {Draft α : Type} {schema : Schema Draft α} {slots : List (Slot Draft)} {more : List Char}

/-- A key names a slot whose reader waits on the value under the key. -/
def WaitsUnderKey (slots : List (Slot Draft)) (entry : Entry) : Prop :=
  ∃ slot, slotOf? slots entry.1 = some slot ∧ slot.reader.Waits slot.meaning entry.2

theorem readFields_nil (draft : Draft) :
    schema.readFields false draft [] = .error .unfinished := by
  rw [readFields_eq, nextField_of_blank rfl]
  rfl

theorem awaits_readValue (laid : schema.LaidOut slots) {draft filled : Draft} {key : List Piece}
    {cs text rest afterColon start : List Char} {value : Value} (decoded : decode key = some cs)
    (hcolon : Blanks (text ++ more) (':' :: afterColon)) (blank : Blanks afterColon start)
    (spelled : Spells start (.value value) rest) (encoded : value.IsEncoded)
    (waits : WaitsUnderKey slots (key, value)) (hrest : Follows rest)
    (h : fillOne? slots draft (key, value) = some filled) :
    AwaitsOrEnds more (schema.readValue draft (String.ofList cs) text) (filled, rest) := by
  obtain ⟨slot, hnamed, waits⟩ := waits
  unfold fillOne? at h
  unfold Schema.readValue
  rw [field?_eq_map_slotOf? laid decoded]
  simp only [hnamed, Option.map_some, Slot.fill?] at h ⊢
  split at h
  · cases h
  · rename_i hempty
    obtain ⟨found, meant, rfl⟩ := Option.map_eq_some_iff.mp h
    rw [if_neg (show ¬ slot.field.isFilled draft = true from hempty)]
    apply (awaits_colon hcolon).bind_orEnds
    intro cut hcut
    subst hcut
    have hupdate : AwaitsOrEnds more (slot.field.fill.read cut) (slot.setPart found, rest) :=
      (waits blank spelled encoded meant hrest).map_value
    exact hupdate.bind_pure fun update ↦ update draft

theorem awaits_readFields (laid : schema.LaidOut slots) {first : Bool} {draft filled : Draft}
    {text rest : List Char} {entries : List Entry}
    (spelled : Spells (text ++ more) (.entries first entries) rest)
    (keys : ∀ entry ∈ entries, (decode entry.1).isSome = true)
    (encoded : ∀ entry ∈ entries, entry.2.IsEncoded)
    (waits : ∀ entry ∈ entries, WaitsUnderKey slots entry)
    (h : fillEntries? slots draft entries = some filled) :
    Awaits (appendRest more) (schema.readFields first draft text) (filled, rest) := by
  induction entries generalizing first draft text with
  | nil =>
    obtain rfl := Option.some.inj h
    generalize hwhole : text ++ more = whole at spelled
    cases spelled with
    | noEntry closing =>
      subst hwhole
      rw [readFields_eq]
      apply (awaits_noField closing).bind
      rintro (later | later) hlater
      · rw [← Member.closed.inj hlater]
        exact awaits_rest
      · cases hlater
  | cons entry entries ih =>
    obtain ⟨middle, hmiddle, hlater⟩ := Option.bind_eq_some_iff.mp h
    obtain ⟨hkey, hkeys⟩ := List.forall_mem_cons.mp keys
    obtain ⟨hvalue, hvalues⟩ := List.forall_mem_cons.mp encoded
    obtain ⟨hwaits, hwaitss⟩ := List.forall_mem_cons.mp waits
    obtain ⟨cs, decoded⟩ := Option.isSome_iff_exists.mp hkey
    generalize hwhole : text ++ more = whole at spelled
    cases spelled with
    | entry separated named hcolon blank spelled later =>
      subst hwhole
      rw [readFields_eq]
      apply (awaits_field separated).bind
      rintro (cut | cut) hcut
      · cases hcut
      · obtain rfl := Member.starts.inj hcut
        have htail := awaits_stringTail (stringTail_of_spellsString named decoded)
        apply htail.bind_rest
        intro afterKey hafterKey
        subst hafterKey
        have hfront := awaits_readValue laid decoded hcolon blank spelled hvalue hwaits
          later.follows_entries hmiddle
        apply hfront.bind_rest
        · intro cut hcut
          subst hcut
          exact ih later hkeys hvalues hwaitss hlater
        · exact readFields_nil

theorem awaits_reader {text rest : List Char} {draft : Draft} {record : α}
    (h : Awaits (appendRest more) (schema.readDraft text) (draft, rest))
    (hrecord : schema.finish? draft = some record) :
    Awaits (appendRest more) (schema.reader.read text) (record, rest) := by
  simp only [Schema.reader]
  obtain hfront | ⟨⟨found, cut⟩, hfront, hwhole⟩ := h
  · rw [hfront]
    exact awaits_unfinished
  · obtain ⟨rfl, rfl⟩ := Prod.mk.inj hwhole
    simp only [hfront, Schema.finish, hrecord]
    exact awaits_rest

/-- The front of a record that is an object is read up to its end. -/
theorem Schema.LaidOut.awaits (laid : schema.LaidOut slots) {text start rest : List Char}
    {entries : List Entry} {record : α} (blank : Blanks (text ++ more) start)
    (spelled : Spells start (.value (.object entries)) rest)
    (encoded : (Value.object entries).IsEncoded)
    (waits : ∀ entry ∈ entries, WaitsUnderKey slots entry)
    (meant : schema.meaning? slots (.object entries) = some record) :
    Awaits (appendRest more) (schema.reader.read text) (record, rest) := by
  obtain ⟨draft, hentries, hrecord⟩ := laid.fillEntries?_of_meaning? meant
  apply awaits_reader _ hrecord
  cases spelled with
  | object spelled =>
    cases encoded with
    | object keys all =>
      apply blank.awaits (by decide)
      · intro hend
        rw [Schema.readDraft, hend]
        rfl
      · intro later hbracket hlater
        subst hlater
        rw [Schema.readDraft, hbracket]
        exact awaits_readFields laid spelled keys all waits hentries

theorem Schema.LaidOut.waits (laid : schema.LaidOut slots) {entries : List Entry}
    (waits : ∀ entry ∈ entries, WaitsUnderKey slots entry) :
    schema.reader.Waits (schema.meaning? slots) (.object entries) :=
  fun _ _ _ _ _ blank spelled encoded meant _ ↦
    Or.inl (laid.awaits blank spelled encoded waits meant)

end

section

variable {α : Type} {reader : Reader α} {value : α}

/-- A text that is read to its end is unfinished without its end. -/
theorem readText_of_front {cut rest : String}
    (h : Awaits (appendRest rest.toList) (reader.read cut.toList) (value, []))
    (hrest : rest ≠ "") : reader.readText cut = .error .unfinished := by
  obtain hfront | ⟨⟨found, behind⟩, -, hwhole⟩ := h
  · rw [Reader.readText, hfront]
    rfl
  · obtain ⟨-, hrest'⟩ := List.append_eq_nil_iff.mp (Prod.mk.inj hwhole).2
    exact absurd (String.toList_injective hrest') hrest

/-- Behind a value that is read only blanks may stand. -/
theorem readText_of_read {text : String} {behind : List Char}
    (h : reader.read text.toList = .ok (value, behind)) :
    ((∀ c ∈ behind, isBlank c = true) → reader.readText text = .ok value) ∧
      ((¬ ∀ c ∈ behind, isBlank c = true) → reader.readText text = .error .malformed) := by
  have hnil : skipBlanks behind = [] ↔ ∀ c ∈ behind, isBlank c = true := List.dropWhile_eq_nil_iff
  constructor
  · intro hblank
    exact Reader.readText_eq_ok_iff.mpr ⟨behind, h, hnil.mpr hblank⟩
  · intro hmore
    rw [Reader.readText, h]
    cases hskip : skipBlanks behind with
    | nil => exact absurd (hnil.mp hskip) hmore
    | cons c later =>
      simp only [bind, Except.bind, hskip]
      rfl

end

end StatementLang.Json
