import StatementLang.Json.Reader
import StatementLang.Proofs.Json.Unambiguous

/-!
# Readers Follow the Grammar

A reader is given a meaning: what each value of the grammar is for it.  It then takes exactly the
values that have a meaning, and returns what they mean.
-/

namespace StatementLang.Json

/-- A reader takes the values that have a meaning, and no others.  The text behind a value must not
go on with it, and no string in the value may be without a text. -/
structure Reader.Reads {α : Type} (reader : Reader α) (meaning : Value → Option α) : Prop where
  sound {text rest : List Char} {result : α} (h : reader.read text = .ok (result, rest)) :
    ∃ start value, Blanks text start ∧ Spells start (.value value) rest ∧
      meaning value = some result
  complete {text start rest : List Char} {value : Value} {result : α} (blank : Blanks text start)
    (spelled : Spells start (.value value) rest) (encoded : value.IsEncoded)
    (meant : meaning value = some result) (hrest : Follows rest) :
    reader.read text = .ok (result, rest)

theorem mapM_cons_eq_some_iff {α β : Type} {f : α → Option β} {a : α} {items : List α}
    {results : List β} :
    (a :: items).mapM f = some results ↔
      ∃ first others, f a = some first ∧ items.mapM f = some others ∧
        first :: others = results := by
  simp [List.mapM_cons, Option.bind_eq_some_iff]

namespace Reader

theorem readBool_of_flag {text rest : List Char} {truth : Bool}
    (h : skipBlanks text = flag truth ++ rest) : readBool text = .ok (truth, rest) := by
  rw [readBool, h]
  cases truth with
  | true => rfl
  | false => rfl

theorem reads_bool : bool.Reads Value.bool? where
  sound {text rest result} h := by
    have hblank := blanks_skipBlanks text
    change readBool text = _ at h
    unfold readBool at h
    split at h
    · rename_i later htext
      obtain ⟨after, hliteral, hpair⟩ := map_eq_ok_iff.mp h
      obtain ⟨rfl, rfl⟩ := Prod.mk.inj hpair
      obtain rfl := literal_eq_ok_iff.mp hliteral
      rw [htext] at hblank
      exact ⟨_, .bool true, hblank, .bool true, rfl⟩
    · rename_i later htext
      obtain ⟨after, hliteral, hpair⟩ := map_eq_ok_iff.mp h
      obtain ⟨rfl, rfl⟩ := Prod.mk.inj hpair
      obtain rfl := literal_eq_ok_iff.mp hliteral
      rw [htext] at hblank
      exact ⟨_, .bool false, hblank, .bool false, rfl⟩
    · cases h
  complete {text start rest value result} blank spelled _ meant _ := by
    have hskip := spelled.skipBlanks_eq blank
    change readBool text = _
    unfold Value.bool? at meant
    split at meant
    · obtain rfl := Option.some.inj meant
      cases spelled
      exact readBool_of_flag hskip
    · cases meant

theorem reads_count : count.Reads Value.count? where
  sound {text rest result} h := by
    have hblank := blanks_skipBlanks text
    change readCount text = _ at h
    unfold readCount at h
    split at h
    · cases h
    · rename_i c later htext
      split at h
      · split at h
        · rename_i number after hcount
          obtain ⟨rfl, rfl⟩ := Prod.mk.inj (Except.ok.inj h)
          obtain ⟨body, value, hbody, spelled, meant⟩ := spellsNumeral_of_count? hcount
          rw [htext, hbody] at hblank
          exact ⟨_, .number value, hblank, .number spelled, meant⟩
        · cases h
        · cases h
      · cases h
  complete {text start rest value result} blank spelled _ meant hrest := by
    have hskip := spelled.skipBlanks_eq blank
    change readCount text = _
    obtain ⟨whole, rfl, -⟩ := count?_eq_some_iff.mp meant
    cases spelled with
    | number spelled =>
      have hcount := count?_append spelled meant hrest
      obtain ⟨c, others, rfl, hc⟩ := spelled.exists_cons
      rw [List.cons_append] at hskip hcount
      simp only [readCount, hskip, if_pos hc, hcount]

theorem reads_string : string.Reads Value.text? where
  sound {text rest result} h := by
    have hblank := blanks_skipBlanks text
    change readString text = _ at h
    unfold readString at h
    split at h
    · rename_i later htext
      obtain ⟨⟨cs, after⟩, htail, hpair⟩ := map_eq_ok_iff.mp h
      obtain ⟨rfl, rfl⟩ := Prod.mk.inj hpair
      obtain ⟨pieces, spelled, decoded⟩ := exists_spellsString_of_stringTail htail
      rw [htext] at hblank
      refine ⟨_, .string pieces, hblank, .string spelled, ?_⟩
      rw [Value.text?, decoded]
      rfl
    · cases h
  complete {text start rest value result} blank spelled _ meant _ := by
    have hskip := spelled.skipBlanks_eq blank
    change readString text = _
    unfold Value.text? at meant
    split at meant
    · rename_i pieces
      obtain ⟨cs, decoded, rfl⟩ := Option.map_eq_some_iff.mp meant
      cases spelled with
      | string spelled =>
        rw [readString, hskip]
        exact map_eq_ok_iff.mpr ⟨_, stringTail_of_spellsString spelled decoded, rfl⟩
    · cases meant

section

variable {α : Type} {ofLabel? : String → Option α} {text start rest : List Char}

theorem knownLabel_eq_ok_iff {label : String} {result : α} :
    knownLabel ofLabel? label = .ok result ↔ ofLabel? label = some result := by
  unfold knownLabel
  split <;> simp_all

theorem spellsString_of_readLabel {label : String} (h : readLabel text = .ok (label, rest)) :
    ∃ later pieces, Blanks text ('"' :: later) ∧ SpellsString later pieces rest ∧
      (Value.string pieces).text? = some label := by
  have hblank := blanks_skipBlanks text
  unfold readLabel at h
  split at h
  · cases h
  · rename_i later htext
    obtain ⟨⟨cs, after⟩, htail, hpair⟩ := map_eq_ok_iff.mp h
    obtain ⟨rfl, rfl⟩ := Prod.mk.inj hpair
    obtain ⟨pieces, spelled, decoded⟩ := exists_spellsString_of_stringTail htail
    rw [htext] at hblank
    refine ⟨later, pieces, hblank, spelled, ?_⟩
    rw [Value.text?, decoded]
    rfl
  · cases h

theorem readLabel_of_spellsString {later : List Char} {pieces : List Piece} {label : String}
    (blank : Blanks text ('"' :: later)) (spelled : SpellsString later pieces rest)
    (meant : (Value.string pieces).text? = some label) : readLabel text = .ok (label, rest) := by
  obtain ⟨cs, decoded, rfl⟩ := Option.map_eq_some_iff.mp meant
  rw [readLabel, (skipBlanks_eq_cons_iff (by decide)).mpr blank]
  exact map_eq_ok_iff.mpr ⟨_, stringTail_of_spellsString spelled decoded, rfl⟩

theorem readNull_eq_ok_iff :
    readNull text = .ok rest ↔ Blanks text ('n' :: 'u' :: 'l' :: 'l' :: rest) := by
  rw [← skipBlanks_eq_cons_iff (by decide)]
  unfold readNull
  split
  · rename_i later htext
    rw [literal_eq_ok_iff, htext]
    simp
  · rename_i hother
    constructor
    · intro h
      cases h
    · intro h
      exact absurd h (hother _)

theorem exists_spells_of_readChoice {result : α}
    (h : readChoice ofLabel? text = .ok (result, rest)) :
    ∃ start value, Blanks text start ∧ Spells start (.value value) rest ∧
      value.choice? ofLabel? = some result := by
  have hblank := blanks_skipBlanks text
  unfold readChoice at h
  split at h
  · rename_i later htext
    obtain ⟨⟨label, afterLabel⟩, hlabel, h⟩ := bind_eq_ok_iff.mp h
    obtain ⟨known, hknown, h⟩ := bind_eq_ok_iff.mp h
    obtain ⟨afterColon, hcolon, h⟩ := bind_eq_ok_iff.mp h
    obtain ⟨afterNull, hnull, h⟩ := bind_eq_ok_iff.mp h
    obtain ⟨afterClosing, hclosing, h⟩ := bind_eq_ok_iff.mp h
    obtain ⟨rfl, rfl⟩ := Prod.mk.inj (Except.ok.inj h)
    obtain ⟨name, key, separated, named, hkey⟩ := spellsString_of_readLabel hlabel
    rw [htext] at hblank
    refine ⟨_, .object [(key, .null)], hblank, .object ?_, ?_⟩
    · exact .entry separated named (colon_eq_ok_iff.mp hcolon) (readNull_eq_ok_iff.mp hnull) .null
        (.noEntry ((readClosing_eq_ok_iff (by decide)).mp hclosing))
    · rw [Value.choice?, hkey]
      exact knownLabel_eq_ok_iff.mp hknown
  · obtain ⟨⟨label, afterLabel⟩, hlabel, h⟩ := bind_eq_ok_iff.mp h
    obtain ⟨known, hknown, h⟩ := bind_eq_ok_iff.mp h
    obtain ⟨rfl, rfl⟩ := Prod.mk.inj (Except.ok.inj h)
    obtain ⟨name, pieces, blank, spelled, htext⟩ := spellsString_of_readLabel hlabel
    refine ⟨_, .string pieces, hblank.trans blank, .string spelled, ?_⟩
    rw [Value.choice?, htext]
    exact knownLabel_eq_ok_iff.mp hknown

theorem readChoice_of_spells {start : List Char} {value : Value} {result : α}
    (blank : Blanks text start) (spelled : Spells start (.value value) rest)
    (meant : value.choice? ofLabel? = some result) :
    readChoice ofLabel? text = .ok (result, rest) := by
  have hskip := spelled.skipBlanks_eq blank
  unfold Value.choice? at meant
  split at meant
  · obtain ⟨label, htext, hlabel⟩ := Option.bind_eq_some_iff.mp meant
    cases spelled with
    | string spelled =>
      rw [readChoice, hskip]
      exact bind_eq_ok_iff.mpr
        ⟨_, readLabel_of_spellsString (blanks_refl _) spelled htext,
          bind_eq_ok_iff.mpr ⟨_, knownLabel_eq_ok_iff.mpr hlabel, rfl⟩⟩
  · obtain ⟨label, htext, hlabel⟩ := Option.bind_eq_some_iff.mp meant
    cases spelled with
    | object spelled =>
      rw [readChoice, hskip]
      cases spelled with
      | entry separated named hcolon hnull spelled later =>
        cases spelled
        cases later with
        | noEntry closing =>
          exact bind_eq_ok_iff.mpr ⟨_, readLabel_of_spellsString separated named htext,
            bind_eq_ok_iff.mpr ⟨_, knownLabel_eq_ok_iff.mpr hlabel,
              bind_eq_ok_iff.mpr ⟨_, colon_eq_ok_iff.mpr hcolon,
                bind_eq_ok_iff.mpr ⟨_, readNull_eq_ok_iff.mpr hnull,
                  bind_eq_ok_iff.mpr
                    ⟨_, (readClosing_eq_ok_iff (by decide)).mpr closing, rfl⟩⟩⟩⟩⟩
  · cases meant

theorem reads_choice : (choice ofLabel?).Reads (Value.choice? ofLabel?) where
  sound h := exists_spells_of_readChoice h
  complete blank spelled _ meant _ := readChoice_of_spells blank spelled meant

end

/-! ## Arrays -/

section

variable {α : Type} {item : Reader α} {meaning : Value → Option α}

/-- Items are read one after the other up to the end of the array. -/
theorem readItems_eq (first : Bool) (text : List Char) :
    readItems item first text = nextItem first text >>= fun member ↦
      match member with
      | .closed rest => .ok ([], rest)
      | .starts start => item.read start >>= fun (result, rest) ↦
        (readItems item false rest).map fun (results, rest) ↦ (result :: results, rest) := by
  rw [readItems]
  split
  · simp_all [bind, Except.bind]
  · simp_all [bind, Except.bind]
  · rename_i hnext
    simp only [hnext, bind, Except.bind]
    split <;> simp_all

theorem readItems_of_closed {first : Bool} {text rest : List Char}
    (hnext : nextItem first text = .ok (.closed rest)) :
    readItems item first text = .ok ([], rest) := by
  rw [readItems_eq, hnext]
  rfl

theorem readItems_of_starts {first : Bool} {text start rest : List Char} {result : α}
    (hnext : nextItem first text = .ok (.starts start))
    (hread : item.read start = .ok (result, rest)) :
    readItems item first text =
      (readItems item false rest).map fun (results, rest) ↦ (result :: results, rest) := by
  rw [readItems_eq, hnext]
  simp only [bind, Except.bind, hread]

theorem exists_spells_of_readItems (hitem : item.Reads meaning) {first : Bool}
    {text rest : List Char} {results : List α}
    (h : readItems item first text = .ok (results, rest)) :
    ∃ items, Spells text (.items first items) rest ∧ items.mapM meaning = some results := by
  fun_induction readItems item first text generalizing results rest with
  | case1 => cases h
  | case2 first text later next_eq =>
    obtain ⟨rfl, rfl⟩ := Prod.mk.inj (Except.ok.inj h)
    exact ⟨[], .noItem (nextItem_eq_closed_iff.mp next_eq), rfl⟩
  | case3 => cases h
  | case4 first text start next_eq result next item_eq ih =>
    obtain ⟨⟨others, afterOthers⟩, others_eq, hpair⟩ := map_eq_ok_iff.mp h
    obtain ⟨rfl, rfl⟩ := Prod.mk.inj hpair
    obtain ⟨items, later, hothers⟩ := ih others_eq
    obtain ⟨valueStart, value, blank, spelled, meant⟩ := hitem.sound item_eq
    exact ⟨value :: items, .item ((separates_of_nextItem next_eq).trans blank) spelled later,
      mapM_cons_eq_some_iff.mpr ⟨result, others, meant, hothers, rfl⟩⟩

theorem readItems_of_spells (hitem : item.Reads meaning) {first : Bool} {text rest : List Char}
    {items : List Value} {results : List α} (spelled : Spells text (.items first items) rest)
    (encoded : ∀ value ∈ items, value.IsEncoded) (meant : items.mapM meaning = some results) :
    readItems item first text = .ok (results, rest) := by
  induction items generalizing first text results with
  | nil =>
    obtain rfl := Option.some.inj meant
    cases spelled with
    | noItem closing =>
      exact readItems_of_closed (nextItem_eq_closed_iff.mpr closing)
  | cons value items ih =>
    obtain ⟨result, others, hvalue, hothers, rfl⟩ := mapM_cons_eq_some_iff.mp meant
    cases spelled with
    | item separated spelled later =>
      have hread := hitem.complete (blanks_refl _) spelled (encoded _ List.mem_cons_self) hvalue
        later.follows_items
      have hlater := ih later (fun other hmem ↦ encoded other (List.mem_cons_of_mem _ hmem)) hothers
      rw [readItems_of_starts (nextItem_of_separates separated spelled) hread, hlater]
      rfl

theorem reads_list (hitem : item.Reads meaning) : (list item).Reads (Value.list? meaning) where
  sound {text rest results} h := by
    have hblank := blanks_skipBlanks text
    change readList item text = _ at h
    unfold readList at h
    split at h
    · rename_i later htext
      obtain ⟨items, spelled, meant⟩ := exists_spells_of_readItems hitem h
      rw [htext] at hblank
      exact ⟨_, .array items, hblank, .array spelled, meant⟩
    · cases h
  complete {text start rest value results} blank spelled encoded meant _ := by
    have hskip := spelled.skipBlanks_eq blank
    change readList item text = _
    unfold Value.list? at meant
    split at meant
    · cases spelled with
      | array spelled =>
        cases encoded with
        | array all =>
          rw [readList, hskip]
          exact readItems_of_spells hitem spelled all meant
    · cases meant

end

section

variable {α : Type} {reader : Reader α} {meaning : Value → Option α} {text : String} {result : α}

theorem readText_eq_ok_iff :
    reader.readText text = .ok result ↔
      ∃ rest, reader.read text.toList = .ok (result, rest) ∧ skipBlanks rest = [] := by
  unfold readText
  rw [bind_eq_ok_iff]
  constructor
  · rintro ⟨⟨found, rest⟩, hread, hrest⟩
    dsimp only at hrest
    split at hrest
    · rename_i hend
      obtain rfl := Except.ok.inj hrest
      exact ⟨rest, hread, hend⟩
    · cases hrest
  · rintro ⟨rest, hread, hend⟩
    refine ⟨(result, rest), hread, ?_⟩
    simp only [hend]
    rfl

/-- A text that is read is one value of the grammar. -/
theorem Reads.isJson_of_readText (h : reader.Reads meaning)
    (hread : reader.readText text = .ok result) :
    ∃ value, IsJson text.toList value ∧ (∀ other, IsJson text.toList other → other = value) ∧
      meaning value = some result := by
  obtain ⟨rest, hfound, hend⟩ := readText_eq_ok_iff.mp hread
  obtain ⟨start, value, blank, spelled, meant⟩ := h.sound hfound
  have json : IsJson text.toList value :=
    ⟨start, rest, blank, spelled, skipBlanks_eq_nil_iff.mp hend⟩
  exact ⟨value, json, fun other hother ↦ hother.unique json, meant⟩

/-- A text that is one value of the grammar is read as what the value means. -/
theorem Reads.readText_of_isJson (h : reader.Reads meaning) {value : Value}
    (json : IsJson text.toList value) (encoded : value.IsEncoded)
    (meant : meaning value = some result) : reader.readText text = .ok result := by
  obtain ⟨start, rest, blank, spelled, hend⟩ := json
  have hread := h.complete blank spelled encoded meant (follows_of_blanks_nil hend)
  exact readText_eq_ok_iff.mpr ⟨rest, hread, skipBlanks_eq_nil_iff.mpr hend⟩

end

end Reader

end StatementLang.Json
