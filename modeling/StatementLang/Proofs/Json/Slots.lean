import Mathlib.Data.List.Nodup
import StatementLang.Json.Record
import StatementLang.Proofs.Json.Readers

/-!
# Filling a Record from Values

The draft of a record is filled from the entries of an object one by one, and from the items of an
array in the order of the fields.  The two meet where the object has every field exactly once.
-/

namespace StatementLang.Json

/-- A field of a record: its key, the part of the draft it fills, and what its value means. -/
structure Slot (Draft : Type) where
  Part : Type
  key : String
  reader : Reader Part
  meaning : Value → Option Part
  reads : reader.Reads meaning
  part : Draft → Option Part
  setPart : Part → Draft → Draft
  part_setPart (found : Part) (draft : Draft) : part (setPart found draft) = some found

namespace Slot

variable {Draft : Type}

def field (slot : Slot Draft) : Field Draft :=
  .of slot.key slot.reader slot.part slot.setPart

def fill? (slot : Slot Draft) (draft : Draft) (value : Value) : Option Draft :=
  if (slot.part draft).isSome then none
  else (slot.meaning value).map fun found ↦ slot.setPart found draft

/-- The values under the key of a slot lead from one content of its part to another: no value leaves
it as it is, and a single one fills it. -/
inductive Takes (slot : Slot Draft) : List Value → Option slot.Part → Option slot.Part → Prop where
  | nothing {part : Option slot.Part} : Takes slot [] part part
  | once {value : Value} {found : slot.Part} (meant : slot.meaning value = some found) :
      Takes slot [value] none (some found)

namespace Takes

variable {slot : Slot Draft} {value : Value} {values : List Value}
  {before after : Option slot.Part} {found : slot.Part}

/-- A filled part takes no further value. -/
theorem of_some (h : slot.Takes values (some found) after) : values = [] ∧ after = some found := by
  cases h with
  | nothing => exact ⟨rfl, rfl⟩

/-- A part that takes a value was empty, and takes no other. -/
theorem of_cons (h : slot.Takes (value :: values) before after) :
    values = [] ∧ before = none ∧
      ∃ found, slot.meaning value = some found ∧ after = some found := by
  cases h with
  | once meant => exact ⟨rfl, rfl, _, meant, rfl⟩

/-- An empty part is filled by a single value. -/
theorem of_none (h : slot.Takes values none after) (hsome : after.isSome = true) :
    ∃ value found, values = [value] ∧ slot.meaning value = some found ∧ after = some found := by
  cases h with
  | nothing => cases hsome
  | once meant => exact ⟨_, _, rfl, meant, rfl⟩

end Takes

end Slot

/-- The slots of a record fill parts of the draft that do not touch each other and that make up the
whole draft. -/
structure Independent {Draft : Type} (slots : List (Slot Draft)) : Prop where
  keys_nodup : (slots.map Slot.key).Nodup
  frame : ∀ slot ∈ slots, ∀ other ∈ slots, slot.key ≠ other.key → ∀ found draft,
    other.part (slot.setPart found draft) = other.part draft
  ext : ∀ draft filled, (∀ slot ∈ slots, slot.part draft = slot.part filled) → draft = filled

section

variable {Draft : Type} {slots : List (Slot Draft)}

/-- Two slots of a record with one key are the same. -/
theorem Independent.eq_of_key_eq (independent : Independent slots) {slot other : Slot Draft}
    (hslot : slot ∈ slots) (hother : other ∈ slots) (hkey : slot.key = other.key) :
    slot = other :=
  List.inj_on_of_nodup_map independent.keys_nodup hslot hother hkey

def slotOf? (slots : List (Slot Draft)) (key : List Piece) : Option (Slot Draft) :=
  slots.find? fun slot ↦ decode key == some slot.key.toList

/-- Fill a draft from an entry.  An unknown key changes nothing. -/
def fillOne? (slots : List (Slot Draft)) (draft : Draft) (entry : Entry) : Option Draft :=
  match slotOf? slots entry.1 with
  | none => some draft
  | some slot => slot.fill? draft entry.2

def fillEntries? (slots : List (Slot Draft)) : Draft → List Entry → Option Draft
  | draft, [] => some draft
  | draft, entry :: entries =>
    (fillOne? slots draft entry).bind fun filled ↦ fillEntries? slots filled entries

theorem slotOf?_eq_some {key : List Piece} {slot : Slot Draft} (h : slotOf? slots key = some slot) :
    slot ∈ slots ∧ decode key = some slot.key.toList := by
  have hnamed := List.find?_some h
  exact ⟨List.mem_of_find?_eq_some h, beq_iff_eq.mp hnamed⟩

theorem slotOf?_eq_none {key : List Piece} (h : slotOf? slots key = none) {slot : Slot Draft}
    (hslot : slot ∈ slots) : decode key ≠ some slot.key.toList := by
  intro hnamed
  exact List.find?_eq_none.mp h slot hslot (beq_iff_eq.mpr hnamed)

/-- The slot whose key is spelled is the one that is named. -/
theorem slotOf?_of_named (independent : Independent slots) {slot : Slot Draft}
    (hslot : slot ∈ slots) {key : List Piece} (hnamed : decode key = some slot.key.toList) :
    slotOf? slots key = some slot := by
  cases h : slotOf? slots key with
  | none => exact absurd hnamed (slotOf?_eq_none h hslot)
  | some other =>
    obtain ⟨hother, hnamed'⟩ := slotOf?_eq_some h
    have hkey : other.key = slot.key :=
      String.toList_injective (Option.some.inj (hnamed'.symm.trans hnamed))
    rw [independent.eq_of_key_eq hother hslot hkey]

theorem key_ne_of_decode {key : List Piece} {slot other : Slot Draft}
    (hnamed : decode key = some slot.key.toList) (hkey : slot.key ≠ other.key) :
    decode key ≠ some other.key.toList := by
  rw [hnamed]
  exact fun h ↦ hkey (String.toList_injective (Option.some.inj h))

theorem under_cons_of_named {entry : Entry} {entries : List Entry} {key : String}
    (h : decode entry.1 = some key.toList) :
    Value.under (entry :: entries) key = entry.2 :: Value.under entries key := by
  simp [Value.under, h]

theorem under_cons_of_other {entry : Entry} {entries : List Entry} {key : String}
    (h : decode entry.1 ≠ some key.toList) :
    Value.under (entry :: entries) key = Value.under entries key := by
  simp [Value.under, h]

/-- What one entry does to the part of a slot. -/
theorem part_of_fillOne? (independent : Independent slots) {draft filled : Draft} {entry : Entry}
    (h : fillOne? slots draft entry = some filled) {slot : Slot Draft} (hslot : slot ∈ slots) :
    decode entry.1 ≠ some slot.key.toList ∧ slot.part filled = slot.part draft ∨
      decode entry.1 = some slot.key.toList ∧ slot.part draft = none ∧
        ∃ found, slot.meaning entry.2 = some found ∧ slot.part filled = some found := by
  unfold fillOne? at h
  split at h
  · rename_i hnone
    obtain rfl := Option.some.inj h
    exact Or.inl ⟨slotOf?_eq_none hnone hslot, rfl⟩
  · rename_i named hsome
    obtain ⟨hmem, hnamed⟩ := slotOf?_eq_some hsome
    unfold Slot.fill? at h
    split at h
    · cases h
    · rename_i hempty
      obtain ⟨found, meant, rfl⟩ := Option.map_eq_some_iff.mp h
      by_cases hkey : named.key = slot.key
      · obtain rfl := independent.eq_of_key_eq hmem hslot hkey
        refine Or.inr ⟨hnamed, ?_, found, meant, named.part_setPart found draft⟩
        simpa using hempty
      · exact Or.inl ⟨key_ne_of_decode hnamed hkey,
          independent.frame named hmem slot hslot hkey found draft⟩

/-- What the entries of an object do to the part of a slot. -/
theorem takes_of_fillEntries? (independent : Independent slots) {draft filled : Draft}
    {entries : List Entry} (h : fillEntries? slots draft entries = some filled)
    {slot : Slot Draft} (hslot : slot ∈ slots) :
    slot.Takes (Value.under entries slot.key) (slot.part draft) (slot.part filled) := by
  induction entries generalizing draft with
  | nil =>
    obtain rfl := Option.some.inj h
    exact .nothing
  | cons entry entries ih =>
    obtain ⟨middle, hmiddle, hlater⟩ := Option.bind_eq_some_iff.mp h
    have htakes := ih hlater
    obtain ⟨hother, hpart⟩ | ⟨hnamed, hempty, found, meant, hpart⟩ :=
      part_of_fillOne? independent hmiddle hslot
    · rw [under_cons_of_other hother, ← hpart]
      exact htakes
    · -- The part is filled from here on, so that no further value may come under the key.
      rw [hpart] at htakes
      obtain ⟨hnone, hafter⟩ := htakes.of_some
      rw [under_cons_of_named hnamed, hempty, hnone, hafter]
      exact .once meant

/-- Entries of which each slot takes at most one fill the draft. -/
theorem exists_fillEntries? (independent : Independent slots) {draft : Draft}
    {entries : List Entry}
    (h : ∀ slot ∈ slots, ∃ after,
      slot.Takes (Value.under entries slot.key) (slot.part draft) after) :
    ∃ filled, fillEntries? slots draft entries = some filled := by
  induction entries generalizing draft with
  | nil => exact ⟨draft, rfl⟩
  | cons entry entries ih =>
    cases hnamed : slotOf? slots entry.1 with
    | none =>
      have hmiddle : fillOne? slots draft entry = some draft := by
        rw [fillOne?, hnamed]
      have hlater : ∀ slot ∈ slots, ∃ after,
          slot.Takes (Value.under entries slot.key) (slot.part draft) after := by
        intro slot hslot
        rw [← under_cons_of_other (slotOf?_eq_none hnamed hslot)]
        exact h slot hslot
      obtain ⟨filled, hfilled⟩ := ih hlater
      exact ⟨filled, Option.bind_eq_some_iff.mpr ⟨draft, hmiddle, hfilled⟩⟩
    | some named =>
      obtain ⟨hmem, hdecoded⟩ := slotOf?_eq_some hnamed
      obtain ⟨after, htakes⟩ := h named hmem
      rw [under_cons_of_named hdecoded] at htakes
      obtain ⟨hnone, hbefore, found, meant, -⟩ := htakes.of_cons
      have hmiddle : fillOne? slots draft entry = some (named.setPart found draft) := by
        simp only [fillOne?, hnamed, Slot.fill?, hbefore, meant]
        rfl
      have hlater : ∀ slot ∈ slots, ∃ after,
          slot.Takes (Value.under entries slot.key) (slot.part (named.setPart found draft))
            after := by
        intro slot hslot
        by_cases hkey : named.key = slot.key
        · obtain rfl := independent.eq_of_key_eq hmem hslot hkey
          rw [hnone]
          exact ⟨_, .nothing⟩
        · rw [independent.frame named hmem slot hslot hkey,
            ← under_cons_of_other (key_ne_of_decode hdecoded hkey)]
          exact h slot hslot
      obtain ⟨filled, hfilled⟩ := ih hlater
      exact ⟨filled, Option.bind_eq_some_iff.mpr ⟨_, hmiddle, hfilled⟩⟩

/-! ## Values in the order of the slots -/

def fillItems? : Draft → List (Slot Draft) → List Value → Option Draft
  | draft, [], [] => some draft
  | draft, slot :: slots, value :: values =>
    (slot.meaning value).bind fun found ↦ fillItems? (slot.setPart found draft) slots values
  | _, _, _ => none

/-- The part of a slot holds what the only value under its key means. -/
def Slot.FoundIn (slot : Slot Draft) (entries : List Entry) (draft : Draft) : Prop :=
  ∃ value found, Value.only? entries slot.key = some value ∧ slot.meaning value = some found ∧
    slot.part draft = some found

theorem only?_eq_some_iff {entries : List Entry} {key : String} {value : Value} :
    Value.only? entries key = some value ↔ Value.under entries key = [value] := by
  unfold Value.only?
  split <;> simp_all

section

variable {chosen : List (Slot Draft)}

theorem part_of_fillItems? (independent : Independent slots)
    (hchosen : ∀ slot ∈ chosen, slot ∈ slots)
    {draft filled : Draft} {values : List Value} (h : fillItems? draft chosen values = some filled)
    {slot : Slot Draft} (hslot : slot ∈ slots) (hkey : slot.key ∉ chosen.map Slot.key) :
    slot.part filled = slot.part draft := by
  induction chosen generalizing draft values with
  | nil =>
    cases values with
    | nil => rw [Option.some.inj h]
    | cons value values => cases h
  | cons head chosen ih =>
    cases values with
    | nil => cases h
    | cons value values =>
      obtain ⟨found, -, hlater⟩ := Option.bind_eq_some_iff.mp h
      obtain ⟨hhead, htail⟩ := List.forall_mem_cons.mp hchosen
      rw [List.map_cons, List.mem_cons, not_or] at hkey
      rw [ih htail hlater hkey.2]
      exact independent.frame head hhead slot hslot (Ne.symm hkey.1) found draft

theorem foundIn_of_fillItems? (independent : Independent slots)
    (hchosen : ∀ slot ∈ chosen, slot ∈ slots) (hnodup : (chosen.map Slot.key).Nodup)
    {draft filled : Draft} {entries : List Entry} {values : List Value}
    (hvalues : (chosen.map Slot.key).mapM (Value.only? entries) = some values)
    (h : fillItems? draft chosen values = some filled) {slot : Slot Draft} (hslot : slot ∈ chosen) :
    slot.FoundIn entries filled := by
  induction chosen generalizing draft values with
  | nil => cases hslot
  | cons head chosen ih =>
    obtain ⟨value, others, hvalue, hothers, rfl⟩ := mapM_cons_eq_some_iff.mp hvalues
    obtain ⟨found, meant, hlater⟩ := Option.bind_eq_some_iff.mp h
    obtain ⟨hhead, htail⟩ := List.forall_mem_cons.mp hchosen
    obtain ⟨hfresh, hnodup⟩ := List.nodup_cons.mp hnodup
    obtain rfl | hslot := List.mem_cons.mp hslot
    · refine ⟨value, found, hvalue, meant, ?_⟩
      rw [part_of_fillItems? independent htail hlater hhead hfresh, slot.part_setPart]
    · exact ih htail hnodup hothers hlater hslot

theorem exists_fillItems? (draft : Draft) {filled : Draft} {entries : List Entry}
    (h : ∀ slot ∈ chosen, slot.FoundIn entries filled) :
    ∃ values result, (chosen.map Slot.key).mapM (Value.only? entries) = some values ∧
      fillItems? draft chosen values = some result := by
  induction chosen generalizing draft with
  | nil => exact ⟨[], draft, rfl, rfl⟩
  | cons head chosen ih =>
    obtain ⟨⟨value, found, hvalue, meant, -⟩, htail⟩ := List.forall_mem_cons.mp h
    obtain ⟨others, result, hothers, hresult⟩ := ih (head.setPart found draft) htail
    exact ⟨value :: others, result, mapM_cons_eq_some_iff.mpr ⟨_, _, hvalue, hothers, rfl⟩,
      Option.bind_eq_some_iff.mpr ⟨found, meant, hresult⟩⟩

end

section

variable {start filled : Draft} {entries : List Entry}

/-- Two drafts that hold what an object has under its keys are the same. -/
theorem Independent.eq_of_foundIn (independent : Independent slots) {result : Draft}
    (h : ∀ slot ∈ slots, slot.FoundIn entries filled)
    (h' : ∀ slot ∈ slots, slot.FoundIn entries result) : filled = result := by
  apply independent.ext
  intro slot hslot
  obtain ⟨value, found, hvalue, meant, hpart⟩ := h slot hslot
  obtain ⟨value', found', hvalue', meant', hpart'⟩ := h' slot hslot
  obtain rfl := Option.some.inj (hvalue.symm.trans hvalue')
  rw [hpart, hpart', ← meant, ← meant']

/-- The entries of an object complete an empty draft when every key comes once. -/
theorem fillEntries?_complete_iff (independent : Independent slots)
    (hstart : ∀ slot ∈ slots, slot.part start = none) :
    (fillEntries? slots start entries = some filled ∧
        ∀ slot ∈ slots, (slot.part filled).isSome = true) ↔
      ∀ slot ∈ slots, slot.FoundIn entries filled := by
  have hforward {result : Draft} (h : fillEntries? slots start entries = some result)
      {slot : Slot Draft} (hslot : slot ∈ slots) (hsome : (slot.part result).isSome = true) :
      slot.FoundIn entries result := by
    have htakes := takes_of_fillEntries? independent h hslot
    rw [hstart slot hslot] at htakes
    obtain ⟨value, found, hvalues, meant, hpart⟩ := htakes.of_none hsome
    exact ⟨value, found, only?_eq_some_iff.mpr hvalues, meant, hpart⟩
  constructor
  · rintro ⟨h, hsome⟩ slot hslot
    exact hforward h hslot (hsome slot hslot)
  · intro h
    have htakes : ∀ slot ∈ slots, ∃ after,
        slot.Takes (Value.under entries slot.key) (slot.part start) after := by
      intro slot hslot
      obtain ⟨value, found, hvalue, meant, -⟩ := h slot hslot
      rw [only?_eq_some_iff.mp hvalue, hstart slot hslot]
      exact ⟨_, .once meant⟩
    -- Some draft is filled, and it can only be the given one.
    obtain ⟨result, hresult⟩ := exists_fillEntries? independent htakes
    have hfound : ∀ slot ∈ slots, slot.FoundIn entries result := by
      intro slot hslot
      obtain ⟨value, found, hvalue, meant, -⟩ := h slot hslot
      apply hforward hresult hslot
      have htaken := takes_of_fillEntries? independent hresult hslot
      rw [only?_eq_some_iff.mp hvalue] at htaken
      obtain ⟨-, -, found', -, hpart⟩ := htaken.of_cons
      rw [hpart]
      rfl
    obtain rfl := independent.eq_of_foundIn h hfound
    refine ⟨hresult, fun slot hslot ↦ ?_⟩
    obtain ⟨value, found, -, -, hpart⟩ := h slot hslot
    rw [hpart]
    rfl

/-- The values under the keys of an object, in the order of the slots, fill a draft in the same
way. -/
theorem exists_fillItems?_iff (independent : Independent slots) :
    (∃ values, (slots.map Slot.key).mapM (Value.only? entries) = some values ∧
        fillItems? start slots values = some filled) ↔
      ∀ slot ∈ slots, slot.FoundIn entries filled := by
  have hforward {values : List Value} {result : Draft}
      (hvalues : (slots.map Slot.key).mapM (Value.only? entries) = some values)
      (hresult : fillItems? start slots values = some result) :
      ∀ slot ∈ slots, slot.FoundIn entries result := by
    intro slot hslot
    exact foundIn_of_fillItems? independent (fun _ hmem ↦ hmem) independent.keys_nodup hvalues
      hresult hslot
  constructor
  · rintro ⟨values, hvalues, hfilled⟩
    exact hforward hvalues hfilled
  · intro h
    obtain ⟨values, result, hvalues, hresult⟩ := exists_fillItems? start h
    obtain rfl := independent.eq_of_foundIn h (hforward hvalues hresult)
    exact ⟨values, hvalues, hresult⟩

end

end

end StatementLang.Json
