import StatementLang.Json.Skip
import StatementLang.Proofs.Json.Marks
import StatementLang.Proofs.Json.Strings

/-!
# Skipped Values Follow the Grammar

Passing a value succeeds on the values of the grammar alone.  Passing goes on up to the end of the
outermost open bracket, so that what is found is a value and, behind it, the members left in each of
the brackets around it.
-/

namespace StatementLang.Json

section

variable {text rest : List Char}

theorem exists_spells_of_skipScalar (h : skipScalar text = .ok rest) :
    ∃ value, Spells text (.value value) rest := by
  unfold skipScalar at h
  split at h
  · cases h
  · obtain ⟨pieces, spelled⟩ := exists_spellsString_of_skipStringTail h
    exact ⟨.string pieces, .string spelled⟩
  · obtain rfl := literal_eq_ok_iff.mp h
    exact ⟨.null, .null⟩
  · obtain rfl := literal_eq_ok_iff.mp h
    exact ⟨.bool true, .bool true⟩
  · obtain rfl := literal_eq_ok_iff.mp h
    exact ⟨.bool false, .bool false⟩
  · split at h
    · unfold skipNumeral at h
      split at h
      · rename_i value later hnumeral
        obtain rfl := Except.ok.inj h
        obtain ⟨body, hbody, spelled⟩ := spellsNumeral_of_numeral hnumeral
        rw [hbody]
        exact ⟨.number value, .number spelled⟩
      · cases h
    · cases h

theorem skipScalar_flag (value : Bool) : skipScalar (flag value ++ rest) = .ok rest := by
  cases value with
  | true => exact literal_eq_ok_iff.mpr rfl
  | false => exact literal_eq_ok_iff.mpr rfl

theorem skipScalar_of_numeral {c : Char} (hc : c = '-' ∨ c.isDigit = true) :
    skipScalar (c :: text) = skipNumeral (c :: text) := by
  unfold skipScalar
  split
  case h_6 htext =>
    obtain ⟨rfl, rfl⟩ := List.cons.inj htext
    rw [if_pos hc]
  all_goals
    rename_i htext
    cases htext
  all_goals exact absurd hc (by decide)

theorem skipScalar_numeral {body : List Char} {value : Numeral} (spelled : SpellsNumeral body value)
    (hrest : Follows rest) : skipScalar (body ++ rest) = .ok rest := by
  have hnumeral := numeral_append spelled hrest
  obtain ⟨c, others, rfl, hc⟩ := spelled.exists_cons
  rw [List.cons_append] at hnumeral ⊢
  rw [skipScalar_of_numeral hc, skipNumeral, hnumeral]

end

section

variable {outer : List Bracket} {first : Bool} {text start rest : List Char}

theorem skipValueIn_of_scalar {enclosing : List Bracket}
    (h : skipScalar (skipBlanks text) = .ok rest) :
    skipValueIn enclosing text = skipMembersIn enclosing false rest := by
  rw [skipValueIn]
  split
  · rename_i htext
    rw [htext] at h
    cases h
  · rename_i htext
    rw [htext] at h
    cases h
  · split
    · rename_i later hlater
      rw [Except.ok.inj (h.symm.trans hlater)]
    · rename_i error herror
      cases h.symm.trans herror

theorem skipMembersIn_array_closed (h : nextItem first text = .ok (.closed rest)) :
    skipMembersIn (.array :: outer) first text = skipMembersIn outer false rest := by
  rw [skipMembersIn]
  split <;> simp_all

theorem skipMembersIn_array_starts (h : nextItem first text = .ok (.starts start)) :
    skipMembersIn (.array :: outer) first text = skipValueIn (.array :: outer) start := by
  rw [skipMembersIn]
  split <;> simp_all

theorem skipMembersIn_object_closed (h : nextField first text = .ok (.closed rest)) :
    skipMembersIn (.object :: outer) first text = skipMembersIn outer false rest := by
  rw [skipMembersIn]
  split <;> simp_all

theorem skipMembersIn_object_starts (h : nextField first text = .ok (.starts start))
    (hkey : skipKey start = .ok rest) :
    skipMembersIn (.object :: outer) first text = skipValueIn (.object :: outer) rest := by
  rw [skipMembersIn]
  split <;> simp_all
  split <;> simp_all

end

/-- A text closes the open brackets, the innermost first, and the rest is left. -/
def Closes : List Bracket → Bool → List Char → List Char → Prop
  | [], _, text, rest => text = rest
  | .array :: outer, first, text, rest =>
    ∃ items next, Spells text (.items first items) next ∧ Closes outer false next rest
  | .object :: outer, first, text, rest =>
    ∃ entries next, Spells text (.entries first entries) next ∧ Closes outer false next rest

/-- A value stands behind blanks, and behind it the text closes the open brackets. -/
def Holds (enclosing : List Bracket) (text rest : List Char) : Prop :=
  ∃ start value next, Blanks text start ∧ Spells start (.value value) next ∧
    Closes enclosing false next rest

theorem Holds.item {outer : List Bracket} {first : Bool} {text start rest : List Char}
    (h : Holds (.array :: outer) start rest) (separated : Separates first text start) :
    Closes (.array :: outer) first text rest := by
  obtain ⟨valueStart, value, behind, blank, spelled, items, next, later, closes⟩ := h
  exact ⟨value :: items, next, .item (separated.trans blank) spelled later, closes⟩

theorem Holds.entry {outer : List Bracket} {first : Bool} {text start afterKey : List Char}
    {rest : List Char} (h : Holds (.object :: outer) afterKey rest)
    (separated : Separates first text ('"' :: start)) (hkey : skipKey start = .ok afterKey) :
    Closes (.object :: outer) first text rest := by
  obtain ⟨valueStart, value, behind, blank, spelled, entries, next, later, closes⟩ := h
  obtain ⟨beforeColon, hname, hcolon⟩ := bind_eq_ok_iff.mp hkey
  obtain ⟨key, named⟩ := exists_spellsString_of_skipStringTail hname
  exact ⟨(key, value) :: entries, next,
    .entry separated named (colon_eq_ok_iff.mp hcolon) blank spelled later, closes⟩

/-- What is passed has the form that the open brackets ask for. -/
theorem closes_of_skip :
    (∀ enclosing text, ∀ rest, skipValueIn enclosing text = .ok rest →
      Holds enclosing text rest) ∧
    (∀ enclosing first text, ∀ rest, skipMembersIn enclosing first text = .ok rest →
      Closes enclosing first text rest) := by
  -- By the recursion of passing: first the kinds of a value, then the members in a bracket.
  apply skipValueIn.mutual_induct
  · intro enclosing text later atHead ih rest h
    have hblank := blanks_skipBlanks text
    rw [skipValueIn, atHead] at h
    rw [atHead] at hblank
    obtain ⟨items, next, spelled, closes⟩ := ih rest h
    exact ⟨_, .array items, next, hblank, .array spelled, closes⟩
  · intro enclosing text later atHead ih rest h
    have hblank := blanks_skipBlanks text
    rw [skipValueIn, atHead] at h
    rw [atHead] at hblank
    obtain ⟨entries, next, spelled, closes⟩ := ih rest h
    exact ⟨_, .object entries, next, hblank, .object spelled, closes⟩
  · intro enclosing text later notArray notObject scalar_eq ih rest h
    rw [skipValueIn_of_scalar scalar_eq] at h
    obtain ⟨value, spelled⟩ := exists_spells_of_skipScalar scalar_eq
    exact ⟨_, value, later, blanks_skipBlanks text, spelled, ih rest h⟩
  · intro enclosing text error notArray notObject scalar_eq rest h
    rw [skipValueIn] at h
    grind
  · intro first text rest h
    rw [skipMembersIn] at h
    exact Except.ok.inj h
  · intro first text outer later closed_eq ih rest h
    rw [skipMembersIn_array_closed closed_eq] at h
    exact ⟨[], later, .noItem (nextItem_eq_closed_iff.mp closed_eq), ih rest h⟩
  · intro first text outer start starts_eq ih rest h
    rw [skipMembersIn_array_starts starts_eq] at h
    exact (ih rest h).item (separates_of_nextItem starts_eq)
  · intro first text outer error error_eq rest h
    rw [skipMembersIn] at h
    grind
  · intro first text outer later closed_eq ih rest h
    rw [skipMembersIn_object_closed closed_eq] at h
    exact ⟨[], later, .noEntry (nextField_eq_closed_iff.mp closed_eq), ih rest h⟩
  · intro first text outer start starts_eq later key_eq ih rest h
    rw [skipMembersIn_object_starts starts_eq key_eq] at h
    exact (ih rest h).entry (separates_of_nextField starts_eq) key_eq
  · intro first text outer start starts_eq error key_eq rest h
    rw [skipMembersIn] at h
    grind
  · intro first text outer error error_eq rest h
    rw [skipMembersIn] at h
    grind

/-- What is passed as one value is a value of the grammar. -/
theorem exists_spells_of_skipValue {text rest : List Char} (h : skipValue text = .ok rest) :
    ∃ start value, Blanks text start ∧ Spells start (.value value) rest := by
  obtain ⟨start, value, next, blank, spelled, rfl⟩ := closes_of_skip.1 [] text rest h
  exact ⟨start, value, blank, spelled⟩

/-- A phrase is passed whatever brackets are open around it. -/
def Phrase.IsPassed (text : List Char) : Phrase → List Char → Prop
  | value _, rest => ∀ enclosing before, Blanks before text → Follows rest →
    skipValueIn enclosing before = skipMembersIn enclosing false rest
  | items first _, rest => ∀ outer,
    skipMembersIn (.array :: outer) first text = skipMembersIn outer false rest
  | entries first _, rest => ∀ outer,
    skipMembersIn (.object :: outer) first text = skipMembersIn outer false rest

theorem Spells.isPassed {text rest : List Char} {phrase : Phrase} (h : Spells text phrase rest) :
    phrase.IsPassed text rest := by
  induction h with
  | null =>
    intro enclosing before blank _
    apply skipValueIn_of_scalar
    rw [(skipBlanks_eq_cons_iff (by decide)).mpr blank]
    exact literal_eq_ok_iff.mpr rfl
  | bool value =>
    intro enclosing before blank _
    apply skipValueIn_of_scalar
    rw [(Spells.bool value).skipBlanks_eq blank]
    exact skipScalar_flag value
  | number spelled =>
    intro enclosing before blank follows
    apply skipValueIn_of_scalar
    rw [(Spells.number spelled).skipBlanks_eq blank]
    exact skipScalar_numeral spelled follows
  | string spelled =>
    intro enclosing before blank _
    apply skipValueIn_of_scalar
    rw [(Spells.string spelled).skipBlanks_eq blank]
    exact skipStringTail_of_spellsString spelled
  | array spelled ih =>
    intro enclosing before blank _
    rw [skipValueIn, (Spells.array spelled).skipBlanks_eq blank]
    exact ih enclosing
  | object spelled ih =>
    intro enclosing before blank _
    rw [skipValueIn, (Spells.object spelled).skipBlanks_eq blank]
    exact ih enclosing
  | noItem closing =>
    intro outer
    exact skipMembersIn_array_closed (nextItem_eq_closed_iff.mpr closing)
  | item separated spelled later ihValue ihLater =>
    intro outer
    rw [skipMembersIn_array_starts (nextItem_of_separates separated spelled),
      ihValue _ _ (blanks_refl _) later.follows_items, ihLater outer]
  | noEntry closing =>
    intro outer
    exact skipMembersIn_object_closed (nextField_eq_closed_iff.mpr closing)
  | @entry _ _ start afterKey afterColon _ _ _ _ _ _ separated named hcolon blank spelled later
      ihValue ihLater =>
    intro outer
    have hkey : skipKey start = .ok afterColon :=
      bind_eq_ok_iff.mpr ⟨afterKey, skipStringTail_of_spellsString named,
        colon_eq_ok_iff.mpr hcolon⟩
    rw [skipMembersIn_object_starts (nextField_of_separates separated) hkey,
      ihValue _ _ blank later.follows_entries, ihLater outer]

/-- Every value of the grammar is passed. -/
theorem skipValue_of_spells {text start rest : List Char} {value : Value}
    (blank : Blanks text start) (spelled : Spells start (.value value) rest)
    (hrest : Follows rest) : skipValue text = .ok rest := by
  have hpassed := spelled.isPassed [] text blank hrest
  rwa [skipMembersIn] at hpassed

end StatementLang.Json
