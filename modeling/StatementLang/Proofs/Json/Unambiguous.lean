import StatementLang.Proofs.Json.Marks
import StatementLang.Proofs.Json.Strings

/-!
# The Grammar Is Unambiguous

A text is one JSON value at most.  Where a numeral ends is not settled by the text of the numeral
alone, but by what can stand behind a value.
-/

namespace StatementLang.Json

/-- What is left behind blanks and a mark. -/
theorem Blanks.rest_eq {text rest rest' : List Char} {c : Char} (h : Blanks text (c :: rest))
    (h' : Blanks text (c :: rest')) (hc : isBlank c = false) : rest = rest' := by
  have hskip := (skipBlanks_eq_cons_iff hc).mpr h
  have hskip' := (skipBlanks_eq_cons_iff hc).mpr h'
  exact (List.cons.inj (hskip.symm.trans hskip')).2

theorem SpellsString.unique {text rest rest' : List Char} {pieces pieces' : List Piece}
    (h : SpellsString text pieces rest) (h' : SpellsString text pieces' rest') :
    pieces = pieces' ∧ rest = rest' := by
  induction h generalizing pieces' with
  | closed =>
    cases h' with
    | closed => exact ⟨rfl, rfl⟩
    | plain notQuote => exact absurd rfl notQuote
  | plain notQuote notEscape _ _ ih =>
    cases h' with
    | closed => exact absurd rfl notQuote
    | plain _ _ _ later =>
      obtain ⟨rfl, rfl⟩ := ih later
      exact ⟨rfl, rfl⟩
    | short | numeric => exact absurd rfl notEscape
  | short known _ ih =>
    cases h' with
    | plain _ notEscape => exact absurd rfl notEscape
    | short known' later =>
      obtain ⟨rfl, rfl⟩ := ih later
      have hknown := shortEscape?_eq_some_iff.mpr known
      rw [Option.some.inj (hknown.symm.trans (shortEscape?_eq_some_iff.mpr known'))]
      exact ⟨rfl, rfl⟩
    | numeric => exact absurd rfl (ne_u_of_shortEscape? (shortEscape?_eq_some_iff.mpr known))
  | numeric hexadecimal _ ih =>
    cases h' with
    | plain _ notEscape => exact absurd rfl notEscape
    | short known' =>
      exact absurd rfl (ne_u_of_shortEscape? (shortEscape?_eq_some_iff.mpr known'))
    | numeric hexadecimal' later =>
      obtain ⟨rfl, rfl⟩ := ih later
      rw [Option.some.inj (hexadecimal.symm.trans hexadecimal')]
      exact ⟨rfl, rfl⟩

/-- The number of the kind of a value. -/
def Value.kind : Value → Nat
  | null => 0
  | bool _ => 1
  | number _ => 2
  | string _ => 3
  | array _ => 4
  | object _ => 5

theorem Value.Opens.kind_eq {value other : Value} {c : Char} (h : value.Opens c)
    (h' : other.Opens c) : value.kind = other.kind := by
  cases value <;> cases other <;> simp_all [Value.Opens, Value.kind]
  · rcases h with rfl | rfl <;> simp at h'
  · rcases h' with rfl | rfl <;> simp at h

/-- How a value is written at the front of a text. -/
def Value.IsWritten (text rest : List Char) : Value → Prop
  | null => text = 'n' :: 'u' :: 'l' :: 'l' :: rest
  | bool truth => text = flag truth ++ rest
  | number numeral => ∃ body, text = body ++ rest ∧ SpellsNumeral body numeral
  | string pieces => ∃ tail, text = '"' :: tail ∧ SpellsString tail pieces rest
  | array items => ∃ tail, text = '[' :: tail ∧ Spells tail (.items true items) rest
  | object entries => ∃ tail, text = '\x7b' :: tail ∧ Spells tail (.entries true entries) rest

theorem Spells.isWritten {text rest : List Char} {value : Value}
    (h : Spells text (.value value) rest) : value.IsWritten text rest := by
  cases h with
  | null => rfl
  | bool truth => rfl
  | number spelled => exact ⟨_, rfl, spelled⟩
  | string spelled => exact ⟨_, rfl, spelled⟩
  | array spelled => exact ⟨_, rfl, spelled⟩
  | object spelled => exact ⟨_, rfl, spelled⟩

/-- Two values at the front of one text are of one kind. -/
theorem Spells.kind_eq {text rest rest' : List Char} {value other : Value}
    (h : Spells text (.value value) rest) (h' : Spells text (.value other) rest') :
    value.kind = other.kind := by
  obtain ⟨c, others, rfl, hopens⟩ := h.opens
  obtain ⟨d, others', htext, hopens'⟩ := h'.opens
  obtain ⟨rfl, -⟩ := List.cons.inj htext
  exact hopens.kind_eq hopens'

/-- A text begins with one phrase of its kind only. -/
def Phrase.IsSole (text : List Char) : Phrase → List Char → Prop
  | value v, rest => ∀ other rest', Spells text (.value other) rest' → Follows rest →
    Follows rest' → v = other ∧ rest = rest'
  | items first values, rest => ∀ others rest', Spells text (.items first others) rest' →
    values = others ∧ rest = rest'
  | entries first list, rest => ∀ others rest', Spells text (.entries first others) rest' →
    list = others ∧ rest = rest'

theorem Spells.isSole {text rest : List Char} {phrase : Phrase} (h : Spells text phrase rest) :
    phrase.IsSole text rest := by
  induction h with
  | null =>
    intro other rest' h' _ _
    have hkind := Spells.null.kind_eq h'
    have hwritten := h'.isWritten
    cases other <;> cases hkind
    cases hwritten
    exact ⟨rfl, rfl⟩
  | @bool truth rest =>
    intro other rest' h' _ _
    have hkind := (Spells.bool truth).kind_eq h'
    have hwritten := h'.isWritten
    cases other <;> cases hkind
    rename_i truth'
    cases truth <;> cases truth' <;> simp_all [Value.IsWritten, flag]
  | @number body rest value spelled =>
    intro other rest' h' hrest hrest'
    have hkind := (Spells.number spelled).kind_eq h'
    have hwritten := h'.isWritten
    cases other <;> cases hkind
    obtain ⟨body', htext, spelled'⟩ := hwritten
    -- Both texts are what is read as a numeral, since neither can go on behind its value.
    have hread := numeral_append spelled hrest
    rw [htext, numeral_append spelled' hrest'] at hread
    obtain ⟨rfl, rfl⟩ := Prod.mk.inj (Except.ok.inj hread)
    exact ⟨rfl, rfl⟩
  | @string text rest pieces spelled =>
    intro other rest' h' _ _
    have hkind := (Spells.string spelled).kind_eq h'
    have hwritten := h'.isWritten
    cases other <;> cases hkind
    obtain ⟨tail, htext, spelled'⟩ := hwritten
    obtain ⟨-, rfl⟩ := List.cons.inj htext
    obtain ⟨rfl, rfl⟩ := spelled.unique spelled'
    exact ⟨rfl, rfl⟩
  | array spelled ih =>
    intro other rest' h' _ _
    have hkind := (Spells.array spelled).kind_eq h'
    have hwritten := h'.isWritten
    cases other <;> cases hkind
    obtain ⟨tail, htext, spelled'⟩ := hwritten
    obtain ⟨-, rfl⟩ := List.cons.inj htext
    obtain ⟨rfl, rfl⟩ := ih _ _ spelled'
    exact ⟨rfl, rfl⟩
  | object spelled ih =>
    intro other rest' h' _ _
    have hkind := (Spells.object spelled).kind_eq h'
    have hwritten := h'.isWritten
    cases other <;> cases hkind
    obtain ⟨tail, htext, spelled'⟩ := hwritten
    obtain ⟨-, rfl⟩ := List.cons.inj htext
    obtain ⟨rfl, rfl⟩ := ih _ _ spelled'
    exact ⟨rfl, rfl⟩
  | @noItem first text rest closing =>
    intro others rest' h'
    have hclosed : nextItem first text = .ok (.closed rest) := nextItem_eq_closed_iff.mpr closing
    cases h' with
    | noItem closing' => exact ⟨rfl, closing.rest_eq closing' (by decide)⟩
    | item separated spelled => cases hclosed.symm.trans (nextItem_of_separates separated spelled)
  | @item first text start next rest value items separated spelled later ihValue ihLater =>
    intro others rest' h'
    have hstarts := nextItem_of_separates separated spelled
    cases h' with
    | noItem closing' => cases hstarts.symm.trans (nextItem_eq_closed_iff.mpr closing')
    | item separated' spelled' later' =>
      have hstarts' := nextItem_of_separates separated' spelled'
      obtain rfl := Member.starts.inj (Except.ok.inj (hstarts.symm.trans hstarts'))
      obtain ⟨rfl, rfl⟩ := ihValue _ _ spelled' later.follows_items later'.follows_items
      obtain ⟨rfl, rfl⟩ := ihLater _ _ later'
      exact ⟨rfl, rfl⟩
  | @noEntry first text rest closing =>
    intro others rest' h'
    have hclosed : nextField first text = .ok (.closed rest) := nextField_eq_closed_iff.mpr closing
    cases h' with
    | noEntry closing' => exact ⟨rfl, closing.rest_eq closing' (by decide)⟩
    | entry separated => cases hclosed.symm.trans (nextField_of_separates separated)
  | entry separated named hcolon blank spelled later ihValue ihLater =>
    intro others rest' h'
    have hstarts := nextField_of_separates separated
    cases h' with
    | noEntry closing' => cases hstarts.symm.trans (nextField_eq_closed_iff.mpr closing')
    | entry separated' named' hcolon' blank' spelled' later' =>
      have hstarts' := nextField_of_separates separated'
      obtain rfl := Member.starts.inj (Except.ok.inj (hstarts.symm.trans hstarts'))
      obtain ⟨rfl, rfl⟩ := named.unique named'
      obtain rfl := hcolon.rest_eq hcolon' (by decide)
      obtain rfl := (spelled.skipBlanks_eq blank).symm.trans (spelled'.skipBlanks_eq blank')
      obtain ⟨rfl, rfl⟩ := ihValue _ _ spelled' later.follows_entries later'.follows_entries
      obtain ⟨rfl, rfl⟩ := ihLater _ _ later'
      exact ⟨rfl, rfl⟩

/-- A text is one JSON value at most. -/
theorem IsJson.unique {text : List Char} {value other : Value} (h : IsJson text value)
    (h' : IsJson text other) : value = other := by
  obtain ⟨start, rest, blank, spelled, hend⟩ := h
  obtain ⟨start', rest', blank', spelled', hend'⟩ := h'
  obtain rfl := (spelled.skipBlanks_eq blank).symm.trans (spelled'.skipBlanks_eq blank')
  exact (spelled.isSole _ _ spelled' (follows_of_blanks_nil hend) (follows_of_blanks_nil hend')).1

end StatementLang.Json
