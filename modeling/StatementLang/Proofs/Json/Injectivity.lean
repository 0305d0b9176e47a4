import StatementLang.Proofs.Digits
import StatementLang.Proofs.Json.Unambiguous
import StatementLang.Proofs.Json.Writing

/-!
# Documents Are Known from Their Texts

The text of a document is JSON of one value at most, and no two documents are written as the same
value.  The numbers and strings of a document are known from their digits and pieces, because these
are read back; arrays and objects follow by the structure of documents.
-/

namespace StatementLang.Json

theorem pieces_injective : Function.Injective pieces := by
  intro text other h
  apply String.toList_injective
  apply Option.some.inj
  rw [← decode_pieces text, ← decode_pieces other, h]

namespace Document

mutual

theorem toValue_injective : ∀ {document other : Document},
    document.toValue = other.toValue → document = other
  | bool _, other, h => by
    cases other <;> cases h
    rfl
  | number count, other, h => by
    cases other with
    | number count' =>
      have hnumeral := Value.number.inj h
      rw [decimal_injective (Numeral.mk.inj hnumeral).2.1]
    | _ => cases h
  | string text, other, h => by
    cases other with
    | string text' => rw [pieces_injective (Value.string.inj h)]
    | _ => cases h
  | array items, other, h => by
    cases other with
    | array items' => rw [itemValues_injective (Value.array.inj h)]
    | _ => cases h
  | object fields, other, h => by
    cases other with
    | object fields' => rw [fieldEntries_injective (Value.object.inj h)]
    | _ => cases h

theorem itemValues_injective : ∀ {items others : List Document},
    itemValues items = itemValues others → items = others
  | [], others, h => by
    cases others with
    | nil => rfl
    | cons => cases h
  | item :: items, others, h => by
    cases others with
    | nil => cases h
    | cons other others =>
      obtain ⟨hitem, hitems⟩ := List.cons.inj h
      rw [toValue_injective hitem, itemValues_injective hitems]

theorem fieldEntries_injective : ∀ {fields others : List (String × Document)},
    fieldEntries fields = fieldEntries others → fields = others
  | [], others, h => by
    cases others with
    | nil => rfl
    | cons => cases h
  | (key, value) :: fields, others, h => by
    cases others with
    | nil => cases h
    | cons other others =>
      obtain ⟨hentry, hfields⟩ := List.cons.inj h
      obtain ⟨hkey, hvalue⟩ := Prod.mk.inj hentry
      rw [pieces_injective hkey, toValue_injective hvalue, fieldEntries_injective hfields]

end

/-- Two documents have a text in common: the one on one line, or the one on indented lines. -/
def SharesText (document other : Document) : Prop :=
  document.toCompactString = other.toCompactString ∨
    document.toPrettyString = other.toPrettyString

/-- A document shares a text with itself alone. -/
theorem sharesText_iff {document other : Document} :
    document.SharesText other ↔ document = other := by
  constructor
  · rintro (h | h)
    · have json := isJson_toCompactString other
      rw [← h] at json
      exact toValue_injective ((isJson_toCompactString document).unique json)
    · have json := isJson_toPrettyString other
      rw [← h] at json
      exact toValue_injective ((isJson_toPrettyString document).unique json)
  · rintro rfl
    exact Or.inl rfl

end Document

end StatementLang.Json
