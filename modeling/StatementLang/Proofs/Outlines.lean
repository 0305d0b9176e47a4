import StatementLang.Outline
import StatementLang.Proofs.Quoted

/-!
# Outlines Are Known from Their Lines

On indented lines an outline begins with a line that tells by its last character what it is: an
atom, something wrapped, or a record.  Its parts stand deeper than the line that closes it.  An
outline is therefore known from its lines, provided that no text in it breaks a line.  The outlines
of statements are of this kind whatever texts their tokens have.
-/

namespace StatementLang

namespace Outline

mutual

/-- No text of an outline breaks a line, and no name of a part has a colon. -/
def IsPlain : Outline → Prop
  | atom text => '\n' ∉ text
  | wrapped title inner => '\n' ∉ title.toList ∧ inner.IsPlain
  | record title parts => '\n' ∉ title.toList ∧ ArePlain parts

/-- So it is for each of some named parts. -/
def ArePlain : List (String × Outline) → Prop
  | [] => True
  | (name, part) :: parts => ':' ∉ name.toList ∧ part.IsPlain ∧ ArePlain parts

end

/-- The first line of an outline with a comma behind it, and the character that ends the line. -/
def heading : Outline → List Char × Char
  | atom text => (text, ',')
  | wrapped title _ => (title.toList, '(')
  | record title _ => (title.toList ++ [' '], '\x7b')

/-- The lines behind the first line of an outline with a comma and a text behind it. -/
def remainder (depth : Nat) (rest : List Char) : Outline → List Char
  | atom _ => rest
  | wrapped _ inner =>
    newLine (depth + 1) ++
      (inner.indented (depth + 1) ++ ',' :: (newLine depth ++ ')' :: ',' :: rest))
  | record _ parts =>
    indentedParts (depth + 1) parts ++ (newLine depth ++ '\x7d' :: ',' :: rest)

/-- Two outlines are of one shape and have the same text in their first lines. -/
def Alike : Outline → Outline → Prop
  | atom text, atom text' => text = text'
  | wrapped title _, wrapped title' _ => title = title'
  | record title _, record title' _ => title = title'
  | _, _ => False

theorem indented_append (depth : Nat) (outline : Outline) (rest : List Char) :
    outline.indented depth ++ ',' :: rest =
      (outline.heading.1 ++ [outline.heading.2]) ++ outline.remainder depth rest := by
  cases outline <;> simp [indented, heading, remainder]

theorem alike_of_heading {outline other : Outline} (h : outline.heading = other.heading) :
    outline.Alike other := by
  cases outline <;> cases other <;> simp_all [heading, Alike, String.toList_inj]

theorem newLine_not_mem_heading {outline : Outline} (h : outline.IsPlain) :
    '\n' ∉ outline.heading.1 ++ [outline.heading.2] := by
  cases outline <;> simp_all [heading, IsPlain]

theorem head?_indentedParts_append (depth : Nat) (parts : List (String × Outline))
    (rest : List Char) :
    (indentedParts (depth + 1) parts ++ (newLine depth ++ rest)).head? = some '\n' := by
  cases parts <;> rfl

theorem head?_remainder {rest : List Char} (h : rest.head? = some '\n') (depth : Nat)
    (outline : Outline) : (outline.remainder depth rest).head? = some '\n' := by
  cases outline with
  | atom => exact h
  | wrapped => rfl
  | record title parts => exact head?_indentedParts_append depth parts _

/-- Equal texts have equal first lines. -/
theorem line_unique {line line' rest rest' : List Char} (same : line ++ rest = line' ++ rest')
    (h : '\n' ∉ line) (h' : '\n' ∉ line') (starts : rest.head? = some '\n')
    (starts' : rest'.head? = some '\n') : line = line' ∧ rest = rest' := by
  obtain ⟨later, rfl⟩ := List.head?_eq_some_iff.mp starts
  obtain ⟨later', rfl⟩ := List.head?_eq_some_iff.mp starts'
  obtain ⟨hline, rfl⟩ := split_at_unique same h h'
  exact ⟨hline, rfl⟩

theorem alike_of_indented {outline other : Outline} (h : outline.IsPlain) (h' : other.IsPlain)
    {depth : Nat} {rest rest' : List Char} (starts : rest.head? = some '\n')
    (starts' : rest'.head? = some '\n')
    (same : outline.indented depth ++ ',' :: rest = other.indented depth ++ ',' :: rest') :
    outline.Alike other ∧ outline.remainder depth rest = other.remainder depth rest' := by
  rw [indented_append, indented_append] at same
  obtain ⟨hline, hremainder⟩ :=
    line_unique same (newLine_not_mem_heading h) (newLine_not_mem_heading h')
      (head?_remainder starts depth outline) (head?_remainder starts' depth other)
  obtain ⟨hfront, hend⟩ := List.append_inj' hline rfl
  exact ⟨alike_of_heading (Prod.ext hfront (List.cons.inj hend).1), hremainder⟩

theorem newLine_succ (depth : Nat) :
    newLine (depth + 1) = newLine depth ++ [' ', ' ', ' ', ' '] := by
  rw [newLine, newLine, Nat.mul_add, List.replicate_add]
  rfl

/-- A line that closes something is no line of what stands in it. -/
theorem closing_ne_inner {depth : Nat} {closing : Char} {rest behind : List Char}
    (h : closing ≠ ' ') : newLine depth ++ closing :: rest ≠ newLine (depth + 1) ++ behind := by
  rw [newLine_succ, List.append_assoc]
  intro same
  exact h (List.cons.inj (List.append_cancel_left same)).1

mutual

/-- An outline is known from its lines, whatever lines follow. -/
theorem eq_of_indented : ∀ {outline other : Outline}, outline.IsPlain → other.IsPlain →
    ∀ {depth : Nat} {rest rest' : List Char}, rest.head? = some '\n' → rest'.head? = some '\n' →
      outline.indented depth ++ ',' :: rest = other.indented depth ++ ',' :: rest' →
        outline = other ∧ rest = rest'
  | atom text, other, h, h', depth, rest, rest', starts, starts', same => by
    obtain ⟨halike, hremainder⟩ := alike_of_indented h h' starts starts' same
    cases other with
    | atom text' => exact ⟨congrArg atom halike, hremainder⟩
    | _ => exact halike.elim
  | wrapped title inner, other, h, h', depth, rest, rest', starts, starts', same => by
    obtain ⟨halike, hremainder⟩ := alike_of_indented h h' starts starts' same
    cases other with
    | wrapped title' inner' =>
      obtain rfl : title = title' := halike
      obtain ⟨rfl, hclosing⟩ :=
        eq_of_indented h.2 h'.2 (by rfl) (by rfl) (List.append_cancel_left hremainder)
      have hrest := List.append_cancel_left hclosing
      exact ⟨rfl, (List.cons.inj (List.cons.inj hrest).2).2⟩
    | _ => exact halike.elim
  | record title parts, other, h, h', depth, rest, rest', starts, starts', same => by
    obtain ⟨halike, hremainder⟩ := alike_of_indented h h' starts starts' same
    cases other with
    | record title' parts' =>
      obtain rfl : title = title' := halike
      obtain ⟨rfl, hrest⟩ := eq_of_indentedParts h.2 h'.2 hremainder
      exact ⟨rfl, (List.cons.inj hrest).2⟩
    | _ => exact halike.elim

theorem eq_of_indentedParts : ∀ {parts others : List (String × Outline)}, ArePlain parts →
    ArePlain others → ∀ {depth : Nat} {rest rest' : List Char},
      indentedParts (depth + 1) parts ++ (newLine depth ++ '\x7d' :: rest) =
          indentedParts (depth + 1) others ++ (newLine depth ++ '\x7d' :: rest') →
        parts = others ∧ rest = rest'
  | [], [], _, _, depth, rest, rest', same => by
    have hclosing : '\x7d' :: rest = '\x7d' :: rest' := List.append_cancel_left same
    exact ⟨rfl, (List.cons.inj hclosing).2⟩
  | [], (name, part) :: others, _, _, depth, rest, rest', same => by
    simp only [indentedParts, List.append_assoc] at same
    exact absurd same (closing_ne_inner (by decide))
  | (name, part) :: parts, [], _, _, depth, rest, rest', same => by
    simp only [indentedParts, List.append_assoc] at same
    exact absurd same.symm (closing_ne_inner (by decide))
  | (name, part) :: parts, (name', part') :: others, h, h', depth, rest, rest', same => by
    obtain ⟨hname, hpart, hparts⟩ := h
    obtain ⟨hname', hpart', hparts'⟩ := h'
    simp only [indentedParts, List.append_assoc] at same
    obtain ⟨hnames, hbehind⟩ := split_at_unique (List.append_cancel_left same) hname hname'
    obtain rfl := String.toList_injective hnames
    obtain ⟨rfl, hlater⟩ := eq_of_indented hpart hpart' (head?_indentedParts_append depth _ _)
      (head?_indentedParts_append depth _ _) (List.cons.inj hbehind).2
    obtain ⟨rfl, hrest⟩ := eq_of_indentedParts hparts hparts' hlater
    exact ⟨rfl, hrest⟩

end

/-- The lines of the items of a list, each with a comma behind it. -/
def itemLines (items : List Outline) : List Char :=
  items.flatMap fun item ↦ newLine 1 ++ item.indented 1 ++ [',']

theorem itemLines_cons_append (item : Outline) (items : List Outline) (rest : List Char) :
    itemLines (item :: items) ++ rest =
      newLine 1 ++ (item.indented 1 ++ ',' :: (itemLines items ++ rest)) := by
  simp [itemLines]

theorem head?_itemLines_append (items : List Outline) (rest : List Char) :
    (itemLines items ++ (newLine 0 ++ rest)).head? = some '\n' := by
  cases items <;> rfl

theorem eq_of_itemLines {items others : List Outline} (h : ∀ item ∈ items, item.IsPlain)
    (h' : ∀ item ∈ others, item.IsPlain)
    (same : itemLines items ++ (newLine 0 ++ [']']) = itemLines others ++ (newLine 0 ++ [']'])) :
    items = others := by
  induction items generalizing others with
  | nil =>
    cases others with
    | nil => rfl
    | cons other others =>
      rw [itemLines_cons_append] at same
      exact absurd same (closing_ne_inner (by decide))
  | cons item items ih =>
    obtain ⟨hitem, hitems⟩ := List.forall_mem_cons.mp h
    rw [itemLines_cons_append] at same
    cases others with
    | nil => exact absurd same.symm (closing_ne_inner (by decide))
    | cons other others =>
      obtain ⟨hother, hothers⟩ := List.forall_mem_cons.mp h'
      rw [itemLines_cons_append] at same
      obtain ⟨rfl, hlater⟩ :=
        eq_of_indented hitem hother (head?_itemLines_append items _)
          (head?_itemLines_append others _) (List.append_cancel_left same)
      rw [ih hitems hothers hlater]

theorem indentedList_cons (item : Outline) (items : List Outline) :
    indentedList (item :: items) = '[' :: (itemLines (item :: items) ++ (newLine 0 ++ [']'])) := by
  simp only [indentedList, itemLines, List.cons_append, List.append_assoc]

/-- A list of outlines is known from its lines. -/
theorem eq_of_indentedList {items others : List Outline} (h : ∀ item ∈ items, item.IsPlain)
    (h' : ∀ item ∈ others, item.IsPlain) (same : indentedList items = indentedList others) :
    items = others := by
  cases items with
  | nil =>
    cases others with
    | nil => rfl
    | cons other others =>
      rw [indentedList_cons, itemLines_cons_append] at same
      cases (List.cons.inj same).2
  | cons item items =>
    cases others with
    | nil =>
      rw [indentedList_cons, itemLines_cons_append] at same
      cases (List.cons.inj same).2
    | cons other others =>
      rw [indentedList_cons, indentedList_cons] at same
      exact eq_of_itemLines h h' (List.cons.inj same).2

/-! ## Outlines of values -/

theorem isPlain_ofNat (number : Nat) : (ofNat number).IsPlain := not_mem_decimal rfl number

theorem isPlain_ofBool (value : Bool) : (ofBool value).IsPlain := by
  cases value <;> simp [ofBool, IsPlain]

theorem isPlain_ofText? (text : Option String) : (ofText? text).IsPlain := by
  cases text <;> simp [ofText?, IsPlain, Text.newLine_not_mem_quote]

theorem ofNat_injective : Function.Injective ofNat := by
  intro number other h
  exact decimal_injective (atom.inj h)

theorem ofBool_injective : Function.Injective ofBool := by
  intro value other h
  cases value <;> cases other <;> simp_all [ofBool]

theorem ofText?_injective : Function.Injective ofText? := by
  intro text other h
  cases text <;> cases other <;> simp_all [ofText?, Text.quote_injective.eq_iff]

end Outline

theorem Kind.title_injective : Function.Injective Kind.title := by
  have all : ∀ first ∈ Kind.all, ∀ second ∈ Kind.all,
      first.title = second.title → first = second := by decide
  intro kind other h
  exact all kind (mem_all kind) other (mem_all other) h

theorem Kind.newLine_not_mem_title (kind : Kind) : '\n' ∉ kind.title.toList := by
  have all : ∀ kind ∈ Kind.all, '\n' ∉ kind.title.toList := by decide
  exact all kind (mem_all kind)

section

open Outline

theorem Token.isPlain_outline (token : Token) : token.outline.IsPlain := by
  simp [outline, IsPlain, ArePlain, isPlain_ofNat, isPlain_ofText?, Kind.newLine_not_mem_title]

theorem Token.outline_injective : Function.Injective Token.outline := by
  rintro ⟨kind, line, value⟩ ⟨kind', line', value'⟩ h
  simp only [outline, record.injEq, List.cons.injEq, Prod.mk.injEq, atom.injEq, String.toList_inj,
    Kind.title_injective.eq_iff, ofNat_injective.eq_iff, ofText?_injective.eq_iff, true_and,
    and_true] at h
  obtain ⟨rfl, rfl, rfl⟩ := h
  rfl

theorem Statement.isPlain_outline (statement : Statement) : statement.outline.IsPlain := by
  cases statement <;>
    simp [outline, expressionOutline, IsPlain, ArePlain, Token.isPlain_outline, isPlain_ofNat,
      isPlain_ofBool]

theorem Statement.outline_injective : Function.Injective Statement.outline := by
  intro statement other h
  cases statement with
  | quit value line =>
    cases other with
    | quit value' line' =>
      simpa [outline, expressionOutline, Token.outline_injective.eq_iff, ofNat_injective.eq_iff]
        using h
    | _ => simp [outline] at h
  | log value line =>
    cases other with
    | log value' line' =>
      simpa [outline, expressionOutline, Token.outline_injective.eq_iff, ofNat_injective.eq_iff]
        using h
    | _ => simp [outline] at h
  | declaration identifier value constant line =>
    cases other with
    | declaration identifier' value' constant' line' =>
      simpa [outline, Token.outline_injective.eq_iff, ofNat_injective.eq_iff,
        ofBool_injective.eq_iff] using h
    | _ => simp [outline] at h

end

end StatementLang
