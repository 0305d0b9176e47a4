import StatementLang.Proofs.Json.Writing

/-!
# The Two Layouts of a Document

Outside its string literals, the text of a document on indented lines has spaces and line feeds that
the text on one line does not have.  Nothing else differs.  A literal goes on up to the first quote
that is not escaped, so that deleting blanks has to keep in step with the escapes inside it.
-/

namespace StatementLang.Json

/-- Where a character stands: outside all literals, in a literal, or in one behind a backslash. -/
inductive Site where
  | outside
  | inside
  | escaped
deriving DecidableEq, Repr

/-- The site behind a character. -/
def Site.behind (c : Char) : Site → Site
  | outside => if c = '"' then inside else outside
  | inside => if c = '"' then outside else if c = '\\' then escaped else inside
  | escaped => inside

/-- A text that starts at a site, without its spaces and line feeds outside literals. -/
def tightened (site : Site) : List Char → List Char
  | [] => []
  | c :: text =>
    if site = .outside ∧ (c = ' ' ∨ c = '\n') then tightened site text
    else c :: tightened (site.behind c) text

/-- The characters of the literals in a text that starts at a site, each up to its closing quote. -/
def literalPart (site : Site) : List Char → List Char
  | [] => []
  | c :: text =>
    if site = .outside then literalPart (site.behind c) text
    else c :: literalPart (site.behind c) text

/-- Deleting blanks outside literals changes no literal. -/
theorem literalPart_tightened (site : Site) (text : List Char) :
    literalPart site (tightened site text) = literalPart site text := by
  induction text generalizing site with
  | nil => rfl
  | cons c text ih =>
    by_cases hdeleted : site = .outside ∧ (c = ' ' ∨ c = '\n')
    · obtain ⟨rfl, hblank⟩ := hdeleted
      have hsite : Site.behind c .outside = .outside := by
        rcases hblank with rfl | rfl <;> rfl
      rw [tightened, if_pos ⟨rfl, hblank⟩, ih, literalPart, if_pos rfl, hsite]
    · rw [tightened, if_neg hdeleted, literalPart, literalPart, ih]

/-- A character that is neither deleted outside literals nor begins one. -/
def IsPlain (c : Char) : Prop := c ≠ '"' ∧ c ≠ ' ' ∧ c ≠ '\n'

instance (c : Char) : Decidable (IsPlain c) := inferInstanceAs (Decidable (_ ∧ _))

theorem tightened_plain_cons {c : Char} (h : IsPlain c) (rest : List Char) :
    tightened .outside (c :: rest) = c :: tightened .outside rest := by
  obtain ⟨hquote, hspace, hline⟩ := h
  simp [tightened, Site.behind, hquote, hspace, hline]

theorem tightened_plain {text : List Char} (h : ∀ c ∈ text, IsPlain c) (rest : List Char) :
    tightened .outside (text ++ rest) = text ++ tightened .outside rest := by
  induction text with
  | nil => rfl
  | cons c text ih =>
    obtain ⟨hc, htext⟩ := List.forall_mem_cons.mp h
    rw [List.cons_append, tightened_plain_cons hc, ih htext, List.cons_append]

theorem tightened_newLine (depth : Nat) (rest : List Char) :
    tightened .outside (newLine depth ++ rest) = tightened .outside rest := by
  have hspaces (count : Nat) :
      tightened .outside (List.replicate count ' ' ++ rest) = tightened .outside rest := by
    induction count with
    | zero => rfl
    | succ count ih => rw [List.replicate_succ, List.cons_append, tightened, if_pos (by simp), ih]
  rw [newLine, List.cons_append, tightened, if_pos (by simp), hspaces]

theorem tightened_pair (c : Char) (rest : List Char) :
    tightened .inside ('\\' :: c :: rest) = '\\' :: c :: tightened .inside rest := by
  simp [tightened, Site.behind]

theorem tightened_inside {text : List Char} (h : ∀ c ∈ text, c ≠ '"' ∧ c ≠ '\\')
    (rest : List Char) : tightened .inside (text ++ rest) = text ++ tightened .inside rest := by
  induction text with
  | nil => rfl
  | cons c text ih =>
    obtain ⟨⟨hquote, hbackslash⟩, htext⟩ := List.forall_mem_cons.mp h
    simp [tightened, Site.behind, hquote, hbackslash, ih htext]

theorem ne_of_mem_fourHexadecimal {number : Nat} {c : Char}
    (h : c ∈ Text.fourHexadecimal number) : c ≠ '"' ∧ c ≠ '\\' := by
  have all : ∀ digit : Fin 16, digit.val.digitChar ≠ '"' ∧ digit.val.digitChar ≠ '\\' := by decide
  obtain ⟨digit, hdigit, rfl⟩ := List.mem_map.mp h
  have hlt : digit < 16 := by
    simp only [List.mem_cons, List.not_mem_nil, or_false] at hdigit
    omega
  exact all ⟨digit, hlt⟩

/-- In a literal, the written form of a character is kept and does not end the literal. -/
theorem tightened_escape (c : Char) (rest : List Char) :
    tightened .inside (escape c ++ rest) = escape c ++ tightened .inside rest := by
  obtain ⟨letter, -, h⟩ | ⟨-, -, h⟩ | ⟨hquote, hbackslash, -, h⟩ := escape_cases c
  · rw [h]
    exact tightened_pair letter rest
  · rw [h, List.cons_append, List.cons_append, tightened_pair,
      tightened_inside fun _ ↦ ne_of_mem_fourHexadecimal]
    rfl
  · rw [h]
    exact tightened_inside (by simp [hquote, hbackslash]) rest

theorem tightened_quoted (text : String) (rest : List Char) :
    tightened .outside (quoted text ++ rest) = quoted text ++ tightened .outside rest := by
  have hbody (cs : List Char) :
      tightened .inside (cs.flatMap escape ++ '"' :: rest) =
        cs.flatMap escape ++ '"' :: tightened .outside rest := by
    induction cs with
    | nil => simp [tightened, Site.behind]
    | cons c cs ih =>
      rw [List.flatMap_cons, List.append_assoc, tightened_escape, ih, List.append_assoc]
  simp [quoted, tightened, Site.behind, hbody]

theorem isPlain_of_isDigit {c : Char} (h : c.isDigit = true) : IsPlain c := by
  refine ⟨?_, ?_, ?_⟩ <;> rintro rfl <;> cases h

theorem isPlain_of_mem_flag {value : Bool} : ∀ c ∈ flag value, IsPlain c := by
  cases value <;> simp [flag, IsPlain]

theorem isPlain_of_mem_digits {number : Nat} : ∀ c ∈ digits number, IsPlain c := by
  intro c hmem
  exact isPlain_of_isDigit ((isWhole_digits number).1.2 c hmem)

/-- In front of a value, only the colon and the key are kept. -/
theorem tightened_key (depth : Nat) (key : String) (rest : List Char) :
    tightened .outside (newLine depth ++ (quoted key ++ ':' :: ' ' :: rest)) =
      quoted key ++ ':' :: tightened .outside rest := by
  rw [tightened_newLine, tightened_quoted, tightened_plain_cons (by decide), tightened,
    if_pos (by simp)]

namespace Document

mutual

/-- Without the blanks outside its literals, a document on indented lines is the document on one
line. -/
theorem tightened_pretty : ∀ (depth : Nat) (document : Document) (rest : List Char),
    tightened .outside (document.pretty depth ++ rest) =
      document.compact ++ tightened .outside rest
  | _, bool _, rest => tightened_plain isPlain_of_mem_flag rest
  | _, number _, rest => tightened_plain isPlain_of_mem_digits rest
  | _, string text, rest => tightened_quoted text rest
  | depth, array [], rest => by
    rw [pretty, compact]
    exact tightened_plain (by simp [IsPlain]) rest
  | depth, array (item :: items), rest => by
    simp only [pretty, compact, List.cons_append, List.append_assoc, List.nil_append]
    rw [tightened_plain_cons (by decide), tightened_prettyItems, tightened_newLine,
      tightened_plain_cons (by decide)]
  | depth, object [], rest => by
    rw [pretty, compact]
    exact tightened_plain (by simp [IsPlain]) rest
  | depth, object (field :: fields), rest => by
    simp only [pretty, compact, List.cons_append, List.append_assoc, List.nil_append]
    rw [tightened_plain_cons (by decide), tightened_prettyFields, tightened_newLine,
      tightened_plain_cons (by decide)]

theorem tightened_prettyItems : ∀ (depth : Nat) (items : List Document) (rest : List Char),
    tightened .outside (prettyItems depth items ++ rest) =
      compactItems items ++ tightened .outside rest
  | _, [], _ => rfl
  | depth, [item], rest => by
    rw [prettyItems, compactItems, List.append_assoc, tightened_newLine, tightened_pretty]
  | depth, item :: next :: items, rest => by
    simp only [prettyItems, compactItems, List.append_assoc, List.cons_append]
    rw [tightened_newLine, tightened_pretty, tightened_plain_cons (by decide),
      tightened_prettyItems]

theorem tightened_prettyFields : ∀ (depth : Nat) (fields : List (String × Document))
    (rest : List Char),
    tightened .outside (prettyFields depth fields ++ rest) =
      compactFields fields ++ tightened .outside rest
  | _, [], _ => rfl
  | depth, [(key, value)], rest => by
    simp only [prettyFields, compactFields, List.append_assoc, List.cons_append]
    rw [tightened_key, tightened_pretty]
  | depth, (key, value) :: field :: fields, rest => by
    simp only [prettyFields, compactFields, List.append_assoc, List.cons_append]
    rw [tightened_key, tightened_pretty, tightened_plain_cons (by decide), tightened_prettyFields]

end

end Document

/-- A text without the spaces and the line feeds outside its literals. -/
def withoutBlanks (text : String) : String := String.ofList (tightened .outside text.toList)

/-- The literals of a text, each from behind its opening quote to its closing quote. -/
def literals (text : String) : String := String.ofList (literalPart .outside text.toList)

theorem literals_withoutBlanks (text : String) : literals (withoutBlanks text) = literals text := by
  rw [literals, withoutBlanks, String.toList_ofList, literalPart_tightened, literals]

/-- The two texts of a document differ in blanks outside literals alone. -/
structure Document.DiffersInBlanks (document : Document) : Prop where
  withoutBlanks_eq : withoutBlanks document.toPrettyString = document.toCompactString
  literals_eq : literals document.toPrettyString = literals document.toCompactString

theorem Document.differsInBlanks (document : Document) : document.DiffersInBlanks := by
  have hblanks : withoutBlanks document.toPrettyString = document.toCompactString := by
    have htightened := tightened_pretty 0 document []
    rw [List.append_nil, tightened, List.append_nil] at htightened
    rw [withoutBlanks, toPrettyString, toCompactString, String.toList_ofList, htightened]
  exact ⟨hblanks, by rw [← hblanks, literals_withoutBlanks]⟩

/-- A literal keeps its blanks, and an escaped quote does not end it. -/
example : withoutBlanks "[ \"a \\\" b\",\n  1 ]" = "[\"a \\\" b\",1]" := by decide

end StatementLang.Json
