import StatementLang.Proofs.Outlines
import StatementLang.Proofs.RoundTrip
import StatementLang.Proofs.Verdict

/-!
# Plain Listings

Without an answer in JSON the tokens of a text are listed on one line each, and its statements are
outlined.  Both listings tell what they list.  On its line the text of a token is neither quoted nor
escaped, so that this holds for tokens that are read from a source: their texts break no line.
Texts in an outline are quoted, and any statements are known from it.
-/

namespace StatementLang.CommandLine

/-- Some lines, each with its end. -/
def joinLines (lines : List (List Char)) : List Char := lines.flatMap fun line ↦ line ++ ['\n']

@[simp]
theorem joinLines_nil : joinLines [] = [] := rfl

@[simp]
theorem joinLines_cons (line : List Char) (lines : List (List Char)) :
    joinLines (line :: lines) = line ++ '\n' :: joinLines lines := by
  simp [joinLines]

/-- Lines are known from the text they are joined to. -/
theorem eq_of_joinLines {lines others : List (List Char)} (h : ∀ line ∈ lines, '\n' ∉ line)
    (h' : ∀ line ∈ others, '\n' ∉ line) (same : joinLines lines = joinLines others) :
    lines = others := by
  induction lines generalizing others with
  | nil =>
    cases others with
    | nil => rfl
    | cons other others => simp at same
  | cons line lines ih =>
    cases others with
    | nil => simp at same
    | cons other others =>
      obtain ⟨hline, hlines⟩ := List.forall_mem_cons.mp h
      obtain ⟨hother, hothers⟩ := List.forall_mem_cons.mp h'
      rw [joinLines_cons, joinLines_cons] at same
      obtain ⟨rfl, hlater⟩ := split_at_unique same hline hother
      rw [ih hlines hothers hlater]

/-- A text consists of a number of lines, each with its end. -/
def HasLines (text : String) (count : Nat) : Prop :=
  ∃ lines, text.toList = joinLines lines ∧ (∀ line ∈ lines, '\n' ∉ line) ∧ lines.length = count

def labelEnd : Option String → List Char
  | none => []
  | some value => ' ' :: value.toList

def tokenEntry (token : Token) : List Char :=
  Nat.toDigits 10 token.line ++ ':' :: ' ' :: (token.kind.label.toList ++ labelEnd token.value)

theorem toList_tokenLine (token : Token) :
    (tokenLine token).toList = tokenEntry token ++ ['\n'] := by
  cases hvalue : token.value <;> simp [tokenLine, tokenEntry, labelEnd, hvalue]

theorem toList_tokenListing (tokens : List Token) :
    (tokenListing tokens).toList = joinLines (tokens.map tokenEntry) := by
  simp [tokenListing, joinLines, String.toList_join, List.flatMap_map, toList_tokenLine]

theorem blank_not_mem_label (kind : Kind) : ' ' ∉ kind.label.toList ∧ '\n' ∉ kind.label.toList := by
  have all : ∀ kind ∈ Kind.all, ' ' ∉ kind.label.toList ∧ '\n' ∉ kind.label.toList := by decide
  exact all kind (Kind.mem_all kind)

theorem labelEnd_injective : Function.Injective labelEnd := by
  intro value other h
  cases value <;> cases other <;> simp_all [labelEnd, String.toList_inj]

/-- A label ends before the first space. -/
theorem takeWhile_label (kind : Kind) (value : Option String) :
    (kind.label.toList ++ labelEnd value).takeWhile (· != ' ') = kind.label.toList := by
  apply takeWhile_of_run
  · intro c hmem
    rw [bne_iff_ne]
    rintro rfl
    exact (blank_not_mem_label kind).1 hmem
  · cases value <;> simp [labelEnd]

theorem label_labelEnd_inj {kind kind' : Kind} {value value' : Option String}
    (same : kind.label.toList ++ labelEnd value = kind'.label.toList ++ labelEnd value') :
    kind = kind' ∧ value = value' := by
  have hlabel : kind.label.toList = kind'.label.toList := by
    rw [← takeWhile_label kind value, same, takeWhile_label]
  obtain rfl := Kind.label_injective (String.toList_injective hlabel)
  exact ⟨rfl, labelEnd_injective (List.append_cancel_left same)⟩

theorem tokenEntry_injective : Function.Injective tokenEntry := by
  rintro ⟨kind, line, value⟩ ⟨kind', line', value'⟩ h
  obtain ⟨hline, hbehind⟩ :=
    split_at_unique h (not_mem_decimal rfl line) (not_mem_decimal rfl line')
  obtain ⟨rfl, rfl⟩ := label_labelEnd_inj (List.cons.inj hbehind).2
  obtain rfl := decimal_injective hline
  rfl

theorem not_isBlank_of_mem_value {token : Token} (h : token.IsSpelled) {value : String}
    (hvalue : token.value = some value) {c : Char} (hmem : c ∈ value.toList) :
    Text.isBlank c = false := by
  have hlexeme : token.lexeme = value := by
    rw [Token.lexeme, hvalue, Option.getD_some]
  rw [← hlexeme] at hmem
  exact h.not_isBlank hmem

/-- A token that is read from a text stands on one line. -/
theorem newLine_not_mem_tokenEntry {token : Token} (h : token.IsSpelled) :
    '\n' ∉ tokenEntry token := by
  have hline : '\n' ∉ Nat.toDigits 10 token.line := not_mem_decimal rfl token.line
  have hvalue : '\n' ∉ labelEnd token.value := by
    cases hvalue : token.value with
    | none => exact List.not_mem_nil
    | some value =>
      intro hmem
      obtain hspace | hmem := List.mem_cons.mp hmem
      · cases hspace
      · cases not_isBlank_of_mem_value h hvalue hmem
  simp [tokenEntry, hline, hvalue, (blank_not_mem_label token.kind).2]

theorem newLine_not_mem_of_spelled {tokens : List Token} (h : ∀ token ∈ tokens, token.IsSpelled) :
    ∀ line ∈ tokens.map tokenEntry, '\n' ∉ line := by
  intro line hmem
  obtain ⟨token, htoken, rfl⟩ := List.mem_map.mp hmem
  exact newLine_not_mem_tokenEntry (h token htoken)

/-- Tokens that are read from a text are known from their list. -/
theorem eq_of_tokenListing {tokens others : List Token} (h : ∀ token ∈ tokens, token.IsSpelled)
    (h' : ∀ token ∈ others, token.IsSpelled) (same : tokenListing tokens = tokenListing others) :
    tokens = others := by
  have hlines : joinLines (tokens.map tokenEntry) = joinLines (others.map tokenEntry) := by
    rw [← toList_tokenListing, ← toList_tokenListing, same]
  exact tokenEntry_injective.list_map
    (eq_of_joinLines (newLine_not_mem_of_spelled h) (newLine_not_mem_of_spelled h') hlines)

/-- Other tokens are not: this text holds what looks like a second line. -/
example : tokenListing [⟨.identifier, 1, some "x\n1: equal"⟩] =
    tokenListing [⟨.identifier, 1, some "x"⟩, ⟨.equal, 1, none⟩] := by
  decide +kernel

theorem hasLines_tokenListing {tokens : List Token} (h : ∀ token ∈ tokens, token.IsSpelled) :
    HasLines (tokenListing tokens) tokens.length :=
  ⟨tokens.map tokenEntry, toList_tokenListing tokens, newLine_not_mem_of_spelled h,
    List.length_map tokenEntry⟩

/-- Statements are known from their outline, whatever texts their tokens have. -/
theorem statementListing_injective : Function.Injective statementListing := by
  intro statements others h
  have hplain {statements : List Statement} :
      ∀ item ∈ statements.map Statement.outline, item.IsPlain := by
    intro item hmem
    obtain ⟨statement, -, rfl⟩ := List.mem_map.mp hmem
    exact statement.isPlain_outline
  rw [statementListing, statementListing, String.append_left_inj, String.ofList_inj] at h
  exact Statement.outline_injective.list_map (Outline.eq_of_indentedList hplain hplain h)

/-- A run that asks for a task on a file with the given content, without an answer in JSON, prints a
text. -/
def Prints (task : Task) (source text : String) : Prop :=
  ∃ (arguments : List String) (path : String) (readText : String → Except FileError String)
    (log : Option String),
    Invocation.ofArguments arguments = .ok { command := task.command path, json := false } ∧
      readText path = .ok source ∧ (run readText log arguments).output = text

/-- Every task prints something on every source. -/
theorem exists_prints (task : Task) (source : String) : ∃ text, Prints task source text :=
  ⟨_, task.level.words ++ ["main.rad"], "main.rad", fun _ ↦ .ok source, none,
    ofArguments_of_file (by decide) (by decide) task false (by decide), rfl, rfl⟩

theorem eq_tokenListing_of_prints {source text : String} {tokens : List Token}
    (htokens : tokenize source = .ok tokens) (h : Prints .tokens source text) :
    text = tokenListing tokens := by
  obtain ⟨arguments, path, readText, log, given, hread, rfl⟩ := h
  rw [output_run_of_readable log given hread]
  simp only [Task.perform, htokens, if_true]
  rfl

theorem eq_statementListing_of_prints {source text : String} {statements : List Statement}
    (hstatements : parseSource source = .ok statements) (h : Prints .ast source text) :
    text = statementListing statements := by
  obtain ⟨tokens, htokens, hparse⟩ := parseSource_eq_ok_iff.mp hstatements
  obtain ⟨arguments, path, readText, log, given, hread, rfl⟩ := h
  rw [output_run_of_readable log given hread]
  simp only [Task.perform, htokens, hparse]
  rfl

/-- For all texts that are cut into tokens, the lists that are printed are the same exactly if the
tokens are, and there is one line for each token.  For all texts that are read as statements, the
outlines that are printed are the same exactly if the statements are. -/
theorem printed_listings_determine :
    (∀ source source' tokens tokens' text text',
      tokenize source = .ok tokens → tokenize source' = .ok tokens' →
      Prints .tokens source text → Prints .tokens source' text' →
        HasLines text tokens.length ∧ (text = text' ↔ tokens = tokens')) ∧
    ∀ source source' statements statements' text text',
      parseSource source = .ok statements → parseSource source' = .ok statements' →
      Prints .ast source text → Prints .ast source' text' →
        (text = text' ↔ statements = statements') := by
  constructor
  · intro source source' tokens tokens' text text' htokens htokens' h h'
    have spelled := (tokenize_eq_ok_iff_lexes.mp htokens).isSpelled
    have spelled' := (tokenize_eq_ok_iff_lexes.mp htokens').isSpelled
    rw [eq_tokenListing_of_prints htokens h, eq_tokenListing_of_prints htokens' h']
    exact ⟨hasLines_tokenListing spelled, eq_of_tokenListing spelled spelled', congrArg _⟩
  · intro source source' statements statements' text text' hstatements hstatements' h h'
    rw [eq_statementListing_of_prints hstatements h, eq_statementListing_of_prints hstatements' h']
    exact statementListing_injective.eq_iff

/-- A token on another line is listed in another way, and so are the two declarations outlined. -/
theorem printed_listings_of_near_sources :
    (∃ text text', Prints .tokens "x=" text ∧ Prints .tokens "x\n=" text' ∧ HasLines text 2 ∧
      text ≠ text') ∧
    ∃ text text', Prints .ast "let x = 1;" text ∧ Prints .ast "const x = 1;" text' ∧
      text ≠ text' := by
  have one : tokenize "x=" = .ok [⟨.identifier, 1, some "x"⟩, ⟨.equal, 1, none⟩] := by
    decide +kernel
  have two : tokenize "x\n=" = .ok [⟨.identifier, 1, some "x"⟩, ⟨.equal, 2, none⟩] := by
    decide +kernel
  let declaration (constant : Bool) : Statement :=
    .declaration ⟨.identifier, 1, some "x"⟩ ⟨.integer, 1, some "1"⟩ constant 1
  have changeable : parseSource "let x = 1;" = .ok [declaration false] := by decide +kernel
  have constant : parseSource "const x = 1;" = .ok [declaration true] := by decide +kernel
  obtain ⟨htokens, hstatements⟩ := printed_listings_determine
  constructor
  · obtain ⟨text, h⟩ := exists_prints .tokens "x="
    obtain ⟨text', h'⟩ := exists_prints .tokens "x\n="
    obtain ⟨hlines, hsame⟩ := htokens _ _ _ _ text text' one two h h'
    exact ⟨text, text', h, h', hlines, mt hsame.mp (by decide)⟩
  · obtain ⟨text, h⟩ := exists_prints .ast "let x = 1;"
    obtain ⟨text', h'⟩ := exists_prints .ast "const x = 1;"
    have hsame := hstatements _ _ _ _ text text' changeable constant h h'
    exact ⟨text, text', h, h', mt hsame.mp (by decide)⟩

end StatementLang.CommandLine
