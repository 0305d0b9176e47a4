import StatementLang.CommandLine.Run
import StatementLang.Proofs.Json.Injectivity
import StatementLang.Proofs.Json.Layouts

/-!
# Documents of Tokens, Statements and Reports

Nothing is lost when a token, a statement or a report is written as a document.  An absent text has
no field at all, the type and the constant field tell the statements apart, and the stage of a
diagnostic keeps failures apart whose messages are the same.  The two texts of a document say the
same, since they differ in blanks outside their literals alone.
-/

namespace StatementLang

open Json CommandLine

theorem Token.document_injective : Function.Injective Token.document := by
  rintro ⟨kind, line, value⟩ ⟨kind', line', value'⟩ h
  simp only [document, Document.object.injEq, List.cons_append, List.nil_append, List.cons.injEq,
    Prod.mk.injEq, Document.string.injEq, Document.number.injEq, true_and] at h
  obtain ⟨hlabel, rfl, hvalue⟩ := h
  obtain rfl := Kind.label_injective hlabel
  cases value <;> cases value' <;> simp_all

theorem Statement.document_injective : Function.Injective Statement.document := by
  intro statement other h
  have htoken {token token' : Token} : token.document = token'.document ↔ token = token' :=
    Token.document_injective.eq_iff
  cases statement with
  | quit value line =>
    cases other with
    | quit value' line' => simpa [document, expressionDocument, htoken] using h
    | _ => simp [document] at h
  | log value line =>
    cases other with
    | log value' line' => simpa [document, expressionDocument, htoken] using h
    | _ => simp [document] at h
  | declaration identifier value constant line =>
    cases other with
    | declaration identifier' value' constant' line' => simpa [document, htoken] using h
    | _ => simp [document] at h

theorem tokensDocument_injective : Function.Injective tokensDocument := by
  intro tokens others h
  exact Token.document_injective.list_map (Document.array.inj h)

theorem statementsDocument_injective : Function.Injective statementsDocument := by
  intro statements others h
  exact Statement.document_injective.list_map (Document.array.inj h)

theorem Stage.label_injective : Function.Injective Stage.label := by
  intro stage other h
  apply Option.some.inj
  rw [← ofLabel?_label stage, ← ofLabel?_label other, h]

theorem Diagnostic.document_injective : Function.Injective Diagnostic.document := by
  rintro ⟨stage, message, line⟩ ⟨stage', message', line'⟩ h
  simp only [document, Document.object.injEq, List.cons.injEq, Prod.mk.injEq,
    Document.string.injEq, Document.number.injEq, true_and, and_true] at h
  obtain ⟨hlabel, rfl, rfl⟩ := h
  rw [Stage.label_injective hlabel]

theorem Report.document_injective : Function.Injective Report.document := by
  rintro ⟨success, sourceFile, tokenCount, statementCount, diagnostics⟩
    ⟨success', sourceFile', tokenCount', statementCount', diagnostics'⟩ h
  simp only [document, Document.object.injEq, List.cons.injEq, Prod.mk.injEq,
    Document.bool.injEq, Document.string.injEq, Document.number.injEq, Document.array.injEq,
    true_and, and_true] at h
  obtain ⟨rfl, rfl, rfl, rfl, hdiagnostics⟩ := h
  rw [Diagnostic.document_injective.list_map hdiagnostics]

/-- The message of a lexical error leaves nothing out but its line, and the stage tells it from an
error of grammar with the same message. -/
theorem Diagnostic.ofFailure_injective : Function.Injective Diagnostic.ofFailure := by
  intro failure other h
  cases failure with
  | lexical error =>
    cases other with
    | lexical error' =>
      obtain ⟨character, line⟩ := error
      obtain ⟨character', line'⟩ := error'
      simp only [ofFailure, Diagnostic.mk.injEq, String.append_left_inj, String.append_right_inj,
        true_and] at h
      obtain ⟨hcharacter, rfl⟩ := h
      rw [String.singleton_inj.mp hcharacter]
    | grammatical => cases congrArg Diagnostic.stage h
  | grammatical detail line =>
    cases other with
    | lexical => cases congrArg Diagnostic.stage h
    | grammatical detail' line' =>
      obtain ⟨-, rfl, rfl⟩ := Diagnostic.mk.inj h
      rfl

namespace Failure

theorem toList_message_lexical (character : Char) (line : Nat) :
    (lexical { character, line }).message.toList =
      "Unexpected character '".toList ++
        character :: ("' on line ".toList ++ Nat.toDigits 10 line) := by
  unfold message LexicalError.message
  simp only [String.toList_append, Char.toString_eq_singleton, String.toList_singleton,
    Nat.toString_eq_repr, Nat.toList_repr, List.append_assoc, List.cons_append, List.nil_append]

theorem toList_message_grammatical (detail : String) (line : Nat) :
    (grammatical detail line).message.toList =
      "On line ".toList ++ (Nat.toDigits 10 line ++ ' ' :: ("-> ".toList ++ detail.toList)) := by
  have harrow : " -> ".toList = ' ' :: "-> ".toList := by decide
  simp only [message, String.toList_append, harrow, Nat.toString_eq_repr, Nat.toList_repr,
    List.append_assoc, List.cons_append]

/-- A failure can be told from its text, whose first letter tells the stage. -/
theorem message_injective : Function.Injective message := by
  have hstage (character : Char) (line : Nat) (detail : String) (line' : Nat) :
      (lexical { character, line }).message ≠ (grammatical detail line').message := by
    intro h
    have hfirst := congrArg (fun text ↦ text.toList.head?) h
    simp only [toList_message_lexical, toList_message_grammatical] at hfirst
    cases hfirst
  rintro (⟨character, line⟩ | ⟨detail, line⟩) (⟨character', line'⟩ | ⟨detail', line'⟩) h
  · have htext := congrArg String.toList h
    rw [toList_message_lexical, toList_message_lexical] at htext
    obtain ⟨rfl, hline⟩ := List.cons.inj (List.append_cancel_left htext)
    rw [decimal_injective (List.append_cancel_left hline)]
  · exact absurd h (hstage character line detail' line')
  · exact absurd h.symm (hstage character' line' detail line)
  · have htext := congrArg String.toList h
    rw [toList_message_grammatical, toList_message_grammatical] at htext
    obtain ⟨hline, hdetail⟩ := split_at_unique (List.append_cancel_left htext)
      (not_mem_decimal rfl line) (not_mem_decimal rfl line')
    rw [decimal_injective hline, String.toList_inj.mp (List.append_cancel_left hdetail)]

end Failure

namespace Report

variable {path path' : String} {failure failure' : Failure}
  {tokenCount tokenCount' statementCount statementCount' : Nat}

theorem ofFailure_eq_iff :
    ofFailure path failure tokenCount = ofFailure path' failure' tokenCount' ↔
      path = path' ∧ failure = failure' ∧ tokenCount = tokenCount' := by
  constructor
  · intro h
    obtain ⟨-, hpath, htokens, -, hdiagnostics⟩ := Report.mk.inj h
    exact ⟨hpath, Diagnostic.ofFailure_injective (List.cons.inj hdiagnostics).1, htokens⟩
  · rintro ⟨rfl, rfl, rfl⟩
    rfl

theorem ofSuccess_eq_iff :
    ofSuccess path tokenCount statementCount = ofSuccess path' tokenCount' statementCount' ↔
      path = path' ∧ tokenCount = tokenCount' ∧ statementCount = statementCount' := by
  constructor
  · intro h
    obtain ⟨-, hpath, htokens, hstatements, -⟩ := Report.mk.inj h
    exact ⟨hpath, htokens, hstatements⟩
  · rintro ⟨rfl, rfl, rfl⟩
    rfl

theorem ofSuccess_ne_ofFailure :
    ofSuccess path tokenCount statementCount ≠ ofFailure path' failure tokenCount' := by
  intro h
  cases congrArg Report.success h

end Report

/-! ## Texts lose nothing -/

/-- Objects that are known from their documents are known from each of the two texts. -/
theorem sharesText_document_iff {Object : Type} {document : Object → Document}
    (injective : Function.Injective document) {object other : Object} :
    (document object).SharesText (document other) ↔ object = other := by
  rw [Document.sharesText_iff, injective.eq_iff]

/-- A token, a statement and a list of either are known from their text, on one line or on indented
lines.  From the text of a report one knows whether it is one of success, and then the file and
both counts, or else the file, the failure and the number of tokens. -/
theorem texts_lose_nothing :
    (∀ token other : Token, token.document.SharesText other.document ↔ token = other) ∧
    (∀ tokens others : List Token,
      (tokensDocument tokens).SharesText (tokensDocument others) ↔ tokens = others) ∧
    (∀ statement other : Statement,
      statement.document.SharesText other.document ↔ statement = other) ∧
    (∀ statements others : List Statement,
      (statementsDocument statements).SharesText (statementsDocument others) ↔
        statements = others) ∧
    (∀ path path' failure failure' tokenCount tokenCount',
      (Report.ofFailure path failure tokenCount).document.SharesText
          (Report.ofFailure path' failure' tokenCount').document ↔
        path = path' ∧ failure = failure' ∧ tokenCount = tokenCount') ∧
    (∀ path path' tokenCount tokenCount' statementCount statementCount',
      (Report.ofSuccess path tokenCount statementCount).document.SharesText
          (Report.ofSuccess path' tokenCount' statementCount').document ↔
        path = path' ∧ tokenCount = tokenCount' ∧ statementCount = statementCount') ∧
    ∀ path path' failure tokenCount tokenCount' statementCount,
      ¬ (Report.ofSuccess path tokenCount statementCount).document.SharesText
          (Report.ofFailure path' failure tokenCount').document := by
  refine ⟨?_, ?_, ?_, ?_, ?_, ?_, ?_⟩
  · intro token other
    exact sharesText_document_iff Token.document_injective
  · intro tokens others
    exact sharesText_document_iff tokensDocument_injective
  · intro statement other
    exact sharesText_document_iff Statement.document_injective
  · intro statements others
    exact sharesText_document_iff statementsDocument_injective
  · intro path path' failure failure' tokenCount tokenCount'
    rw [sharesText_document_iff Report.document_injective, Report.ofFailure_eq_iff]
  · intro path path' tokenCount tokenCount' statementCount statementCount'
    rw [sharesText_document_iff Report.document_injective, Report.ofSuccess_eq_iff]
  · intro path path' failure tokenCount tokenCount' statementCount
    rw [sharesText_document_iff Report.document_injective]
    exact Report.ofSuccess_ne_ofFailure

/-- An absent text and an empty one, the two declarations, and a lexical error and an error of
grammar with the same message. -/
theorem texts_of_near_objects :
    ¬ Document.SharesText (Token.document ⟨.integer, 1, none⟩)
        (Token.document ⟨.integer, 1, some ""⟩) ∧
    ¬ Document.SharesText
        (Statement.document (.declaration ⟨.identifier, 1, none⟩ ⟨.integer, 1, none⟩ true 1))
        (Statement.document (.declaration ⟨.identifier, 1, none⟩ ⟨.integer, 1, none⟩ false 1)) ∧
    ¬ Document.SharesText (Report.ofFailure "a\"" (.lexical ⟨'+', 3⟩) 0).document
        (Report.ofFailure "a\"" (.grammatical "unexpected character '+'" 3) 0).document := by
  obtain ⟨htoken, -, hstatement, -, hfailure, -, -⟩ := texts_lose_nothing
  rw [htoken, hstatement, hfailure]
  exact ⟨by decide, by decide, by decide⟩

/-- Whatever characters its strings have, the text of a token, a statement or a report on indented
lines becomes its text on one line when the spaces and line feeds outside its literals are deleted,
and the two texts have the same literals. -/
theorem layouts_differ_in_blanks :
    (∀ token : Token, token.document.DiffersInBlanks) ∧
    (∀ statement : Statement, statement.document.DiffersInBlanks) ∧
    ∀ report : Report, report.document.DiffersInBlanks := by
  refine ⟨?_, ?_, ?_⟩
  · intro token
    exact token.document.differsInBlanks
  · intro statement
    exact statement.document.differsInBlanks
  · intro report
    exact report.document.differsInBlanks

end StatementLang
