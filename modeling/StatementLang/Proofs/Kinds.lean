import StatementLang.Proofs.Relabelling

/-!
# Kinds Decide

Building statements looks at nothing of a token but its kind.  Changed lines and values come out as
they went in, and of two lists with the same kinds either both are programs of the same kinds of
statements, or both are rejected at the same place for the same fault.
-/

namespace StatementLang

/-- A token of a kind, on no line and without a value. -/
def Token.ofKind (kind : Kind) : Token := { kind, line := 0 }

/-- Without lines and values, tokens are known from their kinds. -/
theorem map_relabel_eq_map_ofKind (tokens : List Token) :
    tokens.map (Token.relabel (fun _ ↦ 0) fun _ ↦ none) =
      (tokens.map Token.kind).map Token.ofKind := by
  rw [List.map_map]
  rfl

/-- The names of statements do not depend on lines and values. -/
theorem map_keyword_relabel (onLine : Nat → Nat) (onValue : Option String → Option String)
    (statements : List Statement) :
    (statements.map (Statement.relabel onLine onValue)).map Statement.keyword =
      statements.map Statement.keyword := by
  rw [List.map_map]
  exact List.map_congr_left fun statement _ ↦ statement.keyword_relabel onLine onValue

/-- Lines and values are carried into the statements and into the line of a rejection.  The kinds
alone decide which statements are built, or else where building stops and for which fault. -/
theorem parse_looks_only_at_kinds (tokens : List Token) :
    (∀ onLine onValue,
      (∀ statements, parse tokens = .ok statements →
        parse (tokens.map (Token.relabel onLine onValue)) =
          .ok (statements.map (Statement.relabel onLine onValue))) ∧
      ∀ rejection, parse tokens = .error rejection →
        parse (tokens.map (Token.relabel onLine onValue)) =
          .error { fault := rejection.fault, line := onLine rejection.line }) ∧
    ∀ others, tokens.map Token.kind = others.map Token.kind →
      (∃ before after, parse tokens = .ok before ∧ parse others = .ok after ∧
        before.map Statement.keyword = after.map Statement.keyword) ∨
      ∃ rejection rejection', parse tokens = .error rejection ∧
        parse others = .error rejection' ∧ rejection.fault = rejection'.fault ∧
        (Cursor.parse (.ofTokens tokens)).2.position =
          (Cursor.parse (.ofTokens others)).2.position := by
  refine ⟨fun onLine onValue ↦ ⟨fun statements accepted ↦ ?_, fun rejection failed ↦ ?_⟩,
    fun others kinds ↦ ?_⟩
  · rw [parse_relabel, accepted]
    rfl
  · rw [parse_relabel, failed]
    rfl
  · have same : tokens.map (Token.relabel (fun _ ↦ 0) fun _ ↦ none) =
        others.map (Token.relabel (fun _ ↦ 0) fun _ ↦ none) := by
      rw [map_relabel_eq_map_ofKind, map_relabel_eq_map_ofKind, kinds]
    refine (parse_of_relabel_eq same).imp_left ?_
    rintro ⟨before, after, hbefore, hafter, hsame⟩
    refine ⟨before, after, hbefore, hafter, ?_⟩
    have hkeywords := congrArg (List.map Statement.keyword) hsame
    rwa [map_keyword_relabel, map_keyword_relabel] at hkeywords

/-- A declaration and a lone keyword behind it, with other lines, without values, and with values
that belong to none of the kinds. -/
theorem parse_of_unlike_tokens :
    let tokens : List Token :=
      [⟨.keyword .constBinder, 1, none⟩, ⟨.identifier, 1, some "x"⟩, ⟨.equal, 2, none⟩,
        ⟨.integer, 2, some "5"⟩, ⟨.semicolon, 3, none⟩]
    let lone : Token := ⟨.keyword .quit, 4, none⟩
    let others : List Token :=
      [⟨.keyword .constBinder, 9, some "let"⟩, ⟨.identifier, 0, none⟩, ⟨.equal, 7, some "x"⟩,
        ⟨.integer, 7, some ""⟩, ⟨.semicolon, 1, some "5"⟩, ⟨.keyword .quit, 2, some "log"⟩]
    parse (tokens.map (Token.relabel (100 - ·) fun _ ↦ none)) =
        .ok [.declaration ⟨.identifier, 99, none⟩ ⟨.integer, 98, none⟩ true 99] ∧
      parse ((tokens ++ [lone]).map (Token.relabel (100 - ·) fun _ ↦ none)) =
        .error { fault := .callOpening .quit, line := 96 } ∧
      ∃ rejection, parse others = .error rejection ∧ rejection.fault = .callOpening .quit ∧
        (Cursor.parse (.ofTokens others)).2.position = 6 := by
  intro tokens lone others
  have hok : parse tokens =
      .ok [.declaration ⟨.identifier, 1, some "x"⟩ ⟨.integer, 2, some "5"⟩ true 1] := by
    decide +kernel
  have hfailed : parse (tokens ++ [lone]) = .error { fault := .callOpening .quit, line := 4 } := by
    decide +kernel
  have hposition : (Cursor.parse (.ofTokens (tokens ++ [lone]))).2.position = 6 := by
    decide +kernel
  obtain ⟨hrelabel, hkinds⟩ := parse_looks_only_at_kinds (tokens ++ [lone])
  refine ⟨((parse_looks_only_at_kinds tokens).1 _ _).1 _ hok, (hrelabel _ _).2 _ hfailed, ?_⟩
  rcases hkinds others rfl with ⟨before, -, hbefore, -⟩ | ⟨rejection, other, hrejection, hother,
    hfault, hsame⟩
  · cases hfailed.symm.trans hbefore
  · obtain rfl := Except.error.inj (hfailed.symm.trans hrejection)
    exact ⟨other, hother, hfault.symm, hsame.symm.trans hposition⟩

end StatementLang
