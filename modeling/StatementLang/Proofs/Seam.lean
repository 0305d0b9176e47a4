import StatementLang.Proofs.Concatenation

/-!
# Where Two Texts Meet

Texts put together are cut at the same places as each of them alone, except where a run of letters
or of digits goes on from one to the other.  There the last token of the first text and the first
token of the second one make a single token, and whether it is a keyword is decided anew.
-/

namespace StatementLang

namespace Lexes

variable {line : Nat} {text : List Char} {tokens : List Token}

/-- Where a run goes on, the lexemes before and behind the seam are one lexeme. -/
theorem append_of_crosses (h : Lexes line text tokens) {second : List Char} {others : List Token}
    (later : Lexes (line + text.count '\n') second others) {run : RunClass}
    (crosses : run.Crosses text second) :
    ∃ before last next after, tokens = before ++ [last] ∧ others = next :: after ∧
      last.line = next.line ∧
      Lexes line (text ++ second)
        (before ++ run.token (last.lexeme ++ next.lexeme) last.line :: after) := by
  obtain ⟨⟨c, hlast, hc⟩, d, hhead, hd⟩ := crosses
  obtain ⟨start, word, before, last, rfl, rfl, hstart, hapart, hword⟩ :=
    h.exists_last hlast (RunClass.not_isBlank hc)
  obtain ⟨further, rest, next, after, rfl, rfl, hfurther, hrest, hafter⟩ :=
    later.exists_first hhead (RunClass.not_isBlank hd)
  rw [List.getLast?_append_of_ne_nil _ hword.ne_nil] at hlast
  rw [List.head?_append_of_ne_nil _ hfurther.ne_nil] at hhead
  have hline : line + (start ++ word).count '\n' = line + start.count '\n' := by
    rw [List.count_append, hword.count_lineFeed, Nat.add_zero]
  rw [hline] at hfurther hafter
  -- Each of the two lexemes has a character of the class at the seam, so both are runs of it.
  have hrun : ∀ e ∈ word ++ further, run.belongs e = true :=
    List.forall_mem_append.mpr
      ⟨hword.run_of_mem (List.mem_of_getLast? hlast) hc,
        hfurther.run_of_mem (List.mem_of_mem_head? hhead) hd⟩
  have hnonempty : word ++ further ≠ [] := List.append_ne_nil_of_left_ne_nil hword.ne_nil further
  have hspelled := spells_run (line + start.count '\n') hnonempty hrun
  rw [String.ofList_append, ← hword.lexeme_eq, ← hfurther.lexeme_eq] at hspelled
  have hjoined : Lexes (line + start.count '\n') (word ++ further ++ rest) _ :=
    .cons hspelled ((apart_append_left hfurther.ne_nil).mpr hrest) hafter
  have hseam : Apart start (word ++ further ++ rest) := by
    rw [List.append_assoc]
    exact hapart.append_right hword.ne_nil (further ++ rest)
  refine ⟨before, last, next, after, rfl, rfl, hword.line_eq.trans hfurther.line_eq.symm, ?_⟩
  rw [hword.line_eq]
  simpa only [List.append_assoc] using hstart.append hseam hjoined

end Lexes

/-- An error of the first text is met before anything of the second one. -/
theorem tokenize_append_of_refused {first : String} {error : LexicalError}
    (h : tokenize first = .error error) (second : String) :
    tokenize (first ++ second) = .error error := by
  obtain ⟨before, c, later, split, hbefore, foreign, rfl⟩ := tokenize_eq_error_iff.mp h
  refine tokenize_eq_error_iff.mpr
    ⟨before, c, later ++ second.toList, ?_, hbefore, foreign, rfl⟩
  rw [String.toList_append, split, List.append_assoc, List.cons_append]

/-- Where a run goes on, the tokens before and behind the seam are one token. -/
theorem tokenize_append_of_crosses {first second : String} {tokens others : List Token}
    (h : tokenize first = .ok tokens) (later : tokenize second = .ok others) {run : RunClass}
    (crosses : run.Crosses first.toList second.toList) :
    let raise := (· + first.toList.count '\n')
    ∃ before last next after, tokens = before ++ [last] ∧ others = next :: after ∧
      last.line = raise next.line ∧
      tokenize (first ++ second) =
        .ok (before ++ run.token (last.lexeme ++ next.lexeme) last.line ::
          after.map (Token.relabel raise id)) := by
  intro raise
  rw [tokenize_eq_ok_iff_lexes] at h later
  obtain ⟨before, last, raised, after, rfl, hothers, hline, hlexes⟩ :=
    h.append_of_crosses (later.raise _) crosses
  obtain ⟨next, after, rfl, rfl, rfl⟩ := List.map_eq_cons_iff.mp hothers
  refine ⟨before, last, next, after, rfl, rfl, hline, ?_⟩
  rw [tokenize_eq_ok_iff_lexes, String.toList_append]
  exact hlexes

/-- An error of either text is the error of both together.  Otherwise the tokens of the second text
follow those of the first one, on later lines, unless a run of letters or of digits goes on across
the seam: its two parts are then read as the token of the whole run. -/
theorem tokenize_append (first second : String) :
    let raise := (· + first.toList.count '\n')
    (∀ error, tokenize first = .error error → tokenize (first ++ second) = .error error) ∧
    ∀ tokens, tokenize first = .ok tokens →
      (∀ error, tokenize second = .error error →
        tokenize (first ++ second) = .error (error.relabel raise)) ∧
      ∀ others, tokenize second = .ok others →
        ((∀ run : RunClass, ¬ run.Crosses first.toList second.toList) →
          tokenize (first ++ second) = .ok (tokens ++ others.map (Token.relabel raise id))) ∧
        ∀ run : RunClass, run.Crosses first.toList second.toList →
          ∃ before last next joined after, tokens = before ++ [last] ∧ others = next :: after ∧
            joined = run.token (last.lexeme ++ next.lexeme) last.line ∧
            joined.lexeme = last.lexeme ++ next.lexeme ∧ last.line = raise next.line ∧
            tokenize (first ++ second) =
              .ok (before ++ joined :: after.map (Token.relabel raise id)) := by
  intro raise
  refine ⟨fun error herror ↦ tokenize_append_of_refused herror second, fun tokens htokens ↦
    ⟨fun error ↦ tokenize_append_of_error htokens, fun others hothers ↦ ⟨fun hnone ↦ ?_,
      fun run crosses ↦ ?_⟩⟩⟩
  · exact tokenize_append_of_ok htokens hothers (apart_iff_forall_not_crosses.mpr hnone)
  · obtain ⟨before, last, next, after, hlast, hnext, hline, happend⟩ :=
      tokenize_append_of_crosses htokens hothers crosses
    exact ⟨before, last, next, _, after, hlast, hnext, rfl, run.lexeme_token _ _, hline, happend⟩

/-- Two identifiers make a keyword and two integers an integer of the second line; a blank keeps
the words apart, and a foreign character of either text is reported. -/
theorem tokenize_append_of_split_runs :
    tokenize ("x\nle" ++ "t\n;") =
        .ok [⟨.identifier, 1, some "x"⟩, ⟨.keyword .letBinder, 2, none⟩, ⟨.semicolon, 3, none⟩] ∧
      tokenize ("=\n00" ++ "7)") =
        .ok [⟨.equal, 1, none⟩, ⟨.integer, 2, some "007"⟩, ⟨.closeParen, 2, none⟩] ∧
      tokenize ("le\n" ++ "t") =
        .ok [⟨.identifier, 1, some "le"⟩, ⟨.identifier, 2, some "t"⟩] ∧
      tokenize ("le\n" ++ "t\né") = .error { character := 'é', line := 3 } ∧
      tokenize ("é" ++ "t+") = .error { character := 'é', line := 1 } := by
  have hname : tokenize "le\n" = .ok [⟨.identifier, 1, some "le"⟩] := by decide +kernel
  have hletter : tokenize "t" = .ok [⟨.identifier, 1, some "t"⟩] := by decide +kernel
  have hsecond : tokenize "t\né" = .error { character := 'é', line := 2 } := by decide +kernel
  have hfirst : tokenize "é" = .error { character := 'é', line := 1 } := by decide +kernel
  have hjoined {first second : String} {before after : List Token} {last next : Token}
      (h : tokenize first = .ok (before ++ [last])) (later : tokenize second = .ok (next :: after))
      {run : RunClass} (crosses : run.Crosses first.toList second.toList) :
      tokenize (first ++ second) = .ok (before ++ run.token (last.lexeme ++ next.lexeme) last.line ::
        after.map (Token.relabel (· + first.toList.count '\n') id)) := by
    obtain ⟨others, final, head, joined, tail, hlast, hnext, rfl, -, -, happend⟩ :=
      (((tokenize_append first second).2 _ h).2 _ later).2 run crosses
    obtain ⟨rfl, hfinal⟩ := List.append_inj' hlast rfl
    cases hfinal
    cases hnext
    exact happend
  refine ⟨?_, ?_, ?_, ?_, (tokenize_append "é" "t+").1 _ hfirst⟩
  · have hwords : tokenize "x\nle" =
        .ok ([⟨.identifier, 1, some "x"⟩] ++ [⟨.identifier, 2, some "le"⟩]) := by decide +kernel
    have hrest : tokenize "t\n;" = .ok [⟨.identifier, 1, some "t"⟩, ⟨.semicolon, 2, none⟩] := by
      decide +kernel
    have crosses : RunClass.letters.Crosses "x\nle".toList "t\n;".toList :=
      ⟨⟨'e', rfl, rfl⟩, 't', rfl, rfl⟩
    exact (hjoined hwords hrest crosses).trans (congrArg Except.ok (by decide +kernel))
  · have hdigits : tokenize "=\n00" =
        .ok ([⟨.equal, 1, none⟩] ++ [⟨.integer, 2, some "00"⟩]) := by decide +kernel
    have hrest : tokenize "7)" = .ok [⟨.integer, 1, some "7"⟩, ⟨.closeParen, 1, none⟩] := by
      decide +kernel
    have crosses : RunClass.digits.Crosses "=\n00".toList "7)".toList :=
      ⟨⟨'0', rfl, rfl⟩, '7', rfl, rfl⟩
    exact (hjoined hdigits hrest crosses).trans (congrArg Except.ok (by decide +kernel))
  · have apart : ∀ run : RunClass, ¬ run.Crosses "le\n".toList "t".toList := by
      rintro run ⟨⟨c, hlast, hc⟩, -⟩
      obtain rfl := Option.some.inj hlast
      cases run <;> cases hc
    exact ((((tokenize_append "le\n" "t").2 _ hname).2 _ hletter).1 apart).trans
      (congrArg Except.ok (by decide +kernel))
  · exact (((tokenize_append "le\n" "t\né").2 _ hname).1 _ hsecond).trans
      (congrArg Except.error (by decide +kernel))

end StatementLang
