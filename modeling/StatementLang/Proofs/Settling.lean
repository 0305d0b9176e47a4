import StatementLang.Proofs.Resumption

/-!
# Building Until Nothing Moves

Building again and again passes at least one token with every call, until no statement can start:
at the end of the tokens, or before a token that is no keyword.  From then on nothing moves and
every answer is the same, and there are no more calls before that than tokens.
-/

namespace StatementLang

/-- A step that stops behind a keyword has passed it. -/
theorem Step.length_passed_lt {passed rest : List Token} {rejection : Rejection} {after : Cursor}
    (step : Step passed rest (.error rejection) after) {head : Token}
    (hhead : rest.head? = some head) (begun : head.kind.isKeyword = true) :
    passed.length < after.position := by
  cases step with
  | unexpected headless =>
    obtain rfl := Option.some.inj hhead
    cases headless.symm.trans begun
  | unreachable derived =>
    rw [Cursor.position, List.length_append, List.length_reverse, derived.length_eq]
    omega
  | departed _ _ place =>
    rw [place, Cursor.position, List.length_append, List.length_cons]
    omega

namespace Cursor

/-- No statement starts at a cursor. -/
def Settled (cursor : Cursor) : Prop :=
  ∀ found ∈ cursor.rest.head?, found.kind.isKeyword = false

theorem settled_of_rest_eq_nil {cursor : Cursor} (h : cursor.rest = []) : cursor.Settled := by
  intro found hhead
  rw [h] at hhead
  cases hhead

theorem parse_of_rest_eq_nil {cursor : Cursor} (h : cursor.rest = []) :
    parse cursor = (.ok [], cursor) := by
  obtain ⟨passed, rest⟩ := cursor
  obtain rfl : rest = [] := h
  exact parse_of_derivesProgram .nil passed

/-- Where no statement starts, building passes nothing. -/
theorem parse_of_settled {cursor : Cursor} (h : cursor.Settled) :
    (cursor.rest = [] ∧ parse cursor = (.ok [], cursor)) ∨
    ∃ found later, cursor.rest = found :: later ∧ found.kind.isKeyword = false ∧
      parse cursor = (.error { fault := .unexpected found.kind, line := found.line }, cursor) := by
  obtain ⟨passed, rest⟩ := cursor
  cases rest with
  | nil => exact Or.inl ⟨rfl, parse_of_rest_eq_nil rfl⟩
  | cons found later =>
    have headless := h found rfl
    exact Or.inr ⟨found, later, rfl, headless,
      parse_of_stopped .nil continues_nil (.unexpected headless)⟩

theorem parse_eq_self_of_settled {cursor : Cursor} (h : cursor.Settled) :
    (parse cursor).2 = cursor := by
  rcases parse_of_settled h with ⟨-, hparse⟩ | ⟨found, later, -, -, hparse⟩ <;> rw [hparse]

/-- Any other fault than that of a token that starts no statement is one of a statement. -/
theorem not_settled_of_rejection {cursor : Cursor} {rejection : Rejection}
    (failed : (parse cursor).1 = .error rejection)
    (hfault : ∀ kind, rejection.fault ≠ .unexpected kind) : ¬ cursor.Settled := by
  intro hsettled
  rcases parse_of_settled hsettled with ⟨-, hparse⟩ | ⟨found, later, -, -, hparse⟩
  · cases failed.symm.trans (congrArg Prod.fst hparse)
  · obtain rfl := Except.error.inj (failed.symm.trans (congrArg Prod.fst hparse))
    exact hfault found.kind rfl

/-- Where a statement starts, building passes a token at least. -/
theorem position_lt_of_not_settled {cursor : Cursor} (h : ¬ cursor.Settled) :
    cursor.position < (parse cursor).2.position := by
  obtain ⟨passed, rest⟩ := cursor
  simp only [Settled, not_forall, Bool.not_eq_false] at h
  obtain ⟨head, hhead, begun⟩ := h
  rcases run_outcome passed rest with
    ⟨statements, derivation⟩ |
    ⟨read, later, statements, rejection, after, rfl, derivation, continues, step⟩
  · have hpositive := List.length_pos_of_mem (List.mem_of_mem_head? hhead)
    rw [parse_of_derivesProgram derivation, position, position, List.length_append,
      List.length_reverse]
    exact Nat.lt_add_of_pos_left hpositive
  · rw [parse_of_stopped derivation continues step]
    by_cases hread : read = []
    · subst hread
      exact step.length_passed_lt hhead begun
    · have hpositive := List.length_pos_of_ne_nil hread
      obtain ⟨between, -, hpassed⟩ := step.exists_passed
      have hlength := congrArg List.length hpassed
      simp only [List.length_append, List.length_reverse] at hlength
      simp only [position]
      omega

theorem resumed_add (cursor : Cursor) (calls more : Nat) :
    cursor.resumed (calls + more) = (cursor.resumed calls).resumed more := by
  induction more with
  | zero => rfl
  | succ more ih => exact congrArg (fun reached ↦ (parse reached).2) ih

/-- A settled cursor stays. -/
theorem resumed_of_settled {cursor : Cursor} (h : cursor.Settled) (calls : Nat) :
    cursor.resumed calls = cursor := by
  induction calls with
  | zero => rfl
  | succ calls ih =>
    calc
      cursor.resumed (calls + 1) = (parse (cursor.resumed calls)).2 := rfl
      _ = (parse cursor).2 := by rw [ih]
      _ = cursor := parse_eq_self_of_settled h

/-- Calls settle at one cursor only. -/
theorem resumed_eq_of_settled {cursor : Cursor} {calls others : Nat}
    (h : (cursor.resumed calls).Settled) (h' : (cursor.resumed others).Settled) :
    cursor.resumed calls = cursor.resumed others := by
  rcases Nat.le_total calls others with hle | hle
  · obtain ⟨more, rfl⟩ := Nat.exists_eq_add_of_le hle
    rw [resumed_add, resumed_of_settled h]
  · obtain ⟨more, rfl⟩ := Nat.exists_eq_add_of_le hle
    rw [resumed_add, resumed_of_settled h']

/-- As long as calls do not settle, each of them passes a token. -/
theorem settled_or_lt_position (cursor : Cursor) (calls : Nat) :
    (cursor.resumed calls).Settled ∨ calls < (cursor.resumed (calls + 1)).position := by
  induction calls with
  | zero =>
    by_cases hsettled : cursor.Settled
    · exact Or.inl hsettled
    · exact Or.inr (Nat.zero_lt_of_lt (position_lt_of_not_settled hsettled))
  | succ calls ih =>
    by_cases hsettled : (cursor.resumed (calls + 1)).Settled
    · exact Or.inl hsettled
    · have hmoved : (cursor.resumed (calls + 1)).position <
          (cursor.resumed (calls + 1 + 1)).position := position_lt_of_not_settled hsettled
      rcases ih with hearlier | hlt
      · rw [resumed_add, resumed_of_settled hearlier] at hsettled
        exact absurd hearlier hsettled
      · exact Or.inr (by omega)

/-- After as many calls as there are tokens, the calls have settled. -/
theorem settled_resumed {tokens : List Token} {calls : Nat} (h : tokens.length ≤ calls) :
    ((ofTokens tokens).resumed calls).Settled := by
  rcases (ofTokens tokens).settled_or_lt_position calls with hsettled | hlt
  · exact hsettled
  · have hle := (split_of_precedes ((ofTokens tokens).precedes_resumed (calls + 1))).2.2
    omega

/-- Every call passes a token, or it is one of those that have settled. -/
theorem position_lt_or_resumed_eq (cursor : Cursor) (calls : Nat) :
    (cursor.resumed calls).position < (cursor.resumed (calls + 1)).position ∨
      ∀ more, cursor.resumed (calls + 1 + more) = cursor.resumed calls := by
  by_cases hsettled : (cursor.resumed calls).Settled
  · right
    intro more
    rw [Nat.add_assoc, resumed_add, resumed_of_settled hsettled]
  · exact Or.inl (position_lt_of_not_settled hsettled)

/-- The cursor that the calls settle at. -/
theorem resumed_eq_of_length_le {tokens : List Token} {calls : Nat} (h : tokens.length ≤ calls) :
    (ofTokens tokens).resumed calls = (ofTokens tokens).resumed tokens.length :=
  resumed_eq_of_settled (settled_resumed h) (settled_resumed (Nat.le_refl _))

/-- An accepted call reaches the end of the tokens. -/
theorem position_of_accepted {tokens : List Token} {calls : Nat} {statements : List Statement}
    (accepted : (parse ((ofTokens tokens).resumed calls)).1 = .ok statements) :
    ((ofTokens tokens).resumed (calls + 1)).position = tokens.length := by
  have hend : ((ofTokens tokens).resumed (calls + 1)).rest = [] :=
    congrArg Cursor.rest (derivesProgram_of_ok accepted).2
  exact (rest_eq_nil_iff ((ofTokens tokens).precedes_resumed (calls + 1))).mp hend

end Cursor

/-- Every call passes a token, or every later call answers as it did.  With more calls than tokens
the answers are all the same: no statements if some call has reached the end of the tokens, and
otherwise the fault of a token that starts no statement.  An accepted call reaches the end, and a
call rejected for another fault passes a token. -/
theorem parse_resumed_settles (tokens : List Token) :
    let cursor := (Cursor.ofTokens tokens).resumed
    let answer := fun calls ↦ (Cursor.parse (cursor calls)).1
    (∀ calls, (cursor calls).position < (cursor (calls + 1)).position ∨
      ∀ more, answer (calls + 1 + more) = answer calls) ∧
    ((∀ calls, tokens.length ≤ calls → answer calls = .ok []) ∨
      ∃ found, tokens[(cursor tokens.length).position]? = some found ∧
        found.kind.isKeyword = false ∧ ∀ calls, tokens.length ≤ calls →
          answer calls = .error { fault := .unexpected found.kind, line := found.line }) ∧
    ((∀ calls, tokens.length ≤ calls → answer calls = .ok []) ↔
      ∃ calls, (cursor calls).position = tokens.length) ∧
    (∀ calls statements, answer calls = .ok statements →
      (cursor (calls + 1)).position = tokens.length) ∧
    ∀ calls rejection, answer calls = .error rejection →
      (∀ kind, rejection.fault ≠ .unexpected kind) →
        (cursor calls).position < (cursor (calls + 1)).position := by
  intro cursor answer
  have hanswer {calls others : Nat} (h : cursor calls = cursor others) :
      answer calls = answer others :=
    congrArg (fun reached ↦ (Cursor.parse reached).1) h
  have hlast {calls : Nat} (h : tokens.length ≤ calls) : answer calls = answer tokens.length :=
    hanswer (Cursor.resumed_eq_of_length_le h)
  refine ⟨fun calls ↦ ?_, ?_, ⟨fun h ↦ ?_, ?_⟩, fun calls statements ↦ ?_,
    fun calls rejection failed hfault ↦ ?_⟩
  · exact ((Cursor.ofTokens tokens).position_lt_or_resumed_eq calls).imp_right
      fun hsame more ↦ hanswer (hsame more)
  · have hsettled : (cursor tokens.length).Settled := Cursor.settled_resumed (Nat.le_refl _)
    rcases Cursor.parse_of_settled hsettled with
      ⟨-, hparse⟩ | ⟨found, later, hrest, headless, hparse⟩
    · exact Or.inl fun calls h ↦ (hlast h).trans (congrArg Prod.fst hparse)
    · refine Or.inr ⟨found, ?_, headless, fun calls h ↦ (hlast h).trans (congrArg Prod.fst hparse)⟩
      obtain ⟨-, hdrop, -⟩ :=
        Cursor.split_of_precedes ((Cursor.ofTokens tokens).precedes_resumed tokens.length)
      rw [← List.head?_drop, ← hdrop]
      exact congrArg List.head? hrest
  · exact ⟨_, Cursor.position_of_accepted (h tokens.length (Nat.le_refl _))⟩
  · rintro ⟨calls, hend⟩ others h
    have hrest : (cursor calls).rest = [] :=
      (Cursor.rest_eq_nil_iff ((Cursor.ofTokens tokens).precedes_resumed calls)).mpr hend
    have hsame : cursor others = cursor calls :=
      Cursor.resumed_eq_of_settled (Cursor.settled_resumed h) (Cursor.settled_of_rest_eq_nil hrest)
    exact (hanswer hsame).trans (congrArg Prod.fst (Cursor.parse_of_rest_eq_nil hrest))
  · exact Cursor.position_of_accepted
  · exact Cursor.position_lt_of_not_settled (Cursor.not_settled_of_rejection failed hfault)

/-- The token behind an ending starts a statement of its own in the next call, which stops before
the semicolon for good; a lone keyword is missed once and then nothing is. -/
theorem parse_resumed_behind_ending :
    let tokens : List Token :=
      [⟨.keyword .quit, 1, none⟩, ⟨.openParen, 1, none⟩, ⟨.integer, 1, some "0"⟩,
        ⟨.closeParen, 1, none⟩, ⟨.semicolon, 1, none⟩, ⟨.keyword .log, 2, none⟩,
        ⟨.semicolon, 3, none⟩]
    let answer := fun calls ↦ (Cursor.parse ((Cursor.ofTokens tokens).resumed calls)).1
    let lone := (Cursor.ofTokens [⟨.keyword .log, 4, none⟩]).resumed
    (answer 0 = .error { fault := .unreachable (.keyword .log), line := 2 } ∧
      answer 1 = .error { fault := .callOpening .log, line := 3 } ∧
      ∀ calls, 7 ≤ calls → answer calls = .error { fault := .unexpected .semicolon, line := 3 }) ∧
    (Cursor.parse (lone 0)).1 = .error { fault := .callOpening .log, line := 4 } ∧
      (lone 0).position < (lone 1).position ∧
      ∀ calls, 1 ≤ calls → (Cursor.parse (lone calls)).1 = .ok [] := by
  intro tokens answer lone
  obtain ⟨-, hlast, -⟩ := parse_resumed_settles tokens
  obtain ⟨-, -, hlone, -, hmoved⟩ := parse_resumed_settles [⟨.keyword .log, 4, none⟩]
  have hfailed : (Cursor.parse (lone 0)).1 = .error { fault := .callOpening .log, line := 4 } := by
    decide +kernel
  refine ⟨⟨by decide +kernel, by decide +kernel, ?_⟩, hfailed, hmoved 0 _ hfailed (by simp),
    hlone.mpr ⟨1, by decide +kernel⟩⟩
  rcases hlast with haccepted | ⟨found, hfound, -, hrejected⟩
  · have hanswer : answer 7 = .error { fault := .unexpected .semicolon, line := 3 } := by
      decide +kernel
    cases hanswer.symm.trans (haccepted 7 (Nat.le_refl 7))
  · have hposition : ((Cursor.ofTokens tokens).resumed tokens.length).position = 6 := by
      decide +kernel
    rw [hposition] at hfound
    obtain rfl := Option.some.inj hfound
    exact hrejected

end StatementLang
