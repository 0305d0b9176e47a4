import StatementLang.Proofs.Foreign

/-!
# Asking a Scanner for Tokens

A scanner can be asked for the next token or for all tokens that are left, in any order.  Its
answers are those of a stream: the tokens before the first foreign character and the error there,
read from a place that only moves forward.  At the end of the stream every answer is repeated.
-/

namespace StatementLang

/-- What a scanner can be asked for. -/
inductive Request where
  | next
  | all
deriving DecidableEq, Repr

/-- What is answered: the next token if there is one, or all tokens that are left. -/
inductive Answer where
  | next (result : Except LexicalError (Option Token))
  | all (result : Except LexicalError (List Token))

namespace Answer

def tokens : Answer → List Token
  | next (.ok (some token)) => [token]
  | all (.ok tokens) => tokens
  | _ => []

def Ends : Answer → Prop
  | next (.ok (some _)) => False
  | _ => True

/-- An answer that gives none of the tokens before an error. -/
def Loses : Answer → Prop
  | all (.error _) => True
  | _ => False

end Answer

section

variable {State Other : Type}

def session (answer : State → Request → Answer × State) (state : State) :
    List Request → List Answer × State
  | [] => ([], state)
  | request :: requests =>
    let first := answer state request
    let later := session answer first.2 requests
    (first.1 :: later.1, later.2)

theorem session_append (answer : State → Request → Answer × State) (state : State)
    (first second : List Request) :
    session answer state (first ++ second) =
      ((session answer state first).1 ++ (session answer (session answer state first).2 second).1,
        (session answer (session answer state first).2 second).2) := by
  induction first generalizing state with
  | nil => rfl
  | cons request first ih => simp only [List.cons_append, session, ih]

/-- States that answer alike and stay related answer alike to any requests. -/
theorem session_of_related {answer : State → Request → Answer × State}
    {answer' : Other → Request → Answer × Other} {Related : State → Other → Prop}
    (kept : ∀ {state other}, Related state other → ∀ request,
      (answer state request).1 = (answer' other request).1 ∧
        Related (answer state request).2 (answer' other request).2)
    {state : State} {other : Other} (related : Related state other) (requests : List Request) :
    (session answer state requests).1 = (session answer' other requests).1 ∧
      Related (session answer state requests).2 (session answer' other requests).2 := by
  induction requests generalizing state other with
  | nil => exact ⟨rfl, related⟩
  | cons request requests ih =>
    obtain ⟨hanswer, hrelated⟩ := kept related request
    obtain ⟨hanswers, hlast⟩ := ih hrelated
    exact ⟨congrArg₂ List.cons hanswer hanswers, hlast⟩

end

structure TokenStream where
  tokens : List Token
  error : Option LexicalError

namespace TokenStream

/-- A value, unless the stream ends with an error. -/
def ending {α : Type} (stream : TokenStream) (value : α) : Except LexicalError α :=
  match stream.error with
  | none => .ok value
  | some error => .error error

/-- What is answered at a place of the stream, and the place after it. -/
def answer (stream : TokenStream) (place : Nat) : Request → Answer × Nat
  | .next =>
    match stream.tokens[place]? with
    | some token => (.next (.ok (some token)), place + 1)
    | none => (.next (stream.ending none), place)
  | .all => (.all (stream.ending (stream.tokens.drop place)), stream.tokens.length)

def lastAnswer (stream : TokenStream) : Request → Answer
  | .next => .next (stream.ending none)
  | .all => .all (stream.ending [])

variable (stream : TokenStream)

theorem answer_at_end (request : Request) :
    stream.answer stream.tokens.length request =
      (stream.lastAnswer request, stream.tokens.length) := by
  cases request with
  | next => simp only [answer, lastAnswer, List.getElem?_length]
  | all => simp only [answer, lastAnswer, List.drop_length]

/-- At the end of the stream every answer is repeated. -/
theorem session_at_end (requests : List Request) :
    session stream.answer stream.tokens.length requests =
      (requests.map stream.lastAnswer, stream.tokens.length) := by
  induction requests with
  | nil => rfl
  | cons request requests ih => simp only [session, answer_at_end, ih, List.map_cons]

theorem tokens_lastAnswer (request : Request) : (stream.lastAnswer request).tokens = [] := by
  cases request <;> cases herror : stream.error <;>
    simp [lastAnswer, ending, herror, Answer.tokens]

/-- An answer gives the tokens up to the place after it, unless it loses them. -/
theorem take_answer {place : Nat} (h : place ≤ stream.tokens.length) (request : Request) :
    (stream.answer place request).2 ≤ stream.tokens.length ∧
    ∃ lost, stream.tokens.take (stream.answer place request).2 =
        stream.tokens.take place ++ ((stream.answer place request).1.tokens ++ lost) ∧
      (lost = [] ∨ (stream.answer place request).1.Loses ∧
        (stream.answer place request).2 = stream.tokens.length) := by
  cases request with
  | next =>
    cases hplace : stream.tokens[place]? with
    | none =>
      simp only [answer, hplace]
      refine ⟨h, [], ?_, Or.inl rfl⟩
      cases herror : stream.error <;> simp [ending, herror, Answer.tokens]
    | some token =>
      simp only [answer, hplace]
      obtain ⟨hlt, -⟩ := List.getElem?_eq_some_iff.mp hplace
      refine ⟨hlt, [], ?_, Or.inl rfl⟩
      rw [List.take_add_one, hplace]
      rfl
  | all =>
    refine ⟨Nat.le_refl _, ?_⟩
    cases herror : stream.error with
    | none =>
      refine ⟨[], ?_, Or.inl rfl⟩
      simp [answer, ending, herror, Answer.tokens]
    | some error =>
      refine ⟨stream.tokens.drop place, ?_, Or.inr ⟨?_, rfl⟩⟩
      · simp [answer, ending, herror, Answer.tokens]
      · simp [answer, ending, herror, Answer.Loses]

/-- So do the answers to any requests: what they give is an initial part of what is passed. -/
theorem take_session {place : Nat} (h : place ≤ stream.tokens.length) (requests : List Request) :
    (session stream.answer place requests).2 ≤ stream.tokens.length ∧
    ∃ lost, stream.tokens.take (session stream.answer place requests).2 =
        stream.tokens.take place ++
          ((session stream.answer place requests).1.flatMap Answer.tokens ++ lost) ∧
      (lost = [] ∨ ∃ answer ∈ (session stream.answer place requests).1, answer.Loses) := by
  induction requests generalizing place with
  | nil => exact ⟨h, [], by simp [session], Or.inl rfl⟩
  | cons request requests ih =>
    obtain ⟨hafter, lost, htake, hlost⟩ := stream.take_answer h request
    simp only [session, List.flatMap_cons]
    rcases hlost with rfl | ⟨loses, hend⟩
    · obtain ⟨hlast, lost, htake', hlost⟩ := ih hafter
      refine ⟨hlast, lost, ?_, hlost.imp_right ?_⟩
      · rw [htake', htake, List.append_nil]
        simp only [List.append_assoc]
      · rintro ⟨answer, hmem, loses⟩
        exact ⟨answer, List.mem_cons_of_mem _ hmem, loses⟩
    · -- Nothing is left to give behind an answer that loses tokens.
      rw [hend, session_at_end]
      refine ⟨Nat.le_refl _, lost, ?_, Or.inr ⟨_, List.mem_cons_self, loses⟩⟩
      rw [← hend, htake, List.flatMap_map]
      simp [tokens_lastAnswer]

/-- Asked for one token after the other, the stream gives all its tokens. -/
theorem session_next {place count : Nat} (h : place + count = stream.tokens.length) :
    session stream.answer place (List.replicate count .next) =
      ((stream.tokens.drop place).map fun token ↦ .next (.ok (some token)),
        stream.tokens.length) := by
  induction count generalizing place with
  | zero =>
    rw [Nat.add_zero] at h
    rw [h, List.drop_length]
    rfl
  | succ count ih =>
    have hlt : place < stream.tokens.length := by omega
    have hplace := List.getElem?_eq_getElem hlt
    have hnext : place + 1 + count = stream.tokens.length := by omega
    rw [List.drop_eq_getElem_cons hlt, List.replicate_succ]
    simp only [session, answer, hplace, ih hnext, List.map_cons]

end TokenStream

/-! ## Scanners as streams -/

namespace Scanner

def answer (scanner : Scanner) : Request → Answer × Scanner
  | .next => (.next scanner.next.1, scanner.next.2)
  | .all => (.all scanner.tokenize.1, scanner.tokenize.2)

theorem next_at_end (position line : Nat) :
    next { rest := [], position, line } = (.ok none, { rest := [], position, line }) := rfl

theorem next_at_foreign {c : Char} (foreign : CharacterClass.of c = .foreign) (later : List Char)
    (position line : Nat) :
    next { rest := c :: later, position, line } =
      (.error { character := c, line }, { rest := c :: later, position, line }) := by
  have hreads : Reads { rest := c :: later, position, line } _ _ :=
    .foreign (List.nil_append (c :: later)).symm (List.forall_mem_nil _) foreign
  exact next_of_reads hreads

/-- At the end of the text or at an error, a scanner stays. -/
theorem next_of_stopped {scanner after : Scanner} {result : Except LexicalError (Option Token)}
    (h : scanner.next = (result, after)) (stopped : ∀ token, result ≠ .ok (some token)) :
    after.next = (result, after) := by
  cases next_eq_iff_reads.mp h with
  | finished => exact next_at_end _ _
  | token => exact absurd rfl (stopped _)
  | foreign _ _ foreign => exact next_at_foreign foreign _ _ _

/-- Reading to the end again gives no more tokens and the same error. -/
theorem scan_of_scan (scanner : Scanner) :
    scanner.scan.scanner.scan =
      { tokens := [], error := scanner.scan.error, scanner := scanner.scan.scanner } := by
  induction scanner using induction_on_next with
  | token scanner token after step ih =>
    rw [scan_of_token step]
    exact ih
  | ending scanner after step =>
    rw [scan_of_end step]
    exact scan_of_end (next_of_stopped step (by simp))
  | failure scanner error after step =>
    rw [scan_of_error step]
    exact scan_of_error (next_of_stopped step (by simp))

/-- What is left for a scanner is what is left of a stream behind a place. -/
structure StandsAt (stream : TokenStream) (scanner : Scanner) (place : Nat) : Prop where
  tokens : scanner.scan.tokens = stream.tokens.drop place
  error : scanner.scan.error = stream.error
  inside : place ≤ stream.tokens.length

section

variable {stream : TokenStream} {scanner : Scanner} {place : Nat}

theorem StandsAt.getElem?_eq (h : StandsAt stream scanner place) :
    stream.tokens[place]? = scanner.scan.tokens.head? := by
  rw [h.tokens, List.head?_drop]

/-- Where no token is left, a scanner and a stream both stay. -/
theorem answer_next_of_stopped {after : Scanner} (h : StandsAt stream scanner place)
    (hnext : scanner.next = (stream.ending none, after))
    (hscan : scanner.scan = { tokens := [], error := stream.error, scanner := after }) :
    (scanner.answer .next).1 = (stream.answer place .next).1 ∧
      StandsAt stream (scanner.answer .next).2 (stream.answer place .next).2 := by
  have hplace : stream.tokens[place]? = none := by
    rw [h.getElem?_eq, hscan]
    rfl
  have hafter := scan_of_scan scanner
  rw [hscan] at hafter
  simp only [answer, TokenStream.answer, hnext, hplace, true_and]
  exact { tokens := by rw [hafter, ← h.tokens, hscan], error := by rw [hafter], inside := h.inside }

theorem answer_next_of_standsAt (h : StandsAt stream scanner place) :
    (scanner.answer .next).1 = (stream.answer place .next).1 ∧
      StandsAt stream (scanner.answer .next).2 (stream.answer place .next).2 := by
  have htokens := h.tokens
  have herror := h.error
  rcases hnext : scanner.next with ⟨error | _ | token, after⟩
  · rw [scan_of_error hnext] at herror
    apply answer_next_of_stopped h
    · rw [hnext, TokenStream.ending, ← herror]
    · rw [scan_of_error hnext, ← herror]
  · rw [scan_of_end hnext] at herror
    apply answer_next_of_stopped h
    · rw [hnext, TokenStream.ending, ← herror]
    · rw [scan_of_end hnext, ← herror]
  · have hplace : stream.tokens[place]? = some token := by
      rw [h.getElem?_eq, scan_of_token hnext]
      rfl
    rw [scan_of_token hnext] at htokens herror
    simp only [answer, TokenStream.answer, hnext, hplace, true_and]
    refine { tokens := ?_, error := herror, inside := ?_ }
    · rw [← List.tail_drop, ← htokens]
      rfl
    · exact (List.getElem?_eq_some_iff.mp hplace).1

theorem answer_all_of_standsAt (h : StandsAt stream scanner place) :
    (scanner.answer .all).1 = (stream.answer place .all).1 ∧
      StandsAt stream (scanner.answer .all).2 (stream.answer place .all).2 := by
  have htokenize : scanner.tokenize =
      (stream.ending (stream.tokens.drop place), scanner.scan.scanner) := by
    rw [tokenize, TokenStream.ending, ← h.tokens, ← h.error]
    cases scanner.scan.error <;> rfl
  have hscan := scan_of_scan scanner
  simp only [answer, TokenStream.answer, htokenize, true_and]
  exact {
    tokens := by rw [hscan, List.drop_length]
    error := by rw [hscan, h.error]
    inside := Nat.le_refl _ }

/-- A scanner that stands at a place of a stream answers as the stream does. -/
theorem answer_of_standsAt (h : StandsAt stream scanner place) (request : Request) :
    (scanner.answer request).1 = (stream.answer place request).1 ∧
      StandsAt stream (scanner.answer request).2 (stream.answer place request).2 := by
  cases request with
  | next => exact answer_next_of_standsAt h
  | all => exact answer_all_of_standsAt h

end

end Scanner

/-- A scanner of a source text stands at the start of the tokens before the first foreign
character. -/
theorem exists_standsAt_start (source : String) :
    ∃ stream : TokenStream,
      tokenize (String.ofList (readablePart source.toList)) = .ok stream.tokens ∧
      (∀ error, stream.error = some error ↔ tokenize source = .error error) ∧
      Scanner.StandsAt stream (.ofSource source) 0 := by
  rcases Scanner.scan_outcome (.ofSource source) with
    ⟨tokens, lexes⟩ | ⟨tokens, before, c, later, split, foreign, lexes, hscan⟩
  · have htokenize : tokenize source = .ok tokens := tokenize_eq_ok_iff_lexes.mpr lexes
    have hforeign : ∀ c ∈ source.toList, isForeign c = false := lexes.not_isForeign
    have hscan := Scanner.scan_of_lexes lexes 0
    refine ⟨⟨tokens, none⟩, ?_, fun error ↦ ?_, ?_⟩
    · rw [readablePart_eq_self hforeign, String.ofList_toList]
      exact htokenize
    · simp [htokenize]
    · exact { tokens := congrArg Scan.tokens hscan, error := congrArg Scan.error hscan,
              inside := Nat.zero_le _ }
  · have htext : source.toList = before ++ c :: later := split
    have hforeign := class_eq_foreign_iff.mp foreign
    have herror := tokenize_eq_error_iff.mpr
      ⟨before, c, later, htext, lexes.not_isForeign, hforeign, rfl⟩
    refine ⟨⟨tokens, some { character := c, line := 1 + before.count '\n' }⟩, ?_, fun error ↦ ?_,
      ?_⟩
    · rw [htext, readablePart_append lexes.not_isForeign hforeign, tokenize_eq_ok_iff_lexes,
        String.toList_ofList]
      exact lexes
    · simp [herror]
    · exact { tokens := congrArg Scan.tokens hscan, error := congrArg Scan.error hscan,
              inside := Nat.zero_le _ }

/-- An answer that reaches the end or an error leaves nothing of the stream. -/
theorem TokenStream.place_of_ends {stream : TokenStream} {place : Nat}
    (h : place ≤ stream.tokens.length) {request : Request}
    (ends : (stream.answer place request).1.Ends) :
    (stream.answer place request).2 = stream.tokens.length := by
  cases request with
  | next =>
    cases hplace : stream.tokens[place]? with
    | none =>
      simp only [answer, hplace]
      exact Nat.le_antisymm h (List.getElem?_eq_none_iff.mp hplace)
    | some token =>
      simp only [answer, hplace] at ends
      exact ends.elim
  | all => rfl

/-- In any order of requests a scanner gives the tokens before the first foreign character once and
in their order, except that the request for all of them loses those left if there is an error.
Behind the end or an error every answer is repeated. -/
theorem session_eq_stream_session (source : String) :
    ∃ stream : TokenStream,
      tokenize (String.ofList (readablePart source.toList)) = .ok stream.tokens ∧
      (∀ error, stream.error = some error ↔ tokenize source = .error error) ∧
      (∀ requests,
        let answers := (session Scanner.answer (.ofSource source) requests).1
        let place := (session stream.answer 0 requests).2
        answers = (session stream.answer 0 requests).1 ∧ place ≤ stream.tokens.length ∧
          ∃ lost, stream.tokens.take place = answers.flatMap Answer.tokens ++ lost ∧
            (lost = [] ∨ ∃ answer ∈ answers, answer.Loses)) ∧
      (∀ before request later,
        let answered := (session Scanner.answer (.ofSource source) before).2.answer request
        answered.1.Ends →
          (session Scanner.answer answered.2 later).1 = later.map stream.lastAnswer) ∧
      ∀ count,
        (session Scanner.answer (.ofSource source)
            (List.replicate (stream.tokens.length + count) .next)).1 =
          (stream.tokens.map fun token ↦ .next (.ok (some token))) ++
            List.replicate count (.next (stream.ending none)) := by
  obtain ⟨stream, htokens, herror, hstart⟩ := exists_standsAt_start source
  have hsession (requests : List Request) :=
    session_of_related Scanner.answer_of_standsAt hstart requests
  refine ⟨stream, htokens, herror, fun requests ↦ ?_, ?_, fun count ↦ ?_⟩
  · obtain ⟨hplace, lost, htake, hlost⟩ := stream.take_session (Nat.zero_le _) requests
    rw [List.take_zero, List.nil_append] at htake
    rw [← (hsession requests).1] at htake hlost
    exact ⟨(hsession requests).1, hplace, lost, htake, hlost⟩
  · intro before request later answered ends
    have hbefore := (hsession before).2
    obtain ⟨hanswer, hafter⟩ := Scanner.answer_of_standsAt hbefore request
    have hplace := TokenStream.place_of_ends hbefore.inside (hanswer ▸ ends)
    rw [hplace] at hafter
    have hlater := (session_of_related Scanner.answer_of_standsAt hafter later).1
    rw [stream.session_at_end] at hlater
    exact hlater
  · rw [(hsession _).1, List.replicate_add, session_append,
      stream.session_next (Nat.zero_add _), stream.session_at_end, List.map_replicate]
    rfl

/-- The request for all tokens loses two of them, and from then on the error is repeated. -/
theorem session_behind_lost_tokens :
    let source := "x y\n ;é+"
    let error : LexicalError := { character := 'é', line := 2 }
    let answered := (session Scanner.answer (.ofSource source) [.next]).2.answer .all
    (session Scanner.answer (.ofSource source) [.next, .all]).1 =
        [.next (.ok (some ⟨.identifier, 1, some "x"⟩)), .all (.error error)] ∧
      answered.1.Ends ∧
      (session Scanner.answer answered.2 [.next, .all, .next]).1 =
        [.next (.error error), .all (.error error), .next (.error error)] := by
  intro source error answered
  obtain ⟨⟨tokens, last⟩, htokens, herror, hsession, hstays, -⟩ :=
    session_eq_stream_session source
  obtain rfl : tokens = [⟨.identifier, 1, some "x"⟩, ⟨.identifier, 1, some "y"⟩,
      ⟨.semicolon, 2, none⟩] :=
    Except.ok.inj (htokens.symm.trans (by decide +kernel))
  obtain rfl : last = some error := (herror error).mpr (by decide +kernel)
  have hanswers := (hsession [.next, .all]).1
  have hanswer : answered.1 = .all (.error error) :=
    (List.cons.inj (List.cons.inj hanswers).2).1
  have hends : answered.1.Ends := by
    rw [hanswer]
    trivial
  exact ⟨hanswers, hends, hstays [.next] .all [.next, .all, .next] hends⟩

end StatementLang
