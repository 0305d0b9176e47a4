import StatementLang.Pattern.Meaning
import StatementLang.Pattern.TermReading

/-!
# Patterns of Text

A pattern describes texts by the characters that may follow each other, with choices, repetitions
and conditions on places.  It occurs in a text if it describes some part of it.
-/

namespace StatementLang

/-- A pattern that can be looked for. -/
structure Pattern where
  matcher : Pattern.Matcher
deriving Repr

namespace Pattern

inductive Refusal where
  | fault (fault : Fault)
  | tooLarge
  | wordsUnavailable
deriving DecidableEq, Repr

def spaceLimit : Nat := 10485760

def Refusal.message (refusal : Refusal) (text : String) : String :=
  match refusal with
  | fault found => found.report text
  | tooLarge => "Compiled regex exceeds size limit of " ++ toString spaceLimit ++ " bytes."
  | wordsUnavailable => "error building NFA"

/-- Read a pattern.  Faults of form come before faults of meaning, and these before limits, which
hold for both directions of reading. -/
def ofText (text : String) : Except Refusal Pattern := do
  let term ← (Term.ofText text).mapError .fault
  let (matcher, _) ← (term.meaning {}).mapError .fault
  if spaceLimit < max (matcher.space .forward) (matcher.space .backward) then throw .tooLarge
  else if matcher.usesUnicodeWords then throw .wordsUnavailable
  else return { matcher }

def occursIn (pattern : Pattern) (text : String) : Bool := pattern.matcher.occursIn text.toList

end Pattern

end StatementLang
