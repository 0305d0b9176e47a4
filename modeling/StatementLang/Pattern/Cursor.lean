import StatementLang.Pattern.Fault
import StatementLang.Text.Blank

/-!
# A Cursor in a Pattern

A cursor holds what is left of a pattern and its place.  In a spaced part of a pattern, blanks and
comments between its elements have no meaning; a comment goes from a number sign to the end of the
line.
-/

namespace StatementLang.Pattern

/-- A place in a pattern and what is left from there on. -/
structure Cursor where
  rest : List Char
  place : Place
  /-- Whether blanks and comments have no meaning. -/
  spaced : Bool
deriving DecidableEq, Repr

namespace Cursor

def ofText (text : String) : Cursor :=
  { rest := text.toList, place := .start, spaced := false }

def isAtEnd (cursor : Cursor) : Bool := cursor.rest.isEmpty

def step (cursor : Cursor) : Cursor :=
  match cursor.rest with
  | [] => cursor
  | c :: rest => { cursor with rest, place := cursor.place.after c }

def skip : Nat → Cursor → Cursor
  | 0, cursor => cursor
  | count + 1, cursor => skip count cursor.step

def passSpace (inComment : Bool) (place : Place) : List Char → List Char × Place
  | [] => ([], place)
  | c :: rest =>
    if inComment then passSpace (c != '\n') (place.after c) rest
    else if Text.isBlank c then passSpace false (place.after c) rest
    else if c = '#' then passSpace true (place.after c) rest
    else (c :: rest, place)

/-- The cursor at the next element. -/
def spaces (cursor : Cursor) : Cursor :=
  if cursor.spaced then
    let (rest, place) := passSpace false cursor.place cursor.rest
    { cursor with rest, place }
  else cursor

def stepOver (cursor : Cursor) : Cursor := cursor.step.spaces

def after? (cursor : Cursor) (text : String) : Option Cursor :=
  if text.toList.isPrefixOf cursor.rest then some (skip text.length cursor) else none

def charSpan (cursor : Cursor) : Span := { start := cursor.place, stop := cursor.step.place }

/-- The empty part at a cursor. -/
def pointSpan (cursor : Cursor) : Span := .point cursor.place

def spanFrom (cursor : Cursor) (start : Place) : Span := { start, stop := cursor.place }

/-- The first character that is no blank; of comments only one mark is passed over. -/
def firstVisible (inComment : Bool) : List Char → Option Char
  | [] => none
  | c :: rest =>
    if Text.isBlank c then firstVisible inComment rest
    else if c = '#' && !inComment then firstVisible true rest
    else some c

def second? (cursor : Cursor) : Option Char := cursor.rest.tail.head?

/-- The first character of the element after the next character. -/
def secondVisible? (cursor : Cursor) : Option Char :=
  if cursor.spaced then firstVisible false cursor.rest.tail else cursor.second?

def refuse {α : Type} (cause : Cause) (span : Span) : Except Fault α := .error { cause, span }

theorem length_passSpace_le {inComment : Bool} {place : Place} {text : List Char} :
    (passSpace inComment place text).1.length ≤ text.length := by
  fun_induction passSpace inComment place text <;> simp only [List.length_cons] <;> omega

theorem length_spaces_le (cursor : Cursor) : cursor.spaces.rest.length ≤ cursor.rest.length := by
  unfold spaces
  split
  · exact length_passSpace_le
  · omega

theorem length_step (cursor : Cursor) : cursor.step.rest.length = cursor.rest.length - 1 := by
  unfold step
  split <;> simp_all

theorem length_stepOver_lt {cursor : Cursor} (h : cursor.rest ≠ []) :
    cursor.stepOver.rest.length < cursor.rest.length := by
  have spaced := length_spaces_le cursor.step
  have stepped := length_step cursor
  have positive := List.length_pos_iff.mpr h
  unfold stepOver
  omega

end Cursor

end StatementLang.Pattern
