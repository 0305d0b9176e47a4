import StatementLang.Pattern.Cursor
import StatementLang.Pattern.Term
import StatementLang.Text.Hexadecimal

/-!
# Escapes in Patterns

A backslash takes the meaning of a mark away from it, gives one to a letter, or starts the code of a
character.
-/

namespace StatementLang.Pattern

open Cursor

def markChars : List Char :=
  ['\\', '.', '+', '*', '?', '(', ')', '|', '[', ']', '\x7b', '\x7d', '^', '$', '#', '&', '-', '~']

/-- Whether a character stands for itself after a backslash: a mark, and any other character of
ASCII that is no letter, no digit and no angle bracket. -/
def isEscapable (c : Char) : Bool :=
  c ∈ markChars || (decide (c.toNat < 0x80) && !c.isAlphanum && c != '<' && c != '>')

def controlOfLetter? : Char → Option Char
  | 'a' => some '\x07'
  | 'f' => some '\x0c'
  | 't' => some '\t'
  | 'n' => some '\n'
  | 'r' => some '\r'
  | 'v' => some '\x0b'
  | _ => none

def edgeOfLetter? : Char → Option Edge
  | 'A' => some .textStart
  | 'z' => some .textEnd
  | 'b' => some (.word .boundary)
  | 'B' => some (.word .noBoundary)
  | '<' => some (.word .start)
  | '>' => some (.word .stop)
  | _ => none

/-- The shorthand that a letter stands for after a backslash, and whether it is negated. -/
def shorthandOfLetter? : Char → Option (Shorthand × Bool)
  | 'd' => some (.digit, false)
  | 'D' => some (.digit, true)
  | 's' => some (.space, false)
  | 'S' => some (.space, true)
  | 'w' => some (.word, false)
  | 'W' => some (.word, true)
  | _ => none

/-- The number of digits of a code without braces, by its letter. -/
def codeLength? : Char → Option Nat
  | 'x' => some 2
  | 'u' => some 4
  | 'U' => some 8
  | _ => none

/-- Read elements up to a closing brace, all of which must be accepted as digits.  The cursor stands
before an element that has been read, and in the end at the brace or at the end. -/
def readBraced (accepts : Char → Bool) (cursor : Cursor) : Except Fault (List Char × Cursor) :=
  if _left : cursor.rest = [] then .ok ([], cursor)
  else
    let next := cursor.stepOver
    match next.rest with
    | [] => .ok ([], next)
    | c :: _ =>
      if c = '\x7d' then .ok ([], next)
      else if accepts c then
        (readBraced accepts next).map fun (cs, cursor) ↦ (c :: cs, cursor)
      else refuse .codeDigit next.charSpan
termination_by cursor.rest.length
decreasing_by exact length_stepOver_lt _left

def isCodeDigit (c : Char) : Bool := (Text.hexadecimalValue? c).isSome

def charOfCode? (digits : List Char) : Option Char :=
  let code := digits.foldl (fun code digit ↦ 16 * code + (Text.hexadecimalValue? digit).getD 0) 0
  if code.isValidChar then some (Char.ofNat code) else none

/-- Read the digits of a code without braces.  The cursor stands at the first one. -/
def readDigits : Nat → Cursor → Except Fault (List Char × Cursor)
  | 0, cursor => .ok ([], cursor)
  | count + 1, cursor =>
    match cursor.rest with
    | [] => refuse .escapeUnfinished cursor.pointSpan
    | c :: _ =>
      if isCodeDigit c then
        (readDigits count cursor.stepOver).map fun (cs, cursor) ↦ (c :: cs, cursor)
      else refuse .codeDigit cursor.charSpan

/-- Read a code in braces.  The cursor stands at the opening one. -/
def readBracedCode (start : Place) (cursor : Cursor) : Except Fault (Atom × Cursor) := do
  let (digits, closing) ← readBraced isCodeDigit cursor
  if closing.isAtEnd then refuse .escapeUnfinished (closing.spanFrom cursor.place)
  else
    let after := closing.stepOver
    if digits.isEmpty then refuse .codeEmpty (after.spanFrom cursor.place)
    else
      match charOfCode? digits with
      | none => refuse .codeInvalid (closing.spanFrom cursor.step.place)
      | some char => return (.literal { span := after.spanFrom start, char }, after)

def readPlainCode (start : Place) (count : Nat) (cursor : Cursor) :
    Except Fault (Atom × Cursor) := do
  let (digits, after) ← readDigits count cursor
  match charOfCode? digits with
  | none => refuse .codeInvalid (after.spanFrom cursor.place)
  | some char =>
    return (.literal { span := after.spanFrom start, char, isByte := count = 2 }, after)

/-- Read a code.  The cursor stands at its letter. -/
def readCode (start : Place) (count : Nat) (cursor : Cursor) : Except Fault (Atom × Cursor) :=
  let cursor := cursor.stepOver
  match cursor.rest with
  | [] => refuse .escapeUnfinished cursor.pointSpan
  | c :: _ => if c = '\x7b' then readBracedCode start cursor else readPlainCode start count cursor

def propertyOfName (name : List Char) : Property :=
  if ':' ∈ name ∨ '=' ∈ name then .valued else .named (String.ofList name)

/-- Read the name of a property.  The cursor stands at the letter before it. -/
def readProperty (start : Place) (negated : Bool) (cursor : Cursor) :
    Except Fault (Atom × Cursor) := do
  let cursor := cursor.stepOver
  match cursor.rest with
  | [] => refuse .escapeUnfinished cursor.pointSpan
  | c :: _ =>
    if c = '\x7b' then
      let (name, closing) ← readBraced (fun _ ↦ true) cursor
      if closing.isAtEnd then refuse .escapeUnfinished closing.pointSpan
      else
        let after := closing.step
        return (.property (after.spanFrom start) (propertyOfName name) negated, after)
    else if c = '\\' then refuse .propertyLetter cursor.charSpan
    else
      let after := cursor.stepOver
      return (.property (after.spanFrom start) (.named c.toString) negated, after)

def isEdgeChar (c : Char) : Bool := c.isAlpha || c == '-'

def readEdgeName (cursor : Cursor) : List Char × Cursor :=
  match _next : cursor.rest with
  | [] => ([], cursor)
  | c :: _ =>
    if isEdgeChar c then
      let (cs, after) := readEdgeName cursor.stepOver
      (c :: cs, after)
    else ([], cursor)
termination_by cursor.rest.length
decreasing_by exact length_stepOver_lt (by simp [_next])

def wordEdgeOfName? (name : String) : Option WordEdge :=
  match name with
  | "start" => some .start
  | "end" => some .stop
  | "start-half" => some .startHalf
  | "end-half" => some .stopHalf
  | _ => none

/-- Read a name in braces after a word boundary, if there is one; the braces may also be those of a
repetition. -/
def readWordEdge (start : Place) (cursor : Cursor) : Except Fault (WordEdge × Cursor) :=
  match cursor.rest with
  | '\x7b' :: _ => do
    let inner := cursor.stepOver
    match inner.rest with
    | [] => refuse .wordEdgeUnfinished (inner.spanFrom start)
    | c :: _ =>
      if isEdgeChar c then
        let (name, closing) := readEdgeName inner
        if closing.rest.head? = some '\x7d' then
          match wordEdgeOfName? (String.ofList name) with
          | some edge => return (edge, closing.step)
          | none => refuse .wordEdgeUnknown (closing.spanFrom inner.place)
        else refuse .wordEdgeUnclosed (closing.spanFrom cursor.place)
      else return (.boundary, cursor)
  | _ => .ok (.boundary, cursor)

/-- Read an escape that is a single character after the backslash. -/
def readShortEscape (start : Place) (c : Char) (cursor : Cursor) :
    Except Fault (Atom × Cursor) := do
  let after := cursor.step
  let span := after.spanFrom start
  if isEscapable c then return (.literal { span, char := c }, after)
  else
    match controlOfLetter? c, edgeOfLetter? c with
    | some char, _ => return (.literal { span, char }, after)
    | none, some (.word .boundary) =>
      let (edge, after) ← readWordEdge start after
      return (.edge (after.spanFrom start) (.word edge), after)
    | none, some edge => return (.edge span edge, after)
    | none, none => refuse .escapeUnknown span

/-- Read an escape.  The cursor stands at the backslash. -/
def readEscape (cursor : Cursor) : Except Fault (Atom × Cursor) :=
  let start := cursor.place
  let cursor := cursor.step
  match cursor.rest with
  | [] => refuse .escapeUnfinished (cursor.spanFrom start)
  | c :: _ =>
    if c.isDigit then refuse .backreference (cursor.step.spanFrom start)
    else
      match codeLength? c, shorthandOfLetter? c with
      | some count, _ => readCode start count cursor
      | none, some (shorthand, negated) =>
        .ok (.shorthand (cursor.step.spanFrom start) shorthand negated, cursor.step)
      | none, none =>
        if c = 'p' ∨ c = 'P' then readProperty start (c == 'P') cursor
        else readShortEscape start c cursor

/-- Read an element that is not made of others.  The cursor stands at its first character. -/
def readAtom (c : Char) (cursor : Cursor) : Except Fault (Atom × Cursor) :=
  match c with
  | '\\' => readEscape cursor
  | '.' => .ok (.dot cursor.charSpan, cursor.step)
  | '^' => .ok (.edge cursor.charSpan .lineStart, cursor.step)
  | '$' => .ok (.edge cursor.charSpan .lineEnd, cursor.step)
  | _ => .ok (.literal { span := cursor.charSpan, char := c }, cursor.step)

end StatementLang.Pattern
