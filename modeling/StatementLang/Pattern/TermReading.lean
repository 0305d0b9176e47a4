import StatementLang.Pattern.ClassReading
import StatementLang.Text.Alphanumeric

/-!
# Reading Terms

A pattern is a choice between sequences of elements.  An element may be repeated, and a group makes
a choice into an element.  Groups are kept in a list while they are open.
-/

namespace StatementLang.Pattern

open Cursor

/-- A choice that is being read: the branches that are complete and the parts of the last one, each
the last first. -/
structure ChoiceDraft where
  start : Place
  branches : List Term
  branchStart : Place
  parts : List Term

namespace ChoiceDraft

def startingAt (cursor : Cursor) : ChoiceDraft :=
  { start := cursor.place, branches := [], branchStart := cursor.place, parts := [] }

def add (draft : ChoiceDraft) (part : Term) : ChoiceDraft :=
  { draft with parts := part :: draft.parts }

def branch (draft : ChoiceDraft) (stop : Place) : Term :=
  match draft.parts with
  | [] => .empty { start := draft.branchStart, stop }
  | [part] => part
  | parts => .sequence { start := draft.branchStart, stop } parts.reverse

/-- Start a further branch, whose mark stands at a cursor. -/
def alternate (draft : ChoiceDraft) (cursor : Cursor) : ChoiceDraft :=
  { draft with
    branches := draft.branch cursor.place :: draft.branches
    branchStart := cursor.step.place
    parts := [] }

def term (draft : ChoiceDraft) (stop : Place) : Term :=
  let last := draft.branch stop
  match draft.branches with
  | [] => last
  | branches => .choice { start := draft.start, stop } (branches.reverse ++ [last])

end ChoiceDraft

structure OpenGroup where
  outer : ChoiceDraft
  /-- The part that its opening bracket takes. -/
  bracket : Span
  kind : GroupKind
  /-- Whether blanks have no meaning around the group. -/
  spaced : Bool

/-- What has been read of a pattern. -/
structure TermDraft where
  choice : ChoiceDraft
  groups : List OpenGroup
  /-- The names of groups with the parts that they take. -/
  names : List (String × Span)
  cursor : Cursor

/-- Whether a character may stand in the name of a group.  The first one is no digit and no mark but
the underscore. -/
def isNameChar (isFirst : Bool) (c : Char) : Bool :=
  c == '_' || Text.isAlphabetic c ||
    (!isFirst && (Text.isNumeric c || c == '.' || c == '[' || c == ']'))

/-- Read the characters of the name of a group.  The cursor comes to its end mark. -/
def readNameChars (isFirst : Bool) (cursor : Cursor) : Except Fault (List Char × Cursor) :=
  match _next : cursor.rest with
  | [] => refuse .nameUnclosed cursor.pointSpan
  | c :: _ =>
    if c = '>' then .ok ([], cursor)
    else if isNameChar isFirst c then
      (readNameChars false cursor.step).map fun (cs, cursor) ↦ (c :: cs, cursor)
    else refuse .nameInvalid cursor.charSpan
termination_by cursor.rest.length
decreasing_by simp [length_step, _next]

/-- Read the name of a group, which no other group may have. -/
def readName (names : List (String × Span)) (cursor : Cursor) :
    Except Fault ((String × Span) × Cursor) := do
  let (cs, closing) ← readNameChars true cursor
  let name := String.ofList cs
  let span := closing.spanFrom cursor.place
  if name = "" then refuse .nameEmpty cursor.pointSpan
  else
    match names.lookup name with
    | some earlier => .error { cause := .nameRepeated, span, earlier := some earlier }
    | none => return ((name, span), closing.step)

def flagOfLetter? : Char → Option Flag
  | 'i' => some .caseless
  | 'm' => some .multiline
  | 's' => some .dotAll
  | 'U' => some .lazyFirst
  | 'u' => some .unicode
  | 'R' => some .carriageReturns
  | 'x' => some .spaced
  | _ => none

/-- Flags that are being read, with the parts that they take and that of the negation. -/
structure FlagDraft where
  flags : List (Flag × Bool × Span)
  negation : Option Span

/-- Read the flags of a group.  The cursor comes to the mark after them. -/
def readFlags (draft : FlagDraft) (isAfterNegation : Bool) (cursor : Cursor) :
    Except Fault (FlagDraft × Cursor) := do
  match _next : cursor.rest with
  | [] => refuse .flagsUnclosed cursor.pointSpan
  | c :: _ =>
    if c = ':' ∨ c = ')' then
      match isAfterNegation, draft.negation with
      | true, some span => refuse .negationDangling span
      | _, _ => return (draft, cursor)
    else if c = '-' then
      match draft.negation with
      | some earlier =>
        .error { cause := .negationRepeated, span := cursor.charSpan, earlier := some earlier }
      | none => readFlags { draft with negation := some cursor.charSpan } true cursor.step
    else
      match flagOfLetter? c with
      | none => refuse .flagUnknown cursor.charSpan
      | some flag =>
        match draft.flags.lookup flag with
        | some (_, earlier) =>
          .error { cause := .flagRepeated, span := cursor.charSpan, earlier := some earlier }
        | none =>
          let switched := (flag, draft.negation.isNone, cursor.charSpan)
          readFlags { draft with flags := draft.flags ++ [switched] } false cursor.step
termination_by cursor.rest.length
decreasing_by all_goals simp [length_step, _next]

/-- Whether blanks have no meaning after a change of flags. -/
def spacedAfter (change : FlagChange) (spaced : Bool) : Bool :=
  (change.lookup .spaced).getD spaced

/-- The starts of groups that look around. -/
def lookAroundMarks : List String := ["?=", "?!", "?<=", "?<!"]

def nameMarks : List String := ["?P<", "?<"]

namespace TermDraft

def add (draft : TermDraft) (part : Term) (after : Cursor) : TermDraft :=
  { draft with choice := draft.choice.add part, cursor := after }

def enter (draft : TermDraft) (kind : GroupKind) (inner : Cursor) : TermDraft :=
  let group : OpenGroup := {
    outer := draft.choice
    bracket := draft.cursor.charSpan
    kind
    spaced := draft.cursor.spaced }
  { draft with
    choice := .startingAt inner
    groups := group :: draft.groups
    cursor := inner }

/-- Read the flags after the bracket of a group, with or without the group itself. -/
def switch (draft : TermDraft) (mark after : Cursor) : Except Fault TermDraft := do
  if after.isAtEnd then refuse .groupUnclosed draft.cursor.charSpan
  else
    let (read, closing) ← readFlags { flags := [], negation := none } false after
    let change := read.flags.map fun (flag, value, _) ↦ (flag, value)
    let inner := { closing.step with spaced := spacedAfter change closing.spaced }
    if closing.rest.head? = some ':' then return draft.enter (.switching change) inner
    else if change.isEmpty ∧ read.negation.isNone then refuse .repetitionMissing mark.pointSpan
    else return draft.add (.flags (inner.spanFrom draft.cursor.place) change) inner

/-- Read the opening bracket of a group and what belongs to it. -/
def openGroup (draft : TermDraft) : Except Fault TermDraft :=
  let mark := draft.cursor.stepOver
  match lookAroundMarks.findSome? mark.after? with
  | some after => refuse .lookAround (after.spanFrom draft.cursor.place)
  | none =>
    match nameMarks.findSome? mark.after? with
    | some after => do
      let (name, inner) ← readName draft.names after
      return { draft.enter .capturing inner with names := name :: draft.names }
    | none =>
      match mark.after? "?" with
      | some after => draft.switch mark after
      | none => .ok (draft.enter .capturing mark)

def closeGroup (draft : TermDraft) : Except Fault TermDraft :=
  match draft.groups with
  | [] => refuse .groupUnopened draft.cursor.charSpan
  | group :: groups =>
    let after := { draft.cursor.step with spaced := group.spaced }
    let span := after.spanFrom group.bracket.start
    let part := .group span group.kind (draft.choice.term draft.cursor.place)
    .ok { draft with choice := group.outer.add part, groups, cursor := after }

/-- Take the part that is to be repeated, and what stands before it. -/
def takeLast (draft : TermDraft) : Except Fault (Term × TermDraft) :=
  match draft.choice.parts with
  | [] | .empty _ :: _ | .flags _ _ :: _ => refuse .repetitionMissing draft.cursor.pointSpan
  | part :: parts => .ok (part, { draft with choice := { draft.choice with parts } })

def addRepeated (draft : TermDraft) (part : Term) (least : Nat) (most : Option Nat)
    (after : Cursor) : TermDraft :=
  draft.add (.repeated { start := part.span.start, stop := after.place } part least most) after

def passLazyMark (cursor : Cursor) : Cursor :=
  if cursor.rest.head? = some '?' then cursor.step else cursor

def repeatMarked (draft : TermDraft) (least : Nat) (most : Option Nat) :
    Except Fault TermDraft := do
  let (part, before) ← draft.takeLast
  return before.addRepeated part least most (passLazyMark draft.cursor.step)

/-- Pass over blanks, whether they have a meaning or not. -/
def passBlanks (cursor : Cursor) : Cursor :=
  cursor.skip (cursor.rest.takeWhile Text.isBlank).length

/-- Read digits, between which there may be blanks that have no meaning. -/
def readDecimalDigits (cursor : Cursor) : List Char × Cursor :=
  match _next : cursor.rest with
  | [] => ([], cursor)
  | c :: _ =>
    if c.isDigit then
      let (cs, after) := readDecimalDigits cursor.stepOver
      (c :: cs, after)
    else ([], cursor)
termination_by cursor.rest.length
decreasing_by exact length_stepOver_lt (by simp [_next])

def countLimit : Nat := 0xFFFFFFFF

/-- Read a number of rounds, and say what is wrong with it only if it is needed. -/
def readCount (cursor : Cursor) : Except Fault Nat × Cursor :=
  let first := passBlanks cursor
  let (digits, next) := readDecimalDigits first
  let span := next.spanFrom first.place
  let count := digits.foldl (fun count digit ↦ 10 * count + (digit.toNat - '0'.toNat)) 0
  let after := passBlanks next
  if digits.isEmpty then (refuse .countEmpty span, after)
  else if countLimit < count then (refuse .countInvalid span, after)
  else (.ok count, after)

/-- Read the numbers of rounds between braces.  The cursor comes to the closing brace. -/
def readCounts (start : Place) (cursor : Cursor) :
    Except Fault ((Nat × Option Nat) × Cursor) := do
  let (count, after) := readCount cursor
  match after.rest with
  | [] => refuse .countUnclosed (after.spanFrom start)
  | ',' :: _ =>
    let next := after.stepOver
    match next.rest with
    | [] => refuse .countUnclosed (next.spanFrom start)
    | '\x7d' :: _ => return ((← count, none), next)
    | _ =>
      let least ← count
      let (limit, after) := readCount next
      let most ← limit
      return ((least, some most), after)
  | _ =>
    let exact ← count
    return ((exact, some exact), after)

def repeatCounted (draft : TermDraft) : Except Fault TermDraft := do
  let start := draft.cursor.place
  let (part, before) ← draft.takeLast
  let inner := draft.cursor.stepOver
  if inner.isAtEnd then refuse .countUnclosed (inner.spanFrom start)
  else
    let ((least, most), closing) ← readCounts start inner
    if closing.rest.head? = some '\x7d' then
      let after := passLazyMark closing.stepOver
      if most.any fun most ↦ most < least then refuse .countReversed (after.spanFrom start)
      else return before.addRepeated part least most after
    else refuse .countUnclosed (closing.spanFrom start)

def advance (draft : TermDraft) (c : Char) : Except Fault TermDraft :=
  let cursor := draft.cursor
  match c with
  | '(' => draft.openGroup
  | ')' => draft.closeGroup
  | '|' => .ok { draft with choice := draft.choice.alternate cursor, cursor := cursor.step }
  | '[' => (readClass cursor).map fun (set, after) ↦ draft.add (.oneOf set) after
  | '?' => draft.repeatMarked 0 (some 1)
  | '*' => draft.repeatMarked 0 none
  | '+' => draft.repeatMarked 1 none
  | '\x7b' => draft.repeatCounted
  | _ => (readAtom c cursor).map fun (atom, after) ↦ draft.add (.atom atom) after

/-- Read a pattern to its end.  Every element takes a part of what is left. -/
def finish (draft : TermDraft) : Except Fault Term :=
  let draft := { draft with cursor := draft.cursor.spaces }
  match draft.cursor.rest, draft.groups with
  | [], [] => .ok (draft.choice.term draft.cursor.place)
  | [], group :: _ => refuse .groupUnclosed group.bracket
  | c :: _, _ =>
    match draft.advance c with
    | .error fault => .error fault
    | .ok next =>
      if _shorter : next.cursor.rest.length < draft.cursor.rest.length then next.finish
      else .ok (next.choice.term next.cursor.place)
termination_by draft.cursor.rest.length
decreasing_by
  exact Nat.lt_of_lt_of_le _shorter (length_spaces_le _)

end TermDraft

/-- Whether one more bracket may be open, whose part of the pattern is given. -/
def checkDepth (depth : Nat) (span : Span) : Except Fault Unit :=
  if depth < nestingLimit then .ok () else refuse .nestedTooDeeply span

mutual

/-- Check that no part of a set is nested too deeply, when a number of brackets are open. -/
def ClassTerm.checkNesting (depth : Nat) : ClassTerm → Except Fault Unit
  | .bracketed span _ inner => do
    checkDepth depth span
    inner.checkNesting (depth + 1)
  | .union span items => do
    checkDepth depth span
    ClassTerm.checkItems (depth + 1) items
  | .combined span _ left right => do
    checkDepth depth span
    left.checkNesting (depth + 1)
    right.checkNesting (depth + 1)
  | _ => .ok ()

/-- Check that no item of a union is nested too deeply. -/
def ClassTerm.checkItems (depth : Nat) : List ClassTerm → Except Fault Unit
  | [] => .ok ()
  | item :: items => do
    item.checkNesting depth
    ClassTerm.checkItems depth items

end

mutual

/-- Check that no part of a term is nested too deeply, when a number of brackets are open.  What is
repeated and what has several parts counts as if it stood in brackets. -/
def Term.checkNesting (depth : Nat) : Term → Except Fault Unit
  | .empty _ | .flags _ _ | .atom _ => .ok ()
  | .oneOf set => set.checkNesting depth
  | .repeated span inner _ _ | .group span _ inner => do
    checkDepth depth span
    inner.checkNesting (depth + 1)
  | .choice span parts | .sequence span parts => do
    checkDepth depth span
    Term.checkParts (depth + 1) parts

/-- Check that no part of a choice or of a sequence is nested too deeply. -/
def Term.checkParts (depth : Nat) : List Term → Except Fault Unit
  | [] => .ok ()
  | part :: parts => do
    part.checkNesting depth
    Term.checkParts depth parts

end

def Term.ofText (text : String) : Except Fault Term := do
  let cursor := Cursor.ofText text
  let term ← TermDraft.finish { choice := .startingAt cursor, groups := [], names := [], cursor }
  term.checkNesting 0
  return term

end StatementLang.Pattern
