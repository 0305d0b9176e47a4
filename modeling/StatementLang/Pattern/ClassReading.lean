import StatementLang.Pattern.Escape

/-!
# Reading Sets of Characters

A set in brackets is a union of characters, ranges, named sets and further sets in brackets, and
unions can be combined.  All operations bind alike, from left to right.  A range, and a hyphen at an
end of a set, need no escape; nor does a closing bracket that comes first.
-/

namespace StatementLang.Pattern

open Cursor

/-- Items of a union that is being read, the last one first, and where it starts. -/
structure UnionDraft where
  start : Place
  items : List ClassTerm

namespace UnionDraft

/-- The part that some items take, the last one given first. -/
def spanOf (start : Place) : List ClassTerm → Span
  | [] => .point start
  | last :: earlier =>
    { start := ((last :: earlier).getLast?.map fun first ↦ first.span.start).getD start
      stop := last.span.stop }

def add (draft : UnionDraft) (item : ClassTerm) : UnionDraft :=
  { draft with items := item :: draft.items }

def term (draft : UnionDraft) : ClassTerm :=
  match draft.items with
  | [] => .empty (.point draft.start)
  | [item] => item
  | items => .union (spanOf draft.start items) items.reverse

end UnionDraft

structure OpenClass where
  /-- The part that opens the set. -/
  opening : Span
  negated : Bool
  /-- What stands before an operation, and the operation. -/
  pending : Option (ClassTerm × SetOperation)
  draft : UnionDraft

namespace OpenClass

def add (set : OpenClass) (item : ClassTerm) : OpenClass :=
  { set with draft := set.draft.add item }

def term (set : OpenClass) : ClassTerm :=
  match set.pending with
  | none => set.draft.term
  | some (left, operation) =>
    let right := set.draft.term
    .combined { start := left.span.start, stop := right.span.stop } operation left right

def combine (set : OpenClass) (operation : SetOperation) (after : Cursor) : OpenClass :=
  { set with
    pending := some (set.term, operation)
    draft := { start := after.place, items := [] } }

/-- The set in its brackets, the second of which ends at a cursor. -/
def close (set : OpenClass) (after : Cursor) : ClassTerm :=
  .bracketed { start := set.opening.start, stop := after.place } set.negated set.term

end OpenClass

/-- Read the hyphens that come first in a set.  They stand for themselves. -/
def readHyphens (start : Place) (draft : UnionDraft) (cursor : Cursor) :
    Except Fault (UnionDraft × Cursor) :=
  match _next : cursor.rest with
  | '-' :: _ =>
    let after := cursor.stepOver
    if after.isAtEnd then refuse .classUnclosed (.point start)
    else readHyphens start (draft.add (.literal { span := cursor.charSpan, char := '-' })) after
  | _ => .ok (draft, cursor)
termination_by cursor.rest.length
decreasing_by exact length_stepOver_lt (by simp [_next])

/-- Read the opening of a set.  The cursor stands at its bracket. -/
def openClass (cursor : Cursor) : Except Fault (OpenClass × Cursor) := do
  let start := cursor.place
  let inner := cursor.stepOver
  let negated := inner.rest.head? = some '^'
  let inner := if negated then inner.stepOver else inner
  if inner.isAtEnd then refuse .classUnclosed (inner.spanFrom start)
  else
    let (draft, first) ← readHyphens start { start := inner.place, items := [] } inner
    let (draft, next) :=
      if draft.items.isEmpty ∧ first.rest.head? = some ']' then
        (draft.add (.literal { span := first.charSpan, char := ']' }), first.stepOver)
      else (draft, first)
    if next.isAtEnd then refuse .classUnclosed (next.spanFrom start)
    else return ({ opening := next.spanFrom start, negated, pending := none, draft }, next)

def namedRanges? (name : String) : Option (List (Nat × Nat)) :=
  match name with
  | "alnum" => some [(0x30, 0x39), (0x41, 0x5A), (0x61, 0x7A)]
  | "alpha" => some [(0x41, 0x5A), (0x61, 0x7A)]
  | "ascii" => some [(0x00, 0x7F)]
  | "blank" => some [(0x09, 0x09), (0x20, 0x20)]
  | "cntrl" => some [(0x00, 0x1F), (0x7F, 0x7F)]
  | "digit" => some [(0x30, 0x39)]
  | "graph" => some [(0x21, 0x7E)]
  | "lower" => some [(0x61, 0x7A)]
  | "print" => some [(0x20, 0x7E)]
  | "punct" => some [(0x21, 0x2F), (0x3A, 0x40), (0x5B, 0x60), (0x7B, 0x7E)]
  | "space" => some [(0x09, 0x0D), (0x20, 0x20)]
  | "upper" => some [(0x41, 0x5A)]
  | "word" => some [(0x30, 0x39), (0x41, 0x5A), (0x5F, 0x5F), (0x61, 0x7A)]
  | "xdigit" => some [(0x30, 0x39), (0x41, 0x46), (0x61, 0x66)]
  | _ => none

/-- Read the name of a set between colons in brackets, if there is one. -/
def namedClass? (cursor : Cursor) : Option (ClassTerm × Cursor) :=
  match cursor.rest with
  | '[' :: ':' :: more =>
    let negated := more.head? = some '^'
    let named := if negated then more.tail else more
    let name := named.takeWhile fun c ↦ c != ':'
    if [':', ']'].isPrefixOf (named.drop name.length) then
      (namedRanges? (String.ofList name)).map fun ranges ↦
        let after := cursor.skip (name.length + if negated then 5 else 4)
        (.named (after.spanFrom cursor.place) ranges negated, after)
    else none
  | _ => none

/-- Read an atom inside of a set.  The cursor stands at its first character. -/
def readClassAtom (c : Char) (cursor : Cursor) : Except Fault (Atom × Cursor) :=
  if c = '\\' then readEscape cursor
  else .ok (.literal { span := cursor.charSpan, char := c }, cursor.step)

def itemOfAtom : Atom → Except Fault ClassTerm
  | .literal literal => .ok (.literal literal)
  | .shorthand span shorthand negated => .ok (.shorthand span shorthand negated)
  | .property span property negated => .ok (.property span property negated)
  | .dot span | .edge span _ => refuse .classEscape span

def boundOfAtom : Atom → Except Fault Literal
  | .literal literal => .ok literal
  | atom => refuse .classRangeBound atom.span

/-- Read an item of a set, which may be a range.  The cursor stands at its first character. -/
def readItem (opening : Span) (c : Char) (cursor : Cursor) :
    Except Fault (ClassTerm × Cursor) := do
  let (first, next) ← readClassAtom c cursor
  let next := next.spaces
  match next.rest with
  | [] => refuse .classUnclosed opening
  | '-' :: _ =>
    if next.secondVisible? = some ']' ∨ next.secondVisible? = some '-' then
      return (← itemOfAtom first, next)
    else
      let bound := next.stepOver
      match bound.rest with
      | [] => refuse .classUnclosed opening
      | d :: _ =>
        let (last, after) ← readClassAtom d bound
        let span := { start := first.span.start, stop := last.span.stop }
        let first ← boundOfAtom first
        let last ← boundOfAtom last
        if first.char ≤ last.char then return (.range span first last, after)
        else refuse .classRangeReversed span
  | _ => return (← itemOfAtom first, next)

/-- What has been read of a set: the innermost open brackets, and those around them. -/
structure ClassDraft where
  innermost : OpenClass
  enclosing : List OpenClass
  cursor : Cursor

inductive ClassProgress where
  | unfinished (draft : ClassDraft)
  | finished (set : ClassTerm) (after : Cursor)

namespace ClassDraft

/-- Read on after an operation, whose mark takes two characters. -/
def combine (draft : ClassDraft) (operation : SetOperation) : ClassProgress :=
  let after := draft.cursor.skip 2
  .unfinished { draft with innermost := draft.innermost.combine operation after, cursor := after }

def close (draft : ClassDraft) : ClassProgress :=
  let after := draft.cursor.step
  let set := draft.innermost.close after
  match draft.enclosing with
  | [] => .finished set after
  | outer :: enclosing =>
    .unfinished { innermost := outer.add set, enclosing, cursor := after }

def advance (draft : ClassDraft) : Except Fault ClassProgress :=
  let cursor := draft.cursor.spaces
  let draft := { draft with cursor }
  match cursor.rest with
  | [] => refuse .classUnclosed draft.innermost.opening
  | ']' :: _ => .ok draft.close
  | '&' :: '&' :: _ => .ok (draft.combine .intersection)
  | '-' :: '-' :: _ => .ok (draft.combine .difference)
  | '~' :: '~' :: _ => .ok (draft.combine .symmetricDifference)
  | '[' :: _ =>
    match namedClass? cursor with
    | some (item, after) =>
      .ok (.unfinished { draft with innermost := draft.innermost.add item, cursor := after })
    | none => do
      let (set, after) ← openClass cursor
      return .unfinished {
        innermost := set
        enclosing := draft.innermost :: draft.enclosing
        cursor := after }
  | c :: _ => do
    let (item, after) ← readItem draft.innermost.opening c cursor
    return .unfinished { draft with innermost := draft.innermost.add item, cursor := after }

/-- Read a set to its end.  Every element takes a part of what is left. -/
def finish (draft : ClassDraft) : Except Fault (ClassTerm × Cursor) :=
  match draft.advance with
  | .error fault => .error fault
  | .ok (.finished set after) => .ok (set, after)
  | .ok (.unfinished next) =>
    if _shorter : next.cursor.rest.length < draft.cursor.rest.length then next.finish
    else refuse .classUnclosed draft.innermost.opening
termination_by draft.cursor.rest.length

end ClassDraft

/-- Read a set of characters.  The cursor stands at its opening bracket. -/
def readClass (cursor : Cursor) : Except Fault (ClassTerm × Cursor) := do
  let (innermost, after) ← openClass cursor
  ClassDraft.finish { innermost, enclosing := [], cursor := after }

end StatementLang.Pattern
