import StatementLang.Pattern.Place

/-!
# The Terms of Patterns

A term is a pattern as it is written: its elements with the parts of the pattern that they take, and
the flags where they are set.
-/

namespace StatementLang.Pattern

/-- A way of reading what follows that can be switched on and off. -/
inductive Flag where
  | caseless
  | multiline
  | dotAll
  | lazyFirst
  | unicode
  | carriageReturns
  | spaced
deriving DecidableEq, Repr

abbrev FlagChange := List (Flag × Bool)

inductive WordEdge where
  | boundary
  | noBoundary
  | start
  | stop
  | startHalf
  | stopHalf
deriving DecidableEq, Repr

/-- A condition on a place. -/
inductive Edge where
  | textStart
  | textEnd
  | lineStart
  | lineEnd
  | word (edge : WordEdge)
deriving DecidableEq, Repr

structure Literal where
  span : Span
  char : Char
  /-- Whether it is written as a code of two digits, which may also mean a byte. -/
  isByte : Bool := false
deriving DecidableEq, Repr

inductive Shorthand where
  | digit
  | space
  | word
deriving DecidableEq, Repr

inductive Property where
  | named (name : String)
  | valued
deriving DecidableEq, Repr

/-- An element that is not made of others. -/
inductive Atom where
  | literal (literal : Literal)
  | dot (span : Span)
  | edge (span : Span) (edge : Edge)
  | shorthand (span : Span) (shorthand : Shorthand) (negated : Bool)
  | property (span : Span) (property : Property) (negated : Bool)
deriving DecidableEq, Repr

def Atom.span : Atom → Span
  | literal inner => inner.span
  | dot span | edge span _ | shorthand span _ _ | property span _ _ => span

inductive SetOperation where
  | intersection
  | difference
  | symmetricDifference
deriving DecidableEq, Repr

/-- A set of characters as it is written between brackets. -/
inductive ClassTerm where
  | empty (span : Span)
  | literal (literal : Literal)
  | range (span : Span) (first last : Literal)
  /-- A set of ASCII with a name, as closed ranges. -/
  | named (span : Span) (ranges : List (Nat × Nat)) (negated : Bool)
  | shorthand (span : Span) (shorthand : Shorthand) (negated : Bool)
  | property (span : Span) (property : Property) (negated : Bool)
  | bracketed (span : Span) (negated : Bool) (inner : ClassTerm)
  | union (span : Span) (items : List ClassTerm)
  | combined (span : Span) (operation : SetOperation) (left right : ClassTerm)

def ClassTerm.span : ClassTerm → Span
  | literal inner => inner.span
  | empty span | range span _ _ | named span _ _ | shorthand span _ _ | property span _ _ => span
  | bracketed span _ _ | union span _ | combined span _ _ _ => span

inductive GroupKind where
  | capturing
  | switching (change : FlagChange)
deriving DecidableEq, Repr

/-- A pattern or an element of one. -/
inductive Term where
  | empty (span : Span)
  | flags (span : Span) (change : FlagChange)
  | atom (atom : Atom)
  | oneOf (set : ClassTerm)
  | repeated (span : Span) (inner : Term) (least : Nat) (most : Option Nat)
  | group (span : Span) (kind : GroupKind) (inner : Term)
  | choice (span : Span) (branches : List Term)
  | sequence (span : Span) (parts : List Term)

def Term.span : Term → Span
  | atom inner => inner.span
  | oneOf set => set.span
  | empty span | flags span _ | repeated span _ _ _ | group span _ _ => span
  | choice span _ | sequence span _ => span

end StatementLang.Pattern
