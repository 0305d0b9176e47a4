/-!
# Places in a Pattern

A place stands before a character or at the end.  Lines and columns are counted from one.
-/

namespace StatementLang.Pattern

structure Place where
  line : Nat
  column : Nat
deriving DecidableEq, Repr

namespace Place

def start : Place := { line := 1, column := 1 }

def after (place : Place) (c : Char) : Place :=
  if c = '\n' then { line := place.line + 1, column := 1 }
  else { place with column := place.column + 1 }

def isUpTo (first second : Place) : Bool :=
  decide (first.line < second.line) ||
    (first.line == second.line && decide (first.column ≤ second.column))

end Place

structure Span where
  start : Place
  stop : Place
deriving DecidableEq, Repr

namespace Span

def point (place : Place) : Span := { start := place, stop := place }

def isOnOneLine (span : Span) : Bool := span.start.line == span.stop.line

def isUpTo (first second : Span) : Bool :=
  if first.start = second.start then first.stop.isUpTo second.stop
  else first.start.isUpTo second.start

end Span

end StatementLang.Pattern
