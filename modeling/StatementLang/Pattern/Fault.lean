import StatementLang.Pattern.Place

/-!
# Faults in Patterns

A fault has a cause and a part of the pattern, sometimes together with an earlier part.  Its report
shows the pattern with the parts marked.  Faults of form come before faults of meaning.
-/

namespace StatementLang.Pattern

inductive Cause where
  | groupUnclosed
  | groupUnopened
  | lookAround
  | nameEmpty
  | nameInvalid
  | nameUnclosed
  | nameRepeated
  | flagUnknown
  | flagRepeated
  | flagsUnclosed
  | negationRepeated
  | negationDangling
  | repetitionMissing
  | countUnclosed
  | countEmpty
  | countInvalid
  | countReversed
  | escapeUnfinished
  | escapeUnknown
  | backreference
  | codeEmpty
  | codeDigit
  | codeInvalid
  | propertyLetter
  | wordEdgeUnfinished
  | wordEdgeUnclosed
  | wordEdgeUnknown
  | classUnclosed
  | classEscape
  | classRangeBound
  | classRangeReversed
  | nestedTooDeeply
  | unicodeNotAllowed
  | invalidText
  | propertyUnknown
  | propertyValueUnknown
  | shorthandUnavailable
  | caseUnavailable
deriving DecidableEq, Repr

def nestingLimit : Nat := 250

def Cause.message : Cause → String
  | groupUnclosed => "unclosed group"
  | groupUnopened => "unopened group"
  | lookAround => "look-around, including look-ahead and look-behind, is not supported"
  | nameEmpty => "empty capture group name"
  | nameInvalid => "invalid capture group character"
  | nameUnclosed => "unclosed capture group name"
  | nameRepeated => "duplicate capture group name"
  | flagUnknown => "unrecognized flag"
  | flagRepeated => "duplicate flag"
  | flagsUnclosed => "expected flag but got end of regex"
  | negationRepeated => "flag negation operator repeated"
  | negationDangling => "dangling flag negation operator"
  | repetitionMissing => "repetition operator missing expression"
  | countUnclosed => "unclosed counted repetition"
  | countEmpty => "repetition quantifier expects a valid decimal"
  | countInvalid => "decimal literal invalid"
  | countReversed => "invalid repetition count range, the start must be <= the end"
  | escapeUnfinished => "incomplete escape sequence, reached end of pattern prematurely"
  | escapeUnknown => "unrecognized escape sequence"
  | backreference => "backreferences are not supported"
  | codeEmpty => "hexadecimal literal empty"
  | codeDigit => "invalid hexadecimal digit"
  | codeInvalid => "hexadecimal literal is not a Unicode scalar value"
  | propertyLetter => "invalid Unicode character class"
  | wordEdgeUnfinished =>
    "found either the beginning of a special word boundary or a bounded repetition on a \\b " ++
      "with an opening brace, but no closing brace"
  | wordEdgeUnclosed =>
    "special word boundary assertion is either unclosed or contains an invalid character"
  | wordEdgeUnknown =>
    "unrecognized special word boundary assertion, valid choices are: start, end, start-half " ++
      "or end-half"
  | classUnclosed => "unclosed character class"
  | classEscape => "invalid escape sequence found in character class"
  | classRangeBound => "invalid range boundary, must be a literal"
  | classRangeReversed => "invalid character class range, the start must be <= the end"
  | nestedTooDeeply =>
    "exceed the maximum number of nested parentheses/brackets (" ++ toString nestingLimit ++ ")"
  | unicodeNotAllowed => "Unicode not allowed here"
  | invalidText => "pattern can match invalid UTF-8"
  | propertyUnknown => "Unicode property not found"
  | propertyValueUnknown => "Unicode property value not found"
  | shorthandUnavailable =>
    "Unicode-aware Perl class not found (make sure the unicode-perl feature is enabled)"
  | caseUnavailable =>
    "Unicode-aware case insensitivity matching is not available (make sure the unicode-case " ++
      "feature is enabled)"

/-- A cause with the part of the pattern where it was found, and the earlier part that is repeated
there. -/
structure Fault where
  cause : Cause
  span : Span
  earlier : Option Span := none
deriving DecidableEq, Repr

namespace Fault

/-- The lines of a text.  A line feed ends a line, with the carriage return before it. -/
def linesOf (text : String) : List String :=
  let pieces := text.splitOn "\n"
  let ended := pieces.dropLast.map fun piece ↦
    if piece.toList.getLast? = some '\r' then String.ofList piece.toList.dropLast else piece
  match pieces.getLast? with
  | none | some "" => ended
  | some last => ended ++ [last]

/-- The parts of a fault that are on one line, or that are not, in their order. -/
def spans (fault : Fault) (onOneLine : Bool) : List Span :=
  let all := fault.span :: fault.earlier.toList
  (all.filter fun span ↦ span.isOnOneLine == onOneLine).mergeSort Span.isUpTo

/-- The marks under some parts of a line, after a number of characters. -/
def marks (written : Nat) : List Span → String
  | [] => ""
  | span :: spans =>
    let before := span.start.column - 1 - written
    let width := max 1 (span.stop.column - span.start.column)
    String.ofList (List.replicate before ' ' ++ List.replicate width '^') ++
      marks (written + before + width) spans

/-- A line of the pattern with the marks under it, after its number if there are more lines. -/
def markedLine (fault : Fault) (numberWidth : Nat) (line : String) (number : Nat) : String :=
  let margin :=
    if numberWidth = 0 then "    "
    else
      let digits := toString number
      String.ofList (List.replicate (numberWidth - digits.length) ' ') ++ digits ++ ": "
  let here := (fault.spans true).filter fun span ↦ span.start.line == number
  let note :=
    if here.isEmpty then ""
    else String.ofList (List.replicate margin.length ' ') ++ marks 0 here ++ "\n"
  margin ++ line ++ "\n" ++ note

def markedPattern (fault : Fault) (pattern : String) : String :=
  let lines := linesOf pattern
  let count := if pattern.toList.getLast? = some '\n' then lines.length + 1 else lines.length
  let numberWidth := if count ≤ 1 then 0 else (toString count).length
  String.join (lines.zipIdx.map fun (line, index) ↦ fault.markedLine numberWidth line (index + 1))

def spanNote (span : Span) : String :=
  "on line " ++ toString span.start.line ++ " (column " ++ toString span.start.column ++
    ") through line " ++ toString span.stop.line ++ " (column " ++
    toString (span.stop.column - 1) ++ ")"

def report (fault : Fault) (pattern : String) : String :=
  let marked := fault.markedPattern pattern
  let reason := "error: " ++ fault.cause.message
  if '\n' ∈ pattern.toList then
    let divider := String.ofList (List.replicate 79 '~') ++ "\n"
    let notes := (fault.spans false).map spanNote
    let noted := if notes.isEmpty then "" else String.intercalate "\n" notes ++ "\n"
    "regex parse error:\n" ++ divider ++ marked ++ divider ++ noted ++ reason
  else "regex parse error:\n" ++ marked ++ reason

end Fault

end StatementLang.Pattern
