import StatementLang.Pattern.ByteSequences
import StatementLang.Pattern.Term

/-!
# Matchers

A matcher is what a pattern means.  It is run on all starting places of a text at once: a set of
places is a number whose bits stand for the places, from the start of the text on.
-/

namespace StatementLang.Pattern

/-- Whether a character belongs to a word, by ASCII alone. -/
def isWordChar (c : Char) : Bool := c.isAlphanum || c == '_'

/-- Whether a place between two characters, which are missing at the ends of a text, is at the edge
of a word. -/
def WordEdge.holds (edge : WordEdge) (before after : Option Char) : Bool :=
  let wordBefore := before.any isWordChar
  let wordAfter := after.any isWordChar
  match edge with
  | boundary => wordBefore != wordAfter
  | noBoundary => wordBefore == wordAfter
  | start => !wordBefore && wordAfter
  | stop => wordBefore && !wordAfter
  | startHalf => !wordBefore
  | stopHalf => !wordAfter

/-- A condition on the characters around a place. -/
inductive PlaceTest where
  | textStart
  | textEnd
  | lineStart (carriageReturns : Bool)
  | lineEnd (carriageReturns : Bool)
  | word (edge : WordEdge) (unicode : Bool)
deriving DecidableEq, Repr

/-- Whether a place between two characters fulfils a condition.  A carriage return before a line
feed ends a line together with it. -/
def PlaceTest.holds (test : PlaceTest) (before after : Option Char) : Bool :=
  match test with
  | textStart => before.isNone
  | textEnd => after.isNone
  | lineStart carriageReturns =>
    before.isNone || before == some '\n' ||
      (carriageReturns && before == some '\r' && after != some '\n')
  | lineEnd carriageReturns =>
    if carriageReturns then
      after.isNone || after == some '\r' || (after == some '\n' && before != some '\r')
    else after.isNone || after == some '\n'
  | word edge _ => edge.holds before after

/-- What a pattern means. -/
inductive Matcher where
  /-- The text without characters. -/
  | empty
  /-- One character of a set. -/
  | oneOf (set : CharSet)
  /-- The text without characters, at some places. -/
  | edge (test : PlaceTest)
  /-- One matcher after another. -/
  | sequence (first second : Matcher)
  /-- One of two matchers. -/
  | choice (first second : Matcher)
  /-- A matcher that stands in brackets. -/
  | group (inner : Matcher)
  /-- A number of rounds of a matcher. -/
  | repeated (inner : Matcher) (least : Nat) (most : Option Nat)
deriving Repr

namespace Matcher

/-- The places of a text that fulfil a condition on the characters around them. -/
def placesWhere (holds : Option Char → Option Char → Bool) (before : Option Char) :
    List Char → Nat
  | [] => (holds before none).toNat
  | c :: cs => (holds before (some c)).toNat + 2 * placesWhere holds (some c) cs

/-- The places after one character of a set that follows one of some places. -/
def advance (set : CharSet) (text : List Char) (places : Nat) : Nat :=
  2 * (places &&& placesWhere (fun _ after ↦ after.any fun c ↦ set.contains c.toNat) none text)

/-- The places that are reached in at most a number of rounds. -/
def reach (round : Nat → Nat) : Nat → Nat → Nat
  | 0, places => places
  | limit + 1, places =>
    let next := places ||| round places
    if next = places then places else reach round limit next

/-- The places where a matcher may end that starts at one of some places.  No more rounds take a
character than a text has characters, and one more round that takes none is as good as many. -/
def ends (text : List Char) : Matcher → Nat → Nat
  | empty, places => places
  | oneOf set, places => advance set text places
  | edge test, places => places &&& placesWhere test.holds none text
  | sequence first second, places => second.ends text (first.ends text places)
  | choice first second, places => first.ends text places ||| second.ends text places
  | group inner, places => inner.ends text places
  | repeated inner least most, places =>
    let room := text.length + 1
    let required := Nat.repeat (inner.ends text) (min least room) places
    let optional := most.elim room fun most ↦ min (most - least) room
    reach (inner.ends text) optional required

def occursIn (matcher : Matcher) (text : List Char) : Bool :=
  matcher.ends text (placesWhere (fun _ _ ↦ true) none text) != 0

def ofParts : List Matcher → Matcher
  | [] => empty
  | [part] => part
  | part :: parts => sequence part (ofParts parts)

def ofBranches : List Matcher → Matcher
  | [] => oneOf .empty
  | [branch] => branch
  | branch :: branches => choice branch (ofBranches branches)

/-- Whether a matcher never takes a character. -/
def takesNothing : Matcher → Bool
  | empty | edge _ => true
  | oneOf _ => false
  | sequence first second | choice first second => first.takesNothing && second.takesNothing
  | group inner => inner.takesNothing
  | repeated inner _ _ => inner.takesNothing

/-- Rounds of a matcher.  Of what takes no character, one round is as good as many. -/
def rounds (inner : Matcher) (least : Nat) (most : Option Nat) : Matcher :=
  let most := if inner.takesNothing then some (most.elim 1 (min · 1)) else most
  let least := if inner.takesNothing then min least 1 else least
  match least, most with
  | 0, some 0 => empty
  | 1, some 1 => inner
  | _, _ => repeated inner least most

/-! ## Limits -/

/-- The space that a set of characters takes in a direction.  A single character is spelled out, and
a set within ASCII is a choice of bytes. -/
def spaceOfSet (direction : Direction) (set : CharSet) : Nat :=
  let spread :=
    if set.isAscii then 64 + 8 * set.parts.length
    else ByteSequence.space (ByteSequence.ofSet set) direction
  match set.parts with
  | [(first, last)] => if first = last then 32 * (Char.ofNat first).utf8Size else spread
  | _ => spread

/-- An estimate of the space that a matcher takes in a direction.  Only forward is a group noted. -/
def space (direction : Direction) : Matcher → Nat
  | empty | edge _ => 32
  | oneOf set => spaceOfSet direction set
  | sequence first second => first.space direction + second.space direction
  | choice first second => first.space direction + second.space direction + 40
  | group inner => inner.space direction + if direction = .forward then 64 else 0
  | repeated inner least most =>
    let round := inner.space direction
    match most with
    | none => least * round + round + 40
    | some most => least * round + (most - least) * (round + 40) + 32

def usesUnicodeWords : Matcher → Bool
  | edge (.word _ unicode) => unicode
  | empty | oneOf _ | edge _ => false
  | sequence first second | choice first second =>
    first.usesUnicodeWords || second.usesUnicodeWords
  | group inner | repeated inner _ _ => inner.usesUnicodeWords

end Matcher

end StatementLang.Pattern
