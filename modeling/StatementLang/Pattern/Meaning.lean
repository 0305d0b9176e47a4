import StatementLang.Pattern.Cursor
import StatementLang.Pattern.Matcher

/-!
# The Meaning of Terms

The meaning of a term depends on the flags that are set where it stands.  The classes that are known
by name are those of ASCII; with the flag for Unicode, which is set at first, a letter has no other
case and a name no class, so that both are faults.  Without it, what is no ASCII cannot be part of a
class.
-/

namespace StatementLang.Pattern

open Cursor

/-- The flags that the meaning of a term depends on. -/
structure Settings where
  caseless : Bool := false
  multiline : Bool := false
  dotAll : Bool := false
  unicode : Bool := true
  carriageReturns : Bool := false
deriving DecidableEq, Repr

namespace Settings

def set (settings : Settings) (flag : Flag) (value : Bool) : Settings :=
  match flag with
  | .caseless => { settings with caseless := value }
  | .multiline => { settings with multiline := value }
  | .dotAll => { settings with dotAll := value }
  | .unicode => { settings with unicode := value }
  | .carriageReturns => { settings with carriageReturns := value }
  | .lazyFirst | .spaced => settings

def change (settings : Settings) (change : FlagChange) : Settings :=
  change.foldl (fun settings (flag, value) ↦ settings.set flag value) settings

/-- The set with all cases of its letters, if case has no meaning. -/
def fold (settings : Settings) (span : Span) (set : CharSet) : Except Fault CharSet :=
  if !settings.caseless || set.isEmpty then .ok set
  else if settings.unicode then refuse .caseUnavailable span
  else .ok set.bothCases

/-- The set, or what does not belong to it.  It must be made of characters of ASCII, or else of
Unicode. -/
def negate (settings : Settings) (span : Span) (negated : Bool) (set : CharSet) :
    Except Fault CharSet :=
  let result := if negated then set.complement else set
  if settings.unicode || result.isAscii then .ok result else refuse .invalidText span

/-- A set that is written out, with its cases and negated. -/
def settle (settings : Settings) (span : Span) (negated : Bool) (set : CharSet) :
    Except Fault CharSet := do
  settings.negate span negated (← settings.fold span set)

end Settings

def Shorthand.asciiSet : Shorthand → CharSet
  | digit => { ranges := [(0x30, 0x39)] }
  | space => { ranges := [(0x09, 0x0D), (0x20, 0x20)] }
  | word => { ranges := [(0x30, 0x39), (0x41, 0x5A), (0x5F, 0x5F), (0x61, 0x7A)] }

def Shorthand.meaning (settings : Settings) (span : Span) (negated : Bool) (shorthand : Shorthand) :
    Except Fault CharSet :=
  if settings.unicode then refuse .shorthandUnavailable span
  else settings.negate span negated shorthand.asciiSet

/-- The characters that count in the name of a property, all of them small. -/
def propertyKey (name : String) : String :=
  let cs :=
    match name.toList with
    | c :: d :: rest => if c.toLower = 'i' ∧ d.toLower = 's' then rest else c :: d :: rest
    | cs => cs
  String.ofList
    ((cs.filter fun c ↦ c != ' ' && c != '_' && c != '-' && decide (c.toNat < 0x80)).map
      Char.toLower)

/-- Why the set of a property is not known.  Three names belong to a category at once, and a
category is looked up among the values of a property. -/
def Property.cause (property : Property) : Cause :=
  match property with
  | named name =>
    if propertyKey name ∈ ["cf", "lc", "sc"] then .propertyValueUnknown else .propertyUnknown
  | valued => .propertyUnknown

/-- The set of a property, none of which is known. -/
def Property.meaning (settings : Settings) (span : Span) (property : Property) :
    Except Fault CharSet :=
  if settings.unicode then refuse property.cause span else refuse .unicodeNotAllowed span

/-- The code of a literal, which is no byte of a longer code. -/
def Literal.code (settings : Settings) (literal : Literal) : Except Fault Nat :=
  let code := literal.char.toNat
  if settings.unicode || !literal.isByte || code ≤ 0x7F then .ok code
  else refuse .invalidText literal.span

def Literal.bound (settings : Settings) (literal : Literal) : Except Fault Nat := do
  let code ← literal.code settings
  if settings.unicode || code ≤ 0x7F then return code
  else refuse .unicodeNotAllowed literal.span

def SetOperation.combine : SetOperation → CharSet → CharSet → CharSet
  | intersection => CharSet.intersection
  | difference => CharSet.difference
  | symmetricDifference => CharSet.symmetricDifference

mutual

def ClassTerm.meaning (settings : Settings) : ClassTerm → Except Fault CharSet
  | .empty _ => .ok .empty
  | .literal found => return .single (← found.bound settings)
  | .range _ first last => do
    let first ← first.bound settings
    let last ← last.bound settings
    return .between first last
  | .named span ranges negated => settings.settle span negated { ranges }
  | .shorthand span found negated => found.meaning settings span negated
  | .property span found _ => found.meaning settings span
  | .bracketed span negated inner => do
    settings.settle span negated (← inner.meaning settings)
  | .union _ items => ClassTerm.unionMeaning settings items
  | .combined _ operation left right => do
    let first ← left.meaning settings
    let second ← right.meaning settings
    let second ← settings.fold right.span second
    let first ← settings.fold left.span first
    return operation.combine first second

def ClassTerm.unionMeaning (settings : Settings) : List ClassTerm → Except Fault CharSet
  | [] => .ok .empty
  | item :: items => do
    let first ← item.meaning settings
    let others ← ClassTerm.unionMeaning settings items
    return first.union others

end

/-! ## Terms -/

def Settings.dotSet (settings : Settings) : CharSet :=
  if settings.dotAll then .all
  else
    let lineEnds := if settings.carriageReturns then ['\n', '\r'] else ['\n']
    { ranges := lineEnds.map fun c ↦ (c.toNat, c.toNat) : CharSet }.complement

def Edge.meaning (settings : Settings) : Edge → PlaceTest
  | textStart => .textStart
  | textEnd => .textEnd
  | lineStart => if settings.multiline then .lineStart settings.carriageReturns else .textStart
  | lineEnd => if settings.multiline then .lineEnd settings.carriageReturns else .textEnd
  | word edge => .word edge settings.unicode

def Atom.meaning (settings : Settings) : Atom → Except Fault Matcher
  | literal found => do
    let set := CharSet.single (← found.code settings)
    return .oneOf (← settings.fold found.span set)
  | dot span =>
    if settings.unicode then .ok (.oneOf settings.dotSet) else refuse .invalidText span
  | edge _ found => .ok (.edge (found.meaning settings))
  | shorthand span found negated => (found.meaning settings span negated).map Matcher.oneOf
  | property span found _ => (found.meaning settings span).map Matcher.oneOf

mutual

/-- What a term means, with the flags that are set after it. -/
def Term.meaning (settings : Settings) : Term → Except Fault (Matcher × Settings)
  | .empty _ => .ok (.empty, settings)
  | .flags _ change => .ok (.empty, settings.change change)
  | .atom found => return (← found.meaning settings, settings)
  | .oneOf set => return (.oneOf (← set.meaning settings), settings)
  | .repeated _ inner least most => do
    let (matcher, settings) ← inner.meaning settings
    return (matcher.rounds least most, settings)
  | .group _ .capturing inner => do
    let (matcher, _) ← inner.meaning settings
    return (.group matcher, settings)
  | .group _ (.switching change) inner => do
    let (matcher, _) ← inner.meaning (settings.change change)
    return (matcher, settings)
  | .choice _ branches => do
    let (matchers, settings) ← Term.meanings settings branches
    return (.ofBranches matchers, settings)
  | .sequence _ parts => do
    let (matchers, settings) ← Term.meanings settings parts
    return (.ofParts matchers, settings)

/-- What some terms mean, each read with the flags that are set after the one before it. -/
def Term.meanings (settings : Settings) : List Term → Except Fault (List Matcher × Settings)
  | [] => .ok ([], settings)
  | term :: terms => do
    let (matcher, settings) ← term.meaning settings
    let (matchers, settings) ← Term.meanings settings terms
    return (matcher :: matchers, settings)

end

end StatementLang.Pattern
