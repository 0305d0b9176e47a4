import StatementLang.Json.Document
import StatementLang.Json.Numeral

/-!
# The Grammar of JSON Texts

A text is JSON when it holds one value, with blanks before and behind it.  The relations of this
module say which value stands at the front of a text and what is left behind it, without saying how
to find out.  A value keeps the pieces its strings are written with, so that a string whose escapes
form no characters is a value too, but one without a text.
-/

namespace StatementLang.Json

/-- A piece of a string as it is written: a character, by itself or by its short escape, or a code
unit of a numeric escape. -/
inductive Piece where
  | char (c : Char)
  | unit (number : Nat)
deriving DecidableEq, Repr

/-- A JSON value as it is written, but for blanks. -/
inductive Value where
  | null
  | bool (flag : Bool)
  | number (numeral : Numeral)
  | string (pieces : List Piece)
  | array (items : List Value)
  | object (entries : List (List Piece × Value))

abbrev Entry := List Piece × Value

/-- The characters that pieces stand for.  Two code units from the two ranges of surrogates stand
for one character when they come together; alone, neither of them stands for any. -/
def decode : List Piece → Option (List Char)
  | [] => some []
  | .char c :: pieces => (decode pieces).map (c :: ·)
  | .unit number :: pieces =>
    if number < 0xD800 ∨ 0xDFFF < number then (decode pieces).map (Char.ofNat number :: ·)
    else
      match pieces with
      | .unit second :: pieces =>
        if number < 0xDC00 ∧ 0xDC00 ≤ second ∧ second ≤ 0xDFFF then
          (decode pieces).map
            (Char.ofNat (0x10000 + 0x400 * (number - 0xD800) + (second - 0xDC00)) :: ·)
        else none
      | _ => none

/-- Every string and every key of a value has a text: no surrogate is left unpaired. -/
inductive Value.IsEncoded : Value → Prop where
  | null : IsEncoded .null
  | bool (flag : Bool) : IsEncoded (.bool flag)
  | number (numeral : Numeral) : IsEncoded (.number numeral)
  | string {pieces : List Piece} (text : (decode pieces).isSome = true) :
      IsEncoded (.string pieces)
  | array {items : List Value} (all : ∀ item ∈ items, IsEncoded item) : IsEncoded (.array items)
  | object {entries : List Entry} (keys : ∀ entry ∈ entries, (decode entry.1).isSome = true)
      (all : ∀ entry ∈ entries, IsEncoded entry.2) : IsEncoded (.object entries)

/-- A text begins with blanks, and the rest is left behind them. -/
def Blanks (text rest : List Char) : Prop :=
  ∃ blanks, text = blanks ++ rest ∧ ∀ c ∈ blanks, isBlank c = true

def IsDigits (digits : List Char) : Prop := digits ≠ [] ∧ ∀ c ∈ digits, c.isDigit = true

/-- The digits of an integer part, in which a leading zero stands alone. -/
def IsWhole (digits : List Char) : Prop :=
  IsDigits digits ∧ (digits.head? = some '0' → digits = ['0'])

def signText (negative : Bool) : List Char := if negative then ['-'] else []

def fractionText : Option (List Char) → List Char
  | none => []
  | some digits => '.' :: digits

inductive SpellsExponent : List Char → Option (Bool × List Char) → Prop where
  | absent : SpellsExponent [] none
  | unsigned {mark : Char} {digits : List Char} (marked : mark = 'e' ∨ mark = 'E')
      (decimal : IsDigits digits) : SpellsExponent (mark :: digits) (some (false, digits))
  | positive {mark : Char} {digits : List Char} (marked : mark = 'e' ∨ mark = 'E')
      (decimal : IsDigits digits) : SpellsExponent (mark :: '+' :: digits) (some (false, digits))
  | negative {mark : Char} {digits : List Char} (marked : mark = 'e' ∨ mark = 'E')
      (decimal : IsDigits digits) : SpellsExponent (mark :: '-' :: digits) (some (true, digits))

inductive SpellsNumeral : List Char → Numeral → Prop where
  | parts {negative : Bool} {whole exponentText : List Char} {fraction : Option (List Char)}
      {exponent : Option (Bool × List Char)} (integral : IsWhole whole)
      (fractional : ∀ digits ∈ fraction, IsDigits digits)
      (scaled : SpellsExponent exponentText exponent) :
      SpellsNumeral (signText negative ++ (whole ++ (fractionText fraction ++ exponentText)))
        { negative, whole, fraction, exponent }

/-- The letters of the short escapes, each with the character it stands for. -/
def shortEscapes : List (Char × Char) :=
  [('"', '"'), ('\\', '\\'), ('/', '/'), ('b', '\x08'), ('f', '\x0c'), ('n', '\n'), ('r', '\r'),
    ('t', '\t')]

/-- A text begins with the pieces of a string and its closing quote; the rest is left. -/
inductive SpellsString : List Char → List Piece → List Char → Prop where
  | closed {rest : List Char} : SpellsString ('"' :: rest) [] rest
  | plain {c : Char} {text rest : List Char} {pieces : List Piece} (notQuote : c ≠ '"')
      (notEscape : c ≠ '\\') (notControl : 0x20 ≤ c.toNat)
      (later : SpellsString text pieces rest) : SpellsString (c :: text) (.char c :: pieces) rest
  | short {letter c : Char} {text rest : List Char} {pieces : List Piece}
      (known : (letter, c) ∈ shortEscapes) (later : SpellsString text pieces rest) :
      SpellsString ('\\' :: letter :: text) (.char c :: pieces) rest
  | numeric {first second third fourth : Char} {number : Nat} {text rest : List Char}
      {pieces : List Piece}
      (hexadecimal : Text.ofFourHexadecimal? first second third fourth = some number)
      (later : SpellsString text pieces rest) :
      SpellsString ('\\' :: 'u' :: first :: second :: third :: fourth :: text)
        (.unit number :: pieces) rest

/-- What stands between two members of an array or an object, or between the opening bracket and the
first member. -/
def Separates (first : Bool) (text rest : List Char) : Prop :=
  if first then Blanks text rest else ∃ behind, Blanks text (',' :: behind) ∧ Blanks behind rest

/-- The phrases of the grammar: a value, and the members of an array or an object that are left to
its closing bracket, from the first member or from a later one on. -/
inductive Phrase where
  | value (value : Value)
  | items (first : Bool) (items : List Value)
  | entries (first : Bool) (entries : List Entry)

/-- A text begins with a phrase, and the rest is left behind it. -/
inductive Spells : List Char → Phrase → List Char → Prop where
  | null {rest : List Char} : Spells ('n' :: 'u' :: 'l' :: 'l' :: rest) (.value .null) rest
  | bool (value : Bool) {rest : List Char} :
      Spells (flag value ++ rest) (.value (.bool value)) rest
  | number {text rest : List Char} {numeral : Numeral} (spelled : SpellsNumeral text numeral) :
      Spells (text ++ rest) (.value (.number numeral)) rest
  | string {text rest : List Char} {pieces : List Piece}
      (spelled : SpellsString text pieces rest) :
      Spells ('"' :: text) (.value (.string pieces)) rest
  | array {text rest : List Char} {items : List Value}
      (spelled : Spells text (.items true items) rest) :
      Spells ('[' :: text) (.value (.array items)) rest
  | object {text rest : List Char} {entries : List Entry}
      (spelled : Spells text (.entries true entries) rest) :
      Spells ('\x7b' :: text) (.value (.object entries)) rest
  | noItem {first : Bool} {text rest : List Char} (closing : Blanks text (']' :: rest)) :
      Spells text (.items first []) rest
  | item {first : Bool} {text start next rest : List Char} {value : Value} {items : List Value}
      (separated : Separates first text start) (spelled : Spells start (.value value) next)
      (later : Spells next (.items false items) rest) :
      Spells text (.items first (value :: items)) rest
  | noEntry {first : Bool} {text rest : List Char} (closing : Blanks text ('\x7d' :: rest)) :
      Spells text (.entries first []) rest
  | entry {first : Bool} {text start afterKey afterColon valueStart next rest : List Char}
      {key : List Piece} {value : Value} {entries : List Entry}
      (separated : Separates first text ('"' :: start)) (named : SpellsString start key afterKey)
      (colon : Blanks afterKey (':' :: afterColon)) (blank : Blanks afterColon valueStart)
      (spelled : Spells valueStart (.value value) next)
      (later : Spells next (.entries false entries) rest) :
      Spells text (.entries first ((key, value) :: entries)) rest

/-- A text is one JSON value, with blanks around it. -/
def IsJson (text : List Char) (value : Value) : Prop :=
  ∃ start rest, Blanks text start ∧ Spells start (.value value) rest ∧ Blanks rest []

namespace Value

def bool? : Value → Option Bool
  | bool flag => some flag
  | _ => none

def text? : Value → Option String
  | string pieces => (decode pieces).map String.ofList
  | _ => none

/-- The count that a value is: a numeral of digits alone that fits in 64 bits. -/
def count? : Value → Option Nat
  | number { negative := false, whole, fraction := none, exponent := none } =>
    if ofDigits whole < Nat.pow 2 64 then some (ofDigits whole) else none
  | _ => none

/-- What a label stands for: as a text, or as the only key of an object with null under it. -/
def choice? {α : Type} (ofLabel? : String → Option α) : Value → Option α
  | string pieces => (string pieces).text?.bind ofLabel?
  | object [(key, null)] => (string key).text?.bind ofLabel?
  | _ => none

/-- The items of an array, each read alike. -/
def list? {α : Type} (item? : Value → Option α) : Value → Option (List α)
  | array items => items.mapM item?
  | _ => none

/-- The values under a key of an object. -/
def under (entries : List Entry) (key : String) : List Value :=
  (entries.filter fun entry ↦ decode entry.1 == some key.toList).map Prod.snd

/-- The value under a key that occurs exactly once. -/
def only? (entries : List Entry) (key : String) : Option Value :=
  match under entries key with
  | [value] => some value
  | _ => none

/-- The values of the fields of a record, in the order of their keys: each under its key in an
object, whose other entries do not matter, or exactly these in an array. -/
def fields? (keys : List String) : Value → Option (List Value)
  | array items => if items.length = keys.length then some items else none
  | object entries => keys.mapM (only? entries)
  | _ => none

end Value

end StatementLang.Json
