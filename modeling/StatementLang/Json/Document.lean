import StatementLang.Text.Hexadecimal

/-!
# Writing JSON Documents

A document keeps the order of its fields.  It is written without blanks, or on indented lines with
one space after each colon; the two texts hold the same characters in the same order but for the
blanks between them.
-/

namespace StatementLang.Json

/-- A JSON value whose numbers are natural and whose fields have an order. -/
inductive Document where
  | bool (value : Bool)
  | number (value : Nat)
  | string (value : String)
  | array (items : List Document)
  | object (fields : List (String × Document))

def escape (c : Char) : List Char :=
  if c = '"' then ['\\', '"']
  else if c = '\\' then ['\\', '\\']
  else if c = '\x08' then ['\\', 'b']
  else if c = '\x0c' then ['\\', 'f']
  else if c = '\n' then ['\\', 'n']
  else if c = '\r' then ['\\', 'r']
  else if c = '\t' then ['\\', 't']
  else if c.toNat < 0x20 then '\\' :: 'u' :: Text.fourHexadecimal c.toNat
  else [c]

def quoted (text : String) : List Char := '"' :: text.toList.flatMap escape ++ ['"']

def digits (number : Nat) : List Char := Nat.toDigits 10 number

def flag (value : Bool) : List Char := (if value then "true" else "false").toList

/-- A new line, indented by two spaces for each level of depth. -/
def newLine (depth : Nat) : List Char := '\n' :: List.replicate (2 * depth) ' '

namespace Document

mutual

/-- The text of a document without any blanks. -/
def compact : Document → List Char
  | bool value => flag value
  | number value => digits value
  | string value => quoted value
  | array items => '[' :: compactItems items ++ [']']
  | object fields => '{' :: compactFields fields ++ ['}']

def compactItems : List Document → List Char
  | [] => []
  | [item] => item.compact
  | item :: items => item.compact ++ ',' :: compactItems items

def compactFields : List (String × Document) → List Char
  | [] => []
  | [(key, value)] => quoted key ++ ':' :: value.compact
  | (key, value) :: fields => quoted key ++ ':' :: value.compact ++ ',' :: compactFields fields

end

mutual

/-- The text of a document with each item and each field on a line of its own.  What is empty stays
on one line. -/
def pretty (depth : Nat) : Document → List Char
  | bool value => flag value
  | number value => digits value
  | string value => quoted value
  | array [] => ['[', ']']
  | array (item :: items) =>
    '[' :: prettyItems (depth + 1) (item :: items) ++ newLine depth ++ [']']
  | object [] => ['{', '}']
  | object (field :: fields) =>
    '{' :: prettyFields (depth + 1) (field :: fields) ++ newLine depth ++ ['}']

def prettyItems (depth : Nat) : List Document → List Char
  | [] => []
  | [item] => newLine depth ++ item.pretty depth
  | item :: items => newLine depth ++ item.pretty depth ++ ',' :: prettyItems depth items

def prettyFields (depth : Nat) : List (String × Document) → List Char
  | [] => []
  | [(key, value)] => newLine depth ++ quoted key ++ ':' :: ' ' :: value.pretty depth
  | (key, value) :: fields =>
    newLine depth ++ quoted key ++ ':' :: ' ' :: value.pretty depth ++
      ',' :: prettyFields depth fields

end

def toCompactString (document : Document) : String := String.ofList document.compact

def toPrettyString (document : Document) : String := String.ofList (document.pretty 0)

end Document

end StatementLang.Json
