import StatementLang.Statement
import StatementLang.Text.Quoted

/-!
# Outlines

An outline shows how a value is built: the names of its parts, and what they hold.  It is written on
one line, or with each part on an indented line of its own followed by a comma.
-/

namespace StatementLang

/-- The parts of a value, as they are shown. -/
inductive Outline where
  | atom (text : List Char)
  | wrapped (title : String) (inner : Outline)
  | record (title : String) (parts : List (String × Outline))

namespace Outline

/-- A new line, indented by four spaces for each level of depth. -/
def newLine (depth : Nat) : List Char := '\n' :: List.replicate (4 * depth) ' '

mutual

def oneLine : Outline → List Char
  | atom text => text
  | wrapped title inner => title.toList ++ '(' :: inner.oneLine ++ [')']
  | record title parts => title.toList ++ " \x7b ".toList ++ oneLineParts parts ++ " \x7d".toList

/-- Named parts, separated by commas. -/
def oneLineParts : List (String × Outline) → List Char
  | [] => []
  | [(name, part)] => name.toList ++ ": ".toList ++ part.oneLine
  | (name, part) :: parts =>
    name.toList ++ ": ".toList ++ part.oneLine ++ ", ".toList ++ oneLineParts parts

end

mutual

/-- The outline on indented lines; its first line is not indented. -/
def indented (depth : Nat) : Outline → List Char
  | atom text => text
  | wrapped title inner =>
    title.toList ++ '(' :: newLine (depth + 1) ++ inner.indented (depth + 1) ++ ',' ::
      newLine depth ++ [')']
  | record title parts =>
    title.toList ++ " \x7b".toList ++ indentedParts (depth + 1) parts ++ newLine depth ++ ['\x7d']

def indentedParts (depth : Nat) : List (String × Outline) → List Char
  | [] => []
  | (name, part) :: parts =>
    newLine depth ++ name.toList ++ ": ".toList ++ part.indented depth ++ ',' ::
      indentedParts depth parts

end

def indentedList : List Outline → List Char
  | [] => ['[', ']']
  | items =>
    '[' :: items.flatMap (fun item ↦ newLine 1 ++ item.indented 1 ++ [',']) ++ newLine 0 ++ [']']

def ofNat (number : Nat) : Outline := atom (Nat.toDigits 10 number)

def ofBool (value : Bool) : Outline := atom (if value then "true" else "false").toList

def ofText? : Option String → Outline
  | none => atom "None".toList
  | some text => wrapped "Some" (atom (Text.quote text))

end Outline

def Token.outline (token : Token) : Outline :=
  .record "Token" [
    ("kind", .atom token.kind.title.toList),
    ("line", .ofNat token.line),
    ("value", .ofText? token.value)]

namespace Statement

def expressionOutline (value : Token) : Outline := .record "Expression" [("token", value.outline)]

def outline : Statement → Outline
  | quit value line =>
    .wrapped "Quit" (.record "QuitStatement" [
      ("expression", expressionOutline value),
      ("line", .ofNat line)])
  | log value line =>
    .wrapped "Log" (.record "LogStatement" [
      ("expression", expressionOutline value),
      ("line", .ofNat line)])
  | declaration identifier value constant line =>
    .wrapped "VariableDeclaration" (.record "VariableDeclaration" [
      ("identifier", identifier.outline),
      ("value", value.outline),
      ("is_constant", .ofBool constant),
      ("line", .ofNat line)])

end Statement

end StatementLang
