import StatementLang.Json.Document
import StatementLang.Statement

/-!
# Documents of Tokens and Statements

A token without text has no value field, so that an absent text and an empty one differ.  The type
field of a statement tells its shape, and the constant field tells the two declarations apart.
-/

namespace StatementLang

open Json

def Token.document (token : Token) : Document :=
  .object <|
    [("kind", .string token.kind.label), ("line", .number token.line)] ++
      (token.value.map fun value ↦ ("value", Document.string value)).toList

namespace Statement

def expressionDocument (value : Token) : Document := .object [("token", value.document)]

def document : Statement → Document
  | quit value line =>
    .object [
      ("type", .string "quitStatement"),
      ("expression", expressionDocument value),
      ("line", .number line)]
  | log value line =>
    .object [
      ("type", .string "logStatement"),
      ("expression", expressionDocument value),
      ("line", .number line)]
  | declaration identifier value constant line =>
    .object [
      ("type", .string "variableDeclaration"),
      ("identifier", identifier.document),
      ("value", value.document),
      ("constant", .bool constant),
      ("line", .number line)]

end Statement

end StatementLang
