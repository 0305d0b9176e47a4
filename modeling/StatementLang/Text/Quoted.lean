import StatementLang.Text.Hexadecimal
import StatementLang.Text.Hidden

/-!
# Quoted Text

Text inside quotes, with every character that would break a line or end the quote escaped.  Other
hidden characters are given by their code point; all else stands for itself.
-/

namespace StatementLang.Text

def quotedChar (c : Char) : List Char :=
  if c = '"' then ['\\', '"']
  else if c = '\\' then ['\\', '\\']
  else if c = '\n' then ['\\', 'n']
  else if c = '\r' then ['\\', 'r']
  else if c = '\t' then ['\\', 't']
  else if c = '\x00' then ['\\', '0']
  else if isHidden c then ['\\', 'u', '\x7b'] ++ hexadecimal c.toNat ++ ['\x7d']
  else [c]

def quote (text : String) : List Char := '"' :: text.toList.flatMap quotedChar ++ ['"']

end StatementLang.Text
