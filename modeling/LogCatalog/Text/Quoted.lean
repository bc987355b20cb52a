import LogCatalog.Text.Basic
import LogCatalog.Unicode.Printable

/-!
# Quoted text

A text in quotation marks, as messages cite it: quotation marks, backslashes and characters that
cannot be seen are written as escapes.
-/

namespace LogCatalog.Text

def escapeForMessage (c : Char) : Text :=
  if c = '"' then ['\\', '"']
  else if c = '\\' then ['\\', '\\']
  else if c = '\n' then ['\\', 'n']
  else if c = '\r' then ['\\', 'r']
  else if c = '\t' then ['\\', 't']
  else if c = '\x00' then ['\\', '0']
  else if Unicode.isPrintable c then [c]
  else '\\' :: 'u' :: '\x7b' :: Nat.toDigits 16 c.toNat ++ ['\x7d']

def quoted (t : Text) : Text := '"' :: t.flatMap escapeForMessage ++ ['"']

end LogCatalog.Text
