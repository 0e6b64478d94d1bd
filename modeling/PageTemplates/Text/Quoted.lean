import PageTemplates.Text
import PageTemplates.Text.Unprintable

/-!
# Quoted text

Messages show a text between double quotes.  Quotes and backslashes get a
backslash, four control characters have short forms, and every other character
that is not shown as itself is written by its code point in hexadecimal.
-/

namespace PageTemplates

namespace Text

/-- A character inside a quoted text. -/
def quotedChar (c : Char) : Text :=
  if c = '"' then ['\\', '"']
  else if c = '\\' then ['\\', '\\']
  else if c = '\n' then ['\\', 'n']
  else if c = '\r' then ['\\', 'r']
  else if c = '\t' then ['\\', 't']
  else if c.toNat = 0 then ['\\', '0']
  else if isPrintable c then [c]
  else ['\\', 'u', '{'] ++ Nat.toDigits 16 c.toNat ++ ['}']

/-- The text between double quotes. -/
def quoted (text : Text) : Text := '"' :: text.flatMap quotedChar ++ ['"']

end Text

end PageTemplates
