import Phrasebook.Text.Decimal
import Phrasebook.Text.Printable

/-!
## Quoted texts

A quoted text stands between double quotes.  The quote and the backslash are written behind a
backslash, the line feed, carriage return, tab and null characters by a letter behind one, and
every other character that is not printable by its code point in braces.  The quoted form has no
line break, and it determines the text.
-/

namespace Phrasebook.Text

/-- How one character is written inside double quotes. -/
def escaped (c : Char) : List Char :=
  if c = '"' then ['\\', '"']
  else if c = '\\' then ['\\', '\\']
  else if c = '\n' then ['\\', 'n']
  else if c = '\r' then ['\\', 'r']
  else if c = '\t' then ['\\', 't']
  else if c.toNat = 0 then ['\\', '0']
  else if isPrintable c then [c]
  else ['\\', 'u', '{'] ++ hexadecimal c.toNat ++ ['}']

/-- The text between double quotes. -/
def quoted (s : List Char) : List Char :=
  '"' :: s.flatMap escaped ++ ['"']

/-- The quoted form of a string. -/
def quote (s : String) : String :=
  String.ofList (quoted s.toList)

/-- Quoted strings between brackets, with a comma and a space between neighbours. -/
def quoteList (items : List String) : String :=
  "[" ++ ", ".intercalate (items.map quote) ++ "]"

end Phrasebook.Text
