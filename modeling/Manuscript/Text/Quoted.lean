import Manuscript.Text.Hex
import Manuscript.Text.Unicode.Printable

/-!
# Quoted texts

Two ways of writing a text between double quotes. `quote` is the string literal that JSON and
scripts share: quotes, backslashes and control characters are escaped and all else stands for
itself. `inspect` is for messages: it also escapes every character that is not printable.

## Main definitions

* `quoteChars`, `quote` — the string literal of JSON
* `inspect` — the form for messages
-/

namespace Manuscript.Text

/-- How a character is written between the quotes of a string literal. -/
def quoteChar (c : Char) : List Char :=
  if c = '"' then ['\\', '"']
  else if c = '\\' then ['\\', '\\']
  else if c = '\n' then ['\\', 'n']
  else if c = '\r' then ['\\', 'r']
  else if c = '\t' then ['\\', 't']
  else if c.toNat = 8 then ['\\', 'b']
  else if c.toNat = 12 then ['\\', 'f']
  else if c.toNat < 0x20 then
    ['\\', 'u', '0', '0', hexDigit (c.toNat / 16), hexDigit (c.toNat % 16)]
  else [c]

/-- The characters of a string literal, its quotes included. -/
def quoteChars (cs : List Char) : List Char := '"' :: (cs.flatMap quoteChar ++ ['"'])

/-- The string literal of a text. -/
def quote (text : String) : String := String.ofList (quoteChars text.toList)

/-- How a character is written in a quoted form made for messages. -/
def inspectChar (c : Char) : List Char :=
  if c = '"' then ['\\', '"']
  else if c = '\\' then ['\\', '\\']
  else if c = '\n' then ['\\', 'n']
  else if c = '\r' then ['\\', 'r']
  else if c = '\t' then ['\\', 't']
  else if c.toNat = 0 then ['\\', '0']
  else if Unicode.isPrintable c then [c]
  else ['\\', 'u', '\x7b'] ++ Nat.toDigits 16 c.toNat ++ ['\x7d']

/-- The quoted form of a text made for messages. -/
def inspect (text : String) : String :=
  String.ofList ('"' :: (text.toList.flatMap inspectChar ++ ['"']))

end Manuscript.Text
