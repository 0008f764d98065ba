/-!
# Character references for HTML

The characters that would be read as markup are written as named references: in ordinary text the
ampersand and the angle brackets, between double quotes the quote as well.
-/

namespace Manuscript.Text

/-- How a character of ordinary text is written. -/
def escapeTextChar (c : Char) : List Char :=
  if c = '&' then ['&', 'a', 'm', 'p', ';']
  else if c = '<' then ['&', 'l', 't', ';']
  else if c = '>' then ['&', 'g', 't', ';']
  else [c]

/-- How a character of a double-quoted attribute value is written. -/
def escapeAttributeChar (c : Char) : List Char :=
  if c = '"' then ['&', 'q', 'u', 'o', 't', ';'] else escapeTextChar c

/-- A text as it is written between tags. -/
def escapeText (text : String) : String := String.ofList (text.toList.flatMap escapeTextChar)

/-- A text as it is written between the double quotes of an attribute. -/
def escapeAttribute (text : String) : String :=
  String.ofList (text.toList.flatMap escapeAttributeChar)

end Manuscript.Text
