import Manuscript.Text.Blank
import Manuscript.Text.Quoted
import Manuscript.Text.Split
import Manuscript.Text.Unicode.LetterCase

/-!
# Style declarations as objects

The declarations of a style attribute, `name: value` separated by semicolons, are written as the
object that a component takes in their place. Names become camel case; custom properties keep theirs
between quotes. Declarations without a colon, a name or a value are left out.

## Main definitions

* `camelCase` — the key of a property name
* `Declarations.parse` — the declarations of a style attribute
* `Declarations.toObject` — the object literal
* `Declarations.toExpression` — the object literal in the braces of an attribute
-/

namespace Manuscript.Style

/-- Camel case for the rest of a name: `started` when something has been written, `raised` when the
next character is to be upper case. -/
def camelCaseFrom (started raised : Bool) : List Char → List Char
  | [] => []
  | c :: rest =>
    if c = '-' then camelCaseFrom started started rest
    else (if raised then Text.Unicode.upperChar c else [c]) ++ camelCaseFrom true false rest

/-- A name in camel case: each hyphen is dropped and raises the next character. A hyphen at the start
does so only if it is followed by something else than a hyphen. -/
def camelCaseChars : List Char → List Char
  | '-' :: rest => camelCaseFrom false true rest
  | cs => camelCaseFrom false false cs

/-- A name in camel case. -/
def camelCase (name : String) : String := String.ofList (camelCaseChars name.toList)

/-- The name and the value of a declaration, trimmed; `none` if one of them is missing. -/
def parseDeclaration (cs : List Char) : Option (List Char × List Char) := do
  let (name, value) ← Text.splitFirst ':' cs
  let name := Text.trim name
  let value := Text.trim value
  if name.isEmpty || value.isEmpty then none else some (name, value)

namespace Declarations

/-- The declarations of a style attribute, in order. -/
def parse (cs : List Char) : List (List Char × List Char) :=
  (Text.splitOn ';' cs).filterMap parseDeclaration

/-- The key of a property. -/
def key (name : List Char) : List Char :=
  match name with
  | '-' :: '-' :: _ => Text.quoteChars name
  | _ => camelCaseChars name

/-- How a declaration is written in an object. -/
def entry (declaration : List Char × List Char) : List Char :=
  key declaration.1 ++ ':' :: ' ' :: Text.quoteChars declaration.2

/-- Entries with a comma and a space between neighbours. -/
def joinEntries : List (List Char) → List Char
  | [] => []
  | [last] => last
  | first :: rest => first ++ ',' :: ' ' :: joinEntries rest

/-- The characters of the object literal. -/
def toObjectChars (cs : List Char) : List Char :=
  '\x7b' :: (joinEntries ((parse cs).map entry) ++ ['\x7d'])

/-- The characters of the object literal in the braces of an attribute. -/
def toExpressionChars (cs : List Char) : List Char := '\x7b' :: (toObjectChars cs ++ ['\x7d'])

/-- The object literal of the declarations in a style attribute. -/
def toObject (style : String) : String := String.ofList (toObjectChars style.toList)

/-- The object literal in the braces that an attribute needs around an expression. -/
def toExpression (style : String) : String := String.ofList (toExpressionChars style.toList)

end Declarations

end Manuscript.Style
