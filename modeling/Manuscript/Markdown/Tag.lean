import Manuscript.Markdown.Escape
import Manuscript.Markdown.Expression
import Manuscript.Text.Blank
import Manuscript.Text.Unicode.Identifier

/-!
# Tags of components

A tag opens or closes a component or does both. Names may have members behind points or a local part
behind a colon; attributes may have values between quotes or braces, and an expression in braces may
stand in place of an attribute.

## Main definitions

* `Markdown.Tag` — the tags
* `Reader.tag` — reads a tag
-/

namespace Manuscript.Markdown

open Manuscript.Text.Unicode (isIdentifierStart isIdentifierContinue)

/-- A tag. -/
structure Tag where
  /-- The name; a group has none. -/
  name : Option String
  /-- The attributes. -/
  attributes : List JsxAttribute
  /-- Where the slash of a closing tag is. -/
  closing : Option SourceLocation
  /-- Where the slash is of a tag that closes itself. -/
  selfClosing : Option SourceLocation
  /-- Where the first attribute begins. -/
  firstAttribute : Option SourceLocation
  /-- Where the tag begins. -/
  start : SourceLocation
  /-- Where the tag ends. -/
  stop : SourceLocation
  deriving DecidableEq, Repr, Inhabited

namespace Tag

/-- A tag in messages, without its attributes. -/
def wording (t : Tag) : String :=
  "<" ++ (if t.closing.isSome then "/" else "") ++ t.name.getD "" ++ ">"

end Tag

namespace Reader

variable {α : Type}

/-- Whether a character may begin a name. -/
def isNameStart (c : Char) : Bool := isIdentifierStart c || c = '$' || c = '_'

/-- Whether a character may stand in a name. -/
def isNamePart (c : Char) : Bool :=
  isIdentifierContinue c || c = '-' || c = '\u200c' || c = '\u200d'

/-- The text is at fault at a spot of a tag. -/
def crash (spot : TagSpot) : Reader α := unexpected (.unexpected · spot)

/-- Passes over spaces. -/
def spaces : Reader Unit := do
  let _ ← takeWhile Text.isBlank

/-- Reads a name, or a part of it, which must be followed by a space or one of `ends`. -/
def namePart (before inside : TagSpot) (ends : List Char) : Reader String := do
  match ← peek with
  | some g =>
    if !(isNameStart g.char) then crash before
    else
      advance
      let name := g :: (← takeWhile isNamePart)
      match ← peek with
      | some h => if Text.isBlank h.char || ends.contains h.char then return textOf name
                  else crash inside
      | none => crash inside
  | none => crash before

/-- Whether an attribute or the end of a tag comes next. -/
def atAttribute : Reader Bool := do
  match ← peek with
  | some g => return g.char = '/' || g.char = '>' || g.char = '\x7b' || isNameStart g.char
  | none => return false

/-- Fails at a spot unless an attribute or the end of a tag comes next. -/
def requireAttribute (spot : TagSpot) : Reader Unit := do
  if !(← atAttribute) then crash spot

/-- Reads the members of a name behind its first part, at most `count`. -/
def members : (count : Nat) → Reader String
  | 0 => return ""
  | count + 1 => do
    if ← accept '.' then
      spaces
      let member ← namePart .beforeMember .inMember ['.', '/', '>', '\x7b']
      spaces
      return "." ++ member ++ (← members count)
    else
      requireAttribute .afterMember
      return ""

/-- Reads the name of a tag. -/
def tagName (before : TagSpot) : Reader String := do
  let name ← namePart before .inName ['.', '/', ':', '>', '\x7b']
  spaces
  if (← peek).any (·.char = '.') then return name ++ (← members (← get).length)
  else if ← accept ':' then
    spaces
    let localName ← namePart .beforeLocal .inLocal ['/', '>', '\x7b']
    spaces
    requireAttribute .afterLocal
    return name ++ ":" ++ localName
  else
    requireAttribute .afterName
    return name

/-- A value between quotes without the spaces at the start of its lines. -/
def trimValue (lineStart : Bool) : List Glyph → List Glyph
  | [] => []
  | g :: rest =>
    if g.isEnding then g :: trimValue true rest
    else if lineStart && Text.isBlank g.char then trimValue true rest
    else g :: trimValue false rest

/-- Reads the value of an attribute. -/
def attributeValue : Reader JsxValue := do
  match ← peek with
  | none => crash .beforeValue
  | some g =>
    if g.char = '\x7b' then return .expression (← expression)
    else if g.char = '"' || g.char = '\'' then
      advance
      let value ← takeWhile (· ≠ g.char)
      if (← peek).isNone then throw (.exhausted (.unexpected none (.inValue g.char)) true)
      advance
      return .literal (dereference (textOf (trimValue false value)))
    else crash .beforeValue

/-- Whether a space comes next. -/
def atSpace : Reader Bool := do return (← peek).any fun g => Text.isBlank g.char

/-- Reads the value of an attribute behind its name, if it has one, and else what may follow a name. A
space may stand behind the sign between them only if the name is `local_`. -/
def initializer? (local_ : Bool) (spot : TagSpot) : Reader (Option JsxValue) := do
  if ← accept '=' then
    if !local_ && (← atSpace) then throw .refused
    spaces
    return some (← attributeValue)
  else
    requireAttribute spot
    return none

/-- Reads an attribute. -/
def tagAttribute : Reader JsxAttribute := do
  match ← peek with
  | none => crash .beforeAttribute
  | some g =>
    if g.char = '\x7b' then return .spread (← expression)
    else
      let name ← namePart .beforeAttribute .inAttribute ['/', ':', '=', '>', '\x7b']
      spaces
      if ← accept ':' then
        spaces
        let localName ← namePart .beforeLocalAttribute .inLocalAttribute ['/', '=', '>', '\x7b']
        spaces
        return .property (name ++ ":" ++ localName) (← initializer? true .afterLocalAttribute)
      else return .property name (← initializer? false .afterAttribute)

/-- Reads the rest of a tag behind its name, with at most `count` attributes. -/
def tagEnd (t : Tag) : (count : Nat) → Reader Tag
  | 0 => throw .refused
  | count + 1 => do
    spaces
    match ← peek with
    | none => crash .beforeAttribute
    | some g =>
      if g.char = '>' then
        advance
        return { t with
          attributes := t.attributes.reverse
          stop := { g.place with column := g.place.column + 1 } }
      else if g.char = '/' then
        advance
        spaces
        if (← peek).any (·.char = '>') then
          tagEnd { t with selfClosing := t.selfClosing.or (some g.place) } count
        else crash .afterSlash
      else
        let a ← tagAttribute
        tagEnd { t with
          attributes := a :: t.attributes
          firstAttribute := t.firstAttribute.or (some g.place) } count

/-- Reads a tag, whose angle bracket comes next. What has a blank or a line ending behind the bracket is
none. -/
def tag (start : SourceLocation) : Reader Tag := do
  advance
  if (← peek).any Glyph.isSpace then throw .refused
  spaces
  let slash ← peek
  let closing ← accept '/'
  if closing then spaces
  let t : Tag := ⟨none, [], if closing then slash.map Glyph.place else none, none, none, start, start⟩
  if (← peek).any (·.char = '>') then tagEnd t 1
  else
    let name ← tagName (if closing then .beforeClosingName else .beforeName)
    tagEnd { t with name := some name } ((← get).length + 1)

end Reader

end Manuscript.Markdown
