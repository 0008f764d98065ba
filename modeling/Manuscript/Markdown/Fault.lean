import Manuscript.Source.Location
import Manuscript.Text.Hex

/-!
# Faults of a source with components

Without components every source is valid Markdown. With them, expressions and tags can be malformed,
and tags have to be nested properly with each other and with the parts of the text.

## Main definitions

* `Markdown.TagSpot` — the spots of a tag where a character may be unexpected
* `Markdown.PartName` — what the parts are called that tags must not cross
* `Markdown.Problem` — what can be wrong
* `Markdown.Fault`, `Fault.message` — a problem with its place
-/

namespace Manuscript.Markdown

/-- A spot of a tag. -/
inductive TagSpot where
  /-- Before the name. -/
  | beforeName
  /-- Before the name of a closing tag. -/
  | beforeClosingName
  /-- In the name. -/
  | inName
  /-- After the name. -/
  | afterName
  /-- After a point in the name. -/
  | beforeMember
  /-- In a member behind a point. -/
  | inMember
  /-- After a member. -/
  | afterMember
  /-- After a colon in the name. -/
  | beforeLocal
  /-- In the part behind a colon. -/
  | inLocal
  /-- After the part behind a colon. -/
  | afterLocal
  /-- Before an attribute. -/
  | beforeAttribute
  /-- In the name of an attribute. -/
  | inAttribute
  /-- After the name of an attribute. -/
  | afterAttribute
  /-- After a colon in the name of an attribute. -/
  | beforeLocalAttribute
  /-- In the part behind the colon. -/
  | inLocalAttribute
  /-- After the part behind the colon. -/
  | afterLocalAttribute
  /-- Before the value of an attribute. -/
  | beforeValue
  /-- In a value between given quotes. -/
  | inValue (quote : Char)
  /-- After the slash of a tag that closes itself. -/
  | afterSlash
  deriving DecidableEq, Repr

namespace TagSpot

/-- The wording of a spot. -/
def name : TagSpot → String
  | beforeName | beforeClosingName => "before name"
  | inName => "in name"
  | afterName => "after name"
  | beforeMember => "before member name"
  | inMember => "in member name"
  | afterMember => "after member name"
  | beforeLocal => "before local name"
  | inLocal => "in local name"
  | afterLocal => "after local name"
  | beforeAttribute => "before attribute name"
  | inAttribute => "in attribute name"
  | afterAttribute => "after attribute name"
  | beforeLocalAttribute => "before local attribute name"
  | inLocalAttribute => "in local attribute name"
  | afterLocalAttribute => "after local attribute name"
  | beforeValue => "before attribute value"
  | inValue _ => "in attribute value"
  | afterSlash => "after self-closing slash"

/-- What is expected at the start of a name. -/
def nameStart : String := "a character that can start a name, such as a letter, `$`, or `_`"

/-- What is expected at the start of the name of an attribute. -/
def attributeStart : String :=
  "a character that can start an attribute name, such as a letter, `$`, or `_`"

/-- What is expected at the end of a name. -/
def nameEnd : String := "whitespace before attributes; or the end of the tag"

/-- What may stand in a name. -/
def nameCharacter : String := "a name character such as letters, digits, `$`, or `_`"

/-- What may stand in the name of an attribute. -/
def attributeCharacter : String :=
  "an attribute name character such as letters, digits, `$`, or `_`"

/-- What is expected at a spot. -/
def expectation : TagSpot → String
  | beforeName | beforeClosingName | beforeLocal => nameStart
  | inName | inMember | inLocal => nameCharacter ++ "; " ++ nameEnd
  | afterName | beforeMember | afterMember | afterLocal | beforeAttribute =>
    attributeStart ++ "; " ++ nameEnd
  | inAttribute | inLocalAttribute =>
    attributeCharacter ++ "; `=` to initialize a value; " ++ nameEnd
  | afterAttribute | beforeLocalAttribute | afterLocalAttribute =>
    attributeStart ++ "; `=` to initialize a value; or the end of the tag"
  | beforeValue =>
    "a character that can start an attribute value, such as `\"`, `'`, or `\x7b`"
  | inValue quote =>
    "a corresponding closing quote " ++
      (if quote = '"' then "`\"` (U+0022)" else "`'` (U+0027)")
  | afterSlash => "`>` to end the tag"

/-- A hint for a character that is often put at a spot by mistake. -/
def hint (spot : TagSpot) (c : Char) : String :=
  match spot, c with
  | beforeName, '!' => " (note: to create a comment in MDX, use `\x7b/* text */\x7d`)"
  | beforeClosingName, '/' | afterSlash, '*' | afterSlash, '/' =>
    " (note: JS comments in JSX tags are not supported in MDX)"
  | inName, '@' | inMember, '@' =>
    " (note: to create a link in MDX, use `[text](url)`)"
  | beforeLocal, c =>
    if c = '+' || ('/' ≤ c && c ≤ '9') then
      " (note: to create a link in MDX, use `[text](url)`)"
    else ""
  | beforeValue, '<' =>
    " (note: to use an element or fragment as a prop value in MDX, use `\x7b<element />\x7d`)"
  | _, _ => ""

end TagSpot

/-- What a part is called that tags must not cross. -/
inductive PartName where
  /-- A paragraph. -/
  | paragraph
  /-- Emphasis. -/
  | emphasis
  /-- Strong importance. -/
  | strong
  /-- Deleted text. -/
  | deletion
  /-- A quotation. -/
  | quotation
  /-- An item of a list. -/
  | item
  /-- A list without numbers. -/
  | bulletList
  /-- A list with numbers. -/
  | numberedList
  /-- A heading behind number signs. -/
  | heading
  /-- An underlined heading. -/
  | underlinedHeading
  /-- A link or an image. -/
  | label
  /-- A table. -/
  | table
  /-- A row of a table. -/
  | row
  /-- A cell of a row. -/
  | cell
  /-- The text of a footnote. -/
  | footnote
  deriving DecidableEq, Repr

/-- The wording of the name of a part. -/
def PartName.wording : PartName → String
  | paragraph => "Paragraph"
  | emphasis => "Emphasis"
  | strong => "Strong"
  | deletion => "GfmStrikethrough"
  | quotation => "BlockQuote"
  | item => "ListItem"
  | bulletList => "ListUnordered"
  | numberedList => "ListOrdered"
  | heading => "HeadingAtx"
  | underlinedHeading => "HeadingSetext"
  | label => "Label"
  | table => "GfmTable"
  | row => "GfmTableRow"
  | cell => "GfmTableCell"
  | footnote => "GfmFootnoteDefinition"

/-- What can be wrong with a source. -/
inductive Problem where
  /-- An expression has no closing brace. -/
  | openExpression
  /-- An expression goes on in a line that lacks the mark of a container. -/
  | lazyExpression
  /-- A tag goes on in a line that lacks the mark of a container. -/
  | lazyTag
  /-- A character, or the end, is unexpected at a spot of a tag. -/
  | unexpected (found : Option Char) (spot : TagSpot)
  /-- A closing tag stands where no tag is open. -/
  | nothingToClose
  /-- A closing tag has an attribute. -/
  | attributeInClosingTag
  /-- A closing tag closes itself. -/
  | slashInClosingTag
  /-- A closing tag has another name than the tag that is open. -/
  | wrongClosingTag (tag open_ : String) (opened : SourceLocation)
  /-- A closing tag stands in another part than the tag that is open. -/
  | crossingTag (tag : String) (part : PartName) (began : SourceLocation)
  /-- A tag is open at the end of the source or of a part. -/
  | openTag (tag : String) (opened : SourceLocation) (part : Option PartName)
  deriving DecidableEq, Repr

namespace Problem

/-- What is called a character in a message. Those that cannot be shown have their number only. -/
def characterWording (c : Char) : String :=
  let number := "U+" ++ Text.upperHexPadded 4 c.toNat
  if c = '\x60' then "`` \x60 `` (" ++ number ++ ")"
  else if '!' ≤ c && c ≤ '~' then "`" ++ c.toString ++ "` (" ++ number ++ ")"
  else number

/-- The wording of a problem. -/
def message : Problem → String
  | openExpression =>
    "Unexpected end of file in expression, expected a corresponding closing brace for `\x7b`"
  | lazyExpression => lazyLine "expression"
  | lazyTag => lazyLine "jsx"
  | unexpected found spot =>
    let what := match found with
      | some c => "character " ++ characterWording c
      | none => "end of file"
    let hint := match found with
      | some c => spot.hint c
      | none => ""
    "Unexpected " ++ what ++ " " ++ spot.name ++ ", expected " ++ spot.expectation ++ hint
  | nothingToClose => "Unexpected closing slash `/` in tag, expected an open tag first"
  | attributeInClosingTag =>
    "Unexpected attribute in closing tag, expected the end of the tag"
  | slashInClosingTag =>
    "Unexpected self-closing slash `/` in closing tag, expected the end of the tag"
  | wrongClosingTag tag open_ opened =>
    "Unexpected closing tag `" ++ tag ++ "`, expected corresponding closing tag for `" ++ open_ ++
      "` (" ++ opened.message ++ ")"
  | crossingTag tag part began =>
    "Expected the closing tag `" ++ tag ++ "` either before the start of `" ++ part.wording ++
      "` (" ++ began.message ++ "), or another opening tag after that start"
  | openTag tag opened part =>
    let place := match part with
      | some p => " before the end of `" ++ p.wording ++ "`"
      | none => ""
    "Expected a closing tag for `" ++ tag ++ "` (" ++ opened.message ++ ")" ++ place
where
  /-- The wording for a line that lacks the mark of a container. -/
  lazyLine (construct : String) : String :=
    "Unexpected lazy line in " ++ construct ++ " in container, expected line to be prefixed with " ++
      "`>` when in a block quote, whitespace when in a list, etc"

/-- The rule that a problem breaks. -/
def rule : Problem → String
  | openExpression | unexpected none _ => "unexpected-eof"
  | lazyExpression | lazyTag => "unexpected-lazy"
  | unexpected (some _) _ => "unexpected-character"
  | nothingToClose => "unexpected-closing-slash"
  | attributeInClosingTag => "unexpected-attribute"
  | slashInClosingTag => "unexpected-self-closing-slash"
  | wrongClosingTag _ _ _ | crossingTag _ _ _ | openTag _ _ _ => "end-tag-mismatch"

end Problem

/-- A problem with its place. -/
structure Fault where
  /-- What is wrong. -/
  problem : Problem
  /-- Where it is, or where it begins. -/
  start : SourceLocation
  /-- Where it ends, if it is more than a place. -/
  stop : Option SourceLocation := none
  deriving DecidableEq, Repr

/-- The wording of a fault: its place, what is wrong, and the rule. -/
def Fault.message (f : Fault) : String :=
  let place := match f.stop with
    | some stop => f.start.message ++ "-" ++ stop.message
    | none => f.start.message
  place ++ ": " ++ f.problem.message ++ " (markdown-rs:" ++ f.problem.rule ++ ")"

end Manuscript.Markdown
